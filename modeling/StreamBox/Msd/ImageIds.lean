import Mathlib.Algebra.BigOperators.Ring.List
import Mathlib.Algebra.Group.Nat.Defs
import Mathlib.Data.List.Induction
import Mathlib.Data.List.Nodup
import StreamBox.Lib.Utf8
import StreamBox.Msd.Controller

/-!
# The ids of the images

The id of an image is a hash of its name, which `list` computes anew in every call and `get` looks
for in such a list.

* **Hash** — `toNat_md5Hash`: a weighted sum of the bytes of the name as it is shown.
* **Identity** — `identity_iff`: ids tell the images of a directory apart, and a call with an id
  works on the image that has been listed with it, just when these sums differ and the names are
  UTF-8, without which the gadget is given another path.
* **Failure** — `two_names_one_id`
-/

namespace StreamBox.Msd.ImageIds

open StreamBox.Lib.Utf8

/-! ## The directory -/

/-- A name or a path, in the bytes that the file system has. -/
abbrev OsString := List UInt8

structure Metadata where
  size : Nat
  /-- The seconds since the epoch, where the file system has them. -/
  created : Option Nat
  deriving DecidableEq, Repr

structure Entry where
  fileName : OsString
  isFile : Bool
  /-- `none` is an error of `metadata`. -/
  metadata : Option Metadata
  deriving DecidableEq, Repr

/-- `list` shows the entry. -/
def Entry.isImage (e : Entry) : Bool := e.isFile && e.metadata.isSome

/-- The directory of the images; no two entries have one name. -/
structure ImagesDir where
  path : String
  entries : List Entry
  nodup : (entries.map (·.fileName)).Nodup

/-- The path of an entry. -/
def entryPath (path : String) (name : OsString) : OsString := encode path.toList ++ 0x2F :: name

/-! ## The image manager -/

inductive AppError
  | notFound (message : String)
  | internal (message : String)
  deriving DecidableEq, Repr

structure ImageInfo where
  id : String
  name : String
  path : OsString
  size : Nat
  /-- In nanoseconds since the epoch. -/
  createdAt : Int
  deriving DecidableEq, Repr

/-- Simple hash function for generating stable IDs -/
def md5Hash (s : List UInt8) : UInt64 :=
  s.zipIdx.foldl (fun hash (byte, i) => (hash + byte.toUInt64 * (UInt64.ofNat i + 1)) * 31) 0

/-- `DateTime::from_timestamp`, of whole seconds. -/
def fromTimestamp (secs : Int) : Option Int :=
  if -8334601228800 ≤ secs ∧ secs ≤ 8210266876799 then some (secs * 1000000000) else none

/-- The name that is shown. -/
def shownName (name : OsString) : String := String.ofList (fromUtf8Lossy name)

/-- `{:x}` -/
def lowerHex (n : Nat) : String := String.ofList (Nat.toDigits 16 n)

def imageId (name : OsString) : String :=
  lowerHex (md5Hash (encode (shownName name).toList)).toNat

/-- `now` is the clock at the call. -/
def getImageInfo (path : String) (now : Int) (e : Entry) : Option ImageInfo :=
  e.metadata.map fun metadata => {
    id := imageId e.fileName
    name := shownName e.fileName
    path := entryPath path e.fileName
    size := metadata.size
    createdAt := (metadata.created.bind fun secs =>
      -- `as i64`
      fromTimestamp (Int.bmod secs 18446744073709551616)).getD now }

/-- What a call of `list` meets: the errors of `ensure_dir` and of `read_dir`, the entries or their
errors in the order in which they are read, and the clock at each of them. -/
structure Reading where
  ensureDir : Option String := none
  readDir : Option String := none
  entries : List (Except String Entry)
  now : Nat → Int

def collect (path : String) (now : Nat → Int) : Nat → List (Except String Entry) →
    Except AppError (List ImageInfo)
  | _, [] => .ok []
  | _, .error e :: _ => .error (.internal ("Failed to read directory entry: " ++ e))
  | i, .ok entry :: rest =>
    (collect path now (i + 1) rest).map fun more =>
      (if entry.isFile then getImageInfo path (now i) entry else none).toList ++ more

/-- Sort by creation time (newest first) -/
def newestFirst (a b : ImageInfo) : Bool := decide (b.createdAt ≤ a.createdAt)

def list (path : String) (r : Reading) : Except AppError (List ImageInfo) :=
  r.ensureDir.elim
    (r.readDir.elim
      ((collect path r.now 0 r.entries).map fun images => images.mergeSort newestFirst)
      fun e => .error (.internal ("Failed to read images directory: " ++ e)))
    fun e => .error (.internal ("Failed to create images directory: " ++ e))

def get (path : String) (r : Reading) (id : String) : Except AppError ImageInfo :=
  (list path r).bind fun images =>
    (images.find? fun image => image.id == id).elim
      (.error (.notFound ("Image not found: " ++ id))) .ok

/-- The path of the file that is deleted; `removeFile` gives the error for a path. -/
def delete (path : String) (r : Reading) (removeFile : OsString → Option String) (id : String) :
    Except AppError OsString :=
  (get path r id).bind fun image =>
    (removeFile image.path).elim (.ok image.path) fun e =>
      .error (.internal ("Failed to delete image: " ++ e))

/-- The path comes to the gadget as `to_string_lossy` shows it. -/
def ImageInfo.forController (image : ImageInfo) : Msd.ImageInfo where
  id := image.id
  name := image.name
  path := String.ofList (fromUtf8Lossy image.path)
  size := image.size

/-- `msd_connect` in image mode: what it asks the controller for. -/
def connect (path : String) (r : Reading) (id : String) (cdrom readOnly : Option Bool) :
    Except AppError Request :=
  (get path r id).map fun image =>
    .image image.forController (cdrom.getD false) (readOnly.getD false)

/-! ## The property and its condition -/

/-- The call reads this directory, in any order and at any time. -/
def Reads (r : Reading) (dir : ImagesDir) : Prop :=
  r.ensureDir = none ∧ r.readDir = none ∧
    ∃ order : List Entry, order.Perm dir.entries ∧ r.entries = order.map .ok

/-- Ids tell the images apart, a file keeps its id whatever else is in the directory, and the calls
with an id work on the file that has been listed with it. -/
structure Identity (dir : ImagesDir) : Prop where
  distinct : ∀ r images, Reads r dir → list dir.path r = .ok images →
    (images.map (·.path)).Nodup ∧ (images.map (·.id)).Nodup
  stable : ∀ dir' r r' images images' image image', dir'.path = dir.path → Reads r dir →
    Reads r' dir' → list dir.path r = .ok images → list dir'.path r' = .ok images' →
    image ∈ images → image' ∈ images' → image.path = image'.path → image.id = image'.id
  get : ∀ r r' images image, Reads r dir → Reads r' dir → list dir.path r = .ok images →
    image ∈ images → ∃ found, get dir.path r' image.id = .ok found ∧ found.path = image.path
  delete : ∀ r r' images image removeFile, Reads r dir → Reads r' dir →
    list dir.path r = .ok images → image ∈ images →
    delete dir.path r' removeFile image.id =
      (removeFile image.path).elim (.ok image.path) fun e =>
        .error (.internal ("Failed to delete image: " ++ e))
  connect : ∀ r r' images image cdrom readOnly drivePath, Reads r dir → Reads r' dir →
    list dir.path r = .ok images → image ∈ images →
    ∃ request, connect dir.path r' image.id cdrom readOnly = .ok request ∧
      encode (request.config drivePath).file.toList = image.path

/-- `Σ (i + 1) · bᵢ · 31ⁿ⁻ⁱ` of the `n` bytes of a name as it is shown. -/
def weight (s : List UInt8) : Nat :=
  (s.zipIdx.map fun b => (b.2 + 1) * b.1.toNat * 31 ^ (s.length - b.2)).sum

/-- The sums of two images differ in their last 64 bits, and the names are UTF-8. -/
structure Distinct (dir : ImagesDir) : Prop where
  weights : ∀ e ∈ dir.entries, ∀ e' ∈ dir.entries, e.isImage = true → e'.isImage = true →
    e.fileName ≠ e'.fileName →
    weight (encode (fromUtf8Lossy e.fileName)) % 2 ^ 64 ≠
      weight (encode (fromUtf8Lossy e'.fileName)) % 2 ^ 64
  utf8 : ∀ e ∈ dir.entries, e.isImage = true → ∃ chars, encode chars = e.fileName

/-! ## The hash -/

theorem md5Hash_concat (s : List UInt8) (b : UInt8) :
    md5Hash (s ++ [b]) = (md5Hash s + b.toUInt64 * (UInt64.ofNat s.length + 1)) * 31 := by
  rw [md5Hash, List.zipIdx_append, List.foldl_append, Nat.zero_add]
  rfl

theorem weight_concat (s : List UInt8) (b : UInt8) :
    weight (s ++ [b]) = (weight s + b.toNat * (s.length + 1)) * 31 := by
  have hold : s.zipIdx.map (fun b' => (b'.2 + 1) * b'.1.toNat * 31 ^ ((s ++ [b]).length - b'.2)) =
      s.zipIdx.map fun b' => (b'.2 + 1) * b'.1.toNat * 31 ^ (s.length - b'.2) * 31 := by
    refine List.map_congr_left fun b' hmem => ?_
    have hi := List.snd_lt_of_mem_zipIdx hmem
    rw [List.length_append, List.length_singleton,
      show s.length + 1 - b'.2 = (s.length - b'.2) + 1 from by omega, Nat.pow_succ, ← Nat.mul_assoc]
  rw [weight, List.zipIdx_append, List.map_append, List.sum_append, hold, List.sum_map_mul_right,
    Nat.add_mul]
  congr 1
  rw [Nat.zero_add, List.zipIdx_singleton, List.map_singleton, List.sum_singleton,
    List.length_append, List.length_singleton, Nat.add_sub_cancel_left, Nat.pow_one,
    Nat.mul_comm (s.length + 1)]

theorem toNat_md5Hash (s : List UInt8) : (md5Hash s).toNat = weight s % 2 ^ 64 := by
  induction s using List.reverseRecOn with
  | nil => rfl
  | append_singleton s b ih =>
    have hbyte : b.toUInt64.toNat = b.toNat := rfl
    have hplace : (UInt64.ofNat s.length + 1).toNat = (s.length + 1) % 2 ^ 64 := by
      rw [UInt64.toNat_add, UInt64.toNat_ofNat', show (1 : UInt64).toNat = 1 from rfl]
      omega
    rw [md5Hash_concat, weight_concat, UInt64.toNat_mul, UInt64.toNat_add, UInt64.toNat_mul,
      ih, hbyte, hplace, show (31 : UInt64).toNat = 31 from rfl]
    simp only [Nat.mod_mul_mod, Nat.mul_mod_mod, Nat.mod_add_mod, Nat.add_mod_mod]

/-! ## The id -/

theorem toDigits_inj {m n : Nat} (h : Nat.toDigits 16 m = Nat.toDigits 16 n) : m = n := by
  induction m using Nat.strong_induction_on generalizing n with
  | _ m ih =>
    have hdigit : ∀ a < 16, ∀ b < 16, Nat.digitChar a = Nat.digitChar b → a = b := by decide
    rw [Nat.toDigits_eq_if (by decide), Nat.toDigits_eq_if (n := n) (by decide)] at h
    split at h <;> rename_i hm <;> split at h <;> rename_i hn
    · exact hdigit m hm n hn (List.cons.inj h).1
    · have hnil := (List.append_eq_singleton_iff.mp h.symm).resolve_right
        fun hboth => absurd hboth.2 (List.cons_ne_nil _ _)
      exact absurd hnil.1 Nat.toDigits_ne_nil
    · have hnil := (List.append_eq_singleton_iff.mp h).resolve_right
        fun hboth => absurd hboth.2 (List.cons_ne_nil _ _)
      exact absurd hnil.1 Nat.toDigits_ne_nil
    · obtain ⟨hdiv, hlast⟩ := List.append_inj' h rfl
      have hquot : m / 16 = n / 16 := ih _ (by omega) hdiv
      have hmod : m % 16 = n % 16 :=
        hdigit _ (Nat.mod_lt _ (by decide)) _ (Nat.mod_lt _ (by decide)) (List.cons.inj hlast).1
      omega

/-- Two names have one id just when their sums agree. -/
theorem imageId_eq_iff (a b : OsString) :
    imageId a = imageId b ↔ weight (encode (fromUtf8Lossy a)) % 2 ^ 64 =
      weight (encode (fromUtf8Lossy b)) % 2 ^ 64 := by
  simp only [imageId, lowerHex, shownName, String.toList_ofList, toNat_md5Hash]
  constructor
  · intro h
    exact toDigits_inj (String.ofList_injective h)
  · intro h
    rw [h]

/-! ## Listing -/

/-- What identifies an image in a list. -/
def ImageInfo.key (image : ImageInfo) : String × OsString := (image.id, image.path)

def Entry.key (path : String) (e : Entry) : String × OsString :=
  (imageId e.fileName, entryPath path e.fileName)

theorem collect_ok (path : String) (now : Nat → Int) (i : Nat) (order : List Entry) :
    ∃ images, collect path now i (order.map .ok) = .ok images ∧
      images.map ImageInfo.key = (order.filter Entry.isImage).map (Entry.key path) := by
  induction order generalizing i with
  | nil => exact ⟨[], rfl, rfl⟩
  | cons e order ih =>
    obtain ⟨more, hmore, hkeys⟩ := ih (i + 1)
    refine ⟨_, by rw [List.map_cons, collect, hmore]; rfl, ?_⟩
    rw [List.map_append, hkeys]
    obtain ⟨fileName, isFile, metadata⟩ := e
    cases isFile with
    | false => rfl
    | true =>
      cases metadata with
      | none => rfl
      | some metadata => rfl

/-- The list has the images of the directory, each with its id and its path. -/
theorem list_ok {dir : ImagesDir} {r : Reading} (h : Reads r dir) :
    ∃ images, list dir.path r = .ok images ∧
      (images.map ImageInfo.key).Perm
        ((dir.entries.filter Entry.isImage).map (Entry.key dir.path)) := by
  obtain ⟨hensure, hread, order, horder, hentries⟩ := h
  obtain ⟨images, himages, hkeys⟩ := collect_ok dir.path r.now 0 order
  refine ⟨images.mergeSort newestFirst, ?_, ?_⟩
  · rw [list, hensure, hread, hentries]
    change (collect dir.path r.now 0 (order.map .ok)).map _ = _
    rw [himages]
    rfl
  · have hsorted := (List.mergeSort_perm images newestFirst).map ImageInfo.key
    rw [hkeys] at hsorted
    exact hsorted.trans ((horder.filter _).map _)

section Listed

variable {dir : ImagesDir} {r : Reading} {images : List ImageInfo}

theorem keys_of_list (h : Reads r dir) (hlist : list dir.path r = .ok images) :
    (images.map ImageInfo.key).Perm
      ((dir.entries.filter Entry.isImage).map (Entry.key dir.path)) := by
  obtain ⟨listed, hlisted, hkeys⟩ := list_ok h
  rw [hlist] at hlisted
  cases hlisted
  exact hkeys

theorem entry_of_image (h : Reads r dir) (hlist : list dir.path r = .ok images)
    {image : ImageInfo} (hmem : image ∈ images) :
    ∃ e ∈ dir.entries, e.isImage = true ∧ image.id = imageId e.fileName ∧
      image.path = entryPath dir.path e.fileName := by
  have hkey := (keys_of_list h hlist).mem_iff.mp (List.mem_map_of_mem hmem)
  obtain ⟨e, he, hsame⟩ := List.mem_map.mp hkey
  obtain ⟨hentry, himage⟩ := List.mem_filter.mp he
  obtain ⟨hid, hpath⟩ := Prod.mk.inj hsame
  exact ⟨e, hentry, himage, hid.symm, hpath.symm⟩

theorem image_of_entry (h : Reads r dir) (hlist : list dir.path r = .ok images) {e : Entry}
    (he : e ∈ dir.entries) (himage : e.isImage = true) :
    ∃ image ∈ images, image.id = imageId e.fileName ∧
      image.path = entryPath dir.path e.fileName := by
  have hkey := (keys_of_list h hlist).mem_iff.mpr
    (List.mem_map_of_mem (List.mem_filter.mpr ⟨he, himage⟩))
  obtain ⟨image, hmem, hsame⟩ := List.mem_map.mp hkey
  obtain ⟨hid, hpath⟩ := Prod.mk.inj hsame
  exact ⟨image, hmem, hid, hpath⟩

theorem entryPath_inj {path : String} {a b : OsString} (h : entryPath path a = entryPath path b) :
    a = b :=
  (List.cons.inj (List.append_cancel_left h)).2

/-- The images of a list have different paths. -/
theorem nodup_paths (h : Reads r dir) (hlist : list dir.path r = .ok images) :
    (images.map (·.path)).Nodup := by
  have hpaths : (images.map (·.path)).Perm
      ((dir.entries.filter Entry.isImage).map fun e => entryPath dir.path e.fileName) := by
    have hkeys := (keys_of_list h hlist).map Prod.snd
    rw [List.map_map, List.map_map] at hkeys
    exact hkeys
  refine hpaths.nodup_iff.mpr ?_
  refine List.Nodup.map_on ?_ (List.Nodup.of_map _ dir.nodup |>.filter _)
  intro e he e' he' hsame
  exact List.inj_on_of_nodup_map dir.nodup (List.mem_of_mem_filter he)
    (List.mem_of_mem_filter he') (entryPath_inj hsame)

/-- Under the condition they have different ids. -/
theorem nodup_ids (hdistinct : Distinct dir) (h : Reads r dir)
    (hlist : list dir.path r = .ok images) : (images.map (·.id)).Nodup := by
  have hids : (images.map (·.id)).Perm
      ((dir.entries.filter Entry.isImage).map fun e => imageId e.fileName) := by
    have hkeys := (keys_of_list h hlist).map Prod.fst
    rw [List.map_map, List.map_map] at hkeys
    exact hkeys
  refine hids.nodup_iff.mpr ?_
  refine List.Nodup.map_on ?_ (List.Nodup.of_map _ dir.nodup |>.filter _)
  intro e he e' he' hsame
  obtain ⟨hentry, himage⟩ := List.mem_filter.mp he
  obtain ⟨hentry', himage'⟩ := List.mem_filter.mp he'
  by_contra hne
  refine hdistinct.weights e hentry e' hentry' himage himage' ?_ ((imageId_eq_iff _ _).mp hsame)
  intro hname
  exact hne (List.inj_on_of_nodup_map dir.nodup hentry hentry' hname)

end Listed

/-- `get` finds the only image with the id. -/
theorem get_of_nodup {path : String} {r : Reading} {images : List ImageInfo} {image : ImageInfo}
    (hlist : list path r = .ok images) (hnodup : (images.map (·.id)).Nodup)
    (hmem : image ∈ images) : get path r image.id = .ok image := by
  have hfind : images.find? (fun other => other.id == image.id) = some image := by
    cases hfound : images.find? (fun other => other.id == image.id) with
    | none =>
      have hnone := List.find?_eq_none.mp hfound image hmem
      exact absurd (beq_self_eq_true _) hnone
    | some found =>
      have hid := List.find?_some hfound
      rw [List.inj_on_of_nodup_map hnodup (List.mem_of_find?_eq_some hfound) hmem
        (eq_of_beq hid)]
  rw [get, hlist]
  change (images.find? fun other => other.id == image.id).elim _ _ = _
  rw [hfind]
  rfl

/-- What `get` gives in another reading for an image that has been listed. -/
theorem get_listed {dir : ImagesDir} (hdistinct : Distinct dir) {r r' : Reading}
    {images : List ImageInfo} {image : ImageInfo} (h : Reads r dir) (h' : Reads r' dir)
    (hlist : list dir.path r = .ok images) (hmem : image ∈ images) :
    ∃ found, get dir.path r' image.id = .ok found ∧ found.path = image.path := by
  obtain ⟨e, he, himage, hid, hpath⟩ := entry_of_image h hlist hmem
  obtain ⟨images', hlist', -⟩ := list_ok h'
  obtain ⟨found, hfound, hid', hpath'⟩ := image_of_entry h' hlist' he himage
  refine ⟨found, ?_, hpath'.trans hpath.symm⟩
  rw [hid, ← hid']
  exact get_of_nodup hlist' (nodup_ids hdistinct h' hlist') hfound

/-! ## The path that the gadget is given -/

/-- A path comes to the gadget as it is just when its name is UTF-8. -/
theorem shown_entryPath_iff (path : String) (name : OsString) :
    encode (fromUtf8Lossy (entryPath path name)) = entryPath path name ↔
      ∃ chars, encode chars = name := by
  have hslash : (0x2F :: name : OsString) = encode ['/'] ++ name := rfl
  rw [entryPath, hslash, ← List.append_assoc, ← encode_append, fromUtf8Lossy_encode_append,
    encode_append, List.append_cancel_left_eq, encode_fromUtf8Lossy_iff]

/-! ## Identity -/

/-- The directory can be read. -/
def reading (dir : ImagesDir) : Reading where
  entries := dir.entries.map .ok
  now _ := 0

theorem reads_reading (dir : ImagesDir) : Reads (reading dir) dir :=
  ⟨rfl, rfl, dir.entries, .refl _, rfl⟩

theorem identity_of_distinct {dir : ImagesDir} (hdistinct : Distinct dir) : Identity dir where
  distinct r images h hlist := ⟨nodup_paths h hlist, nodup_ids hdistinct h hlist⟩
  stable dir' r r' images images' image image' hdir h h' hlist hlist' hmem hmem' hpath := by
    obtain ⟨e, -, -, hid, hsame⟩ := entry_of_image h hlist hmem
    obtain ⟨e', -, -, hid', hsame'⟩ := entry_of_image h' hlist' hmem'
    rw [hsame, hsame', hdir] at hpath
    rw [hid, hid', entryPath_inj hpath]
  get r r' images image h h' hlist hmem := get_listed hdistinct h h' hlist hmem
  delete r r' images image removeFile h h' hlist hmem := by
    obtain ⟨found, hfound, hpath⟩ := get_listed hdistinct h h' hlist hmem
    rw [delete, hfound, ← hpath]
    rfl
  connect r r' images image cdrom readOnly drivePath h h' hlist hmem := by
    obtain ⟨found, hfound, hpath⟩ := get_listed hdistinct h h' hlist hmem
    obtain ⟨e, he, himage, -, hentry⟩ := entry_of_image h hlist hmem
    refine ⟨.image found.forController (cdrom.getD false) (readOnly.getD false), ?_, ?_⟩
    · rw [connect, hfound]
      rfl
    · have hfile : ((Request.image found.forController (cdrom.getD false)
          (readOnly.getD false)).config drivePath).file = found.forController.path := by
        rw [Request.config]
        split <;> rfl
      rw [hfile, ImageInfo.forController, String.toList_ofList, hpath, hentry]
      exact (shown_entryPath_iff _ _).mpr (hdistinct.utf8 e he himage)

theorem distinct_of_identity {dir : ImagesDir} (h : Identity dir) : Distinct dir := by
  have hread := reads_reading dir
  obtain ⟨images, hlist, -⟩ := list_ok hread
  refine ⟨fun e he e' he' himage himage' hne hweight => ?_, fun e he himage => ?_⟩
  · obtain ⟨image, hmem, hid, hpath⟩ := image_of_entry hread hlist he himage
    obtain ⟨image', hmem', hid', hpath'⟩ := image_of_entry hread hlist he' himage'
    have hsame : image.id = image'.id := by
      rw [hid, hid']
      exact (imageId_eq_iff _ _).mpr hweight
    have himages := List.inj_on_of_nodup_map (h.distinct _ _ hread hlist).2 hmem hmem' hsame
    rw [himages, hpath'] at hpath
    exact hne (entryPath_inj hpath).symm
  · obtain ⟨image, hmem, -, hpath⟩ := image_of_entry hread hlist he himage
    obtain ⟨request, hrequest, hfile⟩ :=
      h.connect _ _ _ _ none none "" hread hread hlist hmem
    obtain ⟨found, hfound, hsame⟩ := h.get _ _ _ _ hread hread hlist hmem
    rw [connect, hfound] at hrequest
    cases hrequest
    change encode (String.ofList (fromUtf8Lossy found.path)).toList = image.path at hfile
    rw [String.toList_ofList, hsame, hpath] at hfile
    exact (shown_entryPath_iff _ _).mp hfile

/-- When ids identify the images of a directory. -/
theorem identity_iff (dir : ImagesDir) : Identity dir ↔ Distinct dir :=
  ⟨distinct_of_identity, identity_of_distinct⟩

/-- A directory with the images `Ap` and `CQ`. -/
def twoImages : ImagesDir where
  path := "/images"
  entries := [⟨[0x41, 0x70], true, some ⟨1, some 0⟩⟩, ⟨[0x43, 0x51], true, some ⟨2, some 0⟩⟩]
  nodup := by decide

/-- The two images have one id. -/
theorem two_names_one_id : ¬ Identity twoImages := by
  intro h
  have hread := reads_reading twoImages
  obtain ⟨images, hlist, hkeys⟩ := list_ok hread
  have hids := (h.distinct _ _ hread hlist).2
  have hperm := hkeys.map Prod.fst
  rw [List.map_map] at hperm
  have hnodup := hperm.nodup_iff.mp hids
  have hsame : imageId [0x41, 0x70] = imageId [0x43, 0x51] := by decide +kernel
  exact (List.nodup_cons.mp hnodup).1 (List.mem_singleton.mpr hsame)

end StreamBox.Msd.ImageIds
