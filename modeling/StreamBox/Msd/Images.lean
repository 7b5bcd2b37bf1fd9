import Mathlib.Logic.Function.Basic
import StreamBox.Config.Schema
import StreamBox.Lib.Slots
import StreamBox.Lib.TSys

/-!
# Uploads and downloads of images

`create_from_multipart_field` and `download_from_url` write a temporary file in the directory of
the images and rename it when it is complete; no lock is held. What a call does from one await to
the next is a step, and any number of uploads and downloads take their steps in any order, beside
`cancel_download` and the deletion of files. The uuids of the temporary files and of the downloads
are the places of their calls in the list of all calls.
-/

namespace StreamBox.Msd.Images

open StreamBox.Lib StreamBox.Config

/-! ## File names -/

/-- Maximum image size (32 GB) -/
def maxImageSize : Nat := 32 * 1024 * 1024 * 1024

/-- The characters `/ \ NUL : * ? " < > |`. -/
def isReplaced (c : Char) : Bool :=
  [0x2F, 0x5C, 0, 0x3A, 0x2A, 0x3F, 0x22, 0x3C, 0x3E, 0x7C].contains c.toNat

/-- The characters of the first `n` bytes; none where the cut is inside a character. -/
def takeBytes (n : Nat) : List Char → Option (List Char)
  | [] => if n = 0 then some [] else none
  | c :: rest =>
    if n = 0 then some []
    else if c.utf8Size ≤ n then (takeBytes (n - c.utf8Size) rest).map (c :: ·)
    else none

/-- `none` is the panic of a cut inside a character. -/
def sanitizeFilename (name : String) : Option String :=
  let name := (trimMatches isWhitespace name).toList
  let name := name.map fun c => if isReplaced c then '_' else c
  let name := name.dropWhile (· == '.')
  if (String.ofList name).utf8ByteSize > 255 then (takeBytes 255 name).map String.ofList
  else some (String.ofList name)

/-- A name in the directory: one of a temporary file, with its uuid, or any other. A sanitized
name begins with no dot, as those of the temporary files do. -/
inductive FileName
  | upload (uuid : Nat)
  | download (uuid : Nat)
  | named (name : String)
  deriving DecidableEq, Repr

theorem head_takeBytes {n : Nat} {chars taken : List Char} (h : takeBytes n chars = some taken) :
    taken = [] ∨ taken.head? = chars.head? := by
  cases chars with
  | nil =>
    rw [takeBytes] at h
    split at h
    · cases h
      exact .inl rfl
    · cases h
  | cons c rest =>
    rw [takeBytes] at h
    split at h
    · cases h
      exact .inl rfl
    · split at h
      · obtain ⟨more, -, rfl⟩ := Option.map_eq_some_iff.mp h
        exact .inr rfl
      · cases h

theorem sanitizeFilename_visible {name clean : String} (h : sanitizeFilename name = some clean) :
    clean.toList.head? ≠ some '.' := by
  simp only [sanitizeFilename] at h
  generalize (trimMatches isWhitespace name).toList.map (fun c => if isReplaced c then '_' else c) =
    chars at h
  have hhead : (chars.dropWhile (· == '.')).head? ≠ some '.' := by
    intro hdot
    have := List.head?_dropWhile_not (· == '.') chars
    rw [hdot] at this
    simp at this
  split at h
  · obtain ⟨taken, htaken, rfl⟩ := Option.map_eq_some_iff.mp h
    rw [String.toList_ofList]
    rcases head_takeBytes htaken with rfl | hsame
    · simp
    · rw [hsame]
      exact hhead
  · cases h
    rw [String.toList_ofList]
    exact hhead

/-! ## The directory -/

structure File where
  bytes : List UInt8
  /-- The call that has created it. -/
  writer : Option Nat
  deriving DecidableEq, Repr

/-- `list` shows every file, also the hidden ones. -/
abbrev Directory := FileName → Option File

/-- What a step does with the files. -/
inductive Effect
  | none
  | create
  | append (bytes : List UInt8)
  | remove
  | rename (name : String)
  deriving DecidableEq, Repr

/-- The directory after a step of the call `i` with this temporary file. A file that others have
removed takes nothing more. -/
def Effect.apply (images : Directory) (i : Nat) (temp : FileName) : Effect → Directory
  | none => images
  | create => Function.update images temp (some ⟨[], some i⟩)
  | append bytes =>
    Function.update images temp ((images temp).map fun file =>
      { file with bytes := file.bytes ++ bytes })
  | remove => Function.update images temp Option.none
  | rename name =>
    Function.update (Function.update images temp Option.none) (.named name) (images temp)

/-- The removal of a temporary file after an error, whose own errors are ignored; `bytes` have come
into the file before. -/
def cleanedUp (bytes : List UInt8) (cleanup : Bool) : Effect :=
  if cleanup then .remove else .append bytes

/-! ## Where the calls are -/

/-- `create_from_multipart_field` -/
inductive Upload
  | check | create
  | chunks (bytesWritten : Nat)
  | flush | rename | info
  deriving DecidableEq, Repr

/-- `download_image` and its task, which is in `download_from_url` from `head` to `info`;
`placed` says that the image has come to its name. -/
inductive Download
  | spawn | head
  | get (name : String) (totalSize : Option Nat)
  | create (name : String) (contentLength : Option Nat)
  | chunks (name : String) (contentLength : Option Nat)
  | flush (name : String) (contentLength : Option Nat)
  | verify (name : String) (contentLength : Option Nat)
  | rename (name : String)
  | info (name : String)
  | unregister (placed : Bool)
  deriving DecidableEq, Repr

inductive Call
  | upload (name : String) (pc : Upload)
  | uploaded (ok : Bool)
  | download (filename : Option String) (pc : Download)
  /-- The task of a download has ended, or has panicked. -/
  | ended
  deriving DecidableEq, Repr

/-- What a step meets. -/
inductive Io
  | ok
  | fails
  /-- The answer to `HEAD`: the name that it or the URL gives, and the size. -/
  | head (name : String) (totalSize : Option Nat)
  | length (contentLength : Option Nat)
  | chunk (bytes : List UInt8)
  /-- A chunk of which only `n` bytes are written. -/
  | short (bytes : List UInt8) (n : Nat)
  deriving DecidableEq, Repr

/-! ## Steps of the calls -/

/-- An upload begins, unless its name is invalid. -/
def Upload.begin (name : String) : Call :=
  match sanitizeFilename name with
  | none => .uploaded false
  | some name => if name = "" then .uploaded false else .upload name .check

/-- A step of an upload; the file grows by the chunks, whose total is limited. -/
def Upload.next (images : Directory) (i : Nat) (name : String) (cleanup : Bool) :
    Upload → Io → Option (Effect × Call)
  | .check, _ =>
    some (.none, if (images (.named name)).isSome then .uploaded false else .upload name .create)
  | .create, .ok => some (.create, .upload name (.chunks 0))
  | .create, .fails => some (.none, .uploaded false)
  | .chunks _, .ok => some (.none, .upload name .flush)
  | .chunks _, .fails => some (.none, .uploaded false)
  | .chunks bytesWritten, .chunk bytes =>
    if bytesWritten + bytes.length > maxImageSize then some (cleanedUp [] cleanup, .uploaded false)
    else some (.append bytes, .upload name (.chunks (bytesWritten + bytes.length)))
  | .chunks bytesWritten, .short bytes n =>
    if bytesWritten + bytes.length > maxImageSize then some (cleanedUp [] cleanup, .uploaded false)
    else some (.append (bytes.take n), .uploaded false)
  | .flush, .ok => some (.none, .upload name .rename)
  | .flush, .fails => some (.none, .uploaded false)
  | .rename, .ok =>
    if (images (.upload i)).isSome then some (.rename name, .upload name .info)
    else some (cleanedUp [] cleanup, .uploaded false)
  | .rename, .fails => some (cleanedUp [] cleanup, .uploaded false)
  | .info, .ok => some (.none, .uploaded (images (.named name)).isSome)
  | .info, .fails => some (.none, .uploaded false)
  | _, _ => none

/-- The name that the answer to `HEAD` leads to, in the order of the checks. -/
def Download.named (images : Directory) (filename : Option String) (name : String)
    (totalSize : Option Nat) : Call :=
  if totalSize.any (· > maxImageSize) then .download filename (.unregister false)
  else
    match sanitizeFilename (filename.getD name) with
    | none => .ended
    | some name =>
      if name = "" ∨ (images (.named name)).isSome then .download filename (.unregister false)
      else .download filename (.get name totalSize)

/-- A step of a download. -/
def Download.next (images : Directory) (i : Nat) (filename : Option String) (cleanup : Bool) :
    Download → Io → Option (Effect × Call)
  | .spawn, _ => some (.none, .download filename .head)
  | .head, .head name totalSize => some (.none, Download.named images filename name totalSize)
  | .get name totalSize, .length contentLength =>
    some (.none, .download filename (.create name (contentLength.or totalSize)))
  | .create name contentLength, .ok =>
    some (.create, .download filename (.chunks name contentLength))
  | .chunks name contentLength, .ok =>
    some (.none, .download filename (.flush name contentLength))
  | .chunks name contentLength, .chunk bytes =>
    some (.append bytes, .download filename (.chunks name contentLength))
  | .chunks _ _, .short bytes n =>
    some (cleanedUp (bytes.take n) cleanup, .download filename (.unregister false))
  | .flush name contentLength, .ok =>
    some (.none, .download filename (.verify name contentLength))
  | .verify name contentLength, .ok =>
    match images (.download i) with
    | none => some (.none, .download filename (.unregister false))
    | some file =>
      if contentLength.any (· ≠ file.bytes.length) then
        some (cleanedUp [] cleanup, .download filename (.unregister false))
      else some (.none, .download filename (.rename name))
  | .rename name, .ok =>
    if (images (.download i)).isSome then some (.rename name, .download filename (.info name))
    else some (cleanedUp [] cleanup, .download filename (.unregister false))
  | .rename _, .fails => some (cleanedUp [] cleanup, .download filename (.unregister false))
  | .info _, .ok | .info _, .fails => some (.none, .download filename (.unregister true))
  | .unregister _, _ => some (.none, .ended)
  | .head, .fails | .get _ _, .fails | .create _ _, .fails | .chunks _ _, .fails
  | .flush _ _, .fails | .verify _ _, .fails =>
    some (.none, .download filename (.unregister false))
  | _, _ => none

def Call.next (images : Directory) (i : Nat) (io : Io) (cleanup : Bool) :
    Call → Option (Effect × Call)
  | .upload name pc => pc.next images i name cleanup io
  | .download filename pc => pc.next images i filename cleanup io
  | .uploaded _ | .ended => none

/-- The temporary file of the call `i`. -/
def Call.temp (i : Nat) : Call → FileName
  | .upload _ _ | .uploaded _ => .upload i
  | .download _ _ | .ended => .download i

/-- The step of the call takes its id out of the active downloads. -/
def Call.unregisters : Call → Bool
  | .download _ (.unregister _) => true
  | _ => false

/-! ## Runs -/

structure State where
  images : Directory
  calls : List Call := []
  /-- The active downloads. -/
  downloads : List Nat := []
  /-- The downloads that `cancel_download` has reported as cancelled. -/
  cancelled : List Nat := []

/-- What happens. -/
inductive Event
  | upload (name : String)
  | download (filename : Option String)
  | cancel (i : Nat)
  | delete (name : FileName)
  | advance (i : Nat) (io : Io) (cleanup : Bool)
  deriving DecidableEq, Repr

def step (s : State) : Event → Option State
  | .upload name => some { s with calls := s.calls ++ [Upload.begin name] }
  | .download filename =>
    some { s with
      calls := s.calls ++ [.download filename .spawn]
      downloads := s.downloads ++ [s.calls.length] }
  | .cancel i =>
    -- the token is cancelled, but the task has never been given it
    if i ∈ s.downloads then
      some { s with downloads := s.downloads.filter (· ≠ i), cancelled := s.cancelled ++ [i] }
    else some s
  | .delete name => some { s with images := Function.update s.images name none }
  | .advance i io cleanup =>
    s.calls[i]?.bind fun call =>
      (call.next s.images i io cleanup).map fun after =>
        { s with
          images := after.1.apply s.images i (call.temp i)
          calls := s.calls.set i after.2
          downloads :=
            if call.unregisters then s.downloads.filter (· ≠ i) else s.downloads }

/-- The program begins with images of former runs. -/
def Init (s : State) : Prop :=
  (∀ name file, s.images name = some file → file.writer = none ∧ ∃ n, name = .named n) ∧
    s.calls = [] ∧ s.downloads = [] ∧ s.cancelled = []

def system : TSys State Event :=
  .ofFn Init step

/-- An empty directory. -/
def empty : State where
  images := fun _ => none

theorem init_empty : Init empty :=
  ⟨fun _ _ hfile => absurd hfile (by simp [empty]), rfl, rfl, rfl⟩

/-! ## Whose files there are -/

/-- A file of the call `i` can be under this name while the call is here. -/
def Call.holds (i : Nat) (name : FileName) : Call → Prop
  | .upload _ .check | .upload _ .create => False
  | .upload _ (.chunks _) | .upload _ .flush | .upload _ .rename => name = .upload i
  | .upload final .info => name = .named final
  | .download _ .spawn | .download _ .head | .download _ (.get _ _)
  | .download _ (.create _ _) => False
  | .download _ (.chunks _ _) | .download _ (.flush _ _) | .download _ (.verify _ _)
  | .download _ (.rename _) | .download _ (.unregister false) => name = .download i
  | .download _ (.info final) => name = .named final
  | .download _ (.unregister true) => ∃ final, name = .named final
  | .uploaded _ => ∀ j, name ≠ .download j
  | .ended => ∀ j, name ≠ .upload j

/-- A call's files are where it can have them, and a temporary file is the one of its call. -/
structure Tagged (s : State) : Prop where
  held : ∀ name file i, s.images name = some file → file.writer = some i →
    ∃ call, s.calls[i]? = some call ∧ call.holds i name
  temp : ∀ name file i, s.images name = some file → name = .upload i ∨ name = .download i →
    file.writer = some i

namespace Effect

/-- The names that a call has files under after a step, if it had files under `P` before. -/
def moves (temp : FileName) (P : FileName → Prop) (name : FileName) : Effect → Prop
  | none | append _ => P name
  | create => P name ∨ name = temp
  | remove => P name ∧ name ≠ temp
  | rename final => P name ∧ name ≠ temp ∨ name = .named final

section Apply

variable {images : Directory} {i : Nat} {temp name : FileName} {file : File} {effect : Effect}

/-- A file after a step is an old one, or the temporary file that has been made, written or
renamed. -/
theorem apply_cases (h : effect.apply images i temp name = some file) :
    (images name = some file ∧ ∀ P : FileName → Prop, P name → effect.moves temp P name) ∨
      (name = temp ∧ effect = .create ∧ file.writer = some i) ∨
      (name = temp ∧ ∃ bytes old, effect = .append bytes ∧ images temp = some old ∧
        file.writer = old.writer) ∨
      ∃ final, effect = .rename final ∧ name = .named final ∧ images temp = some file := by
  cases effect with
  | none => exact .inl ⟨h, fun P hP => hP⟩
  | create =>
    by_cases hname : name = temp
    · rw [hname, apply, Function.update_self] at h
      cases h
      exact .inr (.inl ⟨hname, rfl, rfl⟩)
    · rw [apply, Function.update_of_ne hname] at h
      exact .inl ⟨h, fun P hP => .inl hP⟩
  | append bytes =>
    by_cases hname : name = temp
    · rw [hname, apply, Function.update_self] at h
      obtain ⟨old, hold, rfl⟩ := Option.map_eq_some_iff.mp h
      exact .inr (.inr (.inl ⟨hname, bytes, old, rfl, hold, rfl⟩))
    · rw [apply, Function.update_of_ne hname] at h
      exact .inl ⟨h, fun P hP => hP⟩
  | remove =>
    by_cases hname : name = temp
    · rw [hname, apply, Function.update_self] at h
      cases h
    · rw [apply, Function.update_of_ne hname] at h
      exact .inl ⟨h, fun P hP => ⟨hP, hname⟩⟩
  | rename final =>
    by_cases hfinal : name = .named final
    · rw [hfinal, apply, Function.update_self] at h
      exact .inr (.inr (.inr ⟨final, rfl, hfinal, h⟩))
    · rw [apply, Function.update_of_ne hfinal] at h
      by_cases hname : name = temp
      · rw [hname, Function.update_self] at h
        cases h
      · rw [Function.update_of_ne hname] at h
        exact .inl ⟨h, fun P hP => .inl ⟨hP, hname⟩⟩

/-- A step changes no temporary file but that of its call. -/
theorem apply_other (htemp : name ≠ temp) (hnamed : ∀ final, name ≠ .named final) :
    effect.apply images i temp name = images name := by
  cases effect with
  | none => rfl
  | create | append | remove => exact Function.update_of_ne htemp _ _
  | rename final =>
    exact (Function.update_of_ne (hnamed final) _ _).trans (Function.update_of_ne htemp _ _)

end Apply

end Effect

theorem begin_cases (name : String) :
    Upload.begin name = .uploaded false ∨ ∃ clean, Upload.begin name = .upload clean .check := by
  unfold Upload.begin
  split
  · exact .inl rfl
  · split
    · exact .inl rfl
    · exact .inr ⟨_, rfl⟩

theorem moves_cleanedUp {temp at' : FileName} {P : FileName → Prop} {bytes : List UInt8}
    {cleanup : Bool} (h : (cleanedUp bytes cleanup).moves temp P at') : P at' := by
  cases cleanup
  · exact h
  · exact h.1

theorem upload_moves {images : Directory} {i : Nat} {name : String} {cleanup : Bool} {pc : Upload}
    {io : Io} {effect : Effect} {next : Call}
    (h : pc.next images i name cleanup io = some (effect, next)) (at' : FileName)
    (hmoves : effect.moves (.upload i) ((Call.upload name pc).holds i) at') : next.holds i at' := by
  have hended : ∀ ok, at' = .upload i → (Call.uploaded ok).holds i at' := by
    rintro ok rfl j hj
    cases hj
  cases pc with
  | check =>
    cases h
    exact absurd hmoves id
  | create =>
    cases io <;> cases h
    · exact hmoves.resolve_left id
    · exact absurd hmoves id
  | chunks bytesWritten =>
    cases io with
    | ok =>
      cases h
      exact hmoves
    | fails =>
      cases h
      exact hended false hmoves
    | chunk bytes =>
      simp only [Upload.next] at h
      split at h <;> cases h
      · exact hended false (moves_cleanedUp hmoves :)
      · exact hmoves
    | short bytes n =>
      simp only [Upload.next] at h
      split at h <;> cases h
      · exact hended false (moves_cleanedUp hmoves :)
      · exact hended false hmoves
    | head | length => cases h
  | flush =>
    cases io <;> cases h
    · exact hmoves
    · exact hended false hmoves
  | rename =>
    cases io with
    | ok =>
      simp only [Upload.next] at h
      split at h <;> cases h
      · rcases hmoves with ⟨hold, hne⟩ | hnamed
        · exact absurd hold hne
        · exact hnamed
      · exact hended false (moves_cleanedUp hmoves :)
    | fails =>
      cases h
      exact hended false (moves_cleanedUp hmoves :)
    | head | length | chunk | short => cases h
  | info =>
    cases io <;> cases h
    all_goals
      intro j hj
      rw [hj] at hmoves
      cases hmoves

/-- The answer to `HEAD` panics in its check of the name, fails the download, or names the image. -/
theorem named_cases (images : Directory) (filename : Option String) (name : String)
    (totalSize : Option Nat) :
    (Download.named images filename name totalSize = .ended ∧
        totalSize.any (· > maxImageSize) = false ∧ sanitizeFilename (filename.getD name) = none) ∨
      Download.named images filename name totalSize = .download filename (.unregister false) ∨
      ∃ final, Download.named images filename name totalSize =
        .download filename (.get final totalSize) := by
  unfold Download.named
  split <;> rename_i hsize
  · exact .inr (.inl rfl)
  · split <;> rename_i hclean
    · exact .inl ⟨rfl, eq_false_of_ne_true hsize, hclean⟩
    · split
      · exact .inr (.inl rfl)
      · exact .inr (.inr ⟨_, rfl⟩)

theorem download_moves {images : Directory} {i : Nat} {filename : Option String} {cleanup : Bool}
    {pc : Download} {io : Io} {effect : Effect} {next : Call}
    (h : pc.next images i filename cleanup io = some (effect, next)) (at' : FileName)
    (hmoves : effect.moves (.download i) ((Call.download filename pc).holds i) at') :
    next.holds i at' := by
  cases pc with
  | spawn =>
    cases h
    exact hmoves
  | head =>
    cases io <;> cases h
    · exact absurd hmoves id
    · exact absurd hmoves id
  | get name totalSize =>
    cases io <;> cases h
    · exact absurd hmoves id
    · exact hmoves
  | create name contentLength =>
    cases io <;> cases h
    · exact hmoves.resolve_left id
    · exact absurd hmoves id
  | chunks name contentLength =>
    cases io <;> cases h
    · exact hmoves
    · exact hmoves
    · exact hmoves
    · exact (moves_cleanedUp hmoves :)
  | flush name contentLength =>
    cases io <;> cases h
    · exact hmoves
    · exact hmoves
  | verify name contentLength =>
    cases io with
    | ok =>
      simp only [Download.next] at h
      split at h
      · cases h
        exact hmoves
      · split at h <;> cases h
        · exact (moves_cleanedUp hmoves :)
        · exact hmoves
    | fails =>
      cases h
      exact hmoves
    | head | length | chunk | short => cases h
  | rename name =>
    cases io with
    | ok =>
      simp only [Download.next] at h
      split at h <;> cases h
      · rcases hmoves with ⟨hold, hne⟩ | hnamed
        · exact absurd hold hne
        · exact hnamed
      · exact (moves_cleanedUp hmoves :)
    | fails =>
      cases h
      exact (moves_cleanedUp hmoves :)
    | head | length | chunk | short => cases h
  | info name =>
    cases io <;> cases h
    · exact ⟨name, hmoves⟩
    · exact ⟨name, hmoves⟩
  | unregister placed =>
    cases h
    rintro j rfl
    cases placed with
    | false => cases hmoves
    | true =>
      obtain ⟨final, hfinal⟩ := hmoves
      cases hfinal

theorem upload_next {images : Directory} {i : Nat} {name : String} {cleanup : Bool} {pc : Upload}
    {io : Io} {effect : Effect} {next : Call}
    (h : pc.next images i name cleanup io = some (effect, next)) :
    (∃ pc, next = .upload name pc) ∨ ∃ ok, next = .uploaded ok := by
  cases pc with
  | check =>
    cases h
    split
    · exact .inr ⟨_, rfl⟩
    · exact .inl ⟨_, rfl⟩
  | create | flush =>
    cases io <;> cases h
    · exact .inl ⟨_, rfl⟩
    · exact .inr ⟨_, rfl⟩
  | chunks bytesWritten =>
    cases io with
    | ok =>
      cases h
      exact .inl ⟨_, rfl⟩
    | fails =>
      cases h
      exact .inr ⟨_, rfl⟩
    | chunk bytes =>
      simp only [Upload.next] at h
      split at h <;> cases h
      · exact .inr ⟨_, rfl⟩
      · exact .inl ⟨_, rfl⟩
    | short bytes n =>
      simp only [Upload.next] at h
      split at h <;> cases h <;> exact .inr ⟨_, rfl⟩
    | head | length => cases h
  | rename =>
    cases io with
    | ok =>
      simp only [Upload.next] at h
      split at h <;> cases h
      · exact .inl ⟨_, rfl⟩
      · exact .inr ⟨_, rfl⟩
    | fails =>
      cases h
      exact .inr ⟨_, rfl⟩
    | head | length | chunk | short => cases h
  | info => cases io <;> cases h <;> exact .inr ⟨_, rfl⟩

/-- A download goes on until it has taken its id out of the map, or panics. -/
theorem download_next {images : Directory} {i : Nat} {filename : Option String} {cleanup : Bool}
    {pc : Download} {io : Io} {effect : Effect} {next : Call}
    (h : pc.next images i filename cleanup io = some (effect, next)) :
    (∃ pc, next = .download filename pc) ∨ (∃ placed, pc = .unregister placed ∧ next = .ended) ∨
      ∃ name totalSize, pc = .head ∧ io = .head name totalSize ∧ next = .ended ∧
        totalSize.any (· > maxImageSize) = false ∧
        sanitizeFilename (filename.getD name) = none := by
  cases pc with
  | spawn =>
    cases h
    exact .inl ⟨_, rfl⟩
  | head =>
    cases io <;> cases h
    · exact .inl ⟨_, rfl⟩
    · rename_i name totalSize
      rcases named_cases images filename name totalSize with hover | hfailed | ⟨final, hget⟩
      · exact .inr (.inr ⟨name, totalSize, rfl, rfl, hover⟩)
      · exact .inl ⟨_, hfailed⟩
      · exact .inl ⟨_, hget⟩
  | get | create | chunks | flush | info => cases io <;> cases h <;> exact .inl ⟨_, rfl⟩
  | verify name contentLength =>
    cases io with
    | ok =>
      simp only [Download.next] at h
      split at h
      · cases h
        exact .inl ⟨_, rfl⟩
      · split at h <;> cases h <;> exact .inl ⟨_, rfl⟩
    | fails =>
      cases h
      exact .inl ⟨_, rfl⟩
    | head | length | chunk | short => cases h
  | rename name =>
    cases io with
    | ok =>
      simp only [Download.next] at h
      split at h <;> cases h <;> exact .inl ⟨_, rfl⟩
    | fails =>
      cases h
      exact .inl ⟨_, rfl⟩
    | head | length | chunk | short => cases h
  | unregister placed =>
    cases h
    exact .inr (.inl ⟨placed, rfl, rfl⟩)

/-- A step of a call takes its files where the call goes on. -/
theorem next_moves {images : Directory} {i : Nat} {io : Io} {cleanup : Bool} {call next : Call}
    {effect : Effect} (h : call.next images i io cleanup = some (effect, next)) (at' : FileName)
    (hmoves : effect.moves (call.temp i) (call.holds i) at') : next.holds i at' := by
  cases call with
  | upload name pc => exact upload_moves h at' hmoves
  | download filename pc => exact download_moves h at' hmoves
  | uploaded ok => cases h
  | ended => cases h

/-! ## The tags are kept -/

theorem tagged_of_images {s t : State} (h : Tagged s) (hcalls : t.calls = s.calls)
    (himages : ∀ name file, t.images name = some file → s.images name = some file) :
    Tagged t where
  held name file i hfile hwriter := hcalls ▸ h.held name file i (himages name file hfile) hwriter
  temp name file i hfile hname := h.temp name file i (himages name file hfile) hname

theorem tagged_append {s : State} (h : Tagged s) (call : Call) (downloads : List Nat) :
    Tagged { s with calls := s.calls ++ [call], downloads } where
  held name file i hfile hwriter := by
    obtain ⟨held, hheld, hholds⟩ := h.held name file i hfile hwriter
    exact ⟨held, getElem?_append_kept hheld, hholds⟩
  temp := h.temp

/-- The temporary file of a call has been made by it. -/
theorem Tagged.writer_temp {s : State} (h : Tagged s) {i : Nat} {call : Call} {file : File}
    (hfile : s.images (call.temp i) = some file) : file.writer = some i := by
  refine h.temp _ _ _ hfile ?_
  cases call with
  | upload | uploaded => exact .inl rfl
  | download | ended => exact .inr rfl

/-- A step of the call `i` makes no file of another one. -/
theorem Tagged.others_file {s : State} (h : Tagged s) {i j : Nat} {call : Call} {effect : Effect}
    {name : FileName} {file : File}
    (hfile : effect.apply s.images i (call.temp i) name = some file) (hwriter : file.writer = some j)
    (hj : j ≠ i) : s.images name = some file := by
  rcases Effect.apply_cases hfile with ⟨hold, -⟩ | ⟨-, -, hmine⟩ |
    ⟨-, bytes, old, -, hold, hsame⟩ | ⟨final, -, -, hold⟩
  · exact hold
  · rw [hwriter] at hmine
    exact absurd (Option.some.inj hmine) hj
  · rw [hwriter, h.writer_temp hold] at hsame
    exact absurd (Option.some.inj hsame) hj
  · rw [h.writer_temp hold] at hwriter
    exact absurd (Option.some.inj hwriter).symm hj

theorem temp_of_temp {call : Call} {i j : Nat}
    (h : call.temp i = .upload j ∨ call.temp i = .download j) : i = j := by
  cases call with
  | upload | uploaded =>
    rcases h with h | h
    · exact FileName.upload.inj h
    · cases h
  | download | ended =>
    rcases h with h | h
    · cases h
    · exact FileName.download.inj h

theorem tagged_advance {s : State} {i : Nat} {io : Io} {cleanup : Bool} {call next : Call}
    {effect : Effect} {downloads : List Nat} (h : Tagged s) (hcall : s.calls[i]? = some call)
    (hnext : call.next s.images i io cleanup = some (effect, next)) :
    Tagged { s with
      images := effect.apply s.images i (call.temp i), calls := s.calls.set i next, downloads } where
  held name file j hfile hwriter := by
    by_cases hj : j = i
    · subst hj
      refine ⟨next, getElem?_set_changed hcall _, next_moves hnext name ?_⟩
      rcases Effect.apply_cases hfile with ⟨hold, hmoves⟩ | ⟨rfl, rfl, -⟩ |
        ⟨rfl, bytes, old, rfl, hold, hsame⟩ | ⟨final, rfl, rfl, -⟩
      · obtain ⟨call', hcall', hholds⟩ := h.held name file j hold hwriter
        rw [hcall] at hcall'
        cases hcall'
        exact hmoves _ hholds
      · exact .inr rfl
      · obtain ⟨call', hcall', hholds⟩ := h.held _ old j hold (h.writer_temp hold)
        rw [hcall] at hcall'
        cases hcall'
        exact hholds
      · exact .inr rfl
    · obtain ⟨call', hcall', hholds⟩ :=
        h.held name file j (h.others_file hfile hwriter hj) hwriter
      exact ⟨call', getElem?_set_kept hcall' hj, hholds⟩
  temp name file j hfile hname := by
    rcases Effect.apply_cases hfile with ⟨hold, -⟩ | ⟨rfl, -, hmine⟩ |
      ⟨rfl, bytes, old, -, hold, hsame⟩ | ⟨final, -, rfl, -⟩
    · exact h.temp name file j hold hname
    · rw [hmine, temp_of_temp hname]
    · rw [hsame, h.writer_temp hold, temp_of_temp hname]
    · rcases hname with hname | hname <;> cases hname

/-- What a step of a call does to the state. -/
theorem advance_cases {s t : State} {i : Nat} {io : Io} {cleanup : Bool}
    (h : step s (.advance i io cleanup) = some t) :
    ∃ call effect next, s.calls[i]? = some call ∧
      call.next s.images i io cleanup = some (effect, next) ∧
      t = { s with
        images := effect.apply s.images i (call.temp i)
        calls := s.calls.set i next
        downloads := if call.unregisters then s.downloads.filter (· ≠ i) else s.downloads } := by
  obtain ⟨call, hcall, hnext⟩ := Option.bind_eq_some_iff.mp h
  obtain ⟨after, hafter, rfl⟩ := Option.map_eq_some_iff.mp hnext
  exact ⟨call, after.1, after.2, hcall, hafter, rfl⟩

theorem of_update_none {images : Directory} {name other : FileName} {file : File}
    (h : Function.update images name none other = some file) :
    images other = some file ∧ other ≠ name := by
  by_cases hname : other = name
  · rw [hname, Function.update_self] at h
    cases h
  · rw [Function.update_of_ne hname] at h
    exact ⟨h, hname⟩

theorem tagged_step {s t : State} {e : Event} (h : Tagged s) (hstep : step s e = some t) :
    Tagged t := by
  cases e with
  | upload name =>
    cases hstep
    exact tagged_append h _ _
  | download filename =>
    cases hstep
    exact tagged_append h _ _
  | cancel i =>
    simp only [step] at hstep
    split at hstep <;> cases hstep
    · exact tagged_of_images h rfl fun _ _ hfile => hfile
    · exact h
  | delete name =>
    cases hstep
    exact tagged_of_images h rfl fun _ _ hfile => (of_update_none hfile).1
  | advance i io cleanup =>
    obtain ⟨call, effect, next, hcall, hnext, rfl⟩ := advance_cases hstep
    exact tagged_advance h hcall hnext

theorem tagged_init {s : State} (h : Init s) : Tagged s where
  held name file i hfile hwriter := by
    rw [(h.1 name file hfile).1] at hwriter
    cases hwriter
  temp name file i hfile hname := by
    obtain ⟨final, rfl⟩ := (h.1 name file hfile).2
    rcases hname with hname | hname <;> cases hname

/-- Every reachable state is tagged. -/
theorem tagged_reachable {s : State} (h : system.Reachable s) : Tagged s :=
  TSys.invariant (I := Tagged) (fun _ hinit => tagged_init hinit)
    (fun _ _ _ htagged hstep => tagged_step htagged hstep) h

end StreamBox.Msd.Images
