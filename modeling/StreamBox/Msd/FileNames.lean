import StreamBox.Lib.Trimming
import StreamBox.Lib.Utf8
import StreamBox.Msd.Images

/-!
# Sanitized file names

`sanitize_filename` trims the name, replaces ten characters, drops the leading dots and cuts what
is longer than 255 bytes.

* **Names** — `sanitises_iff`: it comes to the empty name, which every caller refuses, or to a
  visible entry of the directory, and does no more a second time, just when no white space
  follows the leading dots and a name that is too long can be cut behind a character that is not
  white space.
* **Failure** — `cut_inside_character`: a name whose 255th byte is inside a character.
-/

namespace StreamBox.Msd.Images

open StreamBox.Lib StreamBox.Lib.Utf8 StreamBox.Config

/-! ## Paths -/

/-- `Path::join`: an absolute path takes the place of the directory. -/
def join (base name : List Char) : List Char :=
  if name.head? = some '/' then name
  else if base = [] ∨ base.getLast? = some '/' then base ++ name
  else base ++ '/' :: name

/-- The names that a path leads through; empty ones and `.` lead nowhere. -/
def parts (path : List Char) : List (List Char) :=
  (path.splitOn '/').filter fun part => part ≠ [] ∧ part ≠ ['.']

/-- The path is the entry `name` of the directory. -/
def IsEntry (base name path : List Char) : Prop :=
  parts path = parts base ++ [name] ∧ name ≠ ['.', '.'] ∧
    (path.head? = some '/' ↔ base.head? = some '/')

/-! ## The callers -/

/-- The checks of `create` and `create_from_stream`; `none` is the panic. -/
def createdName (images : Directory) (name : String) (expectedSize : Option Nat) :
    Option (Except String String) :=
  (sanitizeFilename name).map fun name =>
    if name = "" then .error "Invalid filename"
    else if expectedSize.any (· > maxImageSize) then
      .error "Image too large. Maximum size: 32 GB"
    else if (images (.named name)).isSome then .error s!"Image already exists: {name}"
    else .ok name

/-- Every caller refuses the name: `create` and `create_from_stream`, the upload of a field, and a
download that asks for it or is given it by the server. -/
def Refused (name : String) : Prop :=
  (∀ images expectedSize, createdName images name expectedSize = some (.error "Invalid filename")) ∧
    Upload.begin name = .uploaded false ∧
    ∀ images filename given totalSize, filename.getD given = name →
      Download.named images filename given totalSize = .download filename (.unregister false)

/-! ## The property and its condition -/

/-- A name of at most 255 bytes without separators and NUL, under which the directory has an entry
that is no temporary file. -/
structure Visible (name : String) : Prop where
  length : name.utf8ByteSize ≤ 255
  chars : ∀ c ∈ name.toList, c ≠ '/' ∧ c ≠ '\\' ∧ c.toNat ≠ 0
  undotted : name.toList.head? ≠ some '.'
  entry : ∀ base, IsEntry base name.toList (join base name.toList)
  temporary : ∀ uuid : String, name ≠ ".upload_" ++ uuid ∧ name ≠ ".download_" ++ uuid

/-- The name is sanitized without a panic to one that is empty and refused, or visible, and that
stays as it is. -/
def Sanitises (name : String) : Prop :=
  ∃ clean, sanitizeFilename name = some clean ∧ (clean = "" ∧ Refused name ∨ Visible clean) ∧
    sanitizeFilename clean = some clean

/-- What follows the white space and the dots that a name begins with. -/
def afterDots (name : String) : List Char :=
  (trimMatches isWhitespace name).toList.dropWhile (· == '.')

/-- No white space follows the leading dots, and a name of more than 255 bytes after them has an
end of a character there that is not white space. -/
def Clean (name : String) : Prop :=
  (∀ c ∈ (afterDots name).head?, isWhitespace c = false) ∧
    (255 < utf8Size (afterDots name) → ∃ kept more : List Char, afterDots name = kept ++ more ∧
      utf8Size kept = 255 ∧ ∀ c ∈ kept.getLast?, isWhitespace c = false)

/-! ## Bytes -/

/-- A cut gives the characters that have just so many bytes. -/
theorem takeBytes_iff {n : Nat} {chars kept : List Char} :
    takeBytes n chars = some kept ↔ utf8Size kept = n ∧ ∃ more, chars = kept ++ more := by
  induction chars generalizing n kept with
  | nil =>
    constructor
    · intro h
      rw [takeBytes] at h
      split at h
      · cases h
        exact ⟨(‹n = 0› :).symm, [], rfl⟩
      · cases h
    · rintro ⟨hsize, more, hkept⟩
      obtain ⟨rfl, rfl⟩ := List.append_eq_nil_iff.mp hkept.symm
      rw [← hsize]
      rfl
  | cons c chars ih =>
    have hpos := c.utf8Size_pos
    have hcons : ∀ kept, utf8Size (c :: kept) = c.utf8Size + utf8Size kept := fun _ => rfl
    rw [takeBytes]
    split <;> rename_i hn
    · constructor
      · intro h
        cases h
        exact ⟨hn.symm, c :: chars, rfl⟩
      · rintro ⟨hsize, more, hkept⟩
        cases kept with
        | nil => rfl
        | cons d kept =>
          cases hkept
          rw [hcons] at hsize
          omega
    · split <;> rename_i hc
      · rw [Option.map_eq_some_iff]
        constructor
        · rintro ⟨rest, hrest, rfl⟩
          obtain ⟨hsize, more, rfl⟩ := ih.mp hrest
          exact ⟨by rw [hcons]; omega, more, rfl⟩
        · rintro ⟨hsize, more, hkept⟩
          cases kept with
          | nil => exact absurd hsize.symm hn
          | cons d rest =>
            cases hkept
            rw [hcons] at hsize
            exact ⟨rest, ih.mpr ⟨by omega, more, rfl⟩, rfl⟩
      · constructor
        · intro h
          cases h
        · rintro ⟨hsize, more, hkept⟩
          cases kept with
          | nil => exact absurd hsize.symm hn
          | cons d rest =>
            cases hkept
            rw [hcons] at hsize
            omega

/-! ## Replaced characters -/

/-- What `replace` does with a character. -/
def replaced (c : Char) : Char := if isReplaced c then '_' else c

theorem isReplaced_replaced (c : Char) : isReplaced (replaced c) = false := by
  unfold replaced
  split
  · rfl
  · exact eq_false_of_ne_true ‹_›

theorem replaced_eq_self {c : Char} (h : isReplaced c = false) : replaced c = c := by
  rw [replaced, h]
  rfl

/-- The ten characters are none of white space or dots, and have one byte each. -/
theorem of_isReplaced {c : Char} (h : isReplaced c = true) :
    isWhitespace c = false ∧ (c == '.') = false ∧ c.utf8Size = 1 := by
  have hmem : c.toNat ∈ [0x2F, 0x5C, 0, 0x3A, 0x2A, 0x3F, 0x22, 0x3C, 0x3E, 0x7C] := by
    simpa only [isReplaced, List.contains_iff_mem] using h
  have hall : ∀ n ∈ [0x2F, 0x5C, 0, 0x3A, 0x2A, 0x3F, 0x22, 0x3C, 0x3E, 0x7C],
      isWhitespace (Char.ofNat n) = false ∧ (Char.ofNat n == '.') = false ∧
        (Char.ofNat n).utf8Size = 1 := by decide
  have hc := hall _ hmem
  rwa [Char.ofNat_toNat] at hc

theorem isWhitespace_replaced (c : Char) : isWhitespace (replaced c) = isWhitespace c := by
  cases hc : isReplaced c with
  | true =>
    rw [replaced, hc, (of_isReplaced hc).1]
    rfl
  | false => rw [replaced_eq_self hc]

theorem dot_replaced (c : Char) : (replaced c == '.') = (c == '.') := by
  cases hc : isReplaced c with
  | true =>
    rw [replaced, hc, (of_isReplaced hc).2.1]
    rfl
  | false => rw [replaced_eq_self hc]

theorem utf8Size_replaced (chars : List Char) : utf8Size (chars.map replaced) = utf8Size chars := by
  have hone : ∀ c, (replaced c).utf8Size = c.utf8Size := by
    intro c
    cases hc : isReplaced c with
    | true =>
      rw [replaced, hc, (of_isReplaced hc).2.2]
      rfl
    | false => rw [replaced_eq_self hc]
  rw [utf8Size, utf8Size, List.map_map]
  exact congrArg List.sum (List.map_congr_left fun c _ => hone c)

theorem dropWhile_map_replaced (chars : List Char) :
    (chars.map replaced).dropWhile (· == '.') = (chars.dropWhile (· == '.')).map replaced := by
  rw [List.dropWhile_map]
  congr 2
  funext c
  exact dot_replaced c

/-! ## What the function computes -/

theorem toList_trimMatches (p : Char → Bool) (name : String) :
    (trimMatches p name).toList = trimEnds p name.toList := by
  rw [trimMatches, String.toList_ofList]
  rfl

/-- The name is cut after 255 bytes, if it has more, when the characters are replaced and the dots
dropped. -/
theorem sanitizeFilename_eq (name : String) :
    sanitizeFilename name =
      (if 255 < utf8Size (afterDots name) then takeBytes 255 ((afterDots name).map replaced)
        else some ((afterDots name).map replaced)).map String.ofList := by
  have hbody : ((trimMatches isWhitespace name).toList.map fun c =>
      if isReplaced c then '_' else c).dropWhile (· == '.') = (afterDots name).map replaced :=
    dropWhile_map_replaced _
  rw [sanitizeFilename, hbody, utf8ByteSize_ofList, utf8Size_replaced]
  split <;> rfl

/-- The characters that are kept: all, or 255 bytes of them. -/
def Kept (name : String) (kept : List Char) : Prop :=
  (∃ more, afterDots name = kept ++ more ∧ (more ≠ [] → utf8Size kept = 255)) ∧
    utf8Size kept ≤ 255

theorem kept_all {name : String} (h : utf8Size (afterDots name) ≤ 255) :
    Kept name (afterDots name) :=
  ⟨⟨[], (List.append_nil _).symm, fun hne => absurd rfl hne⟩, h⟩

theorem sanitizeFilename_iff {name clean : String} :
    sanitizeFilename name = some clean ↔
      ∃ kept, Kept name kept ∧ clean.toList = kept.map replaced := by
  rw [sanitizeFilename_eq, Option.map_eq_some_iff]
  split <;> rename_i hsize
  · constructor
    · rintro ⟨taken, htaken, rfl⟩
      obtain ⟨htaken, more, hmore⟩ := takeBytes_iff.mp htaken
      obtain ⟨kept, rest, hname, rfl, -⟩ := List.map_eq_append_iff.mp hmore
      rw [utf8Size_replaced] at htaken
      exact ⟨kept, ⟨⟨rest, hname, fun _ => htaken⟩, Nat.le_of_eq htaken⟩, String.toList_ofList⟩
    · rintro ⟨kept, ⟨⟨more, hname, hmore⟩, hle⟩, hclean⟩
      have hne : more ≠ [] := by
        rintro rfl
        rw [hname, List.append_nil] at hsize
        omega
      refine ⟨kept.map replaced, takeBytes_iff.mpr ⟨?_, more.map replaced, ?_⟩, ?_⟩
      · rw [utf8Size_replaced, hmore hne]
      · rw [hname, List.map_append]
      · rw [← hclean, String.ofList_toList]
  · constructor
    · rintro ⟨chars, hchars, rfl⟩
      rw [← Option.some.inj hchars]
      exact ⟨afterDots name, kept_all (Nat.le_of_not_lt hsize), String.toList_ofList⟩
    · rintro ⟨kept, ⟨⟨more, hname, hmore⟩, hle⟩, hclean⟩
      have hnil : more = [] := by
        by_contra hne
        have hkept := hmore hne
        rw [hname] at hsize
        exact hne (eq_nil_of_utf8Size_le (a := kept) (by omega))
      rw [hnil, List.append_nil] at hname
      exact ⟨kept.map replaced, by rw [hname], by rw [← hclean, String.ofList_toList]⟩

/-- What comes out has none of the ten characters. -/
theorem isReplaced_of_sanitized {name clean : String} (h : sanitizeFilename name = some clean) :
    ∀ c ∈ clean.toList, isReplaced c = false := by
  obtain ⟨kept, -, hclean⟩ := sanitizeFilename_iff.mp h
  intro c hc
  rw [hclean] at hc
  obtain ⟨d, -, rfl⟩ := List.mem_map.mp hc
  exact isReplaced_replaced d

theorem length_of_sanitized {name clean : String} (h : sanitizeFilename name = some clean) :
    clean.utf8ByteSize ≤ 255 := by
  obtain ⟨kept, ⟨-, hle⟩, hclean⟩ := sanitizeFilename_iff.mp h
  rwa [← String.ofList_toList (s := clean), utf8ByteSize_ofList, hclean, utf8Size_replaced]

/-- A second time there is only the white space to trim. -/
theorem again_iff {name clean : String} (h : sanitizeFilename name = some clean) :
    sanitizeFilename clean = some clean ↔
      trimEnds isWhitespace clean.toList = clean.toList := by
  have hdot : clean.toList.head? ≠ some '.' := sanitizeFilename_visible h
  have hafter : afterDots clean =
      (trimEnds isWhitespace clean.toList).dropWhile (· == '.') := by
    rw [afterDots, toList_trimMatches]
  rw [sanitizeFilename_iff]
  constructor
  · rintro ⟨kept, ⟨⟨more, hmore, -⟩, -⟩, hclean⟩
    -- nothing that has been trimmed or dropped had any bytes
    obtain ⟨dots, hdots⟩ := List.dropWhile_suffix (· == '.') (l := trimEnds isWhitespace clean.toList)
    obtain ⟨front, back, hwithin⟩ := trimEnds_infix (p := isWhitespace) (l := clean.toList)
    have hsize : utf8Size clean.toList = utf8Size kept := by rw [hclean, utf8Size_replaced]
    rw [← hwithin, ← hdots, ← hafter, hmore] at hsize
    simp only [utf8Size_append] at hsize
    have hback : back = [] := eq_nil_of_utf8Size_le (a := kept) (by rw [utf8Size_append]; omega)
    have hfront : front = [] := eq_nil_of_utf8Size_le (a := kept) (by rw [utf8Size_append]; omega)
    rw [hback, hfront, List.append_nil, List.nil_append] at hwithin
    exact hwithin
  · intro htrim
    refine ⟨clean.toList, ⟨⟨[], ?_, fun h => absurd rfl h⟩, ?_⟩, ?_⟩
    · rw [hafter, htrim, List.append_nil]
      cases hlist : clean.toList with
      | nil => rfl
      | cons c rest =>
        rw [hlist] at hdot
        rw [List.dropWhile_cons_of_neg (by simpa using hdot)]
    · rw [← utf8ByteSize_ofList, String.ofList_toList]
      exact length_of_sanitized h
    · have hsame : clean.toList.map replaced = clean.toList.map id :=
        List.map_congr_left fun c hc => replaced_eq_self (isReplaced_of_sanitized h c hc)
      rw [hsame, List.map_id]

theorem head_of_kept {name : String} {kept : List Char} (h : Kept name kept) :
    kept.head? = (afterDots name).head? := by
  obtain ⟨⟨more, hname, hmore⟩, -⟩ := h
  cases kept with
  | nil =>
    cases more with
    | nil => rw [hname, List.append_nil]
    | cons c more => exact absurd (hmore (by simp)) (by decide)
  | cons c kept => rw [hname]; rfl

/-- What is sanitized needs no trimming if what is kept has no white space at its ends. -/
theorem trimmed_iff {kept : List Char} :
    trimEnds isWhitespace (kept.map replaced) = kept.map replaced ↔
      (∀ c ∈ kept.head?, isWhitespace c = false) ∧
        ∀ c ∈ kept.getLast?, isWhitespace c = false := by
  rw [trimEnds_eq_self_iff, List.head?_map, List.getLast?_map]
  simp only [Option.mem_map, forall_exists_index, and_imp, forall_apply_eq_imp_iff₂,
    isWhitespace_replaced]

/-- The last character that is not cut off is the last one of the name without its white space. -/
theorem last_afterDots (name : String) :
    ∀ c ∈ (afterDots name).getLast?, isWhitespace c = false := by
  intro c hc
  obtain ⟨dots, hdots⟩ :=
    List.dropWhile_suffix (· == '.') (l := trimEnds isWhitespace name.toList)
  rw [afterDots, toList_trimMatches] at hc
  refine trimEnds_last (l := name.toList) ?_
  rw [← hdots, List.getLast?_append, hc]
  rfl

/-- The characters are kept under the condition that makes them trimmed. -/
theorem clean_iff (name : String) :
    Clean name ↔ ∃ kept, Kept name kept ∧ (∀ c ∈ kept.head?, isWhitespace c = false) ∧
      ∀ c ∈ kept.getLast?, isWhitespace c = false := by
  constructor
  · rintro ⟨hhead, hcut⟩
    by_cases hsize : 255 < utf8Size (afterDots name)
    · obtain ⟨kept, more, hname, hkept, hlast⟩ := hcut hsize
      have h : Kept name kept := ⟨⟨more, hname, fun _ => hkept⟩, Nat.le_of_eq hkept⟩
      rw [← head_of_kept h] at hhead
      exact ⟨kept, h, hhead, hlast⟩
    · exact ⟨afterDots name, kept_all (Nat.le_of_not_lt hsize), hhead, last_afterDots name⟩
  · rintro ⟨kept, h, hhead, hlast⟩
    rw [head_of_kept h] at hhead
    refine ⟨hhead, fun hsize => ?_⟩
    obtain ⟨⟨more, hname, hmore⟩, hle⟩ := h
    have hne : more ≠ [] := by
      rintro rfl
      rw [hname, List.append_nil] at hsize
      omega
    exact ⟨kept, more, hname, hmore hne, hlast⟩

/-! ## The callers and the directory -/

theorem refused_of_empty {name : String} (h : sanitizeFilename name = some "") : Refused name := by
  refine ⟨fun images expectedSize => ?_, ?_, fun images filename given totalSize hname => ?_⟩
  · rw [createdName, h]
    rfl
  · rw [Upload.begin, h]
    rfl
  · rw [Download.named, hname, h]
    split <;> rfl

theorem parts_append (base name : List Char) :
    parts (base ++ '/' :: name) = parts base ++ parts name := by
  rw [parts, List.splitOn_append_cons_self, List.filter_append]
  rfl

theorem parts_single {name : List Char} (h : '/' ∉ name) (hne : name ≠ []) (hdot : name ≠ ['.']) :
    parts name = [name] := by
  rw [parts, List.splitOn_eq_singleton h, List.filter_cons_of_pos (by simp [hne, hdot])]
  rfl

/-- A name that is neither empty nor dotted and has no slash is an entry of every directory. -/
theorem isEntry_join (base : List Char) {name : List Char} (hslash : '/' ∉ name) (hne : name ≠ [])
    (hdot : name.head? ≠ some '.') : IsEntry base name (join base name) := by
  have hnot : ∀ rest, name ≠ '.' :: rest := by
    rintro rest rfl
    exact hdot rfl
  have hparts : parts name = [name] := parts_single hslash hne (hnot [])
  have hhead : name.head? ≠ some '/' := by
    intro h
    exact hslash (List.mem_of_head? h)
  rw [join, if_neg hhead]
  split <;> rename_i hbase
  · rcases hbase with rfl | hlast
    · exact ⟨hparts, hnot _, fun h => absurd h hhead, fun h => by cases h⟩
    · obtain ⟨front, rfl⟩ := List.getLast?_eq_some_iff.mp hlast
      refine ⟨?_, hnot _, ?_⟩
      · have hfront : parts (front ++ ['/']) = parts front := by
          rw [parts_append, show parts [] = [] from rfl, List.append_nil]
        rw [List.append_assoc, List.singleton_append, parts_append, hparts, hfront]
      · rw [List.head?_append_of_ne_nil _ (by simp)]
  · refine ⟨by rw [parts_append, hparts], hnot _, ?_⟩
    rw [List.head?_append_of_ne_nil _ (fun h => hbase (.inl h))]

theorem visible_of_sanitized {name clean : String} (h : sanitizeFilename name = some clean)
    (hne : clean ≠ "") : Visible clean := by
  have hchars := isReplaced_of_sanitized h
  have hdot := sanitizeFilename_visible h
  have hslash : '/' ∉ clean.toList := by
    intro hmem
    exact absurd (hchars _ hmem) (by decide)
  refine ⟨length_of_sanitized h, fun c hc => ⟨?_, ?_, ?_⟩, hdot, fun base => ?_, fun uuid => ?_⟩
  · rintro rfl
    exact hslash hc
  · rintro rfl
    exact absurd (hchars _ hc) (by decide)
  · intro hnul
    have hreplaced := hchars c hc
    rw [isReplaced, hnul] at hreplaced
    cases hreplaced
  · exact isEntry_join base hslash (fun hnil => hne (String.toList_eq_nil_iff.mp hnil)) hdot
  · constructor
    all_goals
      rintro rfl
      exact hdot (by rw [String.toList_append]; rfl)

/-- The exact condition under which the name comes out as the callers and the directory need it. -/
theorem sanitises_iff (name : String) : Sanitises name ↔ Clean name := by
  rw [clean_iff]
  constructor
  · rintro ⟨clean, hclean, -, hagain⟩
    have htrim := (again_iff hclean).mp hagain
    obtain ⟨kept, hkept, hchars⟩ := sanitizeFilename_iff.mp hclean
    rw [hchars] at htrim
    exact ⟨kept, hkept, trimmed_iff.mp htrim⟩
  · rintro ⟨kept, hkept, hends⟩
    have hclean : sanitizeFilename name = some (String.ofList (kept.map replaced)) :=
      sanitizeFilename_iff.mpr ⟨kept, hkept, String.toList_ofList⟩
    refine ⟨_, hclean, ?_, (again_iff hclean).mpr ?_⟩
    · by_cases hempty : String.ofList (kept.map replaced) = ""
      · exact .inl ⟨hempty, refused_of_empty (hempty ▸ hclean)⟩
      · exact .inr (visible_of_sanitized hclean hempty)
    · rw [String.toList_ofList]
      exact trimmed_iff.mpr hends

/-- The 255th byte of the name is inside its last character. -/
theorem cut_inside_character : ¬ Sanitises (String.ofList (List.replicate 128 'é')) := by
  rintro ⟨clean, hclean, -⟩
  have hafter : afterDots (String.ofList (List.replicate 128 'é')) = List.replicate 128 'é' := by
    rw [afterDots, toList_trimMatches, String.toList_ofList]
    decide +kernel
  have hinside : takeBytes 255 ((List.replicate 128 'é').map replaced) = none := by decide +kernel
  rw [sanitizeFilename_eq, hafter, if_pos (by decide +kernel), hinside] at hclean
  cases hclean

end StreamBox.Msd.Images
