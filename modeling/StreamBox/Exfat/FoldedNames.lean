import StreamBox.Exfat.CaseFolding
import StreamBox.Exfat.DirectoryStructure

/-!
# Lookups against the up-case mapping

A driver compares the names of a directory by their up-cased forms, the lookup by their
lower-case forms.

* **Directories** — `FoldsByTable`: a directory with names over an alphabet holds no two
  that are up-cased alike, and a lookup finds an entry exactly when one is.
* **Alphabets** — `folds_by_table_iff`: that is so in every reached state exactly when the
  alphabet is unambiguous.
* **The long s** — `long_s_missed`: ſ is up-cased to S, and is lower case already.
-/

namespace StreamBox.Exfat

/-- Characters that may stand in a name. -/
structure Alphabet where
  chars : Set Char
  noSlash : '/' ∉ chars
  noNull : '\x00' ∉ chars

/-- The name is spelled in the alphabet. -/
def Alphabet.Spells (A : Alphabet) (name : String) : Prop := ∀ c ∈ name.toList, c ∈ A.chars

section

variable [Lowercase]

/-- The directory, if its names are spelled in the alphabet, holds no two that are up-cased
alike, and a lookup finds an entry exactly when one is up-cased like the name. -/
def FoldsDirectory (A : Alphabet) (fs : ExfatFs) (dir : Nat) : Prop :=
  Returns (listFilesInDirectory dir "") fs fun items _ =>
    (∀ item ∈ items, A.Spells item.name) →
      (items.map fun item => upcased item.name).Nodup ∧
        ∀ name, A.Spells name → Returns (findEntryInDirectory dir name) fs fun found _ =>
          found.isSome = true ↔ ∃ item ∈ items, upcased item.name = upcased name

/-- In every state that a run reaches which creates only names that read back, every live
directory is so. -/
def FoldsByTable (A : Alphabet) : Prop :=
  ∀ fs k, ReachedBy Change.Whole fs → fs.disk.LiveDirectory fs.firstClusterOfRoot k →
    FoldsDirectory A fs k

variable {fs : ExfatFs} {k : Nat}

/-- In a reached state the lower-case forms decide. -/
theorem ReachedBy.listsNames (h : ReachedBy Change.Whole fs)
    (hlive : fs.disk.LiveDirectory fs.firstClusterOfRoot k) : ListsNames fs k := by
  obtain ⟨g, -, t, label, hstores, hwf, hunique⟩ := h.unique
  obtain ⟨d, hrep, hholds⟩ := hstores
  obtain rfl := hrep.params
  rw [hrep.disk] at hlive
  obtain ⟨rows, ho⟩ := hholds.liveDirectory hwf hrep.valid hlive
  exact Stores.listsNames ⟨d, hrep, hholds⟩ hwf hunique ho

/-- Where the two foldings compare the names of an alphabet alike, the up-cased forms decide. -/
theorem ListsNames.foldsDirectory {A : Alphabet} (h : ListsNames fs k)
    (hagree : ∀ a b, A.Spells a → A.Spells b →
      (toLowercase a = toLowercase b ↔ upcased a = upcased b)) : FoldsDirectory A fs k := by
  refine Returns.mono h ?_
  rintro items _ ⟨hnodup, hfinds⟩ hspelled
  refine ⟨?_, fun name hname => (hfinds name).mono fun found _ hfound => ?_⟩
  · refine List.pairwise_map.mpr ((List.pairwise_map.mp hnodup).imp_of_mem ?_)
    intro x y hx hy hne hup
    exact hne ((hagree _ _ (hspelled x hx) (hspelled y hy)).mpr hup)
  · rw [hfound]
    refine exists_congr fun item => and_congr_right fun hitem => ?_
    exact hagree _ _ (hspelled item hitem) hname

/-! ## A short name in a new volume -/

/-- A name of one or two characters. -/
structure Short (name : List Char) : Prop where
  named : name ≠ []
  short : name.length ≤ 2
  noSlash : '/' ∉ name
  noNull : '\x00' ∉ name

omit [Lowercase] in
theorem Short.parsePath {name : List Char} (h : Short name) :
    parsePath (String.ofList name) = [String.ofList name] := by
  rw [parsePath_eq, String.toList_ofList, segments, List.splitOn_eq_singleton h.noSlash]
  simp [h.named]

omit [Lowercase] in
theorem Short.utf8Len_le {name : List Char} (h : Short name) :
    utf8Len (String.ofList name) ≤ 8 := by
  have hshort := h.short
  rw [utf8Len, String.toList_ofList]
  match name with
  | [] => simp
  | [c] =>
    have := c.utf8Size_le_four
    simp only [List.foldl_cons, List.foldl_nil]
    omega
  | [c, d] =>
    have := c.utf8Size_le_four
    have := d.utf8Size_le_four
    simp only [List.foldl_cons, List.foldl_nil]
    omega
  | _ :: _ :: _ :: _ =>
    simp only [List.length_cons] at hshort
    omega

omit [Lowercase] in
theorem Short.nameFits {name : List Char} (h : Short name) : NameFits (String.ofList name) := by
  have hlen := h.utf8Len_le
  rintro (hempty | hlong)
  · exact h.named (by rw [← String.toList_ofList (l := name), hempty]; rfl)
  · omega

omit [Lowercase] in
/-- It fits one Name entry. -/
theorem Short.chunks_le {name : List Char} (h : Short name) :
    2 + (nameChunks (encodeUtf16 (String.ofList name))).length ≤ 100 := by
  have hlen := h.utf8Len_le
  have hunits := length_encodeUtf16_le (String.ofList name)
  rw [length_nameChunks]
  omega

omit [Lowercase] in
/-- No pair of it is cut. -/
theorem Short.whole {name : List Char} (h : Short name) : ¬ Straddles (String.ofList name) := by
  rintro ⟨before, c, after, hsplit, -, hcut⟩
  have hlen := h.utf8Len_le
  have hunits := length_encodeUtf16_le (String.ofList name)
  rw [encodeUtf16_eq, hsplit, encodeChars_append, List.length_append] at hunits
  omega

omit [Lowercase] in
theorem Short.reads {name : List Char} (h : Short name) :
    decodedName (String.ofList name) = String.ofList name :=
  (decodedName_eq_iff (by rw [String.toList_ofList]; exact h.noNull)).mpr h.whole

/-- An empty file of that name in a new volume is all its root directory lists. -/
theorem Short.listed {name : List Char} (h : Short name) : ∃ fs, ReachedBy Change.Whole fs ∧
    Returns (listFilesInDirectory fs.firstClusterOfRoot "") fs fun files _ =>
      files.map FileInfo.name = [String.ofList name] := by
  obtain ⟨g, d, before, n, _, _, hrep, hroot, hn, htaken, hnone, -⟩ := volume64MB_root
  have habsent : ∀ e ∈ sets before, ¬ e.Named (toLowercase (String.ofList name)) := by
    rw [hnone]
    exact fun e he => nomatch he
  obtain ⟨_, fs, hrun, now, d', hrep', hroot'⟩ := hroot.writeEmpty_returns hrep htaken h.parsePath
    h.nameFits habsent (Nat.le_trans h.chunks_le hn) false false
  have htaken' : ∀ item ∈ before ++ [.set ⟨String.ofList name, 0, 0, false, now⟩],
      item.isFree = false := by
    intro item hitem
    rcases List.mem_append.mp hitem with hitem | hitem
    · exact htaken item hitem
    · rw [List.mem_singleton.mp hitem]
      rfl
  have hwhole : (Change.create (.writeFilePath (String.ofList name) [] false false)).Whole := by
    intro created hcreated
    have hname : created = String.ofList name := by
      simpa [Creation.names, pathNames, h.parsePath] using hcreated
    subst hname
    exact ⟨by rw [String.toList_ofList]; exact h.noNull, h.whole⟩
  refine ⟨fs, .step _ (.opened volume64MB_new) hwhole hrun, ?_⟩
  rw [hrep'.params]
  refine (hroot'.list_returns hrep' (blanks_ordered htaken' _) "").mono ?_
  rintro files _ rfl
  have hsets : sets (before ++ [.set ⟨String.ofList name, 0, 0, false, now⟩] ++
      blanks (n - (2 + (nameChunks (encodeUtf16 (String.ofList name))).length))) =
        [⟨String.ofList name, 0, 0, false, now⟩] := by
    rw [sets_append, sets_append, hnone, sets_blanks, List.append_nil]
    rfl
  have hsome : decide (decodedName (String.ofList name) ≠ "") = true := by
    rw [h.reads]
    exact decide_eq_true fun hempty => h.nameFits (.inl hempty)
  simp only [hsets, infos, List.filter_cons, hsome, if_true, List.filter_nil, List.map_singleton]
  exact congrArg (fun read => [read]) h.reads

/-! ## Alphabets -/

/-- Two short names of an alphabet that folds by the table are compared alike: one is created
in a new volume and the other looked up. -/
theorem FoldsByTable.agrees {A : Alphabet} (h : FoldsByTable A) {a b : List Char} (ha : Short a)
    (hspelled : A.Spells (String.ofList a)) (hspelled' : A.Spells (String.ofList b)) :
    toLowercase (String.ofList a) = toLowercase (String.ofList b) ↔
      upcased (String.ofList a) = upcased (String.ofList b) := by
  obtain ⟨fs, hreached, files, _, hlist, hnames⟩ := ha.listed
  obtain ⟨_, _, hlist', hfolds⟩ := h fs _ hreached .root
  obtain ⟨_, _, hlist'', -, hfinds⟩ := hreached.listsNames .root
  cases hlist.symm.trans hlist'
  cases hlist.symm.trans hlist''
  have hall : ∀ item ∈ files, item.name = String.ofList a := fun item hitem =>
    List.mem_singleton.mp (hnames ▸ List.mem_map_of_mem hitem)
  obtain ⟨first, hfirst⟩ : ∃ first, first ∈ files :=
    List.exists_mem_of_ne_nil _ fun hnil => by simp [hnil] at hnames
  obtain ⟨-, hup⟩ := hfolds fun item hitem => (hall item hitem) ▸ hspelled
  obtain ⟨found, _, hfind, hup⟩ := hup _ hspelled'
  obtain ⟨_, _, hfind', hlower⟩ := hfinds (String.ofList b)
  cases hfind.symm.trans hfind'
  have hone (fold : String → Prop) :
      (∃ item ∈ files, fold item.name) ↔ fold (String.ofList a) :=
    ⟨fun ⟨item, hitem, hfold⟩ => hall item hitem ▸ hfold,
      fun hfold => ⟨first, hfirst, (hall first hfirst).symm ▸ hfold⟩⟩
  rw [← hone (toLowercase · = toLowercase (String.ofList b)), ← hlower, hup,
    hone (upcased · = upcased (String.ofList b))]

end

/-- The lookup with these Unicode tables. -/
abbrev CaseTables.lowercase (u : CaseTables) : Lowercase := ⟨u.toLowercase⟩

/-- **Case folding.** With the Unicode tables of any version: in every state that runs reach
the directories with names over an alphabet hold no two names that are up-cased alike, and
find a name exactly when an entry is up-cased like it, if and only if the alphabet is
unambiguous. -/
theorem folds_by_table_iff (u : CaseTables) (A : Alphabet) :
    @FoldsByTable u.lowercase A ↔ u.Unambiguous A.chars := by
  let _ : Lowercase := u.lowercase
  constructor
  · intro h
    refine CaseTables.unambiguous_of_agrees fun a b ha _ hshort _ hA hA' => ?_
    have hname : Short a := ⟨ha, hshort, fun hmem => A.noSlash (hA _ hmem),
      fun hmem => A.noNull (hA _ hmem)⟩
    exact h.agrees hname (fun c hc => hA c (by rwa [String.toList_ofList] at hc))
      fun c hc => hA' c (by rwa [String.toList_ofList] at hc)
  · intro h fs k hreached hlive
    exact (hreached.listsNames hlive).foldsDirectory fun a b ha hb =>
      CaseTables.agrees_of_unambiguous h ha hb

/-! ## ASCII, and the long s -/

/-- `char::to_ascii_lowercase` changes the letters from A to Z only. -/
theorem toLower_cases (c : Char) :
    c.toLower = c ∨ ((65 ≤ c.toNat ∧ c.toNat ≤ 90) ∧ c.toLower.toNat = c.toNat + 32) := by
  by_cases hupper : c.val ≥ 'A'.val ∧ c.val ≤ 'Z'.val
  · refine .inr ⟨⟨hupper.1, hupper.2⟩, ?_⟩
    have hsmall : c.val.toNat ≤ 90 := hupper.2
    have hshift : ('a'.val - 'A'.val).toNat = 32 := by decide
    unfold Char.toLower
    rw [dif_pos hupper]
    show (c.val + ('a'.val - 'A'.val)).toNat = c.val.toNat + 32
    rw [UInt32.toNat_add, hshift]
    omega
  · exact .inl (dif_neg hupper)

/-- Tables that know the lower case of ASCII, İ and Σ, and take every character for a
letter. -/
def sampleTables : CaseTables where
  lower c := if c = 'İ' then ['i', '\u0307'] else if c = 'Σ' then ['σ'] else [c.toLower]
  cased _ := true
  caseIgnorable _ := false
  ascii c hc := by
    have hI : c ≠ 'İ' := by rintro rfl; exact absurd hc (by decide)
    have hsigma : c ≠ 'Σ' := by rintro rfl; exact absurd hc (by decide)
    rw [if_neg hI, if_neg hsigma]
  dotted := by decide
  single c hc := by
    rw [if_neg hc]
    split <;> exact ⟨_, rfl⟩
  of_i c hc := by
    split_ifs at hc
    · exact absurd hc (by decide)
    · exact absurd hc (by decide)
    · rcases toLower_cases c with hlower | ⟨-, hlower⟩
      · exact .inl (hlower ▸ List.singleton_inj.mp hc)
      · rw [List.singleton_inj.mp hc] at hlower
        have hunits : ('i' : Char).toNat = 105 ∧ ('I' : Char).toNat = 73 := by decide
        exact .inr (Char.toNat_inj.mp (by omega))
  of_dot c hc := by
    split_ifs at hc
    · exact absurd hc (by decide)
    · exact absurd hc (by decide)
    · rcases toLower_cases c with hlower | ⟨hbounds, hlower⟩
      · exact hlower ▸ List.singleton_inj.mp hc
      · rw [List.singleton_inj.mp hc] at hlower
        have : ('\u0307' : Char).toNat = 0x307 := by decide
        omega
  dot := by decide
  sigma := by decide
  finalSigma := by decide
  of_sigma c hc := by
    split_ifs at hc with hI hsigma
    · exact absurd hc (by decide)
    · exact .inl hsigma
    · rcases toLower_cases c with hlower | ⟨hbounds, hlower⟩
      · rw [hlower, List.singleton_inj, List.singleton_inj] at hc
        exact .inr hc
      · have hsmall : ('σ' : Char).toNat = 0x3C3 ∧ ('ς' : Char).toNat = 0x3C2 := by decide
        rw [List.singleton_inj, List.singleton_inj] at hc
        rcases hc with hc | hc <;> rw [hc] at hlower <;> omega
  letter _ _ _ _ := ⟨rfl, rfl⟩

/-- Everything that may stand in a name. -/
def nameAlphabet : Alphabet := ⟨{c | c ≠ '/' ∧ c ≠ '\x00'}, by simp, by simp⟩

/-- **The long s.** A file named s is not found by the name ſ, which is up-cased to S like
it. -/
theorem long_s_missed : ¬ ∀ u : CaseTables, @FoldsByTable u.lowercase nameAlphabet := by
  intro halways
  let _ : Lowercase := sampleTables.lowercase
  have hspelled (c : Char) (hslash : c ≠ '/') (hnull : c ≠ '\x00') :
      nameAlphabet.Spells (String.ofList [c]) := by
    intro x hx
    rw [String.toList_ofList, List.mem_singleton] at hx
    exact hx ▸ ⟨hslash, hnull⟩
  have hagree := (halways sampleTables).agrees (a := ['s'])
    ⟨by decide, by decide, by decide, by decide⟩ (hspelled 's' (by decide) (by decide))
    (hspelled 'ſ' (by decide) (by decide))
  exact absurd (hagree.mpr (by decide)) (by decide)

end StreamBox.Exfat
