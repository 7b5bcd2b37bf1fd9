import StreamBox.Exfat.ChunkedWrites
import StreamBox.Exfat.DirectoryStructure
import StreamBox.Exfat.NameRoundTrip
import StreamBox.Exfat.UniqueNames

/-!
# The files of a volume as a map

A volume is a map from paths, folded component by component, to the bytes of files.

* **Map** — what each change does to the map (`Change.apply`).
* **Tree** — the files that entries lead to from the root directory (`FileAt`); adding an entry
  adds one file or none, and cutting one off takes what is at its path and below it.
* **Runs** — in a run that creates only whole names and overwrites no directory, reading a path
  gives what the map has (`files_refine_map`).
-/

namespace StreamBox.Exfat

/-! ## Maps -/

/-- The bytes of the files, by the folded components of their paths. -/
abbrev FileMap := List String → Option (List UInt8)

namespace FileMap

def empty : FileMap := fun _ => none

/-- The file at a path has these bytes. -/
def put (m : FileMap) (path : List String) (data : List UInt8) : FileMap :=
  Function.update m path (some data)

/-- There is no file at a path. -/
def remove (m : FileMap) (path : List String) : FileMap := Function.update m path none

/-- There is no file at a path or below it. -/
def removeBelow (m : FileMap) (path : List String) : FileMap :=
  fun p => if path <+: p then none else m p

end FileMap

/-- The components of the path that a creation names. -/
def Creation.components : Creation → List String
  | writeFile name _ => [name]
  | writeFilePath path _ _ _ => parsePath path
  | stream (.root name _) _ _ => [name]
  | stream (.path path _ _) _ _ => parsePath path
  | createDirectory path _ => parsePath path

/-- The bytes that a creation writes, if it creates a file. -/
def Creation.written : Creation → Option (List UInt8)
  | writeFile _ data => some data
  | writeFilePath _ data _ _ => some data
  | stream _ _ chunks => some chunks.flatten
  | createDirectory _ _ => none

section

variable [Lowercase]

/-- The key of a path. -/
def folded (components : List String) : List String := components.map toLowercase

/-- What a change does to the map. -/
def Change.apply (m : FileMap) : Change → FileMap
  | create c =>
    match c.written with
    | some data => m.put (folded c.components) data
    | none => m
  | deletePath path => m.remove (folded (parsePath path))
  | deleteRecursive _ path => m.removeBelow (folded (parsePath path))

/-- What a row of changes leaves of a volume without files. -/
def contents (changes : List Change) : FileMap := changes.foldl Change.apply .empty

/-! ## Files of the tree -/

variable {g : VolumeParams} {t t' : Table} {label label' : Nat → List String} {fs : ExfatFs}
  {k x : Nat} {e : EntrySet} {rows : Rows} {path : List String} {data : List UInt8}

omit [Lowercase] in
/-- The directories that entries lead to from the root directory. -/
inductive Attached (g : VolumeParams) (t : Table) : Nat → Prop
  | root : Attached g t g.firstClusterOfRoot
  | entry {k : Nat} {rows : Rows} {e : EntrySet} : Attached g t k → t k = some (.dir rows) →
      e ∈ rowSets rows → e.isDir = true → Attached g t e.firstCluster

/-- The file at a path, and its bytes. -/
def FileAt (g : VolumeParams) (t : Table) (label : Nat → List String) (path : List String)
    (data : List UInt8) : Prop :=
  ∃ k rows e, Attached g t k ∧ t k = some (.dir rows) ∧ e ∈ rowSets rows ∧ e.isDir = false ∧
    path = label k ++ [e.folded] ∧ data = e.data t

theorem Attached.dir (h : Attached g t k) (hwf : Wf g t label) :
    ∃ rows, t k = some (.dir rows) := by
  cases h with
  | root => exact hwf.root
  | entry _ ho he hdir => exact (hwf.dir_of_mem ho he hdir).2.2

/-- The label of a directory below another one. -/
theorem Wf.label_below (hwf : Wf g t label) (ho : t k = some (.dir rows)) (he : e ∈ rowSets rows)
    (hdir : e.isDir = true) : label e.firstCluster = label k ++ [e.folded] := by
  obtain ⟨hne, -⟩ := hwf.dir_of_mem ho he hdir
  exact ((hwf.entries k rows ho e he).2.object hne).2.2

/-- A set is what a lookup of its name finds. -/
theorem Unique.find? (h : Unique t) (ho : t k = some (.dir rows)) (he : e ∈ rowSets rows) :
    (rowSets rows).find? (fun e' => decide (e'.folded = e.folded)) = some e := by
  obtain ⟨p, rfl⟩ := Place.of_mem he
  refine find?_first (f := e.folded) rfl fun e' he' hnamed => ?_
  obtain ⟨hdiffer, -⟩ := h k _ ho
  rw [Place.rowSets_fill, List.append_assoc] at hdiffer
  exact (List.pairwise_append.mp hdiffer).2.2 e' he' e (by simp [sets]) hnamed

/-- The walk along the label of a directory leads to it. -/
theorem Attached.walk (h : Attached g t k) (hwf : Wf g t label) (hunique : Unique t) :
    walk t g.firstClusterOfRoot (label k) = some k := by
  induction h with
  | root =>
    rw [hwf.rootLabel]
    rfl
  | @entry k rows e _ ho he hdir ih =>
    rw [hwf.label_below ho he hdir]
    exact walk_concat_iff.mpr ⟨k, rows, e, ih, ho, hunique.find? ho he, hdir, rfl⟩

theorem Attached.label_inj (h : Attached g t k) (hx : Attached g t x) (hwf : Wf g t label)
    (hunique : Unique t) (hsame : label x = label k) : x = k := by
  have hwalk := hx.walk hwf hunique
  rw [hsame, h.walk hwf hunique] at hwalk
  exact (Option.some.inj hwalk).symm

/-- A walk stays among the directories that are reached. -/
theorem Attached.of_walk {names : List String} (h : Attached g t k)
    (hwalk : Exfat.walk t k names = some x) : Attached g t x := by
  induction names generalizing k with
  | nil =>
    cases hwalk
    exact h
  | cons f rest ih =>
    obtain ⟨rows, e, ho, hfind, hdir, hrest⟩ := walk_cons_iff.mp hwalk
    exact ih (h.entry ho (List.mem_of_find?_eq_some hfind) hdir) hrest

/-- What is reached below an entry is reached through its directory. -/
theorem Attached.through (hk : Attached g t k) (hx : Attached g t x) (hwf : Wf g t label)
    (hunique : Unique t) (ho : t k = some (.dir rows)) (he : e ∈ rowSets rows)
    (hbelow : label k ++ [e.folded] <+: label x) : e.isDir = true ∧
      ∃ rest, label x = label k ++ [e.folded] ++ rest ∧
        Exfat.walk t e.firstCluster rest = some x := by
  obtain ⟨rest, hrest⟩ := hbelow
  have hwalk := hx.walk hwf hunique
  rw [← hrest] at hwalk
  obtain ⟨j, hfirst, hsecond⟩ := walk_append_iff.mp hwalk
  obtain ⟨k', rows', e', hparent, ho', hfind, hdir, rfl⟩ := walk_concat_iff.mp hfirst
  obtain rfl : k = k' := Option.some.inj ((hk.walk hwf hunique).symm.trans hparent)
  cases ho.symm.trans ho'
  obtain rfl : e = e' := Option.some.inj ((hunique.find? ho he).symm.trans hfind)
  exact ⟨hdir, rest, hrest.symm, hsecond⟩

/-! ## Adding an entry -/

omit [Lowercase] in
/-- A file that stays has the same bytes. -/
theorem EntrySet.data_congr (h : e.firstCluster ≠ 0 → t' e.firstCluster = t e.firstCluster) :
    e.data t' = e.data t := by
  by_cases hzero : e.firstCluster = 0
  · rw [EntrySet.data, EntrySet.data, if_pos hzero, if_pos hzero]
  · rw [EntrySet.data, EntrySet.data, if_neg hzero, if_neg hzero, h hzero]

omit [Lowercase] in
/-- An object that was there is not the new one. -/
theorem Adds.not_owns (h : Adds t label k e t' label') (hx : t x ≠ none) : ¬ e.Owns x := by
  rintro ⟨hne, rfl⟩
  exact hx (h.new hne)

omit [Lowercase] in
/-- The entries of a directory that was there: the old ones, and in `k` the new one. -/
theorem mem_adds_iff (h : Adds t label k e t' label') (ho : t x = some (.dir rows))
    {e' : EntrySet} : (∃ rows', t' x = some (.dir rows') ∧ e' ∈ rowSets rows') ↔
      e' ∈ rowSets rows ∨ (x = k ∧ e' = e) := by
  obtain ⟨old, new, hold, hnew, -, before, after, hbefore, hafter⟩ := h.edit
  by_cases hxk : x = k
  · subst hxk
    cases ho.symm.trans hold
    constructor
    · rintro ⟨rows', hrows', he'⟩
      cases hnew.symm.trans hrows'
      rw [hafter] at he'
      rw [hbefore]
      rcases List.mem_append.mp he' with hmem | hmem
      · exact Or.inl (List.mem_append_left _ hmem)
      · rcases List.mem_cons.mp hmem with rfl | hmem
        · exact Or.inr ⟨rfl, rfl⟩
        · exact Or.inl (List.mem_append_right _ hmem)
    · intro hmem
      refine ⟨new, hnew, ?_⟩
      rw [hafter]
      rcases hmem with hmem | ⟨-, rfl⟩
      · rw [hbefore] at hmem
        rcases List.mem_append.mp hmem with hmem | hmem
        · exact List.mem_append_left _ hmem
        · exact List.mem_append_right _ (List.mem_cons_of_mem _ hmem)
      · exact List.mem_append_right _ List.mem_cons_self
  · have hsame : t' x = t x := h.others x hxk (h.not_owns (by rw [ho]; exact Option.some_ne_none _))
    rw [hsame, ho]
    constructor
    · rintro ⟨rows', hrows', he'⟩
      cases hrows'
      exact Or.inl he'
    · rintro (hmem | ⟨hxk', -⟩)
      · exact ⟨rows, rfl, hmem⟩
      · exact absurd hxk' hxk

/-- A new directory is attached, and nothing else changes. -/
theorem attached_adds_iff (h : Adds t label k e t' label') (hwf : Wf g t label)
    (hwf' : Wf g t' label') (hk : Attached g t k) :
    Attached g t' x ↔ Attached g t x ∨ (e.isDir = true ∧ x = e.firstCluster) := by
  have hold : ∀ x, Attached g t x → Attached g t' x := by
    intro x hx
    induction hx with
    | root => exact .root
    | entry hreach ho he hdir ih =>
      obtain ⟨rows', hrows', he'⟩ := (mem_adds_iff h ho).mpr (Or.inl he)
      exact ih.entry hrows' he' hdir
  constructor
  · intro hx
    induction hx with
    | root => exact Or.inl .root
    | @entry x rows' e' _ ho' he' hdir ih =>
      rcases ih with hx | ⟨hnewdir, rfl⟩
      · obtain ⟨rows, ho⟩ := hx.dir hwf
        rcases (mem_adds_iff h ho).mp ⟨rows', ho', he'⟩ with hmem | ⟨-, rfl⟩
        · exact Or.inl (hx.entry ho hmem hdir)
        · exact Or.inr ⟨hdir, rfl⟩
      · -- the new directory is blank
        obtain ⟨rows, ho⟩ := hk.dir hwf
        obtain ⟨rows₁, hrows₁, he⟩ := (mem_adds_iff h ho).mpr (Or.inr ⟨rfl, rfl⟩)
        obtain ⟨hne, -⟩ := hwf'.dir_of_mem hrows₁ he hnewdir
        obtain ⟨-, hblank⟩ := h.blank hne rows' ho'
        rw [hblank] at he'
        cases he'
  · rintro (hx | ⟨hdir, rfl⟩)
    · exact hold x hx
    · obtain ⟨rows, ho⟩ := hk.dir hwf
      obtain ⟨rows₁, hrows₁, he⟩ := (mem_adds_iff h ho).mpr (Or.inr ⟨rfl, rfl⟩)
      exact (hold k hk).entry hrows₁ he hdir

/-- The files are the old ones and a new one, if the entry is a file's. -/
theorem fileAt_adds_iff (h : Adds t label k e t' label') (hwf : Wf g t label)
    (hwf' : Wf g t' label') (hk : Attached g t k) :
    FileAt g t' label' path data ↔ FileAt g t label path data ∨
      (e.isDir = false ∧ path = label k ++ [e.folded] ∧ data = e.data t') := by
  have hlabel : ∀ x, Attached g t x → label' x = label x := by
    intro x hx
    obtain ⟨rows, ho⟩ := hx.dir hwf
    exact h.labels x (h.not_owns (by rw [ho]; exact Option.some_ne_none _))
  have hdata : ∀ x rows e', t x = some (.dir rows) → e' ∈ rowSets rows → e'.isDir = false →
      e'.data t' = e'.data t := by
    intro x rows e' ho he' hfile
    refine EntrySet.data_congr fun hne => ?_
    cases (hwf.entries x rows ho e' he').2 with
    | empty hzero => exact absurd hzero hne
    | file file _ hobject =>
      refine h.others _ ?_ (h.not_owns (by rw [hobject]; exact Option.some_ne_none _))
      rintro hsame
      obtain ⟨rows, ho⟩ := hk.dir hwf
      rw [hsame, ho] at hobject
      cases hobject
    | dir _ _ _ hdir => exact absurd (hdir.symm.trans hfile) (by simp)
  constructor
  · rintro ⟨x, rows', e', hx, ho', he', hfile, rfl, rfl⟩
    rcases (attached_adds_iff h hwf hwf' hk).mp hx with hx | ⟨hnewdir, rfl⟩
    · obtain ⟨rows, ho⟩ := hx.dir hwf
      rw [hlabel x hx]
      rcases (mem_adds_iff h ho).mp ⟨rows', ho', he'⟩ with hmem | ⟨rfl, rfl⟩
      · exact Or.inl ⟨x, rows, e', hx, ho, hmem, hfile, rfl, hdata x rows e' ho hmem hfile⟩
      · exact Or.inr ⟨hfile, rfl, rfl⟩
    · obtain ⟨rows, ho⟩ := hk.dir hwf
      obtain ⟨rows₁, hrows₁, he⟩ := (mem_adds_iff h ho).mpr (Or.inr ⟨rfl, rfl⟩)
      obtain ⟨hne, -⟩ := hwf'.dir_of_mem hrows₁ he hnewdir
      obtain ⟨-, hblank⟩ := h.blank hne rows' ho'
      rw [hblank] at he'
      cases he'
  · rintro (⟨x, rows, e', hx, ho, he', hfile, rfl, rfl⟩ | ⟨hfile, rfl, rfl⟩)
    · obtain ⟨rows', hrows', hmem⟩ := (mem_adds_iff h ho).mpr (Or.inl he')
      exact ⟨x, rows', e', (attached_adds_iff h hwf hwf' hk).mpr (Or.inl hx), hrows', hmem, hfile,
        by rw [hlabel x hx], (hdata x rows e' ho he' hfile).symm⟩
    · obtain ⟨rows, ho⟩ := hk.dir hwf
      obtain ⟨rows₁, hrows₁, he⟩ := (mem_adds_iff h ho).mpr (Or.inr ⟨rfl, rfl⟩)
      exact ⟨k, rows₁, e, (attached_adds_iff h hwf hwf' hk).mpr (Or.inl hk), hrows₁, he, hfile,
        by rw [hlabel k hk], rfl⟩

/-! ## Cutting an entry off -/

/-- The entries that stay in an attached directory that is not cut off. -/
theorem Cuts.entries_iff {p : Place} (h : Cuts t label k p e t') (hunique : Unique t)
    (ho : t x = some (.dir rows)) (hkept : ¬ label k ++ [e.folded] <+: label x) {e' : EntrySet} :
    (∃ rows', t' x = some (.dir rows') ∧ e' ∈ rowSets rows') ↔
      e' ∈ rowSets rows ∧ ¬ (x = k ∧ e'.folded = e.folded) := by
  by_cases hxk : x = k
  · subst hxk
    cases ho.symm.trans h.before
    rw [h.after]
    have hsets : ∀ e', e' ∈ rowSets (p.fill e.deleted) ↔ e' ∈ p.setsBefore ∨ e' ∈ p.setsAfter := by
      intro e'
      rw [Place.rowSets_fill, sets_deleted, List.append_nil, List.mem_append]
    have hall : ∀ e', e' ∈ rowSets (p.fill [.set e]) ↔
        e' ∈ p.setsBefore ∨ e' = e ∨ e' ∈ p.setsAfter := by
      intro e'
      rw [Place.rowSets_set, List.mem_append, List.mem_cons]
    obtain ⟨hdiffer, -⟩ := hunique x _ ho
    rw [Place.rowSets_set, List.pairwise_middle fun hab => Ne.symm hab, List.pairwise_cons]
      at hdiffer
    constructor
    · rintro ⟨rows', hrows', he'⟩
      cases hrows'
      have hmem := (hsets e').mp he'
      refine ⟨(hall e').mpr (hmem.imp_right Or.inr), fun hsame => ?_⟩
      exact hdiffer.1 e' (List.mem_append.mpr hmem) hsame.2.symm
    · rintro ⟨hmem, hother⟩
      refine ⟨_, rfl, (hsets e').mpr ?_⟩
      rcases (hall e').mp hmem with hmem | rfl | hmem
      · exact Or.inl hmem
      · exact absurd ⟨rfl, rfl⟩ hother
      · exact Or.inr hmem
  · rw [h.others x hxk hkept, ho]
    constructor
    · rintro ⟨rows', hrows', he'⟩
      cases hrows'
      exact ⟨he', fun hsame => hxk hsame.1⟩
    · rintro ⟨hmem, -⟩
      exact ⟨rows, rfl, hmem⟩

/-- A path below an attached directory is cut off with the directory, or is the one cut off. -/
theorem Attached.cut_iff (hk : Attached g t k) (hx : Attached g t x) (hwf : Wf g t label)
    (hunique : Unique t) {f f' : String} (hkept : ¬ label k ++ [f] <+: label x) :
    label k ++ [f] <+: label x ++ [f'] ↔ x = k ∧ f' = f := by
  rw [List.prefix_concat_iff]
  constructor
  · rintro (heq | hbelow)
    · obtain ⟨hlabel, hname⟩ := List.append_inj' heq rfl
      refine ⟨hk.label_inj hx hwf hunique hlabel.symm, ?_⟩
      exact (List.cons.inj hname).1.symm
    · exact absurd hbelow hkept
  · rintro ⟨rfl, rfl⟩
    exact Or.inl rfl

/-- What is below the entry is detached, and nothing else. -/
theorem Cuts.attached_iff {p : Place} (h : Cuts t label k p e t') (hwf : Wf g t label)
    (hunique : Unique t) (hk : Attached g t k) :
    Attached g t' x ↔ Attached g t x ∧ ¬ label k ++ [e.folded] <+: label x := by
  constructor
  · intro hx
    induction hx with
    | root =>
      refine ⟨.root, ?_⟩
      rw [hwf.rootLabel, List.prefix_nil]
      simp
    | @entry x rows' e' _ ho' he' hdir ih =>
      obtain ⟨hx, hkept⟩ := ih
      obtain ⟨rows, ho⟩ := hx.dir hwf
      obtain ⟨hmem, hother⟩ := (h.entries_iff hunique ho hkept).mp ⟨rows', ho', he'⟩
      refine ⟨hx.entry ho hmem hdir, ?_⟩
      rw [hwf.label_below ho hmem hdir, hk.cut_iff hx hwf hunique hkept]
      exact hother
  · rintro ⟨hx, hkept⟩
    induction hx with
    | root => exact .root
    | @entry x rows e' hx ho he' hdir ih =>
      rw [hwf.label_below ho he' hdir] at hkept
      have hparent : ¬ label k ++ [e.folded] <+: label x := fun hbelow =>
        hkept (hbelow.trans (List.prefix_append _ _))
      rw [hk.cut_iff hx hwf hunique hparent] at hkept
      obtain ⟨rows', hrows', hmem⟩ := (h.entries_iff hunique ho hparent).mpr ⟨he', hkept⟩
      exact (ih hparent).entry hrows' hmem hdir

/-- The files at the path of the entry and below it are gone, and no others. -/
theorem Cuts.fileAt_iff {p : Place} (h : Cuts t label k p e t') (hwf : Wf g t label)
    (hunique : Unique t) (hk : Attached g t k) :
    FileAt g t' label path data ↔
      FileAt g t label path data ∧ ¬ label k ++ [e.folded] <+: path := by
  have hdata : ∀ x rows e', t x = some (.dir rows) → e' ∈ rowSets rows → e'.isDir = false →
      ¬ label k ++ [e.folded] <+: label x ++ [e'.folded] → e'.data t' = e'.data t := by
    intro x rows e' ho he' hfile hkept
    refine EntrySet.data_congr fun hne => ?_
    cases (hwf.entries x rows ho e' he').2 with
    | empty hzero => exact absurd hzero hne
    | file file _ hobject _ _ hlabel =>
      refine h.others _ ?_ (by rw [hlabel]; exact hkept)
      rintro hsame
      rw [hsame, h.before] at hobject
      cases hobject
    | dir _ _ _ hdir => exact absurd (hdir.symm.trans hfile) (by simp)
  constructor
  · rintro ⟨x, rows', e', hx, ho', he', hfile, rfl, rfl⟩
    obtain ⟨hx, hkept⟩ := (h.attached_iff hwf hunique hk).mp hx
    obtain ⟨rows, ho⟩ := hx.dir hwf
    obtain ⟨hmem, hother⟩ := (h.entries_iff hunique ho hkept).mp ⟨rows', ho', he'⟩
    rw [← hk.cut_iff hx hwf hunique hkept] at hother
    exact ⟨⟨x, rows, e', hx, ho, hmem, hfile, rfl, hdata x rows e' ho hmem hfile hother⟩, hother⟩
  · rintro ⟨⟨x, rows, e', hx, ho, he', hfile, rfl, rfl⟩, hother⟩
    have hkept : ¬ label k ++ [e.folded] <+: label x := fun hbelow =>
      hother (hbelow.trans (List.prefix_append _ _))
    have hdiffer := hother
    rw [hk.cut_iff hx hwf hunique hkept] at hdiffer
    obtain ⟨rows', hrows', hmem⟩ := (h.entries_iff hunique ho hkept).mpr ⟨he', hdiffer⟩
    exact ⟨x, rows', e', (h.attached_iff hwf hunique hk).mpr ⟨hx, hkept⟩, hrows', hmem, hfile, rfl,
      (hdata x rows e' ho he' hfile hother).symm⟩

/-! ## Putting and deleting -/

/-- Nothing is at a path that is free, or below it. -/
theorem FileAt.not_free (h : FileAt g t label path data) (hwf : Wf g t label) (hunique : Unique t)
    (hk : Attached g t k) (ho : t k = some (.dir rows)) {f : String}
    (hnone : ∀ e ∈ rowSets rows, e.folded ≠ f) : path ≠ label k ++ [f] := by
  rintro rfl
  obtain ⟨x, rows', e', hx, ho', he', -, hpath, -⟩ := h
  obtain ⟨hlabel, hname⟩ := List.append_inj' hpath rfl
  obtain rfl := hk.label_inj hx hwf hunique hlabel.symm
  cases ho.symm.trans ho'
  exact hnone e' he' (List.cons.inj hname).1.symm

/-- At the path of an entry or below it, if no directory is below: the entry itself. -/
theorem FileAt.at_entry (h : FileAt g t label path data) (hwf : Wf g t label)
    (hunique : Unique t) (hk : Attached g t k) (ho : t k = some (.dir rows))
    (he : e ∈ rowSets rows) (hbelow : label k ++ [e.folded] <+: path)
    (hblank : e.isDir = true → ∀ below, t e.firstCluster = some (.dir below) →
      rowSets below = []) : path = label k ++ [e.folded] := by
  obtain ⟨x, rows', e', hx, ho', he', -, rfl, -⟩ := h
  by_cases hkept : label k ++ [e.folded] <+: label x
  · -- a directory at or below the entry would have entries
    obtain ⟨hdir, rest, -, hwalk⟩ := hk.through hx hwf hunique ho he hkept
    obtain ⟨-, -, below, hobject⟩ := hwf.dir_of_mem ho he hdir
    have hempty := hblank hdir below hobject
    cases rest with
    | nil =>
      cases hwalk
      cases hobject.symm.trans ho'
      rw [hempty] at he'
      cases he'
    | cons f rest =>
      obtain ⟨rows₁, e₁, ho₁, hfind, -⟩ := walk_cons_iff.mp hwalk
      cases hobject.symm.trans ho₁
      rw [hempty] at hfind
      cases hfind
  · obtain ⟨rfl, hname⟩ := (hk.cut_iff hx hwf hunique hkept).mp hbelow
    rw [hname]

/-- Clearing the name of a file takes the file there. -/
theorem Clears.fileAt_iff {f : String} {allowed : EntrySet → Prop}
    (h : Clears t k f allowed t') (hfile : ∀ e, allowed e → e.isDir = false) (hwf : Wf g t label)
    (hunique : Unique t) (hk : Attached g t k) :
    Attached g t' k ∧
      (FileAt g t' label path data ↔ FileAt g t label path data ∧ path ≠ label k ++ [f]) := by
  cases h with
  | absent rows ho hnone =>
    exact ⟨hk, fun h => ⟨h, h.not_free hwf hunique hk ho hnone⟩, And.left⟩
  | removed p e hnamed _ hallowed hremoves =>
    have hcuts := hremoves.cuts hwf
    have hname : e.folded = f := hnamed
    subst hname
    constructor
    · refine (hcuts.attached_iff hwf hunique hk).mpr ⟨hk, fun hbelow => ?_⟩
      have hlen := hbelow.length_le
      rw [List.length_append, List.length_singleton] at hlen
      omega
    · rw [hcuts.fileAt_iff hwf hunique hk]
      refine and_congr_right fun h => not_congr ⟨fun hbelow => ?_, fun hpath => ?_⟩
      · refine h.at_entry hwf hunique hk hremoves.before (p.mem_fill e) hbelow fun hdir => ?_
        exact absurd (hdir.symm.trans (hfile e hallowed)) (by simp)
      · rw [hpath]

/-- Putting a file at a name. -/
theorem Puts.fileAt_iff {name : String} {allowed : EntrySet → Prop} {bytes : List UInt8 → Prop}
    (h : Puts g t label k name allowed bytes t' label') (hfile : ∀ e, allowed e → e.isDir = false)
    (hname : decodedName name = name) (hwf : Wf g t label) (hunique : Unique t)
    (hk : Attached g t k) : Unique t' ∧ ∃ now, bytes now ∧ ∀ path data,
      FileAt g t' label' path data ↔ if path = label k ++ [toLowercase name] then data = now
        else FileAt g t label path data := by
  obtain ⟨t₁, e, hclears, hwf₁, hadds, hwf', hename, hisfile, hbytes⟩ := h
  obtain ⟨hunique₁, hnone⟩ := hclears.unique hunique
  have hfolded : e.folded = toLowercase name := by
    rw [EntrySet.folded, hename, hname]
  refine ⟨hunique₁.adds hadds (hename ▸ hname) fun rows hrows e' he' => ?_, e.data t', hbytes, ?_⟩
  · rw [hfolded]
    exact hnone rows hrows e' he'
  · intro path data
    obtain ⟨hk₁, hcleared⟩ : Attached g t₁ k ∧ (FileAt g t₁ label path data ↔
        FileAt g t label path data ∧ path ≠ label k ++ [toLowercase name]) :=
      hclears.fileAt_iff hfile hwf hunique hk
    rw [fileAt_adds_iff hadds hwf₁ hwf' hk₁, hcleared, hfolded]
    by_cases hpath : path = label k ++ [toLowercase name]
    · rw [if_pos hpath]
      constructor
      · rintro (⟨-, hne⟩ | ⟨-, -, hdata⟩)
        · exact absurd hpath hne
        · exact hdata
      · exact fun hdata => Or.inr ⟨hisfile, hpath, hdata⟩
    · rw [if_neg hpath]
      constructor
      · rintro (⟨h, -⟩ | ⟨-, hp, -⟩)
        · exact h
        · exact absurd hp hpath
      · exact fun h => Or.inl ⟨h, hpath⟩

/-- Following a path makes no file, and ends at the label of its components. -/
theorem Follows.fileAt_iff {createParents : Bool} {components : List String} {k' : Nat}
    (h : Follows g createParents t label k components t' label' k')
    (hnames : createParents = true → ∀ c ∈ components, decodedName c = c) (hwf : Wf g t label)
    (hk : Attached g t k) : Attached g t' k' ∧ label' k' = label k ++ folded components ∧
      ∀ path data, FileAt g t' label' path data ↔ FileAt g t label path data := by
  induction h with
  | nil => exact ⟨hk, (List.append_nil _).symm, fun _ _ => Iff.rfl⟩
  | @found s t l label x k component rest p e ho hnamed _ hdir _ ih =>
    have he := p.mem_fill e
    obtain ⟨hend, hlabel, hfiles⟩ :=
      ih (fun hcreate c hc => hnames hcreate c (List.mem_cons_of_mem _ hc)) hwf (hk.entry ho he hdir)
    have hname : e.folded = toLowercase component := hnamed
    refine ⟨hend, ?_, hfiles⟩
    rw [hlabel, hwf.label_below ho he hdir, hname, List.append_assoc]
    rfl
  | @made s u t l m label x k component rest rows e hcreate ho _ hename hdir hne hadds hwf' _ ih =>
    have hattached := fun y => attached_adds_iff (x := y) hadds hwf hwf' hk
    have hk' : Attached g u e.firstCluster := (hattached _).mpr (Or.inr ⟨hdir, rfl⟩)
    obtain ⟨hend, hlabel, hfiles⟩ :=
      ih (fun hcreate c hc => hnames hcreate c (List.mem_cons_of_mem _ hc)) hwf' hk'
    have hname : e.folded = toLowercase component := by
      rw [EntrySet.folded, hename, hnames hcreate _ List.mem_cons_self]
    refine ⟨hend, ?_, fun path data => ?_⟩
    · obtain ⟨rows', hrows', he⟩ := (mem_adds_iff hadds ho).mpr (Or.inr ⟨rfl, rfl⟩)
      have hkept : m x = l x :=
        hadds.labels x (hadds.not_owns (by rw [ho]; exact Option.some_ne_none _))
      rw [hlabel, hwf'.label_below hrows' he hdir, hname, hkept, List.append_assoc]
      rfl
    · rw [hfiles, fileAt_adds_iff hadds hwf hwf' hk]
      refine ⟨fun h => h.resolve_right fun hnew => ?_, Or.inl⟩
      exact absurd (hdir.symm.trans hnew.1) (by simp)

/-- Deleting a path takes the file there, and recursively what is below it. -/
theorem Deletes.fileAt_iff {file : String} {recursively : Bool}
    (h : Deletes g file t label recursively t') (hwf : Wf g t label) (hunique : Unique t) :
    FileAt g t' label path data ↔ FileAt g t label path data ∧
      ¬ (if recursively = true then folded (parsePath file) <+: path
        else path = folded (parsePath file)) := by
  obtain ⟨p, e, hparsed, hwalk, hnamed, -, hempty, hcuts⟩ := h
  rename_i parents name k
  have hk : Attached g t k := Attached.root.of_walk hwalk
  have hlabel : label k = folded parents := by
    rw [hwf.walk_label hwalk, hwf.rootLabel]
    rfl
  have hname : e.folded = toLowercase name := hnamed
  have hpath : folded (parsePath file) = label k ++ [e.folded] := by
    rw [hparsed, hlabel, hname, folded, List.map_append]
    rfl
  rw [hcuts.fileAt_iff hwf hunique hk, hpath]
  refine and_congr_right fun h => not_congr ?_
  cases recursively with
  | true => rw [if_pos rfl]
  | false =>
    rw [if_neg (by simp)]
    refine ⟨fun hbelow => ?_, fun hsame => hsame ▸ List.prefix_refl _⟩
    refine h.at_entry hwf hunique hk hcuts.before (p.mem_fill e) hbelow fun hdir below hbelow => ?_
    -- a set that is not listed has no name, but names read back and are not empty
    have hlisted := hempty rfl hdir below hbelow
    refine List.eq_nil_iff_forall_not_mem.mpr fun e' he' => ?_
    obtain ⟨-, hdecoded⟩ := hunique _ _ hbelow
    have hok := (hwf.entries _ _ hbelow e' he').1
    rw [infos, List.map_eq_nil_iff, List.filter_eq_nil_iff] at hlisted
    have hnoname := hlisted e' he'
    rw [hdecoded e' he', decide_eq_true_eq, not_not] at hnoname
    refine hok.named ?_
    rw [hnoname]
    rfl

/-! ## Reading -/

/-- The volume stores the files of this map. -/
def StoresMap (fs : ExfatFs) (m : FileMap) : Prop :=
  ∃ g t label, g.Fits ∧ Stores g t fs ∧ Wf g t label ∧ Unique t ∧
    ∀ path data, m path = some data ↔ FileAt g t label path data

/-- Reading a path gives what the map has there; nothing else is read. -/
structure Refines (fs : ExfatFs) (m : FileMap) : Prop where
  stored : ∀ path data, m (folded (parsePath path)) = some data →
    Returns (readFilePath path) fs fun bytes _ => bytes = data
  missing : ∀ path, m (folded (parsePath path)) = none →
    ∃ e fs', (readFilePath path).run fs = .error e fs'
  root : ∀ name data, m [toLowercase name] = some data →
    Returns (readFile name) fs fun bytes _ => bytes = data

/-- A file of an attached directory is read through a lookup of its name. -/
theorem Stores.readFound_returns (h : Stores g t fs) (hwf : Wf g t label) (hunique : Unique t)
    (ho : t k = some (.dir rows)) (he : e ∈ rowSets rows) (hfile : e.isDir = false)
    {location : Option FileEntryLocation} (hfinds : Finds e.folded rows location) :
    ∃ found, location = some found ∧ found.isDirectory = false ∧
      Returns (readFileFromLocation found) fs fun bytes _ => bytes = e.data t := by
  obtain ⟨p, rfl, rfl⟩ := hfinds.find? (hunique.find? ho he)
  exact ⟨p.locate e, rfl, hfile, h.readEntry_returns hwf ho hfile⟩

/-- A file is read by its path. -/
theorem FileAt.read {file : String} (hat : FileAt g t label (folded (parsePath file)) data)
    (h : Stores g t fs) (hwf : Wf g t label) (hunique : Unique t) :
    Returns (readFilePath file) fs fun bytes _ => bytes = data := by
  obtain ⟨x, rows, e, hx, ho, he, hfile, hpath, rfl⟩ := hat
  rcases List.eq_nil_or_concat (parsePath file) with hnil | ⟨parents, name, hparsed⟩
  · rw [hnil] at hpath
    exact absurd hpath.symm (List.append_ne_nil_of_right_ne_nil _ (List.cons_ne_nil _ _))
  · rw [List.concat_eq_append] at hparsed
    rw [hparsed, folded, List.map_append] at hpath
    obtain ⟨hparents, hname⟩ := List.append_inj' hpath rfl
    have hwalk := hx.walk hwf hunique
    rw [← hparents] at hwalk
    refine Returns.bind (h.resolvePath_returns hwf hparsed hwalk ho false) ?_
    rintro resolved fs₁ ⟨h₁, -, -, hfinds⟩
    rw [(List.cons.inj hname).1] at hfinds
    obtain ⟨found, hfound, hkind, hread⟩ := h₁.readFound_returns hwf hunique ho he hfile hfinds
    rw [hfound]
    dsimp only
    rw [if_neg (by rw [hkind]; simp)]
    exact hread

/-- An entry that a path is resolved to, and that is no directory, is a file at the path. -/
theorem Locates.fileAt {file : String} {resolved : ResolvedPath} {parents : List String}
    (hat : Locates g file t resolved parents rows) (hwf : Wf g t label) (he : e ∈ rowSets rows)
    (hnamed : e.Named (toLowercase resolved.name)) (hfile : e.isDir = false) :
    FileAt g t label (folded (parsePath file)) (e.data t) := by
  obtain ⟨hparsed, hwalk, hparent, -⟩ := hat
  refine ⟨_, _, e, Attached.root.of_walk hwalk, hparent, he, hfile, ?_, rfl⟩
  have hname : e.folded = toLowercase resolved.name := hnamed
  rw [hwf.walk_label hwalk, hwf.rootLabel, hparsed, hname, folded, List.map_append]
  rfl

/-- What is read by a path is the file there. -/
theorem Stores.readFilePath_ensures (h : Stores g t fs) (hfits : g.BitmapFits) (hwf : Wf g t label)
    (file : String) : Ensures (readFilePath file) fs fun bytes _ =>
      FileAt g t label (folded (parsePath file)) bytes := by
  refine Ensures.bind (h.locatePath_ensures hfits hwf file) ?_
  rintro resolved fs₁ ⟨parents, rows, h₁, hat⟩
  have hfinds := hat.finds
  cases hlocation : resolved.location with
  | none => exact Ensures.throw
  | some location =>
    rw [hlocation] at hfinds
    dsimp only
    cases hfinds with
    | found p e hrows hnamed _ =>
      subst hrows
      split
      · exact Ensures.throw
      · rename_i hfile
        have hkind : e.isDir = false := by
          have hlocate : ¬ e.isDir = true := hfile
          simpa using hlocate
        refine (h₁.readEntry_returns hwf hat.parent hkind).ensures.mono ?_
        rintro bytes fs₂ rfl
        exact hat.fileAt hwf (p.mem_fill e) hnamed hkind

/-- A volume that stores the files of a map refines it. -/
theorem StoresMap.refines {m : FileMap} (hm : StoresMap fs m) : Refines fs m := by
  obtain ⟨g, t, label, hg, h, hwf, hunique, hfiles⟩ := hm
  constructor
  · intro path data hdata
    exact ((hfiles _ _).mp hdata).read h hwf hunique
  · intro path hnone
    cases hrun : (readFilePath path).run fs with
    | ok bytes fs' =>
      have hat : FileAt g t label (folded (parsePath path)) bytes :=
        h.readFilePath_ensures hg.bitmap hwf path bytes fs' hrun
      rw [← hfiles, hnone] at hat
      cases hat
    | error e fs' => exact ⟨e, fs', rfl⟩
  · intro name data hdata
    obtain rfl := h.params
    obtain ⟨x, rows, e, hx, ho, he, hfile, hpath, rfl⟩ := (hfiles _ _).mp hdata
    have hsplit : [] ++ [toLowercase name] = label x ++ [e.folded] := hpath
    obtain ⟨hroot, hname⟩ := List.append_inj' hsplit rfl
    obtain rfl := hx.label_inj .root hwf hunique (hwf.rootLabel.trans hroot)
    refine Returns.of_run (x := get) rfl ?_
    refine Returns.bind (h.findEntryInDirectory_returns ho (hwf.shaped _ _ ho) name) ?_
    rintro location fs₁ ⟨h₁, hfinds⟩
    rw [(List.cons.inj hname).1] at hfinds
    obtain ⟨found, rfl, -, hread⟩ := h₁.readFound_returns hwf hunique ho he hfile hfinds
    exact hread

/-! ## Changes -/

/-- As many bytes are written as announced. -/
def Creation.Announced : Creation → Prop
  | stream _ totalSize chunks => chunks.flatten.length = totalSize
  | _ => True

/-- It overwrites no directory; only the constructors of writers in the root directory would. -/
def Creation.SparesDirectories (fs : ExfatFs) : Creation → Prop
  | stream (.root name true) _ _ =>
    ∀ location, LooksUp fs [name] (some location) → location.isDirectory = false
  | _ => True

/-- A change that the map follows. -/
def Change.Followed (fs : ExfatFs) (change : Change) : Prop :=
  change.Whole ∧ ∀ c, change = .create c → c.Announced ∧ c.SparesDirectories fs

/-- Putting a file stores the map with the file. -/
theorem Puts.storesMap {m : FileMap} {name : String} {allowed : EntrySet → Prop}
    {bytes : List UInt8 → Prop} (h : Puts g t label k name allowed bytes t' label')
    (hfile : ∀ e, allowed e → e.isDir = false) (hbytes : ∀ now, bytes now → now = data)
    (hname : decodedName name = name) (hg : g.Fits) (hstores : Stores g t' fs)
    (hwf : Wf g t label) (hunique : Unique t) (hk : Attached g t k)
    (hpath : path = label k ++ [toLowercase name])
    (hm : ∀ path data, m path = some data ↔ FileAt g t label path data) :
    StoresMap fs (m.put path data) := by
  obtain ⟨hunique', now, hnow, hfiles⟩ := h.fileAt_iff hfile hname hwf hunique hk
  obtain ⟨_, _, -, -, -, hwf', -⟩ := h
  refine ⟨g, t', label', hg, hstores, hwf', hunique', fun path' data' => ?_⟩
  rw [hfiles, ← hpath, hbytes now hnow, FileMap.put, Function.update_apply]
  split
  · exact ⟨fun h => (Option.some.inj h).symm, fun h => congrArg some h.symm⟩
  · exact hm path' data'

/-- Following a path to its last component: the files are the same, and a file put there is at the
path. -/
theorem Resolves.fileAt_iff {createParents : Bool} {file : String} {resolved : ResolvedPath}
    {parents : List String}
    (h : Resolves g createParents file t label resolved t' label' parents rows)
    (hnames : ∀ c ∈ pathNames file createParents, decodedName c = c) (hwf : Wf g t label)
    (hunique : Unique t) :
    Unique t' ∧ Attached g t' resolved.parentCluster ∧ decodedName resolved.name = resolved.name ∧
      folded (parsePath file) = label' resolved.parentCluster ++ [toLowercase resolved.name] ∧
      ∀ path data, FileAt g t' label' path data ↔ FileAt g t label path data := by
  have hdecoded : createParents = true → ∀ c ∈ parents, decodedName c = c := by
    intro hcreate c hc
    refine hnames c ?_
    rw [pathNames, if_pos hcreate, h.parsed]
    exact List.mem_append_left _ hc
  have hlast : resolved.name ∈ pathNames file createParents := by
    unfold pathNames
    rw [h.parsed, List.getLast?_concat]
    split <;> simp
  obtain ⟨hattached, hlabel, hfiles⟩ := h.follows.fileAt_iff hdecoded hwf .root
  refine ⟨h.follows.unique hdecoded hunique, hattached, hnames _ hlast, ?_, hfiles⟩
  rw [hlabel, hwf.rootLabel, h.parsed, folded, List.map_append]
  rfl

/-- Putting a file where a path leads stores the map with the file at the path. -/
theorem Resolves.storesMap {m : FileMap} {createParents : Bool} {file : String}
    {resolved : ResolvedPath} {parents : List String} {allowed : EntrySet → Prop}
    {bytes : List UInt8 → Prop} {t'' : Table} {label'' : Nat → List String}
    (h : Resolves g createParents file t label resolved t' label' parents rows)
    (hputs : Puts g t' label' resolved.parentCluster resolved.name allowed bytes t'' label'')
    (hfile : ∀ e, allowed e → e.isDir = false) (hbytes : ∀ now, bytes now → now = data)
    (hnames : ∀ c ∈ pathNames file createParents, decodedName c = c) (hg : g.Fits)
    (hstores : Stores g t'' fs) (hwf : Wf g t label) (hunique : Unique t)
    (hm : ∀ path data, m path = some data ↔ FileAt g t label path data) :
    StoresMap fs (m.put (folded (parsePath file)) data) := by
  obtain ⟨hunique', hattached, hdecoded, hpath, hfiles⟩ := h.fileAt_iff hnames hwf hunique
  refine hputs.storesMap hfile hbytes hdecoded hg hstores h.wf hunique' hattached hpath ?_
  exact fun path data => (hm path data).trans (hfiles path data).symm

/-- A file put in the root directory overwrites no directory if what has its name is a file. -/
theorem Puts.sparing {name : String} {overwrite : Bool} {bytes : List UInt8 → Prop}
    (h : Puts g t label g.firstClusterOfRoot name (fun _ => overwrite = true) bytes t' label')
    (hspares : overwrite = true → ∀ location, LooksUp fs [name] (some location) →
      location.isDirectory = false) (hstores : Stores g t fs) (hfits : g.BitmapFits)
    (hwf : Wf g t label) :
    Puts g t label g.firstClusterOfRoot name (fun e => e.isDir = false) bytes t' label' := by
  obtain ⟨t₁, e, hclears, hputs⟩ := h
  refine ⟨t₁, e, ?_, hputs⟩
  cases hclears with
  | absent rows ho hnone => exact .absent rows ho hnone
  | removed p old hnamed hbefore hover hremoves =>
    refine .removed p old hnamed hbefore ?_ hremoves
    have hplain : ∀ c ∈ ([name] : List String).dropLast, '/' ∉ c.toList := fun c hc => nomatch hc
    exact hspares hover (p.locate old) <| (hstores.looksUp_iff hfits hwf hplain).mpr
      ⟨name, _, _, ⟨rfl, rfl, hremoves.before⟩, .found p old rfl hnamed hbefore⟩

/-- A creation that is followed puts its file, if it makes one. -/
theorem StoresMap.create {m : FileMap} (hm : StoresMap fs m) (c : Creation)
    (hnames : ∀ name ∈ c.names, decodedName name = name) (hannounced : c.Announced)
    (hspares : c.SparesDirectories fs) :
    Ensures c.run fs fun _ fs' => StoresMap fs' ((Change.create c).apply m) := by
  obtain ⟨g, t, label, hg, h, hwf, hunique, hfiles⟩ := hm
  have hroot : ∀ name, folded [name] = label g.firstClusterOfRoot ++ [toLowercase name] := by
    intro name
    rw [hwf.rootLabel]
    rfl
  cases c with
  | writeFile name data =>
    refine (h.writeFile_ensures hg hwf name data).mono ?_
    rintro _ fs' ⟨-, t', label', h', hputs⟩
    exact hputs.storesMap (fun e hfalse => hfalse.elim) (fun now hnow => hnow)
      (hnames name List.mem_cons_self) hg h' hwf hunique .root (hroot name) hfiles
  | writeFilePath path data createParents overwrite =>
    refine (h.writeFilePath_ensures hg.bitmap hg.bytes hwf path data createParents
      overwrite).mono ?_
    rintro _ fs' ⟨resolved, t₁, label₁, parents, rows, t', label', h', hresolves, hputs⟩
    exact hresolves.storesMap hputs (fun e => And.right) (fun now hnow => hnow) hnames hg h' hwf
      hunique hfiles
  | stream target totalSize chunks =>
    have hbytes : ∀ now, (chunks.flatten.length = totalSize → now = chunks.flatten) →
        now = chunks.flatten := fun now hnow => hnow hannounced
    cases target with
    | root name overwrite =>
      obtain ⟨rows, ho⟩ := hwf.root
      have hparams := h.params
      have hover : overwrite = true → ∀ location, LooksUp fs [name] (some location) →
          location.isDirectory = false := by
        rintro rfl
        exact hspares
      intro _ fs' hrun
      rw [Creation.run, Operation.run, Target.writer, ExfatFileWriter.createOverwrite, bind_assoc,
        run_get_bind, hparams] at hrun
      obtain ⟨t', label', h', hputs⟩ := h.session_ensures hg.bitmap hg.bytes hwf ho name totalSize
        overwrite (fun hne => absurd rfl hne) chunks _ fs' hrun
      exact (hputs.sparing hover h hg.bitmap hwf).storesMap (fun e hfile => hfile) hbytes
        (hnames name List.mem_cons_self) hg h' hwf hunique .root (hroot name) hfiles
    | path path createParents overwrite =>
      refine (h.sessionAtPath_ensures hg.bitmap hg.bytes hwf path totalSize createParents overwrite
        chunks).mono ?_
      rintro _ fs' ⟨resolved, t₁, label₁, parents, rows, t', label', h', hresolves, hputs⟩
      exact hresolves.storesMap hputs (fun e => And.right) hbytes hnames hg h' hwf hunique hfiles
  | createDirectory path createParents =>
    refine (h.createDirectory_ensures hg.bitmap hwf path createParents).mono ?_
    rintro _ fs' ⟨resolved, t₁, label₁, parents, rows, t', label', e, h', hresolves, hadds, hwf',
      hename, hdir, hnone⟩
    obtain ⟨hunique₁, hattached, hdecoded, -, hsame⟩ := hresolves.fileAt_iff hnames hwf hunique
    refine ⟨g, t', label', hg, h', hwf', ?_, fun path data => ?_⟩
    · refine hunique₁.adds hadds (hename ▸ hdecoded) fun rows' hrows' e' he' => ?_
      cases hresolves.parent.symm.trans hrows'
      rw [EntrySet.folded, hename, hdecoded]
      exact hnone e' he'
    · show m path = some data ↔ _
      rw [fileAt_adds_iff hadds hresolves.wf hwf' hattached, hsame, hfiles]
      refine ⟨Or.inl, fun h => h.resolve_right fun hnew => ?_⟩
      exact absurd (hdir.symm.trans hnew.1) (by simp)

/-- A change that is followed leads to the files of the map it leads to. -/
theorem StoresMap.change {m : FileMap} (hm : StoresMap fs m) (change : Change)
    (hfollowed : change.Followed fs) :
    Ensures change.run fs fun _ fs' => StoresMap fs' (change.apply m) := by
  obtain ⟨hwhole, hcreates⟩ := hfollowed
  cases change with
  | create c =>
    obtain ⟨hannounced, hspares⟩ := hcreates c rfl
    have hnames : ∀ name ∈ c.names, decodedName name = name := fun name hname =>
      (decodedName_eq_iff (hwhole name hname).1).mpr (hwhole name hname).2
    exact hm.create c hnames hannounced hspares
  | deletePath path =>
    obtain ⟨g, t, label, hg, h, hwf, hunique, hfiles⟩ := hm
    refine (h.deletePath_ensures hg.bitmap hwf path).mono ?_
    rintro _ fs' ⟨t', h', hwf', hdeletes, hshrinks⟩
    refine ⟨g, t', label, hg, h', hwf', hunique.shrinks hshrinks, fun p data => ?_⟩
    rw [hdeletes.fileAt_iff hwf hunique, if_neg (by simp), ← hfiles, Change.apply, FileMap.remove,
      Function.update_apply]
    split
    · exact ⟨fun hnone => absurd hnone (by simp), fun hkept => absurd ‹_› hkept.2⟩
    · exact ⟨fun hsome => ⟨hsome, ‹_›⟩, And.left⟩
  | deleteRecursive depth path =>
    obtain ⟨g, t, label, hg, h, hwf, hunique, hfiles⟩ := hm
    refine (deleteRecursive_ensures hg.bitmap depth path t fs h hwf).mono ?_
    rintro _ fs' ⟨t', h', hwf', hdeletes, hshrinks⟩
    refine ⟨g, t', label, hg, h', hwf', hunique.shrinks hshrinks, fun p data => ?_⟩
    rw [hdeletes.fileAt_iff hwf hunique, if_pos rfl, ← hfiles, Change.apply, FileMap.removeBelow]
    split
    · exact ⟨fun hnone => absurd hnone (by simp), fun hkept => absurd ‹_› hkept.2⟩
    · exact ⟨fun hsome => ⟨hsome, ‹_›⟩, And.left⟩

/-! ## Runs -/

/-- The successful changes of a run from a new volume, each one followed. -/
inductive FollowedRun : List Change → ExfatFs → Prop
  | opened {fs : ExfatFs} : NewVolume fs → FollowedRun [] fs
  | step {changes : List Change} {fs fs' : ExfatFs} (change : Change) : FollowedRun changes fs →
      change.Followed fs → change.run.run fs = .ok () fs' → FollowedRun (changes ++ [change]) fs'

/-- A new volume has no files. -/
theorem NewVolume.storesMap (h : NewVolume fs) : StoresMap fs .empty := by
  obtain ⟨g, t, label, hg, hstores, hwf, hblank⟩ := h.blank
  refine ⟨g, t, label, hg, hstores, hwf, fun k rows ho => ?_, fun path data => ?_⟩
  · rw [hblank k rows ho]
    exact ⟨List.Pairwise.nil, fun e he => nomatch he⟩
  · constructor
    · exact fun hnone => nomatch hnone
    · rintro ⟨k, rows, e, -, ho, he, -⟩
      rw [hblank k rows ho] at he
      cases he

theorem FollowedRun.storesMap {changes : List Change} (h : FollowedRun changes fs) :
    StoresMap fs (contents changes) := by
  induction h with
  | opened hnew => exact hnew.storesMap
  | step change _ hfollowed hrun ih =>
    rw [contents, List.foldl_append]
    exact ih.change change hfollowed () _ hrun

end

end StreamBox.Exfat
