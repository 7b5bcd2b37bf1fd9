import StreamBox.Exfat.Entries
import StreamBox.Exfat.Operations

/-!
# The directory tree

The objects of a volume form a tree below the root directory; objects that no entry
refers to may be left over.

* **Well formed** — every entry refers to an object of its kind, and no object is
  referred to twice. A label gives every object referred to the path that leads to it,
  so there are no cycles.
* **Edits** — adding an entry with a new object, or removing an entry with its object,
  keeps the tree well formed; removing only drops entries and objects (`Removes.shrinks`).
-/

namespace StreamBox.Exfat

variable [Lowercase]

/-- The name of a set as the lookup compares it. -/
def EntrySet.folded (e : EntrySet) : String := toLowercase (decodedName e.name)

omit [Lowercase] in
/-- The object a set refers to, if it has one. -/
def EntrySet.Owns (e : EntrySet) (x : Nat) : Prop := e.firstCluster ≠ 0 ∧ x = e.firstCluster

omit [Lowercase] in
/-- Two sets refer to different objects, or to none. -/
def EntrySet.Distinct (a b : EntrySet) : Prop := a.firstCluster = b.firstCluster → a.firstCluster = 0

/-- What a set of the directory `k` refers to. -/
inductive Refers (g : VolumeParams) (t : Table) (label : Nat → List String) (k : Nat)
    (e : EntrySet) : Prop
  | empty : e.firstCluster = 0 → e.isDir = false → e.size = 0 → Refers g t label k e
  | file (rows : List (Nat × List UInt8)) : g.firstClusterOfRoot < e.firstCluster →
      t e.firstCluster = some (.file rows) → e.isDir = false →
      rows.length = clustersNeeded e.size g.clusterSize →
      label e.firstCluster = label k ++ [e.folded] → Refers g t label k e
  | dir (rows : Rows) : g.firstClusterOfRoot < e.firstCluster →
      t e.firstCluster = some (.dir rows) → e.isDir = true → e.size = 0 →
      label e.firstCluster = label k ++ [e.folded] → Refers g t label k e

/-- The table is a tree below the root directory, but for objects not referred to. The
up-case table is one of these. -/
structure Wf (g : VolumeParams) (t : Table) (label : Nat → List String) : Prop where
  root : ∃ rows, t g.firstClusterOfRoot = some (.dir rows)
  rootLabel : label g.firstClusterOfRoot = []
  upcase : ∃ o, t 3 = some o
  upcaseLabel : label 3 = []
  shaped : ∀ k rows, t k = some (.dir rows) → Shaped rows
  entries : ∀ k rows, t k = some (.dir rows) → ∀ e ∈ rowSets rows, e.Ok ∧ Refers g t label k e
  once : ∀ k rows, t k = some (.dir rows) → (rowSets rows).Pairwise EntrySet.Distinct
  across : ∀ k k' rows rows', k ≠ k' → t k = some (.dir rows) → t k' = some (.dir rows') →
    ∀ e ∈ rowSets rows, ∀ e' ∈ rowSets rows', e.Distinct e'
  plain : ∀ k rows, t k = some (.dir rows) → k ≠ g.firstClusterOfRoot →
    ∀ e ∈ rowSets rows, '/' ∉ e.name.toList

omit [Lowercase] in
theorem EntrySet.Distinct.symm {a b : EntrySet} (h : a.Distinct b) : b.Distinct a :=
  fun heq => heq.trans (h heq.symm)

omit [Lowercase] in
/-- The sets of a directory with one more, in any place, are pairwise distinct if the new one
is from the others. -/
theorem pairwise_insert {e : EntrySet} {before after : List EntrySet} :
    (before ++ e :: after).Pairwise EntrySet.Distinct ↔
      (before ++ after).Pairwise EntrySet.Distinct ∧ ∀ e' ∈ before ++ after, e.Distinct e' := by
  rw [List.pairwise_middle fun h => h.symm, List.pairwise_cons]
  exact and_comm

variable {g : VolumeParams} {t t' : Table} {label label' : Nat → List String} {k : Nat}
  {e : EntrySet}

/-- The object of a set. -/
theorem Refers.object (h : Refers g t label k e) (hne : e.firstCluster ≠ 0) :
    g.firstClusterOfRoot < e.firstCluster ∧ (∃ o, t e.firstCluster = some o) ∧
      label e.firstCluster = label k ++ [e.folded] := by
  cases h with
  | empty hzero => exact absurd hzero hne
  | file rows hroot hfile _ _ hlabel => exact ⟨hroot, ⟨_, hfile⟩, hlabel⟩
  | dir rows hroot hdir _ _ hlabel => exact ⟨hroot, ⟨_, hdir⟩, hlabel⟩

/-- A directory is not among its own entries' objects. -/
theorem Refers.not_owns (h : Refers g t label k e) : ¬ e.Owns k := by
  rintro ⟨hne, rfl⟩
  have hlabel := (h.object hne).2.2
  have hlen := congrArg List.length hlabel
  rw [List.length_append, List.length_singleton] at hlen
  omega

/-- An entry keeps its object when that object and the labels stay, or the object is a
directory that stays one. -/
theorem Refers.congr (h : Refers g t label k e) (hk : label' k = label k)
    (hlabel : e.firstCluster ≠ 0 → label' e.firstCluster = label e.firstCluster)
    (hobject : e.firstCluster ≠ 0 → t' e.firstCluster = t e.firstCluster ∨
      (∃ rows, t e.firstCluster = some (.dir rows)) ∧ ∃ rows, t' e.firstCluster = some (.dir rows)) :
    Refers g t' label' k e := by
  cases h with
  | empty hzero hdir hsize => exact .empty hzero hdir hsize
  | file rows hroot hfile hdir hlen hl =>
    have hne : e.firstCluster ≠ 0 := by omega
    rcases hobject hne with hsame | ⟨⟨rows', hrows'⟩, -⟩
    · exact .file rows hroot (hsame.trans hfile) hdir hlen (by rw [hlabel hne, hl, hk])
    · rw [hfile] at hrows'
      cases hrows'
  | dir rows hroot hrows hdir hsize hl =>
    have hne : e.firstCluster ≠ 0 := by omega
    rcases hobject hne with hsame | ⟨-, rows', hrows'⟩
    · exact .dir rows hroot (hsame.trans hrows) hdir hsize (by rw [hlabel hne, hl, hk])
    · exact .dir rows' hroot hrows' hdir hsize (by rw [hlabel hne, hl, hk])

/-! ## Adding an entry -/

omit [Lowercase] in
/-- The table `t'` is `t` with one more entry in the directory `k`, for a new object. -/
structure Adds (t : Table) (label : Nat → List String) (k : Nat) (e : EntrySet) (t' : Table)
    (label' : Nat → List String) : Prop where
  edit : ∃ rows rows', t k = some (.dir rows) ∧ t' k = some (.dir rows') ∧ Shaped rows' ∧
    Inserts e rows rows'
  new : e.firstCluster ≠ 0 → t e.firstCluster = none
  blank : e.firstCluster ≠ 0 → ∀ rows, t' e.firstCluster = some (.dir rows) →
    Shaped rows ∧ rowSets rows = []
  others : ∀ x, x ≠ k → ¬ e.Owns x → t' x = t x
  labels : ∀ x, ¬ e.Owns x → label' x = label x

/-- An object referred to is not the new one. -/
theorem Refers.old {k' : Nat} {e' : EntrySet} (h : Refers g t label k' e')
    (hnew : e.firstCluster ≠ 0 → t e.firstCluster = none) (hne : e'.firstCluster ≠ 0) :
    ¬ e.Owns e'.firstCluster := by
  rintro ⟨hne', heq⟩
  obtain ⟨-, ⟨o, ho⟩, -⟩ := h.object hne
  rw [heq, hnew hne'] at ho
  cases ho

/-- Adding an entry for a new object keeps the tree well formed. -/
theorem Wf.adds (h : Wf g t label) (hadds : Adds t label k e t' label') (hok : e.Ok)
    (hrefers : Refers g t' label' k e) (hplain : k ≠ g.firstClusterOfRoot → '/' ∉ e.name.toList) :
    Wf g t' label' := by
  obtain ⟨⟨rows, rows', hk, hk', hshaped, before, after, hrows, hrows'⟩, hnew, hblank, hothers,
    hlabels⟩ := hadds
  have hlive : ∀ x o, t x = some o → ¬ e.Owns x := by
    rintro x o ho ⟨hne, rfl⟩
    rw [hnew hne] at ho
    cases ho
  -- a directory of `t'` is `k`, the new object, or one of `t`
  have hdirs : ∀ x rows'', t' x = some (.dir rows'') →
      (x = k ∧ rows'' = rows') ∨ (Shaped rows'' ∧ rowSets rows'' = []) ∨
        (x ≠ k ∧ t x = some (.dir rows'')) := by
    intro x rows'' hx
    by_cases hxk : x = k
    · subst hxk
      rw [hk'] at hx
      cases hx
      exact Or.inl ⟨rfl, rfl⟩
    · by_cases howns : e.Owns x
      · obtain ⟨hne, rfl⟩ := howns
        exact Or.inr (Or.inl (hblank hne rows'' hx))
      · rw [hothers x hxk howns] at hx
        exact Or.inr (Or.inr ⟨hxk, hx⟩)
  have hmem : ∀ e', e' ∈ rowSets rows' ↔ e' = e ∨ e' ∈ rowSets rows := by
    intro e'
    rw [hrows, hrows']
    simp only [List.mem_append, List.mem_cons]
    exact or_left_comm
  have hkeep : ∀ x rows'', t x = some (.dir rows'') → ∀ e' ∈ rowSets rows'',
      e'.Ok ∧ Refers g t' label' x e' := by
    intro x rows'' hx e' he'
    obtain ⟨hok', hrefers'⟩ := h.entries x rows'' hx e' he'
    refine ⟨hok', hrefers'.congr (hlabels x (hlive x _ hx)) (fun hne => ?_) (fun hne => ?_)⟩
    · exact hlabels _ (hrefers'.old hnew hne)
    · by_cases hek : e'.firstCluster = k
      · rw [hek]
        exact Or.inr ⟨⟨rows, hk⟩, rows', hk'⟩
      · exact Or.inl (hothers _ hek (hrefers'.old hnew hne))
  have hdistinct : ∀ x rows'', t x = some (.dir rows'') → ∀ e' ∈ rowSets rows'', e.Distinct e' := by
    intro x rows'' hx e' he' heq
    by_cases hne : e.firstCluster = 0
    · exact hne
    · have hne' : e'.firstCluster ≠ 0 := heq ▸ hne
      exact absurd ⟨hne, heq.symm⟩ ((h.entries x rows'' hx e' he').2.old hnew hne')
  have hroot : ¬ e.Owns g.firstClusterOfRoot := by
    obtain ⟨rows'', hr⟩ := h.root
    exact hlive _ _ hr
  obtain ⟨o, hupcase⟩ := h.upcase
  refine ⟨?_, ?_, ?_, ?_, ?_, ?_, ?_, ?_, ?_⟩
  · obtain ⟨rows'', hr⟩ := h.root
    by_cases hrk : g.firstClusterOfRoot = k
    · exact ⟨rows', by rw [hrk, hk']⟩
    · exact ⟨rows'', by rw [hothers _ hrk hroot, hr]⟩
  · rw [hlabels _ hroot, h.rootLabel]
  · by_cases hk3 : 3 = k
    · exact ⟨_, hk3 ▸ hk'⟩
    · exact ⟨o, (hothers 3 hk3 (hlive 3 o hupcase)).trans hupcase⟩
  · rw [hlabels 3 (hlive 3 o hupcase), h.upcaseLabel]
  · intro x rows'' hx
    rcases hdirs x rows'' hx with ⟨-, rfl⟩ | ⟨hs, -⟩ | ⟨-, hx⟩
    · exact hshaped
    · exact hs
    · exact h.shaped x rows'' hx
  · intro x rows'' hx e' he'
    rcases hdirs x rows'' hx with ⟨rfl, rfl⟩ | ⟨-, hnil⟩ | ⟨-, hx⟩
    · rcases (hmem e').mp he' with rfl | he'
      · exact ⟨hok, hrefers⟩
      · exact hkeep _ _ hk e' he'
    · rw [hnil] at he'
      cases he'
    · exact hkeep _ _ hx e' he'
  · intro x rows'' hx
    rcases hdirs x rows'' hx with ⟨rfl, rfl⟩ | ⟨-, hnil⟩ | ⟨-, hx⟩
    · rw [hrows', pairwise_insert, ← hrows]
      exact ⟨h.once _ _ hk, hdistinct _ _ hk⟩
    · rw [hnil]
      exact List.Pairwise.nil
    · exact h.once x rows'' hx
  · intro x y rowsx rowsy hxy hx hy e₁ he₁ e₂ he₂
    rcases hdirs x rowsx hx with ⟨rfl, rfl⟩ | ⟨-, hnil⟩ | ⟨hxk, hx⟩
    · rcases hdirs y rowsy hy with ⟨rfl, -⟩ | ⟨-, hnil⟩ | ⟨-, hy⟩
      · exact absurd rfl hxy
      · rw [hnil] at he₂
        cases he₂
      · rcases (hmem e₁).mp he₁ with rfl | he₁
        · exact hdistinct y rowsy hy e₂ he₂
        · exact h.across x y rows rowsy hxy hk hy e₁ he₁ e₂ he₂
    · rw [hnil] at he₁
      cases he₁
    · rcases hdirs y rowsy hy with ⟨rfl, rfl⟩ | ⟨-, hnil⟩ | ⟨-, hy⟩
      · rcases (hmem e₂).mp he₂ with rfl | he₂
        · exact (hdistinct x rowsx hx e₁ he₁).symm
        · exact h.across x y rowsx rows hxy hx hk e₁ he₁ e₂ he₂
      · rw [hnil] at he₂
        cases he₂
      · exact h.across x y rowsx rowsy hxy hx hy e₁ he₁ e₂ he₂
  · intro x rows'' hx hxr e' he'
    rcases hdirs x rows'' hx with ⟨rfl, rfl⟩ | ⟨-, hnil⟩ | ⟨-, hx⟩
    · rcases (hmem e').mp he' with rfl | he'
      · exact hplain hxr
      · exact h.plain _ _ hk hxr e' he'
    · rw [hnil] at he'
      cases he'
    · exact h.plain x rows'' hx hxr e' he'

/-- The labels with one for the object of a new entry of `k`. -/
def addLabel (label : Nat → List String) (k : Nat) (e : EntrySet) : Nat → List String :=
  Function.update label e.firstCluster (label k ++ [e.folded])

omit [Lowercase] in
/-- The table with the object of a new entry, and the directory `k` with these rows. -/
def addObject (t : Table) (k : Nat) (e : EntrySet) (o : Obj) (rows : Rows) : Table :=
  Function.update (Function.update t e.firstCluster (some o)) k (some (.dir rows))

/-- What adding a new object with its entry comes to. -/
theorem addObject_spec (label : Nat → List String) {rows rows' : Rows} {o : Obj} (hk : t k = some (.dir rows))
    (hshaped : Shaped rows') (hinserts : Inserts e rows rows') (hne : e.firstCluster ≠ 0)
    (hfree : t e.firstCluster = none)
    (hblank : ∀ blank, o = .dir blank → Shaped blank ∧ rowSets blank = []) :
    Adds t label k e (addObject t k e o rows') (addLabel label k e) ∧
      addObject t k e o rows' e.firstCluster = some o ∧
      addLabel label k e e.firstCluster = addLabel label k e k ++ [e.folded] := by
  have hek : e.firstCluster ≠ k := by
    rintro heq
    rw [heq, hk] at hfree
    cases hfree
  have hobject : addObject t k e o rows' e.firstCluster = some o := by
    rw [addObject, Function.update_of_ne hek, Function.update_self]
  refine ⟨⟨⟨rows, rows', hk, Function.update_self .., hshaped, hinserts⟩, fun _ => hfree,
    fun _ blank hrows => ?_, fun x hxk hx => ?_, fun x hx => ?_⟩, hobject, ?_⟩
  · rw [hobject] at hrows
    exact hblank blank (Option.some.inj hrows)
  · rw [addObject, Function.update_of_ne hxk, Function.update_of_ne fun heq => hx ⟨hne, heq⟩]
  · rw [addLabel, Function.update_of_ne fun heq => hx ⟨hne, heq⟩]
  · rw [addLabel, Function.update_self, Function.update_of_ne (Ne.symm hek)]

/-! ## Removing an entry -/

omit [Lowercase] in
/-- The table `t'` is `t` without one entry of the directory `k` and without its object. -/
structure Removes (t : Table) (k : Nat) (p : Place) (e : EntrySet) (t' : Table) : Prop where
  before : t k = some (.dir (p.fill [.set e]))
  after : t' k = some (.dir (p.fill e.deleted))
  gone : e.firstCluster ≠ 0 → t' e.firstCluster = none
  others : ∀ x, x ≠ k → ¬ e.Owns x → t' x = t x

omit [Lowercase] in
@[simp] theorem sets_deleted (e : EntrySet) : sets e.deleted = [] := by
  have hslots : ∀ l : List (List UInt8), sets (l.map fun entry =>
      .slot (entry.modify 0 deletedType)) = [] := by
    intro l
    induction l with
    | nil => rfl
    | cons entry l ih => exact ih
  exact hslots e.entries.tail

/-- Removing an entry with its object keeps the tree well formed. -/
theorem Wf.removes (h : Wf g t label) {p : Place} (hremoves : Removes t k p e t') :
    Wf g t' label := by
  obtain ⟨hk, hk', hgone, hothers⟩ := hremoves
  have hsets : rowSets (p.fill [.set e]) = p.setsBefore ++ e :: p.setsAfter := by
    rw [Place.rowSets_fill, List.append_assoc]
    rfl
  have hsets' : rowSets (p.fill e.deleted) = p.setsBefore ++ p.setsAfter := by
    rw [Place.rowSets_fill, sets_deleted, List.append_nil]
  have he : e ∈ rowSets (p.fill [.set e]) :=
    hsets ▸ List.mem_append_right _ List.mem_cons_self
  have hself := h.entries k _ hk e he
  have honce := h.once k _ hk
  rw [hsets, pairwise_insert] at honce
  have hsub : ∀ e' ∈ rowSets (p.fill e.deleted), e' ∈ rowSets (p.fill [.set e]) := by
    intro e' he'
    rw [hsets'] at he'
    rw [hsets]
    rcases List.mem_append.mp he' with he' | he'
    · exact List.mem_append_left _ he'
    · exact List.mem_append_right _ (List.mem_cons_of_mem _ he')
  -- a directory of `t'` is `k`, or one of `t`
  have hdirs : ∀ x rows, t' x = some (.dir rows) →
      (x = k ∧ rows = p.fill e.deleted) ∨ (x ≠ k ∧ ¬ e.Owns x ∧ t x = some (.dir rows)) := by
    intro x rows hx
    by_cases hxk : x = k
    · subst hxk
      rw [hk'] at hx
      cases hx
      exact Or.inl ⟨rfl, rfl⟩
    · by_cases howns : e.Owns x
      · obtain ⟨hne, rfl⟩ := howns
        rw [hgone hne] at hx
        cases hx
      · exact Or.inr ⟨hxk, howns, hothers x hxk howns ▸ hx⟩
  have hkeep : ∀ x e', Refers g t label x e' → e.Distinct e' → Refers g t' label x e' := by
    intro x e' hrefers hdistinct
    refine hrefers.congr rfl (fun _ => rfl) fun hne => ?_
    by_cases hek : e'.firstCluster = k
    · rw [hek]
      exact Or.inr ⟨⟨_, hk⟩, _, hk'⟩
    · refine Or.inl (hothers _ hek ?_)
      rintro ⟨hne', heq⟩
      exact hne' (hdistinct heq.symm)
  have hshaped : Shaped (p.fill e.deleted) :=
    (h.shaped k _ hk).refill e.deleted_ok (h.shaped k _ hk).before_set
  refine ⟨?_, h.rootLabel, ?_, h.upcaseLabel, ?_, ?_, ?_, ?_, ?_⟩
  · obtain ⟨rows, hr⟩ := h.root
    by_cases hrk : g.firstClusterOfRoot = k
    · exact ⟨_, by rw [hrk, hk']⟩
    · have hroot : ¬ e.Owns g.firstClusterOfRoot := by
        rintro ⟨hne, heq⟩
        have := (hself.2.object hne).1
        omega
      exact ⟨rows, by rw [hothers _ hrk hroot, hr]⟩
  · obtain ⟨o, hupcase⟩ := h.upcase
    by_cases hk3 : 3 = k
    · exact ⟨_, hk3 ▸ hk'⟩
    · have howns : ¬ e.Owns 3 := by
        rintro ⟨hne, heq⟩
        have hlabel := (hself.2.object hne).2.2
        rw [← heq, h.upcaseLabel] at hlabel
        exact absurd hlabel (by simp)
      exact ⟨o, (hothers 3 hk3 howns).trans hupcase⟩
  · intro x rows hx
    rcases hdirs x rows hx with ⟨-, rfl⟩ | ⟨-, -, hx⟩
    · exact hshaped
    · exact h.shaped x rows hx
  · intro x rows hx e' he'
    rcases hdirs x rows hx with ⟨rfl, rfl⟩ | ⟨hxk, -, hx⟩
    · obtain ⟨hok, hrefers⟩ := h.entries _ _ hk e' (hsub e' he')
      rw [hsets'] at he'
      exact ⟨hok, hkeep _ e' hrefers (honce.2 e' he')⟩
    · obtain ⟨hok, hrefers⟩ := h.entries x rows hx e' he'
      exact ⟨hok, hkeep x e' hrefers (h.across k x _ rows (Ne.symm hxk) hk hx e he e' he')⟩
  · intro x rows hx
    rcases hdirs x rows hx with ⟨rfl, rfl⟩ | ⟨-, -, hx⟩
    · rw [hsets']
      exact honce.1
    · exact h.once x rows hx
  · intro x y rowsx rowsy hxy hx hy e₁ he₁ e₂ he₂
    rcases hdirs x rowsx hx with ⟨rfl, rfl⟩ | ⟨-, -, hx⟩
    · rcases hdirs y rowsy hy with ⟨rfl, -⟩ | ⟨-, -, hy⟩
      · exact absurd rfl hxy
      · exact h.across x y _ rowsy hxy hk hy e₁ (hsub e₁ he₁) e₂ he₂
    · rcases hdirs y rowsy hy with ⟨rfl, rfl⟩ | ⟨-, -, hy⟩
      · exact h.across x y rowsx _ hxy hx hk e₁ he₁ e₂ (hsub e₂ he₂)
      · exact h.across x y rowsx rowsy hxy hx hy e₁ he₁ e₂ he₂
  · intro x rows hx hxr e' he'
    rcases hdirs x rows hx with ⟨rfl, rfl⟩ | ⟨-, -, hx⟩
    · exact h.plain _ _ hk hxr e' (hsub e' he')
    · exact h.plain x rows hx hxr e' he'

/-! ## Dropping entries -/

omit [Lowercase] in
/-- Objects of `t` are dropped, and entries of its directories. -/
def Shrinks (t t' : Table) : Prop :=
  ∀ x, t' x = none ∨ t' x = t x ∨ ∃ rows rows', t x = some (.dir rows) ∧
    t' x = some (.dir rows') ∧ (rowSets rows').Sublist (rowSets rows)

omit [Lowercase] in
theorem Shrinks.refl (t : Table) : Shrinks t t := fun _ => Or.inr (Or.inl rfl)

omit [Lowercase] in
theorem Shrinks.trans {t'' : Table} (h : Shrinks t t') (h' : Shrinks t' t'') : Shrinks t t'' := by
  intro x
  rcases h' x with hnone | hsame | ⟨rows', rows'', hrows', hrows'', hsub'⟩
  · exact Or.inl hnone
  · rw [hsame]
    exact h x
  · rcases h x with hnone | hsame | ⟨rows, rows₁, hrows, hrows₁, hsub⟩
    · rw [hnone] at hrows'
      cases hrows'
    · rw [hsame] at hrows'
      exact Or.inr (Or.inr ⟨rows', rows'', hrows', hrows'', hsub'⟩)
    · cases hrows₁.symm.trans hrows'
      exact Or.inr (Or.inr ⟨rows, rows'', hrows, hrows'', hsub'.trans hsub⟩)

omit [Lowercase] in
theorem Removes.shrinks {p : Place} (h : Removes t k p e t') : Shrinks t t' := by
  intro x
  by_cases hxk : x = k
  · subst hxk
    refine Or.inr (Or.inr ⟨_, _, h.before, h.after, ?_⟩)
    rw [Place.rowSets_fill, Place.rowSets_fill, sets_deleted, List.append_nil, List.append_assoc]
    exact (List.Sublist.refl _).append (List.sublist_append_right _ _)
  · by_cases howns : e.Owns x
    · obtain ⟨hne, rfl⟩ := howns
      exact Or.inl (h.gone hne)
    · exact Or.inr (Or.inl (h.others x hxk howns))

end StreamBox.Exfat
