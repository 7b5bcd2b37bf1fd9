import StreamBox.Exfat.Creations
import StreamBox.Exfat.Names

/-!
# Directories whose names are unique

In a run that creates only names that read back, no directory has two entries of one name.

* **Invariant** — the names of a directory differ when folded, and read back (`Unique`).
* **Steps** — adding an entry whose name nothing answers to keeps it (`Unique.adds`), and so
  does whatever only drops entries (`Unique.shrinks`).
* **Runs** — it holds in every state that such a run reaches (`ReachedBy.unique`).
-/

namespace StreamBox.Exfat

/-- The change creates only names without null none of whose surrogate pairs is cut. -/
def Change.Whole : Change → Prop
  | create c => ∀ name ∈ c.names, '\x00' ∉ name.toList ∧ ¬ Straddles name
  | _ => True

section

variable [Lowercase]

/-- The names of each directory differ when folded, and read back. -/
def Unique (t : Table) : Prop :=
  ∀ k rows, t k = some (.dir rows) →
    (rowSets rows).Pairwise (fun a b => a.folded ≠ b.folded) ∧
      ∀ e ∈ rowSets rows, decodedName e.name = e.name

variable {g : VolumeParams} {t t' : Table} {label label' : Nat → List String} {fs : ExfatFs}
  {k : Nat} {e : EntrySet}

/-- Adding an entry whose name reads back and nothing answers to. -/
theorem Unique.adds (h : Unique t) (hadds : Adds t label k e t' label')
    (hname : decodedName e.name = e.name)
    (hnone : ∀ rows, t k = some (.dir rows) → ∀ e' ∈ rowSets rows, ¬ e'.Named e.folded) :
    Unique t' := by
  intro x rows' hx
  obtain ⟨rows, rowsNew, hrows, hnew, -, before, after, hold, hsets⟩ := hadds.edit
  by_cases hxk : x = k
  · subst hxk
    cases hnew.symm.trans hx
    obtain ⟨hdiffer, hdecoded⟩ := h x rows hrows
    have hfresh := hnone rows hrows
    rw [hold] at hdiffer hdecoded hfresh
    rw [hsets]
    refine ⟨?_, fun e' he' => ?_⟩
    · rw [List.pairwise_middle fun hab => Ne.symm hab, List.pairwise_cons]
      exact ⟨fun e' he' heq => hfresh e' he' heq.symm, hdiffer⟩
    · rcases List.mem_append.mp he' with hmem | hmem
      · exact hdecoded e' (List.mem_append_left _ hmem)
      · rcases List.mem_cons.mp hmem with rfl | hmem
        · exact hname
        · exact hdecoded e' (List.mem_append_right _ hmem)
  · by_cases howns : e.Owns x
    · obtain ⟨hne, rfl⟩ := howns
      obtain ⟨-, hempty⟩ := hadds.blank hne rows' hx
      rw [hempty]
      exact ⟨List.Pairwise.nil, fun e' he' => nomatch he'⟩
    · rw [hadds.others x hxk howns] at hx
      exact h x rows' hx

/-! ## Dropping entries -/

theorem Unique.shrinks (h : Unique t) (hshrinks : Shrinks t t') : Unique t' := by
  intro x rows' hx
  rcases hshrinks x with hnone | hsame | ⟨rows, rows₁, hrows, hrows₁, hsub⟩
  · rw [hnone] at hx
    cases hx
  · exact h x rows' (hsame ▸ hx)
  · cases hrows₁.symm.trans hx
    obtain ⟨hdiffer, hdecoded⟩ := h x rows hrows
    exact ⟨hdiffer.sublist hsub, fun e' he' => hdecoded e' (hsub.subset he')⟩

/-! ## Steps -/

/-- Directories created on the way have names that read back. -/
theorem Follows.unique {createParents : Bool} {components : List String} {k' : Nat}
    (h : Follows g createParents t label k components t' label' k')
    (hnames : createParents = true → ∀ c ∈ components, decodedName c = c) (hunique : Unique t) :
    Unique t' := by
  induction h with
  | nil => exact hunique
  | found p e _ _ _ _ _ ih =>
    exact ih (fun hcreate c hc => hnames hcreate c (List.mem_cons_of_mem _ hc)) hunique
  | made rows e hcreate hrows hnone hname _ _ hadds _ _ ih =>
    have hdecoded := hnames hcreate _ List.mem_cons_self
    refine ih (fun hcreate c hc => hnames hcreate c (List.mem_cons_of_mem _ hc))
      (hunique.adds hadds (hname ▸ hdecoded) fun rows' hrows' e' he' => ?_)
    cases hrows.symm.trans hrows'
    rw [EntrySet.folded, hname, hdecoded]
    exact hnone e' he'

/-- Clearing a name leaves nothing that answers to it. -/
theorem Clears.unique {f : String} {allowed : EntrySet → Prop} (h : Clears t k f allowed t')
    (hunique : Unique t) :
    Unique t' ∧ ∀ rows, t' k = some (.dir rows) → ∀ e ∈ rowSets rows, ¬ e.Named f := by
  cases h with
  | absent rows ho hnone =>
    refine ⟨hunique, fun rows' hrows' => ?_⟩
    cases ho.symm.trans hrows'
    exact hnone
  | removed p e hnamed _ _ hremoves =>
    refine ⟨hunique.shrinks hremoves.shrinks, fun rows' hrows' e' he' hnamed' => ?_⟩
    cases hremoves.after.symm.trans hrows'
    obtain ⟨hdiffer, -⟩ := hunique k _ hremoves.before
    rw [Place.rowSets_fill, List.append_assoc] at hdiffer
    have hothers := (List.pairwise_middle fun hab => Ne.symm hab).mp hdiffer
    rw [Place.rowSets_fill, sets_deleted, List.append_nil] at he'
    exact (List.pairwise_cons.mp hothers).1 e' he' (hnamed.trans hnamed'.symm)

theorem Leaves.unique {resolved : ResolvedPath} {isDir : Bool}
    (h : Leaves g t label resolved isDir t' label')
    (hname : decodedName resolved.name = resolved.name) (hunique : Unique t) : Unique t' := by
  obtain ⟨t₁, e, hclears, hadds, -, hename, -⟩ := h
  obtain ⟨hunique₁, hnone⟩ := hclears.unique hunique
  refine hunique₁.adds hadds (hename ▸ hname) fun rows hrows e' he' => ?_
  rw [EntrySet.folded, hename, hname]
  exact hnone rows hrows e' he'

/-- A tree whose directories have unique names. -/
def IsUniqueTree (g : VolumeParams) (fs : ExfatFs) : Prop :=
  ∃ t label, Stores g t fs ∧ Wf g t label ∧ Unique t

/-- A change that creates only whole names keeps the names unique. -/
theorem Change.unique_ensures (change : Change) (hwhole : change.Whole) (h : IsUniqueTree g fs)
    (hg : g.Fits) : Ensures change.run fs fun _ fs' => IsUniqueTree g fs' := by
  obtain ⟨t, label, h, hwf, hunique⟩ := h
  intro _ fs' hrun
  cases change with
  | create c =>
    have hdecoded : ∀ name ∈ c.names, decodedName name = name := fun name hname =>
      (decodedName_eq_iff (hwhole name hname).1).mpr (hwhole name hname).2
    obtain ⟨resolved, fs₁, hresolve⟩ := c.resolved_of_run h hwf hrun
    obtain ⟨t₁, label₁, rows, h₁, hlands⟩ := c.resolve_ensures h hg.bitmap hwf _ _ hresolve
    obtain ⟨-, t', label', h', hleaves⟩ := c.run_ensures h hg hwf hresolve h₁ hlands _ _ hrun
    obtain ⟨_, createParents, components, hfollows, hnames⟩ := hlands.follows
    have hunique₁ : Unique t₁ :=
      hfollows.unique (fun hcreate c hc => hdecoded c (hnames hcreate c hc)) hunique
    have hunique' := hleaves.unique (hdecoded _ hlands.named) hunique₁
    obtain ⟨_, _, -, -, hwf', -⟩ := hleaves
    exact ⟨t', label', h', hwf', hunique'⟩
  | deletePath path =>
    obtain ⟨t', h', hwf', -, hshrinks⟩ := h.deletePath_ensures hg.bitmap hwf path _ _ hrun
    exact ⟨t', label, h', hwf', hunique.shrinks hshrinks⟩
  | deleteRecursive depth path =>
    obtain ⟨t', h', hwf', -, hshrinks⟩ :=
      deleteRecursive_ensures hg.bitmap depth path t fs h hwf _ _ hrun
    exact ⟨t', label, h', hwf', hunique.shrinks hshrinks⟩

/-- A run that creates only whole names keeps them unique. -/
theorem ReachedBy.unique (h : ReachedBy Change.Whole fs) : ∃ g, g.Fits ∧ IsUniqueTree g fs := by
  induction h with
  | opened hnew =>
    obtain ⟨g, t, label, hg, h, hwf, hblank⟩ := hnew.blank
    refine ⟨g, hg, t, label, h, hwf, fun k rows ho => ?_⟩
    rw [hblank k rows ho]
    exact ⟨List.Pairwise.nil, fun e he => nomatch he⟩
  | step change _ hwhole hrun ih =>
    obtain ⟨g, hg, htree⟩ := ih
    exact ⟨g, hg, change.unique_ensures hwhole htree hg () _ hrun⟩

end

end StreamBox.Exfat
