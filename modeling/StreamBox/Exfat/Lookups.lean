import StreamBox.Exfat.Ownership

/-!
# Looking up paths

* **Walks** — resolving a path whose directories are there succeeds and changes nothing
  (`Stores.resolvePath_returns`).
* **New directories** — a path that ends in an old directory has created none
  (`Follows.same_or_new`).
-/

namespace StreamBox.Exfat

section

variable [Lowercase]

variable {g : VolumeParams} {t : Table} {label : Nat → List String} {fs : ExfatFs} {k : Nat}
  {rows : Rows}

/-- A walk from a directory ends in a directory. -/
theorem Wf.walk_dir (hwf : Wf g t label) (ho : t k = some (.dir rows)) {names : List String}
    {k' : Nat} (h : walk t k names = some k') : ∃ rows', t k' = some (.dir rows') := by
  induction names generalizing k rows with
  | nil =>
    cases h
    exact ⟨rows, ho⟩
  | cons f rest ih =>
    obtain ⟨rows', e, hrows, hfind, hdir, h⟩ := walk_cons_iff.mp h
    obtain ⟨-, -, below, hbelow⟩ := hwf.dir_of_mem hrows (List.mem_of_find?_eq_some hfind) hdir
    exact ih hbelow h

/-- What a lookup finds is the first set of the name. -/
theorem Finds.find? {targetLower : String} {found : Option FileEntryLocation}
    (h : Finds targetLower rows found) {e : EntrySet}
    (hfind : (rowSets rows).find? (fun e => decide (e.folded = targetLower)) = some e) :
    ∃ p : Place, rows = p.fill [.set e] ∧ found = some (p.locate e) := by
  cases h with
  | found p e' hrows hnamed hbefore =>
    subst hrows
    rw [find?_first hnamed hbefore] at hfind
    cases hfind
    exact ⟨p, rfl, rfl⟩
  | absent hnone =>
    have hfolded : e.folded = targetLower := by simpa using List.find?_some hfind
    exact absurd hfolded (hnone e (List.mem_of_find?_eq_some hfind))

omit [Lowercase] in
/-- A list has one first element of a kind. -/
theorem first_unique {α : Type} (kind : α → Prop) {a a' b b' : List α} {x x' : α}
    (h : a ++ x :: b = a' ++ x' :: b') (ha : ∀ y ∈ a, ¬ kind y) (ha' : ∀ y ∈ a', ¬ kind y)
    (hx : kind x) (hx' : kind x') : a = a' ∧ x = x' := by
  induction a generalizing a' with
  | nil =>
    cases a' with
    | nil => exact ⟨rfl, (List.cons.inj h).1⟩
    | cons y rest =>
      have hsame : x = y := (List.cons.inj h).1
      exact absurd (hsame ▸ hx) (ha' y List.mem_cons_self)
  | cons y rest ih =>
    cases a' with
    | nil =>
      have hsame : y = x' := (List.cons.inj h).1
      exact absurd (hsame.symm ▸ hx') (ha y List.mem_cons_self)
    | cons y' rest' =>
      obtain ⟨rfl, htail⟩ := List.cons.inj h
      obtain ⟨rfl, hsame⟩ := ih htail (fun z hz => ha z (List.mem_cons_of_mem _ hz))
        fun z hz => ha' z (List.mem_cons_of_mem _ hz)
      exact ⟨rfl, hsame⟩

omit [Lowercase] in
theorem mem_sets_of_mem {items : List Item} {e : EntrySet} (h : .set e ∈ items) :
    e ∈ sets items := by
  obtain ⟨before, after, rfl⟩ := List.append_of_mem h
  simp [sets]

/-- A lookup has one outcome. -/
theorem Finds.unique {targetLower : String} {found found' : Option FileEntryLocation}
    (h : Finds targetLower rows found) (h' : Finds targetLower rows found') : found = found' := by
  cases h with
  | absent hnone =>
    cases h' with
    | absent _ => rfl
    | found p e hrows hnamed _ => exact absurd hnamed (hnone e (hrows ▸ p.mem_fill e))
  | found p e hrows hnamed hbefore =>
    subst hrows
    cases h' with
    | absent hnone => exact absurd hnamed (hnone e (p.mem_fill e))
    | found p' e' hrows' hnamed' hbefore' =>
      -- first among the rows, then among the items of that row
      have hsplit : ∀ (q : Place) (s : EntrySet), (∀ e ∈ q.setsBefore, ¬ e.Named targetLower) →
          (∀ row ∈ q.pre, ¬ ∃ e ∈ sets row.2, e.Named targetLower) ∧
            ∀ item ∈ q.before, ¬ ∃ e, item = .set e ∧ e.Named targetLower := by
        intro q s hq
        constructor
        · rintro row hrow ⟨e, he, hnamed⟩
          exact hq e (List.mem_append_left _ (List.mem_flatMap.mpr ⟨row, hrow, he⟩)) hnamed
        · rintro _ hitem ⟨e, rfl, hnamed⟩
          exact hq e (List.mem_append_right _ (mem_sets_of_mem hitem)) hnamed
      obtain ⟨hpre, hitems⟩ := hsplit p e hbefore
      obtain ⟨hpre', hitems'⟩ := hsplit p' e' hbefore'
      obtain ⟨-, hrow⟩ := first_unique (fun row => ∃ s ∈ sets row.2, s.Named targetLower) hrows' hpre
        hpre' ⟨e, by simp [sets], hnamed⟩ ⟨e', by simp [sets], hnamed'⟩
      obtain ⟨hcluster, hrow⟩ := Prod.mk.inj hrow
      rw [List.append_assoc, List.append_assoc] at hrow
      obtain ⟨hsame, hset⟩ := first_unique (fun item => ∃ s, item = Item.set s ∧ s.Named targetLower)
        hrow hitems hitems' ⟨e, rfl, hnamed⟩ ⟨e', rfl, hnamed'⟩
      rw [Place.locate, Place.locate, hcluster, hsame, Item.set.inj hset]

/-- Following directories that are there. -/
theorem Stores.resolveParents_returns (hwf : Wf g t label) (createParents : Bool)
    (components : List String) : ∀ (followed : List String) (k k' : Nat) (rows : Rows)
      (fs : ExfatFs), Stores g t fs → t k = some (.dir rows) →
      walk t k (components.map toLowercase) = some k' →
      Returns (resolveParents createParents followed k components) fs fun found fs' =>
        found = k' ∧ Stores g t fs' := by
  induction components with
  | nil =>
    intro followed k k' rows fs h ho hwalk
    cases hwalk
    exact Returns.pure ⟨rfl, h⟩
  | cons component rest ih =>
    intro followed k k' rows fs h ho hwalk
    obtain ⟨rows', e, hrows, hfind, hdir, hrest⟩ := walk_cons_iff.mp hwalk
    rw [ho] at hrows
    cases hrows
    rw [resolveParents]
    refine Returns.bind (h.findEntryInDirectory_returns ho (hwf.shaped k rows ho) component) ?_
    rintro found fs₁ ⟨h₁, hfinds⟩
    obtain ⟨p, hplace, rfl⟩ := hfinds.find? hfind
    obtain ⟨-, -, below, hbelow⟩ := hwf.dir_of_mem ho (List.mem_of_find?_eq_some hfind) hdir
    have hnot : (!(p.locate e).isDirectory) = false := by
      show (!e.isDir) = false
      rw [hdir]
      rfl
    simp only [hnot]
    exact ih _ _ k' below fs₁ h₁ hbelow hrest

/-- Resolving a path whose directories are there. -/
theorem Stores.resolvePath_returns (h : Stores g t fs) (hwf : Wf g t label) {path name : String}
    {parents : List String} (hparsed : parsePath path = parents ++ [name])
    (hwalk : walk t g.firstClusterOfRoot (parents.map toLowercase) = some k)
    (ho : t k = some (.dir rows)) (createParents : Bool) :
    Returns (resolvePath path createParents) fs fun resolved fs' => Stores g t fs' ∧
      resolved.parentCluster = k ∧ resolved.name = name ∧
      Finds (toLowercase name) rows resolved.location := by
  have hparams := h.params
  obtain ⟨rootRows, hroot⟩ := hwf.root
  obtain ⟨_, fs₁, hfollow, rfl, h₁⟩ := Stores.resolveParents_returns hwf createParents parents []
    g.firstClusterOfRoot k rootRows fs h hroot hwalk
  obtain ⟨found, fs₂, hfind, h₂, hfinds⟩ :=
    h₁.findEntryInDirectory_returns ho (hwf.shaped _ _ ho) name
  refine Returns.of_eq (t := fs₂) (a := ⟨_, name, found⟩) ?_ ⟨h₂, rfl, rfl, hfinds⟩
  rw [resolvePath, run_get_bind, hparsed, List.getLast?_concat, List.dropLast_concat, hparams]
  exact (bind_of_ok hfollow).trans (bind_of_ok hfind)

omit [Lowercase] in
/-- Adding an entry keeps the objects there are. -/
theorem Adds.some {t' : Table} {label' : Nat → List String} {e : EntrySet}
    (h : Adds t label k e t' label') {x : Nat} (hx : t x ≠ none) : t' x ≠ none := by
  by_cases hxk : x = k
  · subst hxk
    obtain ⟨-, rows', -, hnew, -⟩ := h.edit
    rw [hnew]
    exact Option.some_ne_none _
  · rw [h.others x hxk]
    · exact hx
    · rintro ⟨hne, rfl⟩
      exact hx (h.new hne)

/-- Following components either is a walk that creates nothing, or ends in a new directory. -/
theorem Follows.same_or_new {createParents : Bool} {t' : Table} {label' : Nat → List String}
    {k' : Nat} {components : List String}
    (h : Follows g createParents t label k components t' label' k') :
    (t' = t ∧ label' = label ∧ walk t k (components.map toLowercase) = some k') ∨ t k' = none := by
  induction h with
  | nil => exact Or.inl ⟨rfl, rfl, rfl⟩
  | found p e ho hnamed hbefore hdir _ ih =>
    rcases ih with ⟨rfl, rfl, hwalk⟩ | hnew
    · exact Or.inl ⟨rfl, rfl, walk_cons_iff.mpr ⟨_, e, ho, find?_first hnamed hbefore, hdir, hwalk⟩⟩
    · exact Or.inr hnew
  | @made s u t l m label x k component rest rows e _ _ _ _ _ hne hadds _ _ ih =>
    right
    by_contra hold
    rcases ih with ⟨rfl, rfl, hwalk⟩ | hnew
    · cases rest with
      | nil =>
        cases hwalk
        exact hold (hadds.new hne)
      | cons f rest =>
        obtain ⟨rows', e', hrows, hfind, -⟩ := walk_cons_iff.mp hwalk
        have hblank := (hadds.blank hne rows' hrows).2
        rw [hblank] at hfind
        cases hfind
    · exact hadds.some hold hnew

end

end StreamBox.Exfat
