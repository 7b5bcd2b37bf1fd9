import StreamBox.Exfat.FailedWrites

/-!
# Parents made on the way

Resolving a path may create the directories it names, and these stay when the operation fails.

* **Makes** — the first component that is not there gets a directory, if its name fits and a
  cluster is free.
* **Grown** — then the volume has an object more, at a cluster that was free before, and nothing
  is taken from it any more.
* **Resolving** — a path resolves to what is there and nothing changes, or to a free name in a
  new directory.
-/

namespace StreamBox.Exfat

section

variable [Lowercase] {g : VolumeParams} {t t' : Table} {label : Nat → List String}
  {fs fs' : ExfatFs} {k : Nat} {rows : Rows}

/-! ## One directory -/

/-- A directory that is not created has leaked its cluster, if it got one. -/
theorem Stores.createDirectoryIn_fails (h : Stores g t fs) (hfits : g.BitmapFits)
    (ho : t k = some (.dir rows)) (hshaped : Shaped rows) (name : String) :
    Fails (createDirectoryIn k name) fs fun _ fs' =>
      Ends (NameFits name ∧ (∀ e ∈ rowSets rows, ¬ e.Named (toLowercase name)) ∧
        fs.freeClusters ≠ []) g t fs fs' := by
  unfold createDirectoryIn
  by_cases hname : name = "" ∨ utf8Len name > 255
  · rw [if_pos hname]
    exact Fails.throw (Or.inr ⟨fun hleaks => hleaks.1 hname, .refl h⟩)
  · rw [if_neg hname]
    refine Fails.bind_returns (h.findEntry_quiet ho hshaped name) ?_
    rintro found fs₁ ⟨hfinds, hquiet⟩
    have h₁ := hquiet.stores
    cases hfinds with
    | found p e hrows hnamed _ =>
      exact Fails.throw (Or.inr ⟨fun hleaks => hleaks.2.1 e (hrows ▸ p.mem_fill e) hnamed, hquiet⟩)
    | absent hnone =>
      refine Fails.bind ((h₁.allocateClusters_fails 1).mono ?_)
        ((h₁.allocateClusters_ensures hfits 1).and (h₁.allocateClusters_enough 1)) ?_
      · rintro _ fs' ⟨hquiet', hfew⟩
        refine Or.inr ⟨fun hleaks => hleaks.2.2 ?_, hquiet.trans hquiet'⟩
        rw [hquiet.freeClusters h] at hfew
        exact List.eq_nil_of_length_eq_zero (by omega)
      · rintro new fs₂ ⟨⟨file, h₂, hfree, hroot, hlen, hfresh, rest, hchain⟩, henough⟩
        obtain ⟨⟨c, data⟩, rfl⟩ : ∃ row, file = [row] := List.length_eq_one_iff.mp hlen
        obtain ⟨rfl, -⟩ := List.cons.inj hchain
        rw [hquiet.freeClusters h] at henough
        rw [hquiet.disk] at hfresh
        have hleaks : NameFits name ∧ (∀ e ∈ rowSets rows, ¬ e.Named (toLowercase name)) ∧
            fs.freeClusters ≠ [] := ⟨hname, hnone, List.length_pos_iff.mp henough⟩
        refine Fails.of_run (x := get) rfl ?_
        have hzeros : (List.replicate fs₂.clusterSize (0 : UInt8)).length ≤ g.clusterSize := by
          rw [List.length_replicate, h₂.params]
        refine Fails.bind_returns (h₂.writeCluster_returns (Function.update_self ..)
          (.file [(c, g.pad (List.replicate fs₂.clusterSize 0))]) hzeros (List.nil_append _).symm
          rfl) ?_
        intro _ fs₃ h₃
        rw [Function.update_idem] at h₃
        have hextends : Extends t (Function.update t c
          (some (.file [(c, g.pad (List.replicate fs₂.clusterSize 0))]))) := .file hfree _
        have hok : ∀ now, (EntrySet.mk name c 0 true now).Ok := fun now =>
          NameFits.ok hname (h₃.key_lt (Function.update_self ..)) (by decide)
        refine Fails.bind_each ((h₃.createEntryInDirectory_fails hfits (hextends.kept k _ ho) hshaped
          name c 0 true hok).mono ?_) fun _ _ => .pure
        intro _ fs' hquiet'
        refine Or.inl ⟨hleaks, _, c, hquiet'.stores, hextends, hroot, hfresh, ?_⟩
        rw [Function.update_self]
        exact Option.some_ne_none _

/-- A directory that is created has a name that fits and a cluster that was free. -/
theorem Stores.createDirectoryIn_fresh (h : Stores g t fs) (hfits : g.BitmapFits)
    (ho : t k = some (.dir rows)) (hshaped : Shaped rows) (name : String) :
    Ensures (createDirectoryIn k name) fs fun new _ => NameFits name ∧ fs.freeClusters ≠ [] ∧
      g.firstClusterOfRoot < new ∧ fs.disk.allocated new = false := by
  unfold createDirectoryIn
  by_cases hname : name = "" ∨ utf8Len name > 255
  · rw [if_pos hname]
    exact Ensures.throw
  · rw [if_neg hname]
    refine Ensures.bind (h.findEntry_quiet ho hshaped name).ensures ?_
    rintro found fs₁ ⟨-, hquiet⟩
    cases found with
    | some location => exact Ensures.throw
    | none =>
      have h₁ := hquiet.stores
      refine Ensures.bind
        ((h₁.allocateClusters_ensures hfits 1).and (h₁.allocateClusters_enough 1)) ?_
      rintro new fs₂ ⟨⟨-, -, -, hroot, -, hfresh, -⟩, henough⟩
      rw [hquiet.freeClusters h] at henough
      rw [hquiet.disk] at hfresh
      refine Ensures.of_run (x := get) rfl ?_
      refine Ensures.bind_each fun _ fs₃ => ?_
      refine Ensures.bind_each fun _ fs₄ => ?_
      exact Ensures.pure ⟨hname, List.length_pos_iff.mp henough, hroot, hfresh⟩

/-! ## Growing -/

/-- Files that no entry refers to do not harm the tree. -/
theorem Wf.extends (h : Wf g t label) (hextends : Extends t t') : Wf g t' label where
  root := h.root.imp fun rows ho => hextends.kept _ _ ho
  rootLabel := h.rootLabel
  upcase := h.upcase.imp fun o ho => hextends.kept _ _ ho
  upcaseLabel := h.upcaseLabel
  shaped k rows ho := h.shaped k rows (hextends.files k rows ho)
  entries k rows ho e he := by
    obtain ⟨hok, hrefers⟩ := h.entries k rows (hextends.files k rows ho) e he
    refine ⟨hok, hrefers.congr rfl (fun _ => rfl) fun hne => Or.inl ?_⟩
    obtain ⟨-, ⟨o, ho⟩, -⟩ := hrefers.object hne
    rw [ho, hextends.kept _ _ ho]
  once k rows ho := h.once k rows (hextends.files k rows ho)
  across k k' rows rows' hne ho ho' :=
    h.across k k' rows rows' hne (hextends.files _ _ ho) (hextends.files _ _ ho')
  plain k rows ho := h.plain k rows (hextends.files k rows ho)

/-- The volume keeps its objects and has one more, at a cluster that was free before. -/
structure Grown (g : VolumeParams) (t : Table) (fs : ExfatFs) (t' : Table)
    (label' : Nat → List String) (fs' : ExfatFs) : Prop where
  stores : Stores g t' fs'
  wf : Wf g t' label'
  kept : ∀ x, t x ≠ none → t' x ≠ none
  taken : ∃ x, g.firstClusterOfRoot < x ∧ fs.disk.allocated x = false ∧ t' x ≠ none

/-- The run has taken a free cluster. -/
def Took (g : VolumeParams) (t : Table) (fs fs' : ExfatFs) : Prop :=
  ∃ t' label', Grown g t fs t' label' fs'

omit [Lowercase] in
theorem Extends.some (h : Extends t t') {x : Nat} (hx : t x ≠ none) : t' x ≠ none := by
  obtain ⟨o, ho⟩ := Option.ne_none_iff_exists'.mp hx
  rw [h.kept x o ho]
  exact Option.some_ne_none o

theorem Leaked.took (h : Leaked g t fs fs') (hwf : Wf g t label) : Took g t fs fs' := by
  obtain ⟨t', x, h', hextends, hroot, hfree, hx⟩ := h
  exact ⟨t', label, h', hwf.extends hextends, fun _ => hextends.some, x, hroot, hfree, hx⟩

/-- What comes later takes nothing away. -/
theorem Grown.later {t₁ : Table} {label₁ : Nat → List String} {fs₁ : ExfatFs}
    (h : Grown g t fs t₁ label₁ fs₁) (h' : Stores g t' fs') {label' : Nat → List String}
    (hwf' : Wf g t' label') (hkept : ∀ x, t₁ x ≠ none → t' x ≠ none) :
    Grown g t fs t' label' fs' := by
  obtain ⟨x, hroot, hfree, hx⟩ := h.taken
  exact ⟨h', hwf', fun y hy => hkept y (h.kept y hy), x, hroot, hfree, hkept x hx⟩

theorem Grown.after {fs₁ : ExfatFs} {label' : Nat → List String} (h : Grown g t fs₁ t' label' fs')
    (hquiet : Quiet g t fs fs₁) : Grown g t fs t' label' fs' := by
  obtain ⟨x, hroot, hfree, hx⟩ := h.taken
  exact ⟨h.stores, h.wf, h.kept, x, hroot, hquiet.disk ▸ hfree, hx⟩

/-! ## Resolving -/

/-- The first of the components that is not there would get a directory. -/
def Makes (t : Table) (fs : ExfatFs) (k : Nat) (components : List String) : Prop :=
  ∃ before component after k' rows', components = before ++ component :: after ∧
    walk t k (before.map toLowercase) = some k' ∧ t k' = some (.dir rows') ∧
    (∀ e ∈ rowSets rows', ¬ e.Named (toLowercase component)) ∧ NameFits component ∧
    fs.freeClusters ≠ []

theorem not_makes_nil : ¬ Makes t fs k [] := by
  rintro ⟨before, component, after, _, _, hcomponents, -⟩
  cases before <;> cases hcomponents

/-- A missing component. -/
theorem makes_absent {component : String} {rest : List String} (ho : t k = some (.dir rows))
    (hnone : ∀ e ∈ rowSets rows, ¬ e.Named (toLowercase component)) :
    Makes t fs k (component :: rest) ↔ NameFits component ∧ fs.freeClusters ≠ [] := by
  constructor
  · rintro ⟨before, component', after, k', rows', hcomponents, hwalk, -, -, hname, hfree⟩
    cases before with
    | nil =>
      cases hcomponents
      exact ⟨hname, hfree⟩
    | cons first before =>
      cases hcomponents
      obtain ⟨rows₁, e, hrows, hfind, -⟩ := walk_cons_iff.mp hwalk
      rw [ho] at hrows
      cases hrows
      have hnamed : e.folded = toLowercase component := by simpa using List.find?_some hfind
      exact absurd hnamed (hnone e (List.mem_of_find?_eq_some hfind))
  · rintro ⟨hname, hfree⟩
    exact ⟨[], component, rest, k, rows, rfl, rfl, ho, hnone, hname, hfree⟩

/-- A component that is there. -/
theorem makes_found {component : String} {rest : List String} {p : Place} {e : EntrySet}
    (ho : t k = some (.dir (p.fill [.set e]))) (hnamed : e.Named (toLowercase component))
    (hbefore : ∀ e' ∈ p.setsBefore, ¬ e'.Named (toLowercase component)) :
    Makes t fs k (component :: rest) ↔ e.isDir = true ∧ Makes t fs e.firstCluster rest := by
  constructor
  · rintro ⟨before, component', after, k', rows', hcomponents, hwalk, ho', hnone, hname, hfree⟩
    cases before with
    | nil =>
      cases hcomponents
      cases hwalk
      rw [ho] at ho'
      cases ho'
      exact absurd hnamed (hnone e (p.mem_fill e))
    | cons first before =>
      cases hcomponents
      obtain ⟨rows₁, e', hrows, hfind, hdir, hwalk⟩ := walk_cons_iff.mp hwalk
      rw [ho] at hrows
      cases hrows
      rw [find?_first hnamed hbefore] at hfind
      cases hfind
      exact ⟨hdir, before, component', after, k', rows', rfl, hwalk, ho', hnone, hname, hfree⟩
  · rintro ⟨hdir, before, component', after, k', rows', rfl, hwalk, ho', hnone, hname, hfree⟩
    refine ⟨component :: before, component', after, k', rows', rfl, ?_, ho', hnone, hname, hfree⟩
    exact walk_cons_iff.mpr ⟨_, e, ho, find?_first hnamed hbefore, hdir, hwalk⟩

theorem Quiet.makes {fs₁ : ExfatFs} (hquiet : Quiet g t fs fs₁) (h : Stores g t fs)
    {components : List String} : Makes t fs₁ k components ↔ Makes t fs k components := by
  rw [Makes, Makes, hquiet.freeClusters h]

/-- What following components leaves when it fails: what it has made, or nothing. -/
def Unresolved (g : VolumeParams) (t : Table) (makes : Prop) (fs fs' : ExfatFs) : Prop :=
  (makes ∧ Took g t fs fs') ∨ (¬ makes ∧ Quiet g t fs fs')

/-- Where following components leads: to a directory that is there, or to a new one. -/
def Reaches (g : VolumeParams) (t : Table) (makes : Prop) (fs : ExfatFs) (k : Nat)
    (components : List String) (k' : Nat) (fs' : ExfatFs) : Prop :=
  (¬ makes ∧ walk t k (components.map toLowercase) = some k' ∧ Quiet g t fs fs') ∨
    makes ∧ ∃ t' label' rows', Grown g t fs t' label' fs' ∧ t' k' = some (.dir rows') ∧
      rowSets rows' = []

/-- Following components. -/
theorem Stores.resolveParents_outcome (hfits : g.BitmapFits) (createParents : Bool)
    (components : List String) (hplain : ∀ c ∈ components, '/' ∉ c.toList) :
    ∀ (followed : List String) (t : Table) (label : Nat → List String) (k : Nat) (rows : Rows)
      (fs : ExfatFs), Stores g t fs → Wf g t label → t k = some (.dir rows) →
      Fails (resolveParents createParents followed k components) fs (fun _ =>
          Unresolved g t (createParents = true ∧ Makes t fs k components) fs) ∧
        Ensures (resolveParents createParents followed k components) fs
          (Reaches g t (createParents = true ∧ Makes t fs k components) fs k components) := by
  induction components with
  | nil =>
    intro followed t label k rows fs h hwf ho
    exact ⟨Fails.pure, Ensures.pure (Or.inl ⟨fun hmakes => not_makes_nil hmakes.2, rfl, .refl h⟩)⟩
  | cons component rest ih =>
    intro followed t label k rows fs h hwf ho
    have ih := ih fun c hc => hplain c (List.mem_cons_of_mem _ hc)
    have hshaped := hwf.shaped k rows ho
    obtain ⟨found, fs₁, hfind, hfinds, hquiet⟩ := h.findEntry_quiet ho hshaped component
    have h₁ := hquiet.stores
    rw [resolveParents]
    cases hfinds with
    | found p e hrows hnamed hbefore =>
      subst hrows
      rw [makes_found ho hnamed hbefore]
      by_cases hdir : e.isDir = true
      · have hnot : (!(p.locate e).isDirectory) = false := by
          show (!e.isDir) = false
          rw [hdir]
          rfl
        obtain ⟨-, -, rows', hrows'⟩ := hwf.dir_of_mem ho (p.mem_fill e) hdir
        obtain ⟨hfails, hensures⟩ :=
          ih (followed ++ [component]) t label e.firstCluster rows' fs₁ h₁ hwf hrows'
        rw [hquiet.makes h] at hfails hensures
        constructor
        · refine Fails.of_run hfind ?_
          simp only [hnot]
          refine hfails.mono ?_
          rintro _ fs' (⟨hmakes, t', label', hgrown⟩ | ⟨hnone, hquiet'⟩)
          · exact Or.inl ⟨⟨hmakes.1, hdir, hmakes.2⟩, t', label', hgrown.after hquiet⟩
          · exact Or.inr ⟨fun hmakes => hnone ⟨hmakes.1, hmakes.2.2⟩, hquiet.trans hquiet'⟩
        · refine Ensures.of_run hfind ?_
          simp only [hnot]
          refine hensures.mono ?_
          rintro k' fs' (⟨hnone, hwalk, hquiet'⟩ | ⟨hmakes, t', label', rows'', hgrown, ho', hblank⟩)
          · refine Or.inl ⟨fun hmakes => hnone ⟨hmakes.1, hmakes.2.2⟩, ?_, hquiet.trans hquiet'⟩
            exact walk_cons_iff.mpr ⟨_, e, ho, find?_first hnamed hbefore, hdir, hwalk⟩
          · exact Or.inr ⟨⟨hmakes.1, hdir, hmakes.2⟩, t', label', rows'', hgrown.after hquiet, ho', hblank⟩
      · have hnot : (!(p.locate e).isDirectory) = true := by
          show (!e.isDir) = true
          simpa using hdir
        constructor
        · refine Fails.of_run hfind ?_
          simp only [hnot]
          exact Fails.throw (Or.inr ⟨fun hmakes => hdir hmakes.2.1, hquiet⟩)
        · refine Ensures.of_run hfind ?_
          simp only [hnot]
          exact Ensures.throw
    | absent hnone =>
      rw [makes_absent ho hnone]
      cases createParents with
      | false =>
        constructor
        · exact Fails.of_run hfind (Fails.throw (Or.inr ⟨fun hmakes => Bool.false_ne_true hmakes.1, hquiet⟩))
        · exact Ensures.of_run hfind Ensures.throw
      | true =>
        have hcreate := ((h₁.createDirectoryIn_ensures hfits hwf ho
          fun _ => hplain component List.mem_cons_self).and
            (h₁.createDirectoryIn_fresh hfits ho hshaped component))
        -- behind a directory made, every end leaves what it has taken
        have hmade : ∀ new fs₂, (createDirectoryIn k component).run fs₁ = .ok new fs₂ →
            (NameFits component ∧ fs.freeClusters ≠ []) ∧ ∃ t₂ label₂ rows₂,
              Grown g t fs t₂ label₂ fs₂ ∧ t₂ new = some (.dir rows₂) ∧ rowSets rows₂ = [] := by
          intro new fs₂ hrun
          obtain ⟨⟨e, t₂, label₂, -, hdir, rfl, hne, h₂, hwf₂, hadds, -⟩, hname, hfree, hroot, hclear⟩ :=
            hcreate new fs₂ hrun
          obtain ⟨rows₂, hrows₂⟩ : ∃ rows₂, t₂ e.firstCluster = some (.dir rows₂) := by
            obtain ⟨old, new, hold, hnew, -, before, after, -, hsets⟩ := hadds.edit
            have he : e ∈ rowSets new := hsets ▸ List.mem_append_right _ List.mem_cons_self
            exact (hwf₂.dir_of_mem hnew he hdir).2.2
          rw [hquiet.freeClusters h] at hfree
          rw [hquiet.disk] at hclear
          refine ⟨⟨hname, hfree⟩, t₂, label₂, rows₂, ⟨h₂, hwf₂, fun _ => hadds.some, ?_⟩, hrows₂,
            (hadds.blank hne rows₂ hrows₂).2⟩
          exact ⟨e.firstCluster, hroot, hclear, hrows₂ ▸ Option.some_ne_none _⟩
        constructor
        · refine Fails.of_run hfind (Fails.bind ?_ hmade ?_)
          · refine (h₁.createDirectoryIn_fails hfits ho hshaped component).mono ?_
            rintro _ fs' hend
            rw [hquiet.freeClusters h] at hend
            rcases hend.after hquiet with ⟨⟨hname, -, hfree⟩, hleaked⟩ | ⟨hnot, hquiet'⟩
            · exact Or.inl ⟨⟨rfl, hname, hfree⟩, hleaked.took hwf⟩
            · exact Or.inr ⟨fun hmakes => hnot ⟨hmakes.2.1, hnone, hmakes.2.2⟩, hquiet'⟩
          · rintro new fs₂ ⟨hmakes, t₂, label₂, rows₂, hgrown, hrows₂, -⟩
            refine (ih _ t₂ label₂ new rows₂ fs₂ hgrown.stores hgrown.wf hrows₂).1.mono ?_
            rintro _ fs' (⟨-, t', label', hgrown'⟩ | ⟨-, hquiet'⟩)
            · exact Or.inl ⟨⟨rfl, hmakes⟩, t', label',
                hgrown.later hgrown'.stores hgrown'.wf hgrown'.kept⟩
            · exact Or.inl ⟨⟨rfl, hmakes⟩, t₂, label₂,
                hgrown.later hquiet'.stores hgrown.wf fun _ hx => hx⟩
        · refine Ensures.of_run hfind (Ensures.bind hmade ?_)
          rintro new fs₂ ⟨hmakes, t₂, label₂, rows₂, hgrown, hrows₂, hblank⟩
          refine (ih _ t₂ label₂ new rows₂ fs₂ hgrown.stores hgrown.wf hrows₂).2.mono ?_
          rintro k' fs' (⟨-, hwalk, hquiet'⟩ | ⟨-, t', label', rows', hgrown', ho', hblank'⟩)
          · -- nothing is below the new directory, so the path ends there
            cases rest with
            | nil =>
              cases hwalk
              exact Or.inr ⟨⟨rfl, hmakes⟩, t₂, label₂, rows₂,
                hgrown.later hquiet'.stores hgrown.wf fun _ hx => hx, hrows₂, hblank⟩
            | cons next rest =>
              obtain ⟨rows', e, hrows', hentry, -⟩ := walk_cons_iff.mp hwalk
              rw [hrows₂] at hrows'
              cases hrows'
              rw [hblank] at hentry
              cases hentry
          · exact Or.inr ⟨⟨rfl, hmakes⟩, t', label', rows',
              hgrown.later hgrown'.stores hgrown'.wf hgrown'.kept, ho', hblank'⟩

/-- What a path resolves to: what is there, or a free name in a new directory. -/
def Lookup (g : VolumeParams) (t : Table) (makes : Prop) (fs : ExfatFs) (components : List String)
    (resolved : ResolvedPath) (fs' : ExfatFs) : Prop :=
  components.getLast? = some resolved.name ∧
    ((¬ makes ∧ Quiet g t fs fs' ∧ ∃ rows, t resolved.parentCluster = some (.dir rows) ∧
        walk t g.firstClusterOfRoot (components.dropLast.map toLowercase)
          = some resolved.parentCluster ∧
        Finds (toLowercase resolved.name) rows resolved.location) ∨
      makes ∧ resolved.location = none ∧ ∃ t' label' rows', Grown g t fs t' label' fs' ∧
        t' resolved.parentCluster = some (.dir rows') ∧ rowSets rows' = [])

/-- Resolving the components of a path. -/
def resolveComponents (components : List String) (createParents : Bool) : ExfatM ResolvedPath := do
  let fs ← get
  match components.getLast? with
  | none => throw (.filesystemError "Empty path")
  | some name => do
    let parent ← resolveParents createParents [] fs.firstClusterOfRoot components.dropLast
    let location ← findEntryInDirectory parent name
    pure { parentCluster := parent, name := name, location := location }

theorem resolvePath_eq (path : String) (createParents : Bool) :
    resolvePath path createParents = resolveComponents (parsePath path) createParents := rfl

theorem resolveRoot_eq (name : String) : resolveRoot name = resolveComponents [name] false := rfl

/-- Resolving a path. -/
theorem Stores.resolveComponents_outcome (h : Stores g t fs) (hfits : g.BitmapFits)
    (hwf : Wf g t label) (components : List String)
    (hplain : ∀ c ∈ components.dropLast, '/' ∉ c.toList) (createParents : Bool) :
    Fails (resolveComponents components createParents) fs (fun _ => Unresolved g t
        (createParents = true ∧ Makes t fs g.firstClusterOfRoot components.dropLast) fs) ∧
      Ensures (resolveComponents components createParents) fs (Lookup g t
        (createParents = true ∧ Makes t fs g.firstClusterOfRoot components.dropLast) fs
        components) := by
  obtain rfl := h.params
  obtain ⟨rootRows, hroot⟩ := hwf.root
  obtain ⟨hfails, hensures⟩ := Stores.resolveParents_outcome hfits createParents
    components.dropLast hplain [] t label fs.firstClusterOfRoot rootRows fs h hwf hroot
  unfold resolveComponents
  cases hlast : components.getLast? with
  | none =>
    have hnil : components = [] := List.getLast?_eq_none_iff.mp hlast
    subst hnil
    constructor
    · refine Fails.of_run (x := get) rfl ?_
      exact Fails.throw (Or.inr ⟨fun hmakes => not_makes_nil hmakes.2, .refl h⟩)
    · exact Ensures.of_run (x := get) rfl Ensures.throw
  | some name =>
    constructor
    · refine Fails.of_run (x := get) rfl (Fails.bind hfails hensures ?_)
      rintro k fs₁ (⟨-, hwalk, hquiet⟩ | ⟨-, t', label', rows', hgrown, ho', -⟩)
      · obtain ⟨rows, ho⟩ := hwf.walk_dir hroot hwalk
        exact Fails.bind_returns (hquiet.stores.findEntry_quiet ho (hwf.shaped k rows ho) name)
          fun _ _ _ => .pure
      · exact Fails.bind_returns (hgrown.stores.findEntry_quiet ho' (hgrown.wf.shaped k rows' ho') name)
          fun _ _ _ => .pure
    · refine Ensures.of_run (x := get) rfl (Ensures.bind hensures ?_)
      rintro k fs₁ (⟨hnot, hwalk, hquiet⟩ | ⟨hmakes, t', label', rows', hgrown, ho', hblank⟩)
      · obtain ⟨rows, ho⟩ := hwf.walk_dir hroot hwalk
        refine Ensures.bind
          (hquiet.stores.findEntry_quiet ho (hwf.shaped k rows ho) name).ensures ?_
        rintro location fs₂ ⟨hfinds, hquiet'⟩
        exact Ensures.pure
          ⟨hlast, Or.inl ⟨hnot, hquiet.trans hquiet', rows, ho, hwalk, hfinds⟩⟩
      · refine Ensures.bind
          (hgrown.stores.findEntry_quiet ho' (hgrown.wf.shaped k rows' ho') name).ensures ?_
        rintro location fs₂ ⟨hfinds, hquiet'⟩
        refine Ensures.pure ⟨hlast, Or.inr ⟨hmakes, ?_, t', label', rows',
          hgrown.later hquiet'.stores hgrown.wf fun _ hx => hx, ho', hblank⟩⟩
        cases hfinds with
        | absent _ => rfl
        | found p e hrows _ _ =>
          have he : e ∈ rowSets rows' := hrows ▸ p.mem_fill e
          rw [hblank] at he
          cases he

end

end StreamBox.Exfat
