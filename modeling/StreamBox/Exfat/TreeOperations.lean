import StreamBox.Exfat.Tree
import StreamBox.Lib.PathRouter

/-!
# File operations on the tree

What the operations do to the directory tree, when they succeed.

* **Paths** — the components of a path, and of the path of an item below it.
* **Following** — resolving a path follows the directories it names, and creates the
  missing ones when it may.
* **Operations** — each operation is some additions and removals of entries.
-/

namespace StreamBox.Exfat

/-! ## Paths -/

/-- The segments between slashes that are not empty. -/
def segments (path : List Char) : List (List Char) := (path.splitOn '/').filter (· ≠ [])

theorem segments_append_slash (a b : List Char) :
    segments (a ++ '/' :: b) = segments a ++ segments b := by
  rw [segments, List.splitOn_append_cons_self, List.filter_append]
  rfl

theorem segments_nil : segments [] = [] := rfl

theorem segments_cons_slash (l : List Char) : segments ('/' :: l) = segments l := by
  exact segments_append_slash [] l

theorem segments_concat_slash (l : List Char) : segments (l ++ ['/']) = segments l := by
  rw [segments_append_slash, segments_nil, List.append_nil]

theorem segments_dropWhile (l : List Char) : segments (l.dropWhile (· = '/')) = segments l := by
  induction l with
  | nil => rfl
  | cons c l ih =>
    rw [List.dropWhile_cons]
    split
    · rename_i hc
      rw [ih, show c = '/' by simpa using hc, segments_cons_slash]
    · rfl

theorem segments_trimEnd (l : List Char) :
    segments (l.reverse.dropWhile (· = '/')).reverse = segments l := by
  obtain ⟨l, rfl⟩ : ∃ m, l = m.reverse := ⟨l.reverse, (List.reverse_reverse l).symm⟩
  rw [List.reverse_reverse]
  induction l with
  | nil => rfl
  | cons c l ih =>
    rw [List.dropWhile_cons]
    split
    · rename_i hc
      rw [ih, List.reverse_cons, show c = '/' by simpa using hc, segments_concat_slash]
    · rfl

/-- Trimming slashes does not change the components. -/
theorem parsePath_eq (path : String) : parsePath path = (segments path.toList).map String.ofList := by
  rw [parsePath, trimSlashes, ← segments, segments_trimEnd, segments_dropWhile]

theorem slash_notMem_segments {l seg : List Char} (h : seg ∈ segments l) : '/' ∉ seg ∧ seg ≠ [] := by
  obtain ⟨hmem, hne⟩ := List.mem_filter.mp h
  refine ⟨?_, by simpa using hne⟩
  clear h hne
  induction hn : l.length using Nat.strongRecOn generalizing l with
  | ind n ih =>
    rcases Lib.splitOn_first_decomp '/' l with ⟨hnone, hs⟩ | ⟨first, rest, hfirst, hl, hs⟩
    · rw [hs, List.mem_singleton] at hmem
      rwa [hmem]
    · rw [hs] at hmem
      rcases List.mem_cons.mp hmem with rfl | hmem
      · exact hfirst
      · refine ih rest.length ?_ hmem rfl
        rw [← hn, hl, List.length_append, List.length_cons]
        omega

/-- The components of a path are not empty and have no slash. -/
theorem parsePath_plain {path component : String} (h : component ∈ parsePath path) :
    '/' ∉ component.toList ∧ component ≠ "" := by
  rw [parsePath_eq] at h
  obtain ⟨seg, hseg, rfl⟩ := List.mem_map.mp h
  obtain ⟨hslash, hne⟩ := slash_notMem_segments hseg
  refine ⟨by rwa [String.toList_ofList], fun hempty => hne ?_⟩
  rw [← String.toList_ofList (l := seg), hempty]
  rfl

/-- The path of an item has the components of the directory's path and the item's name. -/
theorem parsePath_itemPath (path : String) {name : String} (hslash : '/' ∉ name.toList)
    (hne : name ≠ "") : parsePath (itemPath path name) = parsePath path ++ [name] := by
  have hname : segments name.toList = [name.toList] := by
    have hnil : name.toList ≠ [] := fun h => hne (String.toList_eq_nil_iff.mp h)
    rw [segments, List.splitOn_eq_singleton hslash]
    simp [hnil]
  have hpath : segments (itemPath path name).toList = segments path.toList ++ [name.toList] := by
    unfold itemPath
    split
    · rename_i hlast
      obtain ⟨l, hl⟩ : ∃ l, path.toList = l ++ ['/'] :=
        List.getLast?_eq_some_iff.mp hlast
      rw [String.toList_append, hl, List.append_assoc, List.singleton_append,
        segments_append_slash, segments_concat_slash, hname]
    · rw [String.toList_append, String.toList_append, show "/".toList = ['/'] from rfl,
        List.append_assoc, List.singleton_append, segments_append_slash, hname]
  rw [parsePath_eq, parsePath_eq, hpath, List.map_append, List.map_singleton,
    String.ofList_toList]

/-! ## Removing -/

variable [Lowercase] {g : VolumeParams} {t : Table} {label : Nat → List String} {fs : ExfatFs}
  {k : Nat} {rows : Rows}

/-- Removing what a lookup found frees its chain and deletes its entry. -/
theorem Stores.removeLocation_returns (h : Stores g t fs) (hwf : Wf g t label) {p : Place}
    {e : EntrySet} (ho : t k = some (.dir (p.fill [.set e]))) :
    Returns (removeLocation (p.locate e)) fs fun _ fs' =>
      ∃ t', Stores g t' fs' ∧ Removes t k p e t' := by
  have he : e ∈ rowSets (p.fill [.set e]) := by
    rw [Place.rowSets_fill]
    exact List.mem_append_left _ (List.mem_append_right _ List.mem_cons_self)
  have hrefers := (hwf.entries k _ ho e he).2
  have hk := hrefers.not_owns
  by_cases hzero : e.firstCluster = 0
  · have hsmall : ¬ (p.locate e).firstCluster ≥ 2 := by
      show ¬ e.firstCluster ≥ 2
      omega
    rw [removeLocation, if_neg hsmall]
    refine (h.deleteFileEntry_returns ho).mono ?_
    intro _ fs' h'
    refine ⟨_, h', ho, Function.update_self .., fun hne => absurd hzero hne, ?_⟩
    intro x hx _
    exact Function.update_of_ne hx ..
  · obtain ⟨hroot, ⟨o, hobject⟩, -⟩ := hrefers.object hzero
    have hrootLo := h.valid.rootLo
    have hlarge : (p.locate e).firstCluster ≥ 2 := by
      show e.firstCluster ≥ 2
      omega
    have hne : k ≠ e.firstCluster := fun heq => hk ⟨hzero, heq⟩
    have hfree : Returns (freeClusterChain (p.locate e).firstCluster) fs fun _ fs' =>
        Stores g (Function.update t e.firstCluster none) fs' := h.freeClusterChain_returns hobject
    rw [removeLocation, if_pos hlarge]
    refine Returns.bind hfree ?_
    intro _ fs₁ h₁
    have ho₁ : Function.update t e.firstCluster none k = some (.dir (p.fill [.set e])) := by
      rw [Function.update_of_ne hne, ho]
    refine (h₁.deleteFileEntry_returns ho₁).mono ?_
    intro _ fs' h'
    refine ⟨_, h', ho, Function.update_self .., fun _ => ?_, ?_⟩
    · rw [Function.update_of_ne (Ne.symm hne), Function.update_self]
    · intro x hx hxe
      rw [Function.update_of_ne hx, Function.update_of_ne fun heq => hxe ⟨hzero, heq⟩]

/-! ## Creating directories -/

/-- The name bounds of the create operations. -/
def NameFits (name : String) : Prop := ¬ (name = "" ∨ utf8Len name > 255)

omit [Lowercase] in
theorem NameFits.ok {name : String} (h : NameFits name) {firstCluster size now : Nat}
    {isDir : Bool} (hcluster : firstCluster < 2 ^ 32) (hsize : size < 2 ^ 64) :
    (EntrySet.mk name firstCluster size isDir now).Ok := by
  unfold NameFits at h
  have hlen := length_encodeUtf16_le name
  have hne : name ≠ "" := fun hempty => h (Or.inl hempty)
  refine ⟨encodeUtf16_ne_nil hne, ?_, hcluster, hsize⟩
  show (encodeUtf16 name).length ≤ 255
  omega

omit [Lowercase] in
/-- The first cluster of an object is a `u32`. -/
theorem Stores.key_lt (h : Stores g t fs) {o : Obj} (ho : t k = some o) : k < 2 ^ 32 := by
  obtain ⟨d, hrep, hholds⟩ := h
  exact (((hholds.chained k o ho).inHeap k (hholds.key_mem ho)).bounds hrep.valid).2

/-- A successful `create_directory_in` adds a blank directory, whose name no entry had. -/
theorem Stores.createDirectoryIn_ensures (h : Stores g t fs) (hfits : g.BitmapFits)
    (hwf : Wf g t label) (ho : t k = some (.dir rows)) {name : String}
    (hplain : k ≠ g.firstClusterOfRoot → '/' ∉ name.toList) :
    Ensures (createDirectoryIn k name) fs fun new fs' => ∃ e t' label',
      e.name = name ∧ e.isDir = true ∧ e.firstCluster = new ∧ new ≠ 0 ∧ Stores g t' fs' ∧
        Wf g t' label' ∧ Adds t label k e t' label' ∧
        ∀ e' ∈ rowSets rows, ¬ e'.Named (toLowercase name) := by
  have hshaped := hwf.shaped k rows ho
  unfold createDirectoryIn
  by_cases hname : name = "" ∨ utf8Len name > 255
  · rw [if_pos hname]
    exact Ensures.throw
  · rw [if_neg hname]
    refine Ensures.bind (h.findEntryInDirectory_returns ho hshaped name).ensures ?_
    rintro found fs₁ ⟨h₁, hfinds⟩
    cases hfinds with
    | found p e _ _ _ => exact Ensures.throw
    | absent hnone =>
      refine Ensures.bind (h₁.allocateClusters_ensures hfits 1) ?_
      rintro new fs₂ ⟨file, h₂, hfree, hroot, hlen, -, rest, hchain⟩
      obtain ⟨⟨c, data⟩, rfl⟩ : ∃ row, file = [row] := List.length_eq_one_iff.mp hlen
      obtain ⟨rfl, -⟩ := List.cons.inj hchain
      have hparams := h₂.params
      intro u fs' hrun
      rw [run_get_bind, hparams] at hrun
      revert u fs'
      show Ensures _ fs₂ _
      have hblank := render_blankSlots h₂.valid.sizeEntries
      have hzeros : (List.replicate g.clusterSize (0 : UInt8)).length = g.clusterSize :=
        List.length_replicate
      have hblankRows : (Obj.dir [(c, blankSlots g.clusterSize)]).rows
          = [] ++ (c, g.pad (List.replicate g.clusterSize 0)) :: [] := by
        rw [VolumeParams.pad_of_full hzeros, ← hblank]
        rfl
      refine Ensures.bind (h₂.writeCluster_returns (Function.update_self ..) _
        (Nat.le_of_eq hzeros) (List.nil_append _).symm hblankRows).ensures ?_
      intro _ fs₃ h₃
      rw [Function.update_idem] at h₃
      have hck : k ≠ c := by
        rintro rfl
        rw [hfree] at ho
        cases ho
      have hc0 : c ≠ 0 := by omega
      have ho₃ : Function.update t c (some (.dir [(c, blankSlots g.clusterSize)])) k
          = some (.dir rows) := by
        rw [Function.update_of_ne hck, ho]
      have hok : ∀ now, (EntrySet.mk name c 0 true now).Ok := fun now =>
        NameFits.ok hname (h₃.key_lt (Function.update_self ..)) (by decide)
      refine Ensures.bind (h₃.createEntryInDirectory_ensures hfits ho₃ hshaped name c 0 true hok) ?_
      rintro _ fs₄ ⟨now, rows', h₄, hshaped', hinserts⟩
      generalize he : EntrySet.mk name c 0 true now = e at hinserts
      have hec : e.firstCluster = c := by rw [← he]
      subst hec
      obtain ⟨hadds, hobject, hlabel⟩ := addObject_spec label ho hshaped' hinserts hc0 hfree
        (o := .dir [(e.firstCluster, blankSlots g.clusterSize)]) (by
          rintro blank hblank
          cases hblank
          exact ⟨Shaped.blank _ _, by simp⟩)
      have hwf' := hwf.adds hadds (he ▸ hok now)
        (.dir _ hroot hobject (by rw [← he]) (by rw [← he]) hlabel) fun hk => by rw [← he]; exact hplain hk
      exact Ensures.pure
        ⟨e, _, _, by rw [← he], by rw [← he], rfl, hc0, h₄, hwf', hadds, hnone⟩

/-! ## Resolving paths -/

/-- Following components from a directory on: found directories are entered, and missing
ones created if they may be. -/
inductive Follows (g : VolumeParams) (createParents : Bool) :
    Table → (Nat → List String) → Nat → List String → Table → (Nat → List String) → Nat → Prop
  | nil (t : Table) (label : Nat → List String) (k : Nat) :
      Follows g createParents t label k [] t label k
  | found {s t : Table} {l label : Nat → List String} {x k : Nat} {component : String}
      {rest : List String} (p : Place) (e : EntrySet) :
      s x = some (.dir (p.fill [.set e])) → e.Named (toLowercase component) →
      (∀ e' ∈ p.setsBefore, ¬ e'.Named (toLowercase component)) → e.isDir = true →
      Follows g createParents s l e.firstCluster rest t label k →
      Follows g createParents s l x (component :: rest) t label k
  | made {s u t : Table} {l m label : Nat → List String} {x k : Nat} {component : String}
      {rest : List String} (rows : Rows) (e : EntrySet) :
      createParents = true → s x = some (.dir rows) →
      (∀ e' ∈ rowSets rows, ¬ e'.Named (toLowercase component)) → e.name = component →
      e.isDir = true → e.firstCluster ≠ 0 → Adds s l x e u m → Wf g u m →
      Follows g createParents u m e.firstCluster rest t label k →
      Follows g createParents s l x (component :: rest) t label k

/-- The directory of a set that has one. -/
theorem Wf.dir_of_mem (hwf : Wf g t label) (ho : t k = some (.dir rows)) {e : EntrySet}
    (he : e ∈ rowSets rows) (hdir : e.isDir = true) :
    e.firstCluster ≠ 0 ∧ g.firstClusterOfRoot < e.firstCluster ∧
      ∃ rows', t e.firstCluster = some (.dir rows') := by
  cases (hwf.entries k rows ho e he).2 with
  | empty _ hfile _ =>
    rw [hfile] at hdir
    cases hdir
  | file _ _ _ hfile _ _ =>
    rw [hfile] at hdir
    cases hdir
  | dir rows' hroot hrows _ _ _ => exact ⟨by omega, hroot, rows', hrows⟩

omit [Lowercase] in
theorem Place.mem_fill (p : Place) (e : EntrySet) : e ∈ rowSets (p.fill [.set e]) := by
  rw [rowSets_fill]
  exact List.mem_append_left _ (List.mem_append_right _ List.mem_cons_self)

/-- Following the components of a path ends in a directory. -/
theorem Stores.resolveParents_ensures (hfits : g.BitmapFits) (createParents : Bool)
    (components : List String) (hplain : ∀ c ∈ components, '/' ∉ c.toList) :
    ∀ (followed : List String) (t : Table) (label : Nat → List String) (k : Nat) (rows : Rows)
      (fs : ExfatFs), Stores g t fs → Wf g t label → t k = some (.dir rows) →
      Ensures (resolveParents createParents followed k components) fs fun k' fs' =>
        ∃ t' label' rows', Stores g t' fs' ∧ Wf g t' label' ∧ t' k' = some (.dir rows') ∧
          Follows g createParents t label k components t' label' k' := by
  induction components with
  | nil =>
    intro followed t label k rows fs h hwf ho
    exact Ensures.pure ⟨t, label, rows, h, hwf, ho, .nil t label k⟩
  | cons component rest ih =>
    intro followed t label k rows fs h hwf ho
    have ih := ih fun c hc => hplain c (List.mem_cons_of_mem _ hc)
    have hshaped := hwf.shaped k rows ho
    rw [resolveParents]
    refine Ensures.bind (h.findEntryInDirectory_returns ho hshaped component).ensures ?_
    rintro found fs₁ ⟨h₁, hfinds⟩
    cases hfinds with
    | found p e hrows hnamed hbefore =>
      subst hrows
      by_cases hdir : e.isDir = true
      · have hnot : (!(p.locate e).isDirectory) = false := by
          show (!e.isDir) = false
          rw [hdir]
          rfl
        obtain ⟨-, -, rows', hrows'⟩ := hwf.dir_of_mem ho (p.mem_fill e) hdir
        simp only [hnot]
        refine (ih _ t label e.firstCluster rows' fs₁ h₁ hwf hrows').mono ?_
        rintro k' fs' ⟨t', label', rows'', h', hwf', ho', hfollows⟩
        exact ⟨t', label', rows'', h', hwf', ho', .found p e ho hnamed hbefore hdir hfollows⟩
      · have hnot : (!(p.locate e).isDirectory) = true := by
          show (!e.isDir) = true
          simpa using hdir
        simp only [hnot]
        exact Ensures.throw
    | absent hnone =>
      cases createParents with
      | false => exact Ensures.throw
      | true =>
        refine Ensures.bind (h₁.createDirectoryIn_ensures hfits hwf ho
          fun _ => hplain component List.mem_cons_self) ?_
        rintro new fs₂ ⟨e, t₂, label₂, hname, hdir, rfl, hne, h₂, hwf₂, hadds, -⟩
        obtain ⟨rows₂, hrows₂⟩ : ∃ rows₂, t₂ e.firstCluster = some (.dir rows₂) := by
          obtain ⟨old, new, hold, hnew, -, before, after, -, hsets⟩ := hadds.edit
          have he : e ∈ rowSets new := hsets ▸ List.mem_append_right _ List.mem_cons_self
          exact (hwf₂.dir_of_mem hnew he hdir).2.2
        refine (ih _ t₂ label₂ e.firstCluster rows₂ fs₂ h₂ hwf₂ hrows₂).mono ?_
        rintro k' fs' ⟨t', label', rows'', h', hwf', ho', hfollows⟩
        exact ⟨t', label', rows'', h', hwf', ho',
          .made rows e rfl ho hnone hname hdir hne hadds hwf₂ hfollows⟩

/-- What resolving a path comes to: the directories are followed, and the last component
is looked up. -/
structure Resolves (g : VolumeParams) (createParents : Bool) (path : String) (t : Table)
    (label : Nat → List String) (resolved : ResolvedPath) (t' : Table)
    (label' : Nat → List String) (parents : List String) (rows : Rows) : Prop where
  parsed : parsePath path = parents ++ [resolved.name]
  follows : Follows g createParents t label g.firstClusterOfRoot parents t' label'
    resolved.parentCluster
  wf : Wf g t' label'
  parent : t' resolved.parentCluster = some (.dir rows)
  finds : Finds (toLowercase resolved.name) rows resolved.location

/-- A successful `resolve_path`. -/
theorem Stores.resolvePath_ensures (h : Stores g t fs) (hfits : g.BitmapFits)
    (hwf : Wf g t label) (path : String) (createParents : Bool) :
    Ensures (resolvePath path createParents) fs fun resolved fs' =>
      ∃ t' label' parents rows, Stores g t' fs' ∧
        Resolves g createParents path t label resolved t' label' parents rows := by
  obtain ⟨rootRows, hroot⟩ := hwf.root
  have hparams := h.params
  intro resolved fs' hrun
  rw [resolvePath, run_get_bind, hparams] at hrun
  revert resolved fs'
  show Ensures _ fs _
  cases hlast : (parsePath path).getLast? with
  | none => exact Ensures.throw
  | some name =>
    have hparsed : parsePath path = (parsePath path).dropLast ++ [name] := by
      obtain ⟨init, hinit⟩ := List.getLast?_eq_some_iff.mp hlast
      rw [hinit, List.dropLast_concat]
    have hplain : ∀ c ∈ (parsePath path).dropLast, '/' ∉ c.toList := fun c hc =>
      (parsePath_plain (List.mem_of_mem_dropLast hc)).1
    refine Ensures.bind (Stores.resolveParents_ensures hfits createParents _ hplain [] t label
      g.firstClusterOfRoot rootRows fs h hwf hroot) ?_
    rintro k fs₁ ⟨t', label', rows, h₁, hwf', ho, hfollows⟩
    refine Ensures.bind (h₁.findEntryInDirectory_returns ho (hwf'.shaped k rows ho) name).ensures ?_
    rintro location fs₂ ⟨h₂, hfinds⟩
    exact Ensures.pure ⟨t', label', _, rows, h₂, hparsed, hfollows, hwf', ho, hfinds⟩

end StreamBox.Exfat
