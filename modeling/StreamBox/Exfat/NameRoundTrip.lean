import StreamBox.Exfat.Creations
import StreamBox.Exfat.Names

/-!
# Names of created files and directories

* **One entry** — a creation leaves one entry of its name, unless several had the name
  before (`Leaves.oneEntry`).
* **Round trip** — the name is found, listed as it is, and reported as taken, exactly when
  none of its surrogate pairs is cut (`name_round_trip`).
-/

namespace StreamBox.Exfat

/-- The report that a path is taken, by a directory or by a file. -/
def takenError (path : String) (isDirectory : Bool) : VentoyError :=
  if isDirectory then .filesystemError s!"'{path}' is a directory"
  else .filesystemError s!"File '{path}' already exists"

namespace Creation

/-- What it reports when the name is taken, by a directory or by a file. -/
def refusal (taken : Bool) : Creation → VentoyError
  | writeFile name _ => .filesystemError s!"File '{name}' already exists"
  | writeFilePath path _ _ _ => takenError path taken
  | stream (.root name _) _ _ => .filesystemError s!"File '{name}' already exists"
  | stream (.path path _ _) _ _ => takenError path taken
  | createDirectory path _ => .filesystemError s!"'{path}' already exists"

end Creation

section

variable [Lowercase]

/-- What had the name was its only entry: with it removed, the name is not found. -/
def Sole (resolved : ResolvedPath) (fs : ExfatFs) : Prop :=
  ∀ location, resolved.location = some location →
    Ensures (removeLocation location) fs fun _ fs' =>
      Ensures (findEntryInDirectory resolved.parentCluster resolved.name) fs' fun again _ =>
        again = none

/-- The name of the directory `k` is found, listed as it is, and reported as taken by every
creation that leads there and may not replace it. -/
structure RoundTrip (fs : ExfatFs) (k : Nat) (name : String) (isDir : Bool) : Prop where
  found : Returns (findEntryInDirectory k name) fs fun found _ =>
    ∃ location, found = some location ∧ location.isDirectory = isDir
  listed : Returns (listFilesInDirectory k "") fs fun items _ =>
    ∃ item ∈ items, item.name = name ∧ item.isDirectory = isDir
  taken : ∀ (c : Creation) resolved fs₁, c.overwrites = false →
    c.resolve.run fs = .ok resolved fs₁ → resolved.parentCluster = k → resolved.name = name →
    ∃ fs₂, c.run.run fs = .error (c.refusal isDir) fs₂

/-! ## One entry of the name -/

variable {g : VolumeParams} {t : Table} {label : Nat → List String} {fs : ExfatFs} {k : Nat}
  {rows : Rows}

omit [Lowercase] in
theorem Place.rowSets_set (p : Place) (e : EntrySet) :
    rowSets (p.fill [.set e]) = p.setsBefore ++ e :: p.setsAfter := by
  rw [rowSets_fill, List.append_assoc]
  rfl

/-- When removing one entry leaves nothing of a name, removing any entry of the name does. -/
theorem cleared_of_cleared {p p₀ : Place} {e e₀ : EntrySet} {f : String}
    (hsame : p₀.fill [.set e₀] = p.fill [.set e]) (hnamed : e.Named f) (hnamed₀ : e₀.Named f)
    (hnone : ∀ e' ∈ rowSets (p₀.fill e₀.deleted), ¬ e'.Named f) :
    ∀ e' ∈ rowSets (p.fill e.deleted), ¬ e'.Named f := by
  simp only [Place.rowSets_fill, sets_deleted, List.append_nil] at hnone ⊢
  have hcount := congrArg (fun rows => (rowSets rows).countP fun e => decide (e.Named f)) hsame
  have hzero : (p₀.setsBefore ++ p₀.setsAfter).countP (fun e => decide (e.Named f)) = 0 := by
    rw [List.countP_eq_zero]
    exact fun e' he' => by simpa using hnone e' he'
  have hzero' : (p.setsBefore ++ p.setsAfter).countP (fun e => decide (e.Named f)) = 0 := by
    simp only [Place.rowSets_set, List.countP_append, List.countP_cons, hnamed, hnamed₀] at hcount
    rw [List.countP_append] at hzero ⊢
    omega
  rw [List.countP_eq_zero] at hzero'
  exact fun e' he' => by simpa using hzero' e' he'

/-- Clearing a name that one entry had leaves none of that name. -/
theorem Lands.cleared {names : List String} {resolved : ResolvedPath} {t₁ t₂ : Table} {label₁ : Nat → List String}
    (hlands : Lands g t names resolved t₁ label₁ rows) (h₁ : Stores g t₁ fs) (hsole : Sole resolved fs)
    {allowed : EntrySet → Prop}
    (hclears : Clears t₁ resolved.parentCluster (toLowercase resolved.name) allowed t₂) :
    ∃ rows₂, t₂ resolved.parentCluster = some (.dir rows₂) ∧
      ∀ e ∈ rowSets rows₂, ¬ e.Named (toLowercase resolved.name) := by
  cases hclears with
  | absent rows' ho hnone => exact ⟨rows', ho, hnone⟩
  | removed p e hnamed hbefore _ hremoves =>
    have hrows := Obj.dir.inj (Option.some.inj (hlands.parent.symm.trans hremoves.before))
    have hfinds := hlands.finds
    generalize hlocation : resolved.location = location at hfinds
    cases hfinds with
    | absent hnone => exact absurd hnamed (hnone e (hrows ▸ Place.mem_fill p e))
    | found p₀ e₀ hrows₀ hnamed₀ _ =>
      obtain ⟨_, fs₂, hremove, t₃, h₃, hremoves₃⟩ :=
        h₁.removeLocation_returns hlands.wf (hlands.parent.trans (by rw [hrows₀]))
      have hshaped := (hlands.wf.removes hremoves₃).shaped _ _ hremoves₃.after
      obtain ⟨found, fs₄, hfind, -, hfinds⟩ :=
        h₃.findEntryInDirectory_returns hremoves₃.after hshaped resolved.name
      cases hsole _ hlocation _ _ hremove _ _ hfind
      cases hfinds with
      | absent hnone =>
        exact ⟨_, hremoves.after, cleared_of_cleared (hrows₀.symm.trans hrows) hnamed hnamed₀ hnone⟩

/-- The directory `k` has one entry of a name, with that name. -/
structure OneEntry (t : Table) (k : Nat) (name : String) (isDir : Bool) (rows : Rows)
    (e : EntrySet) : Prop where
  parent : t k = some (.dir rows)
  mem : e ∈ rowSets rows
  only : ∀ e' ∈ rowSets rows, e'.Named (toLowercase name) → e' = e
  named : e.name = name
  kind : e.isDir = isDir

/-- A creation leaves one entry of its name. -/
theorem Leaves.oneEntry {names : List String} {resolved : ResolvedPath} {t₁ t' : Table}
    {label₁ label' : Nat → List String} {isDir : Bool} (h : Leaves g t₁ label₁ resolved isDir t' label')
    (hlands : Lands g t names resolved t₁ label₁ rows) (h₁ : Stores g t₁ fs) (hsole : Sole resolved fs) :
    ∃ rows' e, OneEntry t' resolved.parentCluster resolved.name isDir rows' e := by
  obtain ⟨t₂, e, hclears, hadds, -, hname, hdir⟩ := h
  obtain ⟨rows₂, hrows₂, hnone⟩ := hlands.cleared h₁ hsole hclears
  obtain ⟨rows, rows', hrows, hrows', -, before, after, hold, hnew⟩ := hadds.edit
  cases hrows₂.symm.trans hrows
  refine ⟨rows', e, hrows', ?_, fun e' he' hnamed => ?_, hname, hdir⟩
  · rw [hnew]
    exact List.mem_append_right _ List.mem_cons_self
  · rw [hnew, List.mem_append, List.mem_cons] at he'
    rcases he' with hmem | rfl | hmem
    · exact absurd hnamed (hnone e' (hold ▸ List.mem_append_left _ hmem))
    · rfl
    · exact absurd hnamed (hnone e' (hold ▸ List.mem_append_right _ hmem))

/-! ## Names that are taken -/

omit [Lowercase] in
theorem replaceFile_taken (path : String) (location : FileEntryLocation) (fs : ExfatFs) :
    (replaceFile path (some location) false).run fs
      = .error (takenError path location.isDirectory) fs := by
  unfold replaceFile takenError
  by_cases hdir : location.isDirectory = true
  · simp only [if_pos hdir]
    rfl
  · simp only [if_neg hdir]
    rfl

/-- A creation that leads to a taken name reports it. -/
theorem Creation.refused (c : Creation) {resolved : ResolvedPath} {fs₁ : ExfatFs}
    {location : FileEntryLocation} (hno : c.overwrites = false)
    (hresolve : c.resolve.run fs = .ok resolved fs₁) (hlocation : resolved.location = some location)
    (hname : NameFits resolved.name) :
    c.run.run fs = .error (c.refusal location.isDirectory) fs₁ := by
  cases c with
  | writeFile name data =>
    obtain ⟨found, hfind, rfl⟩ := resolveRoot_eq_ok hresolve
    subst hlocation
    rw [run, Exfat.writeFile, if_neg hname, run_get_bind, bind_of_ok hfind]
    rfl
  | writeFilePath path data createParents overwrite =>
    cases hno
    have htaken := replaceFile_taken path location fs₁
    rw [← hlocation] at htaken
    refine (bind_of_ok hresolve).trans ?_
    rw [if_neg hname]
    exact bind_of_error htaken
  | stream target totalSize chunks =>
    cases target with
    | root name overwrite =>
      cases hno
      obtain ⟨found, hfind, rfl⟩ := resolveRoot_eq_ok hresolve
      subst hlocation
      rw [run, Operation.run, Target.writer, ExfatFileWriter.createOverwrite, bind_assoc,
        run_get_bind, ExfatFileWriter.createInDirectory, if_neg hname, bind_assoc, bind_of_ok hfind]
      rfl
    | path path createParents overwrite =>
      cases hno
      have htaken := replaceFile_taken path location fs₁
      rw [← hlocation] at htaken
      have hresolve : (resolvePath path createParents).run fs = .ok resolved fs₁ := hresolve
      rw [run, Operation.run, Target.writer, ExfatFileWriter.createAtPath, bind_assoc,
        bind_of_ok hresolve, bind_assoc]
      exact bind_of_error htaken
  | createDirectory path createParents =>
    refine (bind_of_ok hresolve).trans ?_
    rw [hlocation]
    rfl

/-- The one entry of a name is what a lookup finds. -/
theorem OneEntry.finds {name : String} {isDir : Bool} {e : EntrySet}
    (hone : OneEntry t k name isDir rows e) (hdecoded : decodedName name = name)
    {found : Option FileEntryLocation} (hfinds : Finds (toLowercase name) rows found) :
    ∃ location, found = some location ∧ location.isDirectory = isDir := by
  cases hfinds with
  | found p e' hrows hnamed _ =>
    refine ⟨_, rfl, ?_⟩
    rw [hone.only e' (hrows ▸ Place.mem_fill p e') hnamed]
    exact hone.kind
  | absent hnone =>
    refine absurd ?_ (hnone e hone.mem)
    rw [EntrySet.Named, hone.named, hdecoded]

/-- **Round trip of one entry.** The one entry of a name makes the round trip exactly when
the name reads back. -/
theorem OneEntry.roundTrip_iff {name : String} {isDir : Bool} {e : EntrySet}
    (hone : OneEntry t k name isDir rows e) (h : Stores g t fs) (hfits : g.BitmapFits)
    (hwf : Wf g t label) (hname : NameFits name) :
    RoundTrip fs k name isDir ↔ decodedName name = name := by
  have hshaped := hwf.shaped k rows hone.parent
  have hnamed : e.info "" = ⟨decodedName name, e.size, isDir, decodedName name⟩ := by
    rw [EntrySet.info, hone.named, hone.kind]
    rfl
  constructor
  · intro htrip
    obtain ⟨items, fs', hlist, item, hitem, rfl, -⟩ := htrip.listed
    obtain ⟨_, _, hlist', -, rfl⟩ := h.listFilesInDirectory_returns hone.parent hshaped ""
    cases hlist.symm.trans hlist'
    obtain ⟨e', he', rfl⟩ := List.mem_map.mp hitem
    -- an entry that is listed by the name answers to it, so it is the new one
    have heq := hone.only e' (List.mem_filter.mp he').1 rfl
    subst heq
    have hnamed := hone.named
    exact congrArg decodedName hnamed.symm
  · intro hdecoded
    refine ⟨?_, ?_, ?_⟩
    · refine (h.findEntryInDirectory_returns hone.parent hshaped name).mono ?_
      rintro found fs' ⟨-, hfinds⟩
      exact hone.finds hdecoded hfinds
    · refine (h.listFilesInDirectory_returns hone.parent hshaped "").mono ?_
      rintro items fs' ⟨-, rfl⟩
      refine ⟨e.info "", List.mem_map.mpr ⟨e, List.mem_filter.mpr ⟨hone.mem, ?_⟩, rfl⟩, ?_⟩
      · rw [hone.named, hdecoded]
        simpa using fun hempty => hname (Or.inl hempty)
      · rw [hnamed]
        exact ⟨hdecoded, rfl⟩
    · rintro c resolved fs₁ hno hresolve rfl rfl
      obtain ⟨t', label', rows', -, hlands⟩ := c.resolve_ensures h hfits hwf _ _ hresolve
      have hsame : t' = t := hlands.old (by rw [hone.parent]; exact Option.some_ne_none _)
      subst hsame
      cases hlands.parent.symm.trans hone.parent
      obtain ⟨location, hlocation, rfl⟩ := hone.finds hdecoded hlands.finds
      exact ⟨fs₁, c.refused hno hresolve hlocation hname⟩

/-- A created name makes the round trip exactly when it reads back. -/
theorem Creation.roundTrip_iff (h : Reached fs) (c : Creation) {resolved : ResolvedPath}
    {fs₁ fs' : ExfatFs} (hresolve : c.resolve.run fs = .ok resolved fs₁) (hsole : Sole resolved fs₁)
    (hrun : c.run.run fs = .ok () fs') :
    RoundTrip fs' resolved.parentCluster resolved.name c.isDirectory ↔
      decodedName resolved.name = resolved.name := by
  obtain ⟨g, hg, t, label, hstores, hwf⟩ := h.isTree
  obtain ⟨t₁, label₁, rows, h₁, hlands⟩ := c.resolve_ensures hstores hg.bitmap hwf _ _ hresolve
  obtain ⟨hname, t', label', h', hleaves⟩ :=
    c.run_ensures hstores hg hwf hresolve h₁ hlands _ _ hrun
  obtain ⟨rows', e, hone⟩ := hleaves.oneEntry hlands h₁ hsole
  obtain ⟨_, _, -, -, hwf', -⟩ := hleaves
  exact hone.roundTrip_iff h' hg.bitmap hwf' hname

/-- An empty file can be created in a new volume under any name. -/
theorem volume64MB_creates {name : String} (hparse : parsePath name = [name])
    (hname : NameFits name) (hroom : 2 + (nameChunks (encodeUtf16 name)).length ≤ 100) :
    ∃ resolved fs₁ fs', (Creation.writeFilePath name [] false false).resolve.run volume64MB
        = .ok resolved fs₁ ∧ resolved.name = name ∧ Sole resolved fs₁ ∧
      (Creation.writeFilePath name [] false false).run.run volume64MB = .ok () fs' := by
  obtain ⟨g, d, before, n, _, _, h, hroot, hn, htaken, hnone, -⟩ := volume64MB_root
  have habsent : ∀ e ∈ sets before, ¬ e.Named (toLowercase name) := by
    rw [hnone]
    exact fun e he => nomatch he
  obtain ⟨resolved, fs₁, hresolve, rfl, -⟩ := hroot.resolvePath_absent h hparse (by
    rwa [sets_append, sets_blanks, List.append_nil]) false
  obtain ⟨_, fs', hrun, -⟩ :=
    hroot.writeEmpty_returns h htaken hparse hname habsent (Nat.le_trans hroom hn) false false
  have hsole : Sole ⟨g.firstClusterOfRoot, name, none⟩ fs₁ := by
    intro location hlocation
    cases hlocation
  exact ⟨_, fs₁, fs', hresolve, rfl, hsole, hrun⟩

end

end StreamBox.Exfat
