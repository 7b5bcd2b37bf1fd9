import StreamBox.Exfat.MadeParents

/-!
# Exception safety of writes

What is left when a write call returns an error.

* **Preserved** — the file that was stored under the path is there with its bytes, and the
  same clusters are allocated.
* **Changes** — a call that creates a parent directory, replaces a file or gets clusters for its
  data has changed the disk before it can fail, and takes nothing back.
* **Exactly these** — so a call that fails preserves the file and the clusters if and only if
  it was none of these (`write_error_preserves_iff`).
-/

namespace StreamBox.Exfat

/-! ## Write calls -/

/-- The write operations. -/
inductive WriteCall
  | writeFile (name : String) (data : List UInt8)
  | writeFilePath (path : String) (data : List UInt8) (createParents overwrite : Bool)
  | fromReaderPath (path : String) (reader : Answers) (size : Nat) (createParents overwrite : Bool)

namespace WriteCall

def run [Lowercase] : WriteCall → ExfatM Unit
  | writeFile name data => Exfat.writeFile name data
  | writeFilePath path data createParents overwrite =>
    Exfat.writeFilePath path data createParents overwrite
  | fromReaderPath path reader size createParents overwrite =>
    writeFileFromReaderPath path reader size createParents overwrite

/-- The components of its path. -/
def components : WriteCall → List String
  | writeFile name _ => [name]
  | writeFilePath path _ _ _ => parsePath path
  | fromReaderPath path _ _ _ _ => parsePath path

/-- The name of the file. -/
def name (call : WriteCall) : String := call.components.getLastD ""

def createParents : WriteCall → Bool
  | writeFile _ _ => false
  | writeFilePath _ _ createParents _ => createParents
  | fromReaderPath _ _ _ createParents _ => createParents

def overwrite : WriteCall → Bool
  | writeFile _ _ => false
  | writeFilePath _ _ _ overwrite => overwrite
  | fromReaderPath _ _ _ _ overwrite => overwrite

/-- The bytes that clusters are allocated for. -/
def size : WriteCall → Nat
  | writeFile _ data => data.length
  | writeFilePath _ data _ _ => data.length
  | fromReaderPath _ _ size _ _ => size

/-- The length of the name is checked before a file is replaced. -/
def checksFirst : WriteCall → Bool
  | fromReaderPath _ _ _ _ _ => false
  | _ => true

end WriteCall

section

variable [Lowercase]

/-! ## What is stored -/

/-- A lookup of these components ends in a directory, with this answer. -/
def LooksUp (fs : ExfatFs) (components : List String) (location : Option FileEntryLocation) : Prop :=
  ∃ resolved fs', (resolveComponents components false).run fs = .ok resolved fs' ∧
    resolved.location = location

/-- The file at this location is stored under these components, with these bytes. -/
def StoredAt (fs : ExfatFs) (components : List String) (location : FileEntryLocation)
    (data : List UInt8) : Prop :=
  LooksUp fs components (some location) ∧ location.isDirectory = false ∧
    ∃ fs', (readFileFromLocation location).run fs = .ok data fs'

/-- A file that was stored under the path is there with its bytes, and the same clusters are
allocated. -/
structure Preserved (call : WriteCall) (fs fs' : ExfatFs) : Prop where
  file : ∀ location data, StoredAt fs call.components location data →
    StoredAt fs' call.components location data
  clusters : ∀ c, fs'.disk.allocated c = fs.disk.allocated c

namespace WriteCall

/-- It creates the first parent directory that is missing. -/
def CreatesParent (call : WriteCall) (fs : ExfatFs) : Prop :=
  call.createParents = true ∧ ∃ before component after,
    call.components.dropLast = before ++ component :: after ∧
    LooksUp fs (before ++ [component]) none ∧ NameFits component ∧ fs.freeClusters ≠ []

/-- It removes the file that is stored under the path. -/
def Replaces (call : WriteCall) (fs : ExfatFs) : Prop :=
  call.overwrite = true ∧ (call.checksFirst = true → NameFits call.name) ∧
    ∃ location, LooksUp fs call.components (some location) ∧ location.isDirectory = false

/-- It gets clusters for the data of a new file. -/
def Allocates (call : WriteCall) (fs : ExfatFs) : Prop :=
  LooksUp fs call.components none ∧ NameFits call.name ∧ fs.Affords call.size

/-- It changes the disk before it can fail. -/
def Changes (call : WriteCall) (fs : ExfatFs) : Prop :=
  call.CreatesParent fs ∨ call.Replaces fs ∨ call.Allocates fs

omit [Lowercase] in
theorem plain (call : WriteCall) : ∀ c ∈ call.components.dropLast, '/' ∉ c.toList := by
  cases call with
  | writeFile name data => exact fun c hc => nomatch hc
  | writeFilePath path data createParents overwrite =>
    exact fun c hc => (parsePath_plain (List.mem_of_mem_dropLast hc)).1
  | fromReaderPath path reader size createParents overwrite =>
    exact fun c hc => (parsePath_plain (List.mem_of_mem_dropLast hc)).1

end WriteCall

/-! ## Lookups of the tree -/

variable {g : VolumeParams} {t t' : Table} {label : Nat → List String} {fs fs' : ExfatFs} {k : Nat}
  {rows : Rows}

/-- The components lead to this name of the directory `k`. -/
structure LeadsTo (g : VolumeParams) (t : Table) (components : List String) (name : String) (k : Nat)
    (rows : Rows) : Prop where
  last : components.getLast? = some name
  walk : walk t g.firstClusterOfRoot (components.dropLast.map toLowercase) = some k
  dir : t k = some (.dir rows)

/-- A lookup, on the tree. -/
theorem Stores.looksUp_iff (h : Stores g t fs) (hfits : g.BitmapFits) (hwf : Wf g t label)
    {components : List String} (hplain : ∀ c ∈ components.dropLast, '/' ∉ c.toList)
    {location : Option FileEntryLocation} :
    LooksUp fs components location ↔ ∃ name k rows, LeadsTo g t components name k rows ∧
      Finds (toLowercase name) rows location := by
  constructor
  · rintro ⟨resolved, fs', hrun, rfl⟩
    obtain ⟨hlast, ⟨-, -, rows, ho, hwalk, hfinds⟩ | ⟨hmakes, -⟩⟩ :=
      (h.resolveComponents_outcome hfits hwf components hplain false).2 resolved fs' hrun
    · exact ⟨resolved.name, _, rows, ⟨hlast, hwalk, ho⟩, hfinds⟩
    · exact absurd hmakes.1 Bool.false_ne_true
  · rintro ⟨name, k, rows, ⟨hlast, hwalk, ho⟩, hfinds⟩
    obtain rfl := h.params
    obtain ⟨rootRows, hroot⟩ := hwf.root
    obtain ⟨parent, fs₁, hfollow, rfl, h₁⟩ := Stores.resolveParents_returns hwf false
      components.dropLast [] fs.firstClusterOfRoot k rootRows fs h hroot hwalk
    obtain ⟨found, fs₂, hfind, -, hfound⟩ :=
      h₁.findEntryInDirectory_returns ho (hwf.shaped _ _ ho) name
    refine ⟨⟨parent, name, found⟩, fs₂, ?_, hfound.unique hfinds⟩
    rw [resolveComponents, run_get_bind, hlast]
    exact (bind_of_ok hfollow).trans (bind_of_ok hfind)

theorem LeadsTo.unique {components : List String} {name name' : String} {k' : Nat} {rows' : Rows}
    (h : LeadsTo g t components name k rows) (h' : LeadsTo g t components name' k' rows') :
    name' = name ∧ k' = k ∧ rows' = rows := by
  obtain rfl := Option.some.inj (h.last.symm.trans h'.last)
  obtain rfl := Option.some.inj (h.walk.symm.trans h'.walk)
  cases h.dir.symm.trans h'.dir
  exact ⟨rfl, rfl, rfl⟩

/-- A call creates a parent if following its path would make one. -/
theorem Stores.createsParent_iff (h : Stores g t fs) (hfits : g.BitmapFits) (hwf : Wf g t label)
    (call : WriteCall) : call.CreatesParent fs ↔ call.createParents = true ∧
      Makes t fs g.firstClusterOfRoot call.components.dropLast := by
  have hplain : ∀ {before component after}, call.components.dropLast = before ++ component :: after →
      ∀ c ∈ (before ++ [component]).dropLast, '/' ∉ c.toList := by
    intro before component after hcomponents c hc
    rw [List.dropLast_concat] at hc
    exact call.plain c (hcomponents ▸ List.mem_append_left _ hc)
  constructor
  · rintro ⟨hcreate, before, component, after, hcomponents, hlooks, hname, hfree⟩
    obtain ⟨name, k, rows, hleads, hfinds⟩ := (h.looksUp_iff hfits hwf (hplain hcomponents)).mp hlooks
    have hlast := hleads.last
    have hwalk := hleads.walk
    rw [List.getLast?_concat] at hlast
    rw [List.dropLast_concat] at hwalk
    cases hlast
    cases hfinds with
    | absent hnone =>
      exact ⟨hcreate, before, component, after, k, rows, hcomponents, hwalk, hleads.dir, hnone, hname,
        hfree⟩
  · rintro ⟨hcreate, before, component, after, k, rows, hcomponents, hwalk, ho, hnone, hname, hfree⟩
    refine ⟨hcreate, before, component, after, hcomponents, ?_, hname, hfree⟩
    refine (h.looksUp_iff hfits hwf (hplain hcomponents)).mpr ⟨component, k, rows, ⟨?_, ?_, ho⟩, .absent hnone⟩
    · rw [List.getLast?_concat]
    · rwa [List.dropLast_concat]

/-- A lookup of components that lead to a name answers what is there. -/
theorem LeadsTo.looksUp_iff {components : List String} {name : String}
    (hleads : LeadsTo g t components name k rows) (h : Stores g t fs) (hfits : g.BitmapFits)
    (hwf : Wf g t label) (hplain : ∀ c ∈ components.dropLast, '/' ∉ c.toList)
    {found location : Option FileEntryLocation} (hfinds : Finds (toLowercase name) rows found) :
    LooksUp fs components location ↔ location = found := by
  rw [h.looksUp_iff hfits hwf hplain]
  constructor
  · rintro ⟨name', k', rows', hleads', hfinds'⟩
    obtain ⟨rfl, rfl, rfl⟩ := hleads.unique hleads'
    exact hfinds'.unique hfinds
  · rintro rfl
    exact ⟨name, k, rows, hleads, hfinds⟩

/-- Components that a lookup follows are resolved without creating any. -/
theorem Stores.resolves_of_looksUp (h : Stores g t fs) (hfits : g.BitmapFits) (hwf : Wf g t label)
    {components : List String} (hplain : ∀ c ∈ components.dropLast, '/' ∉ c.toList)
    {location : Option FileEntryLocation} (hlooks : LooksUp fs components location)
    (createParents : Bool) :
    ∃ resolved fs', (resolveComponents components createParents).run fs = .ok resolved fs' := by
  obtain ⟨name, k, rows, ⟨hlast, hwalk, ho⟩, -⟩ := (h.looksUp_iff hfits hwf hplain).mp hlooks
  obtain rfl := h.params
  obtain ⟨rootRows, hroot⟩ := hwf.root
  obtain ⟨parent, fs₁, hfollow, rfl, h₁⟩ := Stores.resolveParents_returns hwf createParents
    components.dropLast [] fs.firstClusterOfRoot k rootRows fs h hroot hwalk
  obtain ⟨found, fs₂, hfind, -⟩ := h₁.findEntryInDirectory_returns ho (hwf.shaped _ _ ho) name
  refine ⟨⟨parent, name, found⟩, fs₂, ?_⟩
  rw [resolveComponents, run_get_bind, hlast]
  exact (bind_of_ok hfollow).trans (bind_of_ok hfind)

/-! ## How a call fails -/

/-- The entry at this place is deleted. -/
def Deleted (g : VolumeParams) (label : Nat → List String) (k : Nat) (p : Place) (e : EntrySet)
    (fs' : ExfatFs) : Prop :=
  ∃ t', Stores g t' fs' ∧ Wf g t' label ∧ t' k = some (.dir (p.fill e.deleted))

/-- How a call fails behind the lookup of its path. -/
def Left (g : VolumeParams) (t : Table) (label : Nat → List String) (call : WriteCall)
    (resolved : ResolvedPath) (rows : Rows) (fs fs' : ExfatFs) : Prop :=
  (resolved.location = none ∧ Ends (NameFits resolved.name ∧ fs.Affords call.size) g t fs fs') ∨
    ∃ p e, rows = p.fill [.set e] ∧ resolved.location = some (p.locate e) ∧
      (((call.overwrite = true ∧ (call.checksFirst = true → NameFits resolved.name) ∧
          e.isDir = false) ∧ Deleted g label resolved.parentCluster p e fs') ∨
        (¬ (call.overwrite = true ∧ (call.checksFirst = true → NameFits resolved.name) ∧
          e.isDir = false) ∧ Quiet g t fs fs'))

/-- The file under the path is removed. -/
def Removed (g : VolumeParams) (t : Table) (call : WriteCall) (fs' : ExfatFs) : Prop :=
  ∃ name k p e label', LeadsTo g t call.components name k (p.fill [.set e]) ∧
    Finds (toLowercase name) (p.fill [.set e]) (some (p.locate e)) ∧ e.isDir = false ∧
    Deleted g label' k p e fs'

/-- How a call fails: it has done nothing, or it has changed the disk for good. -/
def Outcome (g : VolumeParams) (t : Table) (call : WriteCall) (fs fs' : ExfatFs) : Prop :=
  (¬ call.Changes fs ∧ Quiet g t fs fs') ∨
    call.Changes fs ∧ (Took g t fs fs' ∨ Removed g t call fs')

/-- Removing a file that is found, and then failing. -/
theorem Stores.replaced_fails (h : Stores g t fs) (hwf : Wf g t label)
    (ho : t k = some (.dir rows)) {name : String} {location : Option FileEntryLocation}
    (hfinds : Finds (toLowercase name) rows location) (path : String) (overwrite : Bool)
    (leaks : Rows → ExfatFs → Prop) {op : ExfatM Unit}
    (hop : ∀ t₁ fs₁ rows₁, Stores g t₁ fs₁ → Wf g t₁ label → t₁ k = some (.dir rows₁) →
      Fails op fs₁ fun _ fs' => Ends (leaks rows₁ fs₁) g t₁ fs₁ fs') :
    Fails (do
        replaceFile path location overwrite
        op) fs fun _ fs' =>
      (location = none ∧ Ends (leaks rows fs) g t fs fs') ∨
        ∃ p e, rows = p.fill [.set e] ∧ location = some (p.locate e) ∧
          (((overwrite = true ∧ e.isDir = false) ∧ Deleted g label k p e fs') ∨
            (¬ (overwrite = true ∧ e.isDir = false) ∧ Quiet g t fs fs')) := by
  cases hfinds with
  | absent hnone =>
    refine Fails.of_run (t := fs) (a := ()) rfl ?_
    exact (hop t fs rows h hwf ho).mono fun _ _ hend => Or.inl ⟨rfl, hend⟩
  | found p e hrows hnamed hbefore =>
    subst hrows
    unfold replaceFile
    by_cases hdir : e.isDir = true
    · have hnot : (p.locate e).isDirectory = true := hdir
      simp only [if_pos hnot]
      refine Fails.throw_bind (Or.inr ⟨p, e, rfl, rfl, Or.inr ⟨fun hallowed => ?_, .refl h⟩⟩)
      rw [hallowed.2] at hdir
      cases hdir
    · have hfile : ¬ (p.locate e).isDirectory = true := hdir
      simp only [if_neg hfile]
      by_cases hover : overwrite = true
      · rw [if_pos hover]
        refine Fails.bind_returns (h.removeLocation_returns hwf ho) ?_
        rintro _ fs₁ ⟨t₁, h₁, hremoves⟩
        have hwf₁ := hwf.removes hremoves
        refine (hop t₁ fs₁ _ h₁ hwf₁ hremoves.after).mono ?_
        intro _ fs' hend
        obtain ⟨t', h', hextends⟩ := hend.extends
        exact Or.inr ⟨p, e, rfl, rfl, Or.inl ⟨⟨hover, Bool.eq_false_of_not_eq_true hdir⟩, t', h',
          hwf₁.extends hextends, hextends.kept k _ hremoves.after⟩⟩
      · rw [if_neg hover]
        exact Fails.throw_bind (Or.inr ⟨p, e, rfl, rfl, Or.inr ⟨fun hallowed => hover hallowed.1, .refl h⟩⟩)

/-- How a call fails that looks its path up first. -/
theorem Stores.resolved_fails (h : Stores g t fs) (hfits : g.BitmapFits) (hwf : Wf g t label)
    (call : WriteCall) {tail : ResolvedPath → ExfatM Unit}
    (htail : ∀ t₁ label₁ fs₁ rows resolved, Stores g t₁ fs₁ → Wf g t₁ label₁ →
      t₁ resolved.parentCluster = some (.dir rows) →
      Finds (toLowercase resolved.name) rows resolved.location →
      Fails (tail resolved) fs₁ fun _ => Left g t₁ label₁ call resolved rows fs₁) :
    Fails (resolveComponents call.components call.createParents >>= tail) fs fun _ =>
      Outcome g t call fs := by
  have hparent := h.createsParent_iff hfits hwf call
  obtain ⟨hfails, hensures⟩ :=
    h.resolveComponents_outcome hfits hwf call.components call.plain call.createParents
  rw [← hparent] at hfails hensures
  intro e fs' hrun
  cases hresolve : (resolveComponents call.components call.createParents).run fs with
  | error e' fs₁ =>
    rw [bind_of_error hresolve] at hrun
    cases hrun
    rcases hfails e fs' hresolve with ⟨hmakes, htook⟩ | ⟨hnot, hquiet⟩
    · exact Or.inr ⟨Or.inl hmakes, Or.inl htook⟩
    · -- a path that a lookup follows is resolved
      have hnone : ∀ location, ¬ LooksUp fs call.components location := by
        intro location hlooks
        obtain ⟨resolved, fs₂, hok⟩ :=
          h.resolves_of_looksUp hfits hwf call.plain hlooks call.createParents
        cases hresolve.symm.trans hok
      refine Or.inl ⟨?_, hquiet⟩
      rintro (hmakes | ⟨-, -, location, hlooks, -⟩ | ⟨hlooks, -⟩)
      · exact hnot hmakes
      · exact hnone _ hlooks
      · exact hnone _ hlooks
  | ok resolved fs₁ =>
    rw [bind_of_ok hresolve] at hrun
    obtain ⟨hlast, ⟨hnot, hquiet, rows, ho, hwalk, hfinds⟩ |
      ⟨hmakes, hnone, t₁, label₁, rows, hgrown, ho, hblank⟩⟩ := hensures resolved fs₁ hresolve
    · have hleads : LeadsTo g t call.components resolved.name resolved.parentCluster rows :=
        ⟨hlast, hwalk, ho⟩
      have hlooks : ∀ location, LooksUp fs call.components location ↔ location = resolved.location :=
        fun location => hleads.looksUp_iff h hfits hwf call.plain hfinds
      have hname : call.name = resolved.name := by
        rw [WriteCall.name, List.getLastD_eq_getLast?, hlast, Option.getD_some]
      rcases htail t label fs₁ rows resolved hquiet.stores hwf ho hfinds e fs' hrun with
        ⟨hnone, hend⟩ | ⟨p, e₁, rfl, hlocation, ⟨hallowed, hdeleted⟩ | ⟨hrefused, hquiet'⟩⟩
      · rw [hquiet.affords h] at hend
        rcases hend.after hquiet with ⟨⟨hfit, hafford⟩, hleaked⟩ | ⟨hfew, hquiet'⟩
        · exact Or.inr ⟨Or.inr (Or.inr ⟨(hlooks none).mpr hnone.symm, hname ▸ hfit, hafford⟩),
            Or.inl (hleaked.took hwf)⟩
        · refine Or.inl ⟨?_, hquiet'⟩
          rintro (hmakes | ⟨-, -, location, hfound, -⟩ | ⟨-, hfit, hafford⟩)
          · exact hnot hmakes
          · cases ((hlooks _).mp hfound).trans hnone
          · exact hfew ⟨hname ▸ hfit, hafford⟩
      · exact Or.inr ⟨Or.inr (Or.inl ⟨hallowed.1, hname ▸ hallowed.2.1, _,
          (hlooks _).mpr hlocation.symm, hallowed.2.2⟩), Or.inr ⟨resolved.name, _, p, e₁, label, hleads,
          hlocation ▸ hfinds, hallowed.2.2, hdeleted⟩⟩
      · refine Or.inl ⟨?_, hquiet.trans hquiet'⟩
        rintro (hmakes | ⟨hover, hcheck, location, hfound, hfile⟩ | ⟨hfound, -⟩)
        · exact hnot hmakes
        · obtain rfl := Option.some.inj (((hlooks _).mp hfound).trans hlocation)
          exact hrefused ⟨hover, hname ▸ hcheck, hfile⟩
        · cases ((hlooks _).mp hfound).trans hlocation
    · have hleft := htail t₁ label₁ fs₁ rows resolved hgrown.stores hgrown.wf ho
        (hnone ▸ .absent fun e he => by rw [hblank] at he; cases he) e fs' hrun
      rcases hleft with ⟨-, hend⟩ | ⟨p, e₁, -, hlocation, -⟩
      · obtain ⟨t', h', hextends⟩ := hend.extends
        exact Or.inr ⟨Or.inl hmakes, Or.inl ⟨t', label₁,
          hgrown.later h' (hgrown.wf.extends hextends) fun _ => hextends.some⟩⟩
      · cases hnone.symm.trans hlocation

/-- A call that checks the name first has done nothing when the name does not fit. -/
theorem Left.of_check {call : WriteCall} {resolved : ResolvedPath} (h : Stores g t fs)
    (hfinds : Finds (toLowercase resolved.name) rows resolved.location)
    (hcheck : call.checksFirst = true) (hname : ¬ NameFits resolved.name) :
    Left g t label call resolved rows fs fs := by
  generalize hlocation : resolved.location = location at hfinds
  cases hfinds with
  | absent _ => exact Or.inl ⟨hlocation, Or.inr ⟨fun hleaks => hname hleaks.1, .refl h⟩⟩
  | found p e hrows _ _ =>
    exact Or.inr ⟨p, e, hrows, hlocation,
      Or.inr ⟨fun hallowed => hname (hallowed.2.1 hcheck), .refl h⟩⟩

/-- What `write_file` does behind the lookup of its name. -/
def writeNewFile (data : List UInt8) (resolved : ResolvedPath) : ExfatM Unit :=
  if resolved.name = "" ∨ utf8Len resolved.name > 255 then
    throw (.filesystemError "Invalid filename length")
  else
    match resolved.location with
    | some _ => throw (.filesystemError s!"File '{resolved.name}' already exists")
    | none => writeFileDataAndEntry resolved.parentCluster resolved.name data

/-- **Failed calls.** A call that fails has done nothing, unless it changes the disk first. -/
theorem WriteCall.run_fails (h : Stores g t fs) (hg : g.Fits) (hwf : Wf g t label)
    (call : WriteCall) : Fails call.run fs fun _ => Outcome g t call fs := by
  cases call with
  | writeFile name data =>
    by_cases hname : name = "" ∨ utf8Len name > 255
    · intro e fs' hrun
      rw [run, Exfat.writeFile, if_pos hname] at hrun
      cases hrun
      refine Or.inl ⟨?_, .refl h⟩
      rintro (⟨hfalse, -⟩ | ⟨hfalse, -⟩ | ⟨-, hfit, -⟩)
      · cases hfalse
      · cases hfalse
      · exact hfit hname
    · -- the name is checked before the lookup; it may as well be checked behind it
      have hrun : (WriteCall.writeFile name data).run =
          resolveComponents [name] false >>= writeNewFile data := by
        rw [run, Exfat.writeFile, if_neg hname, ← resolveRoot_eq]
        simp only [resolveRoot, bind_assoc, pure_bind]
        refine congrArg _ (funext fun fs => congrArg _ (funext fun found => ?_))
        unfold writeNewFile
        exact (if_neg hname).symm
      rw [hrun]
      refine h.resolved_fails hg.bitmap hwf (.writeFile name data) ?_
      rintro t₁ label₁ fs₁ rows resolved h₁ hwf₁ ho hfinds
      unfold writeNewFile
      by_cases hname₁ : resolved.name = "" ∨ utf8Len resolved.name > 255
      · rw [if_pos hname₁]
        exact Fails.throw (.of_check h₁ hfinds rfl (not_not_intro hname₁))
      · rw [if_neg hname₁]
        generalize hlocation : resolved.location = location at hfinds
        cases hfinds with
        | found p e hrows _ _ =>
          exact Fails.throw (Or.inr ⟨p, e, hrows, hlocation,
            Or.inr ⟨fun hallowed => Bool.false_ne_true hallowed.1, .refl h₁⟩⟩)
        | absent _ =>
          refine (h₁.writeFileDataAndEntry_fails hg ho (hwf₁.shaped _ _ ho) hname₁ data).mono ?_
          intro _ fs' hend
          exact Or.inl ⟨hlocation, hend.congr ⟨fun hafford => ⟨hname₁, hafford⟩, And.right⟩⟩
  | writeFilePath path data createParents overwrite =>
    refine h.resolved_fails hg.bitmap hwf (.writeFilePath path data createParents overwrite) ?_
    rintro t₁ label₁ fs₁ rows resolved h₁ hwf₁ ho hfinds
    by_cases hname : resolved.name = "" ∨ utf8Len resolved.name > 255
    · rw [if_pos hname]
      exact Fails.throw (.of_check h₁ hfinds rfl (not_not_intro hname))
    · rw [if_neg hname]
      refine (h₁.replaced_fails hwf₁ ho hfinds path overwrite
        (fun _ fs => fs.Affords data.length) ?_).mono ?_
      · intro t₂ fs₂ rows₂ h₂ hwf₂ ho₂
        exact h₂.writeFileDataAndEntry_fails hg ho₂ (hwf₂.shaped _ _ ho₂) hname data
      · rintro _ fs' (⟨hnone, hend⟩ | ⟨p, e, hrows, hlocation, ⟨hallowed, hdeleted⟩ | ⟨hrefused, hquiet⟩⟩)
        · exact Or.inl ⟨hnone, hend.congr ⟨fun hafford => ⟨hname, hafford⟩, And.right⟩⟩
        · exact Or.inr ⟨p, e, hrows, hlocation,
            Or.inl ⟨⟨hallowed.1, fun _ => hname, hallowed.2⟩, hdeleted⟩⟩
        · exact Or.inr ⟨p, e, hrows, hlocation,
            Or.inr ⟨fun hallowed => hrefused ⟨hallowed.1, hallowed.2.2⟩, hquiet⟩⟩
  | fromReaderPath path reader size createParents overwrite =>
    have hrun : (WriteCall.fromReaderPath path reader size createParents overwrite).run =
        (resolveComponents (parsePath path) createParents >>= fun resolved => do
          replaceFile path resolved.location overwrite
          let writer ← ExfatFileWriter.createInDirectory resolved.parentCluster resolved.name size false
          let writer ← doStreamWrite writer reader
          writer.finish) := by
      rw [run, writeFileFromReaderPath, ExfatFileWriter.createAtPath, resolvePath_eq]
      simp only [bind_assoc]
    rw [hrun]
    refine h.resolved_fails hg.bitmap hwf (.fromReaderPath path reader size createParents overwrite) ?_
    rintro t₁ label₁ fs₁ rows resolved h₁ hwf₁ ho hfinds
    refine (h₁.replaced_fails hwf₁ ho hfinds path overwrite (fun rows fs =>
      NameFits resolved.name ∧ (∀ e ∈ rowSets rows, ¬ e.Named (toLowercase resolved.name)) ∧
        fs.Affords size) ?_).mono ?_
    · intro t₂ fs₂ rows₂ h₂ hwf₂ ho₂
      exact h₂.session_fails hg hwf₂ ho₂ resolved.name size reader
    · rintro _ fs' (⟨hnone, hend⟩ | ⟨p, e, hrows, hlocation, ⟨hallowed, hdeleted⟩ | ⟨hrefused, hquiet⟩⟩)
      · refine Or.inl ⟨hnone, hend.congr ⟨fun hleaks => ⟨hleaks.1, hleaks.2.2⟩, fun hleaks => ?_⟩⟩
        rw [hnone] at hfinds
        cases hfinds with
        | absent hfree => exact ⟨hleaks.1, hfree, hleaks.2⟩
      · exact Or.inr ⟨p, e, hrows, hlocation,
          Or.inl ⟨⟨hallowed.1, fun hfalse => absurd hfalse Bool.false_ne_true, hallowed.2⟩, hdeleted⟩⟩
      · exact Or.inr ⟨p, e, hrows, hlocation,
          Or.inr ⟨fun hallowed => hrefused ⟨hallowed.1, hallowed.2.2⟩, hquiet⟩⟩

/-! ## What is left of the file -/

/-- The file of an entry is read back. -/
theorem Stores.readEntry_returns (h : Stores g t fs) (hwf : Wf g t label) {p : Place} {e : EntrySet}
    (ho : t k = some (.dir (p.fill [.set e]))) (hfile : e.isDir = false) :
    Returns (readFileFromLocation (p.locate e)) fs fun data _ => data = e.data t := by
  have hrefers := (hwf.entries k _ ho e (p.mem_fill e)).2
  cases hrefers with
  | empty hfirst _ hsize =>
    have hlength : (p.locate e).dataLength = 0 := hsize
    rw [readFileFromLocation, if_pos hlength]
    exact Returns.pure (by rw [EntrySet.data, if_pos hfirst])
  | file file hroot hobject _ _ _ =>
    have hne : e.firstCluster ≠ 0 := by omega
    have hfirst : (p.locate e).firstCluster = e.firstCluster := rfl
    refine (h.readFileFromLocation_returns hobject hfirst).mono ?_
    rintro data fs' ⟨hdata, -⟩
    rw [hdata, EntrySet.data_eq hne hobject]
    rfl
  | dir _ _ _ hdir _ _ => exact absurd (hdir.symm.trans hfile) (by simp)

/-- What is stored under the components, on the tree. -/
theorem Stores.storedAt_iff (h : Stores g t fs) (hfits : g.BitmapFits) (hwf : Wf g t label)
    {components : List String} (hplain : ∀ c ∈ components.dropLast, '/' ∉ c.toList)
    {location : FileEntryLocation} {data : List UInt8} :
    StoredAt fs components location data ↔ ∃ name k, ∃ (p : Place) (e : EntrySet),
      LeadsTo g t components name k (p.fill [.set e]) ∧
      Finds (toLowercase name) (p.fill [.set e]) (some (p.locate e)) ∧ location = p.locate e ∧
      e.isDir = false ∧ data = e.data t := by
  rw [StoredAt, h.looksUp_iff hfits hwf hplain]
  constructor
  · rintro ⟨⟨name, k, rows, hleads, hfinds⟩, hfile, fs', hread⟩
    obtain ⟨p, e, rfl, hnamed, hbefore⟩ := hfinds
    refine ⟨name, k, p, e, hleads, .found p e rfl hnamed hbefore, rfl, hfile, ?_⟩
    exact (h.readEntry_returns hwf hleads.dir hfile).ensures data fs' hread
  · rintro ⟨name, k, p, e, hleads, hfinds, rfl, hfile, rfl⟩
    obtain ⟨_, fs', hread, rfl⟩ := h.readEntry_returns hwf hleads.dir hfile
    exact ⟨⟨name, k, _, hleads, hfinds⟩, hfile, fs', hread⟩

/-- A call that has done nothing preserves the file and the clusters. -/
theorem Quiet.preserved (h : Quiet g t fs fs') (hstores : Stores g t fs) (hfits : g.BitmapFits)
    (hwf : Wf g t label) (call : WriteCall) : Preserved call fs fs' := by
  refine ⟨fun location data hstored => ?_, fun c => by rw [h.disk]⟩
  rw [hstores.storedAt_iff hfits hwf call.plain] at hstored
  rwa [h.stores.storedAt_iff hfits hwf call.plain]

/-- A cluster that is taken is allocated. -/
theorem Took.not_preserved (h : Took g t fs fs') (call : WriteCall) : ¬ Preserved call fs fs' := by
  obtain ⟨t', label', ⟨d, hrep, hholds⟩, -, -, x, hroot, hfree, hx⟩ := h
  obtain ⟨o, ho⟩ := Option.ne_none_iff_exists'.mp hx
  have hmarked := (hholds.owned x o ho x (hholds.key_mem ho)).2 hroot
  intro hpreserved
  rw [← hpreserved.clusters, hrep.disk, hmarked] at hfree
  cases hfree

omit [Lowercase] in
/-- A deleted set is no File entry. -/
theorem not_fileEntryAt_deleted (before after : List Item) (e : EntrySet) :
    ¬ FileEntryAt (render (before ++ e.deleted ++ after)) (render before).length := by
  rintro ⟨-, -, hfile⟩
  obtain ⟨stamp, checksum, hentries⟩ := e.entries_eq
  rw [render_append, render_append, List.append_assoc, byteAt_append_right (Nat.le_refl _),
    Nat.sub_self, EntrySet.deleted, hentries] at hfile
  exact absurd (show entryTypeDeletedFile = entryTypeFile from hfile) (by decide)

/-- A file whose entry is deleted is not stored at its place any more. -/
theorem Removed.not_preserved {call : WriteCall} (h : Removed g t call fs') (hstores : Stores g t fs)
    (hfits : g.BitmapFits) (hwf : Wf g t label) : ¬ Preserved call fs fs' := by
  obtain ⟨name, k, p, e, label', hleads, hfinds, hfile, t', h', hwf', hdeleted⟩ := h
  intro hpreserved
  have hstored := hpreserved.file _ _ ((hstores.storedAt_iff hfits hwf call.plain).mpr
    ⟨name, k, p, e, hleads, hfinds, rfl, hfile, rfl⟩)
  obtain ⟨name', k', p', e', hleads', -, hsame, -⟩ := (h'.storedAt_iff hfits hwf' call.plain).mp hstored
  obtain ⟨d, -, hholds⟩ := h'
  -- the place has one content on the disk: a deleted entry, and a live one
  have hcluster : p.cluster = p'.cluster := congrArg FileEntryLocation.directoryCluster hsame
  have hoffset : (render p.before).length = (render p'.before).length :=
    congrArg FileEntryLocation.entryOffset hsame
  have hgone : d.cluster p.cluster = render (p.before ++ e.deleted ++ p.after) :=
    hholds.stored k _ hdeleted (p.cluster, _)
      (List.mem_map.mpr ⟨_, List.mem_append_right _ List.mem_cons_self, rfl⟩)
  have hrow : (p'.cluster, p'.before ++ [.set e'] ++ p'.after) ∈ p'.fill [.set e'] :=
    List.mem_append_right _ List.mem_cons_self
  have hlive : d.cluster p'.cluster = render (p'.before ++ .set e' :: p'.after) := by
    rw [hholds.stored k' _ hleads'.dir _ (List.mem_map.mpr ⟨_, hrow, rfl⟩), List.append_assoc]
    rfl
  have hitems := (hwf'.shaped k' _ hleads'.dir).ok _ hrow
  rw [List.append_assoc] at hitems
  have hentry := fileEntryAt_set hitems
  refine not_fileEntryAt_deleted p.before p.after e ?_
  have hbytes : render (p.before ++ e.deleted ++ p.after)
      = render (p'.before ++ .set e' :: p'.after) := by
    rw [← hgone, hcluster, hlive]
  rw [hbytes, hoffset]
  exact hentry

/-! ## Exception safety -/

/-- The filesystem stores a directory tree, and its bitmap fits its cluster. -/
def StoresTree (fs : ExfatFs) : Prop := ∃ g : VolumeParams, g.Fits ∧ IsTree g fs

theorem Stores.isTree (h : Stores g t fs) (hwf : Wf g t label) : IsTree g fs := ⟨t, label, h, hwf⟩

/-- A write call that fails leaves a tree. -/
theorem WriteCall.fails_tree (h : Stores g t fs) (hg : g.Fits) (hwf : Wf g t label)
    (call : WriteCall) : Fails call.run fs fun _ fs' => IsTree g fs' := by
  refine (call.run_fails h hg hwf).mono ?_
  rintro _ fs' (⟨-, hquiet⟩ | ⟨-, ⟨t', label', hgrown⟩ |
    ⟨_, _, _, _, label', -, -, -, t', h', hwf', -⟩⟩)
  · exact hquiet.stores.isTree hwf
  · exact hgrown.stores.isTree hgrown.wf
  · exact h'.isTree hwf'

/-- A call that fails after it has changed the disk has lost the file or clusters. -/
theorem WriteCall.preserved_iff (h : StoresTree fs) (call : WriteCall) {e : VentoyError}
    (hrun : call.run.run fs = .error e fs') : Preserved call fs fs' ↔ ¬ call.Changes fs := by
  obtain ⟨g, hg, t, label, hstores, hwf⟩ := h
  rcases call.run_fails hstores hg hwf e fs' hrun with ⟨hnot, hquiet⟩ | ⟨hchanges, hleft⟩
  · exact iff_of_true (hquiet.preserved hstores hg.bitmap hwf call) hnot
  · refine iff_of_false ?_ (not_not_intro hchanges)
    rcases hleft with htook | hremoved
    · exact htook.not_preserved call
    · exact hremoved.not_preserved hstores hg.bitmap hwf

end

/-- The small volume stores a tree. -/
theorem volume64MB_tree [Lowercase] : StoresTree volume64MB :=
  @ReachedBy.isTree _ _ (fun _ => True) (.opened volume64MB_new)

end StreamBox.Exfat
