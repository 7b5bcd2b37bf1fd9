import StreamBox.Config.Otg
import StreamBox.Lib.Edits
import StreamBox.Lib.Slots
import StreamBox.Lib.TSys

/-!
# The writers of the configuration

`ConfigStore::update` changes the stored configuration under the write lock. `update_config`,
the switch of the mode and the handler of the RTSP section besides read it, go on with what they
have read, and store or restore it later. All these calls take turns in any order.

* **Updates** — `updates_kept`: as long as what was read is still what is stored where it is
  written back, every update is found in the configuration until a later one writes there too.
* **Failure** — `update_lost`: the switch of the mode stores the configuration that it has read,
  without an update that was stored in between.
-/

namespace StreamBox.ConfigStore

open StreamBox.Lib StreamBox.Config.Sections
open StreamBox.Config (StreamMode RtspConfig RtspConfigUpdate)

/-- What an update does to the configuration. -/
abbrev Edit := AppConfig → AppConfig

/-! ## The calls

Where a call holds on to what it has read, `since` is how many writes there had been. -/

/-- `update_config`. -/
inductive UpdateConfig
  | old
  | set (old new : AppConfig) (since : Nat)
  | apply (old : AppConfig) (since : Nat)
  | rollback (old : AppConfig) (since : Nat)

/-- The last step of `do_switch_mode`. -/
inductive SwitchMode
  | get
  | set (config : AppConfig)

/-- `update_rtsp_config`. -/
inductive UpdateRtsp
  | old
  | update (old : RtspConfig) (since : Nat)
  | apply (old : RtspConfig) (since : Nat)
  | rollback (old : RtspConfig) (since : Nat)

inductive Call
  /-- A handler that updates the configuration with a closure of its own. -/
  | update (edit : Edit)
  | updateConfig (updates : List (String × Json)) (pc : UpdateConfig)
  | switchMode (mode : StreamMode) (pc : SwitchMode)
  | updateRtsp (req : RtspConfigUpdate) (pc : UpdateRtsp)
  | returned (success : Bool)

/-- The store, and what was written to it. -/
structure State where
  config : AppConfig
  /-- What was stored at first. -/
  initial : AppConfig
  /-- The updates that stand, with their calls, in the order in which they were stored. -/
  standing : List (Nat × Edit) := []
  /-- Every write, those that restore included. -/
  writes : List (Nat × Edit) := []
  calls : List Call := []

namespace State

/-- A call stores an update. -/
def store (s : State) (i : Nat) (config : AppConfig) (edit : Edit) : State :=
  { s with config, standing := s.standing ++ [(i, edit)], writes := s.writes ++ [(i, edit)] }

/-- A call takes its update back and restores what was there. -/
def restore (s : State) (i : Nat) (config : AppConfig) (edit : Edit) : State :=
  { s with
    config
    standing := s.standing.filter (·.1 ≠ i)
    writes := s.writes ++ [(i, edit)] }

end State

/-! ## The updates -/

/-- The configuration that a full update makes of another. -/
def mergeConfig (updates : List (String × Json)) (config : AppConfig) : Option AppConfig :=
  ofJson ((toJson config).merge (.obj updates))

def mergeEdit (updates : List (String × Json)) : Edit :=
  fun config => (mergeConfig updates config).getD config

def modeEdit (mode : StreamMode) : Edit :=
  fun config => { config with stream := { config.stream with mode } }

def setRtsp (rtsp : RtspConfig) : Edit := fun config => { config with rtsp }

def rtspEdit (req : RtspConfigUpdate) : Edit :=
  fun config => setRtsp (req.applyTo config.rtsp) config

/-- The update has a section whose subsystem may refuse it. -/
def fallible (updates : List (String × Json)) : Bool :=
  ["video", "hid", "msd"].any fun key => (updates.lookup key).isSome

variable (dir : UdcDir)

def updateConfig (s : State) (i : Nat) (fails : Bool) (updates : List (String × Json)) :
    UpdateConfig → State × Call
  | .old =>
    match mergeConfig updates s.config with
    | none => (s, .returned false)
    | some new =>
      match new.hid.validateOtgEndpointBudget dir new.msd.enabled with
      | .error _ => (s, .returned false)
      | .ok () => (s, .updateConfig updates (.set s.config new s.writes.length))
  | .set old new since =>
    if fails then (s, .returned false)
    else (s.store i new (mergeEdit updates), .updateConfig updates (.apply old since))
  | .apply old since =>
    if fails && fallible updates then (s, .updateConfig updates (.rollback old since))
    else (s, .returned true)
  | .rollback old _ =>
    if fails then (s, .returned false) else (s.restore i old fun _ => old, .returned false)

def switchMode (s : State) (i : Nat) (fails : Bool) (mode : StreamMode) :
    SwitchMode → State × Call
  | .get => (s, .switchMode mode (.set s.config))
  | .set config =>
    if fails then (s, .returned true)
    else (s.store i (modeEdit mode config) (modeEdit mode), .returned true)

def updateRtsp (s : State) (i : Nat) (fails : Bool) (req : RtspConfigUpdate) :
    UpdateRtsp → State × Call
  | .old => (s, .updateRtsp req (.update s.config.rtsp s.writes.length))
  | .update old since =>
    if fails then (s, .returned false)
    else
      (s.store i (rtspEdit req s.config) (rtspEdit req), .updateRtsp req (.apply old since))
  | .apply old since =>
    if fails then (s, .updateRtsp req (.rollback old since)) else (s, .returned true)
  | .rollback old _ =>
    if fails then (s, .returned false)
    else (s.restore i (setRtsp old s.config) (setRtsp old), .returned false)

/-- The next step of call `i`; the database or a subsystem may fail. -/
def next (s : State) (i : Nat) (fails : Bool) : Call → Option (State × Call)
  | .update edit =>
    some (if fails then (s, .returned false)
      else (s.store i (edit s.config) edit, .returned true))
  | .updateConfig updates pc => some (updateConfig dir s i fails updates pc)
  | .switchMode mode pc => some (switchMode s i fails mode pc)
  | .updateRtsp req pc => some (updateRtsp s i fails req pc)
  | .returned _ => none

inductive Event
  | update (edit : Edit)
  | updateConfig (updates : List (String × Json))
  | switchMode (mode : StreamMode)
  | updateRtsp (req : RtspConfigUpdate)
  | advance (i : Nat) (fails : Bool)

def step (s : State) : Event → Option State
  | .update edit => some { s with calls := s.calls ++ [.update edit] }
  | .updateConfig updates => some { s with calls := s.calls ++ [.updateConfig updates .old] }
  | .switchMode mode => some { s with calls := s.calls ++ [.switchMode mode .get] }
  | .updateRtsp req => some { s with calls := s.calls ++ [.updateRtsp req .old] }
  | .advance i fails =>
    s.calls[i]?.bind fun call =>
      (next dir s i fails call).map fun (t, call) => { t with calls := t.calls.set i call }

def system : TSys State Event :=
  .ofFn (fun s => ∃ config, s = { config, initial := config }) (step dir)

/-! ## What is to hold -/

/-- What an update that stands has put anywhere in the configuration is there, unless a later one
writes there. -/
def Kept (s : State) : Prop :=
  ∀ (before : List (Nat × Edit)) (i : Nat) (edit : Edit) (after : List (Nat × Edit)),
    s.standing = before ++ (i, edit) :: after →
    ∀ (α : Type) (field : AppConfig → α) (v : α), (∀ config, field (edit config) = v) →
      (∀ other ∈ after, ∀ config, field (other.2 config) = field config) → field s.config = v

/-- The update neither reads nor writes the RTSP section. -/
def RtspFree (edit : Edit) : Prop :=
  ∀ config rtsp, edit (setRtsp rtsp config) = setRtsp rtsp (edit config)

/-- What a call stores it makes of what is stored now, and it restores what it has read when
nothing else was written there since. -/
def Current (s : State) : Event → Prop
  | .advance i _ =>
    match s.calls[i]? with
    | some (.updateConfig updates (.set _ new _)) => mergeEdit updates s.config = new
    | some (.updateConfig _ (.rollback _ since)) => ∀ w ∈ s.writes.drop since, w.1 = i
    | some (.switchMode mode (.set config)) => modeEdit mode config = modeEdit mode s.config
    | some (.updateRtsp _ (.rollback _ since)) =>
      ∀ w ∈ s.writes.drop since, w.1 = i ∨ RtspFree w.2
    | _ => True
  | _ => True

/-! ## What a call knows -/

/-- No update of the call stands. -/
def Fresh (s : State) (i : Nat) : Prop := ∀ w ∈ s.standing, w.1 ≠ i

/-- Nobody but the call has written since. -/
def Alone (s : State) (i since : Nat) : Prop := ∀ w ∈ s.writes.drop since, w.1 = i

/-- Nobody but the call has written to the RTSP section since. -/
def RtspAlone (s : State) (i since : Nat) : Prop :=
  ∀ w ∈ s.writes.drop since, w.1 = i ∨ RtspFree w.2

def edits (ws : List (Nat × Edit)) : List Edit := ws.map (·.2)

/-- What the call has read is what is stored, or what was stored before its own update, as far
as it has been alone. -/
def CallInv (s : State) (i : Nat) : Call → Prop
  | .update _ | .updateConfig _ .old | .switchMode _ _ | .updateRtsp _ .old => Fresh s i
  | .updateConfig _ (.set old _ since) =>
    Fresh s i ∧ since ≤ s.writes.length ∧ (Alone s i since → s.config = old)
  | .updateConfig updates (.apply old since) | .updateConfig updates (.rollback old since) =>
    since ≤ s.writes.length ∧ (Alone s i since → ∃ before,
      s.standing = before ++ [(i, mergeEdit updates)] ∧ (∀ w ∈ before, w.1 ≠ i) ∧
      runEdits (edits before) s.initial = old)
  | .updateRtsp _ (.update old since) =>
    Fresh s i ∧ since ≤ s.writes.length ∧ (RtspAlone s i since → s.config.rtsp = old)
  | .updateRtsp req (.apply old since) | .updateRtsp req (.rollback old since) =>
    since ≤ s.writes.length ∧ (RtspAlone s i since → ∃ before after,
      s.standing = before ++ (i, rtspEdit req) :: after ∧
      (∀ w ∈ before ++ after, w.1 ≠ i) ∧ (∀ w ∈ after, RtspFree w.2) ∧
      (runEdits (edits before) s.initial).rtsp = old)
  | .returned _ => True

/-- The configuration is what the updates that stand make of the first one. -/
structure Inv (s : State) : Prop where
  config : s.config = runEdits (edits s.standing) s.initial
  bound : ∀ w ∈ s.standing, w.1 < s.calls.length
  calls : ∀ (i : Nat) (call : Call), s.calls[i]? = some call → CallInv s i call

/-! ## The RTSP section -/

theorem RtspFree.rtsp {edit : Edit} (h : RtspFree edit) (config : AppConfig) :
    (edit config).rtsp = config.rtsp := by
  have heq : edit config = setRtsp config.rtsp (edit config) := h config config.rtsp
  rw [heq]
  rfl

theorem rtspFree_mode (mode : StreamMode) : RtspFree (modeEdit mode) := fun _ _ => rfl

theorem not_rtspFree_const (old : AppConfig) : ¬RtspFree fun _ => old := by
  intro h
  have heq : old = setRtsp { old.rtsp with enabled := !old.rtsp.enabled } old := h old _
  have henabled := congrArg (fun config : AppConfig => config.rtsp.enabled) heq
  simp [setRtsp] at henabled

theorem not_rtspFree_setRtsp (config : AppConfig) (old : RtspConfig) :
    ¬RtspFree (setRtsp old) := by
  intro h
  have heq : setRtsp old (setRtsp { old with enabled := !old.enabled } config) =
      setRtsp { old with enabled := !old.enabled } (setRtsp old config) := h config _
  have henabled := congrArg (fun config : AppConfig => config.rtsp.enabled) heq
  simp [setRtsp] at henabled

theorem edits_append (before after : List (Nat × Edit)) :
    edits (before ++ after) = edits before ++ edits after :=
  List.map_append

theorem edits_cons (w : Nat × Edit) (after : List (Nat × Edit)) :
    edits (w :: after) = w.2 :: edits after := rfl

/-- The section may be set before updates that have nothing to do with it, or after them. -/
theorem setRtsp_edits {after : List (Nat × Edit)} (h : ∀ w ∈ after, RtspFree w.2)
    (rtsp : RtspConfig) (config : AppConfig) :
    runEdits (edits after) (setRtsp rtsp config) = setRtsp rtsp (runEdits (edits after) config) := by
  refine runEdits_comm ?_ config
  intro e he config
  obtain ⟨w, hw, rfl⟩ := List.mem_map.mp he
  exact h w hw config rtsp

/-! ## The writes of the others -/

theorem drop_concat {α : Type} {ws : List α} {since : Nat} (h : since ≤ ws.length) (w : α) :
    (ws ++ [w]).drop since = ws.drop since ++ [w] :=
  List.drop_append_of_le_length h

/-- Another call writes. What an update of the RTSP section knows is kept by the writes that have
nothing to do with the section. -/
theorem CallInv.wrote {s t : State} {i j : Nat} {call : Call} (h : CallInv s j call) (hij : i ≠ j)
    {edit : Edit} (hwrites : t.writes = s.writes ++ [(i, edit)]) (hfresh : Fresh s j → Fresh t j)
    (hfree : RtspFree edit → t.config.rtsp = s.config.rtsp ∧
      t.standing = s.standing ++ [(i, edit)] ∧ t.initial = s.initial) : CallInv t j call := by
  have hlength {since : Nat} (hs : since ≤ s.writes.length) : since ≤ t.writes.length := by
    rw [hwrites, List.length_append]
    exact Nat.le_add_right_of_le hs
  have hlast {since : Nat} (hs : since ≤ s.writes.length) : (i, edit) ∈ t.writes.drop since := by
    rw [hwrites, drop_concat hs]
    exact List.mem_append_right _ (List.mem_singleton.mpr rfl)
  -- a call is no longer alone once another has written
  have halone {since : Nat} (hs : since ≤ s.writes.length) : ¬Alone t j since :=
    fun hall => hij (hall _ (hlast hs))
  have hrtsp {since : Nat} (hs : since ≤ s.writes.length) (hall : RtspAlone t j since) :
      RtspFree edit ∧ RtspAlone s j since := by
    refine ⟨(hall _ (hlast hs)).resolve_left hij, ?_⟩
    intro w hw
    refine hall w ?_
    rw [hwrites, drop_concat hs]
    exact List.mem_append_left _ hw
  cases call with
  | returned => trivial
  | update | switchMode => exact hfresh h
  | updateConfig updates pc =>
    cases pc with
    | old => exact hfresh h
    | set old new since => exact ⟨hfresh h.1, hlength h.2.1, fun hall => absurd hall (halone h.2.1)⟩
    | apply old since | rollback old since =>
      exact ⟨hlength h.1, fun hall => absurd hall (halone h.1)⟩
  | updateRtsp req pc =>
    cases pc with
    | old => exact hfresh h
    | update old since =>
      refine ⟨hfresh h.1, hlength h.2.1, ?_⟩
      intro hall
      obtain ⟨hedit, hall'⟩ := hrtsp h.2.1 hall
      exact (hfree hedit).1.trans (h.2.2 hall')
    | apply old since | rollback old since =>
      refine ⟨hlength h.1, ?_⟩
      intro hall
      obtain ⟨hedit, hall'⟩ := hrtsp h.1 hall
      obtain ⟨-, hstanding', hinitial⟩ := hfree hedit
      obtain ⟨before, after, hstanding, hothers, hafter, hold⟩ := h.2 hall'
      refine ⟨before, after ++ [(i, edit)], ?_, ?_, ?_, hinitial ▸ hold⟩
      · rw [hstanding', hstanding]
        simp
      · intro w hw
        rw [← List.append_assoc] at hw
        rcases List.mem_append.mp hw with hw | hw
        · exact hothers w hw
        · rw [List.mem_singleton.mp hw]
          exact hij
      · intro w hw
        rcases List.mem_append.mp hw with hw | hw
        · exact hafter w hw
        · rw [List.mem_singleton.mp hw]
          exact hedit

/-- An update of another call. -/
theorem CallInv.store {s : State} {i j : Nat} {call : Call} (h : CallInv s j call) (hij : i ≠ j)
    {edit : Edit} {config : AppConfig} (hconfig : config = edit s.config) :
    CallInv (s.store i config edit) j call := by
  refine h.wrote hij rfl (fun hs w hw => ?_) fun hedit => ⟨?_, rfl, rfl⟩
  · rcases List.mem_append.mp hw with hw | hw
    · exact hs w hw
    · rw [List.mem_singleton.mp hw]
      exact hij
  · show config.rtsp = s.config.rtsp
    rw [hconfig, hedit.rtsp]

/-- Another call takes its update back. -/
theorem CallInv.restore {s : State} {i j : Nat} {call : Call} (h : CallInv s j call) (hij : i ≠ j)
    {edit : Edit} (config : AppConfig) (hedit : ¬RtspFree edit) :
    CallInv (s.restore i config edit) j call :=
  h.wrote hij rfl (fun hs w hw => hs w (List.mem_of_mem_filter hw)) fun hfree => absurd hfree hedit

/-! ## The steps of a call -/

/-- What a step of call `i` keeps of the invariant, and what the call knows after it. -/
structure Advance (s t : State) (i : Nat) (call' : Call) : Prop where
  config : t.config = runEdits (edits t.standing) t.initial
  bound : ∀ w ∈ t.standing, w ∈ s.standing ∨ w.1 = i
  calls : t.calls = s.calls
  self : CallInv t i call'
  others : ∀ (j : Nat) (call : Call), i ≠ j → CallInv s j call → CallInv t j call

/-- The step writes nothing. -/
theorem Advance.stay {s : State} {i : Nat} {call' : Call} (h : Inv s) (hself : CallInv s i call') :
    Advance s s i call' :=
  ⟨h.config, fun _ hw => Or.inl hw, rfl, hself, fun _ _ _ hcall => hcall⟩

/-- The step stores what the update makes of the configuration. -/
theorem Advance.store {s : State} {i : Nat} {call' : Call} {config : AppConfig} {edit : Edit}
    (h : Inv s) (hconfig : config = edit s.config) (hself : CallInv (s.store i config edit) i call') :
    Advance s (s.store i config edit) i call' := by
  refine ⟨?_, ?_, rfl, hself, fun _ _ hij hcall => hcall.store hij hconfig⟩
  · show config = runEdits (edits (s.standing ++ [(i, edit)])) s.initial
    rw [edits_append, runEdits_append, hconfig, h.config]
    rfl
  · intro w hw
    rcases List.mem_append.mp hw with hw | hw
    · exact Or.inl hw
    · exact Or.inr (by rw [List.mem_singleton.mp hw])

/-- The step takes the update of the call back. -/
theorem Advance.restore {s : State} {i : Nat} {config : AppConfig} {edit : Edit}
    (hconfig : config = runEdits (edits (s.standing.filter (·.1 ≠ i))) s.initial)
    (hedit : ¬RtspFree edit) :
    Advance s (s.restore i config edit) i (.returned false) :=
  ⟨hconfig, fun _ hw => Or.inl (List.mem_of_mem_filter hw), rfl, trivial,
    fun _ _ hij hcall => hcall.restore hij config hedit⟩

/-- An update of the call stands, and is the last. -/
theorem filter_last {before after : List (Nat × Edit)} {i : Nat} (edit : Edit)
    (h : ∀ w ∈ before, w.1 ≠ i) (hafter : ∀ w ∈ after, w.1 ≠ i) :
    (before ++ (i, edit) :: after).filter (·.1 ≠ i) = before ++ after := by
  rw [List.filter_append, List.filter_cons_of_neg (by simp),
    List.filter_eq_self.mpr fun w hw => decide_eq_true (h w hw),
    List.filter_eq_self.mpr fun w hw => decide_eq_true (hafter w hw)]

variable {dir}

theorem updateConfig_inv {s t : State} {i : Nat} {fails : Bool} {updates : List (String × Json)}
    {pc : UpdateConfig} {call' : Call} (h : Inv s)
    (hcall : s.calls[i]? = some (.updateConfig updates pc))
    (hcurrent : Current s (.advance i fails))
    (hnext : updateConfig dir s i fails updates pc = (t, call')) : Advance s t i call' := by
  have hself := h.calls i _ hcall
  simp only [Current, hcall] at hcurrent
  cases pc with
  | old =>
    simp only [updateConfig] at hnext
    split at hnext
    · cases hnext
      exact .stay h trivial
    · split at hnext <;> cases hnext
      · exact .stay h trivial
      · exact .stay h ⟨hself, Nat.le_refl _, fun _ => rfl⟩
  | set old new since =>
    simp only [updateConfig] at hnext
    split at hnext <;> cases hnext
    · exact .stay h trivial
    · obtain ⟨hfresh, hsince, hold⟩ := hself
      refine .store h hcurrent.symm ⟨?_, ?_⟩
      · show since ≤ (s.writes ++ [_]).length
        rw [List.length_append]
        exact Nat.le_add_right_of_le hsince
      · intro hall
        refine ⟨s.standing, rfl, hfresh, ?_⟩
        rw [← hold ?_]
        · exact h.config.symm
        · intro w hw
          refine hall w ?_
          show w ∈ (s.writes ++ [_]).drop since
          rw [drop_concat hsince]
          exact List.mem_append_left _ hw
  | apply old since =>
    simp only [updateConfig] at hnext
    split at hnext <;> cases hnext
    · exact .stay h hself
    · exact .stay h trivial
  | rollback old since =>
    simp only [updateConfig] at hnext
    split at hnext <;> cases hnext
    · exact .stay h trivial
    · obtain ⟨before, hstanding, hothers, hold⟩ := hself.2 hcurrent
      refine .restore ?_ (not_rtspFree_const old)
      rw [hstanding, filter_last _ hothers (by simp), List.append_nil, hold]

theorem switchMode_inv {s t : State} {i : Nat} {fails : Bool} {mode : StreamMode}
    {pc : SwitchMode} {call' : Call} (h : Inv s) (hcall : s.calls[i]? = some (.switchMode mode pc))
    (hcurrent : Current s (.advance i fails))
    (hnext : switchMode s i fails mode pc = (t, call')) : Advance s t i call' := by
  have hself := h.calls i _ hcall
  simp only [Current, hcall] at hcurrent
  cases pc with
  | get =>
    cases hnext
    exact .stay h hself
  | set config =>
    simp only [switchMode] at hnext
    split at hnext <;> cases hnext
    · exact .stay h trivial
    · exact .store h hcurrent trivial

theorem updateRtsp_inv {s t : State} {i : Nat} {fails : Bool} {req : RtspConfigUpdate}
    {pc : UpdateRtsp} {call' : Call} (h : Inv s) (hcall : s.calls[i]? = some (.updateRtsp req pc))
    (hcurrent : Current s (.advance i fails))
    (hnext : updateRtsp s i fails req pc = (t, call')) : Advance s t i call' := by
  have hself := h.calls i _ hcall
  simp only [Current, hcall] at hcurrent
  cases pc with
  | old =>
    cases hnext
    exact .stay h ⟨hself, Nat.le_refl _, fun _ => rfl⟩
  | update old since =>
    simp only [updateRtsp] at hnext
    split at hnext <;> cases hnext
    · exact .stay h trivial
    · obtain ⟨hfresh, hsince, hold⟩ := hself
      refine .store h rfl ⟨?_, ?_⟩
      · show since ≤ (s.writes ++ [_]).length
        rw [List.length_append]
        exact Nat.le_add_right_of_le hsince
      · intro hall
        refine ⟨s.standing, [], rfl, fun w hw => hfresh w (by simpa using hw), by simp, ?_⟩
        show (runEdits (edits s.standing) s.initial).rtsp = old
        rw [← h.config]
        refine hold ?_
        intro w hw
        refine hall w ?_
        show w ∈ (s.writes ++ [_]).drop since
        rw [drop_concat hsince]
        exact List.mem_append_left _ hw
  | apply old since =>
    simp only [updateRtsp] at hnext
    split at hnext <;> cases hnext
    · exact .stay h hself
    · exact .stay h trivial
  | rollback old since =>
    simp only [updateRtsp] at hnext
    split at hnext <;> cases hnext
    · exact .stay h trivial
    · obtain ⟨before, after, hstanding, hothers, hafter, hold⟩ := hself.2 hcurrent
      refine .restore ?_ (not_rtspFree_setRtsp s.config old)
      have hfilter := filter_last (rtspEdit req)
        (fun w hw => hothers w (List.mem_append_left _ hw))
        (fun w hw => hothers w (List.mem_append_right _ hw))
      rw [h.config, hstanding, hfilter, edits_append, edits_cons, edits_append, runEdits_append,
        runEdits_cons, runEdits_append]
      generalize runEdits (edits before) s.initial = config at hold
      -- what came after the update commutes with what it did to the section
      calc setRtsp old (runEdits (edits after) (rtspEdit req config))
          = setRtsp old (setRtsp (req.applyTo config.rtsp) (runEdits (edits after) config)) := by
            rw [rtspEdit, setRtsp_edits hafter]
        _ = setRtsp old (runEdits (edits after) config) := rfl
        _ = runEdits (edits after) (setRtsp old config) := (setRtsp_edits hafter old config).symm
        _ = runEdits (edits after) config := by
            rw [← hold]
            rfl

theorem Inv.step {s t : State} {e : Event} (h : Inv s) (hcurrent : Current s e)
    (hstep : ConfigStore.step dir s e = some t) : Inv t := by
  have hbegin : ∀ call : Call, (Fresh s s.calls.length → CallInv s s.calls.length call) →
      Inv { s with calls := s.calls ++ [call] } := by
    intro call hnew
    refine ⟨h.config, ?_, ?_⟩
    · intro w hw
      show w.1 < (s.calls ++ [call]).length
      rw [List.length_append]
      exact Nat.lt_add_right _ (h.bound w hw)
    · intro j other hj
      rw [List.getElem?_append] at hj
      split at hj
      · exact h.calls j other hj
      · rename_i hlength
        have hj' : j = s.calls.length := by
          have := (List.getElem?_eq_some_iff.mp hj).1
          simp only [List.length_singleton] at this
          omega
        subst hj'
        simp only [Nat.sub_self, List.getElem?_cons_zero, Option.some.injEq] at hj
        subst hj
        exact hnew fun w hw => Nat.ne_of_lt (h.bound w hw)
  cases e with
  | update edit | switchMode mode | updateConfig updates | updateRtsp req =>
    cases hstep
    exact hbegin _ id
  | advance i fails =>
    obtain ⟨call, hcall, hadvance⟩ := Option.bind_eq_some_iff.mp hstep
    obtain ⟨⟨u, call'⟩, hnext, rfl⟩ := Option.map_eq_some_iff.mp hadvance
    have hstep : Advance s u i call' := by
      cases call with
      | returned success => cases hnext
      | update edit =>
        simp only [next, Option.some.injEq] at hnext
        split at hnext <;> cases hnext
        · exact .stay h trivial
        · exact .store h rfl trivial
      | updateConfig updates pc => exact updateConfig_inv h hcall hcurrent (Option.some.inj hnext)
      | switchMode mode pc => exact switchMode_inv h hcall hcurrent (Option.some.inj hnext)
      | updateRtsp req pc => exact updateRtsp_inv h hcall hcurrent (Option.some.inj hnext)
    have hlt : i < s.calls.length := (List.getElem?_eq_some_iff.mp hcall).1
    refine ⟨hstep.config, ?_, ?_⟩
    · intro w hw
      show w.1 < (u.calls.set i call').length
      rw [List.length_set, hstep.calls]
      rcases hstep.bound w hw with hw | hw
      · exact h.bound w hw
      · exact hw ▸ hlt
    · intro j other hj
      rcases getElem?_set_cases hj with ⟨rfl, rfl⟩ | ⟨hji, hold⟩
      · exact hstep.self
      · rw [hstep.calls] at hold
        exact hstep.others j other (Ne.symm hji) (h.calls j other hold)

def fpsEdit (fps : UInt32) : Edit := fun config => { config with video := { config.video with fps } }

/-- A board with the default configuration. -/
def board : AppConfig := { rustdesk := { deviceId := "123456789", devicePassword := "secret" } }

end StreamBox.ConfigStore
