import StreamBox.Web.StreamHandlers
import StreamBox.Webrtc.Streamer

/-!
# Refused mode changes

`stream_mode_set` applies the codec first, which closes the WebRTC sessions, and starts the
switch of the mode after that. Here its requests run against the streamer with its sessions:
a request keeps the place that it has reached in `set_video_codec`, and a task that waits for
another call on the streamer names it. A run without a request is the run without its steps.
-/

namespace StreamBox.Web.RefusedRequests

open StreamBox.Lib StreamBox.Config StreamBox.Video StreamBox.Video.Streamer
open StreamBox.Video.StreamManager
open StreamHandlers (ModeRequest AppError StreamModeResponse checkRequest respond)

/-! ## The manager and its tasks -/

/-- The manager of the streams, with the WebRTC streamer that it has. -/
structure VideoStreamManager where
  mode : StreamMode
  switching : Bool := false
  transitionId : Option Nat := none
  issued : Nat := 0
  streamer : StreamerState := .uninitialized
  /-- Resolution, format and rate that the streamer captures with. -/
  captureConfig : Resolution × PixelFormat × UInt32
  config : AppConfig
  webrtcStreamer : Webrtc.Streamer.State
  deriving DecidableEq, Repr

namespace VideoStreamManager

/-- The fields that a switch of the mode works on. -/
def fields (m : VideoStreamManager) : Manager where
  mode := m.mode
  switching := m.switching
  transitionId := m.transitionId
  issued := m.issued
  streamer := m.streamer
  videoCodec := m.webrtcStreamer.videoCodec
  config := m.config

def putFields (m : VideoStreamManager) (fields : Manager) : VideoStreamManager :=
  { m with
    mode := fields.mode
    switching := fields.switching
    transitionId := fields.transitionId
    issued := fields.issued
    streamer := fields.streamer
    config := fields.config }

/-- `sync_webrtc_capture_source` -/
def syncWebrtcCaptureSource (m : VideoStreamManager) : Webrtc.Streamer.Call :=
  .updateVideoConfig m.captureConfig.1 m.captureConfig.2.1 m.captureConfig.2.2 .compare

@[simp] theorem putFields_fields (m : VideoStreamManager) : m.putFields m.fields = m := rfl

end VideoStreamManager

/-- Where a request is. -/
inductive StreamModeSet
  | constraints
  | mode (req : ModeRequest)
  | codec (req : ModeRequest) (currentMode : StreamMode)
  | set (req : ModeRequest) (codecOnly : Bool) (pc : Webrtc.Streamer.SetVideoCodec)
  | notify (req : ModeRequest)
  | transaction (req : ModeRequest) (pc : Transaction)
  | active (req : ModeRequest) (tx : ModeSwitchTransaction)
  | activeCodec (req : ModeRequest) (tx : ModeSwitchTransaction)
  | answered (response : Except AppError StreamModeResponse)
  deriving DecidableEq, Repr

inductive Call
  /-- A request; `changed` records that its `set_video_codec` went past the comparison. -/
  | request (mode : String) (changed : Bool) (pc : StreamModeSet)
  /-- `switch_mode`, for the RTSP and the RustDesk service. -/
  | switchMode (newMode : StreamMode) (pc : Transaction)
  | switch (switch : Switch)
  | returned
  deriving DecidableEq, Repr

/-- A call, and the call on the streamer that it waits for. -/
structure Task where
  call : Call
  awaits : Option Nat := none
  deriving DecidableEq, Repr

/-- What comes of a step of a call. -/
structure Progress where
  manager : VideoStreamManager
  call : Call
  /-- The call on the streamer that it begins and waits for. -/
  begun : Option Webrtc.Streamer.Call := none
  spawned : Option Switch := none
  deriving DecidableEq, Repr

structure State where
  manager : VideoStreamManager
  tasks : List Task := []
  deriving DecidableEq, Repr

/-! ## Steps of the tasks -/

/-- The calls of `ensure_video_capture_running` end in `sync_webrtc_capture_source`. -/
def synced (m : VideoStreamManager) : Transaction → Option Webrtc.Streamer.Call
  | .capture | .init => some m.syncWebrtcCaptureSource
  | _ => none

/-- A step of `switch_mode_transaction` in a call. -/
def VideoStreamManager.switchModeTransaction (m : VideoStreamManager) (newMode : StreamMode)
    (fails : Bool) (pc : Transaction) (goes : Transaction → Call)
    (returns : Option ModeSwitchTransaction → Call) : Progress :=
  match m.fields.transaction newMode fails pc with
  | (fields, .goes pc) => { manager := m.putFields fields, call := goes pc }
  | (fields, .spawns switch tx) =>
    { manager := m.putFields fields, call := returns (some tx), spawned := some switch }
  | (fields, .returns (some tx)) =>
    { manager := m.putFields fields, call := returns (some tx), begun := synced m pc }
  | (fields, .returns none) => { manager := m.putFields fields, call := returns none }

/-- Where the handler goes on once the codec is set. -/
def afterCodec (req : ModeRequest) (codecOnly : Bool) : StreamModeSet :=
  if codecOnly then .notify req else .transaction req .read

/-- The handler is in `set_video_codec` while that goes on. -/
def inSetVideoCodec (req : ModeRequest) (codecOnly : Bool) : Webrtc.Streamer.Call → StreamModeSet
  | .setVideoCodec _ pc => .set req codecOnly pc
  | _ => afterCodec req codecOnly

/-- A step of a request. -/
def StreamModeSet.next (m : VideoStreamManager) (mode : String) (changed fails : Bool) :
    StreamModeSet → Option Progress
  | .constraints =>
    match checkRequest (.ofConfig m.config) mode with
    | .error error => some ⟨m, .request mode changed (.answered (.error error)), none, none⟩
    | .ok req => some ⟨m, .request mode changed (.mode req), none, none⟩
  | .mode req => some ⟨m, .request mode changed (.codec req m.mode), none, none⟩
  | .codec req currentMode =>
    let codecChanged := req.videoCodec.any (· ≠ m.webrtcStreamer.videoCodec)
    let codecOnly := currentMode = .webrtc && req.newMode = .webrtc && codecChanged
    let pc := if req.videoCodec.isSome then .set req codecOnly .compare else afterCodec req codecOnly
    some ⟨m, .request mode changed pc, none, none⟩
  | .set req codecOnly pc =>
    let codec := req.videoCodec.getD .h264
    if m.webrtcStreamer.locked ∧ (pc = .clear ∨ pc = .ensure) then none
    else
      let (webrtcStreamer, call) := m.webrtcStreamer.setVideoCodec codec fails pc
      let changed := changed || pc = .compare && m.webrtcStreamer.videoCodec ≠ codec
      some ⟨{ m with webrtcStreamer }, .request mode changed (inSetVideoCodec req codecOnly call),
        none, none⟩
  | .notify req =>
    let response : StreamModeResponse :=
      { success := true, mode := req.id, transitionId := some m.issued, switching := false
        message := "Codec switched to " ++ req.id }
    some ⟨{ m with issued := m.issued + 1 }, .request mode changed (.answered (.ok response)),
      none, none⟩
  | .transaction req pc =>
    some (m.switchModeTransaction req.newMode fails pc
      (fun pc => .request mode changed (.transaction req pc)) fun result => .request mode changed
        (result.elim (.answered (.error .videoError)) (.active req)))
  | .active req tx =>
    let pc := match m.mode with
      | .mjpeg => .answered (.ok (respond req tx "mjpeg"))
      | .webrtc => .activeCodec req tx
    some ⟨m, .request mode changed pc, none, none⟩
  | .activeCodec req tx =>
    let response := respond req tx m.webrtcStreamer.videoCodec.toId
    some ⟨m, .request mode changed (.answered (.ok response)), none, none⟩
  | .answered _ => none

/-- The calls on the streamer that a step of `do_switch_mode` makes: the sessions are closed when
WebRTC mode ends, and the capture source is synced when it begins. -/
def doSwitchModeCalls (m : VideoStreamManager) (switch : Switch) (fails : Bool) :
    Option Webrtc.Streamer.Call :=
  match switch.pc with
  | .stop => if switch.currentMode = .webrtc then some (.release .drain) else none
  | .init => if m.streamer = .uninitialized ∧ fails then none else some m.syncWebrtcCaptureSource
  | _ => none

def Call.next (m : VideoStreamManager) (fails : Bool) : Call → Option Progress
  | .request mode changed pc => pc.next m mode changed fails
  | .switchMode newMode pc =>
    some (m.switchModeTransaction newMode fails pc (.switchMode newMode) fun _ => .returned)
  | .switch task =>
    let result := m.fields.doSwitchMode task fails task.pc
    some ⟨m.putFields result.1, result.2.elim .returned fun pc => .switch { task with pc },
      doSwitchModeCalls m task fails, none⟩
  | .returned => none

/-- The call on the streamer that a task waits for has not returned. -/
def Task.waits (m : VideoStreamManager) (task : Task) : Bool :=
  task.awaits.any fun j => m.webrtcStreamer.calls[j]? ≠ some .returned

/-- The manager after a step, with the call on the streamer that the step begins. -/
def Progress.after (p : Progress) : VideoStreamManager :=
  { p.manager with
    webrtcStreamer := { p.manager.webrtcStreamer with
      calls := p.manager.webrtcStreamer.calls ++ p.begun.toList } }

/-- The task after a step. -/
def Progress.task (p : Progress) : Task where
  call := p.call
  awaits := p.begun.map fun _ => p.manager.webrtcStreamer.calls.length

/-- What happens. Others call the streamer, change the configuration and what is captured. -/
inductive Event
  | streamModeSet (mode : String)
  | switchMode (newMode : StreamMode)
  | webrtc (event : Webrtc.Streamer.Event)
  | streamer (state : StreamerState)
  | captureConfig (captureConfig : Resolution × PixelFormat × UInt32)
  | config (config : AppConfig)
  | advance (i : Nat) (fails : Bool)
  deriving DecidableEq, Repr

def step (s : State) : Event → Option State
  | .streamModeSet mode =>
    some { s with tasks := s.tasks ++ [{ call := .request mode false .constraints }] }
  | .switchMode newMode =>
    some { s with tasks := s.tasks ++ [{ call := .switchMode newMode .read }] }
  | .webrtc event =>
    (Webrtc.Streamer.step s.manager.webrtcStreamer event).map fun webrtcStreamer =>
      { s with manager := { s.manager with webrtcStreamer } }
  | .streamer state => some { s with manager := { s.manager with streamer := state } }
  | .captureConfig captureConfig => some { s with manager := { s.manager with captureConfig } }
  | .config config => some { s with manager := { s.manager with config } }
  | .advance i fails =>
    s.tasks[i]?.bind fun task =>
      if task.waits s.manager then none
      else (task.call.next s.manager fails).map fun p =>
        { manager := p.after
          tasks := s.tasks.set i p.task ++ (p.spawned.map ({ call := .switch · })).toList }

/-- A manager without tasks, with a streamer that nothing has been asked of. -/
def Init (s : State) : Prop :=
  Webrtc.Streamer.Init s.manager.webrtcStreamer ∧ s.manager.switching = false ∧ s.tasks = []

def system : TSys State Event :=
  .ofFn Init step

/-! ## Refusals -/

/-- The answer says that the request is refused. -/
def refuses : Except AppError StreamModeResponse → Bool
  | .error _ => true
  | .ok response => !response.success

def Event.of (i : Nat) : Event → Bool
  | .advance j _ => j == i
  | _ => false

/-- Mode, codec and sessions are those of the run without the steps of task `i`. -/
def Unfelt (start : State) (events : List Event) (i : Nat) (s : State) : Prop :=
  ∃ t, (events.filter (!·.of i)).foldlM step start = some t ∧
    s.manager.mode = t.manager.mode ∧
    s.manager.webrtcStreamer.videoCodec = t.manager.webrtcStreamer.videoCodec ∧
    s.manager.webrtcStreamer.sessions = t.manager.webrtcStreamer.sessions

/-- No request that has been refused has had an effect. -/
def RefusalsUnfelt (start : State) (events : List Event) (s : State) : Prop :=
  ∀ (i : Nat) (mode : String) (changed : Bool)
    (response : Except AppError StreamModeResponse) (awaits : Option Nat),
    s.tasks[i]? = some ⟨.request mode changed (.answered response), awaits⟩ →
      refuses response → Unfelt start events i s

/-- The next step refuses the request, though it has passed the checks. -/
def StreamModeSet.refusedNext (m : VideoStreamManager) (fails : Bool) : StreamModeSet → Bool
  | .transaction _ (.compare _) => m.switching
  | .transaction _ .init => fails
  | _ => false

def Call.RefusedUnchanged (m : VideoStreamManager) (fails : Bool) : Call → Prop
  | .request _ changed pc => pc.refusedNext m fails → changed = false
  | _ => True

instance (m : VideoStreamManager) (fails : Bool) :
    (call : Call) → Decidable (call.RefusedUnchanged m fails)
  | .request _ _ _ => inferInstanceAs (Decidable (_ → _))
  | .switchMode _ _ | .switch _ | .returned => inferInstanceAs (Decidable True)

/-- A request is refused by the transaction only if it has not changed the codec. -/
def StepOk (s : State) : Event → Prop
  | .advance i fails => ∀ task ∈ s.tasks[i]?, task.call.RefusedUnchanged s.manager fails
  | _ => True

instance (s : State) : (e : Event) → Decidable (StepOk s e)
  | .advance _ _ => inferInstanceAs (Decidable (∀ _ ∈ _, _))
  | .streamModeSet _ | .switchMode _ | .webrtc _ | .streamer _ | .captureConfig _ | .config _ =>
    inferInstanceAs (Decidable True)

/-- A step of a run whose steps all meet the condition. -/
def stepOk (s : State) (e : Event) : Option State :=
  if StepOk s e then step s e else none

theorem stepOk_eq_some {s s' : State} {e : Event} (h : stepOk s e = some s') :
    StepOk s e ∧ step s e = some s' := by
  rw [stepOk] at h
  split at h
  · rename_i hok
    exact ⟨hok, h⟩
  · cases h

/-! ## What a request has done -/

/-- The transaction has not been refused. -/
def taken (tx : ModeSwitchTransaction) : Bool :=
  tx.accepted || (!tx.accepted && !tx.switching && tx.transitionId.isNone)

theorem refuses_respond (req : ModeRequest) (tx : ModeSwitchTransaction) (activeMode : String) :
    refuses (.ok (respond req tx activeMode)) = !taken tx := rfl

namespace StreamModeSet

/-- A request that has not changed the codec has had no effect up to here. -/
def quiet : StreamModeSet → Bool
  | .constraints | .mode _ | .codec _ _ | .set _ _ .compare => true
  | .transaction _ .read | .transaction _ .capture | .transaction _ .init
  | .transaction _ (.compare _) | .transaction _ .refused => true
  | .active _ tx | .activeCodec _ tx => !taken tx
  | .answered response => refuses response
  | _ => false

/-- A request that comes here is not refused, as long as the steps meet the condition. -/
def committed (changed : Bool) : StreamModeSet → Bool
  | .set _ _ _ => changed
  | .notify _ | .transaction _ (.identify _) | .transaction _ (.spawn _ _) => true
  | .transaction _ .refused => false
  | .transaction _ _ => changed
  | .active _ tx | .activeCodec _ tx => taken tx
  | .answered response => !refuses response
  | _ => false

end StreamModeSet

/-! ## Steps of a transaction -/

section Transaction

variable {m : VideoStreamManager} {newMode : StreamMode} {fails : Bool} {pc : Transaction}
  {goes : Transaction → Call} {returns : Option ModeSwitchTransaction → Call}

theorem switchModeTransaction_goes {fields : Manager} {next : Transaction}
    (h : m.fields.transaction newMode fails pc = (fields, .goes next)) :
    m.switchModeTransaction newMode fails pc goes returns =
      ⟨m.putFields fields, goes next, none, none⟩ := by
  rw [VideoStreamManager.switchModeTransaction, h]

theorem switchModeTransaction_returns {fields : Manager} {tx : ModeSwitchTransaction}
    (h : m.fields.transaction newMode fails pc = (fields, .returns (some tx))) :
    m.switchModeTransaction newMode fails pc goes returns =
      ⟨m.putFields fields, returns (some tx), synced m pc, none⟩ := by
  rw [VideoStreamManager.switchModeTransaction, h]

/-- A transaction that is not refused goes on to a result that is taken. -/
theorem transaction_taken {m m' : Manager} {outcome : Outcome}
    (h : m.transaction newMode fails pc = (m', outcome)) (hpc : pc ≠ .refused)
    (hcompare : ∀ currentMode, pc = .compare currentMode → m.switching = false)
    (hinit : pc = .init → fails = false) :
    (∃ next, outcome = .goes next ∧ next ≠ .refused) ∨
      (∃ switch tx, outcome = .spawns switch tx ∧ taken tx) ∨
      ∃ tx, outcome = .returns (some tx) ∧ taken tx := by
  cases pc with
  | read =>
    simp only [Manager.transaction] at h
    split at h <;> cases h
    · split
      · exact .inl ⟨_, rfl, by simp⟩
      · exact .inr (.inr ⟨_, rfl, rfl⟩)
    · exact .inl ⟨_, rfl, by simp⟩
  | capture =>
    cases h
    split
    · exact .inl ⟨_, rfl, by simp⟩
    · exact .inr (.inr ⟨_, rfl, rfl⟩)
  | init =>
    obtain rfl := hinit rfl
    cases h
    exact .inr (.inr ⟨_, rfl, rfl⟩)
  | compare currentMode =>
    simp only [Manager.transaction, hcompare currentMode rfl] at h
    cases h
    exact .inl ⟨_, rfl, by simp⟩
  | refused => exact absurd rfl hpc
  | identify currentMode =>
    cases h
    exact .inl ⟨_, rfl, by simp⟩
  | spawn currentMode transitionId =>
    cases h
    exact .inr (.inl ⟨_, _, rfl, rfl⟩)

end Transaction

/-! ## Steps of a request -/

/-- What a step does for a request without effect: nothing to anyone else, unless the request is
going to be taken. -/
def Harmless (m : VideoStreamManager) (mode : String) (p : Progress) : Prop :=
  (∃ pc, p = ⟨m, .request mode false pc, none, none⟩ ∧ pc.quiet) ∨
    ∃ changed pc, p.call = .request mode changed pc ∧ pc.committed changed

theorem committed_or_quiet {req : ModeRequest} {codecOnly : Bool} :
    (afterCodec req codecOnly).quiet ∨ (afterCodec req codecOnly).committed false := by
  cases codecOnly
  · exact .inl rfl
  · exact .inr rfl

/-- A step of a request that has had no effect. -/
theorem next_quiet {m : VideoStreamManager} {mode : String} {fails : Bool} {pc : StreamModeSet}
    {p : Progress} (hquiet : pc.quiet) (h : pc.next m mode false fails = some p) :
    Harmless m mode p := by
  have hstays : ∀ pc : StreamModeSet, pc.quiet ∨ pc.committed false →
      Harmless m mode ⟨m, .request mode false pc, none, none⟩ := fun pc hpc =>
    hpc.imp (fun hquiet => ⟨pc, rfl, hquiet⟩) fun hcommitted => ⟨false, pc, rfl, hcommitted⟩
  cases pc with
  | constraints =>
    simp only [StreamModeSet.next] at h
    split at h <;> cases h
    · exact hstays _ (.inl rfl)
    · exact hstays _ (.inl rfl)
  | mode req =>
    cases h
    exact hstays _ (.inl rfl)
  | codec req currentMode =>
    cases h
    split
    · exact hstays _ (.inl rfl)
    · exact hstays _ committed_or_quiet
  | set req codecOnly pc =>
    cases pc with
    | compare =>
      simp only [StreamModeSet.next, Webrtc.Streamer.State.setVideoCodec, reduceCtorEq, or_self,
        and_false, if_false, decide_true, Bool.true_and, Bool.false_or] at h
      cases h
      by_cases hsame : m.webrtcStreamer.videoCodec = req.videoCodec.getD .h264
      · rw [if_pos hsame]
        simp only [hsame, ne_eq, not_true_eq_false, decide_false]
        exact hstays _ committed_or_quiet
      · rw [if_neg hsame]
        exact .inr ⟨_, _, rfl, by simpa [inSetVideoCodec, StreamModeSet.committed] using hsame⟩
    | drain | idle | stop | clear | write | ensure => cases hquiet
  | notify req => cases hquiet
  | transaction req pc =>
    obtain rfl := Option.some.inj h
    cases pc with
    | read =>
      by_cases hmode : m.mode = req.newMode
      · by_cases hwebrtc : req.newMode = .webrtc
        · have hstep : m.fields.transaction req.newMode fails .read = (m.fields, .goes .capture) := by
            simp [Manager.transaction, VideoStreamManager.fields, hmode, hwebrtc]
          rw [switchModeTransaction_goes hstep]
          exact hstays _ (.inl rfl)
        · have hstep : m.fields.transaction req.newMode fails .read =
              (m.fields, .returns (some Manager.unchanged)) := by
            simp [Manager.transaction, VideoStreamManager.fields, hmode, hwebrtc]
          rw [switchModeTransaction_returns hstep]
          exact .inr ⟨_, _, rfl, rfl⟩
      · have hstep : m.fields.transaction req.newMode fails .read =
            (m.fields, .goes (.compare m.mode)) := by
          simp [Manager.transaction, VideoStreamManager.fields, hmode]
        rw [switchModeTransaction_goes hstep]
        exact hstays _ (.inl rfl)
    | capture =>
      by_cases hstreamer : m.streamer = .uninitialized
      · have hstep : m.fields.transaction req.newMode fails .capture = (m.fields, .goes .init) := by
          simp [Manager.transaction, VideoStreamManager.fields, hstreamer]
        rw [switchModeTransaction_goes hstep]
        exact hstays _ (.inl rfl)
      · have hstep : m.fields.transaction req.newMode fails .capture =
            (m.fields, .returns (some Manager.unchanged)) := by
          simp [Manager.transaction, VideoStreamManager.fields, hstreamer]
        rw [switchModeTransaction_returns hstep]
        exact .inr ⟨_, _, rfl, rfl⟩
    | init =>
      cases fails with
      | true => exact hstays _ (.inl rfl)
      | false => exact .inr ⟨_, _, rfl, rfl⟩
    | compare currentMode =>
      cases hswitching : m.switching with
      | true =>
        have hstep : m.fields.transaction req.newMode fails (.compare currentMode) =
            (m.fields, .goes .refused) := by
          simp [Manager.transaction, VideoStreamManager.fields, hswitching]
        rw [switchModeTransaction_goes hstep]
        exact hstays _ (.inl rfl)
      | false =>
        have hstep : m.fields.transaction req.newMode fails (.compare currentMode) =
            ({ m.fields with switching := true }, .goes (.identify currentMode)) := by
          simp [Manager.transaction, VideoStreamManager.fields, hswitching]
        rw [switchModeTransaction_goes hstep]
        exact .inr ⟨_, _, rfl, rfl⟩
    | refused => exact hstays _ (.inl rfl)
    | identify | spawn => cases hquiet
  | active req tx =>
    cases h
    cases m.mode with
    | mjpeg => exact hstays _ (.inl hquiet)
    | webrtc => exact hstays _ (.inl hquiet)
  | activeCodec req tx =>
    cases h
    exact hstays _ (.inl hquiet)
  | answered response => cases h

theorem committed_transaction {req : ModeRequest} {pc : Transaction} (hpc : pc ≠ .refused) :
    (StreamModeSet.transaction req pc).committed true := by
  cases pc with
  | refused => exact absurd rfl hpc
  | read | capture | init | compare | identify | spawn => rfl

theorem committed_afterCodec {req : ModeRequest} {codecOnly : Bool} :
    (afterCodec req codecOnly).committed true := by
  cases codecOnly
  · rfl
  · rfl

theorem committed_inSetVideoCodec {req : ModeRequest} {codecOnly : Bool}
    {call : Webrtc.Streamer.Call} : (inSetVideoCodec req codecOnly call).committed true := by
  cases call with
  | setVideoCodec codec pc => rfl
  | _ => exact committed_afterCodec

theorem committed_switching {m : VideoStreamManager} {mode : String} {changed fails : Bool}
    {req : ModeRequest} {pc : Transaction}
    (hcommitted : (StreamModeSet.transaction req pc).committed changed)
    (hok : (Call.request mode changed (.transaction req pc)).RefusedUnchanged m fails) :
    ∃ changed' pc', (m.switchModeTransaction req.newMode fails pc
      (fun pc => .request mode changed (.transaction req pc)) fun result =>
        .request mode changed (result.elim (.answered (.error .videoError)) (.active req))).call =
      .request mode changed' pc' ∧ pc'.committed changed' := by
  cases changed with
  | false =>
    cases pc with
    | identify | spawn => exact ⟨_, _, rfl, rfl⟩
    | read | capture | init | compare | refused => cases hcommitted
  | true =>
    have hpc : pc ≠ .refused := by
      rintro rfl
      cases hcommitted
    have hnext : (StreamModeSet.transaction req pc).refusedNext m fails = false :=
      eq_false_of_ne_true fun hrefused => Bool.noConfusion (hok hrefused)
    cases hstep : m.fields.transaction req.newMode fails pc with
    | mk fields outcome =>
      obtain ⟨next, rfl, hnext⟩ | ⟨switch, tx, rfl, htaken⟩ | ⟨tx, rfl, htaken⟩ :=
        transaction_taken hstep hpc (fun currentMode hcompare => by
          rw [hcompare] at hnext
          exact hnext) fun hinit => by
            rw [hinit] at hnext
            exact hnext
      · rw [switchModeTransaction_goes hstep]
        exact ⟨_, _, rfl, committed_transaction hnext⟩
      · rw [VideoStreamManager.switchModeTransaction, hstep]
        exact ⟨_, _, rfl, htaken⟩
      · rw [switchModeTransaction_returns hstep]
        exact ⟨_, _, rfl, htaken⟩

/-- A request that is going to be taken still is after its next step. -/
theorem next_committed {m : VideoStreamManager} {mode : String} {changed fails : Bool}
    {pc : StreamModeSet} {p : Progress} (hcommitted : pc.committed changed)
    (hok : (Call.request mode changed pc).RefusedUnchanged m fails)
    (h : pc.next m mode changed fails = some p) :
    ∃ changed pc, p.call = .request mode changed pc ∧ pc.committed changed := by
  cases pc with
  | constraints | mode | codec => cases hcommitted
  | set req codecOnly pc =>
    obtain rfl : changed = true := hcommitted
    simp only [StreamModeSet.next] at h
    split at h
    · cases h
    · cases h
      refine ⟨_, _, rfl, ?_⟩
      rw [Bool.true_or]
      exact committed_inSetVideoCodec
  | notify req =>
    cases h
    exact ⟨_, _, rfl, rfl⟩
  | transaction req pc =>
    obtain rfl := Option.some.inj h
    exact committed_switching hcommitted hok
  | active req tx =>
    cases h
    cases m.mode with
    | mjpeg => exact ⟨_, _, rfl, by simpa [StreamModeSet.committed, refuses_respond] using hcommitted⟩
    | webrtc => exact ⟨_, _, rfl, hcommitted⟩
  | activeCodec req tx =>
    cases h
    exact ⟨_, _, rfl, by simpa [StreamModeSet.committed, refuses_respond] using hcommitted⟩
  | answered response => cases h

/-! ## Runs with and without a request -/

/-- The two states differ in task `i` only. -/
def Agree (i : Nat) (s t : State) : Prop :=
  s.manager = t.manager ∧ s.tasks.length = t.tasks.length ∧
    ∀ j, j ≠ i → s.tasks[j]? = t.tasks[j]?

theorem Agree.trans {i : Nat} {s t u : State} (h : Agree i s t) (h' : Agree i t u) :
    Agree i s u :=
  ⟨h.1.trans h'.1, h.2.1.trans h'.2.1, fun j hj => (h.2.2 j hj).trans (h'.2.2 j hj)⟩

theorem agree_append {i : Nat} {s t : State} (h : Agree i s t) (m : VideoStreamManager)
    (more : List Task) : Agree i ⟨m, s.tasks ++ more⟩ ⟨m, t.tasks ++ more⟩ := by
  obtain ⟨-, hlength, htasks⟩ := h
  refine ⟨rfl, ?_, fun j hj => ?_⟩
  · simp only [List.length_append, hlength]
  · simp only [List.getElem?_append, hlength]
    split
    · exact htasks j hj
    · rfl

theorem agree_set {i j : Nat} {s t : State} (h : Agree i s t) (task : Task) :
    Agree i { s with tasks := s.tasks.set j task } { t with tasks := t.tasks.set j task } := by
  obtain ⟨hmanager, hlength, htasks⟩ := h
  refine ⟨hmanager, ?_, fun k hk => ?_⟩
  · simp only [List.length_set, hlength]
  · simp only [List.getElem?_set, hlength, htasks k hk]

/-- A step of another task goes the same way in both states. -/
theorem agree_step {i : Nat} {s t s' : State} {e : Event} (h : Agree i s t) (hother : e.of i = false)
    (hstep : step s e = some s') : ∃ t', step t e = some t' ∧ Agree i s' t' := by
  obtain ⟨manager, tasks⟩ := t
  obtain ⟨rfl, hlength, htasks⟩ := id h
  cases e with
  | streamModeSet mode =>
    cases hstep
    exact ⟨_, rfl, agree_append h s.manager _⟩
  | switchMode newMode =>
    cases hstep
    exact ⟨_, rfl, agree_append h s.manager _⟩
  | webrtc event =>
    obtain ⟨webrtcStreamer, hwebrtc, rfl⟩ := Option.map_eq_some_iff.mp hstep
    refine ⟨⟨{ s.manager with webrtcStreamer }, tasks⟩, ?_, rfl, hlength, htasks⟩
    rw [step, hwebrtc]
    rfl
  | streamer state =>
    cases hstep
    exact ⟨_, rfl, rfl, hlength, htasks⟩
  | captureConfig captureConfig =>
    cases hstep
    exact ⟨_, rfl, rfl, hlength, htasks⟩
  | config config =>
    cases hstep
    exact ⟨_, rfl, rfl, hlength, htasks⟩
  | advance j fails =>
    have hj : j ≠ i := by simpa [Event.of] using hother
    obtain ⟨task, htask, hnext⟩ := Option.bind_eq_some_iff.mp hstep
    split at hnext
    · cases hnext
    · rename_i hwaits
      obtain ⟨p, hp, rfl⟩ := Option.map_eq_some_iff.mp hnext
      refine ⟨⟨p.after, tasks.set j p.task ++ (p.spawned.map ({ call := .switch · })).toList⟩,
        ?_, agree_append (agree_set h p.task) p.after _⟩
      have htask' : tasks[j]? = some task := by rw [← htasks j hj, htask]
      rw [step, htask', Option.bind_some, if_neg hwaits, hp]
      rfl

/-- Up to here task `i` has had no effect, or there is none yet. -/
def Quiet (i : Nat) (s : State) : Prop :=
  ∀ task ∈ s.tasks[i]?, ∃ mode pc, task = ⟨.request mode false pc, none⟩ ∧ pc.quiet

def Call.Committed (call : Call) : Prop :=
  ∀ mode changed pc, call = .request mode changed pc → pc.committed changed

/-- Task `i` is not a request that comes to be refused. -/
def Committed (i : Nat) (s : State) : Prop :=
  ∃ task, s.tasks[i]? = some task ∧ task.call.Committed

/-- A task before its first step. -/
def Task.New (task : Task) : Prop :=
  (∃ mode, task = ⟨.request mode false .constraints, none⟩) ∨ task.call.Committed

/-- A step of another task keeps task `i`; it may be the one that a task is new after. -/
theorem tasks_step {i : Nat} {s s' : State} {e : Event} (hother : e.of i = false)
    (hstep : step s e = some s') :
    ∃ tasks more, s'.tasks = tasks ++ more ∧ tasks.length = s.tasks.length ∧
      tasks[i]? = s.tasks[i]? ∧ ∀ task ∈ more, task.New := by
  cases e with
  | streamModeSet mode =>
    cases hstep
    refine ⟨_, _, rfl, rfl, rfl, fun task htask => ?_⟩
    exact .inl ⟨mode, List.mem_singleton.mp htask⟩
  | switchMode newMode =>
    cases hstep
    refine ⟨_, _, rfl, rfl, rfl, fun task htask => .inr ?_⟩
    rw [List.mem_singleton.mp htask]
    intro mode changed pc hcall
    cases hcall
  | webrtc event =>
    obtain ⟨webrtcStreamer, -, rfl⟩ := Option.map_eq_some_iff.mp hstep
    exact ⟨_, [], (List.append_nil _).symm, rfl, rfl, by simp⟩
  | streamer | captureConfig | config =>
    cases hstep
    exact ⟨_, [], (List.append_nil _).symm, rfl, rfl, by simp⟩
  | advance j fails =>
    have hj : j ≠ i := by simpa [Event.of] using hother
    obtain ⟨task, -, hnext⟩ := Option.bind_eq_some_iff.mp hstep
    split at hnext
    · cases hnext
    · obtain ⟨p, -, rfl⟩ := Option.map_eq_some_iff.mp hnext
      refine ⟨_, _, rfl, List.length_set, List.getElem?_set_ne hj, fun task htask => .inr ?_⟩
      obtain ⟨switch, -, rfl⟩ := Option.map_eq_some_iff.mp (Option.mem_toList.mp htask)
      intro mode changed pc hcall
      cases hcall

theorem committed_other {i : Nat} {s s' : State} {e : Event} (h : Committed i s)
    (hother : e.of i = false) (hstep : step s e = some s') : Committed i s' := by
  obtain ⟨task, htask, hcommitted⟩ := h
  obtain ⟨tasks, more, hmore, -, hkept, -⟩ := tasks_step hother hstep
  rw [htask] at hkept
  refine ⟨task, ?_, hcommitted⟩
  rw [hmore, List.getElem?_append_left (List.getElem?_eq_some_iff.mp hkept).1, hkept]

theorem quiet_other {i : Nat} {s s' : State} {e : Event} (h : Quiet i s)
    (hother : e.of i = false) (hstep : step s e = some s') : Quiet i s' ∨ Committed i s' := by
  obtain ⟨tasks, more, hmore, hlength, hkept, hnew⟩ := tasks_step hother hstep
  by_cases hi : i < tasks.length
  · refine .inl fun task htask => h task ?_
    rw [Option.mem_def, hmore, List.getElem?_append_left hi, hkept] at htask
    exact htask
  · cases hmem : more[i - tasks.length]? with
    | none =>
      refine .inl fun task htask => ?_
      rw [Option.mem_def, hmore, List.getElem?_append_right (Nat.le_of_not_lt hi), hmem] at htask
      cases htask
    | some task =>
      have htask : s'.tasks[i]? = some task := by
        rw [hmore, List.getElem?_append_right (Nat.le_of_not_lt hi), hmem]
      rcases hnew task (List.mem_of_getElem? hmem) with ⟨mode, rfl⟩ | hcommitted
      · refine .inl fun other hother => ?_
        rw [Option.mem_def, htask] at hother
        cases hother
        exact ⟨mode, _, rfl, rfl⟩
      · exact .inr ⟨task, htask, hcommitted⟩

theorem after_stays (m : VideoStreamManager) (call : Call) (spawned : Option Switch) :
    (Progress.mk m call none spawned).after = m := by
  simp only [Progress.after, Option.toList_none, List.append_nil]

/-- A step of task `i` while it has had no effect. -/
theorem quiet_own {i : Nat} {fails : Bool} {s s' : State} (h : Quiet i s)
    (hstep : step s (.advance i fails) = some s') :
    (Quiet i s' ∧ Agree i s' s) ∨ Committed i s' := by
  obtain ⟨task, htask, hnext⟩ := Option.bind_eq_some_iff.mp hstep
  obtain ⟨mode, pc, rfl, hquiet⟩ := h task htask
  split at hnext
  · cases hnext
  · obtain ⟨p, hp, rfl⟩ := Option.map_eq_some_iff.mp hnext
    have hi : i < s.tasks.length := (List.getElem?_eq_some_iff.mp htask).1
    have hself : (s.tasks.set i p.task ++ (p.spawned.map ({ call := .switch · })).toList)[i]? =
        some p.task := by
      rw [List.getElem?_append_left (by simpa using hi), List.getElem?_set_self hi]
    rcases next_quiet hquiet hp with ⟨pc', rfl, hquiet'⟩ | ⟨changed, pc', hcall, hcommitted⟩
    · refine .inl ⟨fun task htask => ?_, ?_⟩
      · rw [Option.mem_def, hself] at htask
        cases htask
        exact ⟨mode, pc', rfl, hquiet'⟩
      · refine ⟨after_stays _ _ _, by simp, fun j hj => ?_⟩
        simp only [Option.map_none, Option.toList_none, List.append_nil]
        exact List.getElem?_set_ne (Ne.symm hj)
    · refine .inr ⟨_, hself, fun mode' changed' pc'' hcall' => ?_⟩
      rw [show p.task.call = p.call from rfl, hcall] at hcall'
      cases hcall'
      exact hcommitted

theorem committed_next {m : VideoStreamManager} {fails : Bool} {call : Call} {p : Progress}
    (h : call.Committed) (hok : call.RefusedUnchanged m fails) (hp : call.next m fails = some p) :
    p.call.Committed := by
  cases call with
  | request mode changed pc =>
    obtain ⟨changed', pc', hcall, hcommitted⟩ := next_committed (h mode changed pc rfl) hok hp
    intro mode' changed'' pc'' hcall'
    rw [hcall] at hcall'
    cases hcall'
    exact hcommitted
  | switchMode newMode pc =>
    obtain rfl := Option.some.inj hp
    intro mode changed pc' hcall
    unfold VideoStreamManager.switchModeTransaction at hcall
    split at hcall <;> cases hcall
  | switch task =>
    obtain rfl := Option.some.inj hp
    intro mode changed pc' hcall
    cases hpc : (m.fields.doSwitchMode task fails task.pc).2 with
    | none =>
      rw [hpc] at hcall
      cases hcall
    | some pc =>
      rw [hpc] at hcall
      cases hcall
  | returned => cases hp

theorem committed_own {i : Nat} {fails : Bool} {s s' : State} (h : Committed i s)
    (hok : StepOk s (.advance i fails)) (hstep : step s (.advance i fails) = some s') :
    Committed i s' := by
  obtain ⟨task, htask, hcommitted⟩ := h
  rw [step, htask, Option.bind_some] at hstep
  split at hstep
  · cases hstep
  · obtain ⟨p, hp, rfl⟩ := Option.map_eq_some_iff.mp hstep
    have hi : i < s.tasks.length := (List.getElem?_eq_some_iff.mp htask).1
    refine ⟨p.task, ?_, ?_⟩
    · rw [List.getElem?_append_left (by simpa using hi), List.getElem?_set_self hi]
    · exact committed_next hcommitted (hok task htask) hp

/-! ## Refused requests are unfelt -/

theorem of_eq_true {i : Nat} {e : Event} (h : e.of i = true) : ∃ fails, e = .advance i fails := by
  cases e with
  | advance j fails => exact ⟨fails, by rw [eq_of_beq h]⟩
  | _ => cases h

theorem committed_run {i : Nat} {events : List Event} {s s' : State} (h : Committed i s)
    (hrun : events.foldlM stepOk s = some s') : Committed i s' := by
  induction events generalizing s with
  | nil =>
    cases hrun
    exact h
  | cons e events ih =>
    rw [List.foldlM_cons] at hrun
    obtain ⟨u, hu, hrest⟩ := Option.bind_eq_some_iff.mp hrun
    obtain ⟨hok, hstep⟩ := stepOk_eq_some hu
    cases hother : e.of i with
    | true =>
      obtain ⟨fails, rfl⟩ := of_eq_true hother
      exact ih (committed_own h hok hstep) hrest
    | false => exact ih (committed_other h hother hstep) hrest

/-- Either task `i` comes to no refusal, or the run without its steps reaches a state that differs
in it only. -/
theorem run_related {i : Nat} {events : List Event} {s t s' : State} (hquiet : Quiet i s)
    (hagree : Agree i s t) (hrun : events.foldlM stepOk s = some s') :
    Committed i s' ∨ Quiet i s' ∧
      ∃ t', (events.filter (!·.of i)).foldlM step t = some t' ∧ Agree i s' t' := by
  induction events generalizing s t with
  | nil =>
    cases hrun
    exact .inr ⟨hquiet, t, rfl, hagree⟩
  | cons e events ih =>
    rw [List.foldlM_cons] at hrun
    obtain ⟨u, hu, hrest⟩ := Option.bind_eq_some_iff.mp hrun
    obtain ⟨hok, hstep⟩ := stepOk_eq_some hu
    cases hother : e.of i with
    | true =>
      obtain ⟨fails, rfl⟩ := of_eq_true hother
      rw [List.filter_cons_of_neg (by simp [hother])]
      rcases quiet_own hquiet hstep with ⟨hquiet', hagree'⟩ | hcommitted
      · exact ih hquiet' (hagree'.trans hagree) hrest
      · exact .inl (committed_run hcommitted hrest)
    | false =>
      obtain ⟨v, hv, hagree'⟩ := agree_step hagree hother hstep
      rcases quiet_other hquiet hother hstep with hquiet' | hcommitted
      · rw [List.filter_cons_of_pos (by simp [hother]), List.foldlM_cons, hv]
        exact ih hquiet' hagree' hrest
      · exact .inl (committed_run hcommitted hrest)

/-- **Refusals are unfelt.** In every run in which the transaction refuses no request that has
changed the codec, the mode, the codec and the sessions are those of the run without the steps of
any one request that has been refused. -/
theorem refusals_unfelt {start s : State} {events : List Event} (hinit : Init start)
    (hrun : events.foldlM stepOk start = some s) : RefusalsUnfelt start events s := by
  intro i mode changed response awaits htask hrefuses
  have hnone : start.tasks[i]? = none := by rw [hinit.2.2]; rfl
  rcases run_related (i := i) (fun task htask => by rw [hnone] at htask; cases htask)
      ⟨rfl, rfl, fun _ _ => rfl⟩ hrun with
    ⟨task, htask', hcommitted⟩ | ⟨-, t, ht, hagree⟩
  · rw [htask] at htask'
    cases htask'
    have htaken := hcommitted mode changed _ rfl
    simp [StreamModeSet.committed, hrefuses] at htaken
  · exact ⟨t, ht, by rw [hagree.1], by rw [hagree.1], by rw [hagree.1]⟩

/-! ## Runs -/

/-- A manager in MJPEG mode that captures YUYV; its codec is H.264. -/
def idle : State where
  manager :=
    { mode := .mjpeg
      captureConfig := (⟨1280, 720⟩, .yuyv, 30)
      config := { rustdesk := { deviceId := "123456789", devicePassword := "secret" } }
      webrtcStreamer := { config := .default } }

theorem init_idle : Init idle := ⟨⟨_, _, _, rfl⟩, rfl, rfl⟩

/-- The answer to a request during the first switch. -/
def inProgress : StreamModeResponse where
  success := false
  mode := "mjpeg"
  transitionId := some 0
  switching := true
  message := "Mode switch already in progress"

/-- Two requests for H.264; the second is refused while the switch of the first is in progress. -/
theorem h264_unfelt :
    let events : List Event := [.streamModeSet "h264", .streamModeSet "webrtc"] ++
      List.replicate 8 (.advance 0 false) ++ List.replicate 8 (.advance 1 false)
    ∃ s, events.foldlM stepOk idle = some s ∧ RefusalsUnfelt idle events s ∧
      s.tasks[1]? = some ⟨.request "webrtc" false (.answered (.ok inProgress)), none⟩ := by
  intro events
  have hrun : (events.foldlM stepOk idle).any (fun s =>
      s.tasks[1]? = some ⟨.request "webrtc" false (.answered (.ok inProgress)), none⟩) := by
    decide +kernel
  obtain ⟨s, hrun, hanswer⟩ := (Option.any_eq_true _ _).mp hrun
  exact ⟨s, hrun, refusals_unfelt init_idle hrun, of_decide_eq_true hanswer⟩

/-- The second request is for H.265 and in mode MJPEG: it changes the codec and is refused. -/
theorem h265_felt :
    ¬∀ (start s : State) (events : List Event), Init start → events.foldlM step start = some s →
      RefusalsUnfelt start events s := by
  intro h
  let events : List Event := [.streamModeSet "h264", .streamModeSet "h265"] ++
    List.replicate 8 (.advance 0 false) ++ List.replicate 15 (.advance 1 false)
  have hrun : (events.foldlM step idle).any (fun s =>
      s.tasks[1]? = some ⟨.request "h265" true (.answered (.ok inProgress)), none⟩ ∧
        s.manager.webrtcStreamer.videoCodec = .h265) := by
    decide +kernel
  have hwithout : ((events.filter (!·.of 1)).foldlM step idle).any (fun t =>
      t.manager.webrtcStreamer.videoCodec = .h264) := by
    decide +kernel
  obtain ⟨s, hrun, hs⟩ := (Option.any_eq_true _ _).mp hrun
  obtain ⟨hanswer, hcodec⟩ := of_decide_eq_true hs
  obtain ⟨t, ht, hcodec'⟩ := (Option.any_eq_true _ _).mp hwithout
  obtain ⟨t', ht', -, hsame, -⟩ := h idle s events init_idle hrun 1 _ _ _ _ hanswer rfl
  rw [ht] at ht'
  cases ht'
  rw [hcodec, of_decide_eq_true hcodec'] at hsame
  cases hsame

end StreamBox.Web.RefusedRequests
