import StreamBox.Video.CodecConstraints
import StreamBox.Video.Streamer

/-!
# Switching the stream mode

`VideoStreamManager` keeps the mode under a lock and a flag that marks a switch in progress.
`switch_mode_transaction` runs in its caller up to the task that it spawns, `do_switch_mode`
in that task; a step is what happens between two accesses to what others share. The events
that both publish are left out.
-/

namespace StreamBox.Video.StreamManager

open StreamBox.Config StreamBox.Video.Streamer

structure Manager where
  mode : StreamMode
  switching : Bool := false
  transitionId : Option Nat := none
  /-- How many transition ids there are. -/
  issued : Nat := 0
  streamer : StreamerState := .uninitialized
  /-- The codec of the WebRTC streamer. -/
  videoCodec : VideoCodecType := .h264
  config : AppConfig
  deriving DecidableEq, Repr

structure ModeSwitchTransaction where
  accepted : Bool
  switching : Bool
  transitionId : Option Nat
  deriving DecidableEq, Repr

/-- Where the task is; its tail knows whether `do_switch_mode` has failed. -/
inductive DoSwitchMode
  | stop | write
  | format | start
  | init
  | get
  | set (config : AppConfig)
  | clear (failed : Bool)
  | release (failed : Bool)
  deriving DecidableEq, Repr

structure Switch where
  currentMode : StreamMode
  newMode : StreamMode
  transitionId : Nat
  pc : DoSwitchMode := .stop
  deriving DecidableEq, Repr

/-- Where `switch_mode_transaction` is; `capture` and `init` are in
`ensure_video_capture_running`. -/
inductive Transaction
  | read
  | capture | init
  | compare (currentMode : StreamMode)
  | refused
  | identify (currentMode : StreamMode)
  | spawn (currentMode : StreamMode) (transitionId : Nat)
  deriving DecidableEq, Repr

/-- What comes of a step of `switch_mode_transaction`; an error has no result. -/
inductive Outcome
  | goes (pc : Transaction)
  | spawns (switch : Switch) (result : ModeSwitchTransaction)
  | returns (result : Option ModeSwitchTransaction)
  deriving DecidableEq, Repr

namespace Manager

/-- What a caller gets that is in the mode already. -/
def unchanged : ModeSwitchTransaction where
  accepted := false
  switching := false
  transitionId := none

def transaction (m : Manager) (newMode : StreamMode) (fails : Bool) :
    Transaction → Manager × Outcome
  | .read =>
    if m.mode = newMode then
      (m, if newMode = .webrtc then .goes .capture else .returns (some unchanged))
    else (m, .goes (.compare m.mode))
  | .capture =>
    (m, if m.streamer = .uninitialized then .goes .init else .returns (some unchanged))
  | .init =>
    if fails then (m, .returns none)
    else ({ m with streamer := .ready }, .returns (some unchanged))
  | .compare currentMode =>
    if m.switching then (m, .goes .refused)
    else ({ m with switching := true }, .goes (.identify currentMode))
  | .refused =>
    (m, .returns (some { accepted := false, switching := true, transitionId := m.transitionId }))
  | .identify currentMode =>
    ({ m with transitionId := some m.issued, issued := m.issued + 1 },
      .goes (.spawn currentMode m.issued))
  | .spawn currentMode transitionId =>
    (m, .spawns { currentMode, newMode, transitionId }
      { accepted := true, switching := true, transitionId := some transitionId })

/-- A step of the task of a switch, until it ends. -/
def doSwitchMode (m : Manager) (switch : Switch) (fails : Bool) :
    DoSwitchMode → Manager × Option DoSwitchMode
  | .stop =>
    match switch.currentMode with
    | .mjpeg => ({ m with streamer := .ready }, some .write)
    | .webrtc => (m, some .write)
  | .write =>
    ({ m with mode := switch.newMode },
      some (match switch.newMode with
        | .mjpeg => .format
        | .webrtc => .init))
  -- the format is applied where the device has it and no error comes up
  | .format => (if fails then m else { m with streamer := .ready }, some .start)
  | .start =>
    if m.streamer = .streaming then (m, some .get)
    else if fails then (m, some (.clear true))
    else ({ m with streamer := .streaming }, some .get)
  | .init =>
    if m.streamer = .uninitialized then
      if fails then (m, some (.clear true)) else ({ m with streamer := .ready }, some .get)
    else (m, some .get)
  | .get => (m, some (.set { m.config with stream := { mode := switch.newMode } }))
  | .set config => (if fails then m else { m with config }, some (.clear false))
  | .clear failed => ({ m with transitionId := none }, some (.release failed))
  | .release _ => ({ m with switching := false }, none)

/-! ## What a step may change -/

theorem transaction_keeps {m m' : Manager} {newMode : StreamMode} {fails : Bool}
    {pc : Transaction} {outcome : Outcome}
    (h : m.transaction newMode fails pc = (m', outcome)) :
    m'.mode = m.mode ∧ m'.config = m.config ∧ m'.videoCodec = m.videoCodec := by
  cases pc with
  | read | init | compare =>
    simp only [transaction] at h
    split at h <;> cases h <;> exact ⟨rfl, rfl, rfl⟩
  | capture | refused | identify | spawn =>
    cases h
    exact ⟨rfl, rfl, rfl⟩

/-- Only a caller that finds no switch in progress sets the flag. -/
theorem transaction_switching {m m' : Manager} {newMode : StreamMode} {fails : Bool}
    {pc : Transaction} {outcome : Outcome}
    (h : m.transaction newMode fails pc = (m', outcome)) :
    m'.switching = m.switching ∨ ∃ currentMode, pc = .compare currentMode ∧
      m.switching = false ∧ m'.switching = true ∧ outcome = .goes (.identify currentMode) := by
  cases pc with
  | compare currentMode =>
    simp only [transaction] at h
    split at h <;> cases h
    · exact .inl rfl
    · rename_i hfree
      exact .inr ⟨currentMode, rfl, by simpa using hfree, rfl, rfl⟩
  | read | init =>
    simp only [transaction] at h
    split at h <;> cases h <;> exact .inl rfl
  | capture | refused | identify | spawn =>
    cases h
    exact .inl rfl

/-- The task writes the mode at one step and the configuration at another. -/
theorem doSwitchMode_writes {m m' : Manager} {switch : Switch} {fails : Bool}
    {pc : DoSwitchMode} {next : Option DoSwitchMode}
    (h : m.doSwitchMode switch fails pc = (m', next)) :
    m'.mode = (if pc = .write then switch.newMode else m.mode) ∧
      m'.config = (match pc with
        | .set config => if fails then m.config else config
        | _ => m.config) ∧
      m'.videoCodec = m.videoCodec := by
  cases pc with
  | stop | start | init =>
    simp only [doSwitchMode] at h
    repeat' split at h
    all_goals cases h; exact ⟨rfl, rfl, rfl⟩
  | format | set =>
    cases h
    split <;> exact ⟨rfl, rfl, rfl⟩
  | write | get | clear | release =>
    cases h
    exact ⟨rfl, rfl, rfl⟩

end Manager

end StreamBox.Video.StreamManager
