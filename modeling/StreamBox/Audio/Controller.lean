import Mathlib.Data.List.Infix
import StreamBox.Lib.TSys

/-!
# The audio controller and its streamers

A streamer captures in a thread of its own and encodes in a task of its own; the controller stores
the one that streams. Its calls, the capture threads and the streaming tasks take turns in any
order; a step of theirs is what happens between two accesses to what they share. A call that
only looks at the stored streamer waits while `stop_streaming` holds its lock.
-/

namespace StreamBox.Audio

open StreamBox.Lib

inductive AudioQuality
  | voice | balanced | high
  deriving DecidableEq, Repr

/-- The bitrate of a quality, which is also that of its Opus configuration. -/
def AudioQuality.bitrate : AudioQuality → Nat
  | .voice => 32000
  | .balanced => 64000
  | .high => 128000

structure AudioControllerConfig where
  enabled : Bool := false
  device : String := "default"
  quality : AudioQuality := .balanced
  deriving DecidableEq, Repr

structure AudioDeviceInfo where
  name : String
  description : String
  deriving DecidableEq, Repr

/-! ## Streamers -/

inductive CaptureState
  | stopped | running | error
  deriving DecidableEq, Repr

/-- Where `capture_loop` is: its thread is not spawned, has no device yet, captures, has
returned. -/
inductive CaptureThread
  | unspawned | opening | capturing | ended
  deriving DecidableEq, Repr

structure AudioCapturer where
  state : CaptureState := .stopped
  stopFlag : Bool := false
  thread : CaptureThread := .unspawned
  deriving DecidableEq, Repr

inductive AudioStreamState
  | stopped | starting | running | error
  deriving DecidableEq, Repr

/-- Where `stream_task` is: not spawned, before it says that it runs, in its loop, past its
loop, returned. -/
inductive StreamTask
  | unspawned | begun | running | leaving | ended
  deriving DecidableEq, Repr

/-- A streamer; its threads keep its capturer when `stop` lets go of it. -/
structure AudioStreamer where
  device : String
  bitrate : Nat
  state : AudioStreamState := .stopped
  stopFlag : Bool := false
  encoder : Bool := false
  capturer : AudioCapturer := {}
  task : StreamTask := .unspawned
  deriving DecidableEq, Repr

/-- The streamer has a capture thread that has not returned. -/
def AudioStreamer.alive (x : AudioStreamer) : Bool :=
  x.capturer.thread == .opening || x.capturer.thread == .capturing

/-! ## The calls -/

/-- `start_streaming`, with its copy of the configuration, then with the streamer it creates. -/
inductive Start
  | config
  | check (config : AudioControllerConfig)
  | create (config : AudioControllerConfig)
  | capture (x : Nat)
  | spawn (x : Nat)
  | store (x : Nat)
  deriving DecidableEq, Repr

/-- `stop_streaming`, which holds the lock of the stored streamer while it stops the one it has
taken. -/
inductive Stop
  | take
  | signal (x : Nat)
  | wait (x : Nat)
  | clear (x : Nat)
  deriving DecidableEq, Repr

inductive SetEnabled
  | write (enabled : Bool)
  | check (enabled : Bool)
  | stop (pc : Stop)
  deriving DecidableEq, Repr

inductive SelectDevice
  | list (device : String)
  | write (device : String)
  | check
  | stop (pc : Stop)
  | start (pc : Start)
  deriving DecidableEq, Repr

inductive SetQuality
  | write (quality : AudioQuality)
  | bitrate (quality : AudioQuality)
  deriving DecidableEq, Repr

inductive UpdateConfig
  | check (config : AudioControllerConfig)
  | stop (config : AudioControllerConfig) (pc : Stop)
  | write (config : AudioControllerConfig)
  | start (pc : Start)
  deriving DecidableEq, Repr

/-- A call of the controller; one that has returned keeps its error. -/
inductive Call
  | start (pc : Start)
  | stop (pc : Stop)
  | setEnabled (pc : SetEnabled)
  | selectDevice (pc : SelectDevice)
  | setQuality (pc : SetQuality)
  | updateConfig (pc : UpdateConfig)
  | returned (error : Option String)
  deriving DecidableEq, Repr

structure State where
  config : AudioControllerConfig := {}
  /-- The streamer that is stored. -/
  streamer : Option Nat := none
  /-- The call that holds its lock while it stops a streamer. -/
  lock : Option Nat := none
  lastError : Option String := none
  devices : List AudioDeviceInfo := []
  /-- Every streamer there ever was, in order. -/
  streamers : List AudioStreamer := []
  calls : List Call := []
  deriving DecidableEq, Repr

/-- What a step meets outside: the devices that are listed, and whether the encoder fails. -/
structure Env where
  devices : Except String (List AudioDeviceInfo) := .ok []
  encoder : Except String Unit := .ok ()

/-- Where a call is after a step. -/
inductive Progress (pc : Type)
  | goes (pc : pc)
  | returns (error : Option String)
  deriving Repr

namespace State

def update (s : State) (x : Nat) (f : AudioStreamer → AudioStreamer) : State :=
  { s with streamers := s.streamers.modify x f }

/-- The state of a streamer. -/
def streamState (s : State) (x : Nat) : AudioStreamState :=
  (s.streamers[x]?.map (·.state)).getD .stopped

def alive (s : State) (x : Nat) : Bool :=
  s.streamers[x]?.any (·.alive)

/-- The stored streamer says that it runs. -/
def isStreaming (s : State) : Bool :=
  s.streamer.any fun x => s.streamState x == .running

/-- A step of `start_streaming`. Starting a streamer that nobody else has is one step up to its
capturer. -/
def startStreaming (s : State) (env : Env) : Start → Option (State × Progress Start)
  | .config =>
    if s.config.enabled then some (s, .goes (.check s.config))
    else some (s, .returns (some "Audio is disabled"))
  | .check config =>
    if s.lock = none then
      if s.isStreaming then some (s, .returns none)
      else some ({ s with lastError := none }, .goes (.create config))
    else none
  | .create config =>
    let x : AudioStreamer :=
      { device := config.device, bitrate := config.quality.bitrate, state := .starting }
    match env.encoder with
    | .ok () =>
      some ({ s with streamers := s.streamers ++ [{ x with encoder := true }] },
        .goes (.capture s.streamers.length))
    | .error e =>
      let error := s!"Failed to start audio: {e}"
      some ({ s with streamers := s.streamers ++ [x], lastError := some error },
        .returns (some error))
  | .capture x =>
    some (s.update x fun streamer =>
      { streamer with capturer := { streamer.capturer with thread := .opening } }, .goes (.spawn x))
  | .spawn x => some (s.update x ({ · with task := .begun }), .goes (.store x))
  | .store x => if s.lock = none then some ({ s with streamer := some x }, .returns none) else none

/-- A step of `stop_streaming` as call `i`. -/
def stopStreaming (s : State) (i : Nat) : Stop → Option (State × Progress Stop)
  | .take =>
    if s.lock = none then
      match s.streamer with
      | some x => some ({ s with streamer := none, lock := some i }, .goes (.signal x))
      | none => some (s, .returns none)
    else none
  | .signal x =>
    if s.streamState x = .stopped then some ({ s with lock := none }, .returns none)
    else
      some (s.update x fun streamer =>
        { streamer with
          stopFlag := true
          capturer := { streamer.capturer with stopFlag := true } }, .goes (.wait x))
  | .wait x =>
    if s.alive x then none
    else
      some (s.update x fun streamer =>
        { streamer with capturer := { streamer.capturer with state := .stopped } },
        .goes (.clear x))
  | .clear x =>
    some ({ s.update x ({ · with encoder := false, state := .stopped }) with lock := none },
      .returns none)

def setEnabled (s : State) (i : Nat) : SetEnabled → Option (State × Progress SetEnabled)
  | .write enabled =>
    some ({ s with config := { s.config with enabled } }, .goes (.check enabled))
  | .check enabled =>
    if enabled then some (s, .returns none)
    else if s.lock = none then
      if s.isStreaming then some (s, .goes (.stop .take)) else some (s, .returns none)
    else none
  | .stop pc =>
    (s.stopStreaming i pc).map fun (t, progress) =>
      match progress with
      | .goes pc => (t, .goes (.stop pc))
      | .returns error => (t, .returns error)

def selectDevice (s : State) (i : Nat) (env : Env) :
    SelectDevice → Option (State × Progress SelectDevice)
  | .list device =>
    if s.lock = none then
      match env.devices with
      | .error e => some (s, .returns (some e))
      | .ok devices =>
        let found := devices.any fun d =>
          d.name == device || decide (device.toList <:+: d.description.toList)
        let s := { s with devices }
        if !found && device != "default" then
          some (s, .returns (some s!"Audio device not found: {device}"))
        else some (s, .goes (.write device))
    else none
  | .write device => some ({ s with config := { s.config with device } }, .goes .check)
  | .check =>
    if s.lock = none then
      if s.isStreaming then some (s, .goes (.stop .take)) else some (s, .returns none)
    else none
  | .stop pc =>
    (s.stopStreaming i pc).map fun (t, progress) =>
      match progress with
      | .goes pc => (t, .goes (.stop pc))
      | .returns _ => (t, .goes (.start .config))
  | .start pc =>
    (s.startStreaming env pc).map fun (t, progress) =>
      match progress with
      | .goes pc => (t, .goes (.start pc))
      | .returns error => (t, .returns error)

/-- A step of `set_quality`; the encoder may refuse the bitrate. -/
def setQuality (s : State) (env : Env) : SetQuality → Option (State × Progress SetQuality)
  | .write quality =>
    some ({ s with config := { s.config with quality } }, .goes (.bitrate quality))
  | .bitrate quality =>
    if s.lock = none then
      match s.streamer with
      | some x =>
        let t := s.update x ({ · with bitrate := quality.bitrate })
        match s.streamers[x]?.any (·.encoder), env.encoder with
        | true, .error e => some (t, .returns (some e))
        | _, _ => some (t, .returns none)
      | none => some (s, .returns none)
    else none

def updateConfig (s : State) (i : Nat) (env : Env) :
    UpdateConfig → Option (State × Progress UpdateConfig)
  | .check config =>
    if s.lock = none then
      if s.isStreaming then some (s, .goes (.stop config .take)) else some (s, .goes (.write config))
    else none
  | .stop config pc =>
    (s.stopStreaming i pc).map fun (t, progress) =>
      match progress with
      | .goes pc => (t, .goes (.stop config pc))
      | .returns _ => (t, .goes (.write config))
  | .write config =>
    let t := { s with config }
    if config.enabled then some (t, .goes (.start .config)) else some (t, .returns none)
  | .start pc =>
    (s.startStreaming env pc).map fun (t, progress) =>
      match progress with
      | .goes pc => (t, .goes (.start pc))
      | .returns error => (t, .returns error)

end State

/-- The call after a step, which is `f pc` where it goes on at `pc`. -/
def Progress.call {pc : Type} (f : pc → Call) : Progress pc → Call
  | .goes pc => f pc
  | .returns error => .returned error

/-- The next step of call `i`, unless it waits. -/
def State.next (s : State) (i : Nat) (env : Env) : Call → Option (State × Call)
  | .start pc => (s.startStreaming env pc).map fun (t, progress) => (t, progress.call .start)
  | .stop pc => (s.stopStreaming i pc).map fun (t, progress) => (t, progress.call .stop)
  | .setEnabled pc => (s.setEnabled i pc).map fun (t, progress) => (t, progress.call .setEnabled)
  | .selectDevice pc =>
    (s.selectDevice i env pc).map fun (t, progress) => (t, progress.call .selectDevice)
  | .setQuality pc => (s.setQuality env pc).map fun (t, progress) => (t, progress.call .setQuality)
  | .updateConfig pc =>
    (s.updateConfig i env pc).map fun (t, progress) => (t, progress.call .updateConfig)
  | .returned _ => none

/-! ## The threads and tasks -/

inductive CaptureStep
  | opens | openFails | stops
  deriving DecidableEq, Repr

/-- A step of `capture_loop`, which errors do not end once the device is open. -/
def AudioCapturer.step (c : AudioCapturer) : CaptureStep → Option AudioCapturer
  | .opens =>
    if c.thread = .opening then some { c with thread := .capturing, state := .running } else none
  | .openFails =>
    if c.thread = .opening then some { c with thread := .ended, state := .error } else none
  | .stops =>
    if c.thread = .capturing ∧ c.stopFlag then some { c with thread := .ended, state := .stopped }
    else none

inductive TaskStep
  | begins | stopped | captureError | timeout | exit
  deriving DecidableEq, Repr

/-- A step of `stream_task`; its loop goes on while frames come. -/
def AudioStreamer.taskStep (x : AudioStreamer) : TaskStep → Option AudioStreamer
  | .begins => if x.task = .begun then some { x with task := .running, state := .running } else none
  | .stopped => if x.task = .running ∧ x.stopFlag then some { x with task := .leaving } else none
  | .captureError =>
    if x.task = .running ∧ x.capturer.state = .error then
      some { x with task := .leaving, state := .error }
    else none
  | .timeout =>
    if x.task = .running ∧ x.capturer.state ≠ .running then some { x with task := .leaving }
    else none
  | .exit => if x.task = .leaving then some { x with task := .ended, state := .stopped } else none

inductive Event
  | startStreaming | stopStreaming
  | setEnabled (enabled : Bool)
  | selectDevice (device : String)
  | setQuality (quality : AudioQuality)
  | updateConfig (config : AudioControllerConfig)
  | advance (i : Nat) (env : Env)
  | capture (x : Nat) (step : CaptureStep)
  | task (x : Nat) (step : TaskStep)

def State.call (s : State) (call : Call) : State :=
  { s with calls := s.calls ++ [call] }

def step (s : State) : Event → Option State
  | .startStreaming => some (s.call (.start .config))
  | .stopStreaming => some (s.call (.stop .take))
  | .setEnabled enabled => some (s.call (.setEnabled (.write enabled)))
  | .selectDevice device => some (s.call (.selectDevice (.list device)))
  | .setQuality quality => some (s.call (.setQuality (.write quality)))
  | .updateConfig config => some (s.call (.updateConfig (.check config)))
  | .advance i env =>
    s.calls[i]?.bind fun call =>
      (s.next i env call).map fun (t, call) => { t with calls := s.calls.set i call }
  | .capture x e =>
    s.streamers[x]?.bind fun streamer =>
      (streamer.capturer.step e).map fun capturer => s.update x ({ · with capturer })
  | .task x e =>
    s.streamers[x]?.bind fun streamer =>
      (streamer.taskStep e).map fun streamer => s.update x fun _ => streamer

/-- The runs of a controller with any configuration. -/
def system : TSys State Event :=
  .ofFn (fun s => ∃ config, s = { config }) step

end StreamBox.Audio
