import Mathlib.Data.List.Basic
import Mathlib.Logic.Basic
import StreamBox.Lib.TSys

/-!
# The streamer and its capture loop

`start` runs `run_direct_capture` in a thread of its own and `stop` waits for it; the loop
ends on errors, without clients and when the device is lost, which starts a task that
restarts the capture. The calls, the loops and the recovery tasks take turns in any order;
a step of theirs is what happens between two accesses to what they share.
-/

namespace StreamBox.Video.Streamer

open StreamBox.Lib

inductive StreamerState
  | uninitialized | ready | streaming | noSignal | error | deviceLost | recovering
  deriving DecidableEq, Repr

/-- Where `run_direct_capture` is: before it has a stream, in its inner loop, past its loops,
returned. -/
inductive Phase
  | opening | capturing | leaving | gone
  deriving DecidableEq, Repr

structure CaptureLoop where
  phase : Phase := .opening
  lastState : StreamerState := .streaming
  signalPresent : Bool := true
  deriving DecidableEq, Repr

/-! ## The calls -/

inductive Start
  | acquire | decide | init | device | spawn
  | handle (loop : Nat)
  | write (loop : Nat)
  deriving DecidableEq, Repr

/-- `stop`; while it waits for a loop it holds the lock of the handle. -/
inductive Stop
  | flag | take
  | wait (loop : Nat)
  | inactive | write
  deriving DecidableEq, Repr

inductive ApplyVideoConfig
  | check
  | stop (pc : Stop)
  | write
  deriving DecidableEq, Repr

/-- `start_device_recovery_internal` and the task that it spawns. -/
inductive Recovery
  | begin | check | write | restart
  | start (pc : Start)
  | poll (left : Nat)
  | finish
  deriving DecidableEq, Repr

inductive Call
  | start (pc : Start)
  | stop (pc : Stop)
  | applyVideoConfig (pc : ApplyVideoConfig)
  | recovery (pc : Recovery)
  | returned
  deriving DecidableEq, Repr

structure State where
  state : StreamerState := .uninitialized
  currentDevice : Bool := false
  startLock : Option Nat := none
  directStop : Bool := false
  directActive : Bool := false
  directHandle : Option Nat := none
  /-- The call that holds the handle's lock while it waits. -/
  handleLock : Option Nat := none
  recoveryInProgress : Bool := false
  /-- Every loop there ever was, in order. -/
  loops : List CaptureLoop := []
  calls : List Call := []
  deriving DecidableEq, Repr

/-- Where a call is after a step. -/
inductive Progress (pc : Type)
  | goes (pc : pc)
  | returns (ok : Bool)
  deriving Repr

namespace State

def update (s : State) (loop : Nat) (f : CaptureLoop → CaptureLoop) : State :=
  { s with loops := s.loops.modify loop f }

/-- The loop has returned. -/
def gone (s : State) (loop : Nat) : Bool :=
  s.loops[loop]?.all (·.phase == .gone)

/-- A step of `start` as call `i`; `init_auto` may fail. -/
def start (s : State) (i : Nat) (fails : Bool) : Start → Option (State × Progress Start)
  | .acquire =>
    if s.startLock = none then some ({ s with startLock := some i }, .goes .decide) else none
  | .decide =>
    match s.state with
    | .streaming => some ({ s with startLock := none }, .returns true)
    | .uninitialized => some (s, .goes .init)
    | _ => some (s, .goes .device)
  | .init =>
    if fails then some ({ s with startLock := none }, .returns false)
    else some ({ s with currentDevice := true, state := .ready }, .goes .device)
  | .device =>
    if s.currentDevice then some (s, .goes .spawn)
    else some ({ s with startLock := none }, .returns false)
  | .spawn =>
    some ({ s with directStop := false, directActive := true, loops := s.loops ++ [{}] },
      .goes (.handle s.loops.length))
  | .handle loop =>
    if s.handleLock = none then some ({ s with directHandle := some loop }, .goes (.write loop))
    else none
  | .write _ => some ({ s with state := .streaming, startLock := none }, .returns true)

/-- A step of `stop` as call `i`. -/
def stop (s : State) (i : Nat) : Stop → Option (State × Progress Stop)
  | .flag => some ({ s with directStop := true }, .goes .take)
  | .take =>
    if s.handleLock = none then
      match s.directHandle with
      | some loop =>
        some ({ s with directHandle := none, handleLock := some i }, .goes (.wait loop))
      | none => some (s, .goes .inactive)
    else none
  | .wait loop =>
    if s.gone loop then some ({ s with handleLock := none }, .goes .inactive) else none
  | .inactive => some ({ s with directActive := false }, .goes .write)
  | .write => some ({ s with state := .ready }, .returns true)

/-- A step of `apply_video_config`; the device may be missing. -/
def applyVideoConfig (s : State) (i : Nat) (fails : Bool) :
    ApplyVideoConfig → Option (State × Call)
  | .check =>
    if fails then some (s, .returned)
    else some (s, .applyVideoConfig (if s.directActive then .stop .flag else .write))
  | .stop pc =>
    (s.stop i pc).map fun (t, progress) =>
      match progress with
      | .goes pc => (t, .applyVideoConfig (.stop pc))
      | .returns _ => (t, .applyVideoConfig .write)
  | .write => some ({ s with currentDevice := true, state := .ready }, .returned)

/-- A step of the recovery; the device's file may not be there yet. -/
def recovery (s : State) (i : Nat) (fails : Bool) : Recovery → Option (State × Call)
  | .begin =>
    if s.recoveryInProgress then some (s, .returned)
    else some ({ s with recoveryInProgress := true }, .recovery .check)
  | .check =>
    some (s, .recovery (if s.state = .deviceLost ∨ s.state = .recovering then .write else .finish))
  | .write =>
    some ({ s with state := .recovering }, .recovery (if fails then .check else .restart))
  | .restart => some ({ s with directStop := false }, .recovery (.start .acquire))
  | .start pc =>
    (s.start i fails pc).map fun (t, progress) =>
      match progress with
      | .goes pc => (t, .recovery (.start pc))
      | .returns ok => (t, .recovery (if ok then .poll 5 else .check))
  | .poll left =>
    match left, s.state with
    | _ + 1, .streaming | _ + 1, .noSignal => some (s, .recovery .finish)
    | _ + 1, .error | _ + 1, .deviceLost | 0, _ => some (s, .recovery .check)
    | left + 1, _ => some (s, .recovery (.poll left))
  | .finish => some ({ s with recoveryInProgress := false }, .returned)

/-- The next step of call `i`, unless it waits. -/
def next (s : State) (i : Nat) (fails : Bool) : Call → Option (State × Call)
  | .start pc =>
    (s.start i fails pc).map fun (t, progress) =>
      match progress with
      | .goes pc => (t, .start pc)
      | .returns _ => (t, .returned)
  | .stop pc =>
    (s.stop i pc).map fun (t, progress) =>
      match progress with
      | .goes pc => (t, .stop pc)
      | .returns _ => (t, .returned)
  | .applyVideoConfig pc => s.applyVideoConfig i fails pc
  | .recovery pc => s.recovery i fails pc
  | .returned => none

/-! ## The loops -/

/-- `set_state` of a loop, which is then in `phase`. -/
def setState (s : State) (loop : Nat) (state : StreamerState) (phase : Phase) : State :=
  match s.loops[loop]? with
  | some l =>
    { s.update loop ({ · with lastState := state, phase }) with
      state := if state ≠ l.lastState then state else s.state }
  | none => s

end State

/-- What a loop does next. -/
inductive LoopStep
  | opens | openFails | stopped | timeout | frame | softRestart | idle | lost | exit
  deriving DecidableEq, Repr

/-- The steps of a loop that is there. -/
def State.loopStep (s : State) (loop : Nat) (l : CaptureLoop) : LoopStep → Option State
  | .opens =>
    if l.phase = .opening then
      some (s.update loop ({ · with phase := .capturing, signalPresent := true }))
    else none
  | .openFails => if l.phase = .opening then some (s.setState loop .error .leaving) else none
  | .stopped =>
    if (l.phase = .opening ∨ l.phase = .capturing) ∧ s.directStop then
      some (s.update loop ({ · with phase := .leaving }))
    else none
  | .timeout =>
    if l.phase = .capturing ∧ l.signalPresent then
      some ((s.setState loop .noSignal .capturing).update loop ({ · with signalPresent := false }))
    else none
  | .frame =>
    if l.phase = .capturing then
      if l.signalPresent then some s
      else
        some ((s.setState loop .streaming .capturing).update loop
          ({ · with signalPresent := true }))
    else none
  | .softRestart =>
    if l.phase = .capturing ∧ !l.signalPresent then
      some (s.update loop ({ · with phase := .opening }))
    else none
  | .idle => if l.phase = .capturing then some (s.setState loop .ready .leaving) else none
  | .lost =>
    if l.phase = .capturing then
      let t := s.setState loop .deviceLost .leaving
      some { t with calls := t.calls ++ [.recovery .begin] }
    else none
  | .exit =>
    if l.phase = .leaving then
      some { s.update loop ({ · with phase := .gone }) with directActive := false }
    else none

inductive Event
  | start | stop | applyVideoConfig
  | advance (i : Nat) (fails : Bool)
  | loop (loop : Nat) (step : LoopStep)
  deriving DecidableEq, Repr

def step (s : State) : Event → Option State
  | .start => some { s with calls := s.calls ++ [.start .acquire] }
  | .stop => some { s with calls := s.calls ++ [.stop .flag] }
  | .applyVideoConfig => some { s with calls := s.calls ++ [.applyVideoConfig .check] }
  | .advance i fails =>
    s.calls[i]?.bind fun call =>
      (s.next i fails call).map fun (t, call) => { t with calls := s.calls.set i call }
  | .loop loop e => s.loops[loop]?.bind fun l => s.loopStep loop l e

def system : TSys State Event :=
  .ofFn (· = {}) step

end StreamBox.Video.Streamer
