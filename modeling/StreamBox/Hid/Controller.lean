import Mathlib.Data.List.Basic
import StreamBox.Lib.TSys

/-!
# The HID controller

The backend slot of `HidController` and the state it reports, under any calls of `init`,
`reload` and `shutdown` and any runtime workers. A step of a call goes up to its next lock
or await (`Call`), and so does a step of a worker (`WorkerPc`). The backends are outside
the model: creating and initialising one may end in any way (`Opened`), and its runtime
snapshot may change at any time.
-/

namespace StreamBox.Hid

inductive HidBackendType
  | otg
  | ch9329 (port : String) (baudRate : UInt32)
  | none
  deriving DecidableEq, Repr

namespace HidBackendType

def nameStr : HidBackendType → String
  | otg => "otg"
  | ch9329 _ _ => "ch9329"
  | none => "none"

/-- `device_for_backend_type`. -/
def device : HidBackendType → Option String
  | ch9329 port _ => some port
  | _ => .none

end HidBackendType

structure LedState where
  numLock : Bool := false
  capsLock : Bool := false
  scrollLock : Bool := false
  compose : Bool := false
  kana : Bool := false
  deriving DecidableEq, Repr

/-- What a backend says of itself. -/
structure HidBackendRuntimeSnapshot where
  initialized : Bool := false
  online : Bool := false
  supportsAbsoluteMouse : Bool := false
  keyboardLedsEnabled : Bool := false
  ledState : LedState := {}
  screenResolution : Option (UInt32 × UInt32) := none
  device : Option String := none
  error : Option String := none
  errorCode : Option String := none
  deriving DecidableEq, Repr

/-- What the controller reports. -/
structure HidRuntimeState where
  available : Bool
  backend : String
  initialized : Bool := false
  online : Bool := false
  supportsAbsoluteMouse : Bool := false
  keyboardLedsEnabled : Bool := false
  ledState : LedState := {}
  screenResolution : Option (UInt32 × UInt32) := none
  device : Option String := none
  error : Option String := none
  errorCode : Option String := none
  deriving DecidableEq, Repr

namespace HidRuntimeState

def fromBackendType (kind : HidBackendType) : HidRuntimeState where
  available := kind ≠ .none
  backend := kind.nameStr
  device := kind.device

def fromBackend (kind : HidBackendType) (snapshot : HidBackendRuntimeSnapshot) :
    HidRuntimeState where
  available := kind ≠ .none
  backend := kind.nameStr
  initialized := snapshot.initialized
  online := snapshot.online
  supportsAbsoluteMouse := snapshot.supportsAbsoluteMouse
  keyboardLedsEnabled := snapshot.keyboardLedsEnabled
  ledState := snapshot.ledState
  screenResolution := snapshot.screenResolution
  device := snapshot.device.or kind.device
  error := snapshot.error
  errorCode := snapshot.errorCode

def withError (kind : HidBackendType) (current : HidRuntimeState) (reason errorCode : String) :
    HidRuntimeState :=
  { current with
    available := kind ≠ .none
    backend := kind.nameStr
    initialized := false
    online := false
    keyboardLedsEnabled := false
    ledState := {}
    device := kind.device
    error := some reason
    errorCode := some errorCode }

/-- What `shutdown` leaves. -/
def afterShutdown (kind : HidBackendType) : HidRuntimeState :=
  if kind = .none then { fromBackendType kind with available := false }
  else
    { fromBackendType kind with
      error := some "HID backend stopped"
      errorCode := some "shutdown" }

/-- Neither initialized nor online. -/
def Quiet (r : HidRuntimeState) : Prop := r.initialized = false ∧ r.online = false

theorem quiet_fromBackendType (kind : HidBackendType) : (fromBackendType kind).Quiet :=
  ⟨rfl, rfl⟩

theorem quiet_withError (kind : HidBackendType) (current : HidRuntimeState)
    (reason errorCode : String) : (withError kind current reason errorCode).Quiet :=
  ⟨rfl, rfl⟩

theorem quiet_afterShutdown (kind : HidBackendType) : (afterShutdown kind).Quiet := by
  unfold afterShutdown
  split <;> exact ⟨rfl, rfl⟩

end HidRuntimeState

namespace Controller

open StreamBox.Lib

/-- A backend whose `init` succeeded. -/
structure Backend where
  kind : HidBackendType
  snapshot : HidBackendRuntimeSnapshot
  /-- `shutdown` has not been called on it. -/
  up : Bool := true
  /-- The changes its watch channel has announced. -/
  version : Nat := 0
  deriving DecidableEq, Repr

/-- How creating and initialising a backend ends. -/
inductive Opened
  | notCreated
  | failed (reason : String)
  | initialised (snapshot : HidBackendRuntimeSnapshot)
  deriving DecidableEq, Repr

/-- Where a runtime worker is: waiting for a change, in `apply_backend_runtime_state`
before its read of the type, its look at the backend or its write, or at its end. -/
inductive WorkerPc
  | waiting
  | type
  | sample (kind : HidBackendType)
  | write (next : HidRuntimeState)
  | finished
  deriving DecidableEq, Repr

structure Worker where
  backend : Nat
  /-- The version of the backend it has last seen. -/
  seen : Nat
  pc : WorkerPc := .waiting
  aborted : Bool := false
  deriving DecidableEq, Repr

/-- `JoinHandle::abort`: a worker that waits ends; one in the middle of a pass may still
run up to its next wait. -/
def Worker.abort (w : Worker) : Worker :=
  match w.pc with
  | .waiting => { w with pc := .finished }
  | .finished => w
  | _ => { w with aborted := true }

/-- What a call does next. -/
inductive Call
  -- `init`
  | initType
  | initOpen (kind : HidBackendType)
  | initStore (b : Nat)
  | failType (reason : String)
  -- `reload`
  | reloadClear (new : HidBackendType)
  | reloadStop (new : HidBackendType)
  | reloadTake (new : HidBackendType)
  | reloadClose (b : Nat) (new : HidBackendType)
  | reloadOpen (new : HidBackendType)
  | reloadStore (new : HidBackendType) (b : Option Nat)
  | reloadNone
  | reloadCheck (new : HidBackendType)
  | reloadType (new : HidBackendType)
  | reloadFailType (new : HidBackendType)
  -- `shutdown`
  | shutdownStop
  | shutdownTake
  | shutdownClose (b : Nat)
  | shutdownType
  -- `sync_runtime_state_from_backend`
  | syncSlot
  | syncType (b : Option Nat)
  | syncSample (b : Option Nat) (kind : HidBackendType)
  | syncWrite (next : HidRuntimeState)
  -- `restart_runtime_worker`
  | restartStop
  | restartSlot
  | restartStore (i : Nat)
  -- the error state and the last write of a call
  | failCurrent (kind : HidBackendType) (reason : String)
  | write (next : HidRuntimeState)
  deriving DecidableEq, Repr

namespace Call

/-- It locks the slot next. -/
def usesSlot : Call → Bool
  | initStore _ | reloadTake _ | reloadStore _ _ | reloadCheck _ | shutdownTake | syncSlot
  | restartSlot => true
  | _ => false

/-- It holds the slot's lock while it shuts a backend down. -/
def closes : Call → Bool
  | reloadClose _ _ | shutdownClose _ => true
  | _ => false

/-- The backend that is in its hand only. -/
def holds : Call → Option Nat
  | initStore b | reloadClose b _ | shutdownClose b => some b
  | reloadStore _ b => b
  | _ => none

end Call

structure HidController where
  otgService : Bool
  backend : Option Nat := none
  backendType : HidBackendType
  runtimeState : HidRuntimeState
  backendAvailable : Bool := false
  /-- The handle of the runtime worker. -/
  runtimeWorker : Option Nat := none
  /-- Every backend initialised so far. -/
  backends : List Backend := []
  /-- Every runtime worker spawned so far. -/
  workers : List Worker := []
  deriving DecidableEq, Repr

namespace HidController

/-- `HidController::new`. -/
def new (kind : HidBackendType) (otgService : Bool) : HidController where
  otgService
  backendType := kind
  runtimeState := .fromBackendType kind

def stopRuntimeWorker (c : HidController) : HidController :=
  match c.runtimeWorker with
  | some i => { c with runtimeWorker := none, workers := c.workers.modify i Worker.abort }
  | none => c

/-- `shutdown` of backend `b`; its result is only logged. -/
def close (c : HidController) (b : Nat) : HidController :=
  { c with backends := c.backends.modify b ({ · with up := false }) }

/-- `init` of a new backend has succeeded. -/
def opened (c : HidController) (kind : HidBackendType)
    (snapshot : HidBackendRuntimeSnapshot) : HidController :=
  { c with backends := c.backends ++ [{ kind, snapshot }] }

/-- The state `apply_backend_runtime_state` computes, without a backend or of `b`. -/
def sample (c : HidController) (b : Option Nat) (kind : HidBackendType) : HidRuntimeState :=
  match b.bind (c.backends[·]?) with
  | some backend => .fromBackend kind backend.snapshot
  | none => .fromBackendType kind

/-- The next step of a call, and where it is then, unless it has returned. -/
def advance (c : HidController) (outcome : Opened) : Call → HidController × Option Call
  | .initType =>
    match c.backendType with
    | .none => (c, none)
    | kind => (c, some (.initOpen kind))
  | .initOpen kind =>
    if kind = .otg ∧ c.otgService = false then (c, none)
    else match outcome with
      | .notCreated => (c, none)
      | .failed reason =>
        ({ c with backendAvailable := false },
          some (.failType s!"Failed to initialize HID backend: {reason}"))
      | .initialised snapshot => (c.opened kind snapshot, some (.initStore c.backends.length))
  | .initStore b => ({ c with backend := some b }, some .syncSlot)
  | .failType reason => (c, some (.failCurrent c.backendType reason))
  | .reloadClear new => ({ c with backendAvailable := false }, some (.reloadStop new))
  | .reloadStop new => (c.stopRuntimeWorker, some (.reloadTake new))
  | .reloadTake new =>
    match c.backend with
    | some b => ({ c with backend := none }, some (.reloadClose b new))
    | none => (c, some (.reloadOpen new))
  | .reloadClose b new => (c.close b, some (.reloadOpen new))
  | .reloadOpen new =>
    if new = .otg ∧ c.otgService = false then (c, none)
    else match new, outcome with
      | .none, _ => (c, some (.reloadStore new none))
      | _, .initialised snapshot =>
        (c.opened new snapshot, some (.reloadStore new (some c.backends.length)))
      | _, _ => (c, some (.reloadStore new none))
  | .reloadStore new b =>
    ({ c with backend := b }, some (if new = .none then .reloadNone else .reloadCheck new))
  | .reloadNone =>
    ({ c with backendType := .none }, some (.write (.fromBackendType .none)))
  | .reloadCheck new =>
    match c.backend with
    | some _ => (c, some (.reloadType new))
    | none => ({ c with backendAvailable := false }, some (.reloadFailType new))
  | .reloadType new => ({ c with backendType := new }, some .syncSlot)
  | .reloadFailType new =>
    ({ c with backendType := new },
      some (.failCurrent new "Failed to initialize HID backend"))
  | .shutdownStop => (c.stopRuntimeWorker, some .shutdownTake)
  | .shutdownTake =>
    match c.backend with
    | some b => ({ c with backend := none }, some (.shutdownClose b))
    | none => ({ c with backendAvailable := false }, some .shutdownType)
  | .shutdownClose b => ({ c.close b with backendAvailable := false }, some .shutdownType)
  | .shutdownType => (c, some (.write (.afterShutdown c.backendType)))
  | .syncSlot => (c, some (.syncType c.backend))
  | .syncType b => (c, some (.syncSample b c.backendType))
  | .syncSample b kind =>
    let next := c.sample b kind
    ({ c with backendAvailable := next.initialized }, some (.syncWrite next))
  | .syncWrite next => ({ c with runtimeState := next }, some .restartStop)
  | .restartStop => (c.stopRuntimeWorker, some .restartSlot)
  | .restartSlot =>
    match c.backend with
    | some b =>
      let seen := c.backends[b]?.elim 0 (·.version)
      ({ c with workers := c.workers ++ [{ backend := b, seen }] },
        some (.restartStore c.workers.length))
    | none => (c, none)
  | .restartStore i => ({ c with runtimeWorker := some i }, none)
  | .failCurrent kind reason =>
    (c, some (.write (.withError kind c.runtimeState reason "init_failed")))
  | .write next => ({ c with runtimeState := next }, none)

/-- A waiting worker sees a change. -/
def wake (c : HidController) (i : Nat) : Option HidController :=
  c.workers[i]?.bind fun w =>
    c.backends[w.backend]?.bind fun backend =>
      if w.pc = .waiting ∧ w.seen ≠ backend.version then
        some { c with workers := c.workers.set i { w with pc := .type, seen := backend.version } }
      else none

/-- The next step of a worker in a pass. -/
def work (c : HidController) (i : Nat) : Option HidController :=
  c.workers[i]?.bind fun w =>
    match w.pc with
    | .type =>
      some { c with workers := c.workers.set i { w with pc := .sample c.backendType } }
    | .sample kind =>
      let next := c.sample (some w.backend) kind
      some { c with
        backendAvailable := next.initialized
        workers := c.workers.set i { w with pc := .write next } }
    | .write next =>
      some { c with
        runtimeState := next
        workers := c.workers.set i
          { w with pc := if w.aborted then .finished else .waiting } }
    | _ => none

/-- An aborted worker is dropped at an await. -/
def cancel (c : HidController) (i : Nat) : Option HidController :=
  c.workers[i]?.bind fun w =>
    if w.aborted then some { c with workers := c.workers.set i { w with pc := .finished } }
    else none

/-- The snapshot of a backend changes, announced on its watch channel or not. -/
def change (c : HidController) (b : Nat) (snapshot : HidBackendRuntimeSnapshot)
    (announced : Bool) : Option HidController :=
  c.backends[b]?.map fun backend =>
    let version := if announced then backend.version + 1 else backend.version
    { c with backends := c.backends.set b { backend with snapshot, version } }

end HidController

inductive Op
  | init
  | shutdown
  | reload (new : HidBackendType)
  deriving DecidableEq, Repr

def Op.call : Op → Call
  | init => .initType
  | shutdown => .shutdownStop
  | reload new => .reloadClear new

inductive Event
  /-- A call of the controller. -/
  | start (op : Op)
  /-- A step of a call. -/
  | advance (i : Nat) (outcome : Opened)
  | wake (i : Nat)
  | work (i : Nat)
  | cancel (i : Nat)
  | change (b : Nat) (snapshot : HidBackendRuntimeSnapshot) (announced : Bool)
  deriving DecidableEq, Repr

/-- The controller and the calls that have not returned. -/
structure State where
  hid : HidController
  calls : List Call := []
  deriving DecidableEq, Repr

def step (s : State) : Event → Option State
  | .start op => some { s with calls := s.calls ++ [op.call] }
  | .advance i outcome =>
    s.calls[i]?.bind fun call =>
      if call.usesSlot && s.calls.any Call.closes then none
      else
        let (hid, next) := s.hid.advance outcome call
        some { hid, calls := next.elim (s.calls.eraseIdx i) (s.calls.set i ·) }
  | .wake i => (s.hid.wake i).map ({ s with hid := · })
  | .work i => (s.hid.work i).map ({ s with hid := · })
  | .cancel i => (s.hid.cancel i).map ({ s with hid := · })
  | .change b snapshot announced =>
    (s.hid.change b snapshot announced).map ({ s with hid := · })

/-- A controller of any type, with or without an OTG service. -/
def system : TSys State Event :=
  TSys.ofFn (fun s => ∃ kind otgService, s = { hid := .new kind otgService }) step

end Controller
end StreamBox.Hid
