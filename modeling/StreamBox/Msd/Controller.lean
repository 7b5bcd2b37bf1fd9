import StreamBox.Otg.Service
import StreamBox.Lib.TSys

/-!
# The MSD controller

The controller and the OTG service on one gadget. `connect_image`, `connect_drive` and
`disconnect` hold the operation lock and the state while they work on the LUN; `init`, `shutdown`
and the reconciles of the service run beside them, from one await to the next. A call whose client
is gone is dropped at an await; the file operations that it has begun on a blocking thread are
carried to their end.
-/

namespace StreamBox.Msd

open StreamBox.Lib StreamBox.Otg
open StreamBox.Config.Sections (AppError OtgDesiredState)

/-! ## The controller -/

/-- MSD operating mode -/
inductive MsdMode
  | none
  | image
  | drive
  deriving DecidableEq, Repr

/-- Image file metadata -/
structure ImageInfo where
  id : String
  name : String
  path : String
  size : Nat
  deriving DecidableEq, Repr

structure MsdState where
  available : Bool := false
  mode : MsdMode := .none
  connected : Bool := false
  currentImage : Option ImageInfo := none
  deriving DecidableEq, Repr

structure MsdController where
  /-- The handle of the mass-storage function, as `init` has fetched it. -/
  msdFunction : Bool := false
  state : MsdState := {}
  drivePath : String
  deriving DecidableEq, Repr

/-- The file of what the controller reports as connected. -/
def MsdController.backing (c : MsdController) : Option String :=
  if c.state.connected then
    match c.state.mode with
    | .none => none
    | .image => c.state.currentImage.map (·.path)
    | .drive => some c.drivePath
  else none

/-- A call of `connect_image` or of `connect_drive`. -/
inductive Request
  | image (info : ImageInfo) (cdrom readOnly : Bool)
  | drive
  deriving DecidableEq, Repr

namespace Request

def config (drivePath : String) : Request → MsdLunConfig
  | .image info cdrom readOnly =>
    if cdrom then .forCdrom info.path else .forDisk info.path readOnly
  | .drive => .forDisk drivePath false

/-- The error where its file does not exist. -/
def missing : Request → AppError
  | .image info _ _ => .internal ("Image file not found: " ++ info.path)
  | .drive => .internal "Virtual drive not initialized. Call init first."

/-- What a successful call makes of the state. -/
def record (s : MsdState) : Request → MsdState
  | .image info _ _ => { s with connected := true, mode := .image, currentImage := some info }
  | .drive => { s with connected := true, mode := .drive, currentImage := none }

end Request

/-- What `disconnect` makes of the state. -/
def MsdState.disconnected (s : MsdState) : MsdState :=
  { s with connected := false, mode := .none, currentImage := none }

/-! ## Calls -/

inductive ConnectStage
  /-- Before `active_gadget_path`. -/
  | path
  /-- Before the read of the handle. -/
  | handle
  | lun (stage : LunStage)

inductive DisconnectStage
  | path
  | handle
  | lun
  | ejected (result : Except AppError Unit)
  deriving DecidableEq

/-- The call that holds the operation lock. -/
inductive Operation
  | connect (request : Request) (stage : ConnectStage)
  | disconnect (stage : DisconnectStage) (shutdown : Bool)

/-- The steps of `init`, and those of `shutdown` after its disconnect. -/
inductive CallStage
  | storeHandle
  | setAvailable
  | clearHandle
  | setUnavailable
  | returned
  | abandoned
  deriving DecidableEq, Repr

def CallStage.isOver : CallStage → Bool
  | .returned | .abandoned => true
  | _ => false

/-- File operations on a blocking thread whose call is gone. -/
inductive Orphan
  | configure (config : MsdLunConfig) (stage : LunStage)
  | disconnect
  | finished

def Orphan.isOver : Orphan → Bool
  | .configure _ (.returned _) | .finished => true
  | _ => false

structure MsdSystem where
  otg : OtgSystem := {}
  controller : MsdController
  operation : Option Operation := none
  calls : List CallStage := []
  reconciles : List ReconcileStage := []
  orphans : List Orphan := []
  /-- What `connect`, `disconnect` and `init` have returned, the first call first. -/
  answers : List (Except AppError Unit) := []

inductive MsdEvent
  /-- `apply_desired_state` is called. -/
  | apply (desired : OtgDesiredState)
  | reconcile (i : Nat) (k : GadgetAnswers)
  | abandonReconcile (i : Nat) (k : GadgetAnswers)
  | init
  /-- An `init` or a `shutdown` goes on. -/
  | call (i : Nat)
  | abandonCall (i : Nat)
  /-- A connect gets the operation lock; its file may exist. -/
  | connect (request : Request) (present : Bool)
  | disconnect (shutdown : Bool)
  /-- The call that holds the operation lock goes on. -/
  | operate (k : LunAnswers)
  | abandon
  | orphan (i : Nat) (k : LunAnswers)

namespace MsdSystem

variable (s : MsdSystem)

def answer (result : Except AppError Unit) : MsdSystem :=
  { s with answers := s.answers ++ [result] }

def fail (message : String) : MsdSystem := s.answer (.error (.internal message))

/-! ### Connect and disconnect -/

def connect (request : Request) (present : Bool) : MsdSystem :=
  if !s.controller.state.available then s.fail "MSD not available"
  else if s.controller.state.connected then s.fail "Already connected. Disconnect first."
  else if !present then s.answer (.error request.missing)
  else { s with operation := some (.connect request .path) }

/-- A disconnect is over; that of a shutdown is followed by its own steps, whatever it returns. -/
def disconnectOver (shutdown : Bool) (result : Except AppError Unit) : MsdSystem :=
  if shutdown then { s with operation := none, calls := s.calls ++ [.clearHandle] }
  else { s with operation := none, answers := s.answers ++ [result] }

def disconnect (shutdown : Bool) : MsdSystem :=
  if !s.controller.state.connected then s.disconnectOver shutdown (.ok ())
  else { s with operation := some (.disconnect .path shutdown) }

/-- A connect is over. -/
def connectOver (result : Except AppError Unit) : MsdSystem :=
  { s with operation := none, answers := s.answers ++ [result] }

def gadgetPathMissing : AppError := .internal "OTG gadget path is not available"

/-- The state that a successful call leaves. -/
def record (state : MsdState) : MsdSystem :=
  { s with controller := { s.controller with state } }

def withGadget (gadget : Option Gadget) : MsdSystem := { s with otg := { s.otg with gadget } }

/-- `configure_lun` of a connect has gone on. -/
def configured (request : Request) (result : Option Gadget × LunStage) : MsdSystem :=
  { s.withGadget result.1 with operation := some (.connect request (.lun result.2)) }

def operateConnect (k : LunAnswers) (request : Request) : ConnectStage → MsdSystem
  | .path =>
    match s.otg.service.manager with
    | none => s.connectOver (.error gadgetPathMissing)
    | some _ => { s with operation := some (.connect request .handle) }
  | .handle =>
    if s.controller.msdFunction then { s with operation := some (.connect request (.lun .eject)) }
    else s.connectOver (.error (.internal "MSD function not initialized"))
  | .lun (.returned (.ok ())) =>
    (s.record (request.record s.controller.state)).connectOver (.ok ())
  | .lun (.returned (.error e)) => s.connectOver (.error e)
  | .lun stage =>
    s.configured request
      (Gadget.configureLun (request.config s.controller.drivePath) s.otg.gadget k stage)

def operateDisconnect (k : LunAnswers) (shutdown : Bool) : DisconnectStage → MsdSystem
  | .path =>
    match s.otg.service.manager with
    | none => s.disconnectOver shutdown (.error gadgetPathMissing)
    | some _ => { s with operation := some (.disconnect .handle shutdown) }
  | .handle =>
    let stage := if s.controller.msdFunction then .lun else .ejected (.ok ())
    { s with operation := some (.disconnect stage shutdown) }
  | .lun =>
    match Gadget.disconnectLun s.otg.gadget k with
    | .ok gadget =>
      { s.withGadget gadget with operation := some (.disconnect (.ejected (.ok ())) shutdown) }
    | .error e => { s with operation := some (.disconnect (.ejected (.error e)) shutdown) }
  | .ejected (.ok ()) =>
    (s.record s.controller.state.disconnected).disconnectOver shutdown (.ok ())
  | .ejected (.error e) => s.disconnectOver shutdown (.error e)

def operate (k : LunAnswers) : Operation → MsdSystem
  | .connect request stage => s.operateConnect k request stage
  | .disconnect stage shutdown => s.operateDisconnect k shutdown stage

/-- What goes on of a dropped call. -/
def left : Operation → List Orphan
  | .connect request (.lun stage) => [.configure (request.config s.controller.drivePath) stage]
  | .disconnect .lun _ => [.disconnect]
  | _ => []

def abandon (op : Operation) : MsdSystem :=
  { s with operation := none, orphans := s.orphans ++ s.left op }

/-- `configure_lun` of a dropped connect has gone on. -/
def orphanConfigured (i : Nat) (c : MsdLunConfig) (result : Option Gadget × LunStage) : MsdSystem :=
  { s.withGadget result.1 with orphans := s.orphans.set i (.configure c result.2) }

def orphanNext (i : Nat) (k : LunAnswers) : Orphan → MsdSystem
  | .configure c stage => s.orphanConfigured i c (Gadget.configureLun c s.otg.gadget k stage)
  | .disconnect =>
    match Gadget.disconnectLun s.otg.gadget k with
    | .ok gadget => { s.withGadget gadget with orphans := s.orphans.set i .finished }
    | .error _ => { s with orphans := s.orphans.set i .finished }
  | .finished => s

/-! ### Init and shutdown -/

def init : MsdSystem :=
  if s.otg.service.msdFunction then { s with calls := s.calls ++ [.storeHandle] }
  else s.fail "MSD function is not active in OtgService"

/-- The running call reads the handle. -/
def readsHandle : Bool :=
  match s.operation with
  | some (.connect _ (.lun _)) | some (.disconnect .lun _) => true
  | _ => false

def setHandle (i : Nat) (present : Bool) (stage : CallStage) : MsdSystem :=
  { s with
    controller := { s.controller with msdFunction := present }
    calls := s.calls.set i stage }

def setAvailable (i : Nat) (available : Bool) : MsdSystem :=
  { s.record { s.controller.state with available } with calls := s.calls.set i .returned }

def call (i : Nat) : CallStage → Option MsdSystem
  | .storeHandle => if s.readsHandle then none else some (s.setHandle i true .setAvailable)
  | .setAvailable => if s.operation.isSome then none else some (s.setAvailable i true)
  | .clearHandle => if s.readsHandle then none else some (s.setHandle i false .setUnavailable)
  | .setUnavailable => if s.operation.isSome then none else some (s.setAvailable i false)
  | .returned | .abandoned => none

/-! ### Reconciles -/

def reconciled (i : Nat) : OtgSystem × ReconcileStage → MsdSystem
  | (otg, r) => { s with otg, reconciles := s.reconciles.set i r }

def step : MsdEvent → Option MsdSystem
  | .apply desired => some { s with reconciles := s.reconciles ++ [.store desired] }
  | .reconcile i k => s.reconciles[i]?.map fun r => s.reconciled i (s.otg.next k r)
  | .abandonReconcile i k => s.reconciles[i]?.bind fun r =>
    (s.otg.abandon k r).map (s.reconciled i)
  | .init => some s.init
  | .call i => s.calls[i]?.bind (s.call i)
  | .abandonCall i => s.calls[i]?.map fun _ => { s with calls := s.calls.set i .abandoned }
  | .connect request present =>
    if s.operation.isSome then none else some (s.connect request present)
  | .disconnect shutdown => if s.operation.isSome then none else some (s.disconnect shutdown)
  | .operate k => s.operation.map (s.operate k)
  | .abandon => s.operation.map s.abandon
  | .orphan i k => s.orphans[i]?.map (s.orphanNext i k)

/-- Nothing has been called, and no LUN that an earlier run has left holds a file. -/
def Started (s : MsdSystem) : Prop :=
  ∃ gadget drivePath,
    s = { otg := { gadget }, controller := { drivePath } } ∧ Gadget.lunFile gadget = none

def system : TSys MsdSystem MsdEvent := .ofFn Started step

end MsdSystem

end StreamBox.Msd
