import StreamBox.Config.Schema
import StreamBox.Lib.TSys
import StreamBox.RustDesk.AddrMangle

/-!
# The rendezvous mediator

A run of `registration_loop`: the answers of the server, the ticks of the timer and what the rest
of the program does to the mediator, in any order. Everything received and sent is logged with
the time, which is in nanoseconds.
-/

namespace StreamBox.RustDesk.Rendezvous

open StreamBox.Lib

/-- Registration interval in milliseconds. -/
def regIntervalMs : Nat := 12000

/-- Minimum registration timeout. -/
def minRegTimeoutMs : Nat := 3000

/-- Maximum registration timeout. -/
def maxRegTimeoutMs : Nat := 30000

inductive RendezvousStatus
  | disconnected | connecting | connected | registered
  | error (reason : String)
  deriving DecidableEq, Repr

inductive NatType
  | unknownNat | asymmetric | symmetric
  deriving DecidableEq, Repr

/-- The messages of the server; the type of a NAT is missing where its number is unknown. -/
inductive RendezvousMessage
  | registerPeerResponse (requestPk : Bool)
  | registerPkResponse (result keepAlive : Int32)
  | punchHole (socketAddr : Bytes) (relayServer : String) (natType : Option NatType)
  | requestRelay (uuid : String) (socketAddr : Bytes) (relayServer : String)
  | fetchLocalAddr (socketAddr : Bytes) (relayServer : String)
  | configureUpdate (serial : Int32)
  | other
  | empty
  deriving DecidableEq

/-- What the mediator sends to the server and hands to its callbacks. -/
inductive Output
  | registerPeer (id : String) (serial : Int32)
  | registerPk (id : String) (uuid pk : Bytes) (oldId : String)
  | punchHoleSent (socketAddr : Bytes) (id relayServer : String) (natType : NatType)
      (version : String)
  | punch (peerAddr : Option SocketAddr) (rendezvousAddr relayServer uuid : String)
      (socketAddr : Bytes) (deviceId : String)
  | relay (rendezvousAddr relayServer uuid : String) (socketAddr : Bytes) (deviceId : String)
  | intranet (rendezvousAddr : String) (socketAddr : Bytes) (localIp : List UInt8)
      (localPort : UInt16) (relayServer deviceId : String)
  deriving DecidableEq

inductive Entry
  | received (msg : RendezvousMessage)
  | sent (output : Output)
  deriving DecidableEq

/-! ## State -/

/-- The variables of `registration_loop`. -/
structure RegistrationLoop where
  lastRegisterSent : Option Nat := none
  lastRegisterResp : Option Nat := none
  regTimeout : Nat := minRegTimeoutMs
  fails : Nat := 0
  deriving DecidableEq, Repr

structure State where
  config : RustDeskConfig
  signingKey : Bytes
  uuid : Bytes
  status : RendezvousStatus := .connected
  serial : Int32 := 0
  keyConfirmed : Bool := false
  keepAliveMs : Int32 := 30000
  relayCallback : Bool := false
  punchCallback : Bool := false
  intranetCallback : Bool := false
  listenPort : UInt16 := 21118
  /-- The loop, while it runs. -/
  registration : Option RegistrationLoop := some {}
  now : Nat := 0
  log : List (Nat × Entry) := []
  deriving DecidableEq

/-- What an action meets outside: whether the socket sends, the UUID drawn for a relay, and the
local addresses. -/
structure Io where
  sends : Bool := true
  relayUuid : String := ""
  localAddresses : List (List UInt8) := []

/-- Milliseconds since an instant. -/
def elapsedMs (now : Nat) (instant : Nat) : Nat := (now - instant) / 1000000

namespace RegistrationLoop

/-- There was no answer for the registration interval. -/
def expired (l : RegistrationLoop) (now : Nat) : Prop :=
  ∀ resp, l.lastRegisterResp = some resp → regIntervalMs ≤ elapsedMs now resp

/-- The last registration was sent long ago. -/
def timeout (l : RegistrationLoop) (now : Nat) : Prop :=
  ∃ sent, l.lastRegisterSent = some sent ∧ l.regTimeout ≤ elapsedMs now sent

instance (l : RegistrationLoop) (now : Nat) : Decidable (l.expired now) :=
  match h : l.lastRegisterResp with
  | none => isTrue (by simp [expired, h])
  | some resp => decidable_of_iff (regIntervalMs ≤ elapsedMs now resp) (by simp [expired, h])

instance (l : RegistrationLoop) (now : Nat) : Decidable (l.timeout now) :=
  match h : l.lastRegisterSent with
  | none => isFalse (by simp [timeout, h])
  | some sent => decidable_of_iff (l.regTimeout ≤ elapsedMs now sent) (by simp [timeout, h])

end RegistrationLoop

/-! ## Servers -/

def withPort (server port : String) : String :=
  if server.toList.contains ':' then server else server ++ ":" ++ port

def rendezvousAddr (config : RustDeskConfig) : String :=
  if config.rendezvousServer = "" then "" else withPort config.rendezvousServer "21116"

def normalizeRelayServer (server : String) : Option String :=
  let trimmed := Config.trimMatches Config.isWhitespace server
  if trimmed = "" then none else some (withPort trimmed "21117")

def selectRelayServer (localRelay : Option String) (serverRelay : String) : Option String :=
  (localRelay.bind normalizeRelayServer).or (normalizeRelayServer serverRelay)

/-! ## The loop -/

namespace State

def record (s : State) (entry : Entry) : State :=
  { s with log := s.log ++ [(s.now, entry)] }

def emit (s : State) (output : Output) : State := s.record (.sent output)

def incrementSerial (s : State) : State := { s with serial := s.serial + 1 }

def sendRegisterPeer (s : State) (io : Io) : Option State :=
  if io.sends then some (s.emit (.registerPeer s.config.deviceId s.serial)) else none

def sendRegisterPk (s : State) (io : Io) : Option State :=
  if io.sends then some (s.emit (.registerPk s.config.deviceId s.uuid s.signingKey "")) else none

/-- Send registration message. -/
def sendRegister (s : State) (io : Io) : Option State :=
  if !s.keyConfirmed then s.sendRegisterPk io else s.sendRegisterPeer io

/-- Send the local address; without one there is nothing to send. -/
def sendLocalAddr (s : State) (io : Io) (peerSocketAddr : Bytes) (relayServer : String) : State :=
  match io.localAddresses with
  | [] => s
  | localIp :: _ =>
    if s.intranetCallback then
      s.emit (.intranet (rendezvousAddr s.config) peerSocketAddr localIp s.listenPort relayServer
        s.config.deviceId)
    else s

def onRegisterPkResponse (s : State) (result keepAlive : Int32) : State :=
  let t :=
    if result = 0 then
      { ({ s with keyConfirmed := true } : State).incrementSerial with status := .registered }
    else if result = 2 then { s with keyConfirmed := false }
    else if result = 3 then { s with status := .error "Device ID already exists" }
    else if result = 5 then { s with status := .error "Invalid ID format" }
    else s
  if keepAlive > 0 then { t with keepAliveMs := keepAlive * 1000 } else t

/-- A hole is to be punched; decoding the address may panic. -/
def onPunchHole (s : State) (io : Io) (socketAddr : Bytes) (relayServer : String)
    (natType : Option NatType) : Option State :=
  let effective := selectRelayServer s.config.relayServer relayServer
  let peerAddr := if socketAddr = [] then .ok none else AddrMangle.decode socketAddr
  match peerAddr with
  | .error _ => none
  | .ok peerAddr =>
    let t :=
      if io.sends then
        s.emit (.punchHoleSent socketAddr s.config.deviceId (effective.getD relayServer)
          (natType.getD .unknownNat) "0.1.9")
      else s
    match effective with
    | none => some t
    | some relay =>
      if s.punchCallback then
        some (t.emit (.punch peerAddr (rendezvousAddr s.config) relay io.relayUuid socketAddr
          s.config.deviceId))
      else if s.relayCallback then
        some (t.emit (.relay (rendezvousAddr s.config) relay io.relayUuid socketAddr
          s.config.deviceId))
      else some t

def onRequestRelay (s : State) (uuid : String) (socketAddr : Bytes) (relayServer : String) : State :=
  match s.relayCallback, selectRelayServer s.config.relayServer relayServer with
  | true, some relay =>
    s.emit (.relay (rendezvousAddr s.config) relay uuid socketAddr s.config.deviceId)
  | _, _ => s

/-- The loop has returned an error, or panicked. -/
def failed (s : State) : State := { s with registration := none }

/-- Handle response from rendezvous server. -/
def handleResponse (s : State) (io : Io) (l : RegistrationLoop) (msg : RendezvousMessage) : State :=
  let s :=
    { s.record (.received msg) with
      registration :=
        some { l with
          lastRegisterResp := some s.now, fails := 0, regTimeout := minRegTimeoutMs } }
  match msg with
  | .registerPeerResponse requestPk =>
    if requestPk then
      let s := { s with keyConfirmed := false }
      match s.sendRegisterPk io with
      | some t => { t with status := .registered }
      | none => s.failed
    else { s with status := .registered }
  | .registerPkResponse result keepAlive => s.onRegisterPkResponse result keepAlive
  | .punchHole socketAddr relayServer natType =>
    (s.onPunchHole io socketAddr relayServer natType).getD s.failed
  | .requestRelay uuid socketAddr relayServer => s.onRequestRelay uuid socketAddr relayServer
  | .fetchLocalAddr socketAddr relayServer =>
    match AddrMangle.decode socketAddr with
    | .error _ => s.failed
    | .ok _ =>
      s.sendLocalAddr io socketAddr
        ((selectRelayServer s.config.relayServer relayServer).getD "")
  | .configureUpdate serial => { s with serial }
  | .other | .empty => s

/-- The timer has ticked. -/
def tick (s : State) (io : Io) (l : RegistrationLoop) : State :=
  let timeout := l.timeout s.now
  let next :=
    if timeout ∧ l.regTimeout < maxRegTimeoutMs then
      { l with regTimeout := l.regTimeout + minRegTimeoutMs, fails := l.fails + 1 }
    else l
  if timeout ∨ (l.lastRegisterSent = none ∧ l.expired s.now) then
    match s.sendRegister io with
    | some t => { t with registration := some { next with lastRegisterSent := some s.now } }
    | none => s.failed
  else { s with registration := some next }

/-- The loop has been left. -/
def disconnect (s : State) : State := { s with registration := none, status := .disconnected }

end State

/-- What the socket gives. -/
inductive Received
  | message (msg : RendezvousMessage)
  | undecodable
  | error (reason : String)
  deriving DecidableEq

inductive Event
  | recv (io : Io) (received : Received)
  | tick (io : Io)
  | shutdown
  | stop
  | setListenPort (port : UInt16)
  | updateConfig (config : RustDeskConfig)
  | pass (nanos : Nat)

def step (s : State) : Event → Option State
  | .recv io received =>
    s.registration.map fun l =>
      match received with
      | .message msg => s.handleResponse io l msg
      | .undecodable => s
      | .error _ => s.disconnect
  | .tick io => s.registration.map fun l => s.tick io l
  | .shutdown => s.registration.map fun _ => s.disconnect
  | .stop => some { s with status := .disconnected }
  | .setListenPort port =>
    some (if s.listenPort = port then s else { s with listenPort := port }.incrementSerial)
  | .updateConfig config => some { s with config }.incrementSerial
  | .pass nanos => some { s with now := s.now + nanos }

/-- The runs of a loop that has just been entered, whatever the mediator has kept from loops
before. -/
def system : TSys State Event :=
  .ofFn (fun s => s.status = .connected ∧ s.registration = some {} ∧ s.log = []) step

end StreamBox.RustDesk.Rendezvous
