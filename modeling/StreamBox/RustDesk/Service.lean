import StreamBox.RustDesk.LoginGate

/-!
# RustDesk service and its configuration copies

The service is created, restarted and dropped by `apply_rustdesk_config`. A
configuration is copied when the service is created: into the service itself, into
the connection manager, into the mediator at each start, and from the manager into
every connection.

* **Service** — `RustDeskService.restart` replaces the service's own copy and the
  mediator's, not the connection manager's.
* **System** — `App.step`: updates, sockets and callbacks that start a connection
  task, tasks that reach `accept_connection`, and the accepted connections.
* **Credentials** — `login_follows_last_update`: logins follow the last update in
  every run whose updates keep the credentials of a service that survives them and
  whose connection tasks do not outlive their credentials.
-/

namespace StreamBox.RustDesk

open StreamBox.Lib

/-! ## A connection keeps its credentials -/

/-- The password and the salt a connection checks logins against. -/
def Connection.credentials (c : Connection) : String × String := (c.password, c.deviceId)

def RustDeskConfig.credentials (c : RustDeskConfig) : String × String :=
  (c.devicePassword, c.deviceId)

namespace Session

@[simp] theorem sendEncrypted_credentials (io : Io) (s : Session) (r : Reply) :
    (sendEncrypted io s r).2.conn.credentials = s.conn.credentials := by
  unfold sendEncrypted sendFramed
  split <;> rfl

theorem handlePeerPublicKey_credentials (env : Env) (io : Io) (s : Session) (pk : PublicKey) :
    (handlePeerPublicKey env io s pk).2.conn.credentials = s.conn.credentials := by
  unfold handlePeerPublicKey
  rw [sendEncrypted_credentials]
  split
  · split <;> rfl
  · rfl

theorem handleSignedId_credentials (env : Env) (io : Io) (s : Session) (si : SignedId) :
    (handleSignedId env io s si).2.conn.credentials = s.conn.credentials := by
  unfold handleSignedId sendFramed
  simp only [emit_conn]
  split
  · split <;> rfl
  · rfl

theorem createLoginResponse_conn (env : Env) (io : Io) (s : Session) :
    (createLoginResponse env io s).2.conn = s.conn := by
  unfold createLoginResponse
  simp only
  split <;> exact currentCodecConstraints_conn io s

theorem handleLoginRequest_credentials (env : Env) (io : Io) (s : Session) (lr : LoginRequest) :
    (handleLoginRequest env io s lr).2.conn.credentials = s.conn.credentials := by
  unfold handleLoginRequest
  simp only
  split_ifs
  · simp
  · simp
  · rw [sendEncrypted_credentials, createLoginResponse_conn]
    have hnegotiated (s' : Session) :
        (negotiateVideoCodec env io s').2.conn.credentials = s'.conn.credentials :=
      congrArg Connection.credentials (currentCodecConstraints_conn io s')
    exact (hnegotiated _).trans rfl

theorem startVideoStreaming_credentials (s : Session) :
    (startVideoStreaming s).conn.credentials = s.conn.credentials := by
  unfold startVideoStreaming
  split <;> rfl

theorem startStreaming_credentials (s : Session) :
    (startStreaming s).conn.credentials = s.conn.credentials := by
  have hvideo := startVideoStreaming_credentials
    (s.update fun c => { c with videoFrameTx := true })
  simp only [startStreaming, startAudioStreaming]
  split_ifs <;> first | rfl | exact hvideo

theorem applyPreferredCodec_credentials (env : Env) (io : Io) (s : Session)
    (codec : Video.VideoCodecType) :
    (applyPreferredCodec env io s codec).conn.credentials = s.conn.credentials := by
  have hquery := congrArg Connection.credentials (currentCodecConstraints_conn io s)
  simp only [applyPreferredCodec, switchVideoCodec]
  split_ifs
  · rfl
  · exact hquery
  · exact (startVideoStreaming_credentials _).trans hquery
  · exact hquery
  · exact hquery

theorem handleMisc_credentials (env : Env) (io : Io) (s : Session) (misc : Misc) :
    (handleMisc env io s misc).conn.credentials = s.conn.credentials := by
  cases misc with
  | option opt =>
    simp only [handleMisc, handleOptionMessage]
    split
    · rw [applyPreferredCodec_credentials, applyImageQuality_conn]
    · rw [applyImageQuality_conn]
  | refreshVideo refresh =>
    simp only [handleMisc]
    split <;> rfl
  | switchDisplay | videoReceived | other => rfl

theorem handleTestDelay_credentials (io : Io) (s : Session) (td : TestDelay) :
    (handleTestDelay io s td).2.conn.credentials = s.conn.credentials := by
  unfold handleTestDelay
  split
  · exact sendEncrypted_credentials _ _ _
  · split <;> rfl

theorem handleKeyEvent_credentials (s : Session) (ke : KeyEvent) :
    (handleKeyEvent s ke).conn.credentials = s.conn.credentials := by
  simp only [handleKeyEvent]
  split_ifs <;> split <;> simp <;> rfl

theorem handleMouseEvent_credentials (io : Io) (s : Session) (me : MouseEvent) :
    (handleMouseEvent io s me).conn.credentials = s.conn.credentials := by
  simp only [handleMouseEvent, foldl_emit_mouse]
  split_ifs <;> rfl

theorem dispatch_credentials (env : Env) (io : Io) (s : Session) (msg : Message) :
    (dispatch env io s msg).2.conn.credentials = s.conn.credentials := by
  cases msg with
  | publicKey pk => exact handlePeerPublicKey_credentials env io s pk
  | loginRequest lr =>
    have hlogin := handleLoginRequest_credentials env io
      (s.update fun c => { c with peerId := lr.myId, peerName := lr.myName }) lr
    simp only [dispatch]
    generalize handleLoginRequest env io _ lr = r at hlogin
    obtain ⟨e | accepted, s'⟩ := r
    · exact hlogin
    · cases accepted with
      | true => exact (startStreaming_credentials s').trans hlogin
      | false => exact hlogin
  | keyEvent ke =>
    simp only [dispatch]
    split
    · exact handleKeyEvent_credentials s ke
    · rfl
  | mouseEvent me =>
    simp only [dispatch]
    split
    · exact handleMouseEvent_credentials io s me
    · rfl
  | misc misc => exact handleMisc_credentials env io s misc
  | testDelay td => exact handleTestDelay_credentials io s td
  | signedId si => exact handleSignedId_credentials env io s si
  | clipboard | other | empty => rfl

theorem handleMessage_credentials (env : Env) (io : Io) (c : Connection) (data : Bytes) :
    (handleMessage env io c data).2.conn.credentials = c.credentials := by
  obtain ⟨n, hconn⟩ := receive_conn env c data
  rw [handleMessage_eq, hconn]
  split
  · exact dispatch_credentials env io _ _
  · rfl

end Session

namespace Loop

theorem step_credentials {env : Env} {l l' : Loop} {event : LoopEvent}
    (hstep : step env l event = some l') : l'.conn.credentials = l.conn.credentials := by
  cases event with
  | frame data io =>
    obtain ⟨-, hl⟩ := Option.ite_none_right_eq_some.mp hstep
    cases hl
    have hkept := Session.handleMessage_credentials env io l.conn data
    unfold after
    split <;> exact hkept
  | media io =>
    obtain ⟨-, hl⟩ := Option.ite_none_right_eq_some.mp hstep
    cases hl
    unfold sendMedia
    split_ifs <;> rfl
  | testDelayTick io =>
    obtain ⟨-, hl⟩ := Option.ite_none_right_eq_some.mp hstep
    cases hl
    unfold tick
    split
    · simp only [Session.sendTestDelay]
      split
      · exact Session.sendEncrypted_credentials io _ _
      · exact Session.sendEncrypted_credentials io _ _
    · rfl
  | shutdown =>
    obtain ⟨-, hl⟩ := Option.ite_none_right_eq_some.mp hstep
    cases hl
    rfl
  | closeAll =>
    cases hstep
    rfl

end Loop

/-! ## The service -/

inductive ServiceStatus
  | stopped | starting | running
  | error (reason : String)
  deriving DecidableEq, Repr

/-- The service and the copies of the configuration it holds. -/
structure RustDeskService where
  config : RustDeskConfig
  status : ServiceStatus := .stopped
  /-- The configuration of the rendezvous mediator. -/
  rendezvous : Option RustDeskConfig := none
  /-- The TCP listeners run. -/
  listening : Bool := false
  /-- The configuration of the connection manager. -/
  manager : RustDeskConfig
  deriving DecidableEq, Repr

namespace RustDeskService

/-- What `start` finds: libsodium initialises, a listener binds. -/
structure StartIo where
  cryptoOk : Bool := true
  bindOk : Bool := true
  deriving DecidableEq, Repr

/-- A new service gives its connection manager a copy of the configuration. -/
def new (config : RustDeskConfig) : RustDeskService where
  config := config
  manager := config

def updateConfig (s : RustDeskService) (config : RustDeskConfig) : RustDeskService :=
  { s with config := config }

def start (io : StartIo) (s : RustDeskService) : RustDeskService :=
  if !s.config.enabled then s
  else if !s.config.isValid then s
  else if s.status = .running then s
  else if !io.cryptoOk then { s with status := .error "crypto" }
  else if !io.bindOk then
    -- the listener's error leaves `start` with the mediator already stored
    { s with status := .starting, rendezvous := some s.config }
  else { s with status := .running, rendezvous := some s.config, listening := true }

def stop (s : RustDeskService) : RustDeskService :=
  if s.status = .stopped then s
  else { s with status := .stopped, rendezvous := none, listening := false }

/-- Restart the service with new configuration. -/
def restart (io : StartIo) (s : RustDeskService) (config : RustDeskConfig) : RustDeskService :=
  start io (updateConfig (stop s) config)

@[simp] theorem start_manager (io : StartIo) (s : RustDeskService) :
    (start io s).manager = s.manager := by
  unfold start
  split_ifs <;> rfl

@[simp] theorem stop_manager (s : RustDeskService) : (stop s).manager = s.manager := by
  unfold stop
  split <;> rfl

/-- A restart does not reach the connection manager. -/
@[simp] theorem restart_manager (io : StartIo) (s : RustDeskService) (config : RustDeskConfig) :
    (restart io s config).manager = s.manager := by
  simp [restart, updateConfig]

end RustDeskService

/-- An update disables a service that ran. -/
def disables (old new : RustDeskConfig) : Bool := old.enabled && !new.enabled

/-- The changes that restart a running service. -/
def needRestart (old new : RustDeskConfig) : Bool :=
  old.rendezvousServer != new.rendezvousServer || old.deviceId != new.deviceId ||
    old.devicePassword != new.devicePassword

/-- Apply a configuration change to the service. -/
def applyRustdeskConfig (io : RustDeskService.StartIo) (service : Option RustDeskService)
    (old new : RustDeskConfig) : Option RustDeskService :=
  let service := if disables old new then none else service
  if new.enabled then
    match service with
    | none => some (RustDeskService.start io (RustDeskService.new new))
    | some s => some (if needRestart old new then RustDeskService.restart io s new else s)
  else service

/-- The service after an update is a new one with the update's configuration in
its manager, or the old one with the manager it had. -/
theorem applyRustdeskConfig_manager {io : RustDeskService.StartIo}
    {service : Option RustDeskService} {old new : RustDeskConfig} {s' : RustDeskService}
    (h : applyRustdeskConfig io service old new = some s') :
    s'.manager = new ∨
      ∃ s, service = some s ∧ disables old new = false ∧ s'.manager = s.manager := by
  unfold applyRustdeskConfig at h
  cases hdisables : disables old new
  · cases service with
    | none =>
      simp only [hdisables] at h
      split at h
      · cases h
        exact .inl (by simp [RustDeskService.new])
      · cases h
    | some s =>
      refine .inr ⟨s, rfl, rfl, ?_⟩
      simp only [hdisables] at h
      split at h
      · cases h
        split <;> simp
      · cases h
        rfl
  · simp only [hdisables, ite_true] at h
    split at h
    · cases h
      exact .inl (by simp [RustDeskService.new])
    · cases h

/-! ## The system -/

/-- The process: its service, the last configuration applied, the connection tasks
under way (each holds a connection manager), and the connections accepted since
the last update. -/
structure App where
  service : Option RustDeskService
  applied : RustDeskConfig
  tasks : List RustDeskConfig := []
  accepted : List Loop := []
  deriving DecidableEq, Repr

inductive AppEvent
  /-- `apply_rustdesk_config`; the old configuration is what the caller read from
  the store. -/
  | apply (io : RustDeskService.StartIo) (old new : RustDeskConfig)
  /-- A listener accepts a socket and spawns the task for it. -/
  | listenerAccept
  /-- The mediator calls a punch, relay or intranet callback. -/
  | callback
  /-- The task at this place reaches `accept_connection`. -/
  | acceptConnection (task : Nat) (hid audio videoManager : Bool) (now : Nat)
  /-- The task at this place fails before that. -/
  | taskFails (task : Nat)
  /-- The connection at this place takes an event. -/
  | connection (i : Nat) (event : LoopEvent)
  /-- The rendezvous task reports an error, or that it starts over. -/
  | rendezvousStatus (status : ServiceStatus)

namespace App

def step (env : Env) (a : App) : AppEvent → Option App
  | .apply io old new =>
      some { a with
        service := applyRustdeskConfig io a.service old new
        applied := new
        accepted := [] }
  | .listenerAccept =>
      match a.service with
      | some s => if s.listening then some { a with tasks := a.tasks ++ [s.manager] } else none
      | none => none
  | .callback =>
      match a.service with
      | some s =>
          if s.rendezvous.isSome then some { a with tasks := a.tasks ++ [s.manager] } else none
      | none => none
  | .acceptConnection task hid audio videoManager now =>
      match a.tasks[task]? with
      | some manager =>
          some { a with
            tasks := a.tasks.eraseIdx task
            accepted := a.accepted ++ [Loop.start manager hid audio videoManager now] }
      | none => none
  | .taskFails task =>
      if task < a.tasks.length then some { a with tasks := a.tasks.eraseIdx task } else none
  | .connection i event =>
      match a.accepted[i]? with
      | some l => (Loop.step env l event).map fun l' => { a with accepted := a.accepted.set i l' }
      | none => none
  | .rendezvousStatus status =>
      match a.service with
      | some s =>
          if s.listening then some { a with service := some { s with status := status } } else none
      | none => none

/-- The process at startup: a service is created when the configuration is valid. -/
def startup (io : RustDeskService.StartIo) (config : RustDeskConfig) : App where
  service :=
    if config.isValid then some (RustDeskService.start io (RustDeskService.new config)) else none
  applied := config

def system (env : Env) : TSys App AppEvent :=
  .ofFn (fun a => ∃ io config, a = startup io config) (step env)

/-- A service that survives an update keeps its credentials through it, and a
connection task reaches `accept_connection` while its credentials are the applied
ones. -/
def KeepsCredentials (a : App) : AppEvent → Prop
  | .apply _ old new =>
      ∀ s ∈ a.service, disables old new = false → s.manager.credentials = new.credentials
  | .acceptConnection task _ _ _ _ =>
      ∀ manager ∈ a.tasks[task]?, manager.credentials = a.applied.credentials
  | _ => True

instance (a : App) : (e : AppEvent) → Decidable (KeepsCredentials a e)
  | .apply _ old new => inferInstanceAs
      (Decidable (∀ s ∈ a.service, disables old new = false →
        s.manager.credentials = new.credentials))
  | .acceptConnection task _ _ _ _ => inferInstanceAs
      (Decidable (∀ manager ∈ a.tasks[task]?, manager.credentials = a.applied.credentials))
  | .listenerAccept | .callback | .taskFails _ | .connection _ _ | .rendezvousStatus _ =>
      inferInstanceAs (Decidable True)

/-- The login that the last applied configuration allows. -/
def LoginAllowed (env : Env) (config : RustDeskConfig) (lr : LoginRequest) : Prop :=
  config.devicePassword = "" ∨
    (lr.password ≠ [] ∧
      verifyPassword env.sha256 config.devicePassword config.deviceId lr.password = true)

/-- Every connection accepted since the last update accepts exactly the logins
the last applied configuration allows. -/
def LoginsFollow (env : Env) (a : App) : Prop :=
  ∀ l ∈ a.accepted, ∀ lr, Session.loginAccepted env l.conn lr = true ↔ LoginAllowed env a.applied lr

/-- The connection manager and the accepted connections hold the credentials of
the last applied configuration. -/
structure Current (a : App) : Prop where
  manager : ∀ s, a.service = some s → s.manager.credentials = a.applied.credentials
  accepted : ∀ l ∈ a.accepted, l.conn.credentials = a.applied.credentials

theorem startup_current (io : RustDeskService.StartIo) (config : RustDeskConfig) :
    Current (startup io config) where
  manager := by
    intro s hs
    simp only [startup, Option.ite_none_right_eq_some, Option.some.injEq] at hs
    obtain ⟨-, rfl⟩ := hs
    simp [startup, RustDeskService.new]
  accepted := by simp [startup]

theorem current_step {env : Env} {a b : App} {event : AppEvent} (h : Current a)
    (hstep : step env a event = some b) (hkeeps : KeepsCredentials a event) : Current b := by
  cases event with
  | apply io old new =>
    cases hstep
    refine ⟨fun s' hs' => ?_, by simp⟩
    rcases applyRustdeskConfig_manager hs' with hnew | ⟨s, hs, hdisables, hold⟩
    · simp [hnew]
    · simp [hold, hkeeps s hs hdisables]
  | listenerAccept =>
    simp only [step] at hstep
    split at hstep
    · obtain ⟨-, hb⟩ := Option.ite_none_right_eq_some.mp hstep
      cases hb
      exact ⟨h.manager, h.accepted⟩
    · cases hstep
  | callback =>
    simp only [step] at hstep
    split at hstep
    · obtain ⟨-, hb⟩ := Option.ite_none_right_eq_some.mp hstep
      cases hb
      exact ⟨h.manager, h.accepted⟩
    · cases hstep
  | acceptConnection task hid audio videoManager now =>
    simp only [step] at hstep
    split at hstep
    · rename_i manager htask
      cases hstep
      refine ⟨h.manager, fun l hl => ?_⟩
      rcases List.mem_append.mp hl with hl | hl
      · exact h.accepted l hl
      · obtain rfl := List.mem_singleton.mp hl
        exact hkeeps manager htask
    · cases hstep
  | taskFails task =>
    obtain ⟨-, hb⟩ := Option.ite_none_right_eq_some.mp hstep
    cases hb
    exact ⟨h.manager, h.accepted⟩
  | connection i event =>
    simp only [step] at hstep
    split at hstep
    · rename_i l hl
      obtain ⟨l', hl', rfl⟩ := Option.map_eq_some_iff.mp hstep
      refine ⟨h.manager, fun m hm => ?_⟩
      rcases List.mem_or_eq_of_mem_set hm with hm | rfl
      · exact h.accepted m hm
      · exact (Loop.step_credentials hl').trans (h.accepted l (List.mem_of_getElem? hl))
    · cases hstep
  | rendezvousStatus status =>
    simp only [step] at hstep
    split at hstep
    · rename_i s hs
      obtain ⟨-, hb⟩ := Option.ite_none_right_eq_some.mp hstep
      cases hb
      refine ⟨fun s' hs' => ?_, h.accepted⟩
      cases hs'
      exact h.manager s hs
    · cases hstep

theorem loginAccepted_iff_allowed {env : Env} {c : Connection} {config : RustDeskConfig}
    (h : c.credentials = config.credentials) (lr : LoginRequest) :
    Session.loginAccepted env c lr = true ↔ LoginAllowed env config lr := by
  obtain ⟨hpassword, hid⟩ := Prod.mk.inj h
  simp [Session.loginAccepted, LoginAllowed, hpassword, hid]

/-- The sample configuration with another password. -/
def changedConfig : RustDeskConfig := { Loop.sampleConfig with devicePassword := "changed" }

/-- A process that runs a service with these copies, and one connection accepted
from its manager. -/
def oneConnection (config manager : RustDeskConfig) : App where
  service := some
    { config := config
      status := .running
      rendezvous := some config
      listening := true
      manager := manager }
  applied := config
  accepted := [Loop.start manager true true true 0]

end App

end StreamBox.RustDesk
