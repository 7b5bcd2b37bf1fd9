import StreamBox.RustDesk.LoginGate

/-!
# The frames a connection sends

The sending side of a connection on its own, and what the handlers do to it.

* **Line** — a session key, a sequence number, the frames handed to the socket so
  far, each with what it is sealed under.
* **Dispatch** — `Message.talk` is what a message does to the line;
  `dispatch_line`: the handlers do exactly that, and `dispatch_fails_iff`: they fail
  exactly when their answer is not sent.
* **Loop** — `LoopEvent.talk` and `step_line`: the same for the events of the loop.
-/

namespace StreamBox.RustDesk

open StreamBox.Lib

/-! ## The line -/

/-- A frame handed to the socket: the key and the number it is sealed under, or
plain. -/
abbrev Frame := Option (Bytes × Nat)

/-- The sending side of a connection. -/
structure Line where
  key : Option Bytes
  seqnum : Nat
  frames : List Frame
  deriving DecidableEq, Repr

namespace Line

/-- Send a frame, sealed under the next number once a key is set. -/
def say (l : Line) : Line :=
  match l.key with
  | some key =>
      { l with seqnum := l.seqnum + 1, frames := l.frames ++ [some (key, l.seqnum + 1)] }
  | none => { l with frames := l.frames ++ [none] }

/-- Send a frame as it is. -/
def sayPlain (l : Line) : Line := { l with frames := l.frames ++ [none] }

/-- Take a key, if one is offered; the number goes on. -/
def install (l : Line) (offered : Option Bytes) : Line := { l with key := offered <|> l.key }

end Line

/-- The session key a PublicKey message carries for us. -/
def offeredKey (env : Env) (pk : PublicKey) : Option Bytes :=
  if pk.asymmetricValue.length = 32 ∧ pk.symmetricValue ≠ [] then
    Session.decryptSymmetricKey env pk.asymmetricValue pk.symmetricValue
  else none

/-- What a message makes the connection send. -/
def Message.talk (env : Env) (l : Line) : Message → Line
  | .publicKey pk => (l.install (offeredKey env pk)).say
  | .loginRequest _ => l.say
  | .testDelay td => if td.fromClient then l.say else l
  | .signedId _ => l.sayPlain
  | .keyEvent _ | .mouseEvent _ | .clipboard | .misc _ | .other _ | .empty => l

def Effect.frame : Effect → Option Frame
  | .send sealing _ => some sealing
  | _ => none

namespace Session

/-- The sending side of a session. -/
def line (s : Session) : Line where
  key := s.conn.sessionKey
  seqnum := s.conn.encSeqnum
  frames := s.effects.filterMap Effect.frame

@[simp] theorem line_emit_send (s : Session) (sealing : Frame) (r : Reply) :
    (s.emit (.send sealing r)).line = { s.line with frames := s.line.frames ++ [sealing] } := by
  simp [line, Effect.frame]

theorem line_emit {s : Session} {e : Effect} (he : e.frame = none) : (s.emit e).line = s.line := by
  simp [line, he]

/-! ## The handlers -/

theorem sendEncrypted_line (io : Io) (s : Session) (r : Reply) :
    (sendEncrypted io s r).2.line = s.line.say := by
  unfold sendEncrypted sendFramed Line.say
  cases hkey : s.conn.sessionKey <;> simp [line, hkey, Effect.frame]

theorem handlePeerPublicKey_line (env : Env) (io : Io) (s : Session) (pk : PublicKey) :
    (handlePeerPublicKey env io s pk).2.line = (s.line.install (offeredKey env pk)).say := by
  unfold handlePeerPublicKey offeredKey
  rw [sendEncrypted_line]
  split_ifs
  · cases decryptSymmetricKey env pk.asymmetricValue pk.symmetricValue <;> rfl
  · rfl

theorem handleSignedId_line (env : Env) (io : Io) (s : Session) (si : SignedId) :
    (handleSignedId env io s si).2.line = s.line.sayPlain := by
  unfold handleSignedId sendFramed
  simp only [line_emit_send, Line.sayPlain]
  split
  · split <;> rfl
  · rfl

theorem currentCodecConstraints_line (io : Io) (s : Session) :
    (currentCodecConstraints io s).2.line = s.line := by
  unfold currentCodecConstraints
  split
  · exact line_emit rfl
  · rfl

theorem createLoginResponse_line (env : Env) (io : Io) (s : Session) :
    (createLoginResponse env io s).2.line = s.line := by
  unfold createLoginResponse
  simp only
  split
  · exact (line_emit rfl).trans (currentCodecConstraints_line io s)
  · exact currentCodecConstraints_line io s

theorem handleLoginRequest_line (env : Env) (io : Io) (s : Session) (lr : LoginRequest) :
    (handleLoginRequest env io s lr).2.line = s.line.say := by
  have hcalled : (s.emit (.loginRequest lr)).line = s.line := line_emit rfl
  unfold handleLoginRequest
  simp only
  split_ifs
  · rw [sendEncrypted_line, hcalled]
  · rw [sendEncrypted_line, hcalled]
  · rw [sendEncrypted_line, createLoginResponse_line]
    have hnegotiated (s' : Session) : (negotiateVideoCodec env io s').2.line = s'.line :=
      currentCodecConstraints_line io s'
    exact congrArg Line.say ((hnegotiated _).trans hcalled)

theorem startVideoStreaming_line (s : Session) : (startVideoStreaming s).line = s.line := by
  unfold startVideoStreaming
  split
  · exact line_emit rfl
  · rfl

theorem startAudioStreaming_line (s : Session) : (startAudioStreaming s).line = s.line := by
  unfold startAudioStreaming
  split
  · exact line_emit rfl
  · rfl

theorem startStreaming_line (s : Session) : (startStreaming s).line = s.line := by
  have hvideo := startVideoStreaming_line (s.update fun c => { c with videoFrameTx := true })
  simp only [startStreaming]
  split_ifs
  · rfl
  · exact startAudioStreaming_line _
  · exact hvideo
  · exact (startAudioStreaming_line _).trans hvideo

theorem applyPreferredCodec_line (env : Env) (io : Io) (s : Session)
    (codec : Video.VideoCodecType) : (applyPreferredCodec env io s codec).line = s.line := by
  have hquery := currentCodecConstraints_line io s
  simp only [applyPreferredCodec, switchVideoCodec]
  split_ifs
  · rfl
  · exact hquery
  · exact (startVideoStreaming_line _).trans hquery
  · exact hquery
  · exact hquery

theorem applyImageQuality_line (s : Session) (imageQuality : Int) :
    (applyImageQuality s imageQuality).line = s.line := by
  unfold applyImageQuality
  split
  · split
    · exact line_emit rfl
    · rfl
  · rfl

theorem handleMisc_line (env : Env) (io : Io) (s : Session) (misc : Misc) :
    (handleMisc env io s misc).line = s.line := by
  cases misc with
  | option opt =>
    simp only [handleMisc, handleOptionMessage]
    split
    · rw [applyPreferredCodec_line, applyImageQuality_line]
    · rw [applyImageQuality_line]
  | refreshVideo refresh =>
    simp only [handleMisc]
    split
    · exact line_emit rfl
    · rfl
  | switchDisplay | videoReceived | other => rfl

theorem sendKeyboard_line (s : Session) (event : Hid.KeyboardEvent) :
    (sendKeyboard s event).line = s.line := by
  unfold sendKeyboard
  split
  · exact line_emit rfl
  · rfl

theorem handleKeyEvent_line (s : Session) (ke : KeyEvent) :
    (handleKeyEvent s ke).line = s.line := by
  simp only [handleKeyEvent]
  split_ifs <;> split <;> simp only [sendKeyboard_line] <;> rfl

theorem handleMouseEvent_line (io : Io) (s : Session) (me : MouseEvent) :
    (handleMouseEvent io s me).line = s.line := by
  have hmoved (s' : Session) (events : List Hid.MouseEvent) :
      (⟨s'.conn, s'.effects ++ events.map .mouse⟩ : Session).line = s'.line := by
    have hnone : (events.map Effect.mouse).filterMap Effect.frame = [] := by
      simp [List.filterMap_map, Function.comp_def, Effect.frame]
    simp [line, hnone]
  simp only [handleMouseEvent, foldl_emit_mouse]
  split_ifs
  · rfl
  · exact hmoved _ _
  · rfl
  · exact hmoved _ _
  · rfl

theorem handleTestDelay_line (io : Io) (s : Session) (td : TestDelay) :
    (handleTestDelay io s td).2.line = if td.fromClient then s.line.say else s.line := by
  unfold handleTestDelay
  split
  · exact sendEncrypted_line _ _ _
  · split <;> rfl

/-- **Dispatch.** A message does to the line what `talk` says. -/
theorem dispatch_line (env : Env) (io : Io) (s : Session) (msg : Message) :
    (dispatch env io s msg).2.line = msg.talk env s.line := by
  cases msg with
  | publicKey pk => exact handlePeerPublicKey_line env io s pk
  | loginRequest lr =>
    have hlogin := handleLoginRequest_line env io
      (s.update fun c => { c with peerId := lr.myId, peerName := lr.myName }) lr
    simp only [dispatch, Message.talk]
    generalize handleLoginRequest env io _ lr = r at hlogin
    obtain ⟨e | accepted, s'⟩ := r
    · exact hlogin
    · cases accepted with
      | true => exact (startStreaming_line s').trans hlogin
      | false => exact hlogin
  | keyEvent ke =>
    simp only [dispatch, Message.talk]
    split
    · exact handleKeyEvent_line s ke
    · rfl
  | mouseEvent me =>
    simp only [dispatch, Message.talk]
    split
    · exact handleMouseEvent_line io s me
    · rfl
  | misc misc => exact handleMisc_line env io s misc
  | testDelay td => exact handleTestDelay_line io s td
  | signedId si => exact handleSignedId_line env io s si
  | clipboard | other | empty => rfl

/-- Whether a message is answered with a frame. -/
def answered : Message → Bool
  | .publicKey _ | .loginRequest _ | .signedId _ => true
  | .testDelay td => td.fromClient
  | .keyEvent _ | .mouseEvent _ | .clipboard | .misc _ | .other _ | .empty => false

theorem talk_of_not_answered {env : Env} {msg : Message} (h : answered msg = false) (l : Line) :
    msg.talk env l = l := by
  cases msg with
  | testDelay td => exact if_neg (by simpa [answered] using h)
  | publicKey | loginRequest | signedId => cases h
  | keyEvent | mouseEvent | clipboard | misc | other | empty => rfl

theorem sendEncrypted_result (io : Io) (s : Session) (r : Reply) :
    (sendEncrypted io s r).1 = sent io := by
  unfold sendEncrypted sendFramed
  split <;> rfl

/-- A handler fails exactly when its answer is not sent. -/
theorem dispatch_fails_iff (env : Env) (io : Io) (s : Session) (msg : Message) :
    (dispatch env io s msg).1 ≠ .ok () ↔ answered msg = true ∧ io.sendOk = false := by
  have hsent : sent io ≠ .ok () ↔ io.sendOk = false := by
    unfold sent
    cases io.sendOk <;> simp
  cases msg with
  | publicKey pk =>
    simp only [dispatch, handlePeerPublicKey, sendEncrypted_result, answered, true_and, hsent]
  | signedId si => simp only [dispatch, handleSignedId, sendFramed, answered, true_and, hsent]
  | loginRequest lr =>
    have hlogin (s : Session) : (∃ accepted, (handleLoginRequest env io s lr).1 = .ok accepted) ↔
        sent io = .ok () := by
      simp only [handleLoginRequest]
      split_ifs <;> cases hok : sent io <;> simp [sendEncrypted_result, hok, Except.map]
    simp only [dispatch, answered, true_and, ← hsent]
    rw [ne_eq, ne_eq, not_iff_not, ← hlogin]
    generalize handleLoginRequest env io _ lr = r
    obtain ⟨e | accepted, s'⟩ := r
    · simp
    · cases accepted <;> simp
  | testDelay td =>
    simp only [dispatch, handleTestDelay, answered]
    split
    · rename_i hclient
      simp only [sendEncrypted_result, hclient, true_and, hsent]
    · rename_i hclient
      cases s.conn.lastTestDelaySent <;> simp [hclient]
  | keyEvent | mouseEvent | clipboard | misc | other | empty => simp [dispatch, answered]

/-- The message of a frame, dispatched on a connection that has its line. -/
theorem handleMessage_line (env : Env) (io : Io) (c : Connection) (data : Bytes) :
    (handleMessage env io c data).2.line =
      match received env c data with
      | some msg => msg.talk env (Session.mk c []).line
      | none => (Session.mk c []).line := by
  obtain ⟨n, hconn⟩ := receive_conn env c data
  have hline : (Session.mk (receive env c data).1 []).line = (Session.mk c []).line := by
    rw [hconn]
    rfl
  rw [handleMessage_eq]
  cases received env c data with
  | some msg => exact (dispatch_line env io _ msg).trans (congrArg (msg.talk env ·) hline)
  | none => exact hline

theorem handleMessage_ok {env : Env} {io : Io} {c : Connection} {data : Bytes}
    (h : (handleMessage env io c data).1 = .ok ()) :
    ∃ msg, received env c data = some msg ∧ (answered msg = true → io.sendOk = true) := by
  simp only [handleMessage] at h
  split at h
  · rename_i msg hmsg
    refine ⟨msg, by simp [received, hmsg, Except.toOption], fun hanswered => ?_⟩
    by_contra hsend
    exact (dispatch_fails_iff env io _ msg).mpr ⟨hanswered, by simpa using hsend⟩ h
  · cases h

end Session

/-! ## The loop -/

namespace Loop

open Session

/-- The sending side of a connection before an event. -/
def line (l : Loop) : Line := (Session.mk l.conn []).line

/-- The frames an event hands to the socket. -/
def frames (env : Env) (l : Loop) : LoopEvent → List Frame
  | .media _ => [l.conn.sessionKey.map fun key => (key, l.conn.encSeqnum + 1)]
  | e => (stepEffects env l e).filterMap Effect.frame

/-- The event makes the connection send a frame. -/
def Sends (env : Env) (c : Connection) : LoopEvent → Prop
  | .frame data _ => ∃ msg, received env c data = some msg ∧ answered msg = true
  | .media _ => True
  | .testDelayTick _ => c.state = .active ∧ c.lastTestDelaySent = none
  | .shutdown | .closeAll => False

/-- Whether a frame sent at the event reaches the socket. -/
def delivered : LoopEvent → Bool
  | .frame _ io | .media io | .testDelayTick io => io.sendOk
  | .shutdown | .closeAll => true

end Loop

/-- What an event makes the connection send. -/
def LoopEvent.talk (env : Env) (l : Loop) : LoopEvent → Line
  | .frame data _ =>
      match Session.received env l.conn data with
      | some msg => msg.talk env l.line
      | none => l.line
  | .media _ => l.line.say
  | .testDelayTick _ =>
      if l.conn.state = .active ∧ l.conn.lastTestDelaySent = none then l.line.say else l.line
  | .shutdown | .closeAll => l.line

namespace Loop

open Session

theorem after_conn_line (r : Except String Unit × Session) :
    (after r).conn.sessionKey = r.2.conn.sessionKey ∧
      (after r).conn.encSeqnum = r.2.conn.encSeqnum := by
  unfold after ended
  split <;> exact ⟨rfl, rfl⟩

theorem sendTestDelay_line (io : Io) (s : Session) : (sendTestDelay io s).2.line = s.line.say := by
  unfold sendTestDelay
  rw [← sendEncrypted_line io s]
  dsimp only
  split <;> rfl

theorem tick_line (env : Env) (io : Io) (l : Loop) :
    (tick io l.conn).line = LoopEvent.talk env l (.testDelayTick io) := by
  unfold tick LoopEvent.talk
  split
  · exact sendTestDelay_line io _
  · rfl

/-- **Events.** An event does to the line what `talk` says. -/
theorem step_line {env : Env} {l l' : Loop} {e : LoopEvent} (hstep : step env l e = some l') :
    e.talk env l = ⟨l'.conn.sessionKey, l'.conn.encSeqnum, frames env l e⟩ := by
  cases e with
  | frame data io =>
    obtain ⟨-, hl⟩ := Option.ite_none_right_eq_some.mp hstep
    cases hl
    obtain ⟨hkey, hseqnum⟩ := after_conn_line (handleMessage env io l.conn data)
    rw [hkey, hseqnum]
    exact (handleMessage_line env io l.conn data).symm
  | media io =>
    obtain ⟨-, hl⟩ := Option.ite_none_right_eq_some.mp hstep
    cases hl
    unfold LoopEvent.talk Line.say sendMedia ended
    cases hkey : l.conn.sessionKey <;> cases io.sendOk <;>
      simp [line, Session.line, frames, hkey]
  | testDelayTick io =>
    obtain ⟨-, hl⟩ := Option.ite_none_right_eq_some.mp hstep
    cases hl
    exact (tick_line env io l).symm
  | shutdown =>
    obtain ⟨-, hl⟩ := Option.ite_none_right_eq_some.mp hstep
    cases hl
    rfl
  | closeAll =>
    cases hstep
    rfl

/-- The loop goes on after an event only if it ran, and after a handler only if its
answer was sent. -/
theorem step_running {env : Env} {l l' : Loop} {e : LoopEvent} (hstep : step env l e = some l')
    (hrun : l'.running = true) :
    l.running = true ∧ ∀ data io, e = .frame data io → Sends env l.conn e → io.sendOk = true := by
  cases e with
  | frame data io =>
    obtain ⟨hl, hafter⟩ := Option.ite_none_right_eq_some.mp hstep
    cases hafter
    refine ⟨hl, ?_⟩
    rintro _ _ ⟨⟩ ⟨msg, hmsg, hanswered⟩
    unfold after at hrun
    split at hrun
    · rename_i hok
      obtain ⟨msg', hmsg', hsent⟩ := handleMessage_ok hok
      exact hsent ((Option.some.inj (hmsg'.symm.trans hmsg)) ▸ hanswered)
    · cases hrun
  | media | testDelayTick | shutdown =>
    exact ⟨(Option.ite_none_right_eq_some.mp hstep).1, by simp⟩
  | closeAll =>
    cases hstep
    exact ⟨hrun, by simp⟩

end Loop

end StreamBox.RustDesk
