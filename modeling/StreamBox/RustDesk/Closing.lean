import StreamBox.RustDesk.LoginGate

/-!
# Closing a connection from outside

`close` and `close_all` only write the state field; the connection's own task goes
on reading frames.

* **Lifecycle** — `Lifecycle.step`: the task starts, runs the loop and ends, and
  the state is set to Closed from outside at any point, also before the start.
* **Passive handlers** — `Session.Passive`: no handler but an accepted login
  changes the state, and none but the two input arms calls the HID controller.
* **Finality** — `closed_is_final`: while no login is accepted after the state was
  set to Closed, it is not Active again and no later input is passed on.
* **Revival** — `login_revives_closed`: a login accepted after `close_all` makes the
  connection Active, and its key events are passed on.
-/

namespace StreamBox.RustDesk

open StreamBox.Lib
open StreamBox.Video

/-- A call that hands input to the HID controller. -/
def Effect.isInput : Effect → Bool
  | .keyboard _ | .mouse _ => true
  | _ => false

namespace Session

/-! ## What the handlers leave alone -/

/-- The state is kept, and the calls made hand over no input. -/
structure Passive (s t : Session) : Prop where
  state : t.conn.state = s.conn.state
  effects : ∃ added, t.effects = s.effects ++ added ∧ ∀ e ∈ added, e.isInput = false

namespace Passive

theorem refl (s : Session) : Passive s s := ⟨rfl, [], by simp, by simp⟩

theorem trans {s t u : Session} (h : Passive s t) (h' : Passive t u) : Passive s u := by
  obtain ⟨hstate, added, heffects, hquiet⟩ := h
  obtain ⟨hstate', added', heffects', hquiet'⟩ := h'
  refine ⟨hstate'.trans hstate, added ++ added', by rw [heffects', heffects, List.append_assoc], ?_⟩
  intro e he
  exact (List.mem_append.mp he).elim (hquiet e) (hquiet' e)

theorem emit {s t : Session} (h : Passive s t) {e : Effect} (he : e.isInput = false) :
    Passive s (t.emit e) :=
  h.trans ⟨rfl, [e], rfl, by simpa using he⟩

theorem update {s t : Session} (h : Passive s t) {f : Connection → Connection}
    (hf : (f t.conn).state = t.conn.state) : Passive s (t.update f) :=
  h.trans ⟨hf, [], by simp, by simp⟩

end Passive

theorem sendEncrypted_passive (io : Io) (s : Session) (r : Reply) :
    Passive s (sendEncrypted io s r).2 := by
  unfold sendEncrypted sendFramed
  split
  · exact ((Passive.refl s).update rfl).emit rfl
  · exact (Passive.refl s).emit rfl

theorem handlePeerPublicKey_passive (env : Env) (io : Io) (s : Session) (pk : PublicKey) :
    Passive s (handlePeerPublicKey env io s pk).2 := by
  unfold handlePeerPublicKey
  refine Passive.trans ?_ (sendEncrypted_passive io _ _)
  split
  · split <;> exact (Passive.refl s).update rfl
  · exact (Passive.refl s).update rfl

theorem handleSignedId_passive (env : Env) (io : Io) (s : Session) (si : SignedId) :
    Passive s (handleSignedId env io s si).2 := by
  unfold handleSignedId sendFramed
  refine Passive.emit ?_ rfl
  split
  · split
    · exact (Passive.refl s).update rfl
    · exact Passive.refl s
  · exact Passive.refl s

theorem currentCodecConstraints_passive (io : Io) (s : Session) :
    Passive s (currentCodecConstraints io s).2 := by
  unfold currentCodecConstraints
  split
  · exact (Passive.refl s).emit rfl
  · exact Passive.refl s

theorem startVideoStreaming_passive (s : Session) : Passive s (startVideoStreaming s) := by
  unfold startVideoStreaming
  split
  · exact ((Passive.refl s).update rfl).emit rfl
  · exact Passive.refl s

theorem switchVideoCodec_passive (s : Session) (codec : VideoCodecType) :
    Passive s (switchVideoCodec s codec) := by
  unfold switchVideoCodec
  simp only
  have hupdate : Passive s
      (s.update fun c => { c with videoTask := none, negotiatedCodec := some codec }) :=
    (Passive.refl s).update rfl
  split
  · exact hupdate.trans (startVideoStreaming_passive _)
  · exact hupdate

theorem handleOptionMessage_passive (env : Env) (io : Io) (s : Session) (opt : OptionMessage) :
    Passive s (handleOptionMessage env io s opt) := by
  have hquality : Passive s (applyImageQuality s opt.imageQuality) := by
    unfold applyImageQuality
    split
    · split
      · exact (Passive.refl s).emit rfl
      · exact Passive.refl s
    · exact Passive.refl s
  unfold handleOptionMessage
  simp only
  split
  · refine hquality.trans ?_
    generalize applyImageQuality s opt.imageQuality = t
    unfold applyPreferredCodec
    have hquery := currentCodecConstraints_passive io t
    split
    · exact Passive.refl t
    · simp only
      split
      · exact hquery
      · split
        · exact hquery.trans (switchVideoCodec_passive _ _)
        · exact hquery
  · exact hquality

theorem handleMisc_passive (env : Env) (io : Io) (s : Session) (misc : Misc) :
    Passive s (handleMisc env io s misc) := by
  cases misc with
  | option opt => exact handleOptionMessage_passive env io s opt
  | refreshVideo refresh =>
    unfold handleMisc
    simp only
    split
    · exact (Passive.refl s).emit rfl
    · exact Passive.refl s
  | switchDisplay | videoReceived | other => exact Passive.refl s

theorem handleTestDelay_passive (io : Io) (s : Session) (td : TestDelay) :
    Passive s (handleTestDelay io s td).2 := by
  unfold handleTestDelay
  split
  · exact sendEncrypted_passive io s _
  · split
    · exact ⟨rfl, [], by simp, by simp⟩
    · exact Passive.refl s

/-- In a connection that is not Active only an accepted login is not passive. -/
theorem dispatch_passive {env : Env} {io : Io} {s : Session} {msg : Message}
    (hstate : s.conn.state ≠ .active)
    (hlogin : ∀ lr, msg = .loginRequest lr → loginAccepted env s.conn lr = false) :
    Passive s (dispatch env io s msg).2 := by
  cases msg with
  | publicKey pk => exact handlePeerPublicKey_passive env io s pk
  | loginRequest lr =>
    obtain ⟨error, hrefused⟩ := dispatch_login_refused io (hlogin lr rfl)
    rw [hrefused]
    have hnamed : Passive s
        (s.update fun c => { c with peerId := lr.myId, peerName := lr.myName }) :=
      ⟨rfl, [], by simp, by simp⟩
    exact (hnamed.emit rfl).trans (sendEncrypted_passive io _ _)
  | keyEvent ke => simpa [dispatch, hstate] using Passive.refl s
  | mouseEvent me => simpa [dispatch, hstate] using Passive.refl s
  | misc misc => exact handleMisc_passive env io s misc
  | testDelay td => exact handleTestDelay_passive io s td
  | signedId si => exact handleSignedId_passive env io s si
  | clipboard | other | empty => exact Passive.refl s

theorem handleMessage_passive {env : Env} (io : Io) {c : Connection} {data : Bytes}
    (hstate : c.state ≠ .active)
    (hlogin : ∀ lr, received env c data = some (.loginRequest lr) →
      loginAccepted env c lr = false) :
    Passive { conn := c } (handleMessage env io c data).2 := by
  obtain ⟨n, hconn⟩ := receive_conn env c data
  have hreceive : Passive { conn := c } { conn := { c with decSeqnum := n } } :=
    ⟨rfl, [], by simp, by simp⟩
  rw [handleMessage_eq, hconn]
  split
  · rename_i msg hmsg
    exact hreceive.trans (dispatch_passive hstate fun lr hlr => hlogin lr (hlr ▸ hmsg))
  · exact hreceive

end Session

/-! ## The lifecycle of a connection -/

/-- A connection from the spawn of its task on. -/
structure Lifecycle where
  loop : Loop
  /-- `handle_tcp` has set the state to Handshaking. -/
  begun : Bool := false
  /-- The state has been set to Closed at some point. -/
  closed : Bool := false
  /-- The input handed to the HID controller for messages taken up after that point. -/
  lateInput : List Effect := []
  deriving DecidableEq, Repr

inductive LifecycleEvent
  /-- `handle_tcp` starts, and its SignedId is sent or fails. -/
  | begin (sendOk : Bool)
  /-- An event of the loop, or `close_all` at any point. -/
  | loop (event : LoopEvent)
  /-- `Connection::close`: the same write; its shutdown signal reaches the loop as a
  `shutdown` event, later or never. -/
  | close

namespace Lifecycle

open Session

/-- A write to the state, with what the run has to remember of it. -/
def note (s : Lifecycle) (loop : Loop) (effects : List Effect) : Lifecycle :=
  { s with
    loop := loop
    closed := s.closed || loop.conn.state = .closed
    lateInput := if s.closed then s.lateInput ++ effects.filter Effect.isInput else s.lateInput }

def step (env : Env) (s : Lifecycle) : LifecycleEvent → Option Lifecycle
  | .begin sendOk =>
      if s.begun then none
      else some { s with
        begun := true
        loop := { conn := { s.loop.conn with state := .handshaking }, running := sendOk } }
  | .loop .closeAll => (Loop.step env s.loop .closeAll).map fun l => s.note l []
  | .loop event =>
      if s.begun then
        (Loop.step env s.loop event).map fun l => s.note l (Loop.stepEffects env s.loop event)
      else none
  | .close => (Loop.step env s.loop .closeAll).map fun l => s.note l []

/-- The runs of a connection accepted with a configuration. -/
def system (env : Env) (config : RustDeskConfig) : TSys Lifecycle LifecycleEvent :=
  .ofFn (fun s => ∃ hid audio videoManager now,
    s = { loop := { conn := Connection.new config hid audio videoManager now } }) (step env)

/-- Once set to Closed the connection is not Active, and no later input of it has
reached the HID controller. -/
def Final (s : Lifecycle) : Prop :=
  s.closed → s.loop.conn.state ≠ .active ∧ s.lateInput = []

/-- After the state was set to Closed, the frame is no login request that
`handle_login_request_arc` accepts. -/
def NoLateLogin (env : Env) (s : Lifecycle) : LifecycleEvent → Prop
  | .loop event => s.closed → Loop.NoLogin env s.loop event
  | _ => True

/-- A step of the loop that is not Active and takes no accepted login is not Active
and hands over no input. -/
theorem loop_passive {env : Env} {l l' : Loop} {event : LoopEvent}
    (hstate : l.conn.state ≠ .active) (hlogin : Loop.NoLogin env l event)
    (hstep : Loop.step env l event = some l') :
    l'.conn.state ≠ .active ∧ (Loop.stepEffects env l event).filter Effect.isInput = [] := by
  cases event with
  | frame data io =>
    obtain ⟨-, hl⟩ := Option.ite_none_right_eq_some.mp hstep
    cases hl
    obtain ⟨hkept, added, heffects, hquiet⟩ := handleMessage_passive io hstate hlogin
    constructor
    · unfold Loop.after Loop.ended
      split
      · rw [hkept]
        exact hstate
      · simp
    · refine List.filter_eq_nil_iff.mpr fun e he => ?_
      have hadded : e ∈ added := by
        simpa [Loop.stepEffects, heffects] using he
      simp [hquiet e hadded]
  | media io =>
    obtain ⟨-, hl⟩ := Option.ite_none_right_eq_some.mp hstep
    cases hl
    refine ⟨?_, rfl⟩
    unfold Loop.sendMedia Loop.ended
    split_ifs <;> simp [hstate]
  | testDelayTick io =>
    obtain ⟨-, hl⟩ := Option.ite_none_right_eq_some.mp hstep
    cases hl
    have htick : Loop.tick io l.conn = { conn := l.conn } :=
      if_neg fun hactive => hstate hactive.1
    simp [htick, hstate, Loop.stepEffects]
  | shutdown =>
    obtain ⟨-, hl⟩ := Option.ite_none_right_eq_some.mp hstep
    cases hl
    exact ⟨by simp [Loop.ended], rfl⟩
  | closeAll =>
    cases hstep
    exact ⟨by simp, rfl⟩

/-- No input has been late, and a connection once Closed is not Active. -/
structure Ended (s : Lifecycle) : Prop where
  quiet : s.lateInput = []
  inactive : s.closed → s.loop.conn.state ≠ .active

/-- Noting a step that is passive once the connection was Closed. -/
theorem note_ended {s : Lifecycle} {l : Loop} {effects : List Effect} (h : Ended s)
    (hlate : s.closed → l.conn.state ≠ .active ∧ effects.filter Effect.isInput = []) :
    Ended (s.note l effects) := by
  cases hold : s.closed with
  | true =>
    obtain ⟨hstate, hquiet⟩ := hlate hold
    refine ⟨?_, fun _ => hstate⟩
    simp only [note, hold, if_true, hquiet, h.quiet, List.append_nil]
  | false =>
    refine ⟨by simp only [note, hold, Bool.false_eq_true, if_false, h.quiet], fun hclosed => ?_⟩
    have hnow : l.conn.state = .closed := by simpa [note, hold] using hclosed
    show l.conn.state ≠ .active
    simp [hnow]

theorem step_ended {env : Env} {s t : Lifecycle} {event : LifecycleEvent} (h : Ended s)
    (hstep : step env s event = some t) (hlogin : NoLateLogin env s event) : Ended t := by
  have hloop (e : LoopEvent) (l : Loop) (hl : Loop.step env s.loop e = some l)
      (he : s.closed → Loop.NoLogin env s.loop e) :
      Ended (s.note l (Loop.stepEffects env s.loop e)) :=
    note_ended h fun hclosed => loop_passive (h.inactive hclosed) (he hclosed) hl
  cases event with
  | begin sendOk =>
    simp only [step] at hstep
    split at hstep
    · cases hstep
    · cases hstep
      exact ⟨h.quiet, fun _ => by simp⟩
  | close =>
    simp only [step] at hstep
    obtain ⟨l, hl, rfl⟩ := Option.map_eq_some_iff.mp hstep
    exact hloop .closeAll l hl fun _ => trivial
  | loop e =>
    cases e with
    | closeAll =>
      simp only [step] at hstep
      obtain ⟨l, hl, rfl⟩ := Option.map_eq_some_iff.mp hstep
      exact hloop .closeAll l hl fun _ => trivial
    | frame | media | testDelayTick | shutdown =>
      obtain ⟨-, hrun⟩ := Option.ite_none_right_eq_some.mp hstep
      obtain ⟨l, hl, rfl⟩ := Option.map_eq_some_iff.mp hrun
      exact hloop _ l hl hlogin

/-- **Closed is final.** In every run in which no login is accepted after the state
was set to Closed, the connection is never Active again and none of its later input
reaches the HID controller. -/
theorem closed_is_final {env : Env} {config : RustDeskConfig} {s : Lifecycle}
    (hrun : ((system env config).restrict (NoLateLogin env)).Reachable s) : Final s := by
  have hended : Ended s := by
    refine TSys.invariant (I := Ended) ?_ ?_ hrun
    · rintro s ⟨hid, audio, videoManager, now, rfl⟩
      exact ⟨rfl, fun hclosed => by cases hclosed⟩
    · rintro s e t h ⟨hstep, hlogin⟩
      exact step_ended h hstep hlogin
  exact fun hclosed => ⟨hended.inactive hclosed, hended.quiet⟩

/-! ## A closed connection that logs in -/

/-- A client whose frames are a login with an empty password and a press of `A`. -/
def clientEnv : Env where
  secretboxOpen := fun _ _ _ => none
  boxOpen := fun _ _ => none
  decodeMessage := fun data =>
    if data = [1] then .ok (.loginRequest {})
    else .ok (.keyEvent { down := true, union := some (.chr 97) })
  parseIdPk := fun _ => none
  sha256 := id
  isCodecAvailable := fun _ => true

/-- A configuration without a password. -/
def openConfig : RustDeskConfig := { deviceId := "1", devicePassword := "" }

def accepted : Lifecycle := { loop := { conn := Connection.new openConfig true false false 0 } }

instance (env : Env) (l : Loop) : (e : LoopEvent) → Decidable (Loop.NoLogin env l e)
  | .frame data _ =>
      match h : received env l.conn data with
      | some (.loginRequest lr) =>
          decidable_of_iff (loginAccepted env l.conn lr = false) (by
            simp only [Loop.NoLogin, h, Option.some.injEq, Message.loginRequest.injEq]
            exact ⟨fun hno lr' hlr => hlr ▸ hno, fun hno => hno lr rfl⟩)
      | some (.publicKey _) | some (.keyEvent _) | some (.mouseEvent _) | some .clipboard
      | some (.misc _) | some (.testDelay _) | some (.signedId _) | some (.other _)
      | some .empty | none => .isTrue (by simp [Loop.NoLogin, h])
  | .media _ | .testDelayTick _ | .shutdown | .closeAll => inferInstanceAs (Decidable True)

instance (env : Env) (s : Lifecycle) : (e : LifecycleEvent) → Decidable (NoLateLogin env s e)
  | .loop event => inferInstanceAs (Decidable (s.closed = true → Loop.NoLogin env s.loop event))
  | .begin _ | .close => inferInstanceAs (Decidable True)

instance (s : Lifecycle) : Decidable (Final s) :=
  inferInstanceAs (Decidable (s.closed = true → _))

/-- A login, a key press and `close_all`, in this order, then another key press. -/
def closeLast : List LifecycleEvent :=
  [.begin true, .loop (.frame [1] { now := 1 }), .loop (.frame [2] { now := 2 }),
    .loop .closeAll, .loop (.frame [2] { now := 3 })]

theorem closeLast_final : ∃ s : Lifecycle, s.closed = true ∧ s.loop.running = true ∧ Final s := by
  have hrun : (closeLast.foldlM
      (fun s e => if NoLateLogin clientEnv s e then step clientEnv s e else none) accepted).any
      (fun s => s.closed && s.loop.running) := by
    decide
  obtain ⟨s, hs, hup⟩ := Option.any_eq_true _ _ |>.mp hrun
  obtain ⟨hclosed, hrunning⟩ := Bool.and_eq_true_iff.mp hup
  exact ⟨s, hclosed, hrunning, closed_is_final
    (TSys.ofFn_restrict_reachable (.init ⟨true, false, false, 0, rfl⟩) hs)⟩

/-- `close_all` during the handshake, then a login and a key press. -/
def closeFirst : List LifecycleEvent :=
  [.begin true, .loop .closeAll, .loop (.frame [1] { now := 1 }),
    .loop (.frame [2] { now := 2 })]

/-- **A login revives a closed connection.** It is Active after `close_all`, and its
key press reaches the HID controller. -/
theorem login_revives_closed :
    ¬ ∀ (env : Env) (config : RustDeskConfig) (s : Lifecycle),
      (system env config).Reachable s → Final s := by
  intro halways
  have hrun : (closeFirst.foldlM (step clientEnv) accepted).any (fun s => !decide (Final s)) := by
    decide
  obtain ⟨s, hs, hrevived⟩ := Option.any_eq_true _ _ |>.mp hrun
  have hfinal := halways clientEnv openConfig s
    (TSys.ofFn_reachable (.init ⟨true, false, false, 0, rfl⟩) hs)
  simp [hfinal] at hrevived

end Lifecycle

end StreamBox.RustDesk
