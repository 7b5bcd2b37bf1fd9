import StreamBox.RustDesk.SessionAuth

/-!
# What a client can do before login

Runs of a connection in which no login request is accepted.

* **Gate** — without an accepted login the connection is never Active and has no
  frame sender (`Gated`), so key and mouse events and codec switches stop at the
  connection.
* **Ungated arms** — `handle_misc_arc` checks no state: a refresh request and a
  quality preset reach the shared video manager (`VideoRequest`).
* **Runs** — `no_shared_call_iff`: a run without an accepted login calls neither
  the HID controller nor changes the video manager exactly when it holds no such
  message, or there is no video manager.
-/

namespace StreamBox.RustDesk

open StreamBox.Lib
open StreamBox.Video

/-- A call on the HID controller, or one that changes the shared video manager. -/
def Effect.Shared : Effect → Prop
  | .keyboard _ | .mouse _ | .setBitratePreset _ | .requestKeyframe | .runVideoStreaming _ => True
  | .codecConstraints | .getVideoInfo | .runAudioStreaming | .loginRequest _ | .send _ _ => False

/-- No call of a shared kind among these. -/
def Quiet (effects : List Effect) : Prop := ∀ e ∈ effects, ¬ e.Shared

@[simp] theorem quiet_nil : Quiet [] := by simp [Quiet]

@[simp] theorem quiet_append {es : List Effect} {e : Effect} :
    Quiet (es ++ [e]) ↔ Quiet es ∧ ¬ e.Shared := by
  simp [Quiet, or_imp, forall_and]

/-- A message that asks the shared video manager for something: a key frame or a
bitrate preset. -/
def VideoRequest : Message → Prop
  | .misc (.refreshVideo refresh) => refresh = true
  | .misc (.option opt) => Session.qualityPreset opt.imageQuality ≠ none
  | _ => False

/-- What no handler but an accepted login changes. -/
def Gated (c : Connection) : Prop := c.state ≠ .active ∧ c.videoFrameTx = false

namespace Session

/-! ## Each handler keeps the gate -/

theorem sendEncrypted_gated {io : Io} {s : Session} {r : Reply} (h : Gated s.conn) :
    Gated (sendEncrypted io s r).2.conn := by
  unfold sendEncrypted sendFramed
  split <;> exact h

theorem sendEncrypted_quiet {io : Io} {s : Session} {r : Reply} (h : Quiet s.effects) :
    Quiet (sendEncrypted io s r).2.effects := by
  unfold sendEncrypted sendFramed
  split <;> simpa [Effect.Shared] using h

theorem handlePeerPublicKey_gated {env : Env} {io : Io} {s : Session} {pk : PublicKey}
    (h : Gated s.conn) : Gated (handlePeerPublicKey env io s pk).2.conn := by
  refine sendEncrypted_gated ?_
  split
  · split <;> exact h
  · exact h

theorem handlePeerPublicKey_quiet {env : Env} {io : Io} {s : Session} {pk : PublicKey}
    (h : Quiet s.effects) : Quiet (handlePeerPublicKey env io s pk).2.effects := by
  refine sendEncrypted_quiet ?_
  split
  · split <;> exact h
  · exact h

theorem handleSignedId_gated {env : Env} {io : Io} {s : Session} {si : SignedId}
    (h : Gated s.conn) : Gated (handleSignedId env io s si).2.conn := by
  unfold handleSignedId sendFramed
  simp only [emit_conn]
  split
  · split <;> exact h
  · exact h

theorem handleSignedId_quiet {env : Env} {io : Io} {s : Session} {si : SignedId}
    (h : Quiet s.effects) : Quiet (handleSignedId env io s si).2.effects := by
  unfold handleSignedId sendFramed
  simp only [emit_effects, quiet_append]
  refine ⟨?_, by simp [Effect.Shared]⟩
  split
  · split <;> exact h
  · exact h

/-- A refused login request is answered and changes nothing but the sequence
number. -/
theorem handleLoginRequest_refused {env : Env} (io : Io) {s : Session} {lr : LoginRequest}
    (hrefused : loginAccepted env s.conn lr = false) :
    ∃ error, handleLoginRequest env io s lr =
      let r := sendEncrypted io (s.emit (.loginRequest lr)) (.loginError error)
      (r.1.map fun _ => false, r.2) := by
  simp only [loginAccepted, Bool.or_eq_false_iff, decide_eq_false_iff_not, Bool.and_eq_false_iff,
    decide_not, Bool.not_eq_false', decide_eq_true_eq] at hrefused
  obtain ⟨hpassword, hcheck⟩ := hrefused
  by_cases hempty : lr.password = []
  · exact ⟨"Empty Password", by simp [handleLoginRequest, hpassword, hempty]⟩
  · have hverify := hcheck.resolve_left hempty
    exact ⟨"Wrong Password", by simp [handleLoginRequest, hpassword, hempty, hverify]⟩

theorem currentCodecConstraints_conn (io : Io) (s : Session) :
    (currentCodecConstraints io s).2.conn = s.conn := by
  unfold currentCodecConstraints
  split <;> rfl

theorem currentCodecConstraints_quiet (io : Io) {s : Session} (h : Quiet s.effects) :
    Quiet (currentCodecConstraints io s).2.effects := by
  unfold currentCodecConstraints
  split
  · simpa [Effect.Shared] using h
  · exact h

/-- Before login a codec switch only changes the connection's own choice. -/
theorem applyPreferredCodec_gated {env : Env} {io : Io} {s : Session} {codec : VideoCodecType}
    (h : Gated s.conn) : Gated (applyPreferredCodec env io s codec).conn := by
  simp only [applyPreferredCodec, switchVideoCodec, update_conn,
    currentCodecConstraints_conn, h.2]
  split_ifs <;> simp_all [currentCodecConstraints_conn, Gated]

theorem applyPreferredCodec_quiet {env : Env} {io : Io} {s : Session} {codec : VideoCodecType}
    (hgate : Gated s.conn) (h : Quiet s.effects) :
    Quiet (applyPreferredCodec env io s codec).effects := by
  have hquery := currentCodecConstraints_quiet io h
  simp only [applyPreferredCodec, switchVideoCodec, update_conn,
    currentCodecConstraints_conn, hgate.2]
  split_ifs <;> simp_all

theorem handleOptionMessage_gated {env : Env} {io : Io} {s : Session} {opt : OptionMessage}
    (h : Gated s.conn) : Gated (handleOptionMessage env io s opt).conn := by
  unfold handleOptionMessage
  simp only
  split
  · exact applyPreferredCodec_gated (by simpa using h)
  · simpa using h

/-- A quality preset is the only call an option message makes before login. -/
theorem handleOptionMessage_quiet_iff {env : Env} {io : Io} {c : Connection} {opt : OptionMessage}
    (hgate : Gated c) :
    Quiet (handleOptionMessage env io ⟨c, []⟩ opt).effects ↔
      (qualityPreset opt.imageQuality ≠ none → c.videoManager = false) := by
  have hquality : Quiet (applyImageQuality ⟨c, []⟩ opt.imageQuality).effects ↔
      (qualityPreset opt.imageQuality ≠ none → c.videoManager = false) := by
    unfold applyImageQuality
    cases qualityPreset opt.imageQuality with
    | none => simp
    | some preset => cases hvm : c.videoManager <;> simp [Effect.Shared, Quiet]
  rw [← hquality]
  unfold handleOptionMessage
  simp only
  split
  · rename_i codec _
    refine ⟨fun h e he => h e ?_, applyPreferredCodec_quiet (by simpa using hgate)⟩
    exact (prefix_applyPreferredCodec env io _ codec).subset he
  · exact Iff.rfl

theorem handleTestDelay_gated {io : Io} {s : Session} {td : TestDelay} (h : Gated s.conn) :
    Gated (handleTestDelay io s td).2.conn := by
  unfold handleTestDelay
  split
  · exact sendEncrypted_gated h
  · split <;> exact h

theorem handleTestDelay_quiet {io : Io} {s : Session} {td : TestDelay} (h : Quiet s.effects) :
    Quiet (handleTestDelay io s td).2.effects := by
  unfold handleTestDelay
  split
  · exact sendEncrypted_quiet h
  · split <;> exact h

/-! ## The dispatcher -/

/-- A refused login request only stores the peer's name and is answered. -/
theorem dispatch_login_refused {env : Env} (io : Io) {s : Session} {lr : LoginRequest}
    (hrefused : loginAccepted env s.conn lr = false) :
    ∃ error, (dispatch env io s (.loginRequest lr)).2 =
      (sendEncrypted io
        ((s.update fun c => { c with peerId := lr.myId, peerName := lr.myName }).emit
          (.loginRequest lr)) (.loginError error)).2 := by
  obtain ⟨error, hlogin⟩ := handleLoginRequest_refused io
    (s := s.update fun c => { c with peerId := lr.myId, peerName := lr.myName }) hrefused
  refine ⟨error, ?_⟩
  simp only [dispatch, hlogin]
  generalize sendEncrypted io _ _ = r
  obtain ⟨result, s'⟩ := r
  cases result <;> rfl

theorem dispatch_gated {env : Env} {io : Io} {s : Session} {msg : Message} (h : Gated s.conn)
    (hlogin : ∀ lr, msg = .loginRequest lr → loginAccepted env s.conn lr = false) :
    Gated (dispatch env io s msg).2.conn := by
  cases msg with
  | publicKey pk => exact handlePeerPublicKey_gated h
  | loginRequest lr =>
    obtain ⟨error, hrefused⟩ := dispatch_login_refused io (hlogin lr rfl)
    rw [hrefused]
    exact sendEncrypted_gated h
  | keyEvent ke => simpa [dispatch, h.1] using h
  | mouseEvent me => simpa [dispatch, h.1] using h
  | misc misc =>
    cases misc with
    | option opt => exact handleOptionMessage_gated h
    | refreshVideo refresh =>
      simp only [dispatch, handleMisc]
      split <;> exact h
    | switchDisplay | videoReceived | other => exact h
  | testDelay td => exact handleTestDelay_gated h
  | signedId si => exact handleSignedId_gated h
  | clipboard | other | empty => exact h

/-- Before login the dispatcher makes no shared call exactly on a message that is
no video request. -/
theorem dispatch_quiet_iff {env : Env} (io : Io) {c : Connection} {msg : Message} (h : Gated c)
    (hlogin : ∀ lr, msg = .loginRequest lr → loginAccepted env c lr = false) :
    Quiet (dispatch env io ⟨c, []⟩ msg).2.effects ↔ (VideoRequest msg → c.videoManager = false) := by
  cases msg with
  | publicKey pk =>
    simp only [VideoRequest, false_implies, iff_true]
    exact handlePeerPublicKey_quiet quiet_nil
  | loginRequest lr =>
    obtain ⟨error, hrefused⟩ := dispatch_login_refused io (s := ⟨c, []⟩) (hlogin lr rfl)
    rw [hrefused]
    simp only [VideoRequest, false_implies, iff_true]
    exact sendEncrypted_quiet (quiet_append.mpr ⟨quiet_nil, by simp [Effect.Shared]⟩)
  | keyEvent ke => simp [dispatch, h.1, VideoRequest]
  | mouseEvent me => simp [dispatch, h.1, VideoRequest]
  | misc misc =>
    cases misc with
    | option opt => exact handleOptionMessage_quiet_iff h
    | refreshVideo refresh =>
      cases refresh <;> cases hvm : c.videoManager <;>
        simp [dispatch, handleMisc, VideoRequest, hvm, Effect.Shared, Quiet]
    | switchDisplay | videoReceived | other => simp [dispatch, handleMisc, VideoRequest]
  | testDelay td =>
    simp only [VideoRequest, false_implies, iff_true]
    exact handleTestDelay_quiet quiet_nil
  | signedId si =>
    simp only [VideoRequest, false_implies, iff_true]
    exact handleSignedId_quiet quiet_nil
  | clipboard | other | empty => simp [dispatch, VideoRequest]

/-- The message a frame is handled as. -/
def received (env : Env) (c : Connection) (data : Bytes) : Option Message :=
  (env.decodeMessage (receive env c data).2).toOption

/-- Opening a frame changes nothing but the sequence number. -/
theorem receive_conn (env : Env) (c : Connection) (data : Bytes) :
    ∃ n, (receive env c data).1 = { c with decSeqnum := n } := by
  unfold receive
  split
  · exact ⟨_, rfl⟩
  · exact ⟨c.decSeqnum, rfl⟩

theorem handleMessage_eq (env : Env) (io : Io) (c : Connection) (data : Bytes) :
    (handleMessage env io c data).2 =
      match received env c data with
      | some msg => (dispatch env io ⟨(receive env c data).1, []⟩ msg).2
      | none => ⟨(receive env c data).1, []⟩ := by
  simp only [handleMessage, received]
  cases env.decodeMessage (receive env c data).2 <;> rfl

/-- A frame without a login request that is accepted keeps the gate. -/
theorem handleMessage_gated {env : Env} {io : Io} {c : Connection} {data : Bytes} (h : Gated c)
    (hlogin : ∀ lr, received env c data = some (.loginRequest lr) →
      loginAccepted env c lr = false) :
    Gated (handleMessage env io c data).2.conn := by
  obtain ⟨n, hconn⟩ := receive_conn env c data
  rw [handleMessage_eq, hconn]
  split
  · rename_i msg hmsg
    exact dispatch_gated h fun lr hlr => hlogin lr (hlr ▸ hmsg)
  · exact h

theorem handleMessage_quiet_iff {env : Env} {io : Io} {c : Connection} {data : Bytes}
    (h : Gated c)
    (hlogin : ∀ lr, received env c data = some (.loginRequest lr) →
      loginAccepted env c lr = false) :
    Quiet (handleMessage env io c data).2.effects ↔
      ∀ msg, received env c data = some msg → VideoRequest msg → c.videoManager = false := by
  obtain ⟨n, hconn⟩ := receive_conn env c data
  rw [handleMessage_eq, hconn]
  split
  · rename_i msg hmsg
    have hquiet := dispatch_quiet_iff io (c := { c with decSeqnum := n }) h
      fun lr hlr => hlogin lr (hlr ▸ hmsg)
    rw [hquiet]
    simp [hmsg]
  · rename_i hnone
    simp [hnone]

end Session

namespace Loop

open Session

/-- The frame is no login request that `handle_login_request_arc` accepts. -/
def NoLogin (env : Env) (l : Loop) : LoopEvent → Prop
  | .frame data _ => ∀ lr, received env l.conn data = some (.loginRequest lr) →
      loginAccepted env l.conn lr = false
  | _ => True

/-- The event calls neither the HID controller nor changes the video manager. -/
def NoSharedCall (env : Env) (x : Loop × LoopEvent × Loop) : Prop :=
  Quiet (stepEffects env x.1 x.2.1)

/-- The event is no video request, or there is no video manager. -/
def NoVideoRequest (env : Env) (x : Loop × LoopEvent × Loop) : Prop :=
  match x.2.1 with
  | .frame data _ =>
      ∀ msg, received env x.1.conn data = some msg → VideoRequest msg →
        x.1.conn.videoManager = false
  | _ => True

theorem after_gated {r : Except String Unit × Session} (h : Gated r.2.conn) :
    Gated (after r).conn := by
  unfold after ended
  split
  · exact h
  · exact ⟨by simp, h.2⟩

theorem tick_eq {io : Io} {c : Connection} (h : Gated c) : tick io c = { conn := c } :=
  if_neg fun hactive => h.1 hactive.1

theorem step_gated {env : Env} {l l' : Loop} {event : LoopEvent} (h : Gated l.conn)
    (hstep : step env l event = some l') (hlogin : NoLogin env l event) : Gated l'.conn := by
  cases event with
  | frame data io =>
    obtain ⟨-, hl⟩ := Option.ite_none_right_eq_some.mp hstep
    cases hl
    exact after_gated (handleMessage_gated h hlogin)
  | media io =>
    obtain ⟨-, hl⟩ := Option.ite_none_right_eq_some.mp hstep
    cases hl
    unfold sendMedia ended
    split_ifs <;> first | exact h | exact ⟨by simp, h.2⟩
  | testDelayTick io =>
    obtain ⟨-, hl⟩ := Option.ite_none_right_eq_some.mp hstep
    cases hl
    rw [tick_eq h]
    exact h
  | shutdown =>
    obtain ⟨-, hl⟩ := Option.ite_none_right_eq_some.mp hstep
    cases hl
    exact ⟨by simp [ended], h.2⟩
  | closeAll =>
    cases hstep
    exact ⟨by simp, h.2⟩

/-- **No effect before login.** In a run without an accepted login, no event calls
the HID controller or changes the shared video manager exactly when no message is
a video request, unless there is no video manager. -/
theorem no_shared_call_iff {env : Env} {config : RustDeskConfig}
    {tr : List (Loop × LoopEvent × Loop)} {l : Loop}
    (h : ((system env config).restrict (NoLogin env)).Trace tr l) :
    (∀ x ∈ tr, NoSharedCall env x) ↔ ∀ x ∈ tr, NoVideoRequest env x := by
  refine h.forall_iff fun x hreach hstep => ?_
  have hgated : Gated x.1.conn := by
    refine TSys.invariant (I := fun l => Gated l.conn) ?_ ?_ hreach
    · rintro l ⟨hid, audio, videoManager, now, rfl⟩
      exact ⟨by simp [start], rfl⟩
    · rintro l event l' hl ⟨hl', hlogin⟩
      exact step_gated hl hl' hlogin
  obtain ⟨l, event, l'⟩ := x
  cases event with
  | frame data io => exact handleMessage_quiet_iff hgated hstep.2
  | testDelayTick io => simp [NoSharedCall, NoVideoRequest, stepEffects, tick_eq hgated]
  | media | shutdown | closeAll => simp [NoSharedCall, NoVideoRequest, stepEffects]

theorem sample_trace {data : Bytes} {io : Io}
    (hlogin : NoLogin sampleEnv sampleStart (.frame data io)) :
    ((system sampleEnv sampleConfig).restrict (NoLogin sampleEnv)).Trace
      [(sampleStart, .frame data io, after (handleMessage sampleEnv io sampleStart.conn data))]
      (after (handleMessage sampleEnv io sampleStart.conn data)) := by
  have hinit : (system sampleEnv sampleConfig).init sampleStart := ⟨true, true, true, 0, rfl⟩
  have hstep := step_frame sampleEnv sampleStart rfl data io
  have htrace := TSys.Trace.init 
    (T := (system sampleEnv sampleConfig).restrict (NoLogin sampleEnv)) hinit
  exact htrace.step ⟨hstep, hlogin⟩

/-- A login request with an empty password is refused. -/
theorem refused_login_no_shared_call : ∃ tr l, tr.length = 1 ∧
    ((system sampleEnv sampleConfig).restrict (NoLogin sampleEnv)).Trace tr l ∧
      ∀ x ∈ tr, NoSharedCall sampleEnv x := by
  have hmessage : received sampleEnv sampleStart.conn emptyLogin = some (.loginRequest {}) := by
    decide
  have hlogin : NoLogin sampleEnv sampleStart (.frame emptyLogin { now := 1 }) := by
    intro lr hlr
    cases hmessage.symm.trans hlr
    decide
  refine ⟨_, _, rfl, sample_trace hlogin, (no_shared_call_iff (sample_trace hlogin)).mpr ?_⟩
  simp only [List.mem_singleton, forall_eq]
  intro msg hmsg hvideo
  cases hmessage.symm.trans hmsg
  exact hvideo.elim

/-- **The ungated arm.** A client that never logs in has the shared encoder emit a
key frame. -/
theorem refresh_before_login_is_shared :
    ¬ ∀ (env : Env) (config : RustDeskConfig) (tr : List (Loop × LoopEvent × Loop)) (l : Loop),
      ((system env config).restrict (NoLogin env)).Trace tr l →
        ∀ x ∈ tr, NoSharedCall env x := by
  intro halways
  have hmessage : received sampleEnv sampleStart.conn refreshRequest =
      some (.misc (.refreshVideo true)) := by decide
  have hlogin : NoLogin sampleEnv sampleStart (.frame refreshRequest { now := 1 }) := by
    intro lr hlr
    cases hmessage.symm.trans hlr
  have hquiet := halways _ _ _ _ (sample_trace hlogin) _ (List.mem_singleton_self _)
  exact hquiet .requestKeyframe (by decide) trivial

end Loop

end StreamBox.RustDesk
