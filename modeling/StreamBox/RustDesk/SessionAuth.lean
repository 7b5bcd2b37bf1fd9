import StreamBox.Lib.TSys
import StreamBox.RustDesk.Connection

/-!
# What a session key protects

The frames that act on a connection once a session key is set.

* **Inert messages** — `Inert`: the messages the dispatcher handles without a
  trace, by kind and state (`dispatch_unchanged_iff`).
* **Authentication** — `authenticated_iff`: over a run, every frame that acts was
  opened under the session key exactly when every frame that does not open is
  either no message at all or an inert one.
* **Fallback** — `plain_login_not_authenticated`: a plain login request after the
  key exchange reaches the login handler.
-/

namespace StreamBox.RustDesk

open StreamBox.Lib
open StreamBox.Video

namespace Session

/-! ## The calls only accumulate -/

theorem prefix_emit (s : Session) (e : Effect) : s.effects <+: (s.emit e).effects :=
  List.prefix_append _ _

theorem prefix_sendEncrypted (io : Io) (s : Session) (r : Reply) :
    s.effects <+: (sendEncrypted io s r).2.effects := by
  unfold sendEncrypted sendFramed
  split <;> simp

theorem sendEncrypted_effects_ne (io : Io) (s : Session) (r : Reply) :
    (sendEncrypted io s r).2.effects ≠ [] := by
  unfold sendEncrypted sendFramed
  split <;> simp

theorem prefix_currentCodecConstraints (io : Io) (s : Session) :
    s.effects <+: (currentCodecConstraints io s).2.effects := by
  unfold currentCodecConstraints
  split <;> simp

theorem prefix_createLoginResponse (env : Env) (io : Io) (s : Session) :
    s.effects <+: (createLoginResponse env io s).2.effects := by
  unfold createLoginResponse
  refine (prefix_currentCodecConstraints io s).trans ?_
  simp only
  split
  · exact prefix_emit _ _
  · exact List.prefix_rfl

theorem prefix_startVideoStreaming (s : Session) :
    s.effects <+: (startVideoStreaming s).effects := by
  unfold startVideoStreaming
  split <;> simp

theorem prefix_startAudioStreaming (s : Session) :
    s.effects <+: (startAudioStreaming s).effects := by
  unfold startAudioStreaming
  split <;> simp

theorem prefix_startStreaming (s : Session) : s.effects <+: (startStreaming s).effects := by
  simp only [startStreaming]
  split_ifs
  · simp
  · exact prefix_startAudioStreaming (s.update _)
  · exact prefix_startVideoStreaming (s.update _)
  · exact (prefix_startVideoStreaming (s.update _)).trans
      (prefix_startAudioStreaming ((startVideoStreaming (s.update _)).update _))

/-- A login request reaches the login handler, whatever comes of it. -/
theorem loginRequest_mem_handleLoginRequest (env : Env) (io : Io) (s : Session)
    (lr : LoginRequest) :
    .loginRequest lr ∈ (handleLoginRequest env io s lr).2.effects := by
  have hmem : Effect.loginRequest lr ∈ (s.emit (.loginRequest lr)).effects := by simp
  simp only [handleLoginRequest]
  split_ifs
  · exact (prefix_sendEncrypted _ _ _).subset hmem
  · exact (prefix_sendEncrypted _ _ _).subset hmem
  · refine (prefix_sendEncrypted _ _ _).subset ?_
    refine (prefix_createLoginResponse _ _ _).subset ?_
    exact (prefix_currentCodecConstraints _ _).subset hmem

/-! ## Messages handled without a trace -/

/-- An option message asks for nothing the connection can do. -/
def InertOption (env : Env) (c : Connection) (opt : OptionMessage) : Prop :=
  (qualityPreset opt.imageQuality = none ∨ c.videoManager = false) ∧
    ∀ codec, opt.supportedDecodingPrefer.bind preferredCodec = some codec →
      c.negotiatedCodec = some codec ∨
        (c.videoManager = false ∧ env.isCodecAvailable codec = false)

/-- A mouse event keeps the mouse mode and is throttled, or has no HID event. -/
def InertMouse (io : Io) (c : Connection) (me : MouseEvent) : Prop :=
  nextRelative me c.relativeMouseActive = c.relativeMouseActive ∧
    if isPureMove me then io.now < c.lastMouseTime + mouseInterval
    else c.hid = false ∨
      (c.lastMouseTime = io.now ∧
        convertMouseEvent me c.screenWidth c.screenHeight c.relativeMouseActive = [])

/-- A message the dispatcher handles in this state without changing the
connection or making a call. -/
def Inert (env : Env) (io : Io) (c : Connection) : Message → Prop
  | .publicKey _ | .loginRequest _ | .signedId _ => False
  | .keyEvent ke =>
      c.state = .active →
        ke.modifiers.contains ControlKey.capsLock = c.lastCapsLock ∧
          (c.hid = false ∨ convertKeyEvent ke = none)
  | .mouseEvent me => c.state = .active → InertMouse io c me
  | .misc (.option opt) => InertOption env c opt
  | .misc (.refreshVideo refresh) => refresh = false ∨ c.videoManager = false
  | .misc (.switchDisplay _) | .misc (.videoReceived _) | .misc .other => True
  | .testDelay td => td.fromClient = false ∧ c.lastTestDelaySent = none
  | .clipboard | .other _ | .empty => True

theorem emit_ne (s : Session) (e : Effect) {c : Connection} : s.emit e ≠ ⟨c, []⟩ := by
  intro h
  have := congrArg Session.effects h
  simp at this

theorem ne_of_effects_ne {s : Session} {c : Connection} (h : s.effects ≠ []) : s ≠ ⟨c, []⟩ := by
  rintro rfl
  exact h rfl

@[simp] theorem sendKeyboard_conn (s : Session) (event : Hid.KeyboardEvent) :
    (sendKeyboard s event).conn = s.conn := by
  unfold sendKeyboard
  split <;> rfl

theorem sendKeyboard_unchanged_iff (c : Connection) (event : Hid.KeyboardEvent) :
    sendKeyboard ⟨c, []⟩ event = ⟨c, []⟩ ↔ c.hid = false := by
  unfold sendKeyboard
  split
  · rename_i hhid
    exact ⟨fun h => absurd h (emit_ne _ _), fun h => absurd (hhid.symm.trans h) (by decide)⟩
  · rename_i hhid
    simpa using hhid

/-- A key event leaves its Caps Lock state behind. -/
theorem handleKeyEvent_lastCapsLock (s : Session) (ke : KeyEvent) :
    (handleKeyEvent s ke).conn.lastCapsLock = ke.modifiers.contains ControlKey.capsLock := by
  unfold handleKeyEvent
  by_cases hcaps : ke.modifiers.contains ControlKey.capsLock = s.conn.lastCapsLock
  · simp only [hcaps, ne_eq, not_true_eq_false, ite_false]
    split <;> simp
  · simp only [ne_eq, hcaps, not_false_eq_true, ite_true]
    split <;> simp

theorem handleKeyEvent_unchanged_iff (c : Connection) (ke : KeyEvent) :
    handleKeyEvent ⟨c, []⟩ ke = ⟨c, []⟩ ↔
      ke.modifiers.contains ControlKey.capsLock = c.lastCapsLock ∧
        (c.hid = false ∨ convertKeyEvent ke = none) := by
  by_cases hcaps : ke.modifiers.contains ControlKey.capsLock = c.lastCapsLock
  · unfold handleKeyEvent
    simp only [hcaps, ne_eq, not_true_eq_false, ite_false, true_and]
    split
    · rename_i event hconv
      rw [sendKeyboard_unchanged_iff]
      simp [hconv]
    · rename_i hconv
      simp [hconv]
  · refine ⟨fun h => absurd ?_ hcaps, fun h => absurd h.1 hcaps⟩
    rw [← handleKeyEvent_lastCapsLock ⟨c, []⟩ ke, h]

theorem foldl_emit_mouse (events : List Hid.MouseEvent) (s : Session) :
    events.foldl (fun s event => s.emit (.mouse event)) s =
      ⟨s.conn, s.effects ++ events.map .mouse⟩ := by
  induction events generalizing s with
  | nil => simp
  | cons event events ih => rw [List.foldl_cons, ih]; simp

/-- What a mouse event leaves behind. -/
theorem handleMouseEvent_eq (io : Io) (c : Connection) (me : MouseEvent) :
    let relative := nextRelative me c.relativeMouseActive
    let events := convertMouseEvent me c.screenWidth c.screenHeight relative
    handleMouseEvent io ⟨c, []⟩ me =
      if isPureMove me ∧ io.now < c.lastMouseTime + mouseInterval then
        ⟨{ c with relativeMouseActive := relative }, []⟩
      else
        ⟨{ c with
            relativeMouseActive := relative
            lastMouseTime := if isPureMove me ∨ c.hid then io.now else c.lastMouseTime },
          if c.hid then events.map .mouse else []⟩ := by
  simp only [handleMouseEvent, foldl_emit_mouse]
  cases hpure : isPureMove me <;> cases hhid : c.hid <;>
    by_cases hdue : c.lastMouseTime + mouseInterval ≤ io.now <;>
    simp [update, hhid, hdue]

theorem handleMouseEvent_unchanged_iff (io : Io) (c : Connection) (me : MouseEvent) :
    handleMouseEvent io ⟨c, []⟩ me = ⟨c, []⟩ ↔ InertMouse io c me := by
  have hrelative : (handleMouseEvent io ⟨c, []⟩ me).conn.relativeMouseActive =
      nextRelative me c.relativeMouseActive := by
    rw [handleMouseEvent_eq]
    split <;> rfl
  by_cases hrel : nextRelative me c.relativeMouseActive = c.relativeMouseActive
  swap
  · refine ⟨fun h => absurd ?_ hrel, fun h => absurd h.1 hrel⟩
    rw [← hrelative, h]
  have hpos : 0 < mouseInterval := by decide
  rw [handleMouseEvent_eq]
  simp only [InertMouse, hrel, true_and]
  by_cases hpure : isPureMove me = true
  · simp only [hpure, true_and, true_or, ite_true]
    split
    · rename_i hearly
      simp [hearly]
    · rename_i hdue
      -- a move let through marks its time
      refine ⟨fun h => absurd (congrArg (·.conn.lastMouseTime) h) ?_, fun h => absurd h hdue⟩
      simp only
      omega
  · simp only [hpure]
    by_cases hhid : c.hid = true
    · simp only [hhid, ite_true]
      constructor
      · intro h
        have htime := congrArg (·.conn.lastMouseTime) h
        have hevents := congrArg Session.effects h
        exact .inr ⟨htime.symm, by simpa using hevents⟩
      · rintro (h | ⟨htime, hevents⟩)
        · cases h
        · cases c
          simp_all
    · cases c
      simp_all

theorem applyPreferredCodec_unchanged_iff (env : Env) (io : Io) (c : Connection)
    (codec : VideoCodecType) :
    applyPreferredCodec env io ⟨c, []⟩ codec = ⟨c, []⟩ ↔
      c.negotiatedCodec = some codec ∨
        (c.videoManager = false ∧ env.isCodecAvailable codec = false) := by
  by_cases hsame : c.negotiatedCodec = some codec
  · simp [applyPreferredCodec, hsame]
  by_cases hvm : c.videoManager = true
  · -- the constraints are asked for
    have hne : (applyPreferredCodec env io ⟨c, []⟩ codec).effects ≠ [] := by
      simp only [applyPreferredCodec, currentCodecConstraints, switchVideoCodec,
        startVideoStreaming, hsame, hvm]
      split_ifs <;> simp_all
    simp [hsame, hvm, ne_of_effects_ne hne]
  · by_cases havail : env.isCodecAvailable codec = true
    · -- the codec is switched
      have hcodec : (applyPreferredCodec env io ⟨c, []⟩ codec).conn.negotiatedCodec = some codec := by
        simp [applyPreferredCodec, currentCodecConstraints, switchVideoCodec, startVideoStreaming,
          hsame, hvm, havail]
      simp only [hsame, havail, false_or, Bool.true_eq_false, and_false, iff_false]
      intro h
      rw [h] at hcodec
      exact hsame hcodec
    · simp_all [applyPreferredCodec, currentCodecConstraints]

theorem applyImageQuality_unchanged_iff (c : Connection) (imageQuality : Int) :
    applyImageQuality ⟨c, []⟩ imageQuality = ⟨c, []⟩ ↔
      qualityPreset imageQuality = none ∨ c.videoManager = false := by
  unfold applyImageQuality
  split
  · rename_i preset hpreset
    by_cases hvm : c.videoManager = true
    · simp [hpreset, hvm, emit_ne]
    · simp [hpreset, hvm]
  · rename_i hpreset
    simp [hpreset]

theorem prefix_applyPreferredCodec (env : Env) (io : Io) (s : Session) (codec : VideoCodecType) :
    s.effects <+: (applyPreferredCodec env io s codec).effects := by
  simp only [applyPreferredCodec]
  split_ifs
  · exact List.prefix_rfl
  · exact prefix_currentCodecConstraints io s
  · refine (prefix_currentCodecConstraints io s).trans ?_
    simp only [switchVideoCodec]
    split
    · exact prefix_startVideoStreaming (update _ _)
    · exact List.prefix_rfl
  · exact prefix_currentCodecConstraints io s

@[simp] theorem applyImageQuality_conn (s : Session) (imageQuality : Int) :
    (applyImageQuality s imageQuality).conn = s.conn := by
  unfold applyImageQuality
  split
  · split <;> rfl
  · rfl

theorem handleOptionMessage_unchanged_iff (env : Env) (io : Io) (c : Connection)
    (opt : OptionMessage) :
    handleOptionMessage env io ⟨c, []⟩ opt = ⟨c, []⟩ ↔ InertOption env c opt := by
  unfold handleOptionMessage InertOption
  rw [← applyImageQuality_unchanged_iff]
  by_cases hquality : applyImageQuality ⟨c, []⟩ opt.imageQuality = ⟨c, []⟩
  · simp only [hquality, true_and]
    split
    · rename_i codec hcodec
      simp [applyPreferredCodec_unchanged_iff, hcodec]
    · rename_i hcodec
      simp [hcodec]
  · simp only [hquality, false_and, iff_false]
    -- the quality part has made a call, and nothing takes it back
    have hne : (applyImageQuality ⟨c, []⟩ opt.imageQuality).effects ≠ [] := by
      intro hnil
      apply hquality
      have hconn := applyImageQuality_conn ⟨c, []⟩ opt.imageQuality
      generalize applyImageQuality ⟨c, []⟩ opt.imageQuality = s at hnil hconn
      cases s
      simp_all
    split
    · rename_i codec _
      refine ne_of_effects_ne fun hnil => hne ?_
      have hsent := prefix_applyPreferredCodec env io
        (applyImageQuality ⟨c, []⟩ opt.imageQuality) codec
      rwa [hnil, List.prefix_nil] at hsent
    · exact hquality

theorem handleTestDelay_unchanged_iff (io : Io) (c : Connection) (td : TestDelay) :
    (handleTestDelay io ⟨c, []⟩ td).2 = ⟨c, []⟩ ↔
      td.fromClient = false ∧ c.lastTestDelaySent = none := by
  unfold handleTestDelay
  split
  · rename_i hclient
    simp [hclient, ne_of_effects_ne (sendEncrypted_effects_ne _ _ _)]
  · rename_i hclient
    cases hsent : c.lastTestDelaySent with
    | some sentTime =>
      simp only [reduceCtorEq, and_false, iff_false]
      intro h
      have hcleared := congrArg (·.conn.lastTestDelaySent) h
      simp [hsent] at hcleared
    | none => simp [hclient]

/-- **Inert messages.** The dispatcher leaves no trace exactly of these. -/
theorem dispatch_unchanged_iff (env : Env) (io : Io) (c : Connection) (msg : Message) :
    (dispatch env io ⟨c, []⟩ msg).2 = ⟨c, []⟩ ↔ Inert env io c msg := by
  cases msg with
  | publicKey pk =>
    simp only [Inert, iff_false]
    exact ne_of_effects_ne (sendEncrypted_effects_ne _ _ _)
  | loginRequest lr =>
    simp only [Inert, iff_false]
    refine ne_of_effects_ne fun hnil => ?_
    have hmem := loginRequest_mem_handleLoginRequest env io
      ((Session.mk c []).update fun c => { c with peerId := lr.myId, peerName := lr.myName }) lr
    simp only [dispatch] at hnil
    generalize handleLoginRequest env io _ lr = r at hmem hnil
    obtain ⟨result | accepted, s⟩ := r
    · simp_all
    · cases accepted with
      | true =>
        have hstarted := (prefix_startStreaming s).subset hmem
        simp_all
      | false => simp_all
  | keyEvent ke =>
    simp only [dispatch, Inert]
    split
    · rename_i hactive
      simp only [hactive, true_implies]
      exact handleKeyEvent_unchanged_iff c ke
    · rename_i hactive
      simp [hactive]
  | mouseEvent me =>
    simp only [dispatch, Inert]
    split
    · rename_i hactive
      simp only [hactive, true_implies]
      exact handleMouseEvent_unchanged_iff io c me
    · rename_i hactive
      simp [hactive]
  | misc misc =>
    cases misc with
    | option opt => exact handleOptionMessage_unchanged_iff env io c opt
    | refreshVideo refresh =>
      simp only [dispatch, handleMisc, Inert]
      split
      · rename_i h
        have hvm : c.videoManager = true := h.2
        simp [h.1, hvm, emit_ne]
      · rename_i h
        have hno : ¬ (refresh = true ∧ c.videoManager = true) := h
        cases refresh <;> simp_all
    | switchDisplay | videoReceived | other => simp [dispatch, handleMisc, Inert]
  | testDelay td => exact handleTestDelay_unchanged_iff io c td
  | signedId si =>
    simp only [Inert, iff_false]
    exact ne_of_effects_ne (by simp [dispatch, handleSignedId, sendFramed])
  | clipboard | other | empty => simp [dispatch, Inert]

/-! ## Authentication -/

/-- The frame changes the connection or makes a call. -/
def Acts (env : Env) (io : Io) (c : Connection) (data : Bytes) : Prop :=
  (handleMessage env io c data).2 ≠ ⟨c, []⟩

/-- A frame that does not open acts as the plain message it decodes to. -/
theorem acts_iff_of_not_open {env : Env} {io : Io} {c : Connection} {data : Bytes}
    (hopen : openFrame env c data = none) :
    Acts env io c data ↔ ∃ msg, env.decodeMessage data = .ok msg ∧ ¬ Inert env io c msg := by
  unfold Acts handleMessage receive
  simp only [hopen]
  cases hmsg : env.decodeMessage data with
  | error e => simp
  | ok msg => simp [dispatch_unchanged_iff]

end Session

namespace Loop

open Session

/-- Once a session key is set, a frame that acts was opened under it and the next
sequence number. -/
def Authenticated (env : Env) (x : Loop × LoopEvent × Loop) : Prop :=
  match x.2.1 with
  | .frame data io =>
      x.1.conn.sessionKey.isSome → Acts env io x.1.conn data →
        (openFrame env x.1.conn data).isSome
  | _ => True

/-- Once a session key is set, a frame that does not open is no message or an
inert one. -/
def PlainInert (env : Env) (x : Loop × LoopEvent × Loop) : Prop :=
  match x.2.1 with
  | .frame data io =>
      x.1.conn.sessionKey.isSome → openFrame env x.1.conn data = none →
        ∀ msg, env.decodeMessage data = .ok msg → Inert env io x.1.conn msg
  | _ => True

theorem authenticated_step_iff (env : Env) (x : Loop × LoopEvent × Loop) :
    Authenticated env x ↔ PlainInert env x := by
  obtain ⟨l, event, l'⟩ := x
  cases event with
  | frame data io =>
    simp only [Authenticated, PlainInert]
    refine imp_congr_right fun _ => ?_
    cases hopen : openFrame env l.conn data with
    | some opened => simp
    | none => simp [acts_iff_of_not_open hopen]
  | media | testDelayTick | shutdown | closeAll => exact Iff.rfl

/-- **Session authentication.** Over every run of a connection: each frame that
acts once a session key is set was opened under that key, exactly when each frame
that does not open is no message or an inert one. -/
theorem authenticated_iff {env : Env} {config : RustDeskConfig}
    {tr : List (Loop × LoopEvent × Loop)} {l : Loop} (h : (system env config).Trace tr l) :
    (∀ x ∈ tr, Authenticated env x) ↔ ∀ x ∈ tr, PlainInert env x :=
  h.forall_iff fun x _ _ => authenticated_step_iff env x

/-! ## A key exchange, a login request and a refresh request -/

/-- The wire bytes of a PublicKey message with a sealed key, of an empty
LoginRequest and of a Misc message with a refresh request. -/
def keyExchange : Bytes :=
  [0x22, 84, 0x0A, 32] ++ List.replicate 32 1 ++ [0x12, 48] ++ List.replicate 48 2

def emptyLogin : Bytes := [0x3A, 0]

def refreshRequest : Bytes := [0x9A, 0x01, 2, 0x50, 1]

/-- A box is its 16-byte tag and the message; the decoder knows the messages
above. -/
def sampleEnv : Env where
  secretboxOpen ciphertext _ _ :=
    if ciphertext.length < 16 then none else some (ciphertext.drop 16)
  boxOpen ciphertext _ := if ciphertext.length < 16 then none else some (ciphertext.drop 16)
  decodeMessage data :=
    if data = keyExchange then .ok (.publicKey ⟨List.replicate 32 1, List.replicate 48 2⟩)
    else if data = emptyLogin then .ok (.loginRequest {})
    else if data = refreshRequest then .ok (.misc (.refreshVideo true))
    else .error "invalid tag"
  parseIdPk _ := none
  sha256 := id
  isCodecAvailable _ := true

def sampleConfig : RustDeskConfig where
  enabled := true
  rendezvousServer := "hbbs"
  deviceId := "123456789"
  devicePassword := "secret"

def sampleStart : Loop := start sampleConfig true true true 0

/-- The connection after the key exchange. -/
def sampleKeyed : Loop :=
  after (handleMessage sampleEnv { now := 1 } sampleStart.conn keyExchange)

theorem sampleKeyed_trace : (system sampleEnv sampleConfig).Trace
    [(sampleStart, .frame keyExchange { now := 1 }, sampleKeyed)] sampleKeyed :=
  trace_frame (.init ⟨true, true, true, 0, rfl⟩) rfl keyExchange { now := 1 }

/-- A sealed login request after the key exchange. -/
theorem sealed_login_authenticated : ∃ tr l, tr.length = 2 ∧
    (system sampleEnv sampleConfig).Trace tr l ∧ ∀ x ∈ tr, Authenticated sampleEnv x := by
  have htrace := trace_frame sampleKeyed_trace (by decide) (List.replicate 16 0 ++ emptyLogin)
    { now := 2 }
  refine ⟨_, _, rfl, htrace, (authenticated_iff htrace).mpr ?_⟩
  simp only [List.cons_append, List.nil_append, List.forall_mem_cons]
  refine ⟨fun hkey => absurd hkey (by decide), fun _ hopen => absurd hopen (by decide), ?_⟩
  simp

/-- **The plain fallback.** After the key exchange a plain login request still
reaches the login handler. -/
theorem plain_login_not_authenticated :
    ¬ ∀ (env : Env) (config : RustDeskConfig) (tr : List (Loop × LoopEvent × Loop)) (l : Loop),
      (system env config).Trace tr l → ∀ x ∈ tr, Authenticated env x := by
  intro halways
  have htrace := trace_frame sampleKeyed_trace (by decide) emptyLogin { now := 2 }
  have hauth := halways _ _ _ _ htrace _ (List.mem_append_right _ (List.mem_singleton_self _))
  have hopened := hauth (by decide)
    (ne_of_effects_ne (by decide : (handleMessage sampleEnv _ sampleKeyed.conn _).2.effects ≠ []))
  exact absurd hopened (by decide)

end Loop

end StreamBox.RustDesk
