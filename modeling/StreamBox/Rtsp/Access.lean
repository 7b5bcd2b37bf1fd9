import StreamBox.Lib.TSys
import StreamBox.Rtsp.Framing

/-!
# Access to the video

When credentials are configured, the video starts with a `PLAY` that carries them, and behind a
`SETUP` that carries them. What a refused request cannot do is in `handleRequest_refused`.
-/

namespace StreamBox.Rtsp

open StreamBox.RustDesk StreamBox.Config StreamBox.Lib

/-- The text is a request for the configured path with these credentials. -/
def Presents (env : Env) (credentials : List Char × List Char) (raw : List Char)
    (req : RtspRequest) : Prop :=
  parseRtspRequest env.parse raw = some req ∧
    isValidRtspPath req.method req.uri env.config.path.toList = true ∧
    extractBasicAuth env.decode req = some credentials

/-- The request was a `SETUP` for the interleaved transport, with these credentials. -/
def SetUpWith (env : Env) (credentials : List Char × List Char) (entry : Nat × Bytes) : Prop :=
  ∃ req, Presents env credentials (fromUtf8Lossy entry.2) req ∧ req.method = .setup ∧
    isTcpTransportRequest ((req.header "transport").getD []) = true

def PlayedWith (env : Env) (credentials : List Char × List Char) (entry : Nat × Bytes) : Prop :=
  ∃ req, Presents env credentials (fromUtf8Lossy entry.2) req ∧ req.method = .play

/-- The video is being sent, or has been. -/
def Conn.Plays (c : Conn) : Prop := c.phase = .playing ∨ ∃ bytes, Sent.video bytes ∈ c.sent

/-- Whatever comes from the socket and from the encoder. -/
def connections (env : Env) : TSys Conn Event where
  init := Conn.Fresh
  step c e c' := c' = c.onEvent env e

theorem connections_onEvent {env : Env} {c : Conn} (h : (connections env).Reachable c)
    (e : Event) : (connections env).Reachable (c.onEvent env e) := .step h rfl

section Credentials

variable {env : Env} {credentials : List Char × List Char}

theorem authorized_eq (hauth : rtspAuthCredentials env.config = some credentials)
    {req : RtspRequest} :
    authorized env req = true ↔ extractBasicAuth env.decode req = some credentials := by
  unfold authorized
  rw [hauth]
  simp

theorem AcceptsSetup.setUpWith (hauth : rtspAuthCredentials env.config = some credentials)
    {entry : Nat × Bytes} (h : AcceptsSetup env (fromUtf8Lossy entry.2)) :
    SetUpWith env credentials entry := by
  obtain ⟨req, hparse, hmethod, hpath, hreq, htcp⟩ := h
  exact ⟨req, ⟨hparse, hpath, (authorized_eq hauth).mp hreq⟩, hmethod, htcp⟩

theorem Accepts.presents (hauth : rtspAuthCredentials env.config = some credentials)
    {raw : List Char} {method : Method} (h : Accepts env raw method) :
    ∃ req, Presents env credentials raw req ∧ req.method = method := by
  obtain ⟨req, hparse, hmethod, hpath, hreq⟩ := h
  exact ⟨req, ⟨hparse, hpath, (authorized_eq hauth).mp hreq⟩, hmethod⟩

/-! ## The invariant -/

/-- How far the requests of a connection have brought it. -/
structure Earned (env : Env) (credentials : List Char × List Char) (c : Conn) : Prop where
  setup : c.phase = .requests → c.state.setupDone = true →
    ∃ entry ∈ c.handled, SetUpWith env credentials entry
  silent : c.phase = .requests → ∀ bytes, Sent.video bytes ∉ c.sent
  plays : c.Plays → ∃ before play, c.handled = before ++ [play] ∧
    PlayedWith env credentials play ∧ ∃ entry ∈ before, SetUpWith env credentials entry

theorem Earned.fresh {c : Conn} (h : c.Fresh) : Earned env credentials c := by
  obtain ⟨sessionId, writesLeft, rfl⟩ := h
  refine ⟨fun _ hsetup => (by cases hsetup), fun _ _ hmem => (by cases hmem), ?_⟩
  intro hplays
  rcases hplays with hphase | ⟨bytes, hmem⟩
  · cases hphase
  · cases hmem

/-- A connection that has ended, or goes on as it was, with the same requests behind it. -/
theorem Earned.of_le {c c' : Conn} (h : Earned env credentials c) (hhandled : c'.handled = c.handled)
    (hstate : c'.phase = .requests → c.phase = .requests ∧ c'.state = c.state)
    (hplaying : c'.phase = .playing → c.phase = .playing)
    (hsent : ∀ bytes, Sent.video bytes ∈ c'.sent → Sent.video bytes ∈ c.sent ∨ c.phase = .playing) :
    Earned env credentials c' where
  setup hphase hsetup := by
    obtain ⟨hphase', hsame⟩ := hstate hphase
    rw [hhandled]
    exact h.setup hphase' (hsame ▸ hsetup)
  silent hphase bytes hmem := by
    obtain ⟨hphase', -⟩ := hstate hphase
    rcases hsent bytes hmem with hmem | hplays
    · exact h.silent hphase' bytes hmem
    · rw [hphase'] at hplays
      cases hplays
  plays hplays := by
    rw [hhandled]
    apply h.plays
    rcases hplays with hphase | ⟨bytes, hmem⟩
    · exact Or.inl (hplaying hphase)
    · rcases hsent bytes hmem with hmem | hphase
      · exact Or.inr ⟨bytes, hmem⟩
      · exact Or.inl hphase

theorem Earned.fail {c : Conn} (h : Earned env credentials c) : Earned env credentials c.fail :=
  h.of_le rfl (fun hp => absurd hp c.fail_phase_ne.1) (fun hp => absurd hp c.fail_phase_ne.2)
    fun _ hmem => Or.inl hmem

theorem mem_write_sent {c : Conn} {item item' : Sent} (h : item' ∈ (c.write item).sent) :
    item' ∈ c.sent ∨ item' = item := by
  by_cases hw : c.writable
  · rw [Conn.write_of_writable hw] at h
    simpa using h
  · rw [Conn.write_of_not_writable hw] at h
    exact Or.inl h

theorem Earned.write {c : Conn} (h : Earned env credentials c) (item : Sent)
    (hitem : (∃ response, item = .response response) ∨ c.phase = .playing) :
    Earned env credentials (c.write item) := by
  refine h.of_le (c.write_handled item) (fun hp => ?_) (fun hp => ?_) fun bytes hmem => ?_
  · exact ⟨(Conn.write_phase (Or.inl hp)).2.symm.trans hp, c.write_state item⟩
  · exact (Conn.write_phase (Or.inr hp)).2.symm.trans hp
  · rcases mem_write_sent hmem with hmem | rfl
    · exact Or.inl hmem
    · rcases hitem with ⟨response, hr⟩ | hphase
      · cases hr
      · exact Or.inr hphase

/-! ## One request -/

theorem enterStream_phase_ne (env : Env) (c : Conn) : (enterStream env c).phase ≠ .requests := by
  unfold enterStream
  dsimp only
  split <;> simp

/-- The request is noted before it is handled. -/
theorem Earned.reaction (hauth : rtspAuthCredentials env.config = some credentials) {c : Conn}
    (h : Earned env credentials c) (hphase : c.phase = .requests) (entry : Nat × Bytes)
    {r : Reaction}
    (hr : r.Justified env (fromUtf8Lossy entry.2) c.state) (hitem : r.IsResponse) :
    Earned env credentials (r.run env { c with handled := c.handled ++ [entry] }) := by
  have hquiet := h.silent hphase
  cases r with
  | answer item state =>
    obtain ⟨response, rfl⟩ := hitem
    have hbase : Earned env credentials
        { c with state := state, handled := c.handled ++ [entry] } := by
      refine ⟨fun _ hsetup => ?_, fun _ => hquiet, fun hplays => ?_⟩
      · rcases hr with rfl | haccepts
        · obtain ⟨x, hx, hwith⟩ := h.setup hphase hsetup
          exact ⟨x, List.mem_append_left _ hx, hwith⟩
        · exact ⟨entry, by simp, haccepts.setUpWith hauth⟩
      · rcases hplays with hp | ⟨bytes, hmem⟩
        · exact absurd (hphase.symm.trans hp) (by simp)
        · exact absurd hmem (hquiet bytes)
    exact hbase.write _ (Or.inl ⟨response, rfl⟩)
  | play item =>
    obtain ⟨response, rfl⟩ := hitem
    obtain ⟨haccepts, hsetup⟩ := hr
    have hplayed : ∃ before play, c.handled ++ [entry] = before ++ [play] ∧
        PlayedWith env credentials play ∧ ∃ x ∈ before, SetUpWith env credentials x :=
      ⟨c.handled, entry, rfl, haccepts.presents hauth, h.setup hphase hsetup⟩
    unfold Reaction.run unlessFailed
    dsimp only
    split
    · rename_i hkept
      refine ⟨fun hp => absurd hp (enterStream_phase_ne env _),
        fun hp => absurd hp (enterStream_phase_ne env _), fun _ => ?_⟩
      simpa [enterStream] using hplayed
    · -- the answer could not be written
      rename_i hfailed
      have hended : ¬ ({ c with handled := c.handled ++ [entry] } : Conn).writable := by
        intro hw
        rw [Conn.write_of_writable hw] at hfailed
        exact hfailed hphase
      rw [Conn.write_of_not_writable hended]
      have hphase' := Conn.fail_phase_ne { c with handled := c.handled ++ [entry] }
      refine ⟨fun hp => absurd hp hphase'.1, fun hp => absurd hp hphase'.1, fun _ => hplayed⟩
  | teardown item =>
    obtain ⟨response, rfl⟩ := hitem
    have hnone : ∀ bytes, Sent.video bytes ∉
        (({ c with handled := c.handled ++ [entry] } : Conn).write (.response response)).sent := by
      intro bytes hmem
      rcases mem_write_sent hmem with hmem | heq
      · exact hquiet bytes hmem
      · cases heq
    unfold Reaction.run unlessFailed
    dsimp only
    split
    · refine ⟨fun hp => (by cases hp), fun hp => (by cases hp), fun hplays => ?_⟩
      rcases hplays with hp | ⟨bytes, hmem⟩
      · cases hp
      · exact absurd hmem (hnone bytes)
    · rename_i hfailed
      refine ⟨fun hp => absurd hp hfailed, fun hp => absurd hp hfailed, fun hplays => ?_⟩
      rcases hplays with hp | ⟨bytes, hmem⟩
      · have hp' := (Conn.write_phase (Or.inr hp)).2
        rw [hp] at hp'
        exact absurd (hp'.trans hphase) (by simp)
      · exact absurd hmem (hnone bytes)

theorem taken_eq {c : Conn} {raw : List Char} {rest : Bytes}
    (h : takeRtspRequestFromBuffer c.buffer = some (raw, rest)) :
    raw = fromUtf8Lossy (c.front rest).2 := by
  obtain ⟨⟨req, rest'⟩, hdrain, heq⟩ := Option.map_eq_some_iff.mp h
  cases heq
  obtain ⟨i, hi, hsplit⟩ := Option.map_eq_some_iff.mp hdrain
  have hle := findBytes_add_le hi
  cases hsplit
  unfold Conn.front
  rw [List.length_drop, Nat.sub_sub_self hle]

theorem Earned.handleRequest (hauth : rtspAuthCredentials env.config = some credentials) {c : Conn}
    (h : Earned env credentials c) (hphase : c.phase = .requests) {raw : List Char} {rest : Bytes}
    (htake : takeRtspRequestFromBuffer c.buffer = some (raw, rest)) :
    Earned env credentials (handleRequest env raw
      { c.consume rest with handled := c.handled ++ [c.front rest] }) := by
  obtain ⟨r, hr, hresponse, hrun⟩ := handleRequest_reaction env raw
    { c with handled := c.handled ++ [c.front rest] }
  have hrun' := hrun rest (c.consume rest).position
  have hbase : Earned env credentials (c.consume rest) := ⟨h.setup, h.silent, h.plays⟩
  rw [taken_eq htake] at hr
  exact hrun' ▸ hbase.reaction hauth hphase (c.front rest) hr hresponse

/-! ## Whole reads -/

theorem Earned.serveRequests (hauth : rtspAuthCredentials env.config = some credentials) :
    ∀ (n : Nat) (c : Conn), Earned env credentials c → c.phase = .requests →
      Earned env credentials (serveRequests env n c) := by
  intro n
  induction n with
  | zero => exact fun _ h _ => h
  | succ n ih =>
    intro c h hphase
    cases htake : takeRtspRequestFromBuffer c.buffer with
    | none =>
      simp only [Rtsp.serveRequests, htake]
      exact h
    | some taken =>
      have hone := h.handleRequest hauth hphase htake
      simp only [Rtsp.serveRequests, htake]
      split
      · rename_i hnext
        exact ih _ hone hnext
      · exact hone

theorem Earned.stripFrames :
    ∀ (n : Nat) (c : Conn), Earned env credentials c → Earned env credentials (stripFrames n c) := by
  intro n
  induction n with
  | zero => exact fun _ h => h
  | succ n ih =>
    intro c h
    cases hs : stripInterleavedFramesPrefix c.buffer with
    | none =>
      simp only [Rtsp.stripFrames, hs]
      exact h
    | some rest =>
      simp only [Rtsp.stripFrames, hs]
      exact ih _ ⟨h.setup, h.silent, h.plays⟩

/-- What `handle_client` handled and sent is not touched by control requests. -/
theorem Earned.serveControls :
    ∀ (n : Nat) (c : Conn), Earned env credentials c → c.phase = .playing →
      Earned env credentials (serveControls env n c) := by
  intro n
  induction n with
  | zero => exact fun _ h _ => h
  | succ n ih =>
    intro c h hphase
    cases htake : takeRtspRequestFromBuffer c.buffer with
    | none =>
      simp only [Rtsp.serveControls, htake]
      exact h
    | some taken =>
      obtain ⟨raw, rest⟩ := taken
      have hnext : Earned env credentials
          { c.consume rest with controls := c.controls ++ [c.front rest] } :=
        ⟨h.setup, h.silent, h.plays⟩
      simp only [Rtsp.serveControls, htake]
      cases parseRtspRequest env.parse raw with
      | none => exact ih _ hnext hphase
      | some req =>
        obtain ⟨response, hcontrol⟩ := handlePlayControlRequest_eq req
          { c.consume rest with controls := c.controls ++ [c.front rest] }
        have hone : Earned env credentials (handlePlayControlRequest req
            { c.consume rest with controls := c.controls ++ [c.front rest] }) := by
          have heq := hcontrol rest (c.consume rest).position
          refine heq ▸ ?_
          have hwrite := hnext.write (.response response) (Or.inl ⟨response, rfl⟩)
          split
          · exact hwrite.of_le rfl (fun hp => (by cases hp)) (fun hp => (by cases hp))
              fun _ hmem => Or.inl hmem
          · exact hwrite
        dsimp only
        split
        · rename_i hkept
          exact ih _ (hone.stripFrames _ _) (by rw [stripAll_phase]; exact hkept)
        · exact hone

theorem Earned.sendFrame (packets : List Bytes) :
    ∀ c : Conn, Earned env credentials c → Earned env credentials (sendFrame packets c) := by
  induction packets with
  | nil => exact fun _ h => h
  | cons packet packets ih =>
    intro c h
    apply ih
    dsimp only
    split
    · rename_i hphase
      unfold sendInterleavedRtp
      have hheader := h.write (.video (interleavedHeader c.state.interleavedChannel packet))
        (Or.inr hphase)
      dsimp only
      split
      · rename_i hkept
        exact hheader.write _ (Or.inr hkept)
      · exact hheader
    · exact h

theorem Earned.onEvent (hauth : rtspAuthCredentials env.config = some credentials) {c : Conn}
    (h : Earned env credentials c) (e : Event) : Earned env credentials (c.onEvent env e) := by
  cases e with
  | read chunk =>
    have hended : ∀ c' : Conn, Earned env credentials c' →
        Earned env credentials { c' with phase := .returned } := fun c' h' =>
      h'.of_le rfl (fun hp => (by cases hp)) (fun hp => (by cases hp)) fun _ hmem => Or.inl hmem
    have hfilled : Earned env credentials { c with buffer := c.buffer ++ chunk } :=
      ⟨h.setup, h.silent, h.plays⟩
    show Earned env credentials (onRead env chunk c)
    cases hphase : c.phase with
    | requests =>
      rw [onRead_requests env hphase]
      split
      · exact hended c h
      · exact hfilled.serveRequests hauth _ _ hphase
    | playing =>
      rw [onRead_playing env hphase]
      split
      · exact hended c h
      · exact Earned.serveControls _ _ (hfilled.stripFrames _ _)
          (by rw [stripAll_phase]; exact hphase)
    | returned | failed =>
      rw [onRead_ended env (by simp [hphase])]
      exact h
  | readError =>
    show Earned env credentials (if _ then _ else _)
    split
    · exact h.fail
    · exact h
  | frame packets =>
    show Earned env credentials (if _ then _ else _)
    split
    · exact Earned.sendFrame packets c h
    · exact h
  | frameError =>
    show Earned env credentials (if _ then _ else _)
    split
    · exact h.fail
    · exact h

theorem Earned.reachable (hauth : rtspAuthCredentials env.config = some credentials) {c : Conn}
    (h : (connections env).Reachable c) : Earned env credentials c := by
  refine TSys.invariant (I := Earned env credentials) (fun _ h0 => Earned.fresh h0) ?_ h
  intro c e c' hc hstep
  rw [show c' = c.onEvent env e from hstep]
  exact hc.onEvent hauth e

/-- A request that is refused is answered; only the socket can end the connection then. -/
theorem handleRequest_unchanged (hauth : rtspAuthCredentials env.config = some credentials)
    {raw : List Char} (hrefused : ∀ req, ¬ Presents env credentials raw req) {c : Conn}
    (hphase : c.phase = .requests) :
    (handleRequest env raw c).state = c.state ∧
      ((handleRequest env raw c).phase = .requests ∨ ¬ c.writable) := by
  have hnone : ∀ method, ¬ Accepts env raw method := by
    intro method haccepts
    obtain ⟨req, hpresents, -⟩ := haccepts.presents hauth
    exact hrefused req hpresents
  obtain ⟨response, hresponse⟩ := handleRequest_refused hnone c
  have hwrite : handleRequest env raw c = c.write (.response response) :=
    hresponse c.buffer c.position
  rw [hwrite]
  refine ⟨c.write_state _, ?_⟩
  by_cases hw : c.writable
  · rw [Conn.write_of_writable hw]
    exact Or.inl hphase
  · exact Or.inr hw

/-- The video starts with an authenticated `PLAY` behind an authenticated `SETUP`, and a refused
request changes nothing. While the video plays, the credentials are not looked at: a `TEARDOWN`
ends the connection, and no other request does anything to it. -/
theorem video_needs_credentials (hauth : rtspAuthCredentials env.config = some credentials)
    {c : Conn} (hreach : (connections env).Reachable c) :
    (c.Plays → ∃ before play, c.handled = before ++ [play] ∧
      PlayedWith env credentials play ∧ ∃ entry ∈ before, SetUpWith env credentials entry) ∧
    (∀ (raw : List Char) (c' : Conn), (∀ req, ¬ Presents env credentials raw req) →
      c'.phase = .requests → (handleRequest env raw c').state = c'.state ∧
        ((handleRequest env raw c').phase = .requests ∨ ¬ c'.writable)) ∧
    (∀ (req : RtspRequest) (c' : Conn), c'.phase = .playing →
      (handlePlayControlRequest req c').state = c'.state ∧
        if req.method = .teardown then (handlePlayControlRequest req c').phase = .returned
        else (handlePlayControlRequest req c').phase = .playing ∨ ¬ c'.writable) := by
  refine ⟨(Earned.reachable hauth hreach).plays, ?_, ?_⟩
  · intro raw c' hrefused hphase
    exact handleRequest_unchanged hauth hrefused hphase
  · intro req c' hphase
    obtain ⟨response, hresponse⟩ := handlePlayControlRequest_eq req c'
    have hcontrol := hresponse c'.buffer c'.position
    rw [show ({ c' with buffer := c'.buffer, position := c'.position } : Conn) = c' from rfl]
      at hcontrol
    rw [hcontrol]
    by_cases hteardown : req.method = .teardown
    · simp [hteardown]
    · simp only [hteardown, if_false]
      refine ⟨c'.write_state _, ?_⟩
      by_cases hw : c'.writable
      · rw [Conn.write_of_writable hw]
        exact Or.inl hphase
      · exact Or.inr hw

end Credentials

/-! ## Samples -/

namespace Access

def setupHead : Bytes :=
  textBytes ("SETUP rtsp://kvm/live RTSP/1.0\r\nCSeq: 1\r\nTransport: RTP/AVP/TCP\r\n" ++
    "Authorization: Basic dXNlcjpwYXNz\r\n\r\n")

def playHead : Bytes :=
  textBytes "PLAY rtsp://kvm/live RTSP/1.0\r\nCSeq: 2\r\nAuthorization: Basic dXNlcjpwYXNz\r\n\r\n"

def teardownHead : Bytes := textBytes "TEARDOWN rtsp://kvm/live RTSP/1.0\r\nCSeq: 3\r\n\r\n"

def sampleRequest (method : Method) (headers : List (String × String)) : RawRequest where
  method := method
  requestUri := some "rtsp://kvm/live"
  version := .v1_0
  headers := headers

/-- These messages as the parser reads them. -/
def sampleMessages : List (Bytes × RawRequest) :=
  [(setupHead, sampleRequest .setup [("CSeq", "1"), ("Transport", "RTP/AVP/TCP"),
      ("Authorization", "Basic dXNlcjpwYXNz")]),
    (playHead, sampleRequest .play [("CSeq", "2"), ("Authorization", "Basic dXNlcjpwYXNz")]),
    (teardownHead, sampleRequest .teardown [("CSeq", "3")])]

def sampleEnv : Env where
  parse bytes := (sampleMessages.lookup bytes).map fun req => (.request req, bytes.length)
  decode text := if text = "dXNlcjpwYXNz".toList then some (textBytes "user:pass") else none
  config := { username := some "user", password := some "pass" }
  sdp _ := ""
  subscribes := true

def sampleCredentials : List Char × List Char := ("user".toList, "pass".toList)

theorem sample_configured : rtspAuthCredentials sampleEnv.config = some sampleCredentials := by
  decide +kernel

/-- A client that has set up and played. -/
def playing : Conn :=
  (({ state := { sessionId := "0123456789abcdef" } } : Conn).onEvent sampleEnv
    (.read setupHead)).onEvent sampleEnv (.read playHead)

theorem playing_reachable : (connections sampleEnv).Reachable playing :=
  connections_onEvent (connections_onEvent (.init ⟨_, none, rfl⟩) _) _

theorem playing_phase : playing.phase = .playing := by decide +kernel

theorem video_needs_credentials_sample :
    playing.Plays ∧ ∃ before play, playing.handled = before ++ [play] ∧
      PlayedWith sampleEnv sampleCredentials play ∧
      ∃ entry ∈ before, SetUpWith sampleEnv sampleCredentials entry :=
  ⟨Or.inl playing_phase,
    (video_needs_credentials sample_configured playing_reachable).1 (Or.inl playing_phase)⟩

/-- A `TEARDOWN` without credentials ends the video. -/
theorem unchecked_teardown :
    (connections sampleEnv).Reachable playing ∧ playing.phase = .playing ∧
      rtspAuthCredentials sampleEnv.config = some sampleCredentials ∧
      (∀ req, ¬ Presents sampleEnv sampleCredentials (fromUtf8Lossy teardownHead) req) ∧
      (playing.onEvent sampleEnv (.read teardownHead)).phase = .returned := by
  refine ⟨playing_reachable, playing_phase, sample_configured, ?_, by decide +kernel⟩
  have hbare : (parseRtspRequest sampleEnv.parse (fromUtf8Lossy teardownHead)).all
      (fun req => extractBasicAuth sampleEnv.decode req = none) = true := by decide +kernel
  intro req hpresents
  obtain ⟨hparse, -, hbasic⟩ := hpresents
  rw [hparse] at hbare
  rw [Option.all_some, decide_eq_true_eq, hbasic] at hbare
  cases hbare

end Access

end StreamBox.Rtsp
