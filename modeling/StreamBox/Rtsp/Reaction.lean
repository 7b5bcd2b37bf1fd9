import StreamBox.Rtsp.HandleClient

/-!
# What a request does

Whatever the buffer holds, a request is answered, or it starts the video, or it ends the
connection. The two loops are built from this.
-/

namespace StreamBox.Rtsp

open StreamBox.RustDesk StreamBox.Config

/-- The request is one of this method, for the configured path, with the credentials that are
configured. -/
def Accepts (env : Env) (raw : List Char) (method : Method) : Prop :=
  ∃ req, parseRtspRequest env.parse raw = some req ∧ req.method = method ∧
    isValidRtspPath req.method req.uri env.config.path.toList = true ∧ authorized env req = true

/-- A `SETUP` for the interleaved transport. -/
def AcceptsSetup (env : Env) (raw : List Char) : Prop :=
  ∃ req, parseRtspRequest env.parse raw = some req ∧ req.method = .setup ∧
    isValidRtspPath req.method req.uri env.config.path.toList = true ∧
    authorized env req = true ∧ isTcpTransportRequest ((req.header "transport").getD []) = true

inductive Reaction
  | answer (item : Sent) (state : RtspConnectionState)
  | play (item : Sent)
  | teardown (item : Sent)

def Reaction.run (env : Env) (c : Conn) : Reaction → Conn
  | .answer item state => ({ c with state := state }).write item
  | .play item => unlessFailed (enterStream env) (c.write item)
  | .teardown item => unlessFailed ({ · with phase := .returned }) (c.write item)

/-- What goes back is a response. -/
def Reaction.IsResponse : Reaction → Prop
  | .answer item _ | .play item | .teardown item => ∃ response, item = .response response

/-- A reaction the request and the state of the connection call for. -/
def Reaction.Justified (env : Env) (raw : List Char) (state : RtspConnectionState) :
    Reaction → Prop
  | .answer _ state' => state' = state ∨ AcceptsSetup env raw
  | .play _ => Accepts env raw .play ∧ state.setupDone = true
  | .teardown _ => Accepts env raw .teardown

theorem handleMethod_reaction (env : Env) (raw : List Char) (req : RtspRequest) (c : Conn)
    (hparse : parseRtspRequest env.parse raw = some req)
    (hpath : isValidRtspPath req.method req.uri env.config.path.toList = true)
    (hauth : authorized env req = true) :
    ∃ r : Reaction, r.Justified env raw c.state ∧ r.IsResponse ∧
      ∀ buffer position, handleMethod env req { c with buffer := buffer, position := position } =
        r.run env { c with buffer := buffer, position := position } := by
  unfold handleMethod
  cases hmethod : req.method with
  | setup =>
    by_cases htcp : isTcpTransportRequest ((req.header "transport").getD []) = true
    · simp only [handleSetup, htcp, Bool.not_true, Bool.false_eq_true, if_false]
      exact ⟨.answer _ _, Or.inr ⟨req, hparse, hmethod, hpath, hauth, htcp⟩, ⟨_, rfl⟩,
        fun _ _ => rfl⟩
    · simp only [Bool.not_eq_true] at htcp
      simp only [handleSetup, htcp, Bool.not_false, if_true]
      exact ⟨.answer _ c.state, Or.inl rfl, ⟨_, rfl⟩, fun _ _ => rfl⟩
  | play =>
    by_cases hsetup : c.state.setupDone = true
    · simp only [handlePlay, hsetup, Bool.not_true, Bool.false_eq_true, if_false]
      exact ⟨.play _, ⟨⟨req, hparse, hmethod, hpath, hauth⟩, hsetup⟩, ⟨_, rfl⟩, fun _ _ => rfl⟩
    · simp only [Bool.not_eq_true] at hsetup
      simp only [handlePlay, hsetup, Bool.not_false, if_true]
      exact ⟨.answer _ c.state, Or.inl rfl, ⟨_, rfl⟩, fun _ _ => rfl⟩
  | describe =>
    by_cases hsdp : env.sdp c.handled.length = ""
    · simp only [handleDescribe, hsdp, if_true]
      exact ⟨.answer _ c.state, Or.inl rfl, ⟨_, rfl⟩, fun _ _ => rfl⟩
    · simp only [handleDescribe, hsdp, if_false]
      exact ⟨.answer _ c.state, Or.inl rfl, ⟨_, rfl⟩, fun _ _ => rfl⟩
  | teardown =>
    dsimp only
    exact ⟨.teardown (.response (responseTo req 200 [] "" c.state.sessionId)),
      ⟨req, hparse, hmethod, hpath, hauth⟩, ⟨_, rfl⟩, fun _ _ => rfl⟩
  | _ =>
    dsimp only
    exact ⟨.answer _ c.state, Or.inl rfl, ⟨_, rfl⟩, fun _ _ => rfl⟩

/-- A text that does not parse, or a request for another path or without the credentials, is
answered and that is all. -/
theorem handleRequest_refused {env : Env} {raw : List Char}
    (h : ∀ method, ¬ Accepts env raw method) (c : Conn) :
    ∃ response, ∀ buffer position,
      handleRequest env raw { c with buffer := buffer, position := position } =
        ({ c with buffer := buffer, position := position }).write (.response response) := by
  unfold handleRequest
  cases hparse : parseRtspRequest env.parse raw with
  | none => exact ⟨_, fun _ _ => rfl⟩
  | some req =>
    by_cases hpath : isValidRtspPath req.method req.uri env.config.path.toList = true
    · have hauth : authorized env req = false := by
        cases hauth : authorized env req with
        | false => rfl
        | true => exact absurd ⟨req, hparse, rfl, hpath, hauth⟩ (h req.method)
      simp only [hpath, hauth, Bool.not_true, Bool.false_eq_true, if_false, Bool.not_false,
        if_true]
      exact ⟨_, fun _ _ => rfl⟩
    · simp only [Bool.not_eq_true] at hpath
      simp only [hpath, Bool.not_false, if_true]
      exact ⟨_, fun _ _ => rfl⟩

theorem handleRequest_reaction (env : Env) (raw : List Char) (c : Conn) :
    ∃ r : Reaction, r.Justified env raw c.state ∧ r.IsResponse ∧
      ∀ buffer position,
        handleRequest env raw { c with buffer := buffer, position := position } =
          r.run env { c with buffer := buffer, position := position } := by
  by_cases h : ∃ method, Accepts env raw method
  · obtain ⟨method, req, hparse, -, hpath, hauth⟩ := h
    unfold handleRequest
    simp only [hparse, hpath, hauth, Bool.not_true, Bool.false_eq_true, if_false]
    exact handleMethod_reaction env raw req c hparse hpath hauth
  · simp only [not_exists] at h
    obtain ⟨response, hresponse⟩ := handleRequest_refused h c
    exact ⟨.answer (.response response) c.state, Or.inl rfl, ⟨_, rfl⟩, hresponse⟩

/-! ## Writes -/

namespace Conn

theorem write_of_writable {c : Conn} (h : c.writable) (item : Sent) :
    c.write item =
      { c with writesLeft := c.writesLeft.map (· - 1), sent := c.sent ++ [item] } := by
  unfold write
  unfold writable at h
  split
  · rename_i h0
    exact absurd h0 h
  · rfl

theorem write_of_not_writable {c : Conn} (h : ¬ c.writable) (item : Sent) :
    c.write item = c.fail := by
  have h0 : c.writesLeft = some 0 := not_not.mp h
  unfold write
  simp only [h0]

theorem fail_phase_ne (c : Conn) : c.fail.phase ≠ .requests ∧ c.fail.phase ≠ .playing := by
  unfold fail
  constructor <;> dsimp only <;> split <;> simp

@[simp] theorem write_state (c : Conn) (item : Sent) : (c.write item).state = c.state := by
  unfold write fail
  split <;> rfl

@[simp] theorem write_buffer (c : Conn) (item : Sent) : (c.write item).buffer = c.buffer := by
  unfold write fail
  split <;> rfl

@[simp] theorem write_position (c : Conn) (item : Sent) :
    (c.write item).position = c.position := by
  unfold write fail
  split <;> rfl

@[simp] theorem write_handled (c : Conn) (item : Sent) :
    (c.write item).handled = c.handled := by
  unfold write fail
  split <;> rfl

@[simp] theorem write_controls (c : Conn) (item : Sent) :
    (c.write item).controls = c.controls := by
  unfold write fail
  split <;> rfl

/-- A write that keeps the task going leaves it where it is. -/
theorem write_phase {c : Conn} {item : Sent}
    (h : (c.write item).phase = .requests ∨ (c.write item).phase = .playing) :
    c.writable ∧ (c.write item).phase = c.phase := by
  by_cases hw : c.writable
  · exact ⟨hw, by rw [write_of_writable hw]⟩
  · rw [write_of_not_writable hw] at h
    have := c.fail_phase_ne
    tauto

/-- A write does not look at the buffer. -/
theorem write_setBuffer (c : Conn) (buffer : Bytes) (position : Nat) (item : Sent) :
    ({ c with buffer := buffer, position := position }).write item =
      { c.write item with buffer := buffer, position := position } := by
  by_cases h : c.writable
  · rw [write_of_writable h item]
    exact write_of_writable (show ({ c with buffer := buffer, position := position }).writable
      from h) item
  · rw [write_of_not_writable h item]
    exact write_of_not_writable (show ¬ ({ c with buffer := buffer, position := position }).writable
      from h) item

end Conn

/-! ## Control requests -/

/-- A control request is answered, and nothing but a `TEARDOWN` ends the video. -/
theorem handlePlayControlRequest_eq (req : RtspRequest) (c : Conn) :
    ∃ response, ∀ buffer position,
      handlePlayControlRequest req { c with buffer := buffer, position := position } =
        if req.method = .teardown then
          { ({ c with buffer := buffer, position := position }).write (.response response) with
            phase := .returned }
        else
          ({ c with buffer := buffer, position := position }).write (.response response) := by
  unfold handlePlayControlRequest
  cases hmethod : req.method <;>
    simp only [reduceCtorEq, if_false, if_true] <;>
    exact ⟨_, fun _ _ => rfl⟩

end StreamBox.Rtsp
