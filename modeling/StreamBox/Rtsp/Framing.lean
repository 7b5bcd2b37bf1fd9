import StreamBox.Rtsp.ControlStream

/-!
# Framing of the control channel

The stream of a client is cut into reads. `peel` says which items a read completes, `serveItem`
what the connection does with an item handed to it whole, and `Clean` which reads the two loops
take apart as the client meant them.
-/

namespace StreamBox.Rtsp

open StreamBox.RustDesk

/-- The items the bytes complete, the beginning of the next one, and the items not completed. -/
def peel : List Item → Bytes → List Item × Bytes × List Item
  | [], bytes => ([], bytes, [])
  | item :: items, bytes =>
    if item.bytes.length ≤ bytes.length then
      let (done, begun, coming) := peel items (bytes.drop item.bytes.length)
      (item :: done, begun, coming)
    else ([], bytes, item :: items)

/-- The connection when one item comes whole and alone. -/
def serveItem (env : Env) (c : Conn) (item : Item) : Conn :=
  let after := { c with position := c.position + item.bytes.length }
  let entry := (c.position, item.bytes)
  match c.phase, item with
  | .requests, .request head _ =>
    handleRequest env (fromUtf8Lossy head) { after with handled := c.handled ++ [entry] }
  | .playing, .request head _ =>
    let after := { after with controls := c.controls ++ [entry] }
    match parseRtspRequest env.parse (fromUtf8Lossy head) with
    | none => after
    | some req => handlePlayControlRequest req after
  | _, _ => after

/-- No request has a body, and no frame comes before the video plays. -/
def ItemClean (phase : Phase) (item : Item) : Prop :=
  match phase, item with
  | .requests, .frame _ _ => False
  | .requests, .request _ body | .playing, .request _ body => body = []
  | _, _ => True

instance (phase : Phase) (item : Item) : Decidable (ItemClean phase item) :=
  match phase, item with
  | .requests, .frame _ _ => .isFalse id
  | .requests, .request _ body | .playing, .request _ body =>
    decidable_of_iff (body.isEmpty = true) List.isEmpty_iff
  | .playing, .frame _ _ | .returned, _ | .failed, _ => .isTrue trivial

/-- A read does not stop inside a body, nor inside a frame after an empty line. -/
def CutClean (phase : Phase) (begun : Bytes) (next : Option Item) : Prop :=
  match phase, next with
  | .requests, some (.frame _ _) => begun = []
  | .playing, some (.frame _ _) => findBytes begun delimiter = none
  | .requests, some (.request head body) | .playing, some (.request head body) =>
    body = [] ∨ begun.length < head.length
  | _, _ => True

instance (phase : Phase) (begun : Bytes) (next : Option Item) :
    Decidable (CutClean phase begun next) := by
  unfold CutClean
  split <;> infer_instance

/-- A read that completes these items and stops so far into the next one, at a connection. The
read that completes the `PLAY` brings nothing behind it but whole frames. -/
def Clean (env : Env) : Conn → List Item → Bytes → Option Item → Prop
  | c, [], begun, next => CutClean c.phase begun next
  | c, item :: done, begun, next =>
    ItemClean c.phase item ∧
      if c.phase = .requests ∧ (serveItem env c item).phase = .playing then
        begun = [] ∧ ∀ behind ∈ done, behind.IsFrame
      else Clean env (serveItem env c item) done begun next

theorem Clean.of_requests {env : Env} {c : Conn} {item : Item} {done : List Item} {begun : Bytes}
    {next : Option Item} (h : Clean env c (item :: done) begun next) (hc : c.phase = .requests) :
    ItemClean .requests item ∧
      ((serveItem env c item).phase = .playing → begun = [] ∧ ∀ behind ∈ done, behind.IsFrame) ∧
      ((serveItem env c item).phase ≠ .playing → Clean env (serveItem env c item) done begun next) := by
  obtain ⟨hitem, hrest⟩ := h
  refine ⟨hc ▸ hitem, fun hp => ?_, fun hp => ?_⟩
  · rwa [if_pos ⟨hc, hp⟩] at hrest
  · rwa [if_neg (by rw [not_and]; exact fun _ => hp)] at hrest

theorem Clean.of_playing {env : Env} {c : Conn} {item : Item} {done : List Item} {begun : Bytes}
    {next : Option Item} (h : Clean env c (item :: done) begun next) (hc : c.phase = .playing) :
    ItemClean .playing item ∧ Clean env (serveItem env c item) done begun next := by
  obtain ⟨hitem, hrest⟩ := h
  refine ⟨hc ▸ hitem, ?_⟩
  rwa [if_neg (by rw [hc]; simp)] at hrest

instance Clean.decidable (env : Env) :
    ∀ (c : Conn) (done : List Item) (begun : Bytes) (next : Option Item),
      Decidable (Clean env c done begun next)
  | _, [], _, _ => inferInstanceAs (Decidable (CutClean _ _ _))
  | c, item :: done, begun, next =>
    have := Clean.decidable env (serveItem env c item) done begun next
    inferInstanceAs (Decidable (_ ∧ if _ ∧ _ then _ ∧ _ else Clean _ _ _ _ _))

/-! ## Cuts -/

/-- A proper beginning of the first of these items. -/
def Begun (begun : Bytes) : List Item → Prop
  | [] => begun = []
  | item :: _ => ∃ rest, rest ≠ [] ∧ item.bytes = begun ++ rest

theorem peel_spec :
    ∀ {items done coming : List Item} {bytes begun : Bytes}, bytes <+: streamBytes items →
      peel items bytes = (done, begun, coming) →
      items = done ++ coming ∧ bytes = streamBytes done ++ begun ∧ Begun begun coming := by
  intro items
  induction items with
  | nil =>
    intro done coming bytes begun hpre h
    cases h
    have hnil : bytes = [] := by simpa using hpre
    exact ⟨rfl, by simp, hnil⟩
  | cons item items ih =>
    intro done coming bytes begun hpre h
    unfold peel at h
    by_cases hle : item.bytes.length ≤ bytes.length
    · rw [if_pos hle] at h
      obtain ⟨rest, rfl⟩ : item.bytes <+: bytes :=
        List.prefix_of_prefix_length_le (by simp) hpre hle
      rw [streamBytes_cons, List.prefix_append_right_inj] at hpre
      rw [List.drop_left] at h
      cases hp : peel items rest with
      | mk done' tail =>
        obtain ⟨begun', coming'⟩ := tail
        obtain ⟨hitems, hbytes, hbegun⟩ := ih hpre hp
        rw [hp] at h
        cases h
        refine ⟨by simp [hitems], ?_, hbegun⟩
        rw [streamBytes_cons, List.append_assoc, hbytes]
    · rw [if_neg hle] at h
      cases h
      obtain ⟨rest, hrest⟩ : bytes <+: item.bytes :=
        List.prefix_of_prefix_length_le hpre (by simp) (by omega)
      refine ⟨rfl, rfl, rest, ?_, hrest.symm⟩
      intro hnil
      rw [hnil, List.append_nil] at hrest
      exact hle (by rw [hrest])

/-- What has begun of an item holds no request, if the read stopped cleanly. -/
theorem drainRequest_begun {parse : MessageParser} {begun : Bytes} {coming : List Item}
    {phase : Phase} (hphase : phase = .requests ∨ phase = .playing)
    (hbegun : Begun begun coming) (hwf : ∀ item ∈ coming, item.WellFormed parse)
    (hclean : CutClean phase begun coming.head?) : drainRequest begun = none := by
  have hempty : drainRequest [] = none := by decide
  cases coming with
  | nil =>
    rw [show begun = [] from hbegun]
    exact hempty
  | cons item coming =>
    obtain ⟨rest, hrest, hsplit⟩ := hbegun
    cases item with
    | request head body =>
      obtain ⟨hhead, -⟩ := hwf _ List.mem_cons_self
      have hcut : body = [] ∨ begun.length < head.length := by
        rcases hphase with rfl | rfl <;> exact hclean
      rcases hcut with rfl | hlt
      · exact drainRequest_partial hhead (by simpa [Item.bytes] using hsplit) hrest
      · obtain ⟨mid, hmid⟩ : begun <+: head :=
          List.prefix_of_prefix_length_le ⟨rest, hsplit.symm⟩
            (show head <+: head ++ body by simp) hlt.le
        refine drainRequest_partial hhead hmid.symm ?_
        rintro rfl
        rw [List.append_nil] at hmid
        rw [hmid] at hlt
        exact absurd hlt (lt_irrefl _)
    | frame channel payload =>
      rcases hphase with rfl | rfl
      · rw [show begun = [] from hclean]
        exact hempty
      · unfold drainRequest
        rw [show findBytes begun delimiter = none from hclean]
        rfl

/-- Nor a whole frame. -/
theorem strip_begun {parse : MessageParser} {begun : Bytes} {coming : List Item}
    (hbegun : Begun begun coming) (hwf : ∀ item ∈ coming, item.WellFormed parse) :
    stripInterleavedFramesPrefix begun = none := by
  cases coming with
  | nil =>
    rw [show begun = [] from hbegun]
    rfl
  | cons item coming =>
    obtain ⟨rest, hrest, hsplit⟩ := hbegun
    cases item with
    | request head body =>
      obtain ⟨-, -, hne, -⟩ := hwf _ List.mem_cons_self
      apply strip_of_head_ne
      cases begun with
      | nil => simp
      | cons b begun =>
        cases head with
        | nil =>
          obtain ⟨hhead, -⟩ := hwf _ List.mem_cons_self
          cases hhead
        | cons h head =>
          have hb : h = b := (List.cons.inj hsplit).1
          rw [← hb]
          exact hne
    | frame channel payload =>
      exact strip_partial_frame (hwf _ List.mem_cons_self) hsplit hrest

/-! ## One request -/

theorem Conn.setBuffer_eq_self {c : Conn} {buffer : Bytes} (h : c.buffer = buffer) :
    { c with buffer := buffer } = c := by
  rw [← h]

/-- A request does the same whatever stands behind it in the buffer, except that what stands
behind the `PLAY` is lost. -/
theorem Reaction.run_buffer (env : Env) (r : Reaction) {c : Conn} (hc : c.phase = .requests)
    (behind : Bytes) :
    let whole := r.run env { c with buffer := [] }
    let cut := r.run env { c with buffer := behind }
    cut.phase = whole.phase ∧ cut.handled = c.handled ∧ cut.controls = c.controls ∧
      (cut.phase = .requests → cut = { whole with buffer := behind } ∧ whole.buffer = [] ∧
        whole.position = c.position) ∧
      (cut.phase = .playing → cut.buffer = [] ∧ cut.position = c.position + behind.length) := by
  cases r with
  | answer item state =>
    have hwrite := ({ c with state := state }).write_setBuffer behind c.position item
    have hwrite' := ({ c with state := state }).write_setBuffer [] c.position item
    have hphase : ∀ buffer : Bytes,
        (({ c with state := state, buffer := buffer }).write item).phase ≠ .playing := by
      intro buffer hp
      have := (Conn.write_phase (Or.inr hp)).2
      rw [hp, hc] at this
      cases this
    simp only [Reaction.run]
    refine ⟨by rw [hwrite, hwrite'], by simp, by simp, fun _ => ⟨?_, by simp, by simp⟩,
      fun hp => absurd hp (hphase behind)⟩
    rw [hwrite, hwrite']
  | play item =>
    simp only [Reaction.run]
    by_cases hw : c.writable
    · rw [Conn.write_of_writable (show ({ c with buffer := behind }).writable from hw),
        Conn.write_of_writable (show ({ c with buffer := [] }).writable from hw)]
      simp only [unlessFailed, hc, if_true, enterStream]
      cases env.subscribes <;> simp
    · rw [Conn.write_of_not_writable (show ¬ ({ c with buffer := behind }).writable from hw),
        Conn.write_of_not_writable (show ¬ ({ c with buffer := [] }).writable from hw)]
      simp [unlessFailed, Conn.fail, hc]
  | teardown item =>
    simp only [Reaction.run]
    by_cases hw : c.writable
    · rw [Conn.write_of_writable (show ({ c with buffer := behind }).writable from hw),
        Conn.write_of_writable (show ({ c with buffer := [] }).writable from hw)]
      simp [unlessFailed, hc]
    · rw [Conn.write_of_not_writable (show ¬ ({ c with buffer := behind }).writable from hw),
        Conn.write_of_not_writable (show ¬ ({ c with buffer := [] }).writable from hw)]
      simp [unlessFailed, Conn.fail, hc]

theorem handleRequest_buffer (env : Env) (raw : List Char) {c : Conn} (hc : c.phase = .requests)
    (behind : Bytes) :
    let whole := handleRequest env raw { c with buffer := [] }
    let cut := handleRequest env raw { c with buffer := behind }
    cut.phase = whole.phase ∧ cut.handled = c.handled ∧ cut.controls = c.controls ∧
      (cut.phase = .requests → cut = { whole with buffer := behind } ∧ whole.buffer = [] ∧
        whole.position = c.position) ∧
      (cut.phase = .playing → cut.buffer = [] ∧ cut.position = c.position + behind.length) := by
  obtain ⟨r, -, -, hr⟩ := handleRequest_reaction env raw c
  have h := r.run_buffer env hc behind
  rw [← hr [] c.position, ← hr behind c.position] at h
  exact h

/-! ## The loops, turn by turn -/

theorem stripFrames_of_le :
    ∀ (n m : Nat) (c : Conn), c.buffer.length ≤ n → c.buffer.length ≤ m →
      stripFrames n c = stripFrames m c := by
  intro n
  induction n with
  | zero =>
    intro m c hn _
    have hnil : c.buffer = [] := List.eq_nil_of_length_eq_zero (by omega)
    cases m with
    | zero => rfl
    | succ m => simp only [stripFrames, hnil, stripInterleavedFramesPrefix]
  | succ n ih =>
    intro m c hn hm
    cases hs : stripInterleavedFramesPrefix c.buffer with
    | none =>
      cases m with
      | zero => simp only [stripFrames, hs]
      | succ m => simp only [stripFrames, hs]
    | some rest =>
      have hlt := strip_lt hs
      cases m with
      | zero => omega
      | succ m =>
        simp only [stripFrames, hs]
        exact ih m _ (by show rest.length ≤ n; omega) (by show rest.length ≤ m; omega)

theorem stripAll_of_none {c : Conn} (h : stripInterleavedFramesPrefix c.buffer = none) :
    stripAll c = c := by
  unfold stripAll
  cases c.buffer.length with
  | zero => rfl
  | succ n => simp only [stripFrames, h]

theorem stripAll_of_some {c : Conn} {rest : Bytes}
    (h : stripInterleavedFramesPrefix c.buffer = some rest) :
    stripAll c = stripAll (c.consume rest) := by
  have hlt := strip_lt h
  have hone : stripFrames (c.buffer.length - 1 + 1) c =
      stripFrames (c.buffer.length - 1) (c.consume rest) := by
    simp only [stripFrames, h]
  unfold stripAll
  rw [stripFrames_of_le c.buffer.length (c.buffer.length - 1 + 1) c le_rfl (by omega), hone]
  exact stripFrames_of_le _ _ _ (by show rest.length ≤ _; omega) le_rfl

theorem stripFrames_phase : ∀ (n : Nat) (c : Conn), (stripFrames n c).phase = c.phase := by
  intro n
  induction n with
  | zero => exact fun _ => rfl
  | succ n ih =>
    intro c
    cases hs : stripInterleavedFramesPrefix c.buffer with
    | none => simp only [stripFrames, hs]
    | some rest =>
      simp only [stripFrames, hs]
      exact ih _

theorem stripAll_phase (c : Conn) : (stripAll c).phase = c.phase := stripFrames_phase _ c

theorem onRead_requests (env : Env) {c : Conn} (h : c.phase = .requests) (chunk : Bytes) :
    onRead env chunk c =
      if chunk = [] then { c with phase := .returned }
      else serveRequests env (c.buffer ++ chunk).length { c with buffer := c.buffer ++ chunk } := by
  cases c
  cases h
  rfl

theorem onRead_playing (env : Env) {c : Conn} (h : c.phase = .playing) (chunk : Bytes) :
    onRead env chunk c =
      if chunk = [] then { c with phase := .returned }
      else
        serveControls env (c.buffer ++ chunk).length
          (stripAll { c with buffer := c.buffer ++ chunk }) := by
  cases c
  cases h
  rfl

theorem onRead_ended (env : Env) {c : Conn} (h : c.phase ≠ .requests ∧ c.phase ≠ .playing)
    (chunk : Bytes) : onRead env chunk c = c := by
  unfold onRead
  cases hphase : c.phase with
  | requests => exact absurd hphase h.1
  | playing => exact absurd hphase h.2
  | returned => rfl
  | failed => rfl

/-- One turn of the loop of `handle_client`, beside the request handed over alone. -/
theorem serveRequests_one (env : Env) {c : Conn} {head rest : Bytes} (hphase : c.phase = .requests)
    (hhead : drainRequest head = some (head, [])) (hsplit : c.buffer = head ++ rest) (m : Nat) :
    ∃ cut : Conn,
      serveRequests env (m + 1) c =
        (if cut.phase = .requests then serveRequests env m cut else cut) ∧
      cut.phase = (serveItem env { c with buffer := [] } (.request head [])).phase ∧
      cut.handled = c.handled ++ [(c.position, head)] ∧ cut.controls = c.controls ∧
      (cut.phase = .requests →
        { cut with buffer := [] } = serveItem env { c with buffer := [] } (.request head []) ∧
          cut.buffer = rest ∧ cut.position = c.position + head.length) ∧
      (cut.phase = .playing →
        cut.buffer = [] ∧ cut.position = c.position + head.length + rest.length) := by
  have htake : takeRtspRequestFromBuffer c.buffer = some (fromUtf8Lossy head, rest) := by
    unfold takeRtspRequestFromBuffer
    rw [hsplit, drainRequest_append hhead]
    rfl
  have hfront : c.front rest = (c.position, head) := by
    unfold Conn.front
    rw [hsplit, List.length_append, Nat.add_sub_cancel, List.take_left]
  have hconsume : c.consume rest =
      { c with buffer := rest, position := c.position + head.length } := by
    unfold Conn.consume
    rw [hsplit, List.length_append, Nat.add_sub_cancel]
  have hserve : serveItem env { c with buffer := [] } (.request head []) =
      handleRequest env (fromUtf8Lossy head)
        { c with buffer := [], position := c.position + head.length,
                 handled := c.handled ++ [(c.position, head)] } := by
    unfold serveItem
    simp [hphase, Item.bytes]
  obtain ⟨hsame, hhandled, hcontrols, hreq, hplay⟩ :=
    handleRequest_buffer env (fromUtf8Lossy head)
      (c := { c with position := c.position + head.length,
                     handled := c.handled ++ [(c.position, head)] }) hphase rest
  refine ⟨handleRequest env (fromUtf8Lossy head)
    { c with buffer := rest, position := c.position + head.length,
             handled := c.handled ++ [(c.position, head)] }, ?_, ?_, hhandled, hcontrols, ?_, hplay⟩
  · simp only [serveRequests, htake, hfront, hconsume]
  · rw [hserve]
    exact hsame
  · intro hcut
    obtain ⟨heq, hbuffer, hposition⟩ := hreq hcut
    rw [hserve, heq]
    exact ⟨Conn.setBuffer_eq_self hbuffer, rfl, hposition⟩

/-- One turn of the loop of `stream_video_interleaved`. -/
theorem serveControls_one {env : Env} {c : Conn} {head rest : Bytes} (hphase : c.phase = .playing)
    (hwf : (Item.request head []).WellFormed env.parse) (hsplit : c.buffer = head ++ rest)
    (m : Nat) :
    ∃ cut : Conn,
      serveControls env (m + 1) c =
        (if cut.phase = .playing then serveControls env m (stripAll cut) else cut) ∧
      cut.phase ≠ .requests ∧
      cut.handled = c.handled ∧ cut.controls = c.controls ++ [(c.position, head)] ∧
      (cut.phase = .playing →
        { cut with buffer := [] } = serveItem env { c with buffer := [] } (.request head []) ∧
          cut.buffer = rest ∧ cut.position = c.position + head.length) := by
  obtain ⟨hhead, ⟨chars, hchars⟩, -, raw, hraw⟩ := hwf
  have htake : takeRtspRequestFromBuffer c.buffer = some (fromUtf8Lossy head, rest) := by
    unfold takeRtspRequestFromBuffer
    rw [hsplit, drainRequest_append hhead]
    rfl
  have hfront : c.front rest = (c.position, head) := by
    unfold Conn.front
    rw [hsplit, List.length_append, Nat.add_sub_cancel, List.take_left]
  have hconsume : c.consume rest =
      { c with buffer := rest, position := c.position + head.length } := by
    unfold Conn.consume
    rw [hsplit, List.length_append, Nat.add_sub_cancel]
  obtain ⟨req, hreq⟩ : ∃ req, parseRtspRequest env.parse (fromUtf8Lossy head) = some req := by
    unfold parseRtspRequest
    rw [List.append_nil] at hraw
    rw [hchars, fromUtf8Lossy_encode, ← hchars, hraw]
    simp
  obtain ⟨item, hitem⟩ := handlePlayControlRequest_eq req
    { c with position := c.position + head.length,
             controls := c.controls ++ [(c.position, head)] }
  refine ⟨handlePlayControlRequest req
    { c with buffer := rest, position := c.position + head.length,
             controls := c.controls ++ [(c.position, head)] }, ?_, ?_, ?_, ?_, ?_⟩
  · simp only [serveControls, htake, hfront, hconsume, hreq]
  · rw [hitem rest (c.position + head.length)]
    split
    · simp
    · intro hr
      have := (Conn.write_phase (Or.inl hr)).2
      rw [hr] at this
      exact absurd (this.trans hphase) (by simp)
  · rw [hitem rest (c.position + head.length)]
    split <;> simp
  · rw [hitem rest (c.position + head.length)]
    split <;> simp
  · have hserve : serveItem env { c with buffer := [] } (.request head []) =
        handlePlayControlRequest req
          { c with buffer := [], position := c.position + head.length,
                   controls := c.controls ++ [(c.position, head)] } := by
      unfold serveItem
      simp [hphase, Item.bytes, hreq]
    rw [hserve, hitem rest (c.position + head.length), hitem [] (c.position + head.length)]
    split
    · intro hr
      cases hr
    · intro _
      refine ⟨?_, by simp, by simp⟩
      rw [Conn.write_setBuffer, Conn.write_setBuffer]

/-! ## A loop over what one read brought -/

/-- The loop took the requests among these items, and left the rest of the buffer. -/
structure Serves (c c' : Conn) (done : List Item) (begun : Bytes) : Prop where
  log : c'.handled ++ c'.controls <+:
    c.handled ++ c.controls ++ located c.position done
  live : c'.phase = .requests ∨ c'.phase = .playing →
    c'.handled ++ c'.controls = c.handled ++ c.controls ++ located c.position done ∧
      c'.buffer = begun ∧ c'.position = c.position + (streamBytes done).length
  controls : c'.phase = .requests → c'.controls = []

theorem Serves.nil {c : Conn} {begun : Bytes} (hbuffer : c.buffer = begun)
    (hcontrols : c.phase = .requests → c.controls = []) : Serves c c [] begun where
  log := by simp [located]
  live _ := by simp [located, hbuffer]
  controls := hcontrols

/-- A first item and then a loop over the others. -/
theorem Serves.cons {c c₁ c' : Conn} {item : Item} {done : List Item} {begun : Bytes}
    (hlog : c₁.handled ++ c₁.controls = c.handled ++ c.controls ++ located c.position [item])
    (hposition : c₁.position = c.position + item.bytes.length)
    (h : Serves c₁ c' done begun) : Serves c c' (item :: done) begun := by
  have hall : c₁.handled ++ c₁.controls ++ located c₁.position done =
      c.handled ++ c.controls ++ located c.position (item :: done) := by
    rw [hlog, hposition, List.append_assoc, ← located_cons]
  refine ⟨hall ▸ h.log, ?_, h.controls⟩
  intro hlive
  obtain ⟨hsame, hbuffer, hpos⟩ := h.live hlive
  refine ⟨hsame.trans hall, hbuffer, ?_⟩
  rw [hpos, hposition, streamBytes_cons, List.length_append, Nat.add_assoc]

/-- A connection that has ended with the first item. -/
theorem Serves.ended {c c' : Conn} {item : Item} {done : List Item} {begun : Bytes}
    (hlog : c'.handled ++ c'.controls = c.handled ++ c.controls ++ located c.position [item])
    (hphase : c'.phase ≠ .requests ∧ c'.phase ≠ .playing) :
    Serves c c' (item :: done) begun where
  log := by
    rw [hlog, List.prefix_append_right_inj, located_cons _ _ done]
    exact List.prefix_append _ _
  live h := by
    rcases h with h | h
    · exact absurd h hphase.1
    · exact absurd h hphase.2
  controls h := absurd h hphase.1

section Loops

variable {env : Env} {coming : List Item} {begun : Bytes}

theorem serveRequests_clean (hbegun : Begun begun coming)
    (hcoming : ∀ item ∈ coming, item.WellFormed env.parse) :
    ∀ (done : List Item) (n : Nat) (c : Conn), c.phase = .requests → c.controls = [] →
      c.buffer = streamBytes done ++ begun → c.buffer.length ≤ n →
      (∀ item ∈ done, item.WellFormed env.parse) →
      Clean env { c with buffer := [] } done begun coming.head? →
      Serves c (serveRequests env n c) done begun := by
  intro done
  induction done with
  | nil =>
    intro n c hphase hcontrols hbuffer _ _ hclean
    have hnone : takeRtspRequestFromBuffer c.buffer = none := by
      unfold takeRtspRequestFromBuffer
      rw [hbuffer, streamBytes_nil, List.nil_append,
        drainRequest_begun (Or.inl rfl) hbegun hcoming (by rw [← hphase]; exact hclean)]
      rfl
    have hstay : serveRequests env n c = c := by
      cases n with
      | zero => rfl
      | succ n => simp only [serveRequests, hnone]
    rw [hstay]
    exact Serves.nil (by simpa using hbuffer) fun _ => hcontrols
  | cons item done ih =>
    intro n c hphase hcontrols hbuffer hlen hwf hclean
    obtain ⟨hitem, hplayed, hrest⟩ := hclean.of_requests hphase
    cases item with
    | frame channel payload => exact absurd hitem id
    | request head body =>
      obtain rfl : body = [] := hitem
      obtain ⟨hhead, -⟩ := hwf _ List.mem_cons_self
      have hsplit : c.buffer = head ++ (streamBytes done ++ begun) := by
        rw [hbuffer]
        simp [Item.bytes]
      have hpos := drainRequest_lt hhead
      rw [hsplit, List.length_append] at hlen
      rw [List.length_nil] at hpos
      obtain ⟨m, rfl⟩ : ∃ m, n = m + 1 := ⟨n - 1, by omega⟩
      obtain ⟨cut, hloop, hsame, hhandled, hctl, hreq, hplay⟩ :=
        serveRequests_one env hphase hhead hsplit m
      have hlog : cut.handled ++ cut.controls =
          c.handled ++ c.controls ++ located c.position [.request head []] := by
        rw [hhandled, hctl, hcontrols]
        simp [located]
      rw [hloop]
      cases hcut : cut.phase with
      | requests =>
        obtain ⟨hwhole, hbehind, hposition⟩ := hreq hcut
        have hclean' := hrest (by rw [← hsame, hcut]; simp)
        rw [← hwhole] at hclean'
        rw [if_pos rfl]
        refine Serves.cons hlog (by simpa [Item.bytes] using hposition) ?_
        refine ih m cut hcut (hctl.trans hcontrols) hbehind ?_
          (fun item hi => hwf item (List.mem_cons_of_mem _ hi)) hclean'
        rw [hbehind]
        omega
      | playing =>
        -- whole frames behind the request are dropped with the buffer
        obtain ⟨hempty, hposition⟩ := hplay hcut
        obtain ⟨rfl, hframes⟩ := hplayed (by rw [← hsame, hcut])
        rw [if_neg (by simp)]
        have hall : cut.handled ++ cut.controls = c.handled ++ c.controls ++
            located c.position (.request head [] :: done) := by
          rw [hlog, located_cons _ _ done, located_frames hframes, List.append_nil]
        refine ⟨?_, fun _ => ⟨hall, hempty, ?_⟩, fun h => absurd (hcut.symm.trans h) (by simp)⟩
        · exact hall ▸ List.prefix_rfl
        · rw [hposition, streamBytes_cons]
          simp [Item.bytes, Nat.add_assoc]
      | returned => exact Serves.ended hlog (by simp [hcut])
      | failed => exact Serves.ended hlog (by simp [hcut])

theorem serveControls_clean (hbegun : Begun begun coming)
    (hcoming : ∀ item ∈ coming, item.WellFormed env.parse) :
    ∀ (done : List Item) (n : Nat) (c : Conn), c.phase = .playing →
      c.buffer = streamBytes done ++ begun → c.buffer.length ≤ n →
      (∀ item ∈ done, item.WellFormed env.parse) →
      Clean env { c with buffer := [] } done begun coming.head? →
      Serves c (serveControls env n (stripAll c)) done begun := by
  intro done
  induction done with
  | nil =>
    intro n c hphase hbuffer _ _ hclean
    rw [streamBytes_nil, List.nil_append] at hbuffer
    have hnone : takeRtspRequestFromBuffer c.buffer = none := by
      unfold takeRtspRequestFromBuffer
      rw [hbuffer, drainRequest_begun (Or.inr rfl) hbegun hcoming (by rw [← hphase]; exact hclean)]
      rfl
    have hstrip : stripAll c = c :=
      stripAll_of_none (by rw [hbuffer]; exact strip_begun hbegun hcoming)
    have hstay : serveControls env n c = c := by
      cases n with
      | zero => rfl
      | succ n => simp only [serveControls, hnone]
    rw [hstrip, hstay]
    exact Serves.nil hbuffer fun h => absurd (hphase.symm.trans h) (by simp)
  | cons item done ih =>
    intro n c hphase hbuffer hlen hwf hclean
    obtain ⟨hitem, hrest⟩ := hclean.of_playing hphase
    rw [streamBytes_cons, List.append_assoc] at hbuffer
    cases item with
    | frame channel payload =>
      have hfits : payload.length < 65536 := hwf _ List.mem_cons_self
      have hstrip := stripAll_of_some (show stripInterleavedFramesPrefix c.buffer = some (streamBytes done ++ begun)
        by rw [hbuffer]; exact strip_frame hfits _)
      have hposition : c.consume (streamBytes done ++ begun) =
          { c with buffer := streamBytes done ++ begun,
                   position := c.position + (Item.frame channel payload).bytes.length } := by
        unfold Conn.consume
        rw [hbuffer, List.length_append, Nat.add_sub_cancel]
      rw [hstrip, hposition]
      have hnext : Serves
          { c with buffer := streamBytes done ++ begun,
                   position := c.position + (Item.frame channel payload).bytes.length } _
          done begun :=
        ih n _ hphase rfl ?hlen (fun item hi => hwf item (List.mem_cons_of_mem _ hi)) ?hclean
      · exact Serves.cons (by simp [located]) rfl hnext
      · rw [hbuffer, List.length_append] at hlen
        show (streamBytes done ++ begun).length ≤ n
        omega
      · have hserve : serveItem env { c with buffer := [] } (.frame channel payload) =
            { c with buffer := [],
                     position := c.position + (Item.frame channel payload).bytes.length } := by
          unfold serveItem
          simp [hphase]
        rw [hserve] at hrest
        exact hrest
    | request head body =>
      obtain rfl : body = [] := hitem
      have hitemWf := hwf _ List.mem_cons_self
      obtain ⟨hhead, -, hne, -⟩ := hitemWf
      have hsplit : c.buffer = head ++ (streamBytes done ++ begun) := by
        rw [hbuffer]
        simp [Item.bytes]
      have hpos := drainRequest_lt hhead
      rw [List.length_nil] at hpos
      have hstrip : stripAll c = c := by
        apply stripAll_of_none
        apply strip_of_head_ne
        rw [hsplit]
        cases head with
        | nil => cases hhead
        | cons b head => exact hne
      rw [hsplit, List.length_append] at hlen
      obtain ⟨m, rfl⟩ : ∃ m, n = m + 1 := ⟨n - 1, by omega⟩
      obtain ⟨cut, hloop, hnot, hhandled, hctl, hplay⟩ :=
        serveControls_one hphase (hwf _ List.mem_cons_self) hsplit m
      have hlog : cut.handled ++ cut.controls =
          c.handled ++ c.controls ++ located c.position [.request head []] := by
        rw [hhandled, hctl]
        simp [located]
      rw [hstrip, hloop]
      by_cases hcut : cut.phase = .playing
      · obtain ⟨hwhole, hbehind, hposition⟩ := hplay hcut
        rw [← hwhole] at hrest
        rw [if_pos hcut]
        refine Serves.cons hlog (by simpa [Item.bytes] using hposition) ?_
        refine ih m cut hcut hbehind ?_ (fun item hi => hwf item (List.mem_cons_of_mem _ hi)) hrest
        rw [hbehind]
        omega
      · rw [if_neg hcut]
        exact Serves.ended hlog ⟨hnot, hcut⟩

end Loops

end StreamBox.Rtsp
