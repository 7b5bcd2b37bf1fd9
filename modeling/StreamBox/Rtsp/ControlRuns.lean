import StreamBox.Lib.TSys
import StreamBox.Rtsp.Framing

/-!
# A client and its connection

Over every cut of the stream into reads, the requests the connection handles are the requests
the client sent, as long as every read is one the two loops take apart cleanly.
-/

namespace StreamBox.Rtsp

open StreamBox.RustDesk StreamBox.Lib

/-! ## The other events -/

/-- What a connection does besides reading: it may end, and takes nothing from a buffer. -/
structure Conn.Reads (c c' : Conn) : Prop where
  buffer : c'.buffer = c.buffer
  position : c'.position = c.position
  handled : c'.handled = c.handled
  controls : c'.controls = c.controls
  phase : c'.phase = .requests ∨ c'.phase = .playing → c'.phase = c.phase

namespace Conn.Reads

theorem refl (c : Conn) : c.Reads c := ⟨rfl, rfl, rfl, rfl, fun _ => rfl⟩

theorem trans {c c₁ c₂ : Conn} (h : c.Reads c₁) (h' : c₁.Reads c₂) : c.Reads c₂ where
  buffer := h'.buffer.trans h.buffer
  position := h'.position.trans h.position
  handled := h'.handled.trans h.handled
  controls := h'.controls.trans h.controls
  phase hp := by
    have hp' := h'.phase hp
    rw [hp'] at hp
    exact hp'.trans (h.phase hp)

theorem fail (c : Conn) : c.Reads c.fail where
  buffer := rfl
  position := rfl
  handled := rfl
  controls := rfl
  phase hp := by
    have := c.fail_phase_ne
    tauto

theorem write (c : Conn) (item : Sent) : c.Reads (c.write item) where
  buffer := c.write_buffer item
  position := c.write_position item
  handled := c.write_handled item
  controls := c.write_controls item
  phase hp := (Conn.write_phase hp).2

theorem sendFrame (packets : List Bytes) : ∀ c : Conn, c.Reads (sendFrame packets c) := by
  induction packets with
  | nil => exact refl
  | cons packet packets ih =>
    intro c
    refine trans ?_ (ih _)
    dsimp only
    split
    · unfold sendInterleavedRtp
      refine trans (write c (.video (interleavedHeader c.state.interleavedChannel packet))) ?_
      dsimp only
      split
      · exact write _ _
      · exact refl _
    · exact refl c

end Conn.Reads

theorem Conn.onEvent_reads (env : Env) (c : Conn) {e : Event} (he : ∀ chunk, e ≠ .read chunk) :
    c.Reads (c.onEvent env e) := by
  cases e with
  | read chunk => exact absurd rfl (he chunk)
  | readError =>
    show c.Reads (if _ then _ else _)
    split
    · exact .fail c
    · exact .refl c
  | frame packets =>
    show c.Reads (if _ then _ else _)
    split
    · exact .sendFrame packets c
    · exact .refl c
  | frameError =>
    show c.Reads (if _ then _ else _)
    split
    · exact .fail c
    · exact .refl c

/-! ## Sessions -/

structure Session where
  conn : Conn
  /-- The items sent as a whole so far. -/
  passed : List Item := []
  /-- The beginning of the next item that has been sent. -/
  begun : Bytes := []
  coming : List Item
  deriving DecidableEq

namespace Session

def onEvent (env : Env) (s : Session) (e : Event) : Option Session :=
  match e with
  | .read chunk =>
    if s.begun ++ chunk <+: streamBytes s.coming then
      let (done, begun, coming) := peel s.coming (s.begun ++ chunk)
      some
        { conn := s.conn.onEvent env e, passed := s.passed ++ done, begun := begun,
          coming := coming }
    else none
  | e => some { s with conn := s.conn.onEvent env e }

/-- A client that sends these items to a fresh connection. -/
def Initial (items : List Item) (s : Session) : Prop :=
  s.conn.Fresh ∧ s = { conn := s.conn, coming := items }

/-- The events of a connection, over every cut of the stream into reads. -/
def system (env : Env) (items : List Item) : TSys Session Event :=
  .ofFn (Initial items) (onEvent env)

def Meets (env : Env) (s : Session) (e : Event) : Prop :=
  match e with
  | .read chunk =>
    let (done, begun, coming) := peel s.coming (s.begun ++ chunk)
    Clean env { s.conn with buffer := [] } done begun coming.head?
  | _ => True

instance (env : Env) (s : Session) (e : Event) : Decidable (Meets env s e) := by
  unfold Meets
  split <;> infer_instance

/-- The texts taken as requests are the requests sent: all of them while the connection is
served, the first of them once it has ended. -/
def Framed (s : Session) : Prop :=
  s.conn.handled ++ s.conn.controls <+: located 0 s.passed ∧
    (s.conn.phase = .requests ∨ s.conn.phase = .playing →
      s.conn.handled ++ s.conn.controls = located 0 s.passed)

/-- Between two events: the requests among the items sent have been taken, and the buffer holds
what has begun of the next. -/
structure Inv (items : List Item) (s : Session) : Prop where
  items : s.passed ++ s.coming = items
  begun : Begun s.begun s.coming
  log : s.conn.handled ++ s.conn.controls <+: located 0 s.passed
  live : s.conn.phase = .requests ∨ s.conn.phase = .playing →
    s.conn.handled ++ s.conn.controls = located 0 s.passed ∧ s.conn.buffer = s.begun ∧
      s.conn.position = (streamBytes s.passed).length
  controls : s.conn.phase = .requests → s.conn.controls = []

theorem Inv.framed {items : List Item} {s : Session} (h : Inv items s) : s.Framed :=
  ⟨h.log, fun hlive => (h.live hlive).1⟩

theorem Inv.initial {items : List Item} (hwf : ∀ item ∈ items, item.bytes ≠ []) {s : Session}
    (h : Initial items s) : Inv items s := by
  obtain ⟨⟨sessionId, writesLeft, hconn⟩, hs⟩ := h
  rw [hs, hconn]
  refine ⟨rfl, ?_, by simp, fun _ => ⟨rfl, rfl, rfl⟩, fun _ => rfl⟩
  cases items with
  | nil => rfl
  | cons item items => exact ⟨item.bytes, hwf item List.mem_cons_self, rfl⟩

/-- A loop over a clean read keeps the agreement. -/
theorem Inv.served {items done coming : List Item} {begun : Bytes} {s : Session} {c c' : Conn}
    (h : Inv items s) (hlive : s.conn.phase = .requests ∨ s.conn.phase = .playing)
    (hsplit : s.coming = done ++ coming) (hbegun : Begun begun coming)
    (hc : c.handled = s.conn.handled ∧ c.controls = s.conn.controls ∧
      c.position = s.conn.position)
    (hserves : Serves c c' done begun) :
    Inv items { conn := c', passed := s.passed ++ done, begun := begun, coming := coming } := by
  obtain ⟨hlog, -, hposition⟩ := h.live hlive
  obtain ⟨hhandled, hcontrols, hpos⟩ := hc
  have hall : c.handled ++ c.controls ++ located c.position done =
      located 0 (s.passed ++ done) := by
    rw [hhandled, hcontrols, hpos, hlog, hposition, located_append, Nat.zero_add]
  refine ⟨?_, hbegun, hall ▸ hserves.log, ?_, hserves.controls⟩
  · rw [← h.items, hsplit]
    simp
  · intro hlive'
    obtain ⟨hsame, hbuffer, hposition'⟩ := hserves.live hlive'
    refine ⟨hsame.trans hall, hbuffer, ?_⟩
    rw [hposition', hpos, hposition]
    simp

/-- An event after the connection has ended, or that ends it. -/
theorem Inv.ended {items done coming : List Item} {begun : Bytes} {s : Session} {c' : Conn}
    (h : Inv items s) (hsplit : s.coming = done ++ coming) (hbegun : Begun begun coming)
    (hc : c'.handled = s.conn.handled ∧ c'.controls = s.conn.controls)
    (hphase : c'.phase ≠ .requests ∧ c'.phase ≠ .playing) :
    Inv items { conn := c', passed := s.passed ++ done, begun := begun, coming := coming } where
  items := by
    rw [← h.items, hsplit]
    simp
  begun := hbegun
  log := by
    show c'.handled ++ c'.controls <+: _
    rw [hc.1, hc.2, located_append]
    exact List.IsPrefix.trans h.log (List.prefix_append _ _)
  live hlive := by
    rcases hlive with hlive | hlive
    · exact absurd hlive hphase.1
    · exact absurd hlive hphase.2
  controls hlive := absurd hlive hphase.1

theorem Inv.read {env : Env} {items : List Item}
    (hwf : ∀ item ∈ items, item.WellFormed env.parse) {s t : Session} {chunk : Bytes}
    (h : Inv items s) (hstep : onEvent env s (.read chunk) = some t)
    (hmeets : Meets env s (.read chunk)) : Inv items t := by
  cases hpeel : peel s.coming (s.begun ++ chunk) with
  | mk done tail =>
    obtain ⟨begun, coming⟩ := tail
    simp only [onEvent, hpeel] at hstep
    split at hstep
    · rename_i hpre
      cases hstep
      obtain ⟨hsplit, hbytes, hbegun⟩ := peel_spec hpre hpeel
      simp only [Meets, hpeel] at hmeets
      have hitems := h.items
      have hdone : ∀ item ∈ done, item.WellFormed env.parse := by
        intro item hi
        apply hwf
        rw [← hitems, hsplit]
        simp [hi]
      have hcoming : ∀ item ∈ coming, item.WellFormed env.parse := by
        intro item hi
        apply hwf
        rw [← hitems, hsplit]
        simp [hi]
      cases hphase : s.conn.phase with
      | requests =>
        have hbuffer : s.conn.buffer ++ chunk = streamBytes done ++ begun := by
          rw [(h.live (Or.inl hphase)).2.1, hbytes]
        rw [show s.conn.onEvent env (.read chunk) = onRead env chunk s.conn from rfl,
          onRead_requests env hphase]
        split
        · exact h.ended hsplit hbegun ⟨rfl, rfl⟩ (by simp)
        · exact h.served (c := { s.conn with buffer := s.conn.buffer ++ chunk }) (Or.inl hphase) hsplit
            hbegun ⟨rfl, rfl, rfl⟩
            (serveRequests_clean hbegun hcoming done _
              { s.conn with buffer := s.conn.buffer ++ chunk } hphase (h.controls hphase) hbuffer
              le_rfl hdone hmeets)
      | playing =>
        have hbuffer : s.conn.buffer ++ chunk = streamBytes done ++ begun := by
          rw [(h.live (Or.inr hphase)).2.1, hbytes]
        rw [show s.conn.onEvent env (.read chunk) = onRead env chunk s.conn from rfl,
          onRead_playing env hphase]
        split
        · exact h.ended hsplit hbegun ⟨rfl, rfl⟩ (by simp)
        · exact h.served (c := { s.conn with buffer := s.conn.buffer ++ chunk }) (Or.inr hphase) hsplit
            hbegun ⟨rfl, rfl, rfl⟩
            (serveControls_clean hbegun hcoming done _
              { s.conn with buffer := s.conn.buffer ++ chunk } hphase hbuffer le_rfl hdone hmeets)
      | returned | failed =>
        have hended : s.conn.phase ≠ .requests ∧ s.conn.phase ≠ .playing := by simp [hphase]
        rw [show s.conn.onEvent env (.read chunk) = onRead env chunk s.conn from rfl,
          onRead_ended env hended]
        exact h.ended hsplit hbegun ⟨rfl, rfl⟩ hended
    · cases hstep

theorem Inv.other {env : Env} {items : List Item} {s : Session} {e : Event} (h : Inv items s)
    (he : ∀ chunk, e ≠ .read chunk) : Inv items { s with conn := s.conn.onEvent env e } := by
  have hreads := s.conn.onEvent_reads env he
  refine ⟨h.items, h.begun, ?_, ?_, ?_⟩
  · show (s.conn.onEvent env e).handled ++ (s.conn.onEvent env e).controls <+: _
    rw [hreads.handled, hreads.controls]
    exact h.log
  · intro hlive
    have hsame := hreads.phase hlive
    rw [show ({ s with conn := s.conn.onEvent env e } : Session).conn = s.conn.onEvent env e
      from rfl, hreads.handled, hreads.controls, hreads.buffer, hreads.position]
    exact h.live (hsame ▸ hlive)
  · intro hlive
    have hsame := hreads.phase (Or.inl hlive)
    show (s.conn.onEvent env e).controls = []
    rw [hreads.controls]
    exact h.controls (hsame ▸ hlive)

theorem Inv.step {env : Env} {items : List Item}
    (hwf : ∀ item ∈ items, item.WellFormed env.parse) {s t : Session} {e : Event}
    (h : Inv items s) (hstep : onEvent env s e = some t) (hmeets : Meets env s e) :
    Inv items t := by
  cases e with
  | read chunk => exact h.read hwf hstep hmeets
  | _ =>
    cases hstep
    exact h.other (fun chunk hc => by cases hc)

/-- Requests without bodies, whole frames behind the `PLAY` of a read, no read that stops in a
frame after an empty line: then the requests handled are the requests sent. -/
theorem handled_as_sent {env : Env} {items : List Item}
    (hwf : ∀ item ∈ items, item.WellFormed env.parse) {s : Session}
    (h : ((system env items).restrict (Meets env)).Reachable s) : s.Framed := by
  have hne : ∀ item ∈ items, item.bytes ≠ [] := by
    intro item hi hnil
    cases item with
    | request head body =>
      obtain ⟨hhead, -⟩ := hwf _ hi
      have := drainRequest_lt hhead
      have hlen := congrArg List.length hnil
      simp only [Item.bytes, List.length_append, List.length_nil] at hlen this
      omega
    | frame channel payload => simp [Item.bytes, interleavedHeader] at hnil
  refine Inv.framed (TSys.invariant (I := Inv items) ?_ ?_ h)
  · intro s h0
    exact Inv.initial hne h0
  · intro s e t hs hstep
    exact hs.step hwf hstep.1 hstep.2

/-! ## Samples -/

/-- The connection of a client that is about to send these items. -/
def start (items : List Item) : Session where
  conn := { state := { sessionId := "0123456789abcdef" } }
  coming := items

theorem start_initial (items : List Item) : Initial items (start items) :=
  ⟨⟨_, none, rfl⟩, rfl⟩

instance (s : Session) : Decidable s.Framed := inferInstanceAs (Decidable (_ ∧ (_ → _)))

theorem reachable_misframed {env : Env} {items : List Item} (reads : List Bytes)
    (h : (((reads.map Event.read).foldlM (onEvent env) (start items)).any
      fun s => ! decide s.Framed) = true) :
    ∃ s, (system env items).Reachable s ∧ ¬ s.Framed := by
  cases hrun : (reads.map Event.read).foldlM (onEvent env) (start items) with
  | none =>
    rw [hrun] at h
    cases h
  | some s =>
    rw [hrun] at h
    exact ⟨s, TSys.ofFn_reachable (.init (start_initial items)) hrun, by simpa using h⟩

def setupHead : Bytes :=
  textBytes "SETUP rtsp://kvm/live RTSP/1.0\r\nCSeq: 1\r\nTransport: RTP/AVP/TCP\r\n\r\n"

def playHead : Bytes := textBytes "PLAY rtsp://kvm/live RTSP/1.0\r\nCSeq: 2\r\n\r\n"

def optionsHead : Bytes := textBytes "OPTIONS * RTSP/1.0\r\nCSeq: 3\r\n\r\n"

def pingHead : Bytes :=
  textBytes "SET_PARAMETER * RTSP/1.0\r\nCSeq: 4\r\nContent-Length: 6\r\n\r\n"

def pingBody : Bytes := textBytes "ping\r\n"

def sampleRequest (method : Method) (headers : List (String × String)) : RawRequest where
  method := method
  requestUri := if method = .setup ∨ method = .play then some "rtsp://kvm/live" else none
  version := .v1_0
  headers := headers

/-- These messages as the parser reads them. -/
def sampleMessages : List (Bytes × RawRequest) :=
  [(setupHead, sampleRequest .setup [("CSeq", "1"), ("Transport", "RTP/AVP/TCP")]),
    (playHead, sampleRequest .play [("CSeq", "2")]),
    (optionsHead, sampleRequest .options [("CSeq", "3")]),
    (pingHead ++ pingBody, sampleRequest .setParameter [("CSeq", "4"), ("Content-Length", "6")])]

def sampleEnv : Env where
  parse bytes := (sampleMessages.lookup bytes).map fun req => (.request req, bytes.length)
  decode _ := none
  config := {}
  sdp _ := ""
  subscribes := true

def setup : Item := .request setupHead []

def play : Item := .request playHead []

def options : Item := .request optionsHead []

def setParameter : Item := .request pingHead pingBody

/-- A frame that looks like a request from its sixth byte on. -/
def nested : Item := .frame 0 (textBytes "$\r\n\r\nOPTIONS * RTSP/1.0\r\n\r\n")

def sampleItems : List Item := [setup, play, options, setParameter, nested]

theorem sample_wellFormed : ∀ item ∈ sampleItems, item.WellFormed sampleEnv.parse := by
  have hheads : ∀ head ∈ [setupHead, playHead, optionsHead, pingHead],
      drainRequest head = some (head, []) ∧ head.head? ≠ some dollar := by decide +kernel
  have hparse : ∀ bytes ∈ [setupHead, playHead, optionsHead, pingHead ++ pingBody],
      ∃ req, sampleEnv.parse bytes = some (.request req, bytes.length) := by
    intro bytes hbytes
    have hsome : ∀ bytes ∈ [setupHead, playHead, optionsHead, pingHead ++ pingBody],
        (sampleMessages.lookup bytes).isSome = true := by decide +kernel
    obtain ⟨req, hreq⟩ := Option.isSome_iff_exists.mp (hsome bytes hbytes)
    refine ⟨req, ?_⟩
    show (sampleMessages.lookup bytes).map _ = _
    rw [hreq]
    rfl
  have hrequest : ∀ {head body : Bytes}, head ∈ [setupHead, playHead, optionsHead, pingHead] →
      (∃ chars, head = encodeUtf8 chars) →
      head ++ body ∈ [setupHead, playHead, optionsHead, pingHead ++ pingBody] →
      (Item.request head body).WellFormed sampleEnv.parse :=
    fun hhead htext hall => ⟨(hheads _ hhead).1, htext, (hheads _ hhead).2, hparse _ hall⟩
  intro item hi
  simp only [sampleItems, List.mem_cons, List.not_mem_nil, or_false] at hi
  rcases hi with rfl | rfl | rfl | rfl | rfl
  · exact hrequest (by simp) ⟨_, rfl⟩ (by simp)
  · exact hrequest (by simp) ⟨_, rfl⟩ (by simp)
  · exact hrequest (by simp) ⟨_, rfl⟩ (by simp)
  · exact hrequest (by simp) ⟨_, rfl⟩ (by simp)
  · show (textBytes _).length < 65536
    decide +kernel

/-- A clean run: a request in two reads, a whole frame behind the `PLAY`, a read that stops in a
frame. -/
theorem handled_as_sent_sample :
    ∃ s, ((system sampleEnv [setup, play, nested, nested, options]).restrict
        (Meets sampleEnv)).Reachable s ∧ s.Framed ∧
      s.conn.handled.length = 2 ∧ s.conn.controls.length = 1 := by
  have hitems : ∀ item ∈ [setup, play, nested, nested, options], item ∈ sampleItems := by
    decide +kernel
  obtain ⟨s, hrun, hcounts⟩ : ∃ s,
      ([setupHead.take 10, setupHead.drop 10, playHead ++ nested.bytes, nested.bytes.take 7,
          nested.bytes.drop 7 ++ optionsHead].map Event.read).foldlM
        (fun s e => if Meets sampleEnv s e then onEvent sampleEnv s e else none)
        (start [setup, play, nested, nested, options]) = some s ∧
      s.conn.handled.length = 2 ∧ s.conn.controls.length = 1 := by decide +kernel
  have hreach := TSys.ofFn_restrict_reachable
    (TSys.Reachable.init (T := (system sampleEnv _).restrict (Meets sampleEnv))
      (start_initial [setup, play, nested, nested, options])) hrun
  exact ⟨s, hreach, handled_as_sent (fun item hi => sample_wellFormed item (hitems item hi)) hreach,
    hcounts⟩

/-- A client may send these well-formed items, and what is handled is not its requests. -/
def Misframed (items : List Item) : Prop :=
  (∀ item ∈ items, item.WellFormed sampleEnv.parse) ∧
    ∃ s, (system sampleEnv items).Reachable s ∧ ¬ s.Framed

/-- The requests of a client are not all that is handled, nor always handled: a request behind
the `PLAY` of a read is lost, a body is taken for the beginning of a request, and so is a frame
of which an empty line has been read. -/
theorem misframed :
    Misframed [setup, play, options] ∧ Misframed [setParameter] ∧
      Misframed [setup, play, nested] := by
  have hsample : ∀ items : List Item, (∀ item ∈ items, item ∈ sampleItems) →
      ∀ item ∈ items, item.WellFormed sampleEnv.parse :=
    fun items hall item hi => sample_wellFormed item (hall item hi)
  refine ⟨⟨hsample _ (by decide +kernel), ?_⟩, ⟨hsample _ (by decide +kernel), ?_⟩,
    hsample _ (by decide +kernel), ?_⟩
  · apply reachable_misframed [setupHead, playHead ++ optionsHead]
    decide +kernel
  · apply reachable_misframed [pingHead ++ pingBody]
    decide +kernel
  · apply reachable_misframed [setupHead, playHead, nested.bytes.take 12]
    decide +kernel

end Session

end StreamBox.Rtsp
