import Mathlib.Data.List.Chain
import Mathlib.Data.List.Nodup
import StreamBox.Lib.TSys
import StreamBox.Video.SharedVideoPipeline

/-!
# The encode loop and its subscribers

One pipeline with any number of subscribers: the loop encodes a frame, reads its
subscribers and sends the frame to each of them in turn, waiting for room in their
channels of four. The encoder returns any list of packets, an encoder that fails none.

* **Every packet, in order** — `exact_iff`: the subscribers get the packets of the encoder
  in a run just when no call of the encoder returns two.
* **Isolation** — `not_blocked_on_idle`: the loop never waits for a subscriber that has
  received nothing as long as none of them has four frames when a broadcast starts;
  `blocked_stays`: once it does, it waits until that subscriber moves.
* **Failures** — `second_packet_lost`, `blocked_on_waiting_session`.
-/

namespace StreamBox.Video

open StreamBox.Lib

/-- The bytes and the key flag of a packet, which a frame takes over. -/
def Packet.content (p : Packet) : List UInt8 × Bool :=
  (p.data, p.key == 1)

def EncodedVideoFrame.content (f : EncodedVideoFrame) : List UInt8 × Bool :=
  (f.data, f.isKeyframe)

namespace EncodeLoop

/-- A subscriber, for one a session that drains its channel once it is connected. -/
structure Subscriber where
  connected : Bool := false
  channel : List EncodedVideoFrame := []
  received : List EncodedVideoFrame := []
  /-- Its receiver is gone. -/
  closed : Bool := false
  /-- The place of the first packet whose frame it is to get. -/
  since : Nat
  deriving DecidableEq, Repr

structure State where
  pipeline : SharedVideoPipeline
  /-- Every subscriber there ever was, and the places of those in the pipeline's list. -/
  subscribers : List Subscriber := []
  registered : List Nat := []
  /-- The frame of `broadcast_encoded` and the subscribers it has yet to be sent to. -/
  sending : Option (EncodedVideoFrame × List Nat) := none
  /-- What the encoder has returned. -/
  returned : List Packet := []
  deriving DecidableEq, Repr

inductive Event
  -- the subscribers
  | subscribe
  | connect (i : Nat)
  | receive (i : Nat)
  | leave (i : Nat)
  | requestKeyframe
  | stop
  -- the encode loop
  | encode (ptsMs : Int64) (returned : List Packet)
  | broadcast
  | send
  | finish
  deriving DecidableEq, Repr

namespace State

def isOpen (s : State) (i : Nat) : Bool :=
  s.subscribers[i]?.any fun sub => !sub.closed

/-- `subscriber_count` -/
def subscriberCount (s : State) : Nat :=
  (s.registered.filter s.isOpen).length

def update (s : State) (i : Nat) (f : Subscriber → Subscriber) : State :=
  { s with subscribers := s.subscribers.modify i f }

/-- A new channel; a frame not yet broadcast will be sent there. -/
def subscribe (s : State) : State :=
  { s with
    subscribers := s.subscribers ++
      [{ since := s.pipeline.encoded.elim s.returned.length (·.packet) }]
    registered := s.registered ++ [s.subscribers.length] }

/-- A call of the encoder. -/
def encode (s : State) (ptsMs : Int64) (returned : List Packet) : State :=
  { s with
    pipeline := s.pipeline.encodeNext 0 ptsMs returned
    returned := s.returned ++ returned }

/-- The next `send` of `broadcast_encoded`: into the channel when it has room, not at
all when it is closed. -/
def sendNext (s : State) (frame : EncodedVideoFrame) (i : Nat) (rest : List Nat) :
    Option State :=
  s.subscribers[i]?.bind fun sub =>
    if sub.closed then some { s with sending := some (frame, rest) }
    else if sub.channel.length < 4 then
      some { s.update i ({ · with channel := sub.channel ++ [frame] }) with
        sending := some (frame, rest) }
    else none

end State

def step (s : State) : Event → Option State
  | .subscribe => some s.subscribe
  | .connect i => some (s.update i ({ · with connected := true }))
  | .receive i =>
    s.subscribers[i]?.bind fun sub =>
      match sub.channel with
      | [] => none
      | frame :: rest =>
        if sub.connected ∧ sub.closed = false then
          some (s.update i ({ · with channel := rest, received := sub.received ++ [frame] }))
        else none
  | .leave i => some (s.update i ({ · with closed := true, channel := [] }))
  | .requestKeyframe => some { s with pipeline := s.pipeline.requestKeyframe }
  | .stop => some { s with pipeline := s.pipeline.stop }
  | .encode ptsMs returned =>
    if s.pipeline.running ∧ s.pipeline.encoded = none ∧ s.sending = none ∧
        s.subscriberCount ≠ 0 then
      some (s.encode ptsMs returned)
    else none
  | .broadcast =>
    s.pipeline.encoded.map fun frame =>
      { s with
        pipeline := { s.pipeline with encoded := none }
        sending := if s.registered = [] then none else some (frame, s.registered) }
  | .send =>
    match s.sending with
    | some (frame, i :: rest) => s.sendNext frame i rest
    | _ => none
  | .finish =>
    match s.sending with
    | some (_, []) =>
      some { s with sending := none, registered := s.registered.filter s.isOpen }
    | _ => none

def system (codec : VideoCodecType) : TSys State Event :=
  .ofFn (· = { pipeline := { codec } }) step

/-! ## What a subscriber gets -/

/-- The frames on their way to subscriber `i`. -/
def State.underway (s : State) (i : Nat) : List EncodedVideoFrame :=
  (match s.sending with
    | some (frame, rest) => if i ∈ rest then [frame] else []
    | none => []) ++
  if i ∈ s.registered then s.pipeline.encoded.toList else []

/-- What subscriber `i` gets: what it has, what its channel holds, what is on its way. -/
def State.got (s : State) (i : Nat) (sub : Subscriber) : List EncodedVideoFrame :=
  sub.received ++ sub.channel ++ s.underway i

/-- Subscriber `i` gets the packets returned since it is there, each once and in order,
under numbers that follow one another. -/
structure Exact (s : State) (i : Nat) (sub : Subscriber) : Prop where
  packets : (s.got i sub).map (·.content) = (s.returned.drop sub.since).map (·.content)
  numbers : (s.got i sub).IsChain fun f g => g.sequence = f.sequence + 1

/-- Every subscriber that is still there gets exactly its packets. -/
def AllExact (s : State) : Prop :=
  ∀ i sub, s.subscribers[i]? = some sub → sub.closed = false → Exact s i sub

/-! ## The shape of the lists -/

structure Shape (s : State) : Prop where
  registered : s.registered.Nodup
  inside : ∀ i ∈ s.registered, i < s.subscribers.length
  rest : ∀ frame rest, s.sending = some (frame, rest) →
    rest.Nodup ∧ ∀ i ∈ rest, i < s.subscribers.length
  alone : s.sending ≠ none → s.pipeline.encoded = none
  registers : ∀ i sub, s.subscribers[i]? = some sub → sub.closed = false → i ∈ s.registered

@[simp] theorem update_get (s : State) (i j : Nat) (f : Subscriber → Subscriber) :
    (s.update i f).subscribers[j]? =
      if i = j then s.subscribers[j]?.map f else s.subscribers[j]? := by
  simp only [State.update, List.getElem?_modify]
  split <;> simp

theorem shape_update {s : State} (h : Shape s) (i : Nat) {f : Subscriber → Subscriber}
    (hf : ∀ sub, (f sub).closed = false → sub.closed = false) : Shape (s.update i f) := by
  have hlen : (s.update i f).subscribers.length = s.subscribers.length :=
    List.length_modify _ _ _
  refine ⟨h.registered, ?_, ?_, h.alone, ?_⟩
  · rw [hlen]
    exact h.inside
  · rw [hlen]
    exact h.rest
  · intro j sub hsub hopen
    rw [update_get] at hsub
    split at hsub
    · obtain ⟨old, hold, rfl⟩ := Option.map_eq_some_iff.mp hsub
      exact h.registers j old hold (hf old hopen)
    · exact h.registers j sub hsub hopen

theorem shape_subscribe {s : State} (h : Shape s) : Shape s.subscribe := by
  have hlen : s.subscribe.subscribers.length = s.subscribers.length + 1 := List.length_append
  refine ⟨?_, ?_, ?_, h.alone, ?_⟩
  · refine List.nodup_append.mpr ⟨h.registered, List.nodup_singleton _, ?_⟩
    intro i hi j hj
    rw [List.mem_singleton.mp hj]
    exact Nat.ne_of_lt (h.inside i hi)
  · intro i hi
    rw [hlen]
    rcases List.mem_append.mp hi with hi | hi
    · exact Nat.lt_succ_of_lt (h.inside i hi)
    · rw [List.mem_singleton.mp hi]
      exact Nat.lt_succ_self _
  · intro frame rest hsending
    obtain ⟨hnodup, hinside⟩ := h.rest frame rest hsending
    rw [hlen]
    exact ⟨hnodup, fun i hi => Nat.lt_succ_of_lt (hinside i hi)⟩
  · intro i sub hsub hopen
    rcases Nat.lt_or_ge i s.subscribers.length with hlt | hge
    · simp only [State.subscribe] at hsub
      rw [List.getElem?_append_left hlt] at hsub
      exact List.mem_append_left _ (h.registers i sub hsub hopen)
    · have hlt := (List.getElem?_eq_some_iff.mp hsub).1
      obtain rfl : i = s.subscribers.length := by omega
      exact List.mem_append_right _ (List.mem_singleton.mpr rfl)

theorem shape_send {s s' : State} {frame : EncodedVideoFrame} {i : Nat} {rest : List Nat}
    (h : Shape s) (hsending : s.sending = some (frame, i :: rest))
    (hsend : s.sendNext frame i rest = some s') : Shape s' := by
  obtain ⟨hnodup, hinside⟩ := h.rest frame (i :: rest) hsending
  have hrest : rest.Nodup := (List.nodup_cons.mp hnodup).2
  have hrest' : ∀ j ∈ rest, j < s.subscribers.length :=
    fun j hj => hinside j (List.mem_cons_of_mem i hj)
  have halone : s.pipeline.encoded = none := h.alone (by simp [hsending])
  obtain ⟨sub, hsub, hsend⟩ := Option.bind_eq_some_iff.mp hsend
  split at hsend
  · cases hsend
    refine ⟨h.registered, h.inside, ?_, fun _ => halone, h.registers⟩
    rintro _ _ ⟨⟩
    exact ⟨hrest, hrest'⟩
  · split at hsend <;> cases hsend
    have hshape := shape_update h i (f := ({ · with channel := sub.channel ++ [frame] }))
      fun _ hopen => hopen
    refine ⟨hshape.registered, hshape.inside, ?_, fun _ => halone, hshape.registers⟩
    rintro _ _ ⟨⟩
    refine ⟨hrest, ?_⟩
    simp only [State.update, List.length_modify]
    exact hrest'

theorem shape_step {s s' : State} {e : Event} (h : Shape s) (hstep : step s e = some s') :
    Shape s' := by
  cases e with
  | subscribe =>
    cases hstep
    exact shape_subscribe h
  | connect i =>
    cases hstep
    exact shape_update h i fun _ hopen => hopen
  | receive i =>
    obtain ⟨sub, -, hstep⟩ := Option.bind_eq_some_iff.mp hstep
    split at hstep
    · cases hstep
    · split at hstep <;> cases hstep
      exact shape_update h i fun _ hopen => hopen
  | leave i =>
    cases hstep
    exact shape_update h i fun _ hopen => nomatch hopen
  | requestKeyframe | stop =>
    cases hstep
    exact ⟨h.registered, h.inside, h.rest, h.alone, h.registers⟩
  | encode ptsMs returned =>
    simp only [step] at hstep
    split at hstep <;> cases hstep
    rename_i hidle
    refine ⟨h.registered, h.inside, h.rest, ?_, h.registers⟩
    intro hsending
    exact absurd hidle.2.2.1 hsending
  | broadcast =>
    obtain ⟨frame, hencoded, rfl⟩ := Option.map_eq_some_iff.mp hstep
    refine ⟨h.registered, h.inside, ?_, fun _ => rfl, h.registers⟩
    intro _ rest hsending
    simp only at hsending
    split at hsending <;> cases hsending
    exact ⟨h.registered, h.inside⟩
  | send =>
    simp only [step] at hstep
    split at hstep
    · rename_i frame i rest hsending
      exact shape_send h hsending hstep
    · cases hstep
  | finish =>
    simp only [step] at hstep
    split at hstep <;> cases hstep
    rename_i frame hsending
    refine ⟨h.registered.filter _, ?_, ?_, ?_, ?_⟩
    · exact fun i hi => h.inside i (List.mem_filter.mp hi).1
    · rintro _ _ ⟨⟩
    · intro hnone
      exact absurd rfl hnone
    · intro i sub hsub hopen
      refine List.mem_filter.mpr ⟨h.registers i sub hsub hopen, ?_⟩
      simp only [State.isOpen]
      rw [show s.subscribers[i]? = some sub from hsub]
      simp [hopen]

theorem shape_init (codec : VideoCodecType) : Shape { pipeline := { codec } } := by
  refine ⟨List.nodup_nil, ?_, ?_, ?_, ?_⟩
  · intro i hi
    cases hi
  · intro frame rest hsending
    cases hsending
  · intro hnone
    exact absurd rfl hnone
  · intro i sub hsub
    simp at hsub

/-! ## Steps that move frames -/

/-- Frames move on, and no one that is there gets more or less. -/
structure Moves (s s' : State) : Prop where
  sequence : s'.pipeline.sequence = s.pipeline.sequence
  returned : s'.returned = s.returned
  /-- A frame not yet broadcast was so before. -/
  encoded : ∀ f ∈ s'.pipeline.encoded, f ∈ s.pipeline.encoded
  gets : ∀ i sub', s'.subscribers[i]? = some sub' → sub'.closed = false →
    ∃ sub, s.subscribers[i]? = some sub ∧ sub.closed = false ∧ sub'.since = sub.since ∧
      s'.got i sub' = s.got i sub

theorem moves_of_same {s s' : State} (hsubscribers : s'.subscribers = s.subscribers)
    (hregistered : s'.registered = s.registered) (hsending : s'.sending = s.sending)
    (hreturned : s'.returned = s.returned)
    (hsequence : s'.pipeline.sequence = s.pipeline.sequence)
    (hencoded : s'.pipeline.encoded = s.pipeline.encoded) : Moves s s' := by
  refine ⟨hsequence, hreturned, by simp [hencoded], ?_⟩
  intro i sub hsub hopen
  refine ⟨sub, hsubscribers ▸ hsub, hopen, rfl, ?_⟩
  simp only [State.got, State.underway, hsending, hregistered, hencoded]

theorem moves_update (s : State) (i : Nat) {f : Subscriber → Subscriber}
    (hf : ∀ sub, s.subscribers[i]? = some sub → (f sub).closed = false →
      sub.closed = false ∧ (f sub).since = sub.since ∧
        (f sub).received ++ (f sub).channel = sub.received ++ sub.channel) :
    Moves s (s.update i f) := by
  refine ⟨rfl, rfl, fun _ h => h, ?_⟩
  intro j sub' hsub' hopen
  rw [update_get] at hsub'
  split at hsub'
  · rename_i hij
    subst hij
    obtain ⟨sub, hsub, rfl⟩ := Option.map_eq_some_iff.mp hsub'
    obtain ⟨hopen', hsince, hframes⟩ := hf sub hsub hopen
    refine ⟨sub, hsub, hopen', hsince, ?_⟩
    show (f sub).received ++ (f sub).channel ++ s.underway i = _
    rw [hframes]
    rfl
  · exact ⟨sub', hsub', hopen, rfl, rfl⟩

/-- The frame is on its way to the subscribers that the loop has just read. -/
theorem moves_broadcast {s s' : State} (h : Shape s) (hstep : step s .broadcast = some s') :
    Moves s s' := by
  obtain ⟨frame, hencoded, rfl⟩ := Option.map_eq_some_iff.mp hstep
  have hsending : s.sending = none := by
    by_contra hne
    rw [h.alone hne] at hencoded
    cases hencoded
  refine ⟨rfl, rfl, by simp, ?_⟩
  intro i sub hsub hopen
  refine ⟨sub, hsub, hopen, rfl, ?_⟩
  have hregistered := h.registers i sub hsub hopen
  have hne : s.registered ≠ [] := List.ne_nil_of_mem hregistered
  simp [State.got, State.underway, hsending, hencoded, hne, hregistered]

/-- The frame goes into the channel of the next subscriber, and no longer waits for it. -/
theorem moves_send {s s' : State} {frame : EncodedVideoFrame} {i : Nat} {rest : List Nat}
    (h : Shape s) (hsending : s.sending = some (frame, i :: rest))
    (hsend : s.sendNext frame i rest = some s') : Moves s s' := by
  have hnodup := List.nodup_cons.mp (h.rest frame (i :: rest) hsending).1
  have halone : s.pipeline.encoded = none := h.alone (by simp [hsending])
  obtain ⟨sub, hsub, hsend⟩ := Option.bind_eq_some_iff.mp hsend
  split at hsend
  · rename_i hclosed
    cases hsend
    refine ⟨rfl, rfl, fun _ h => h, ?_⟩
    intro j sub' hsub' hopen
    refine ⟨sub', hsub', hopen, rfl, ?_⟩
    have hne : j ≠ i := by
      rintro rfl
      rw [show s.subscribers[j]? = some sub' from hsub'] at hsub
      cases hsub
      simp [hclosed] at hopen
    simp [State.got, State.underway, hsending, halone, hne]
  · split at hsend <;> cases hsend
    refine ⟨rfl, rfl, fun _ h => h, ?_⟩
    intro j sub' hsub' hopen
    have hget : (s.update i ({ · with channel := sub.channel ++ [frame] })).subscribers[j]? =
        some sub' := hsub'
    rw [update_get] at hget
    split at hget
    · rename_i hij
      subst hij
      rw [hsub] at hget
      cases hget
      refine ⟨sub, hsub, hopen, rfl, ?_⟩
      simp [State.got, State.underway, hsending, hnodup.1, State.update, halone]
    · rename_i hij
      refine ⟨sub', hget, hopen, rfl, ?_⟩
      simp [State.got, State.underway, hsending, State.update, halone, Ne.symm hij]

theorem moves_finish {s s' : State} (h : Shape s) (hstep : step s .finish = some s') :
    Moves s s' := by
  simp only [step] at hstep
  split at hstep <;> cases hstep
  rename_i frame hsending
  have halone : s.pipeline.encoded = none := h.alone (by simp [hsending])
  refine ⟨rfl, rfl, fun _ h => h, ?_⟩
  intro i sub hsub hopen
  refine ⟨sub, hsub, hopen, rfl, ?_⟩
  simp [State.got, State.underway, hsending, halone]

/-! ## Every packet, in order -/

/-- The encoder returns at most one packet for a call. -/
def AtMostOne : Event → Prop
  | .encode _ returned => returned.length ≤ 1
  | _ => True

/-- Subscriber `i` has its packets up to the last one, which has the last number. -/
structure UpToDate (s : State) (i : Nat) (sub : Subscriber) : Prop where
  exact : Exact s i sub
  since : sub.since ≤ s.returned.length
  last : ∀ f ∈ (s.got i sub).getLast?, f.sequence = s.pipeline.sequence

structure Inv (s : State) : Prop where
  packets : s.pipeline.packets = s.returned.length
  /-- A frame not yet broadcast is the one of the last packet. -/
  encoded : ∀ f ∈ s.pipeline.encoded, f.sequence = s.pipeline.sequence ∧
    (s.returned.drop f.packet).map (·.content) = [f.content] ∧ f.packet ≤ s.returned.length
  subscribers : ∀ i sub, s.subscribers[i]? = some sub → sub.closed = false → UpToDate s i sub

theorem inv_moves {s s' : State} (h : Inv s) (hmoves : Moves s s')
    (hpackets : s'.pipeline.packets = s.pipeline.packets) : Inv s' := by
  obtain ⟨hsequence, hreturned, hencoded, hgets⟩ := hmoves
  refine ⟨by rw [hpackets, hreturned, h.packets], ?_, ?_⟩
  · intro f hf
    rw [hsequence, hreturned]
    exact h.encoded f (hencoded f hf)
  · intro i sub' hsub' hopen
    obtain ⟨sub, hsub, hopen', hsince, hgot⟩ := hgets i sub' hsub' hopen
    obtain ⟨⟨hexact, hnumbers⟩, hle, hlast⟩ := h.subscribers i sub hsub hopen'
    refine ⟨⟨?_, ?_⟩, ?_, ?_⟩
    · rw [hgot, hreturned, hsince]
      exact hexact
    · rw [hgot]
      exact hnumbers
    · rw [hreturned, hsince]
      exact hle
    · rw [hgot, hsequence]
      exact hlast

theorem got_subscribe {s : State} {i : Nat} {sub : Subscriber}
    (hi : i < s.subscribers.length) : s.subscribe.got i sub = s.got i sub := by
  simp [State.got, State.underway, State.subscribe, Nat.ne_of_lt hi]

theorem inv_subscribe {s : State} (h : Inv s) (hshape : Shape s) : Inv s.subscribe := by
  refine ⟨h.packets, h.encoded, ?_⟩
  intro i sub hsub hopen
  rcases Nat.lt_or_ge i s.subscribers.length with hlt | hge
  · simp only [State.subscribe] at hsub
    rw [List.getElem?_append_left hlt] at hsub
    obtain ⟨⟨hexact, hnumbers⟩, hle, hlast⟩ := h.subscribers i sub hsub hopen
    rw [← got_subscribe hlt] at hexact hnumbers hlast
    exact ⟨⟨hexact, hnumbers⟩, hle, hlast⟩
  · have hlen := (List.getElem?_eq_some_iff.mp hsub).1
    simp only [State.subscribe, List.length_append, List.length_singleton] at hlen
    obtain rfl : i = s.subscribers.length := by omega
    simp only [State.subscribe, List.getElem?_concat_length, Option.some.injEq] at hsub
    subst hsub
    -- no frame is on its way to the new subscriber but the one not yet broadcast
    have hgot : s.subscribe.got s.subscribers.length
        { since := s.pipeline.encoded.elim s.returned.length (·.packet) } =
          s.pipeline.encoded.toList := by
      cases hsending : s.sending with
      | none => simp [State.got, State.underway, State.subscribe, hsending]
      | some pair =>
        obtain ⟨frame, rest⟩ := pair
        have hout : s.subscribers.length ∉ rest :=
          fun hmem => Nat.lt_irrefl _ ((hshape.rest frame rest hsending).2 _ hmem)
        simp [State.got, State.underway, State.subscribe, hsending, hout]
    cases hencoded : s.pipeline.encoded with
    | none =>
      rw [hencoded] at hgot
      refine ⟨⟨?_, ?_⟩, Nat.le_refl _, ?_⟩
      · rw [hgot]
        simp [State.subscribe]
      · rw [hgot]
        exact List.isChain_nil
      · rw [hgot]
        simp
    | some f =>
      obtain ⟨hsequence, hpacket, hle⟩ := h.encoded f hencoded
      rw [hencoded] at hgot
      refine ⟨⟨?_, ?_⟩, hle, ?_⟩
      · rw [hgot]
        exact hpacket.symm
      · rw [hgot]
        exact List.isChain_singleton f
      · rw [hgot]
        rintro g ⟨⟩
        exact hsequence

/-- The frame of the first packet. -/
theorem encodeNext_cons (p : SharedVideoPipeline) (ptsMs : Int64) (first : Packet)
    (more : List Packet) : ∃ f, (p.encodeNext 0 ptsMs (first :: more)).encoded = some f ∧
      f.content = first.content ∧ f.packet = p.packets ∧ f.sequence = p.sequence + 1 ∧
      (p.encodeNext 0 ptsMs (first :: more)).sequence = p.sequence + 1 ∧
      (p.encodeNext 0 ptsMs (first :: more)).packets = p.packets + 1 + more.length :=
  ⟨_, rfl, rfl, rfl, rfl, rfl, rfl⟩

/-- Every subscriber gets the frame of the first packet. -/
theorem got_encode {s : State} {i : Nat} {sub : Subscriber} {ptsMs : Int64} {first : Packet}
    {more : List Packet} {f : EncodedVideoFrame} (hshape : Shape s)
    (hencoded : s.pipeline.encoded = none) (hsending : s.sending = none)
    (hsub : s.subscribers[i]? = some sub) (hopen : sub.closed = false)
    (hf : (s.pipeline.encodeNext 0 ptsMs (first :: more)).encoded = some f) :
    (s.encode ptsMs (first :: more)).got i sub = s.got i sub ++ [f] := by
  have hregistered := hshape.registers i sub hsub hopen
  simp [State.got, State.underway, State.encode, hsending, hencoded, hregistered, hf]

theorem inv_encode {s : State} (h : Inv s) (hshape : Shape s)
    (hencoded : s.pipeline.encoded = none) (hsending : s.sending = none) (ptsMs : Int64)
    {returned : List Packet} (hone : returned.length ≤ 1) : Inv (s.encode ptsMs returned) := by
  match returned with
  | [] =>
    refine inv_moves h (moves_of_same rfl rfl rfl ?_ rfl ?_) rfl
    · simp [State.encode]
    · simp [State.encode, SharedVideoPipeline.encodeNext, SharedVideoPipeline.encodeFrameSync,
        hencoded]
  | first :: more =>
    obtain rfl : more = [] := by simpa using hone
    obtain ⟨f, hf, hcontent, hplace, hnumber, hsequence, hpackets⟩ :=
      encodeNext_cons s.pipeline ptsMs first []
    refine ⟨?_, ?_, ?_⟩
    · show (s.pipeline.encodeNext 0 ptsMs [first]).packets = (s.returned ++ [first]).length
      rw [hpackets, h.packets, List.length_append]
      rfl
    · show ∀ g ∈ (s.pipeline.encodeNext 0 ptsMs [first]).encoded, g.sequence =
        (s.pipeline.encodeNext 0 ptsMs [first]).sequence ∧ _
      rw [hf]
      rintro g ⟨⟩
      refine ⟨hnumber.trans hsequence.symm, ?_, ?_⟩
      · rw [hplace, h.packets]
        simp [State.encode, hcontent]
      · rw [hplace, h.packets]
        simp [State.encode]
    · intro i sub hsub hopen
      obtain ⟨⟨hexact, hnumbers⟩, hle, hlast⟩ := h.subscribers i sub hsub hopen
      have hgot := got_encode hshape hencoded hsending hsub hopen hf
      refine ⟨⟨?_, ?_⟩, ?_, ?_⟩
      · rw [hgot, List.map_append, hexact]
        show _ = ((s.returned ++ [first]).drop sub.since).map _
        rw [List.drop_append_of_le_length hle, List.map_append]
        simp [hcontent]
      · rw [hgot]
        refine List.isChain_append.mpr ⟨hnumbers, List.isChain_singleton f, ?_⟩
        intro g hg f' hf'
        obtain rfl : f = f' := by simpa using hf'
        rw [hnumber, hlast g hg]
      · show sub.since ≤ (s.returned ++ [first]).length
        rw [List.length_append]
        exact Nat.le_add_right_of_le hle
      · rw [hgot]
        intro g hg
        obtain rfl : f = g := by simpa using hg
        exact hnumber.trans hsequence.symm

theorem inv_step {s s' : State} {e : Event} (h : Inv s) (hshape : Shape s)
    (hstep : step s e = some s') (hone : AtMostOne e) : Inv s' := by
  cases e with
  | subscribe =>
    cases hstep
    exact inv_subscribe h hshape
  | connect i =>
    cases hstep
    exact inv_moves h (moves_update s i fun _ _ hopen => ⟨hopen, rfl, rfl⟩) rfl
  | receive i =>
    obtain ⟨sub, hsub, hstep⟩ := Option.bind_eq_some_iff.mp hstep
    split at hstep
    · cases hstep
    · rename_i frame rest hchannel
      split at hstep <;> cases hstep
      refine inv_moves h (moves_update s i ?_) rfl
      intro sub' hsub' hopen
      obtain rfl : sub = sub' := Option.some.inj (hsub.symm.trans hsub')
      refine ⟨hopen, rfl, ?_⟩
      simp [hchannel]
  | leave i =>
    cases hstep
    exact inv_moves h (moves_update s i fun _ _ hopen => nomatch hopen) rfl
  | requestKeyframe | stop =>
    cases hstep
    exact inv_moves h (moves_of_same rfl rfl rfl rfl rfl rfl) rfl
  | encode ptsMs returned =>
    simp only [step] at hstep
    split at hstep <;> cases hstep
    rename_i hidle
    exact inv_encode h hshape hidle.2.1 hidle.2.2.1 ptsMs hone
  | broadcast =>
    have hmoves := moves_broadcast hshape hstep
    obtain ⟨frame, -, rfl⟩ := Option.map_eq_some_iff.mp hstep
    exact inv_moves h hmoves rfl
  | send =>
    simp only [step] at hstep
    split at hstep
    · rename_i frame i rest hsending
      have hmoves := moves_send hshape hsending hstep
      refine inv_moves h hmoves ?_
      obtain ⟨sub, -, hstep⟩ := Option.bind_eq_some_iff.mp hstep
      split at hstep
      · cases hstep
        rfl
      · split at hstep <;> cases hstep
        rfl
    · cases hstep
  | finish =>
    have hmoves := moves_finish hshape hstep
    simp only [step] at hstep
    split at hstep <;> cases hstep
    exact inv_moves h hmoves rfl

theorem inv_init (codec : VideoCodecType) : Inv { pipeline := { codec } } := by
  refine ⟨rfl, ?_, ?_⟩
  · intro f hf
    cases hf
  · intro i sub hsub
    simp at hsub

/-- A call that returns more than one packet leaves its caller a frame short. -/
theorem atMostOne_of_exact {s s' : State} {e : Event} (h : Inv s) (hshape : Shape s)
    (hstep : step s e = some s') (hexact : AllExact s') : AtMostOne e := by
  cases e with
  | encode ptsMs returned =>
    simp only [step] at hstep
    split at hstep <;> cases hstep
    rename_i hidle
    obtain ⟨-, hencoded, hsending, hcount⟩ := hidle
    obtain ⟨i, hi⟩ := List.exists_mem_of_length_pos (Nat.pos_of_ne_zero hcount)
    obtain ⟨sub, hsub, hopen⟩ := (Option.any_eq_true _ _).mp (List.mem_filter.mp hi).2
    have hopen : sub.closed = false := by simpa using hopen
    obtain ⟨⟨hbefore, -⟩, hle, -⟩ := h.subscribers i sub hsub hopen
    have hafter := (hexact i sub hsub hopen).packets
    match returned with
    | [] => exact Nat.zero_le 1
    | first :: more =>
      obtain ⟨f, hf, -⟩ := encodeNext_cons s.pipeline ptsMs first more
      have hgot := got_encode hshape hencoded hsending hsub hopen hf
      rw [hgot] at hafter
      have hlen := congrArg List.length hafter
      have hlen' := congrArg List.length hbefore
      simp only [State.encode, List.length_map, List.length_append, List.length_drop,
        List.length_cons, List.length_nil] at hlen hlen'
      show more.length + 1 ≤ 1
      omega
  | subscribe | connect _ | receive _ | leave _ | requestKeyframe | stop | broadcast | send
  | finish => trivial

/-- **Every packet, in order.** In a run every subscriber gets exactly the packets the
encoder returns while it is there, under consecutive numbers, just when no call of the
encoder returns more than one. -/
theorem exact_iff (codec : VideoCodecType) {tr : List (State × Event × State)} {s : State}
    (hrun : (system codec).Trace tr s) :
    (∀ x ∈ tr, AllExact x.2.2) ↔ ∀ x ∈ tr, AtMostOne x.2.1 := by
  suffices h : Shape s ∧ ((∀ x ∈ tr, AtMostOne x.2.1) → Inv s) ∧
      ((∀ x ∈ tr, AllExact x.2.2) ↔ ∀ x ∈ tr, AtMostOne x.2.1) from h.2.2
  induction hrun with
  | init h0 =>
    cases h0
    exact ⟨shape_init codec, fun _ => inv_init codec, by simp⟩
  | @step tr s e t _ hstep ih =>
    obtain ⟨hshape, hinv, hiff⟩ := ih
    have hstep : EncodeLoop.step s e = some t := hstep
    have hkeeps : (∀ x ∈ tr ++ [(s, e, t)], AtMostOne x.2.1) → Inv t := by
      intro hone
      refine inv_step (hinv fun x hx => hone x (List.mem_append_left _ hx)) hshape hstep ?_
      exact hone (s, e, t) (by simp)
    refine ⟨shape_step hshape hstep, hkeeps, ?_, ?_⟩
    · intro hexact x hx
      have hbefore := hiff.mp fun y hy => hexact y (List.mem_append_left _ hy)
      rcases List.mem_append.mp hx with hx | hx
      · exact hbefore x hx
      · obtain rfl := List.mem_singleton.mp hx
        exact atMostOne_of_exact (hinv hbefore) hshape hstep (hexact (s, e, t) (by simp))
    · intro hone x hx
      rcases List.mem_append.mp hx with hx | hx
      · exact hiff.mpr (fun y hy => hone y (List.mem_append_left _ hy)) x hx
      · obtain rfl := List.mem_singleton.mp hx
        intro i sub hsub hopen
        exact ((hkeeps hone).subscribers i sub hsub hopen).exact

/-- A packet of one byte. -/
def packet (byte : UInt8) (key : Int32) : Packet where
  data := [byte]
  key

def start : State where
  pipeline := { codec := .h264 }

/-- A subscriber receives a key frame; a delta frame is on its way. -/
def twoFrames : List Event :=
  [.subscribe, .connect 0, .encode 0 [packet 1 1], .broadcast, .send, .finish, .receive 0,
    .encode 40 [], .encode 40 [packet 2 0]]

theorem two_frames_exact : ∃ tr s, (system .h264).Trace tr s ∧ tr.map (·.2.1) = twoFrames ∧
    ∀ x ∈ tr, AllExact x.2.2 := by
  have hrun : (twoFrames.foldlM step start).isSome := by decide
  obtain ⟨s, hs⟩ := Option.isSome_iff_exists.mp hrun
  obtain ⟨tr, htrace, hlabels⟩ := @TSys.ofFn_trace _ _ (· = start) _ _ _ _ rfl hs
  refine ⟨tr, s, htrace, hlabels, (exact_iff .h264 htrace).mpr ?_⟩
  have hone : ∀ e ∈ tr.map (·.2.1), AtMostOne e := by
    rw [hlabels]
    simp [twoFrames, AtMostOne]
  exact fun x hx => hone x.2.1 (List.mem_map_of_mem hx)

/-- **The second packet of a call.** It is not among the frames the subscriber gets, and
no number is missing. -/
theorem second_packet_lost :
    ¬ ∀ (codec : VideoCodecType) (s : State), (system codec).Reachable s → AllExact s := by
  intro halways
  have hrun : ([.subscribe, .encode 0 [packet 1 1, packet 2 0]].foldlM step start).any
      (fun s => s.subscribers == [{ since := 0 }] && (s.got 0 { since := 0 }).length == 1 &&
        s.returned.length == 2) := by decide
  obtain ⟨s, hs, hends⟩ := Option.any_eq_true _ _ |>.mp hrun
  simp only [Bool.and_eq_true, beq_iff_eq] at hends
  obtain ⟨⟨hsubscribers, hgot⟩, hreturned⟩ := hends
  have hexact := halways .h264 s (TSys.ofFn_reachable (.init rfl) hs) 0 { since := 0 }
    (by rw [hsubscribers]; rfl) rfl
  have hlen := congrArg List.length hexact.packets
  simp only [List.length_map, List.length_drop, hgot, hreturned] at hlen
  exact absurd hlen (by decide)

/-! ## Isolation -/

/-- The loop waits for room in the channel of subscriber `i`. -/
def Blocked (s : State) (i : Nat) : Prop :=
  ∃ frame rest sub, s.sending = some (frame, i :: rest) ∧ s.subscribers[i]? = some sub ∧
    sub.closed = false ∧ 4 ≤ sub.channel.length

/-- Subscriber `i` has received nothing so far. -/
def Idle (s : State) (i : Nat) : Prop :=
  ∀ sub, s.subscribers[i]? = some sub → sub.received = []

/-- When a broadcast starts, no subscriber that has received nothing has four frames in
its channel. -/
def Room (s : State) : Event → Prop
  | .broadcast => ∀ i ∈ s.registered, ∀ sub ∈ s.subscribers[i]?,
      sub.closed = false → sub.received = [] → sub.channel.length < 4
  | _ => True

/-- The subscribers the frame has yet to be sent to have room for it, if they have
received nothing. -/
def RoomAhead (s : State) : Prop :=
  ∀ frame rest, s.sending = some (frame, rest) → ∀ i ∈ rest, ∀ sub,
    s.subscribers[i]? = some sub → sub.closed = false → sub.received = [] →
    sub.channel.length < 4

theorem roomAhead_update {s : State} (h : RoomAhead s) (i : Nat)
    {f : Subscriber → Subscriber}
    (hf : ∀ sub, s.subscribers[i]? = some sub → (f sub).closed = false →
      (f sub).received = [] → sub.closed = false ∧ sub.received = [] ∧
        (f sub).channel = sub.channel) : RoomAhead (s.update i f) := by
  intro frame rest hsending j hj sub' hsub' hopen hreceived
  rw [update_get] at hsub'
  split at hsub'
  · rename_i hij
    subst hij
    obtain ⟨sub, hsub, rfl⟩ := Option.map_eq_some_iff.mp hsub'
    obtain ⟨hopen', hreceived', hchannel⟩ := hf sub hsub hopen hreceived
    rw [hchannel]
    exact h frame rest hsending i hj sub hsub hopen' hreceived'
  · exact h frame rest hsending j hj sub' hsub' hopen hreceived

/-- The others are not touched by a send. -/
theorem roomAhead_send {s s' : State} {frame : EncodedVideoFrame} {i : Nat} {rest : List Nat}
    (h : RoomAhead s) (hshape : Shape s) (hsending : s.sending = some (frame, i :: rest))
    (hsend : s.sendNext frame i rest = some s') : RoomAhead s' := by
  have hnodup := List.nodup_cons.mp (hshape.rest frame (i :: rest) hsending).1
  obtain ⟨sub, hsub, hsend⟩ := Option.bind_eq_some_iff.mp hsend
  split at hsend
  · cases hsend
    rintro _ _ ⟨⟩ j hj
    exact h frame (i :: rest) hsending j (List.mem_cons_of_mem i hj)
  · split at hsend <;> cases hsend
    rintro _ _ ⟨⟩ j hj sub' hsub'
    have hne : i ≠ j := fun hij => hnodup.1 (hij ▸ hj)
    have hsub' : (s.update i ({ · with channel := sub.channel ++ [frame] })).subscribers[j]? =
        some sub' := hsub'
    rw [update_get, if_neg hne] at hsub'
    exact h frame (i :: rest) hsending j (List.mem_cons_of_mem i hj) sub' hsub'

theorem roomAhead_step {s s' : State} {e : Event} (h : RoomAhead s) (hshape : Shape s)
    (hstep : step s e = some s') (hroom : Room s e) : RoomAhead s' := by
  cases e with
  | subscribe =>
    cases hstep
    intro frame rest hsending j hj sub hsub
    have hlt := (hshape.rest frame rest hsending).2 j hj
    simp only [State.subscribe] at hsub
    rw [List.getElem?_append_left hlt] at hsub
    exact h frame rest hsending j hj sub hsub
  | connect i =>
    cases hstep
    exact roomAhead_update h i fun _ _ hopen hreceived => ⟨hopen, hreceived, rfl⟩
  | receive i =>
    obtain ⟨sub, -, hstep⟩ := Option.bind_eq_some_iff.mp hstep
    split at hstep
    · cases hstep
    · split at hstep <;> cases hstep
      exact roomAhead_update h i fun _ _ _ hreceived => absurd hreceived (by simp)
  | leave i =>
    cases hstep
    exact roomAhead_update h i fun _ _ hopen => nomatch hopen
  | requestKeyframe | stop =>
    cases hstep
    exact h
  | encode ptsMs returned =>
    simp only [step] at hstep
    split at hstep <;> cases hstep
    exact h
  | broadcast =>
    obtain ⟨frame, -, rfl⟩ := Option.map_eq_some_iff.mp hstep
    intro _ rest hsending i hi sub hsub
    simp only at hsending
    split at hsending <;> cases hsending
    exact hroom i hi sub hsub
  | send =>
    simp only [step] at hstep
    split at hstep
    · rename_i frame i rest hsending
      exact roomAhead_send h hshape hsending hstep
    · cases hstep
  | finish =>
    simp only [step] at hstep
    split at hstep <;> cases hstep
    rintro _ _ ⟨⟩

/-- The same subscribers are there, and each gets what it got. -/
def GetsNothing (s s' : State) : Prop :=
  ∀ j sub sub', s.subscribers[j]? = some sub → s'.subscribers[j]? = some sub' →
    sub'.closed = false → s'.got j sub' = s.got j sub

theorem Moves.getsNothing {s s' : State} (h : Moves s s') : GetsNothing s s' := by
  intro j sub sub' hsub hsub' hopen
  obtain ⟨old, hold, -, -, hgot⟩ := h.gets j sub' hsub' hopen
  obtain rfl : sub = old := Option.some.inj (hsub.symm.trans hold)
  exact hgot

/-- A change of another subscriber leaves the loop where it is. -/
theorem blocked_update {s : State} {i j : Nat} {f : Subscriber → Subscriber}
    (h : Blocked s i)
    (hf : i = j → ∀ sub, (f sub).closed = sub.closed ∧ (f sub).channel = sub.channel) :
    Blocked (s.update j f) i := by
  obtain ⟨frame, rest, sub, hsending, hsub, hopen, hfull⟩ := h
  by_cases hij : j = i
  · obtain ⟨hclosed, hchannel⟩ := hf hij.symm sub
    refine ⟨frame, rest, f sub, hsending, ?_, hclosed.trans hopen, hchannel ▸ hfull⟩
    rw [update_get, if_pos hij, hsub]
    rfl
  · refine ⟨frame, rest, sub, hsending, ?_, hopen, hfull⟩
    rw [update_get, if_neg hij, hsub]

/-- While the loop waits for a subscriber, only that subscriber can end the wait, and no
one gets another frame. -/
theorem blocked_stays {s s' : State} {i : Nat} {e : Event} (h : Blocked s i)
    (hshape : Shape s) (hstep : step s e = some s') (hreceive : e ≠ .receive i)
    (hleave : e ≠ .leave i) : Blocked s' i ∧ GetsNothing s s' := by
  have hblocked := h
  obtain ⟨frame, rest, sub, hsending, hsub, hopen, hfull⟩ := h
  have halone : s.pipeline.encoded = none := hshape.alone (by simp [hsending])
  cases e with
  | subscribe =>
    cases hstep
    refine ⟨⟨frame, rest, sub, hsending, ?_, hopen, hfull⟩, ?_⟩
    · simp only [State.subscribe]
      rw [List.getElem?_append_left (List.getElem?_eq_some_iff.mp hsub).1]
      exact hsub
    · intro j old new hold hnew _
      have hlt := (List.getElem?_eq_some_iff.mp hold).1
      simp only [State.subscribe] at hnew
      rw [List.getElem?_append_left hlt, hold] at hnew
      cases hnew
      exact got_subscribe hlt
  | connect j =>
    cases hstep
    exact ⟨blocked_update hblocked fun _ _ => ⟨rfl, rfl⟩,
      (moves_update s j (f := ({ · with connected := true }))
        fun _ _ hopen => ⟨hopen, rfl, rfl⟩).getsNothing⟩
  | receive j =>
    have hne : i ≠ j := fun hij => hreceive (by rw [hij])
    obtain ⟨other, hother, hstep⟩ := Option.bind_eq_some_iff.mp hstep
    split at hstep
    · cases hstep
    · rename_i first more hchannel
      split at hstep <;> cases hstep
      refine ⟨blocked_update hblocked fun hij => absurd hij hne,
        (moves_update s j ?_).getsNothing⟩
      intro other' hother' hopen'
      obtain rfl : other = other' := Option.some.inj (hother.symm.trans hother')
      refine ⟨hopen', rfl, ?_⟩
      simp [hchannel]
  | leave j =>
    have hne : i ≠ j := fun hij => hleave (by rw [hij])
    cases hstep
    exact ⟨blocked_update hblocked fun hij => absurd hij hne,
      (moves_update s j (f := ({ · with closed := true, channel := [] }))
        fun _ _ hopen => nomatch hopen).getsNothing⟩
  | requestKeyframe | stop =>
    cases hstep
    exact ⟨⟨frame, rest, sub, hsending, hsub, hopen, hfull⟩,
      (moves_of_same rfl rfl rfl rfl rfl rfl).getsNothing⟩
  | encode ptsMs returned =>
    simp [step, hsending] at hstep
  | broadcast =>
    simp [step, halone] at hstep
  | send =>
    simp [step, hsending, State.sendNext, hsub, hopen, Nat.not_lt.mpr hfull] at hstep
  | finish =>
    simp [step, hsending] at hstep

/-- **Isolation.** The loop never waits for a subscriber that has received nothing, in
every run in which none of them has four frames when a broadcast starts. -/
theorem not_blocked_on_idle (codec : VideoCodecType) {s : State}
    (hrun : ((system codec).restrict Room).Reachable s) (i : Nat) :
    Idle s i → ¬ Blocked s i := by
  have hinv : Shape s ∧ RoomAhead s := by
    refine TSys.invariant (I := fun s => Shape s ∧ RoomAhead s) ?_ ?_ hrun
    · rintro s rfl
      refine ⟨shape_init codec, ?_⟩
      rintro _ _ ⟨⟩
    · rintro s e s' ⟨hshape, hahead⟩ ⟨hstep, hroom⟩
      exact ⟨shape_step hshape hstep, roomAhead_step hahead hshape hstep hroom⟩
  rintro hidle ⟨frame, rest, sub, hsending, hsub, hopen, hfull⟩
  have hlt := hinv.2 frame (i :: rest) hsending i List.mem_cons_self sub hsub hopen
    (hidle sub hsub)
  omega

instance (s : State) : (e : Event) → Decidable (Room s e)
  | .broadcast => inferInstanceAs (Decidable (∀ i ∈ _, ∀ sub ∈ _, _))
  | .subscribe | .connect _ | .receive _ | .leave _ | .requestKeyframe | .stop | .encode _ _
  | .send | .finish => inferInstanceAs (Decidable True)

/-- A frame for two subscribers. -/
def broadcastTwo : List Event :=
  [.encode 0 [packet 1 1], .broadcast, .send, .send, .finish]

/-- Four frames for a session that has not connected and one that receives them. -/
def fourFrames : List Event :=
  [.subscribe, .subscribe, .connect 1] ++
    (List.range 4).flatMap fun _ => broadcastTwo ++ [.receive 1]

/-- The session connects and receives, and gets the fifth frame. -/
def fifthFrame : List Event :=
  fourFrames ++ [.connect 0, .receive 0] ++ broadcastTwo ++ [.receive 1]

/-- The session still waits when the fifth frame is sent. -/
def fifthWaits : List Event :=
  fourFrames ++ [.encode 0 [packet 1 1], .broadcast]

theorem fifth_frame_sent : ∃ s, (s.subscribers.map fun sub => sub.received.length) = [1, 5] ∧
    ∀ i, Idle s i → ¬ Blocked s i := by
  have hrun : (fifthFrame.foldlM
      (fun s e => if Room s e then step s e else none) start).any
        (fun s => (s.subscribers.map fun sub => sub.received.length) == [1, 5]) := by decide
  obtain ⟨s, hs, hreceived⟩ := Option.any_eq_true _ _ |>.mp hrun
  exact ⟨s, beq_iff_eq.mp hreceived,
    not_blocked_on_idle .h264 (TSys.ofFn_restrict_reachable (.init rfl) hs)⟩

/-- **A session that does not connect.** The fifth frame waits for room in its channel,
and does not reach the subscriber that receives. -/
theorem blocked_on_waiting_session :
    ¬ ∀ (codec : VideoCodecType) (s : State), (system codec).Reachable s →
      ∀ i, Idle s i → ¬ Blocked s i := by
  intro halways
  have hrun : (fifthWaits.foldlM step start).any
      (fun s => (s.sending.map (·.2)) == some [0, 1] && s.subscribers[0]?.any fun sub =>
        sub.received == [] && !sub.closed && sub.channel.length == 4) := by decide
  obtain ⟨s, hs, hends⟩ := Option.any_eq_true _ _ |>.mp hrun
  simp only [Bool.and_eq_true, beq_iff_eq] at hends
  obtain ⟨hsending, hfull⟩ := hends
  obtain ⟨⟨frame, rest⟩, hsending, hrest⟩ := Option.map_eq_some_iff.mp hsending
  obtain rfl : rest = [0, 1] := hrest
  obtain ⟨sub, hsub, hfull⟩ := (Option.any_eq_true _ _).mp hfull
  simp only [Bool.and_eq_true, beq_iff_eq, Bool.not_eq_true'] at hfull
  obtain ⟨⟨hreceived, hopen⟩, hlen⟩ := hfull
  refine halways .h264 s (TSys.ofFn_reachable (.init rfl) hs) 0 ?_
    ⟨frame, [1], sub, hsending, hsub, hopen, hlen.ge⟩
  intro sub' hsub'
  obtain rfl : sub = sub' := Option.some.inj (hsub.symm.trans hsub')
  exact hreceived

end EncodeLoop

end StreamBox.Video
