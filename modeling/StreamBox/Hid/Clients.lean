import StreamBox.Hid.Datachannel
import StreamBox.Hid.EventQueue
import Mathlib.Data.List.Perm.Subperm

/-!
# HID clients

A client sends messages over the HID WebSocket, a WebRTC data channel or a
RustDesk connection; its events go to the HID controller's queue, which it shares
with other clients.

* **Transports** — the WebSocket and the RustDesk connection deal with one message
  at a time. The data channel spawns a task for each message, and only the
  scheduler orders the tasks.
* **Ending** — the WebSocket calls `reset` when its loop ends; the two others do
  not.
* **Order** — `handed_in_arrival_order`: the events of a data channel reach the
  controller in arrival order in every run in which a task calls the controller
  only after the tasks of all earlier messages are done.
* **Overtaking** — `up_overtakes_down`: without that a key release overtakes its
  press.
-/

namespace StreamBox.Hid

open StreamBox.Lib

/-- The event a parsed message queues. -/
def HidChannelEvent.toHidEvent : HidChannelEvent → HidEvent
  | .keyboard event => .keyboard event
  | .mouse event => .mouse event
  | .consumer event => .consumer event

namespace Client

open EventQueue (Submission)

inductive Transport
  | webSocket
  | dataChannel
  | rustDesk
  deriving DecidableEq, Repr

/-- The next message is taken only after the last one is dealt with. -/
def Transport.sequential : Transport → Bool
  | .dataChannel => false
  | _ => true

/-- `hid.reset()` is called when the connection ends. -/
def Transport.resets : Transport → Bool
  | .webSocket => true
  | _ => false

inductive Message
  /-- A binary message of the WebSocket or the data channel. -/
  | binary (data : List UInt8)
  /-- An event converted from a RustDesk message. -/
  | converted (event : HidChannelEvent)
  deriving DecidableEq, Repr

def Message.event : Message → Option HidChannelEvent
  | .binary data => parseHidMessage data
  | .converted event => some event

/-- Who calls the HID controller. -/
inductive Caller
  /-- The code that handles a message of the client, numbered by arrival. -/
  | message (index : Nat)
  | other (client : Nat)
  deriving DecidableEq, Repr

structure State where
  queue : EventQueue.State Caller := {}
  /-- The number of messages that arrived. -/
  received : Nat := 0
  /-- The events of messages whose handler has not called the controller yet. -/
  ready : List (Nat × HidEvent) := []
  ended : Bool := false
  /-- The events handed to the controller, put into its queue or into
  `pending_move`, in order. -/
  handed : List (Submission Caller) := []
  deriving DecidableEq, Repr

inductive Event
  | receive (message : Message)
  /-- The handler of a message calls the controller; `available` and `full` are
  the answers of `backend_available` and `try_send`. -/
  | send (index : Nat) (available full : Bool)
  /-- The connection ends, for any reason. -/
  | finish (available full : Bool)
  /-- A call of another client. -/
  | other (client : Nat) (event : HidEvent) (full : Bool)
  /-- A step of a sender already in the controller, or of the worker. -/
  | queue (event : EventQueue.Event Caller)
  deriving DecidableEq, Repr

/-- A step of the controller's queue, with what it hands over. -/
def State.call (s : State) (e : EventQueue.Event Caller) : Option State :=
  (EventQueue.step s.queue e).map fun q =>
    { s with queue := q, handed := s.handed ++ EventQueue.handed s.queue e }

/-- No handler of the client is at work. -/
def State.idle (s : State) : Bool :=
  s.ready.isEmpty && (s.queue.sending.map (·.caller) ++ s.queue.raising).all fun
    | .message _ => false
    | .other _ => true

def step (transport : Transport) (s : State) : Event → Option State
  | .receive message =>
      if s.ended || transport.sequential && !s.idle then none
      else some { s with
        received := s.received + 1
        ready := s.ready ++ (message.event.map fun e => (s.received, e.toHidEvent)).toList }
  | .send index available full =>
      match s.ready.find? (·.1 = index) with
      | none => none
      | some (i, event) =>
          let s' := { s with ready := s.ready.erase (i, event) }
          if available then s'.call (.submit (.message i) event full) else some s'
  | .finish available full =>
      if s.ended || transport.sequential && !s.idle then none
      else
        let s' := { s with ended := true }
        if transport.resets && available then s'.call (.submit (.message s.received) .reset full)
        else some s'
  | .other client event full => s.call (.submit (.other client) event full)
  | .queue (.submit ..) => none
  | .queue e => s.call e

/-- One client of the controller, among others. -/
def system (transport : Transport) : TSys State Event := .ofFn (· = {}) (step transport)

/-! ## The order of a data channel -/

/-- Of two events of the client the one of the earlier message was handed over
first, unless the later message was a mouse move. -/
def InArrivalOrder (s : State) : Prop :=
  s.handed.Pairwise fun a b => ∀ i j, a.caller = .message i → b.caller = .message j →
    a.event.isMove = false → i < j

/-- The task of a message has handed its event over, or given it up. -/
def Finished (ready : List (Nat × HidEvent)) (sending : List (Submission Caller))
    (index : Nat) : Prop :=
  (∀ x ∈ ready, x.1 ≠ index) ∧ ∀ t ∈ sending, t.caller ≠ .message index

/-- A task calls the controller with an event other than a move only after the
tasks of all earlier messages are done. -/
def InTurn (s : State) : Event → Prop
  | .send index true _ => ∀ x ∈ s.ready, x.1 = index → x.2.isMove = false →
      ∀ j < index, Finished s.ready s.queue.sending j
  | _ => True

/-- Each task is in one place, and an event other than a move that is handed over
or on its way has no earlier task before it. -/
structure Behind (received : Nat) (ready : List (Nat × HidEvent))
    (sending handed : List (Submission Caller)) : Prop where
  fresh : ∀ x ∈ ready, x.1 < received
  nodup : (ready.map (·.1)).Nodup
  called : ∀ t ∈ sending, ∀ i, t.caller = .message i → i < received ∧ ∀ x ∈ ready, x.1 ≠ i
  one : (sending.map (·.caller)).Nodup
  done : ∀ t ∈ handed, ∀ i, t.caller = .message i → i < received ∧ Finished ready sending i
  earlier : ∀ t ∈ handed ++ sending, ∀ i, t.caller = .message i → t.event.isMove = false →
    ∀ j < i, Finished ready sending j
  order : handed.Pairwise fun a b => ∀ i j, a.caller = .message i → b.caller = .message j →
    a.event.isMove = false → i < j

section Behind

variable {received : Nat} {ready : List (Nat × HidEvent)} {sending handed : List (Submission Caller)}

theorem Behind.receive (h : Behind received ready sending handed) (event : HidEvent) :
    Behind (received + 1) (ready ++ [(received, event)]) sending handed := by
  have hfinished : ∀ j < received, Finished ready sending j →
      Finished (ready ++ [(received, event)]) sending j := by
    rintro j hj ⟨hready, hsending⟩
    refine ⟨?_, hsending⟩
    simp only [List.mem_append, List.mem_singleton]
    rintro x (hx | rfl)
    · exact hready x hx
    · exact Nat.ne_of_gt hj
  refine ⟨?_, ?_, ?_, h.one, ?_, ?_, h.order⟩
  · simp only [List.mem_append, List.mem_singleton]
    rintro x (hx | rfl)
    · exact Nat.lt_succ_of_lt (h.fresh x hx)
    · exact Nat.lt_succ_self _
  · rw [List.map_append, List.nodup_append]
    refine ⟨h.nodup, List.nodup_singleton _, ?_⟩
    rintro a ha b hb rfl
    obtain ⟨x, hx, rfl⟩ := List.mem_map.mp ha
    have hlt := h.fresh x hx
    simp only [List.map_cons, List.map_nil, List.mem_singleton] at hb
    omega
  · intro t ht i hi
    obtain ⟨hlt, hready⟩ := h.called t ht i hi
    refine ⟨Nat.lt_succ_of_lt hlt, ?_⟩
    simp only [List.mem_append, List.mem_singleton]
    rintro x (hx | rfl)
    · exact hready x hx
    · exact Nat.ne_of_gt hlt
  · intro t ht i hi
    obtain ⟨hlt, hdone⟩ := h.done t ht i hi
    exact ⟨Nat.lt_succ_of_lt hlt, hfinished i hlt hdone⟩
  · intro t ht i hi hmove j hj
    have hlt : i < received := by
      rcases List.mem_append.mp ht with ht | ht
      · exact (h.done t ht i hi).1
      · exact (h.called t ht i hi).1
    exact hfinished j (hj.trans hlt) (h.earlier t ht i hi hmove j hj)

/-- A message without an event. -/
theorem Behind.receive_none (h : Behind received ready sending handed) :
    Behind (received + 1) ready sending handed :=
  { h with
    fresh := fun x hx => Nat.lt_succ_of_lt (h.fresh x hx)
    called := fun t ht i hi => ⟨Nat.lt_succ_of_lt (h.called t ht i hi).1, (h.called t ht i hi).2⟩
    done := fun t ht i hi => ⟨Nat.lt_succ_of_lt (h.done t ht i hi).1, (h.done t ht i hi).2⟩ }

theorem Finished.erase {j : Nat} {x : Nat × HidEvent} (h : Finished ready sending j) :
    Finished (ready.erase x) sending j :=
  ⟨fun y hy => h.1 y (List.mem_of_mem_erase hy), h.2⟩

/-- A task leaves without a call. -/
theorem Behind.leave (h : Behind received ready sending handed) (x : Nat × HidEvent) :
    Behind received (ready.erase x) sending handed where
  fresh y hy := h.fresh y (List.mem_of_mem_erase hy)
  nodup := h.nodup.sublist (List.erase_sublist.map _)
  called t ht i hi :=
    ⟨(h.called t ht i hi).1, fun y hy => (h.called t ht i hi).2 y (List.mem_of_mem_erase hy)⟩
  one := h.one
  done t ht i hi := ⟨(h.done t ht i hi).1, (h.done t ht i hi).2.erase⟩
  earlier t ht i hi hmove j hj := (h.earlier t ht i hi hmove j hj).erase
  order := h.order

/-- A task calls the controller. -/
theorem Behind.send (h : Behind received ready sending handed) {index seq : Nat} {event : HidEvent}
    (hmem : (index, event) ∈ ready)
    (hcaller : Caller.message index ∉ sending.map (·.caller))
    (hturn : event.isMove = false → ∀ j < index, Finished ready sending j) :
    Behind received (ready.erase (index, event))
      (⟨.message index, seq, event⟩ :: sending) handed := by
  have hgone : ∀ y ∈ ready.erase (index, event), y.1 ≠ index := by
    have hperm := (List.perm_cons_erase hmem).map (·.1)
    have hnodup := (hperm.nodup_iff.mp h.nodup)
    rintro y hy rfl
    exact (List.nodup_cons.mp hnodup).1 (List.mem_map.mpr ⟨y, hy, rfl⟩)
  have hfinished : ∀ j, j ≠ index → Finished ready sending j →
      Finished (ready.erase (index, event)) (⟨.message index, seq, event⟩ :: sending) j := by
    rintro j hj hdone
    refine ⟨hdone.erase.1, ?_⟩
    simp only [List.mem_cons]
    rintro t (rfl | ht)
    · simpa using hj.symm
    · exact hdone.2 t ht
  have hne : ∀ j, Finished ready sending j → j ≠ index := by
    rintro j hdone rfl
    exact hdone.1 _ hmem rfl
  have hleave := h.leave (index, event)
  refine ⟨hleave.fresh, hleave.nodup, ?_, ?_, ?_, ?_, h.order⟩
  · simp only [List.mem_cons]
    rintro t (rfl | ht) i hi
    · cases hi
      exact ⟨h.fresh _ hmem, hgone⟩
    · exact hleave.called t ht i hi
  · exact List.nodup_cons.mpr ⟨hcaller, h.one⟩
  · intro t ht i hi
    obtain ⟨hlt, hdone⟩ := h.done t ht i hi
    exact ⟨hlt, hfinished i (hne i hdone) hdone⟩
  · intro t ht i hi hmove j hj
    have hdone : Finished ready sending j := by
      rcases List.mem_append.mp ht with ht | ht
      · exact h.earlier t (List.mem_append_left _ ht) i hi hmove j hj
      · rcases List.mem_cons.mp ht with rfl | ht
        · cases hi
          exact hturn hmove j hj
        · exact h.earlier t (List.mem_append_right _ ht) i hi hmove j hj
    exact hfinished j (hne j hdone) hdone

/-- Another client calls the controller. -/
theorem Behind.other (h : Behind received ready sending handed) {client seq : Nat} {event : HidEvent}
    (hcaller : Caller.other client ∉ sending.map (·.caller)) :
    Behind received ready (⟨.other client, seq, event⟩ :: sending) handed := by
  have hfinished : ∀ j, Finished ready sending j →
      Finished ready (⟨.other client, seq, event⟩ :: sending) j := by
    rintro j ⟨hready, hsending⟩
    refine ⟨hready, ?_⟩
    simp only [List.mem_cons]
    rintro t (rfl | ht)
    · exact Caller.noConfusion
    · exact hsending t ht
  refine ⟨h.fresh, h.nodup, ?_, List.nodup_cons.mpr ⟨hcaller, h.one⟩, ?_, ?_, h.order⟩
  · simp only [List.mem_cons]
    rintro t (rfl | ht) i hi
    · cases hi
    · exact h.called t ht i hi
  · intro t ht i hi
    exact ⟨(h.done t ht i hi).1, hfinished i (h.done t ht i hi).2⟩
  · intro t ht i hi hmove j hj
    rcases List.mem_append.mp ht with ht | ht
    · exact hfinished j (h.earlier t (List.mem_append_left _ ht) i hi hmove j hj)
    · rcases List.mem_cons.mp ht with rfl | ht
      · cases hi
      · exact hfinished j (h.earlier t (List.mem_append_right _ ht) i hi hmove j hj)

/-- At most one of the events being sent is handed over, and some may be given
up. -/
theorem Behind.hand (h : Behind received ready sending handed)
    {new sending' : List (Submission Caller)} (hsub : (new ++ sending').Subperm sending)
    (hone : new.length ≤ 1) : Behind received ready sending' (handed ++ new) := by
  have hmem : ∀ t ∈ new ++ sending', t ∈ sending := fun t ht => List.Subperm.subset hsub ht
  have hfinished : ∀ j, Finished ready sending j → Finished ready sending' j := fun j hdone =>
    ⟨hdone.1, fun t ht => hdone.2 t (hmem t (List.mem_append_right _ ht))⟩
  have hnodup : ((new ++ sending').map (·.caller)).Nodup := by
    obtain ⟨l, hperm, hl⟩ := hsub
    exact (hperm.map _).nodup_iff.mp (h.one.sublist (hl.map _))
  refine ⟨h.fresh, h.nodup, ?_, ?_, ?_, ?_, ?_⟩
  · exact fun t ht i hi => h.called t (hmem t (List.mem_append_right _ ht)) i hi
  · rw [List.map_append] at hnodup
    exact (List.nodup_append.mp hnodup).2.1
  · intro t ht i hi
    rcases List.mem_append.mp ht with ht | ht
    · exact ⟨(h.done t ht i hi).1, hfinished i (h.done t ht i hi).2⟩
    · obtain ⟨hlt, hready⟩ := h.called t (hmem t (List.mem_append_left _ ht)) i hi
      refine ⟨hlt, hready, fun u hu huc => ?_⟩
      rw [List.map_append] at hnodup
      exact (List.nodup_append.mp hnodup).2.2 _ (List.mem_map_of_mem ht) _
        (List.mem_map_of_mem hu) (hi.trans huc.symm)
  · intro t ht i hi hmove j hj
    refine hfinished j (h.earlier t ?_ i hi hmove j hj)
    rw [List.append_assoc] at ht
    rcases List.mem_append.mp ht with ht | ht
    · exact List.mem_append_left _ ht
    · exact List.mem_append_right _ (hmem t ht)
  · refine List.pairwise_append.mpr ⟨h.order, ?_, ?_⟩
    · rcases new with _ | ⟨t, _ | ⟨u, rest⟩⟩
      · exact List.Pairwise.nil
      · exact List.pairwise_singleton _ _
      · simp at hone
    · intro a ha b hb i j hi hj hmove
      have hb := hmem b (List.mem_append_left _ hb)
      -- an earlier or equal message would be finished, and is still sending
      by_contra hle
      rcases Nat.lt_or_eq_of_le (Nat.le_of_not_lt hle) with hlt | rfl
      · exact (h.earlier a (List.mem_append_left _ ha) i hi hmove j hlt).2 b hb hj
      · exact (h.done a ha _ hi).2.2 b hb hj

end Behind

/-- The invariant of a data channel. -/
def State.Behind (s : State) : Prop :=
  Client.Behind s.received s.ready s.queue.sending s.handed

theorem mem_of_find? {ready : List (Nat × HidEvent)} {index i : Nat} {event : HidEvent}
    (h : ready.find? (·.1 = index) = some (i, event)) : (i, event) ∈ ready ∧ i = index :=
  ⟨List.mem_of_find?_eq_some h, by simpa using List.find?_some h⟩

theorem call_eq {s s' : State} {e : EventQueue.Event Caller} (h : s.call e = some s') :
    EventQueue.step s.queue e = some s'.queue ∧
      s' = { s with queue := s'.queue, handed := s.handed ++ EventQueue.handed s.queue e } := by
  obtain ⟨q, hq, rfl⟩ := Option.map_eq_some_iff.mp h
  exact ⟨hq, rfl⟩

theorem caller_notMem {q : EventQueue.State Caller} {c : Caller} (h : q.idle c = true) :
    c ∉ q.sending.map (·.caller) := by
  simp only [EventQueue.State.idle, Bool.and_eq_true, Bool.not_eq_true', List.contains_eq_mem,
    decide_eq_false_iff_not] at h
  simp only [EventQueue.State.sending, List.map_append, List.mem_append, not_or]
  exact h.1

theorem length_handed {q : EventQueue.State Caller} (e : EventQueue.Event Caller) :
    (EventQueue.handed q e).length ≤ 1 := by
  cases e with
  | submit caller event full => cases full <;> simp [EventQueue.handed]
  | _ => simp [EventQueue.handed]

/-- A call keeps the invariant if the submitted event joins those being sent. -/
theorem behind_call {s s' : State} {e : EventQueue.Event Caller}
    (hcall : s.call e = some s') (hkeep : s.Behind)
    (hsubmit : ∀ caller event full, e = .submit caller event full →
      caller ∉ s.queue.sending.map (·.caller) →
      Client.Behind s.received s.ready
        (⟨caller, s.queue.submitted.length, event⟩ :: s.queue.sending) s.handed) : s'.Behind := by
  obtain ⟨hstep, hs'⟩ := call_eq hcall
  rw [hs']
  rcases EventQueue.step_sending hstep with
    ⟨caller, event, full, he, hidle, hperm⟩ | ⟨t, -, hhanded, hperm⟩ | ⟨hnone, hsame⟩
  · exact (hsubmit caller event full he (caller_notMem hidle)).hand hperm.subperm (length_handed e)
  · refine Behind.hand hkeep ?_ (length_handed e)
    rcases hhanded with hone | hnone
    · rw [hone]
      exact hperm.subperm
    · rw [hnone]
      exact List.Subperm.cons_self.trans hperm.subperm
  · refine Behind.hand hkeep ?_ (length_handed e)
    rw [hnone, hsame]
    exact List.Subperm.refl _

theorem behind_step {s s' : State} {e : Event} (h : s.Behind)
    (hstep : step .dataChannel s e = some s') (hturn : InTurn s e) : s'.Behind := by
  cases e with
  | receive message =>
    simp only [step] at hstep
    split at hstep <;> cases hstep
    cases hevent : message.event with
    | none =>
      have hready := Behind.receive_none h
      simpa [State.Behind, hevent] using hready
    | some event => exact Behind.receive h event.toHidEvent
  | send index available full =>
    simp only [step] at hstep
    split at hstep
    · cases hstep
    · rename_i i event hfind
      obtain ⟨hmem, rfl⟩ := mem_of_find? hfind
      cases available with
      | false =>
        cases hstep
        exact Behind.leave h _
      | true =>
        refine behind_call hstep (Behind.leave h _) fun caller event' full' he hcaller => ?_
        cases he
        exact Behind.send h hmem hcaller fun hmove => hturn (i, event) hmem rfl hmove
  | finish available full =>
    simp only [step] at hstep
    split at hstep
    · cases hstep
    · cases hstep
      exact h
  | other client event full =>
    refine behind_call hstep h fun caller event' full' he hcaller => ?_
    cases he
    exact Behind.other h hcaller
  | queue e =>
    cases e with
    | submit caller event full => cases hstep
    | _ =>
      refine behind_call hstep h fun caller event' full' he => ?_
      cases he

/-- **Data channel order.** In every run in which a task calls the controller with
an event other than a move only after the tasks of all earlier messages are done,
whatever the other clients and the worker do, the events of a data channel reach
the controller in arrival order. -/
theorem handed_in_arrival_order {s : State}
    (hrun : ((system .dataChannel).restrict InTurn).Reachable s) : InArrivalOrder s := by
  have hbehind : s.Behind := by
    refine TSys.invariant (I := State.Behind) ?_ ?_ hrun
    · rintro s rfl
      exact ⟨by simp, List.nodup_nil, by simp [EventQueue.State.sending], List.nodup_nil, by simp,
        by simp [EventQueue.State.sending], List.Pairwise.nil⟩
    · rintro s e s' hs ⟨hstep, hturn⟩
      exact behind_step hs hstep hturn
  exact hbehind.order

/-! ## A release that overtakes -/

/-- The binary message of a press or release of `A`. -/
def keyAMessage (eventType : UInt8) : Message := .binary [MSG_KEYBOARD, eventType, 0x04, 0x00]

instance (ready : List (Nat × HidEvent)) (sending : List (Submission Caller)) (index : Nat) :
    Decidable (Finished ready sending index) := inferInstanceAs (Decidable (_ ∧ _))

instance (s : State) : (e : Event) → Decidable (InTurn s e)
  | .send index true _ => inferInstanceAs (Decidable (∀ x ∈ s.ready, x.1 = index →
      x.2.isMove = false → ∀ j < index, Finished s.ready s.queue.sending j))
  | .send _ false _ | .receive _ | .finish _ _ | .other _ _ _ | .queue _ =>
      inferInstanceAs (Decidable True)

/-- A press and a release of one key, each handled by its task in turn. -/
def inTurnRun : List Event :=
  [.receive (keyAMessage KB_EVENT_DOWN), .receive (keyAMessage KB_EVENT_UP), .send 0 true false,
    .send 1 true false]

theorem inTurnRun_in_order : ∃ s : State, s.handed.length = 2 ∧ InArrivalOrder s := by
  have hrun : (inTurnRun.foldlM (fun s e => if InTurn s e then step .dataChannel s e else none)
      {}).any (fun s => s.handed.length = 2) := by decide
  obtain ⟨s, hs, hlength⟩ := Option.any_eq_true _ _ |>.mp hrun
  exact ⟨s, by simpa using hlength, handed_in_arrival_order
    (TSys.ofFn_restrict_reachable (.init rfl) hs)⟩

/-- The task of the release runs first. -/
def overtakingRun : List Event :=
  [.receive (keyAMessage KB_EVENT_DOWN), .receive (keyAMessage KB_EVENT_UP), .send 1 true false,
    .send 0 true false]

/-- **A release that overtakes.** The release of a key enters the queue before the
press that arrived before it. -/
theorem up_overtakes_down :
    ¬ ∀ s : State, (system .dataChannel).Reachable s → InArrivalOrder s := by
  intro halways
  have hrun : (overtakingRun.foldlM (step .dataChannel) {}).map (·.handed) =
      some [⟨.message 1, 0, .keyboard { eventType := .up, key := .keyA }⟩,
        ⟨.message 0, 1, .keyboard { eventType := .down, key := .keyA }⟩] := by decide
  obtain ⟨s, hs, hhanded⟩ := Option.map_eq_some_iff.mp hrun
  have horder := halways s (TSys.ofFn_reachable (.init rfl) hs)
  rw [InArrivalOrder, hhanded] at horder
  have hlt := (List.pairwise_cons.mp horder).1 _ List.mem_cons_self 1 0 rfl rfl rfl
  exact absurd hlt (by decide)

end Client
end StreamBox.Hid
