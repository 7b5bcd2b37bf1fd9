import StreamBox.Hid.Agreement
import StreamBox.Hid.Clients

/-!
# Release on disconnect

What a client leaves pressed when its connection ends, with a healthy backend and
no other client.

* **Reports** — the last reports either backend sent are those of what the
  delivered events leave down (`targets_show`).
* **Released** — `released_after_end`: nothing stays down in every run in which the
  WebSocket's reset gets its place in the queue, or what was handed over leaves
  nothing down anyway.
* **Stuck** — `key_stays_down`: a connection that ends without a reset leaves its
  keys down for good.
-/

namespace StreamBox.Hid

open StreamBox.Lib

/-! ## The last reports -/

/-- What a healthy chip has after the events. -/
def ch9329Target (events : List HidEvent) : Target :=
  (events.foldl (fun (s : Ch9329Backend × Target) event =>
    let (backend, packets, _) := s.1.process true event
    (backend, s.2.catchUp packets)) ({}, {})).2

/-- What the host has after the events, with every function configured and every
write done. -/
def otgTarget (events : List HidEvent) : Target :=
  (events.foldl (fun (s : Otg.State) event => (s.process (fun _ => {}) event).1) {}).target

theorem ch9329Target_shows (events : List HidEvent) :
    (ch9329Target events).Shows (Held.after events) := by
  have hrun : ∀ (events : List HidEvent) (s : Ch9329Backend × Target) (h : Held), s.1.held = h →
      s.2.Shows h →
      (events.foldl (fun (s : Ch9329Backend × Target) event =>
        let (backend, packets, _) := s.1.process true event
        (backend, s.2.catchUp packets)) s).2.Shows (events.foldl Held.apply h) := by
    intro events
    induction events with
    | nil => exact fun s h _ hshows => hshows
    | cons event events ih =>
      intro s h hheld hshows
      subst hheld
      refine ih _ _ (Ch9329Backend.process_held s.1 event) ?_
      rw [← Ch9329Backend.process_held]
      exact Ch9329Backend.catchUp_process event hshows
  exact hrun events ({}, {}) {} rfl ⟨rfl, rfl⟩

theorem otgTarget_shows (events : List HidEvent) :
    (otgTarget events).Shows (Held.after events) := by
  have hrun : ∀ (events : List HidEvent) (s : Otg.State) (h : Held), s.Healthy → s.held = h →
      s.target.Shows h →
      (events.foldl (fun (s : Otg.State) event => (s.process (fun _ => {}) event).1) s).target.Shows
        (events.foldl Held.apply h) := by
    intro events
    induction events with
    | nil => exact fun s h _ _ hshows => hshows
    | cons event events ih =>
      intro s h hhealthy hheld hshows
      subst hheld
      obtain ⟨hhealthy', hheld⟩ := Otg.healthy_process hhealthy event
      refine ih _ _ hhealthy' hheld ?_
      rw [← hheld]
      exact Otg.healthy_shows hhealthy hshows event
  exact hrun events {} {} ⟨rfl, rfl, rfl, rfl⟩ rfl ⟨rfl, rfl⟩

/-- The last reports either backend sent are those of what the events leave down. -/
theorem targets_show (events : List HidEvent) :
    (ch9329Target events).Shows (Held.after events) ∧ (otgTarget events).Shows (Held.after events) :=
  ⟨ch9329Target_shows events, otgTarget_shows events⟩

namespace Client

open EventQueue (Submission)

/-- The events handed to the backend, in the worker's hand or in the queue. -/
def handedOver (q : EventQueue.State Caller) : List HidEvent :=
  (q.delivered ++ q.worker.inHand ++ q.queue).map (·.event)

/-- Every call has returned and the worker waits at an empty queue. -/
def State.Drained (s : State) : Prop :=
  s.ready = [] ∧ s.queue.sending = [] ∧ s.queue.raising = [] ∧ s.queue.queue = [] ∧
    s.queue.worker = .recv

/-- After the end of the connection, with the queue drained, the last keyboard and
mouse reports of either backend hold nothing. -/
def NothingHeld (s : State) : Prop :=
  s.ended = true → s.Drained →
    ch9329Target (s.queue.delivered.map (·.event)) = {} ∧
      otgTarget (s.queue.delivered.map (·.event)) = {}

/-- The backend is healthy and the other clients are silent. -/
def Undisturbed : Event → Prop
  | .other _ _ _ => False
  | .send _ available _ | .finish available _ => available = true
  | .queue (.process backend) | .queue (.flush backend) => backend = true
  | _ => True

/-- A connection that ends without a reset leaves nothing to hand over but moves
and nothing down, and a reset is given up only when nothing is down. -/
def LeavesNothing (transport : Transport) (s : State) : Event → Prop
  | .finish _ _ => transport.resets = false →
      (∀ x ∈ s.ready, x.2.isMove = true) ∧ s.queue.waiting = [] ∧
        (Held.after (handedOver s.queue)).Released
  | .queue (.timeout t) => t.event = .reset → (Held.after (handedOver s.queue)).Released
  | _ => True

/-! ## After the end -/

/-- The pending move and the moves on their way to it. -/
structure OnlyMoves (q : EventQueue.State Caller) : Prop where
  storing : ∀ t ∈ q.storing, t.event.isMove = true
  pending : ∀ t ∈ q.pendingMove, t.event.isMove = true
  flushing : ∀ t, q.worker = .flushing t → t.event.isMove = true

/-- What is handed over, followed by the reset if it still waits, leaves nothing
down. -/
structure Ending (s : State) : Prop where
  ready : ∀ x ∈ s.ready, x.2.isMove = true
  waiting : s.queue.waiting = [] ∨ ∃ t, s.queue.waiting = [t] ∧ t.event = .reset
  released : (Held.after (handedOver s.queue ++ s.queue.waiting.map (·.event))).Released

structure Inv (s : State) : Prop where
  moves : OnlyMoves s.queue
  mine : ∀ t ∈ s.queue.sending, ∃ i, t.caller = .message i
  ending : s.ended = true → Ending s

theorem onlyMoves_step {q q' : EventQueue.State Caller} {e : EventQueue.Event Caller}
    (h : OnlyMoves q) (hstep : EventQueue.step q e = some q') : OnlyMoves q' := by
  cases e with
  | submit caller event full =>
    simp only [EventQueue.step] at hstep
    split_ifs at hstep with hidle hfull hroom hfull' hmove <;> cases hstep
    · exact ⟨h.storing, h.pending, h.flushing⟩
    · refine ⟨?_, h.pending, h.flushing⟩
      simp only [List.mem_append, List.mem_singleton]
      rintro t (ht | rfl)
      · exact h.storing t ht
      · exact hmove
    · exact ⟨h.storing, h.pending, h.flushing⟩
  | store move =>
    obtain ⟨hmove, hs⟩ := Option.ite_none_right_eq_some.mp hstep
    cases hs
    refine ⟨fun t ht => h.storing t (List.mem_of_mem_erase ht), ?_, h.flushing⟩
    rintro t ht
    cases ht
    exact h.storing move hmove
  | raise caller =>
    obtain ⟨-, hs⟩ := Option.ite_none_right_eq_some.mp hstep
    cases hs
    exact ⟨h.storing, h.pending, h.flushing⟩
  | accept event =>
    obtain ⟨-, hs⟩ := Option.ite_none_right_eq_some.mp hstep
    cases hs
    exact ⟨h.storing, h.pending, h.flushing⟩
  | timeout event =>
    obtain ⟨-, hs⟩ := Option.ite_none_right_eq_some.mp hstep
    cases hs
    exact ⟨h.storing, h.pending, h.flushing⟩
  | recv =>
    simp only [EventQueue.step] at hstep
    split at hstep <;> cases hstep
    exact ⟨h.storing, h.pending, by simp⟩
  | process backend =>
    simp only [EventQueue.step] at hstep
    split at hstep <;> cases hstep
    cases backend <;> exact ⟨h.storing, h.pending, by simp⟩
  | swapFlag =>
    simp only [EventQueue.step] at hstep
    split at hstep <;> cases hstep
    refine ⟨h.storing, h.pending, ?_⟩
    cases q.pendingMoveFlag <;> simp
  | takeMove =>
    simp only [EventQueue.step] at hstep
    split at hstep <;> cases hstep
    · rename_i move hworker hmove
      refine ⟨h.storing, by simp, ?_⟩
      rintro t ht
      cases ht
      exact h.pending move hmove
    · exact ⟨h.storing, h.pending, by simp⟩
  | flush backend =>
    simp only [EventQueue.step] at hstep
    split at hstep <;> cases hstep
    cases backend <;> exact ⟨h.storing, h.pending, by simp⟩

/-- The worker's steps, and those of a move on its way to the pending slot, change
nothing of what the events handed over leave down. -/
theorem after_worker {q q' : EventQueue.State Caller} {e : EventQueue.Event Caller}
    (hmoves : OnlyMoves q) (hstep : EventQueue.step q e = some q')
    (hhealthy : Undisturbed (.queue e)) (rest : List HidEvent)
    (hsubmit : ∀ caller event full, e ≠ .submit caller event full)
    (haccept : ∀ t, e ≠ .accept t) (htimeout : ∀ t, e ≠ .timeout t) :
    q'.waiting = q.waiting ∧
      Held.after (handedOver q' ++ rest) = Held.after (handedOver q ++ rest) := by
  cases e with
  | submit caller event full => exact absurd rfl (hsubmit caller event full)
  | accept t => exact absurd rfl (haccept t)
  | timeout t => exact absurd rfl (htimeout t)
  | store move =>
    obtain ⟨-, hs⟩ := Option.ite_none_right_eq_some.mp hstep
    cases hs
    exact ⟨rfl, rfl⟩
  | raise caller =>
    obtain ⟨-, hs⟩ := Option.ite_none_right_eq_some.mp hstep
    cases hs
    exact ⟨rfl, rfl⟩
  | recv =>
    simp only [EventQueue.step] at hstep
    split at hstep <;> cases hstep
    rename_i event queue hworker hqueue
    refine ⟨rfl, ?_⟩
    simp [handedOver, hworker, hqueue, EventQueue.Worker.inHand]
  | process backend =>
    obtain rfl : backend = true := hhealthy
    simp only [EventQueue.step] at hstep
    split at hstep <;> cases hstep
    rename_i event hworker
    refine ⟨rfl, ?_⟩
    simp [handedOver, hworker, EventQueue.Worker.inHand, EventQueue.State.deliver]
  | swapFlag =>
    simp only [EventQueue.step] at hstep
    split at hstep <;> cases hstep
    rename_i hworker
    refine ⟨rfl, ?_⟩
    cases hflag : q.pendingMoveFlag <;> simp [handedOver, hworker, EventQueue.Worker.inHand]
  | takeMove =>
    simp only [EventQueue.step] at hstep
    split at hstep <;> cases hstep <;> rename_i hworker _ <;>
      exact ⟨rfl, by simp [handedOver, hworker, EventQueue.Worker.inHand]⟩
  | flush backend =>
    obtain rfl : backend = true := hhealthy
    simp only [EventQueue.step] at hstep
    split at hstep <;> cases hstep
    rename_i move hworker
    refine ⟨rfl, ?_⟩
    have hmove := Held.after_move (hmoves.flushing move hworker) (q.delivered.map (·.event))
      (q.queue.map (·.event) ++ rest)
    simpa [handedOver, hworker, EventQueue.Worker.inHand, EventQueue.State.deliver] using hmove

theorem ending_queue {transport : Transport} {s s' : State} {e : EventQueue.Event Caller}
    (h : Ending s) (hmoves : OnlyMoves s.queue) (hcall : s.call e = some s')
    (hsubmit : ∀ caller event full, e ≠ .submit caller event full)
    (hhealthy : Undisturbed (.queue e)) (hkept : LeavesNothing transport s (.queue e)) :
    Ending s' := by
  obtain ⟨hstep, hs'⟩ := call_eq hcall
  have hready : s'.ready = s.ready := by rw [hs']
  by_cases haccept : ∃ t, e = .accept t
  · obtain ⟨t, rfl⟩ := haccept
    obtain ⟨⟨ht, -⟩, hs⟩ := Option.ite_none_right_eq_some.mp hstep
    rcases h.waiting with hnone | ⟨u, hone, -⟩
    · simp [hnone] at ht
    · obtain rfl : t = u := by simpa [hone] using ht
      have hreleased := h.released
      refine ⟨hready ▸ h.ready, ?_, ?_⟩ <;> rw [← Option.some.inj hs]
      · exact .inl (by simp [hone])
      · simpa [handedOver, hone] using hreleased
  · by_cases htimeout : ∃ t, e = .timeout t
    · obtain ⟨t, rfl⟩ := htimeout
      obtain ⟨ht, hs⟩ := Option.ite_none_right_eq_some.mp hstep
      rcases h.waiting with hnone | ⟨u, hone, hreset⟩
      · simp [hnone] at ht
      · obtain rfl : t = u := by simpa [hone] using ht
        have hreleased := hkept hreset
        refine ⟨hready ▸ h.ready, ?_, ?_⟩ <;> rw [← Option.some.inj hs]
        · exact .inl (by simp [hone])
        · simpa [handedOver, hone] using hreleased
    · obtain ⟨hwaiting, hafter⟩ := after_worker hmoves hstep hhealthy
        (s.queue.waiting.map (·.event)) hsubmit (fun t ht => haccept ⟨t, ht⟩)
        (fun t ht => htimeout ⟨t, ht⟩)
      refine ⟨hready ▸ h.ready, hwaiting ▸ h.waiting, ?_⟩
      rw [hwaiting, hafter]
      exact h.released

/-- A move that is sent after the end. -/
theorem ending_send {s s' : State} {x : Nat × HidEvent} {full : Bool} (h : Ending s)
    (hmem : x ∈ s.ready)
    (hcall : { s with ready := s.ready.erase x }.call (.submit (.message x.1) x.2 full) = some s') :
    Ending s' := by
  obtain ⟨hstep, hs'⟩ := call_eq hcall
  have hmove := h.ready x hmem
  have hready : ∀ y ∈ s'.ready, y.2.isMove = true := by
    rw [hs']
    exact fun y hy => h.ready y (List.mem_of_mem_erase hy)
  simp only [EventQueue.step, hmove, ite_true] at hstep
  split_ifs at hstep <;> simp only [Option.some.injEq] at hstep
  · refine ⟨hready, by rw [← hstep]; exact h.waiting, ?_⟩
    rw [← hstep]
    have hafter := Held.after_move hmove
      ((s.queue.delivered ++ s.queue.worker.inHand ++ s.queue.queue).map (·.event))
      (s.queue.waiting.map (·.event))
    have hreleased := h.released
    unfold handedOver at hreleased
    rw [← hafter] at hreleased
    simpa [handedOver] using hreleased
  · refine ⟨hready, by rw [← hstep]; exact h.waiting, ?_⟩
    rw [← hstep]
    exact h.released

/-- The reset of the WebSocket, in the queue or waiting for its place. -/
theorem ending_reset {s s' : State} {index : Nat} {full : Bool} (hready : s.ready = [])
    (hwaiting : s.queue.waiting = [])
    (hcall : s.call (.submit (.message index) .reset full) = some s') : Ending s' := by
  obtain ⟨hstep, hs'⟩ := call_eq hcall
  have hready' : ∀ x ∈ s'.ready, x.2.isMove = true := by
    rw [hs']
    simp [hready]
  simp only [EventQueue.step, HidEvent.isMove, Bool.false_eq_true, ite_false] at hstep
  split_ifs at hstep <;> simp only [Option.some.injEq] at hstep
  · have hreset := Held.after_reset
      ((s.queue.delivered ++ s.queue.worker.inHand ++ s.queue.queue).map (·.event))
    refine ⟨hready', by rw [← hstep]; exact .inl hwaiting, ?_⟩
    rw [← hstep]
    simpa [handedOver, hwaiting] using hreset
  · have hreset := Held.after_reset (handedOver s.queue)
    refine ⟨hready', ?_, ?_⟩ <;> rw [← hstep]
    · exact .inr ⟨⟨.message index, s.queue.submitted.length, .reset⟩, by simp [hwaiting], rfl⟩
    · simpa [handedOver, hwaiting] using hreset

theorem mine_call {s s' : State} {e : EventQueue.Event Caller} (hcall : s.call e = some s')
    (hmine : ∀ t ∈ s.queue.sending, ∃ i, t.caller = .message i)
    (hsubmit : ∀ caller event full, e = .submit caller event full → ∃ i, caller = .message i) :
    ∀ t ∈ s'.queue.sending, ∃ i, t.caller = .message i := by
  obtain ⟨hstep, -⟩ := call_eq hcall
  intro t ht
  rcases EventQueue.step_sending hstep with
    ⟨caller, event, full, he, -, hperm⟩ | ⟨u, -, -, hperm⟩ | ⟨-, hsame⟩
  · rcases List.mem_cons.mp (hperm.subset (List.mem_append_right _ ht)) with rfl | hmem
    · exact hsubmit caller event full he
    · exact hmine t hmem
  · exact hmine t (hperm.subset (List.mem_cons_of_mem _ ht))
  · exact hmine t (hsame ▸ ht)

/-- An idle client has nothing left to hand over. -/
theorem idle_empty {s : State} (h : s.idle = true)
    (hmine : ∀ t ∈ s.queue.sending, ∃ i, t.caller = .message i) :
    s.ready = [] ∧ s.queue.waiting = [] := by
  simp only [State.idle, Bool.and_eq_true, List.isEmpty_iff] at h
  obtain ⟨hready, hall⟩ := h
  refine ⟨hready, List.eq_nil_iff_forall_not_mem.mpr fun t ht => ?_⟩
  have hsending : t ∈ s.queue.sending := List.mem_append_left _ ht
  obtain ⟨i, hi⟩ := hmine t hsending
  have hcaller := List.all_eq_true.mp hall t.caller
    (List.mem_append_left _ (List.mem_map_of_mem hsending))
  simp [hi] at hcaller

theorem call_ended {s s' : State} {e : EventQueue.Event Caller} (hcall : s.call e = some s') :
    s'.ended = s.ended := by
  obtain ⟨-, hs'⟩ := call_eq hcall
  rw [hs']

theorem moves_call {s s' : State} {e : EventQueue.Event Caller} (hcall : s.call e = some s')
    (h : OnlyMoves s.queue) : OnlyMoves s'.queue :=
  onlyMoves_step h (call_eq hcall).1

theorem inv_finish {transport : Transport} {s s' : State} {available full : Bool} (h : Inv s)
    (hstep : step transport s (.finish available full) = some s')
    (hhealthy : Undisturbed (.finish available full))
    (hkept : LeavesNothing transport s (.finish available full)) : Inv s' := by
  obtain rfl : available = true := hhealthy
  simp only [step] at hstep
  split at hstep
  · cases hstep
  rename_i hidle
  cases hresets : transport.resets with
  | true =>
    simp only [hresets, Bool.and_self, ite_true] at hstep
    -- the transport that resets is sequential
    have hsequential : transport.sequential = true := by
      cases transport with
      | webSocket => rfl
      | dataChannel => cases hresets
      | rustDesk => cases hresets
    have hquiet : s.idle = true := by simp_all
    obtain ⟨hready, hwaiting⟩ := idle_empty hquiet h.mine
    refine ⟨moves_call hstep h.moves, mine_call hstep h.mine ?_, fun _ => ?_⟩
    · intro caller event full' he
      cases he
      exact ⟨_, rfl⟩
    · exact ending_reset (s := { s with ended := true }) hready hwaiting hstep
  | false =>
    simp only [hresets, Bool.false_and] at hstep
    cases hstep
    obtain ⟨hready, hwaiting, hreleased⟩ := hkept hresets
    exact ⟨h.moves, h.mine, fun _ => ⟨hready, .inl hwaiting, by simpa [hwaiting] using hreleased⟩⟩

theorem inv_step {transport : Transport} {s s' : State} {e : Event} (h : Inv s)
    (hstep : step transport s e = some s') (hhealthy : Undisturbed e)
    (hkept : LeavesNothing transport s e) : Inv s' := by
  cases e with
  | receive message =>
    simp only [step] at hstep
    split at hstep <;> cases hstep
    rename_i hopen
    have hopen : s.ended = false := by simp_all
    exact ⟨h.moves, h.mine, fun hended => by simp [hopen] at hended⟩
  | send index available full =>
    obtain rfl : available = true := hhealthy
    simp only [step] at hstep
    split at hstep
    · cases hstep
    · rename_i i event hfind
      obtain ⟨hmem, rfl⟩ := mem_of_find? hfind
      refine ⟨moves_call hstep h.moves, mine_call hstep h.mine ?_, fun hended => ?_⟩
      · intro caller event' full' he
        cases he
        exact ⟨_, rfl⟩
      · rw [call_ended hstep] at hended
        exact ending_send (h.ending hended) hmem hstep
  | finish available full => exact inv_finish h hstep hhealthy hkept
  | other client event full => exact absurd hhealthy not_false
  | queue e =>
    have hsubmit : ∀ caller event full, e ≠ .submit caller event full := by
      rintro caller event full rfl
      cases hstep
    have hcall : s.call e = some s' := by
      cases e with
      | submit caller event full => exact absurd rfl (hsubmit caller event full)
      | _ => exact hstep
    refine ⟨moves_call hcall h.moves, mine_call hcall h.mine ?_, fun hended => ?_⟩
    · exact fun caller event full he => absurd he (hsubmit caller event full)
    · rw [call_ended hcall] at hended
      exact ending_queue (h.ending hended) h.moves hcall hsubmit hhealthy hkept

/-- A target that shows nothing down is as it was at the start. -/
theorem target_released {t : Target} {held : Held} (hshows : t.Shows held)
    (hreleased : held.Released) : t = {} := by
  obtain ⟨keyboard, buttons⟩ := t
  obtain ⟨hkeyboard, hbuttons⟩ := hshows
  simp only [hreleased.1, hreleased.2] at hkeyboard hbuttons
  simp [hkeyboard, hbuttons]

/-- **Release on disconnect.** On every transport, with a healthy backend and no
other client, in every run in which a connection that ends without a reset leaves
nothing down and nothing to hand over, and a reset is given up only when nothing is
down, the last reports hold nothing once the connection has ended and the queue is
drained. -/
theorem released_after_end (transport : Transport) {s : State}
    (hrun : ((system transport).restrict
      fun s e => Undisturbed e ∧ LeavesNothing transport s e).Reachable s) : NothingHeld s := by
  have hinv : Inv s := by
    refine TSys.invariant (I := Inv) ?_ ?_ hrun
    · rintro s rfl
      exact ⟨⟨by simp, by simp, by simp⟩, by simp [EventQueue.State.sending], by simp⟩
    · rintro s e s' hs ⟨hstep, hhealthy, hkept⟩
      exact inv_step hs hstep hhealthy hkept
  rintro hended ⟨-, hsending, -, hqueue, hworker⟩
  have hwaiting : s.queue.waiting = [] := (List.append_eq_nil_iff.mp hsending).1
  have hreleased := (hinv.ending hended).released
  simp only [hwaiting, handedOver, hqueue, hworker, EventQueue.Worker.inHand, List.map_nil,
    List.append_nil] at hreleased
  obtain ⟨hch9329, hotg⟩ := targets_show (s.queue.delivered.map (·.event))
  exact ⟨target_released hch9329 hreleased, target_released hotg hreleased⟩

/-! ## A key that stays down -/

/-- The queue's steps that hand one event over to the backend. -/
def deliverOne : List Event :=
  [.queue .recv, .queue (.process true), .queue .swapFlag]

instance : (e : Event) → Decidable (Undisturbed e)
  | .other _ _ _ => inferInstanceAs (Decidable False)
  | .send _ available _ | .finish available _ => inferInstanceAs (Decidable (available = true))
  | .queue (.process backend) | .queue (.flush backend) =>
      inferInstanceAs (Decidable (backend = true))
  | .receive _ | .queue (.submit _ _ _) | .queue (.store _) | .queue (.raise _)
  | .queue (.accept _) | .queue (.timeout _) | .queue .recv | .queue .swapFlag
  | .queue .takeMove => inferInstanceAs (Decidable True)

instance (h : Held) : Decidable h.Released := inferInstanceAs (Decidable (_ ∧ _))

instance (transport : Transport) (s : State) : (e : Event) → Decidable (LeavesNothing transport s e)
  | .finish _ _ => inferInstanceAs (Decidable (transport.resets = false → _ ∧ _ ∧ _))
  | .queue (.timeout t) => inferInstanceAs (Decidable (t.event = .reset → _))
  | .receive _ | .send _ _ _ | .other _ _ _ | .queue (.submit _ _ _) | .queue (.store _)
  | .queue (.raise _) | .queue (.accept _) | .queue (.process _) | .queue (.flush _)
  | .queue .recv | .queue .swapFlag | .queue .takeMove => inferInstanceAs (Decidable True)

/-- A WebSocket that closes with a key down. -/
def closingRun : List Event :=
  [.receive (keyAMessage KB_EVENT_DOWN), .send 0 true false, .finish true false] ++ deliverOne ++
    deliverOne

theorem closingRun_released : ∃ s : State, s.ended = true ∧ s.queue.delivered.length = 2 ∧
    NothingHeld s := by
  have hrun : (closingRun.foldlM (fun s e => if Undisturbed e ∧ LeavesNothing .webSocket s e
      then step .webSocket s e else none) {}).any
        (fun s => s.ended && s.queue.delivered.length == 2) := by decide
  obtain ⟨s, hs, hended⟩ := Option.any_eq_true _ _ |>.mp hrun
  simp only [Bool.and_eq_true, beq_iff_eq] at hended
  exact ⟨s, hended.1, hended.2, released_after_end .webSocket
    (TSys.ofFn_restrict_reachable (.init rfl) hs)⟩

/-- A connection without a reset that ends with a key down. -/
def droppedRun : List Event :=
  [.receive (.converted (.keyboard { eventType := .down, key := .keyA })), .send 0 true false,
    .finish true false] ++ deliverOne

/-- **A key that stays down.** A data channel or a RustDesk connection that ends with
a key down leaves it down. -/
theorem key_stays_down :
    ¬ ∀ (transport : Transport) (s : State),
      ((system transport).restrict fun _ e => Undisturbed e).Reachable s → NothingHeld s := by
  intro halways
  have hrun : (droppedRun.foldlM (fun s e => if Undisturbed e then step .rustDesk s e else none)
      {}).any (fun s => s.ended && s.ready.isEmpty && s.queue.sending.isEmpty &&
        s.queue.raising.isEmpty && s.queue.queue.isEmpty && s.queue.worker == .recv &&
        (otgTarget (s.queue.delivered.map (·.event))).keyboard == keyAReport) := by decide
  obtain ⟨s, hs, hstuck⟩ := Option.any_eq_true _ _ |>.mp hrun
  simp only [Bool.and_eq_true, List.isEmpty_iff, beq_iff_eq] at hstuck
  obtain ⟨⟨⟨⟨⟨⟨hended, hready⟩, hsending⟩, hraising⟩, hqueue⟩, hworker⟩, hkey⟩ := hstuck
  have hheld := (halways .rustDesk s (TSys.ofFn_restrict_reachable (.init rfl) hs) hended
    ⟨hready, hsending, hraising, hqueue, hworker⟩).2
  rw [hheld] at hkey
  exact absurd hkey (by decide)

end Client
end StreamBox.Hid
