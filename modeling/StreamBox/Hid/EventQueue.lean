import StreamBox.Hid.Types
import StreamBox.Lib.TSys
import Mathlib.Data.List.Infix
import Mathlib.Data.List.Nodup

/-!
# The HID event queue

Callers of the HID controller put events into a bounded queue; one worker takes
them out and hands them to the backend.

* **Callers** — an event is sent at once while the queue has room. Otherwise a
  mouse move goes to `pendingMove` and raises its flag, in two steps, and any other
  event waits for room for a limited time.
* **Worker** — after each event it swaps the flag and delivers the pending move.
* **Order** — `delivered_prefix_of_no_full_move`: the backend sees a caller's
  events in order in every run in which no move of that caller finds the queue
  full.
* **Bypass** — `pending_move_overtakes`: a move that finds the queue full is
  delivered before the events queued ahead of it.
* **Stranded moves** — `not_stranded_iff`: no move is left behind by a blocked worker
  in exactly the runs in which no move comes after the worker's last look at it.
-/

namespace StreamBox.Hid

open StreamBox.Lib

inductive HidEvent
  | keyboard (event : KeyboardEvent)
  | mouse (event : MouseEvent)
  | consumer (event : ConsumerEvent)
  | reset
  deriving DecidableEq, Repr

/-- The events `send_mouse` may drop or merge. -/
def HidEvent.isMove : HidEvent → Bool
  | .mouse event => event.eventType = .move || event.eventType = .moveAbs
  | _ => false

namespace EventQueue

/-- The capacity of the queue. -/
def HID_EVENT_QUEUE_CAPACITY : Nat := 64

/-- An event of a caller, numbered by its submission. -/
structure Submission (κ : Type) where
  caller : κ
  seq : Nat
  event : HidEvent
  deriving DecidableEq, Repr

/-- The worker between two steps. -/
inductive Worker (κ : Type)
  /-- Waiting for an event. -/
  | recv
  | processing (event : Submission κ)
  /-- About to swap the flag. -/
  | swapFlag
  /-- About to take the pending move. -/
  | takeMove
  | flushing (move : Submission κ)
  deriving DecidableEq, Repr

/-- The event the worker holds between the queue and the backend. -/
def Worker.inHand {κ : Type} : Worker κ → List (Submission κ)
  | .processing event => [event]
  | _ => []

/-- Every event the worker holds, a pending move it has taken included. -/
def Worker.events {κ : Type} : Worker κ → List (Submission κ)
  | .processing event => [event]
  | .flushing move => [move]
  | _ => []

structure State (κ : Type) where
  queue : List (Submission κ) := []
  /-- Callers in `tx.send`, each with its event. -/
  waiting : List (Submission κ) := []
  /-- Callers whose move found the queue full, before the write to `pending_move`. -/
  storing : List (Submission κ) := []
  /-- Callers about to raise the flag. -/
  raising : List κ := []
  pendingMove : Option (Submission κ) := none
  pendingMoveFlag : Bool := false
  worker : Worker κ := .recv
  /-- Every event submitted, in order. -/
  submitted : List (Submission κ) := []
  /-- The events handed to the backend, in order. -/
  delivered : List (Submission κ) := []
  /-- The events lost: timed out, replaced by a later move, or without a backend. -/
  dropped : List (Submission κ) := []
  deriving DecidableEq, Repr

inductive Event (κ : Type)
  /-- A call with an event; `full` is the answer of `try_send`. -/
  | submit (caller : κ) (event : HidEvent) (full : Bool)
  /-- `*pending_move.lock() = Some(event)`. -/
  | store (move : Submission κ)
  /-- `pending_move_flag.store(true)`. -/
  | raise (caller : κ)
  /-- A waiting sender gets its place. -/
  | accept (event : Submission κ)
  /-- A waiting sender gives up. -/
  | timeout (event : Submission κ)
  | recv
  /-- `process_hid_event`, with or without a backend. -/
  | process (backend : Bool)
  | swapFlag
  | takeMove
  | flush (backend : Bool)
  deriving DecidableEq, Repr

variable {κ : Type} [DecidableEq κ]

/-- The caller is not inside a call. -/
def State.idle (s : State κ) (c : κ) : Bool :=
  !(s.waiting.map (·.caller)).contains c && !(s.storing.map (·.caller)).contains c &&
    !s.raising.contains c

/-- `process_hid_event`: the backend gets the event, if there is one. -/
def State.deliver (s : State κ) (event : Submission κ) (backend : Bool) : State κ :=
  if backend then { s with delivered := s.delivered ++ [event] }
  else { s with dropped := s.dropped ++ [event] }

/-- One step of a caller or of the worker. `try_send` finds the queue full when
every free place is promised to a waiting sender, so it may do so with fewer than
64 events queued. -/
def step (s : State κ) : Event κ → Option (State κ)
  | .submit caller event full =>
      let new : Submission κ := ⟨caller, s.submitted.length, event⟩
      let s' := { s with submitted := s.submitted ++ [new] }
      if !s.idle caller then none
      else if !full then
        if s.queue.length < HID_EVENT_QUEUE_CAPACITY then
          some { s' with queue := s.queue ++ [new] }
        else none
      else if HID_EVENT_QUEUE_CAPACITY ≤ s.queue.length + s.waiting.length then
        if event.isMove then some { s' with storing := s.storing ++ [new] }
        else some { s' with waiting := s.waiting ++ [new] }
      else none
  | .store move =>
      if move ∈ s.storing then
        some { s with
          storing := s.storing.erase move
          raising := s.raising ++ [move.caller]
          pendingMove := some move
          dropped := s.dropped ++ s.pendingMove.toList }
      else none
  | .raise caller =>
      if caller ∈ s.raising then
        some { s with raising := s.raising.erase caller, pendingMoveFlag := true }
      else none
  | .accept event =>
      if event ∈ s.waiting ∧ s.queue.length < HID_EVENT_QUEUE_CAPACITY then
        some { s with waiting := s.waiting.erase event, queue := s.queue ++ [event] }
      else none
  | .timeout event =>
      if event ∈ s.waiting then
        some { s with waiting := s.waiting.erase event, dropped := s.dropped ++ [event] }
      else none
  | .recv =>
      match s.worker, s.queue with
      | .recv, event :: queue => some { s with worker := .processing event, queue := queue }
      | _, _ => none
  | .process backend =>
      match s.worker with
      | .processing event => some { s.deliver event backend with worker := .swapFlag }
      | _ => none
  | .swapFlag =>
      match s.worker with
      | .swapFlag =>
          some { s with
            worker := if s.pendingMoveFlag then .takeMove else .recv
            pendingMoveFlag := false }
      | _ => none
  | .takeMove =>
      match s.worker, s.pendingMove with
      | .takeMove, some move => some { s with worker := .flushing move, pendingMove := none }
      | .takeMove, none => some { s with worker := .recv }
      | _, _ => none
  | .flush backend =>
      match s.worker with
      | .flushing move => some { s.deliver move backend with worker := .recv }
      | _ => none

/-- The queue with its worker and any number of callers. -/
def system (κ : Type) [DecidableEq κ] : TSys (State κ) (Event κ) := .ofFn (· = {}) step

/-! ## The events in the hands of their senders -/

/-- The events a step puts into the queue or into `pending_move`. -/
def handed (s : State κ) : Event κ → List (Submission κ)
  | .submit caller event full => if full then [] else [⟨caller, s.submitted.length, event⟩]
  | .store move => [move]
  | .accept event => [event]
  | _ => []

/-- The events not yet handed over, still with their senders. -/
def State.sending (s : State κ) : List (Submission κ) := s.waiting ++ s.storing

/-- A step hands over a new event, leaves it with its sender, hands over or gives
up one that was being sent, or does not concern the senders. -/
theorem step_sending {s s' : State κ} {e : Event κ} (h : step s e = some s') :
    (∃ caller event full, e = .submit caller event full ∧ s.idle caller = true ∧
      (handed s e ++ s'.sending).Perm (⟨caller, s.submitted.length, event⟩ :: s.sending)) ∨
    (∃ t ∈ s.sending, (handed s e = [t] ∨ handed s e = []) ∧
      (t :: s'.sending).Perm s.sending) ∨
    (handed s e = [] ∧ s'.sending = s.sending) := by
  cases e with
  | submit caller event full =>
    refine .inl ⟨caller, event, full, rfl, ?_⟩
    simp only [step] at h
    split_ifs at h with hidle hfull hroom hfull' hmove <;> cases h
    · exact ⟨by simpa using hidle, by simp_all [handed, State.sending]⟩
    · refine ⟨by simpa using hidle, ?_⟩
      have hfull : full = true := by simpa using hfull
      simp only [handed, hfull, ite_true, State.sending, List.nil_append, ← List.append_assoc]
      exact List.perm_append_singleton _ _
    · refine ⟨by simpa using hidle, ?_⟩
      have hfull : full = true := by simpa using hfull
      simp only [handed, hfull, ite_true, State.sending, List.nil_append, List.append_assoc,
        List.singleton_append]
      exact List.perm_middle
  | store move =>
    obtain ⟨hmove, hs⟩ := Option.ite_none_right_eq_some.mp h
    cases hs
    refine .inr (.inl ⟨move, List.mem_append_right _ hmove, .inl rfl, ?_⟩)
    refine List.perm_middle.symm.trans (List.Perm.append_left _ ?_)
    exact (List.perm_cons_erase hmove).symm
  | accept event =>
    obtain ⟨⟨hevent, -⟩, hs⟩ := Option.ite_none_right_eq_some.mp h
    cases hs
    exact .inr (.inl ⟨event, List.mem_append_left _ hevent, .inl rfl,
      (List.perm_cons_erase hevent).symm.append_right _⟩)
  | timeout event =>
    obtain ⟨hevent, hs⟩ := Option.ite_none_right_eq_some.mp h
    cases hs
    exact .inr (.inl ⟨event, List.mem_append_left _ hevent, .inr rfl,
      (List.perm_cons_erase hevent).symm.append_right _⟩)
  | raise caller =>
    obtain ⟨-, hs⟩ := Option.ite_none_right_eq_some.mp h
    cases hs
    exact .inr (.inr ⟨rfl, rfl⟩)
  | recv =>
    simp only [step] at h
    split at h <;> cases h
    exact .inr (.inr ⟨rfl, rfl⟩)
  | process backend =>
    simp only [step] at h
    split at h <;> cases h
    cases backend <;> exact .inr (.inr ⟨rfl, rfl⟩)
  | swapFlag =>
    simp only [step] at h
    split at h <;> cases h
    exact .inr (.inr ⟨rfl, rfl⟩)
  | takeMove =>
    simp only [step] at h
    split at h <;> cases h <;> exact .inr (.inr ⟨rfl, rfl⟩)
  | flush backend =>
    simp only [step] at h
    split at h <;> cases h
    cases backend <;> exact .inr (.inr ⟨rfl, rfl⟩)

/-! ## Every event is numbered once -/

/-- The events anywhere between a submission and its end, and those lost. -/
def held (s : State κ) : List (Submission κ) :=
  s.queue ++ s.waiting ++ s.storing ++ s.pendingMove.toList ++ s.worker.events ++ s.dropped

/-- The numbers below the next one are in use, each once. -/
structure Numbered (s : State κ) : Prop where
  nodup : s.submitted.Nodup
  submitted : ∀ t ∈ s.submitted, t.seq < s.submitted.length
  held : ∀ t ∈ held s, t.seq < s.submitted.length

omit [DecidableEq κ] in
theorem numbered_submit {s s' : State κ} (new : Submission κ) (h : Numbered s)
    (hseq : new.seq = s.submitted.length) (hsubmitted : s'.submitted = s.submitted ++ [new])
    (hheld : ∀ t ∈ EventQueue.held s', t ∈ EventQueue.held s ∨ t = new) : Numbered s' where
  nodup := by
    rw [hsubmitted, List.nodup_append]
    refine ⟨h.nodup, List.nodup_singleton _, fun a ha b hb => ?_⟩
    obtain rfl := List.mem_singleton.mp hb
    rintro rfl
    exact absurd (h.submitted _ ha) (by omega)
  submitted := by
    simp only [hsubmitted, List.mem_append, List.mem_singleton, List.length_append,
      List.length_singleton]
    rintro t (ht | rfl)
    · have := h.submitted t ht
      omega
    · omega
  held := by
    simp only [hsubmitted, List.length_append, List.length_singleton]
    intro t ht
    rcases hheld t ht with ht | rfl
    · have := h.held t ht
      omega
    · omega

omit [DecidableEq κ] in
theorem numbered_keep {s s' : State κ} (h : Numbered s) (hsubmitted : s'.submitted = s.submitted)
    (hheld : ∀ t ∈ EventQueue.held s', t ∈ EventQueue.held s) : Numbered s' where
  nodup := hsubmitted ▸ h.nodup
  submitted := hsubmitted ▸ h.submitted
  held := fun t ht => hsubmitted ▸ h.held t (hheld t ht)

omit [DecidableEq κ] in
theorem deliver_held {s : State κ} {event : Submission κ} {backend : Bool} {worker : Worker κ}
    (hevent : event ∈ s.worker.events) (hworker : worker.events = []) :
    ∀ t ∈ held { s.deliver event backend with worker := worker }, t ∈ held s := by
  intro t ht
  cases backend <;> simp_all [held, State.deliver] <;> grind

theorem numbered_step {s s' : State κ} {e : Event κ} (h : Numbered s)
    (hstep : step s e = some s') : Numbered s' := by
  cases e with
  | submit caller event full =>
    simp only [step] at hstep
    split_ifs at hstep <;> cases hstep
    all_goals
      refine numbered_submit ⟨caller, s.submitted.length, event⟩ h rfl rfl fun t ht => ?_
      simp only [held, List.mem_append, List.mem_singleton] at ht ⊢
      grind
  | store move =>
    obtain ⟨hmove, hs⟩ := Option.ite_none_right_eq_some.mp hstep
    cases hs
    refine numbered_keep h rfl fun t ht => ?_
    have herase := @List.mem_of_mem_erase _ _ t move s.storing
    simp only [held, List.mem_append, Option.toList_some, List.mem_singleton] at ht ⊢
    grind
  | raise caller =>
    obtain ⟨-, hs⟩ := Option.ite_none_right_eq_some.mp hstep
    cases hs
    exact numbered_keep h rfl fun t ht => ht
  | accept event =>
    obtain ⟨⟨hevent, -⟩, hs⟩ := Option.ite_none_right_eq_some.mp hstep
    cases hs
    refine numbered_keep h rfl fun t ht => ?_
    have herase := @List.mem_of_mem_erase _ _ t event s.waiting
    simp only [held, List.mem_append, List.mem_singleton] at ht ⊢
    grind
  | timeout event =>
    obtain ⟨hevent, hs⟩ := Option.ite_none_right_eq_some.mp hstep
    cases hs
    refine numbered_keep h rfl fun t ht => ?_
    have herase := @List.mem_of_mem_erase _ _ t event s.waiting
    simp only [held, List.mem_append, List.mem_singleton] at ht ⊢
    grind
  | recv =>
    simp only [step] at hstep
    split at hstep <;> cases hstep
    rename_i event queue hworker hqueue
    refine numbered_keep h rfl fun t ht => ?_
    simp only [held, hworker, hqueue, Worker.events, List.mem_append,
      List.mem_cons] at ht ⊢
    grind
  | process backend =>
    simp only [step] at hstep
    split at hstep <;> cases hstep
    rename_i event hworker
    refine numbered_keep h ?_ (deliver_held (by simp [hworker, Worker.events]) rfl)
    cases backend <;> rfl
  | swapFlag =>
    simp only [step] at hstep
    split at hstep <;> cases hstep
    rename_i hworker
    refine numbered_keep h rfl fun t ht => ?_
    cases hflag : s.pendingMoveFlag <;>
      simpa [held, hworker, hflag, Worker.events] using ht
  | takeMove =>
    simp only [step] at hstep
    split at hstep <;> cases hstep
    · rename_i move hworker hmove
      refine numbered_keep h rfl fun t ht => ?_
      simp only [held, hworker, hmove, Worker.events, List.mem_append, Option.toList_some,
        Option.toList_none, List.not_mem_nil, List.mem_singleton] at ht ⊢
      grind
    · rename_i hworker hmove
      refine numbered_keep h rfl fun t ht => ?_
      simpa [held, hworker, hmove, Worker.events] using ht
  | flush backend =>
    simp only [step] at hstep
    split at hstep <;> cases hstep
    rename_i move hworker
    refine numbered_keep h ?_ (deliver_held (by simp [hworker, Worker.events]) rfl)
    cases backend <;> rfl

/-! ## The order of one caller -/

/-- The events of a caller. -/
def mine (c : κ) (events : List (Submission κ)) : List (Submission κ) :=
  events.filter (·.caller = c)

/-- The events of a caller that were not lost. -/
def kept (c : κ) (submitted dropped : List (Submission κ)) : List (Submission κ) :=
  (mine c submitted).filter (· ∉ dropped)

/-- The backend has seen the caller's events in the order of their submission. -/
def InOrder (c : κ) (s : State κ) : Prop := mine c s.delivered <+: kept c s.submitted s.dropped

/-- No move of the caller finds the queue full. -/
def NoFullMove (c : κ) (_ : State κ) : Event κ → Prop
  | .submit caller event full => caller = c → event.isMove → full = false
  | _ => True

@[simp] theorem mine_nil (c : κ) : mine c [] = [] := rfl

@[simp] theorem mine_append (c : κ) (l l' : List (Submission κ)) :
    mine c (l ++ l') = mine c l ++ mine c l' := List.filter_append ..

theorem mine_singleton_self {c : κ} {t : Submission κ} (h : t.caller = c) : mine c [t] = [t] := by
  simp [mine, h]

theorem mine_singleton_ne {c : κ} {t : Submission κ} (h : t.caller ≠ c) : mine c [t] = [] := by
  simp [mine, h]

theorem mine_erase_ne {c : κ} {t : Submission κ} (h : t.caller ≠ c) (l : List (Submission κ)) :
    mine c (l.erase t) = mine c l := by
  induction l with
  | nil => rfl
  | cons a l ih =>
    by_cases hat : a = t
    · subst hat
      simp [mine, h]
    · rw [List.erase_cons_tail (by simpa using hat)]
      simp only [mine, List.filter_cons] at ih ⊢
      rw [ih]

/-- The one event of a caller in a list, taken out. -/
theorem mine_of_mem_one {c : κ} {t : Submission κ} {l : List (Submission κ)} (ht : t ∈ l)
    (hc : t.caller = c) (hone : (mine c l).length ≤ 1) :
    mine c l = [t] ∧ mine c (l.erase t) = [] := by
  have hmem : t ∈ mine c l := List.mem_filter.mpr ⟨ht, by simpa using hc⟩
  have hl : mine c l = [t] := by
    obtain ⟨u, hu⟩ := List.length_eq_one_iff.mp
      (Nat.le_antisymm hone (List.length_pos_of_mem hmem))
    rw [hu] at hmem ⊢
    rw [List.mem_singleton.mp hmem]
  refine ⟨hl, ?_⟩
  have herase : mine c (l.erase t) = (mine c l).erase t := by
    simp only [mine]
    exact (List.erase_filter ..).symm
  rw [herase, hl]
  simp

theorem mine_waiting_of_idle {s : State κ} {c : κ} (h : s.idle c = true) : mine c s.waiting = [] := by
  simp only [State.idle, Bool.and_eq_true, Bool.not_eq_true', List.contains_eq_mem,
    decide_eq_false_iff_not] at h
  refine List.filter_eq_nil_iff.mpr fun t ht => ?_
  simp only [decide_eq_true_eq]
  rintro rfl
  exact h.1.1 (List.mem_map_of_mem ht)

/-- Dropping one of a caller's events takes it out of those kept. -/
theorem kept_drop {c : κ} {submitted dropped l l' : List (Submission κ)} {t : Submission κ}
    (hnodup : submitted.Nodup) (hkept : kept c submitted dropped = l ++ t :: l') :
    kept c submitted (dropped ++ [t]) = l ++ l' := by
  have hnodup' : (l ++ t :: l').Nodup := hkept ▸ (hnodup.filter _).filter _
  have hfilter : kept c submitted (dropped ++ [t]) = (kept c submitted dropped).filter (· != t) := by
    simp only [kept, List.filter_filter]
    refine List.filter_congr fun u _ => ?_
    by_cases hut : u = t <;> simp [hut]
  have hnotin : t ∉ l := fun hmem =>
    (List.nodup_append.mp hnodup').2.2 t hmem t (by simp) rfl
  rw [hfilter, hkept, ← hnodup'.erase_eq_filter, List.erase_append_right _ hnotin,
    List.erase_cons_head]

/-- Dropping events of other callers keeps a caller's. -/
theorem kept_drop_others {c : κ} {submitted dropped others : List (Submission κ)}
    (hothers : ∀ t ∈ others, t.caller ≠ c) :
    kept c submitted (dropped ++ others) = kept c submitted dropped := by
  refine List.filter_congr fun t ht => ?_
  have hc : t.caller = c := by simpa using (List.mem_filter.mp ht).2
  have hnotin : t ∉ others := fun hmem => hothers t hmem hc
  simp [hnotin]

theorem kept_submit {c : κ} {submitted dropped : List (Submission κ)} {new : Submission κ}
    (hnew : new ∉ dropped) :
    kept c (submitted ++ [new]) dropped = kept c submitted dropped ++ mine c [new] := by
  simp only [kept, mine_append, List.filter_append]
  congr 1
  refine List.filter_eq_self.mpr fun t ht => ?_
  have ht : t = new := by simpa using (List.mem_filter.mp ht).1
  simpa [ht] using hnew

/-- A caller none of whose moves found the queue full: its events stand in order
in the backend, the worker's hand, the queue and the senders, and it has no part
in the pending move. -/
structure Ordered (c : κ) (s : State κ) : Prop where
  order : mine c s.delivered ++ mine c s.worker.inHand ++ mine c s.queue ++ mine c s.waiting =
    kept c s.submitted s.dropped
  one : (mine c s.waiting).length ≤ 1
  storing : ∀ t ∈ s.storing, t.caller ≠ c
  pending : ∀ t ∈ s.pendingMove, t.caller ≠ c
  flushing : ∀ t, s.worker = .flushing t → t.caller ≠ c

theorem ordered_submit {c caller : κ} {s s' : State κ} {event : HidEvent} {full : Bool}
    (h : Ordered c s) (hn : Numbered s) (hg : NoFullMove c s (.submit caller event full))
    (hstep : step s (.submit caller event full) = some s') : Ordered c s' := by
  have hnew : (⟨caller, s.submitted.length, event⟩ : Submission κ) ∉ s.dropped := by
    intro hmem
    have hlt := hn.held _ (List.mem_append_right _ hmem)
    exact absurd hlt (Nat.lt_irrefl _)
  simp only [step] at hstep
  split_ifs at hstep with hidle hfull hroom hfull hmove <;> cases hstep
  all_goals
    have hwaiting : caller = c → mine c s.waiting = [] := by
      rintro rfl
      exact mine_waiting_of_idle (by simpa using hidle)
  · -- sent
    refine { h with order := ?_ }
    simp only [kept_submit hnew, ← h.order, mine_append]
    by_cases hc : caller = c
    · simp [hwaiting hc]
    · simp [mine_singleton_ne (t := ⟨caller, s.submitted.length, event⟩) hc]
  · -- a move of another caller
    have hc : caller ≠ c := fun hc => by simp_all [NoFullMove]
    refine { h with order := ?_, storing := ?_ }
    · simp only [kept_submit hnew, ← h.order,
        mine_singleton_ne (t := ⟨caller, s.submitted.length, event⟩) hc, List.append_nil]
    · simp only [List.mem_append, List.mem_singleton]
      rintro t (ht | rfl)
      · exact h.storing t ht
      · exact hc
  · -- waiting for room
    refine { h with order := ?_, one := ?_ }
    · simp only [kept_submit hnew, ← h.order, mine_append, List.append_assoc]
    · simp only [mine_append, List.length_append]
      by_cases hc : caller = c
      · rw [hwaiting hc, mine_singleton_self (t := ⟨caller, s.submitted.length, event⟩) hc]
        simp
      · rw [mine_singleton_ne (t := ⟨caller, s.submitted.length, event⟩) hc]
        simpa using h.one

/-- What the worker holds, handed to the backend or lost without one. -/
theorem deliver_order {c : κ} {s : State κ} {event : Submission κ} {rest : List (Submission κ)}
    (hn : Numbered s) (backend : Bool)
    (horder : mine c s.delivered ++ mine c [event] ++ rest = kept c s.submitted s.dropped) :
    mine c (s.deliver event backend).delivered ++ rest =
      kept c (s.deliver event backend).submitted (s.deliver event backend).dropped := by
  cases backend with
  | true => simpa [State.deliver] using horder
  | false =>
    simp only [State.deliver, Bool.false_eq_true, ite_false]
    by_cases hc : event.caller = c
    · rw [mine_singleton_self hc, List.append_assoc, List.singleton_append] at horder
      exact (kept_drop hn.nodup horder.symm).symm
    · rw [mine_singleton_ne hc, List.append_nil] at horder
      rw [kept_drop_others (by simpa using hc), horder]

omit [DecidableEq κ] in
theorem deliver_queue (s : State κ) (event : Submission κ) (backend : Bool) :
    (s.deliver event backend).queue = s.queue ∧ (s.deliver event backend).waiting = s.waiting ∧
      (s.deliver event backend).storing = s.storing ∧
      (s.deliver event backend).pendingMove = s.pendingMove := by
  cases backend <;> exact ⟨rfl, rfl, rfl, rfl⟩

theorem ordered_deliver {c : κ} {s : State κ} {event : Submission κ} {worker : Worker κ}
    {backend : Bool} (h : Ordered c s) (hn : Numbered s) (hworker : worker.events = [])
    (hin : worker.inHand = [])
    (horder : mine c s.delivered ++ mine c [event] ++ (mine c s.queue ++ mine c s.waiting) =
      kept c s.submitted s.dropped) :
    Ordered c { s.deliver event backend with worker := worker } := by
  obtain ⟨hqueue, hwaiting, hstoring, hpending⟩ := deliver_queue s event backend
  have hdelivered := deliver_order hn backend horder
  refine ⟨?_, hwaiting ▸ h.one, hstoring ▸ h.storing, hpending ▸ h.pending, ?_⟩
  · simpa [hin, hqueue, hwaiting] using hdelivered
  · intro t ht
    simp only at ht
    simp [ht, Worker.events] at hworker

theorem ordered_step {c : κ} {s s' : State κ} {e : Event κ} (h : Ordered c s) (hn : Numbered s)
    (hstep : step s e = some s') (hg : NoFullMove c s e) : Ordered c s' := by
  cases e with
  | submit caller event full => exact ordered_submit h hn hg hstep
  | store move =>
    obtain ⟨hmove, hs⟩ := Option.ite_none_right_eq_some.mp hstep
    cases hs
    refine { h with order := ?_, storing := ?_, pending := ?_ }
    · have hothers : ∀ t ∈ s.pendingMove.toList, t.caller ≠ c := fun t ht =>
        h.pending t (Option.mem_toList.mp ht)
      simpa [kept_drop_others hothers] using h.order
    · exact fun t ht => h.storing t (List.mem_of_mem_erase ht)
    · rintro t ht
      cases ht
      exact h.storing move hmove
  | raise caller =>
    obtain ⟨-, hs⟩ := Option.ite_none_right_eq_some.mp hstep
    cases hs
    exact { h with }
  | accept event =>
    obtain ⟨⟨hevent, -⟩, hs⟩ := Option.ite_none_right_eq_some.mp hstep
    cases hs
    by_cases hc : event.caller = c
    · obtain ⟨hmine, herase⟩ := mine_of_mem_one hevent hc h.one
      have horder := h.order
      rw [hmine] at horder
      refine { h with order := ?_, one := by simp [herase] }
      simpa [herase, mine_singleton_self hc] using horder
    · refine { h with order := ?_, one := by simpa [mine_erase_ne hc] using h.one }
      simpa [mine_erase_ne hc, mine_singleton_ne hc] using h.order
  | timeout event =>
    obtain ⟨hevent, hs⟩ := Option.ite_none_right_eq_some.mp hstep
    cases hs
    by_cases hc : event.caller = c
    · obtain ⟨hmine, herase⟩ := mine_of_mem_one hevent hc h.one
      have horder := h.order
      rw [hmine] at horder
      refine { h with order := ?_, one := by simp [herase] }
      simp only [herase]
      exact (kept_drop hn.nodup horder.symm).symm
    · have hothers : ∀ t ∈ [event], t.caller ≠ c := by simpa using hc
      refine { h with order := ?_, one := by simpa [mine_erase_ne hc] using h.one }
      simpa [mine_erase_ne hc, kept_drop_others hothers] using h.order
  | recv =>
    simp only [step] at hstep
    split at hstep <;> cases hstep
    rename_i event queue hworker hqueue
    refine { h with order := ?_, flushing := by simp }
    have horder := h.order
    rw [hworker, hqueue, ← List.singleton_append, mine_append] at horder
    simpa [Worker.inHand] using horder
  | process backend =>
    simp only [step] at hstep
    split at hstep <;> cases hstep
    rename_i event hworker
    have horder := h.order
    rw [hworker, List.append_assoc] at horder
    exact ordered_deliver h hn rfl rfl horder
  | swapFlag =>
    simp only [step] at hstep
    split at hstep <;> cases hstep
    rename_i hworker
    have horder := h.order
    rw [hworker] at horder
    refine { h with order := ?_, flushing := ?_ }
    · cases hflag : s.pendingMoveFlag <;> simpa [Worker.inHand] using horder
    · cases hflag : s.pendingMoveFlag <;> simp
  | takeMove =>
    simp only [step] at hstep
    have horder := h.order
    split at hstep <;> cases hstep
    · rename_i move hworker hmove
      rw [hworker] at horder
      refine { h with order := ?_, pending := by simp, flushing := ?_ }
      · simpa [Worker.inHand] using horder
      · rintro t ht
        cases ht
        exact h.pending move hmove
    · rename_i hworker hmove
      rw [hworker] at horder
      refine { h with order := ?_, flushing := by simp }
      simpa [Worker.inHand] using horder
  | flush backend =>
    simp only [step] at hstep
    split at hstep <;> cases hstep
    rename_i move hworker
    -- the pending move is another caller's
    have hc := h.flushing move hworker
    have horder := h.order
    rw [hworker] at horder
    refine ordered_deliver h hn rfl rfl ?_
    simpa [mine_singleton_ne hc, Worker.inHand] using horder

/-- **Event order.** In every run in which no move of a caller finds the queue
full, whatever the other callers do, the backend sees the caller's events in the
order of their submission. -/
theorem delivered_prefix_of_no_full_move {c : κ} {s : State κ}
    (hrun : ((system κ).restrict (NoFullMove c)).Reachable s) : InOrder c s := by
  have hinv : Numbered s ∧ Ordered c s := by
    refine TSys.invariant (I := fun s => Numbered s ∧ Ordered c s) ?_ ?_ hrun
    · rintro s rfl
      exact ⟨⟨List.nodup_nil, by simp, by simp [held, Worker.events]⟩,
        ⟨rfl, by simp, by simp, by simp, by simp⟩⟩
    · rintro s e s' ⟨hn, ho⟩ ⟨hstep, hg⟩
      exact ⟨numbered_step hn hstep, ordered_step ho hn hstep hg⟩
  have horder := hinv.2.order
  rw [List.append_assoc, List.append_assoc] at horder
  exact ⟨_, horder⟩

/-! ## A move that overtakes -/

def keyA (eventType : KeyEventType) : HidEvent := .keyboard { eventType, key := .keyA }

def moveTo (x : Int32) : HidEvent := .mouse { eventType := .moveAbs, x }

instance (c : κ) (s : State κ) : (e : Event κ) → Decidable (NoFullMove c s e)
  | .submit caller event full => inferInstanceAs
      (Decidable (caller = c → event.isMove → full = false))
  | .store _ | .raise _ | .accept _ | .timeout _ | .recv | .process _ | .swapFlag | .takeMove
  | .flush _ => inferInstanceAs (Decidable True)

instance (c : κ) (s : State κ) : Decidable (InOrder c s) :=
  inferInstanceAs (Decidable (_ <+: _))

/-- A key press and a move of one caller, with a move of another between them. -/
def shortRun : List (Event Bool) :=
  [.submit true (keyA .down) false, .submit false (moveTo 1) false, .recv, .process true,
    .submit true (moveTo 2) false, .swapFlag, .recv, .process true, .swapFlag, .recv,
    .process true]

theorem shortRun_in_order : ∃ s : State Bool, (mine true s.delivered).length = 2 ∧
    InOrder true s := by
  have hrun : (shortRun.foldlM (fun s e => if NoFullMove true s e then step s e else none)
      {}).any (fun s => (mine true s.delivered).length = 2) := by decide
  obtain ⟨s, hs, hlength⟩ := Option.any_eq_true _ _ |>.mp hrun
  exact ⟨s, by simpa using hlength, delivered_prefix_of_no_full_move
    (TSys.ofFn_restrict_reachable (.init rfl) hs)⟩

/-- Sixty-four key events of one caller, then a mouse move. -/
def fullQueueRun : List (Event Unit) :=
  (List.range 64).map (fun _ => .submit () (keyA .down) false) ++
    [.submit () (moveTo 1) true, .store ⟨(), 64, moveTo 1⟩, .raise (), .recv, .process true,
      .swapFlag, .takeMove, .flush true]

/-- **A move that finds the queue full overtakes.** After the first of 64 key
events the backend gets the move, before the other 63. -/
theorem pending_move_overtakes :
    ¬ ∀ (c : Unit) (s : State Unit), (system Unit).Reachable s → InOrder c s := by
  intro halways
  have hrun : (fullQueueRun.foldlM step {}).any (fun s => !decide (InOrder () s)) := by
    decide +kernel
  obtain ⟨s, hs, hdisorder⟩ := Option.any_eq_true _ _ |>.mp hrun
  have horder := halways () s (TSys.ofFn_reachable (.init rfl) hs)
  simp [horder] at hdisorder

/-! ## A move that is left behind -/

/-- The worker is blocked on an empty queue with a move pending. -/
def Stranded (s : State κ) : Prop := s.queue = [] ∧ s.worker = .recv ∧ s.pendingMove ≠ none

/-- Nothing comes too late. With an empty queue no caller writes its move while the worker is
blocked, the worker does not find the flag down while a caller that has written its move is about
to raise it, and no move is written while the worker delivers the one before. -/
def Timely (s : State κ) : Event κ → Prop
  | .store _ => s.queue ≠ [] ∨ s.worker ≠ .recv
  | .swapFlag => s.queue ≠ [] ∨ s.pendingMoveFlag = true ∨
      ∀ move ∈ s.pendingMove, move.caller ∉ s.raising
  | .flush _ => s.queue ≠ [] ∨ s.pendingMove = none
  | _ => True

/-- A pending move is one whose caller is about to raise the flag, or the flag is up, or the
worker is about to take it. -/
def Flagged (s : State κ) : Prop :=
  ∀ move ∈ s.pendingMove, move.caller ∈ s.raising ∨ s.pendingMoveFlag = true ∨ s.worker = .takeMove

omit [DecidableEq κ] in
theorem flagged_deliver {s : State κ} {worker : Worker κ} (event : Submission κ) (backend : Bool)
    (h : Flagged s) (hworker : s.worker ≠ .takeMove) :
    Flagged { s.deliver event backend with worker := worker } := by
  have hflag : ∀ move ∈ s.pendingMove, move.caller ∈ s.raising ∨ s.pendingMoveFlag = true :=
    fun move hmove => (h move hmove).imp_right fun h => h.resolve_right hworker
  cases backend <;> exact fun move hmove => (hflag move hmove).imp_right .inl

theorem flagged_step {s s' : State κ} {e : Event κ} (h : Flagged s)
    (hstep : step s e = some s') : Flagged s' := by
  cases e with
  | submit caller event full =>
    simp only [step] at hstep
    split_ifs at hstep <;> cases hstep <;> exact h
  | store move =>
    obtain ⟨-, hs⟩ := Option.ite_none_right_eq_some.mp hstep
    cases hs
    rintro _ ⟨⟩
    exact .inl (List.mem_append_right _ (List.mem_singleton_self _))
  | raise caller =>
    obtain ⟨-, hs⟩ := Option.ite_none_right_eq_some.mp hstep
    cases hs
    exact fun _ _ => .inr (.inl rfl)
  | accept event =>
    obtain ⟨-, hs⟩ := Option.ite_none_right_eq_some.mp hstep
    cases hs
    exact h
  | timeout event =>
    obtain ⟨-, hs⟩ := Option.ite_none_right_eq_some.mp hstep
    cases hs
    exact h
  | recv =>
    simp only [step] at hstep
    split at hstep <;> cases hstep
    rename_i hworker hqueue
    exact fun move hmove => (h move hmove).imp_right fun h =>
      .inl (h.resolve_right (by simp [hworker]))
  | process backend =>
    simp only [step] at hstep
    split at hstep <;> cases hstep
    rename_i hworker
    exact flagged_deliver _ _ h (by simp [hworker])
  | swapFlag =>
    simp only [step] at hstep
    split at hstep <;> cases hstep
    rename_i hworker
    intro move hmove
    rcases h move hmove with hraising | hflag | htake
    · exact .inl hraising
    · exact .inr (.inr (if_pos hflag))
    · rw [hworker] at htake
      cases htake
  | takeMove =>
    simp only [step] at hstep
    split at hstep <;> cases hstep
    · rintro _ ⟨⟩
    · rename_i hworker hnone
      intro move hmove
      rw [hnone] at hmove
      cases hmove
  | flush backend =>
    simp only [step] at hstep
    split at hstep <;> cases hstep
    rename_i hworker
    exact flagged_deliver _ _ h (by simp [hworker])

theorem flagged_of_reachable {s : State κ} (h : (system κ).Reachable s) : Flagged s := by
  refine TSys.invariant (I := Flagged) ?_ (fun _ _ _ h hstep => flagged_step h hstep) h
  rintro s rfl
  exact fun _ hmove => nomatch hmove

/-- A step leaves a move behind just when it comes too late. -/
theorem not_stranded_step {s s' : State κ} {e : Event κ} (hflagged : Flagged s)
    (h : ¬ Stranded s) (hstep : step s e = some s') : ¬ Stranded s' ↔ Timely s e := by
  cases e with
  | submit caller event full =>
    simp only [step] at hstep
    split_ifs at hstep <;> cases hstep
    · refine iff_of_true (fun hs => ?_) trivial
      exact List.append_ne_nil_of_right_ne_nil _ (List.cons_ne_nil _ _) hs.1
    · exact iff_of_true h trivial
    · exact iff_of_true h trivial
  | store move =>
    obtain ⟨-, hs⟩ := Option.ite_none_right_eq_some.mp hstep
    cases hs
    simp only [Stranded, Timely, ne_eq, reduceCtorEq, not_false_eq_true, and_true, not_and_or]
  | raise caller =>
    obtain ⟨-, hs⟩ := Option.ite_none_right_eq_some.mp hstep
    cases hs
    exact iff_of_true h trivial
  | accept event =>
    obtain ⟨-, hs⟩ := Option.ite_none_right_eq_some.mp hstep
    cases hs
    refine iff_of_true (fun hs => ?_) trivial
    exact List.append_ne_nil_of_right_ne_nil _ (List.cons_ne_nil _ _) hs.1
  | timeout event =>
    obtain ⟨-, hs⟩ := Option.ite_none_right_eq_some.mp hstep
    cases hs
    exact iff_of_true h trivial
  | recv =>
    simp only [step] at hstep
    split at hstep <;> cases hstep
    exact iff_of_true (fun hs => nomatch hs.2.1) trivial
  | process backend =>
    simp only [step] at hstep
    split at hstep <;> cases hstep
    exact iff_of_true (fun hs => nomatch hs.2.1) trivial
  | swapFlag =>
    simp only [step] at hstep
    split at hstep <;> cases hstep
    rename_i hworker
    cases hflag : s.pendingMoveFlag with
    | true => exact iff_of_true (fun hs => nomatch hs.2.1) (.inr (.inl hflag))
    | false =>
      -- the flag is down, so the caller of a pending move has not raised it yet
      have hraising : ∀ move ∈ s.pendingMove, move.caller ∈ s.raising := by
        intro move hmove
        refine (hflagged move hmove).resolve_right ?_
        simp [hflag, hworker]
      cases hmove : s.pendingMove with
      | none => simp [Stranded, Timely, hmove]
      | some move => simp [Stranded, Timely, hmove, hflag, hraising move hmove]
  | takeMove =>
    simp only [step] at hstep
    split at hstep <;> cases hstep
    · exact iff_of_true (fun hs => nomatch hs.2.1) trivial
    · rename_i hworker hnone
      exact iff_of_true (fun hs => hs.2.2 hnone) trivial
  | flush backend =>
    simp only [step] at hstep
    split at hstep <;> cases hstep
    rename_i move hworker
    obtain ⟨hqueue, -, -, hpending⟩ := deliver_queue s move backend
    simp only [Stranded, Timely, hqueue, hpending, true_and, not_and_or, not_not, ne_eq]

/-- **Stranded moves.** In a run the worker is never blocked on an empty queue with a move pending
just when no step comes too late. -/
theorem not_stranded_iff {tr : List (State κ × Event κ × State κ)} {s : State κ}
    (hrun : (system κ).Trace tr s) :
    (∀ x ∈ tr, ¬ Stranded x.2.2) ↔ ∀ x ∈ tr, Timely x.1 x.2.1 := by
  refine hrun.forall_post_iff (P := fun s => ¬ Stranded s) (fun s h0 => ?_)
    fun s e t hreach h hstep => ?_
  · cases h0
    exact fun hs => hs.2.2 rfl
  · exact not_stranded_step (flagged_of_reachable hreach) h hstep

/-- A key event and its delivery. -/
theorem one_key_not_stranded : ∃ tr s, (system Unit).Trace tr s ∧
    tr.map (·.2.1) = [.submit () (keyA .down) false, .recv, .process true, .swapFlag] ∧
    ∀ x ∈ tr, ¬ Stranded x.2.2 := by
  have hsubmit := TSys.Trace.step (T := system Unit) (a := .submit () (keyA .down) false)
    (.init rfl) rfl
  have hrecv := TSys.Trace.step (T := system Unit) (a := .recv) hsubmit rfl
  have hprocess := TSys.Trace.step (T := system Unit) (a := .process true) hrecv rfl
  have hswap := TSys.Trace.step (T := system Unit) (a := .swapFlag) hprocess rfl
  refine ⟨_, _, hswap, rfl, (not_stranded_iff hswap).mpr ?_⟩
  simp only [List.forall_mem_append, List.forall_mem_singleton]
  exact ⟨⟨⟨⟨by simp, trivial⟩, trivial⟩, trivial⟩, .inr (.inr fun _ hmove => nomatch hmove)⟩

/-- Sixty-four key events, then a move that finds the queue full and is written after the worker
has dealt with them all. -/
def lateMoveRun : List (Event Unit) :=
  (List.range 64).map (fun _ => .submit () (keyA .down) false) ++
    .submit () (moveTo 1) true ::
      (List.range 64).flatMap (fun _ => [.recv, .process true, .swapFlag]) ++
    [.store ⟨(), 64, moveTo 1⟩, .raise ()]

/-- **A move that comes too late.** The worker is blocked, the flag is up, and nothing wakes it. -/
theorem late_move_stranded : ¬ ∀ s : State Unit, (system Unit).Reachable s → ¬ Stranded s := by
  intro halways
  have hrun : (lateMoveRun.foldlM step {}).any (fun s =>
      s.queue.isEmpty && s.worker == .recv && s.pendingMove.isSome) := by
    decide +kernel
  obtain ⟨s, hs, hcheck⟩ := Option.any_eq_true _ _ |>.mp hrun
  simp only [Bool.and_eq_true, beq_iff_eq, List.isEmpty_iff] at hcheck
  refine halways s (TSys.ofFn_reachable (.init rfl) hs) ⟨hcheck.1.1, hcheck.1.2, fun hnone => ?_⟩
  simp [hnone] at hcheck

end EventQueue
end StreamBox.Hid
