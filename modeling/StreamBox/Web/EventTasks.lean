import StreamBox.Events.Topics
import StreamBox.Lib.TSys

/-!
# Event delivery over a WebSocket

One connection of `handle_socket`. A task for each topic forwards the events of a receiver of the
bus to a queue, and the loop of the connection sends them to the client. Every message of the
client aborts all tasks and makes new receivers, one after the other, while events are sent on
the channels of the bus.

* **Accounting** — `inv_step`: each wanted event has exactly one copy that was forwarded, waits
  in a receiver of a new task or is still to be sent to one, or it waits in an aborted task.
* **Exactly once** — `exactly_once`: an undisturbed run delivers each wanted event once.
* **Failure** — `ping_loses_event`: a ping while an event waits in a receiver.
-/

namespace StreamBox.Web

open StreamBox.Lib StreamBox.Events

inductive ClientMessage
  | subscribe (topics : List Topic)
  | unsubscribe (topics : List Topic)
  | ping
  deriving DecidableEq, Repr

/-- `handle_client_message` -/
def handleClientMessage (topics : List Topic) : ClientMessage → List Topic
  | .subscribe newTopics => newTopics
  | .unsubscribe removeTopics => topics.filter fun t => !removeTopics.contains t
  | .ping => topics

inductive BusMessage
  /-- The event of the bus with this number. -/
  | event (n : Nat)
  | deviceInfo
  | lagged (topic : Topic) (count : Nat)
  deriving DecidableEq, Repr

/-- What is sent to the client. -/
inductive Sent
  | event (n : Nat)
  | deviceInfo
  | error (message : String)
  deriving DecidableEq, Repr

def BusMessage.sent : BusMessage → Sent
  | .event n => .event n
  | .deviceInfo => .deviceInfo
  | .lagged _ count => .error ("Lagged by " ++ toString count ++ " events")

def EVENT_CHANNEL_CAPACITY : Nat := 256

structure EventTask where
  topic : Topic
  source : Source
  /-- The events in its receiver. -/
  pending : List Nat := []
  /-- How many events were overwritten in it since it last received. -/
  missed : Nat := 0
  /-- It runs on until it next waits, and is dropped then. -/
  aborted : Bool := false
  deriving DecidableEq, Repr

namespace EventTask

/-- The event that the next one overwrites. -/
def oldest (t : EventTask) : Option Nat :=
  if t.pending.length < EVENT_CHANNEL_CAPACITY then none else t.pending.head?

def push (n : Nat) (t : EventTask) : EventTask :=
  if t.pending.length < EVENT_CHANNEL_CAPACITY then { t with pending := t.pending ++ [n] }
  else { t with pending := t.pending.tail ++ [n], missed := t.missed + 1 }

/-- Event `n` is sent on a channel. -/
def onSend (channel : Channel) (n : Nat) (t : EventTask) : EventTask :=
  if t.source = .bus channel then t.push n else t

/-- The event that its receiver loses by it. -/
def overwritten (channel : Channel) (t : EventTask) : Option Nat :=
  if t.source = .bus channel then t.oldest else none

end EventTask

/-- An event of the bus: the channels it is still to be sent on, and the topics that the client
was subscribed to when it was published and has stayed subscribed to. -/
structure Published where
  kind : EventKind
  remaining : List Channel
  kept : List Topic
  deriving DecidableEq, Repr

def Published.keep (topics : List Topic) (e : Published) : Published :=
  { e with kept := e.kept.filter (topics.contains ·) }

structure Socket where
  subscribedTopics : List Topic := []
  eventTasks : List EventTask := []
  /-- The tasks that `rebuild_event_tasks` has yet to make. -/
  rebuilding : List (Topic × Source) := []
  queue : List BusMessage := []
  sent : List Sent := []
  published : List Published := []
  /-- The topics that stay subscribed during a rebuild. -/
  staying : List Topic := []
  /-- The events that were overwritten in a receiver. -/
  overwritten : List Nat := []
  deriving DecidableEq

inductive SocketEvent
  /-- A text of the client, if it is a message. -/
  | text (msg : Option ClientMessage)
  | spawn
  -- the bus
  | publish (kind : EventKind)
  | send (n : Nat)
  -- task `i`
  | recv (i : Nat)
  | snapshot (i : Nat)
  | drop (i : Nat)
  -- the loop of the connection
  | deliver

namespace Socket

/-- The topics the client is subscribed to; a new one once its receiver is there. -/
def subscribed (s : Socket) : List Topic :=
  if s.rebuilding = [] then s.subscribedTopics else s.staying

/-- `rebuild_event_tasks`, up to the first new task. -/
def rebuildEventTasks (s : Socket) (topics : List Topic) : Socket :=
  { s with
    subscribedTopics := topics
    eventTasks := s.eventTasks.map fun t => { t with aborted := true }
    rebuilding := plan topics
    published := s.published.map (·.keep topics)
    staying := s.subscribed.filter (topics.contains ·) }

/-- Task `i` puts a message into the queue, and is as given afterwards. -/
def forward (s : Socket) (i : Nat) (t : EventTask) (msg : BusMessage) : Socket :=
  { s with eventTasks := s.eventTasks.set i t, queue := s.queue ++ [msg] }

/-- Event `n` is sent on a channel. -/
def sendOn (s : Socket) (n : Nat) (e : Published) (channel : Channel) (rest : List Channel) :
    Socket :=
  { s with
    published := s.published.set n { e with remaining := rest }
    eventTasks := s.eventTasks.map (·.onSend channel n)
    overwritten := s.overwritten ++ s.eventTasks.filterMap (·.overwritten channel) }

/-- A step of task `i`. -/
def onTask (s : Socket) (i : Nat) (f : EventTask → Option Socket) : Option Socket :=
  s.eventTasks[i]?.bind f

def step (s : Socket) : SocketEvent → Option Socket
  | .text msg =>
    if s.rebuilding = [] then
      match msg with
      | some msg => some (s.rebuildEventTasks (handleClientMessage s.subscribedTopics msg))
      | none => some s
    else none
  | .spawn =>
    match s.rebuilding with
    | (topic, source) :: rest =>
      some { s with eventTasks := s.eventTasks ++ [{ topic, source }], rebuilding := rest }
    | [] => none
  | .publish kind =>
    some { s with
      published := s.published ++
        [{ kind, remaining := channels (eventName kind), kept := s.subscribed }] }
  | .send n =>
    s.published[n]?.bind fun e =>
      match e.remaining with
      | channel :: rest => some (s.sendOn n e channel rest)
      | [] => none
  | .recv i => s.onTask i fun t =>
    if t.missed = 0 then
      match t.pending with
      | n :: rest => some (s.forward i { t with pending := rest } (.event n))
      | [] => none
    else some (s.forward i { t with missed := 0 } (.lagged t.topic t.missed))
  | .snapshot i => s.onTask i fun t =>
    if t.source = .deviceInfo then some { s with queue := s.queue ++ [.deviceInfo] } else none
  | .drop i => s.onTask i fun t =>
    if t.aborted then some { s with eventTasks := s.eventTasks.eraseIdx i } else none
  | .deliver =>
    match s.queue with
    | msg :: rest =>
      if s.rebuilding = [] then some { s with queue := rest, sent := s.sent ++ [msg.sent] }
      else none
    | [] => none

def system : TSys Socket SocketEvent := .ofFn (· = {}) step

/-! ## Exactly once -/

/-- The client is subscribed to a topic that the event matches, since before it was published. -/
def Wanted (e : Published) : Prop :=
  e.kind ≠ .deviceInfo ∧ ∃ topic ∈ e.kept, Matches topic e.kind

/-- A copy of the event may still come to the client. -/
def InFlight (s : Socket) (n : Nat) (e : Published) : Prop :=
  e.remaining ≠ [] ∨ .event n ∈ s.queue ∨ ∃ t ∈ s.eventTasks, n ∈ t.pending

def ExactlyOnce (s : Socket) : Prop :=
  ∀ (n : Nat) (e : Published), s.published[n]? = some e → Wanted e → n ∉ s.overwritten →
    s.sent.count (.event n) ≤ 1 ∧ (¬ s.InFlight n e → s.sent.count (.event n) = 1)

/-- Copies of the event that tasks have forwarded. -/
def forwarded (s : Socket) (n : Nat) : Nat := s.queue.count (.event n) + s.sent.count (.event n)

end Socket

namespace EventTask

/-- Copies of the event in the receiver of a task that is not aborted. -/
def waiting (n : Nat) (t : EventTask) : Nat := if t.aborted then 0 else t.pending.count n

/-- Copies that are still to be sent to it. -/
def due (remaining : List Channel) (t : EventTask) : Nat :=
  if t.aborted then 0 else t.source.due remaining

end EventTask

namespace Socket

def waiting (s : Socket) (n : Nat) : Nat := total (·.waiting n) s.eventTasks

/-- Copies that are still to be sent to a task that there is or will be. -/
def due (s : Socket) (remaining : List Channel) : Nat :=
  total (·.due remaining) s.eventTasks + total (fun p => p.2.due remaining) s.rebuilding

def copies (s : Socket) (n : Nat) (remaining : List Channel) : Nat :=
  s.forwarded n + s.waiting n + s.due remaining

/-- A wanted event of the bus that was not overwritten in a receiver. -/
def Owed (s : Socket) (n : Nat) (e : Published) : Prop :=
  s.published[n]? = some e ∧ Wanted e ∧ n ∉ s.overwritten

/-- A message of the client finds no event half sent, and an aborted task neither loses nor
repeats an event. -/
def Undisturbed (s : Socket) : SocketEvent → Prop
  -- An event that is being sent goes on to one new receiver, or has already come to an old one.
  | .text (some msg) => ∀ (n : Nat) (e : Published),
    s.published[n]? = some e → e.remaining ≠ [] → n ∉ s.overwritten →
    Wanted (e.keep (handleClientMessage s.subscribedTopics msg)) →
    s.forwarded n + total (fun p => p.2.due e.remaining)
        (plan (handleClientMessage s.subscribedTopics msg)) ≤ 1 ∧
      (s.forwarded n + total (fun p => p.2.due e.remaining)
          (plan (handleClientMessage s.subscribedTopics msg)) = 1 ∨
        ∃ t ∈ s.eventTasks, n ∈ t.pending)
  -- A channel whose new receiver is not there yet still has an aborted one.
  | .send n => ∀ (e : Published) (channel : Channel) (rest : List Channel), s.Owed n e →
    e.remaining = channel :: rest → (∃ p ∈ s.rebuilding, p.2 = .bus channel) →
    ∃ t ∈ s.eventTasks, t.aborted = true ∧ (t.source = .bus channel ∨ n ∈ t.pending)
  -- An aborted task forwards only what no new task does.
  | .recv i => ∀ (t : EventTask) (n : Nat) (rest : List Nat) (e : Published),
    s.eventTasks[i]? = some t → t.aborted = true → t.missed = 0 → t.pending = n :: rest →
    s.Owed n e → s.copies n e.remaining = 0
  -- An aborted task is dropped only with what another one has.
  | .drop i => ∀ (t : EventTask) (n : Nat) (e : Published), s.eventTasks[i]? = some t →
    n ∈ t.pending → s.Owed n e →
    s.copies n e.remaining = 1 ∨
      ∃ (j : Nat) (other : EventTask), j ≠ i ∧ s.eventTasks[j]? = some other ∧
        other.aborted = true ∧ n ∈ other.pending
  | _ => True

/-! ## Sending on a channel -/

end Socket

namespace EventTask

variable {channel : Channel} {n m : Nat} {t : EventTask}

theorem aborted_onSend : (t.onSend channel n).aborted = t.aborted := by
  unfold onSend push
  split
  · split
    · rfl
    · rfl
  · rfl

theorem source_onSend : (t.onSend channel n).source = t.source := by
  unfold onSend push
  split
  · split
    · rfl
    · rfl
  · rfl

theorem due_onSend (remaining : List Channel) : (t.onSend channel n).due remaining = t.due remaining := by
  rw [due, due, aborted_onSend, source_onSend]

/-- The receivers of the channel get the event, and lose at most their oldest. -/
theorem count_onSend (h : t.overwritten channel ≠ some m) :
    (t.onSend channel n).pending.count m
      = t.pending.count m + if t.source = .bus channel ∧ m = n then 1 else 0 := by
  unfold onSend
  unfold overwritten at h
  split
  · rename_i hsource
    rw [if_pos hsource] at h
    have hnew : [n].count m = if t.source = .bus channel ∧ m = n then 1 else 0 := by
      rw [List.count_singleton]
      by_cases heq : m = n
      · rw [if_pos (beq_iff_eq.mpr heq.symm), if_pos ⟨hsource, heq⟩]
      · rw [if_neg fun hbeq => heq (beq_iff_eq.mp hbeq).symm, if_neg fun hand => heq hand.2]
    unfold push
    split
    · show (t.pending ++ [n]).count m = _
      rw [List.count_append, hnew]
    · rename_i hfull
      show (t.pending.tail ++ [n]).count m = _
      rw [List.count_append, hnew]
      congr 1
      rw [oldest, if_neg hfull] at h
      cases hpending : t.pending with
      | nil => rfl
      | cons first rest =>
        rw [hpending] at h
        have hne : first ≠ m := fun heq => h (by rw [heq]; rfl)
        rw [List.tail_cons, List.count_cons_of_ne hne]
  · rename_i hsource
    rw [if_neg fun hand => hsource hand.1]
    rfl

theorem mem_of_mem_onSend (hm : m ∈ (t.onSend channel n).pending) : m ∈ t.pending ∨ m = n := by
  unfold onSend push at hm
  split at hm
  · split at hm
    · exact (List.mem_append.mp hm).imp_right List.mem_singleton.mp
    · rcases List.mem_append.mp hm with htail | hnew
      · exact .inl (List.mem_of_mem_tail htail)
      · exact .inr (List.mem_singleton.mp hnew)
  · exact .inl hm

theorem mem_onSend (h : t.overwritten channel ≠ some m) (hm : m ∈ t.pending) :
    m ∈ (t.onSend channel n).pending := by
  have hcount := count_onSend (n := n) h
  have hpos := List.count_pos_iff.mpr hm
  refine List.count_pos_iff.mp ?_
  omega

/-- A receiver has what is sent on its channel. -/
theorem mem_onSend_self (h : t.source = .bus channel) : n ∈ (t.onSend channel n).pending := by
  unfold onSend push
  rw [if_pos h]
  split
  · exact List.mem_append_right _ (List.mem_singleton_self n)
  · exact List.mem_append_right _ (List.mem_singleton_self n)

theorem waiting_onSend_ne (h : t.overwritten channel ≠ some m) (hne : m ≠ n) :
    (t.onSend channel n).waiting m = t.waiting m := by
  have hcount := count_onSend (n := n) h
  rw [if_neg fun hand => hne hand.2, Nat.add_zero] at hcount
  rw [waiting, waiting, aborted_onSend, hcount]

/-- What was to be sent to a task waits in it afterwards. -/
theorem waiting_onSend (h : t.overwritten channel ≠ some n) (rest : List Channel) :
    (t.onSend channel n).waiting n + t.due rest = t.waiting n + t.due (channel :: rest) := by
  have hcount := count_onSend (n := n) h
  rw [waiting, waiting, due, due, aborted_onSend, hcount]
  split
  · rfl
  · cases hsource : t.source with
    | deviceInfo => simp [Source.due]
    | bus other =>
      by_cases heq : other = channel
      · subst heq
        simp only [Source.due, List.count_cons_self]
        rw [if_pos ⟨trivial, trivial⟩]
        omega
      · have hne : channel ≠ other := fun h => heq h.symm
        simp only [Source.due, List.count_cons_of_ne hne, Source.bus.injEq, heq]
        rw [if_neg fun hand => hand.1]
        rfl

end EventTask

namespace Socket

/-! ## One step -/

/-- The event has one copy, or waits in an aborted task. -/
def Accounted (s : Socket) (n : Nat) (e : Published) : Prop :=
  s.copies n e.remaining = 1 ∨
    s.copies n e.remaining = 0 ∧ ∃ t ∈ s.eventTasks, t.aborted = true ∧ n ∈ t.pending

structure Inv (s : Socket) : Prop where
  subscribed : ∀ topic ∈ s.subscribed, topic ∈ s.subscribedTopics
  planned : ∀ remaining,
    s.due remaining = total (fun p => p.2.due remaining) (plan s.subscribedTopics)
  fresh : ∀ n, s.published.length ≤ n →
    s.forwarded n = 0 ∧ ∀ t ∈ s.eventTasks, n ∉ t.pending
  accounted : ∀ n e, s.Owed n e → s.Accounted n e

theorem count_cons_eq {α : Type} [BEq α] (a b : α) (l : List α) :
    (b :: l).count a = [b].count a + l.count a :=
  (List.count_append : ([b] ++ l).count a = _)

theorem due_nil (s : Socket) : s.due [] = 0 := by
  have hsource : ∀ source : Source, source.due [] = 0 := by
    intro source
    cases source <;> rfl
  have htasks : total (·.due []) s.eventTasks = 0 := by
    refine total_eq_zero fun t _ => ?_
    rw [EventTask.due, hsource, ite_self]
  rw [due, htasks, total_eq_zero fun p _ => hsource p.2]

section

variable {s t : Socket} {i : Nat} {task : EventTask}

/-- An event of the bus is published. -/
theorem inv_publish (h : s.Inv) (kind : EventKind) :
    Inv { s with
      published := s.published ++
        [{ kind, remaining := channels (eventName kind), kept := s.subscribed }] } := by
  refine ⟨h.subscribed, h.planned, fun n hn => ?_, ?_⟩
  · refine h.fresh n (Nat.le_trans ?_ hn)
    show s.published.length ≤ (s.published ++ [_]).length
    rw [List.length_append]
    exact Nat.le_add_right _ _
  · intro n e howed
    obtain ⟨hget, hwanted, hkept⟩ := howed
    have hcases : s.published[n]? = some e ∨ n = s.published.length ∧
        e = { kind, remaining := channels (eventName kind), kept := s.subscribed } := by
      have hget : (s.published ++ [_])[n]? = some e := hget
      rcases Nat.lt_or_ge n s.published.length with hlt | hge
      · rw [List.getElem?_append_left hlt] at hget
        exact .inl hget
      · rw [List.getElem?_append_right hge] at hget
        have hsingle := List.getElem?_singleton (a := _) ▸ hget
        split at hsingle
        · exact .inr ⟨by omega, (Option.some.inj hsingle).symm⟩
        · cases hsingle
    rcases hcases with hold | ⟨rfl, rfl⟩
    · exact h.accounted n e ⟨hold, hwanted, hkept⟩
    · -- its copies are those of the receivers that are planned for the topics
      obtain ⟨hforwarded, hpending⟩ := h.fresh s.published.length (Nat.le_refl _)
      have hwaiting : s.waiting s.published.length = 0 := by
        refine total_eq_zero fun t ht => ?_
        rw [EventTask.waiting, List.count_eq_zero.mpr (hpending t ht), ite_self]
      obtain ⟨hkind, topic, htopic, hmatches⟩ := hwanted
      have hdue := planned_once hkind ⟨topic, h.subscribed topic htopic, hmatches⟩
      refine .inl ?_
      show s.forwarded _ + s.waiting _ + s.due (channels (eventName kind)) = 1
      rw [hforwarded, hwaiting, h.planned, hdue]

/-- A step moves copies, and leaves the aborted tasks. -/
theorem Accounted.of_copies {n : Nat} {e e' : Published} (h : s.Accounted n e)
    (hcopies : t.copies n e'.remaining = s.copies n e.remaining)
    (htasks : ∀ task ∈ s.eventTasks, task.aborted = true → n ∈ task.pending →
      ∃ task ∈ t.eventTasks, task.aborted = true ∧ n ∈ task.pending) : t.Accounted n e' := by
  rcases h with hone | ⟨hzero, task, htask, haborted, hpending⟩
  · exact .inl (hcopies.trans hone)
  · exact .inr ⟨hcopies.trans hzero, htasks task htask haborted hpending⟩

/-- The next task is made. -/
theorem inv_spawn (h : s.Inv) {topic : Topic} {source : Source} {rest : List (Topic × Source)}
    (hrebuilding : s.rebuilding = (topic, source) :: rest) :
    Inv { s with eventTasks := s.eventTasks ++ [{ topic, source }], rebuilding := rest } := by
  have hdue : ∀ remaining, due
      { s with eventTasks := s.eventTasks ++ [{ topic, source }], rebuilding := rest } remaining
        = s.due remaining := by
    intro remaining
    have hnew : EventTask.due remaining { topic, source } = source.due remaining := rfl
    show total _ (s.eventTasks ++ [_]) + total _ rest = _
    rw [due, hrebuilding, total_append, total_cons, total_nil, total_cons, hnew]
    show _ + (source.due remaining + 0) + _ = _ + (source.due remaining + _)
    omega
  have hwaiting : ∀ n, waiting
      { s with eventTasks := s.eventTasks ++ [{ topic, source }], rebuilding := rest } n
        = s.waiting n := by
    intro n
    rw [waiting, waiting, total_append]
    rfl
  refine ⟨fun other hother => ?_, fun remaining => (hdue remaining).trans (h.planned remaining),
    fun n hn => ⟨(h.fresh n hn).1, fun task htask => ?_⟩, fun n e howed => ?_⟩
  · unfold subscribed at hother
    split at hother
    · exact hother
    · refine h.subscribed other ?_
      rw [subscribed, hrebuilding, if_neg (List.cons_ne_nil _ _)]
      exact hother
  · rcases List.mem_append.mp htask with htask | htask
    · exact (h.fresh n hn).2 task htask
    · rw [List.mem_singleton.mp htask]
      exact List.not_mem_nil
  · refine (h.accounted n e howed).of_copies ?_ fun task htask haborted hpending =>
      ⟨task, List.mem_append_left _ htask, haborted, hpending⟩
    rw [copies, copies, hdue, hwaiting]
    rfl

/-- A message is put into the queue that is no event. -/
theorem inv_queue (h : s.Inv) {msg : BusMessage} (hmsg : ∀ n, msg ≠ .event n) :
    Inv { s with queue := s.queue ++ [msg] } := by
  have hforwarded : ∀ n, forwarded { s with queue := s.queue ++ [msg] } n = s.forwarded n := by
    intro n
    rw [forwarded, forwarded, List.count_append, List.count_singleton,
      if_neg fun heq => hmsg n (beq_iff_eq.mp heq)]
    rfl
  refine ⟨h.subscribed, h.planned, fun n hn => ⟨?_, (h.fresh n hn).2⟩, fun n e howed => ?_⟩
  · exact (hforwarded n).trans (h.fresh n hn).1
  · refine (h.accounted n e howed).of_copies ?_ fun task htask haborted hpending =>
      ⟨task, htask, haborted, hpending⟩
    rw [copies, copies, hforwarded]
    rfl

/-- The message at the head of the queue is sent. -/
theorem inv_deliver (h : s.Inv) {msg : BusMessage} {rest : List BusMessage}
    (hqueue : s.queue = msg :: rest) :
    Inv { s with queue := rest, sent := s.sent ++ [msg.sent] } := by
  have hforwarded : ∀ n, forwarded { s with queue := rest, sent := s.sent ++ [msg.sent] } n
      = s.forwarded n := by
    intro n
    have hmsg : [msg.sent].count (.event n) = [msg].count (.event n) := by
      cases msg with
      | event m =>
        by_cases heq : m = n
        · rw [heq, BusMessage.sent, List.count_singleton_self, List.count_singleton_self]
        · rw [BusMessage.sent, List.count_singleton, List.count_singleton,
            if_neg fun h => heq (Sent.event.inj (beq_iff_eq.mp h)),
            if_neg fun h => heq (BusMessage.event.inj (beq_iff_eq.mp h))]
      | deviceInfo => rfl
      | lagged topic count => rfl
    have hcons := count_cons_eq (.event n) msg rest
    show rest.count _ + (s.sent ++ [msg.sent]).count _ = _
    rw [forwarded, hqueue, List.count_append, hmsg, hcons]
    omega
  refine ⟨h.subscribed, h.planned, fun n hn => ⟨?_, (h.fresh n hn).2⟩, fun n e howed => ?_⟩
  · exact (hforwarded n).trans (h.fresh n hn).1
  · refine (h.accounted n e howed).of_copies ?_ fun task htask haborted hpending =>
      ⟨task, htask, haborted, hpending⟩
    rw [copies, copies, hforwarded]
    rfl

/-- A task of the same topic takes the place of a task. -/
theorem due_set (hi : s.eventTasks[i]? = some task) {task' : EventTask}
    (hsource : task'.source = task.source) (haborted : task'.aborted = task.aborted)
    (remaining : List Channel) :
    total (·.due remaining) (s.eventTasks.set i task') = total (·.due remaining) s.eventTasks := by
  have htotal := total_set (·.due remaining) hi task'
  have hsame : task'.due remaining = task.due remaining := by
    rw [EventTask.due, EventTask.due, hsource, haborted]
  rw [hsame] at htotal
  exact Nat.add_right_cancel htotal

theorem mem_set_ne (hi : s.eventTasks[i]? = some task) {other task' : EventTask}
    (hother : other ∈ s.eventTasks) (hne : other ≠ task) : other ∈ s.eventTasks.set i task' := by
  obtain ⟨j, hj⟩ := List.getElem?_of_mem hother
  have hij : i ≠ j := by
    rintro rfl
    exact hne (Option.some.inj (hj.symm.trans hi))
  refine List.mem_of_getElem? (i := j) ?_
  rw [List.getElem?_set_ne hij]
  exact hj

theorem mem_set_self (hi : s.eventTasks[i]? = some task) (task' : EventTask) :
    task' ∈ s.eventTasks.set i task' :=
  List.mem_of_getElem? (i := i) (List.getElem?_set_self (List.getElem?_eq_some_iff.mp hi).1)

/-- A task puts what it has received into the queue; an aborted one only an event that no new
task has. -/
theorem inv_forward (h : s.Inv) (hi : s.eventTasks[i]? = some task) {task' : EventTask}
    {msg : BusMessage} (hsource : task'.source = task.source)
    (haborted : task'.aborted = task.aborted)
    (hmoved : ∀ n, task.pending.count n = [msg].count (.event n) + task'.pending.count n)
    (halone : task.aborted = true → ∀ n e, msg = .event n → s.Owed n e →
      s.copies n e.remaining = 0) : (s.forward i task' msg).Inv := by
  have hdue : ∀ remaining, (s.forward i task' msg).due remaining = s.due remaining := by
    intro remaining
    show total _ (s.eventTasks.set i task') + _ = _
    rw [due_set hi hsource haborted]
    rfl
  have hforwarded : ∀ n, (s.forward i task' msg).forwarded n
      = s.forwarded n + [msg].count (.event n) := by
    intro n
    show (s.queue ++ [msg]).count _ + s.sent.count _ = _
    rw [forwarded, List.count_append]
    omega
  have hwaiting : ∀ n, (s.forward i task' msg).waiting n + task.waiting n
      = s.waiting n + task'.waiting n := fun n => total_set (·.waiting n) hi task'
  have htask := List.mem_of_getElem? hi
  refine ⟨h.subscribed, fun remaining => (hdue remaining).trans (h.planned remaining),
    fun n hn => ⟨?_, fun other hother => ?_⟩, fun n e howed => ?_⟩
  · have hcount := hmoved n
    rw [List.count_eq_zero.mpr ((h.fresh n hn).2 task htask)] at hcount
    rw [hforwarded, (h.fresh n hn).1]
    omega
  · rcases List.mem_or_eq_of_mem_set hother with hother | rfl
    · exact (h.fresh n hn).2 other hother
    · have hcount := hmoved n
      rw [List.count_eq_zero.mpr ((h.fresh n hn).2 task htask)] at hcount
      refine List.count_eq_zero.mp ?_
      omega
  · have hw := hwaiting n
    have hf := hforwarded n
    have hcount := hmoved n
    have haccounted := h.accounted n e howed
    unfold EventTask.waiting at hw
    rw [haborted] at hw
    have hcopies : (s.forward i task' msg).copies n e.remaining
        = (s.forward i task' msg).forwarded n + (s.forward i task' msg).waiting n
          + s.due e.remaining := by
      rw [copies, hdue]
    have hold : s.copies n e.remaining = s.forwarded n + s.waiting n + s.due e.remaining := rfl
    cases habort : task.aborted with
    | false =>
      -- the copy moves from the receiver to the queue
      rw [habort, if_neg Bool.false_ne_true, if_neg Bool.false_ne_true] at hw
      refine haccounted.of_copies (by omega) fun other hother hother' hmem => ?_
      refine ⟨other, mem_set_ne hi hother ?_, hother', hmem⟩
      rintro rfl
      rw [habort] at hother'
      cases hother'
    | true =>
      rw [habort, if_pos rfl, if_pos rfl] at hw
      by_cases hmsg : msg = .event n
      · -- the only copy comes into the queue
        have hzero := halone habort n e hmsg howed
        rw [hmsg, List.count_singleton_self] at hf
        refine .inl ?_
        rw [hmsg] at hw hcopies ⊢
        omega
      · have hnone : [msg].count (.event n) = 0 := by
          rw [List.count_singleton, if_neg fun heq => hmsg (beq_iff_eq.mp heq)]
        refine haccounted.of_copies (by omega) fun other hother hother' hmem => ?_
        by_cases hsame : other = task
        · subst hsame
          refine ⟨task', mem_set_self hi task', haborted.trans habort, ?_⟩
          have hpos := List.count_pos_iff.mpr hmem
          refine List.count_pos_iff.mp ?_
          omega
        · exact ⟨other, mem_set_ne hi hother hsame, hother', hmem⟩

/-- An aborted task is dropped, with no event that is only there. -/
theorem inv_drop (h : s.Inv) (hi : s.eventTasks[i]? = some task) (haborted : task.aborted = true)
    (hkept : ∀ n e, n ∈ task.pending → s.Owed n e → s.copies n e.remaining = 1 ∨
      ∃ (j : Nat) (other : EventTask), j ≠ i ∧ s.eventTasks[j]? = some other ∧
        other.aborted = true ∧ n ∈ other.pending) :
    Inv { s with eventTasks := s.eventTasks.eraseIdx i } := by
  have hwaiting : ∀ n, waiting { s with eventTasks := s.eventTasks.eraseIdx i } n = s.waiting n := by
    intro n
    have htotal := total_eraseIdx (·.waiting n) hi
    rw [EventTask.waiting, haborted, if_pos rfl, Nat.zero_add] at htotal
    exact htotal
  have hdue : ∀ remaining, due { s with eventTasks := s.eventTasks.eraseIdx i } remaining
      = s.due remaining := by
    intro remaining
    have htotal := total_eraseIdx (·.due remaining) hi
    rw [EventTask.due, haborted, if_pos rfl, Nat.zero_add] at htotal
    show total _ (s.eventTasks.eraseIdx i) + _ = _
    rw [htotal]
    rfl
  refine ⟨h.subscribed, fun remaining => (hdue remaining).trans (h.planned remaining),
    fun n hn => ⟨(h.fresh n hn).1, fun other hother => ?_⟩, fun n e howed => ?_⟩
  · exact (h.fresh n hn).2 other (List.mem_of_mem_eraseIdx hother)
  · have hcopies : copies { s with eventTasks := s.eventTasks.eraseIdx i } n e.remaining
        = s.copies n e.remaining := by
      rw [copies, copies, hdue, hwaiting]
      rfl
    rcases h.accounted n e howed with hone | ⟨hzero, other, hother, habort, hmem⟩
    · exact .inl (hcopies.trans hone)
    · refine .inr ⟨hcopies.trans hzero, ?_⟩
      obtain ⟨j, hj⟩ := List.getElem?_of_mem hother
      by_cases hij : j = i
      · subst hij
        obtain rfl := Option.some.inj (hj.symm.trans hi)
        rcases hkept n e hmem howed with hone | ⟨k, next, hk, hnext, habort, hmem⟩
        · omega
        · exact ⟨next, List.mem_eraseIdx_iff_getElem?.mpr ⟨k, hk, hnext⟩, habort, hmem⟩
      · exact ⟨other, List.mem_eraseIdx_iff_getElem?.mpr ⟨j, hij, hj⟩, habort, hmem⟩

/-- An event is sent on a channel; if a new receiver of it is still missing there is an aborted
one. -/
theorem inv_send (h : s.Inv) {n : Nat} {e : Published} {channel : Channel} {rest : List Channel}
    (hn : s.published[n]? = some e) (hremaining : e.remaining = channel :: rest)
    (hgap : s.Owed n e → (∃ p ∈ s.rebuilding, p.2 = .bus channel) →
      ∃ t ∈ s.eventTasks, t.aborted = true ∧ (t.source = .bus channel ∨ n ∈ t.pending)) :
    (s.sendOn n e channel rest).Inv := by
  have htasks : ∀ remaining, total (·.due remaining) (s.sendOn n e channel rest).eventTasks
      = total (·.due remaining) s.eventTasks := by
    intro remaining
    show total _ (s.eventTasks.map _) = _
    rw [total_map]
    exact total_congr fun t _ => EventTask.due_onSend remaining
  have hdue : ∀ remaining, (s.sendOn n e channel rest).due remaining = s.due remaining := by
    intro remaining
    rw [due, htasks]
    rfl
  refine ⟨h.subscribed, fun remaining => (hdue remaining).trans (h.planned remaining),
    fun m hm => ?_, fun m e' howed => ?_⟩
  · have hlen : s.published.length ≤ m := by
      have hset : (s.published.set n { e with remaining := rest }).length ≤ m := hm
      rw [List.length_set] at hset
      exact hset
    obtain ⟨hforwarded, hpending⟩ := h.fresh m hlen
    refine ⟨hforwarded, fun t ht hmem => ?_⟩
    obtain ⟨old, hold, rfl⟩ := List.mem_map.mp ht
    rcases EventTask.mem_of_mem_onSend hmem with hmem | rfl
    · exact hpending old hold hmem
    · have hlt := (List.getElem?_eq_some_iff.mp hn).1
      omega
  · obtain ⟨hget, hwanted, hkept⟩ := howed
    have hget : (s.published.set n { e with remaining := rest })[m]? = some e' := hget
    have hkept : m ∉ s.overwritten ++ s.eventTasks.filterMap (·.overwritten channel) := hkept
    obtain ⟨hbefore, hnow⟩ := not_or.mp fun hmem => hkept (List.mem_append.mpr hmem)
    have hoverwritten : ∀ t ∈ s.eventTasks, t.overwritten channel ≠ some m := by
      intro t ht heq
      exact hnow (List.mem_filterMap.mpr ⟨t, ht, heq⟩)
    have haborted : ∀ t ∈ s.eventTasks, t.aborted = true → m ∈ t.pending →
        ∃ t ∈ (s.sendOn n e channel rest).eventTasks, t.aborted = true ∧ m ∈ t.pending := by
      intro t ht habort hmem
      refine ⟨_, List.mem_map_of_mem ht, ?_, EventTask.mem_onSend (hoverwritten t ht) hmem⟩
      exact EventTask.aborted_onSend.trans habort
    by_cases hmn : m = n
    · subst hmn
      rw [List.getElem?_set_self (List.getElem?_eq_some_iff.mp hn).1] at hget
      obtain rfl := Option.some.inj hget
      have howed : s.Owed m e := ⟨hn, hwanted, hbefore⟩
      have haccounted := h.accounted m e howed
      have hwaiting : (s.sendOn m e channel rest).waiting m + total (·.due rest) s.eventTasks
          = s.waiting m + total (·.due (channel :: rest)) s.eventTasks := by
        show total _ (s.eventTasks.map _) + _ = total _ s.eventTasks + _
        rw [total_map, ← total_add, ← total_add]
        exact total_congr fun t ht => EventTask.waiting_onSend (hoverwritten t ht) rest
      have hmissing : total (fun p => p.2.due (channel :: rest)) s.rebuilding
          = total (fun p => p.2.due rest) s.rebuilding
            + total (fun p => if p.2 = .bus channel then 1 else 0) s.rebuilding := by
        rw [← total_add]
        refine total_congr fun p _ => ?_
        cases p.2 with
        | deviceInfo => rfl
        | bus other =>
          by_cases heq : channel = other
          · subst heq
            simp only [Source.due, List.count_cons_self, if_true]
          · have hne : other ≠ channel := fun h => heq h.symm
            simp only [Source.due, List.count_cons_of_ne heq, Source.bus.injEq, hne, if_false,
              Nat.add_zero]
      have hcopies : (s.sendOn m e channel rest).copies m rest
          + total (fun p => if p.2 = Source.bus channel then 1 else 0) s.rebuilding
          = s.copies m e.remaining := by
        rw [hremaining, copies, copies, hdue, due, due, hmissing]
        show s.forwarded m + _ + _ + _ = s.forwarded m + _ + _
        omega
      by_cases hgone : ∃ p ∈ s.rebuilding, p.2 = .bus channel
      · -- the receiver that is missing was the one it was due to
        obtain ⟨t, ht, habort, hsource⟩ := hgap howed hgone
        obtain ⟨p, hp, hbus⟩ := hgone
        obtain ⟨j, hj⟩ := List.getElem?_of_mem hp
        have hpos := total_eraseIdx (fun p : Topic × Source =>
          if p.2 = .bus channel then 1 else 0) hj
        rw [if_pos hbus] at hpos
        refine .inr ⟨?_, ?_⟩
        · show (s.sendOn m e channel rest).copies m rest = 0
          rcases haccounted with hone | ⟨hzero, -⟩
          · omega
          · omega
        · rcases hsource with hsource | hmem
          · exact ⟨_, List.mem_map_of_mem ht, EventTask.aborted_onSend.trans habort,
              EventTask.mem_onSend_self hsource⟩
          · exact haborted t ht habort hmem
      · have hnone : total (fun p => if p.2 = Source.bus channel then 1 else 0) s.rebuilding
            = 0 := total_eq_zero fun p hp => if_neg fun hbus => hgone ⟨p, hp, hbus⟩
        refine haccounted.of_copies ?_ haborted
        show (s.sendOn m e channel rest).copies m rest = s.copies m e.remaining
        omega
    · rw [List.getElem?_set_ne fun heq => hmn heq.symm] at hget
      have hwaiting : (s.sendOn n e channel rest).waiting m = s.waiting m := by
        show total _ (s.eventTasks.map _) = _
        rw [total_map]
        exact total_congr fun t ht => EventTask.waiting_onSend_ne (hoverwritten t ht) hmn
      refine (h.accounted m e' ⟨hget, hwanted, hbefore⟩).of_copies ?_ haborted
      rw [copies, copies, hdue, hwaiting]
      rfl

/-- A message of the client aborts the tasks. -/
theorem inv_rebuild (h : s.Inv) {topics : List Topic}
    (hsending : ∀ (n : Nat) (e : Published), s.published[n]? = some e → e.remaining ≠ [] →
      n ∉ s.overwritten → Wanted (e.keep topics) →
      s.forwarded n + total (fun p => p.2.due e.remaining) (plan topics) ≤ 1 ∧
        (s.forwarded n + total (fun p => p.2.due e.remaining) (plan topics) = 1 ∨
          ∃ t ∈ s.eventTasks, n ∈ t.pending)) :
    (s.rebuildEventTasks topics).Inv := by
  have hnone : ∀ f : EventTask → Nat, (∀ t, t.aborted = true → f t = 0) →
      total f (s.rebuildEventTasks topics).eventTasks = 0 := by
    intro f hf
    refine total_eq_zero fun t ht => ?_
    obtain ⟨old, -, rfl⟩ := List.mem_map.mp ht
    exact hf _ rfl
  have hdue : ∀ remaining, (s.rebuildEventTasks topics).due remaining
      = total (fun p => p.2.due remaining) (plan topics) := by
    intro remaining
    rw [due, hnone _ fun t ht => by rw [EventTask.due, ht, if_pos rfl], Nat.zero_add]
    rfl
  have hwaiting : ∀ n, (s.rebuildEventTasks topics).waiting n = 0 := fun n =>
    hnone _ fun t ht => by rw [EventTask.waiting, ht, if_pos rfl]
  have haborted : ∀ n, (∃ t ∈ s.eventTasks, n ∈ t.pending) →
      ∃ t ∈ (s.rebuildEventTasks topics).eventTasks, t.aborted = true ∧ n ∈ t.pending := by
    intro n ⟨t, ht, hmem⟩
    exact ⟨_, List.mem_map_of_mem ht, rfl, hmem⟩
  refine ⟨fun topic htopic => ?_, hdue, fun n hn => ?_, fun n e' howed => ?_⟩
  · unfold subscribed at htopic
    split at htopic
    · exact htopic
    · exact List.contains_iff_mem.mp (List.mem_filter.mp htopic).2
  · have hlen : (s.published.map (·.keep topics)).length ≤ n := hn
    rw [List.length_map] at hlen
    obtain ⟨hforwarded, hpending⟩ := h.fresh n hlen
    refine ⟨hforwarded, fun t ht => ?_⟩
    obtain ⟨old, hold, rfl⟩ := List.mem_map.mp ht
    exact hpending old hold
  · obtain ⟨hget, hwanted, hkept⟩ := howed
    have hget : (s.published.map (·.keep topics))[n]? = some e' := hget
    rw [List.getElem?_map, Option.map_eq_some_iff] at hget
    obtain ⟨e, he, rfl⟩ := hget
    have hcopies : (s.rebuildEventTasks topics).copies n e.remaining
        = s.forwarded n + total (fun p => p.2.due e.remaining) (plan topics) := by
      rw [copies, hwaiting, hdue]
      rfl
    by_cases hdone : e.remaining = []
    · -- it is in the queue already, or in the receiver of an aborted task
      obtain ⟨hkind, topic, htopic, hmatches⟩ := hwanted
      have hold : Wanted e := ⟨hkind, topic, (List.mem_filter.mp htopic).1, hmatches⟩
      have hplan : total (fun p => p.2.due e.remaining) (plan topics) = 0 := by
        refine total_eq_zero fun p _ => ?_
        rw [hdone]
        cases p.2 <;> rfl
      have hbefore : s.copies n e.remaining = s.forwarded n + s.waiting n := by
        rw [copies, hdone, due_nil]
        rfl
      rcases h.accounted n e ⟨he, hold, hkept⟩ with hone | ⟨hzero, t, ht, habort, hmem⟩
      · by_cases hpos : 0 < s.waiting n
        · obtain ⟨t, ht, hcount⟩ := exists_of_total_pos hpos
          have hmem : n ∈ t.pending := by
            unfold EventTask.waiting at hcount
            split at hcount
            · omega
            · exact List.count_pos_iff.mp hcount
          refine .inr ⟨?_, haborted n ⟨t, ht, hmem⟩⟩
          show (s.rebuildEventTasks topics).copies n e.remaining = 0
          omega
        · refine .inl ?_
          show (s.rebuildEventTasks topics).copies n e.remaining = 1
          omega
      · refine .inr ⟨?_, haborted n ⟨t, ht, hmem⟩⟩
        show (s.rebuildEventTasks topics).copies n e.remaining = 0
        omega
    · obtain ⟨hle, hcases⟩ := hsending n e he hdone hkept hwanted
      by_cases hone : s.forwarded n + total (fun p => p.2.due e.remaining) (plan topics) = 1
      · exact .inl (hcopies.trans hone)
      · rcases hcases with hcase | hmem
        · exact absurd hcase hone
        · refine .inr ⟨?_, haborted n hmem⟩
          show (s.rebuildEventTasks topics).copies n e.remaining = 0
          omega

theorem onTask_eq_some {f : EventTask → Option Socket} (h : s.onTask i f = some t) :
    ∃ task, s.eventTasks[i]? = some task ∧ f task = some t :=
  Option.bind_eq_some_iff.mp h

end

theorem inv_step {s t : Socket} {a : SocketEvent} (h : s.Inv) (hstep : s.step a = some t)
    (hG : s.Undisturbed a) : t.Inv := by
  cases a with
  | text msg =>
    simp only [step] at hstep
    split at hstep
    · cases msg with
      | none =>
        cases hstep
        exact h
      | some msg =>
        cases hstep
        exact inv_rebuild h hG
    · cases hstep
  | spawn =>
    simp only [step] at hstep
    split at hstep
    · rename_i topic source rest hrebuilding
      cases hstep
      exact inv_spawn h hrebuilding
    · cases hstep
  | publish kind =>
    cases hstep
    exact inv_publish h kind
  | send n =>
    obtain ⟨e, hn, hr⟩ := Option.bind_eq_some_iff.mp hstep
    split at hr
    · rename_i channel rest hremaining
      cases hr
      exact inv_send h hn hremaining fun howed => hG e channel rest howed hremaining
    · cases hr
  | recv i =>
    obtain ⟨task, hi, hr⟩ := onTask_eq_some hstep
    split at hr
    · rename_i hmissed
      split at hr
      · rename_i n rest hpending
        cases hr
        refine inv_forward h hi rfl rfl (fun m => ?_) fun habort m e hmsg howed => ?_
        · have hmsg : [BusMessage.event n].count (.event m) = [n].count m := by
            by_cases heq : n = m
            · rw [heq, List.count_singleton_self, List.count_singleton_self]
            · rw [List.count_singleton, List.count_singleton,
                if_neg fun h => heq (BusMessage.event.inj (beq_iff_eq.mp h)),
                if_neg fun h => heq (beq_iff_eq.mp h)]
          rw [hpending, count_cons_eq, hmsg]
        · cases hmsg
          exact hG task n rest e hi habort hmissed hpending howed
      · cases hr
    · cases hr
      refine inv_forward h hi rfl rfl (fun m => ?_) fun _ m e hmsg _ => ?_
      · exact (Nat.zero_add _).symm
      · cases hmsg
  | snapshot i =>
    obtain ⟨task, hi, hr⟩ := onTask_eq_some hstep
    split at hr
    · cases hr
      refine inv_queue h fun n heq => ?_
      cases heq
    · cases hr
  | drop i =>
    obtain ⟨task, hi, hr⟩ := onTask_eq_some hstep
    split at hr
    · rename_i habort
      cases hr
      exact inv_drop h hi habort fun n e hmem howed => hG task n e hi hmem howed
    · cases hr
  | deliver =>
    simp only [step] at hstep
    split at hstep
    · rename_i msg rest hqueue
      split at hstep
      · cases hstep
        exact inv_deliver h hqueue
      · cases hstep
    · cases hstep

theorem inv_reachable {s : Socket} (h : (system.restrict Undisturbed).Reachable s) : s.Inv := by
  refine TSys.invariant ?_ ?_ h
  · intro s hinit
    cases hinit
    have hplan : plan [] = [] := by
      simp [plan, normalizeTopics, dedup, planFrom]
    refine ⟨fun _ hmem => hmem, fun remaining => ?_, fun _ _ => ⟨rfl, fun _ ht => ?_⟩,
      fun n e howed => ?_⟩
    · rw [hplan]
      rfl
    · cases ht
    · cases howed.1
  · intro s a t hinv hstep
    exact inv_step hinv hstep.1 hstep.2

/-- **Exactly once.** An undisturbed run sends each wanted event to the client at most once, and
has sent it when no copy is left on the way. -/
theorem exactly_once {s : Socket} (h : (system.restrict Undisturbed).Reachable s) :
    s.ExactlyOnce := by
  intro n e hget hwanted hkept
  have haccounted := (inv_reachable h).accounted n e ⟨hget, hwanted, hkept⟩
  have hcopies : s.copies n e.remaining
      = s.queue.count (.event n) + s.sent.count (.event n) + s.waiting n + s.due e.remaining := rfl
  constructor
  · rcases haccounted with hone | ⟨hzero, -⟩
    · omega
    · omega
  · intro hdone
    obtain ⟨hsent, hrest⟩ := not_or.mp hdone
    obtain ⟨hqueue, hpending⟩ := not_or.mp hrest
    have hdue : s.due e.remaining = 0 := by
      rw [not_not.mp hsent]
      exact due_nil s
    have hwaiting : s.waiting n = 0 := by
      refine total_eq_zero fun t ht => ?_
      rw [EventTask.waiting, List.count_eq_zero.mpr fun hmem => hpending ⟨t, ht, hmem⟩, ite_self]
    rw [List.count_eq_zero.mpr hqueue] at hcopies
    rcases haccounted with hone | ⟨-, t, ht, -, hmem⟩
    · omega
    · exact absurd ⟨t, ht, hmem⟩ hpending

/-- A client that has just subscribed to the errors. -/
def errorClient : Socket where
  subscribedTopics := ["error".toList]
  rebuilding := [("error".toList, .bus (.exact "error".toList))]

/-- A client that is subscribed to the errors, and one comes. -/
theorem error_delivered : ∃ s, (system.restrict Undisturbed).Reachable s ∧
    s.sent = [.event 0] ∧ s.ExactlyOnce := by
  have hstart : (system.restrict Undisturbed).Reachable {} := .init rfl
  have htext := TSys.ofFn_restrict_step (t := errorClient) hstart
    (.text (some (.subscribe ["error".toList]))) (by decide +kernel) (by
      intro n e hget
      cases hget)
  have hspawn := TSys.ofFn_restrict_step htext .spawn rfl True.intro
  have hpublish := TSys.ofFn_restrict_step hspawn (.publish .error) rfl True.intro
  have hsend := TSys.ofFn_restrict_step hpublish (.send 0) rfl (by
    intro e channel rest _ _ hgone
    obtain ⟨p, hp, -⟩ := hgone
    cases hp)
  have hrecv := TSys.ofFn_restrict_step hsend (.recv 0) rfl (by
    intro task n rest e htask habort
    cases htask
    cases habort)
  have hdeliver := TSys.ofFn_restrict_step hrecv .deliver rfl True.intro
  exact ⟨_, hdeliver, rfl, exactly_once hdeliver⟩

/-- **A ping loses an event.** It waits in the receiver of the task that the ping aborts. -/
theorem ping_loses_event : ¬ ∀ s : Socket, system.Reachable s → s.ExactlyOnce := by
  intro halways
  have hrun : (([.text (some (.subscribe ["error".toList])), .spawn, .publish .error, .send 0,
      .send 0, .text (some .ping), .spawn, .drop 0] : List SocketEvent).foldlM step {}).any
      (fun s => decide (s.sent = [] ∧ s.queue = [] ∧ s.overwritten = [] ∧
        s.published = [{ kind := .error, remaining := [], kept := ["error".toList] }] ∧
        s.eventTasks.map (·.pending) = [[]])) := by
    decide +kernel
  obtain ⟨s, hs, hends⟩ := Option.any_eq_true _ _ |>.mp hrun
  obtain ⟨hsent, hqueue, hoverwritten, hpublished, htasks⟩ := of_decide_eq_true hends
  have honce := halways s (TSys.ofFn_reachable (.init rfl) hs) 0
    { kind := .error, remaining := [], kept := ["error".toList] }
    (by rw [hpublished]; rfl)
    ⟨by decide, "error".toList, List.mem_singleton_self _, .inr (.inl rfl)⟩
    (by rw [hoverwritten]; exact List.not_mem_nil)
  have hcount := honce.2 (by
    intro hflight
    rcases hflight with hflight | hflight | ⟨t, ht, hmem⟩
    · exact hflight rfl
    · rw [hqueue] at hflight
      cases hflight
    · have hpending : t.pending ∈ s.eventTasks.map (·.pending) := List.mem_map_of_mem ht
      rw [htasks, List.mem_singleton] at hpending
      rw [hpending] at hmem
      cases hmem)
  rw [hsent] at hcount
  cases hcount

end Socket

end StreamBox.Web
