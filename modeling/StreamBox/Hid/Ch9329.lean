import StreamBox.Hid.Backend
import StreamBox.Lib.TSys

/-!
# The CH9329 backend

The backend turns each event into serial commands and queues them; a worker thread
transfers them to the chip one by one.

* **Backend** — `process` changes the kept state first and then queues the report.
* **Worker** — a transfer that fails sends the worker into its reconnect loop,
  which throws away the commands it finds in the queue. A reply with an error code
  counts as a success.
* **Chip** — the chip holds the last keyboard report and mouse buttons it accepted.
-/

namespace StreamBox.Hid

open StreamBox.Lib

/-- A CH9329 command code with its data. -/
abbrev Packet := UInt8 × List UInt8

def SEND_KB_MEDIA_DATA : UInt8 := 0x03
def SEND_MS_ABS_DATA : UInt8 := 0x04
def SEND_MS_REL_DATA : UInt8 := 0x05

/-- CH9329 absolute mouse resolution. -/
def CH9329_MOUSE_RESOLUTION : UInt32 := 4096

/-- What the backend keeps between two events. -/
structure Ch9329Backend where
  keyboardState : KeyboardReport := .empty
  mouseButtons : UInt8 := 0
  lastAbsX : UInt16 := 0
  lastAbsY : UInt16 := 0
  relativeMouseActive : Bool := false
  deriving DecidableEq, Repr

namespace Ch9329Backend

def sendMouseRelative (buttons : UInt8) (dx dy wheel : Int8) : Packet :=
  (SEND_MS_REL_DATA, [0x01, buttons, dx.toUInt8, dy.toUInt8, wheel.toUInt8])

def sendMouseAbsolute (buttons : UInt8) (x y : UInt16) (wheel : Int8) : Packet :=
  (SEND_MS_ABS_DATA, [0x02, buttons, x.toUInt8, (x >>> 8).toUInt8, y.toUInt8, (y >>> 8).toUInt8,
    wheel.toUInt8])

def releaseMediaKeys : Packet := (SEND_KB_MEDIA_DATA, [0x02, 0x00, 0x00, 0x00])

/-- A mouse report where the pointer is. -/
def sendInPlace (s : Ch9329Backend) (buttons : UInt8) (wheel : Int8) : Packet :=
  if s.relativeMouseActive then sendMouseRelative buttons 0 0 wheel
  else sendMouseAbsolute buttons s.lastAbsX s.lastAbsY wheel

/-- From 0-32767 to the chip's 0-4095. -/
def absCoordinate (v : Int32) : UInt16 :=
  ((clampI32 v 0 32767).toUInt32 * CH9329_MOUSE_RESOLUTION / 32768).toUInt16

def sendMouse (s : Ch9329Backend) (event : MouseEvent) : Ch9329Backend × List Packet :=
  match event.eventType with
  | .move =>
      ({ s with relativeMouseActive := true },
        [sendMouseRelative s.mouseButtons (clampI32 event.x (-127) 127).toInt8
          (clampI32 event.y (-127) 127).toInt8 0])
  | .moveAbs =>
      let x := absCoordinate event.x
      let y := absCoordinate event.y
      ({ s with relativeMouseActive := false, lastAbsX := x, lastAbsY := y },
        [sendMouseAbsolute s.mouseButtons x y 0])
  | .down =>
      match event.button with
      | some button =>
          let s := { s with mouseButtons := s.mouseButtons ||| button.toHidBit }
          (s, [s.sendInPlace s.mouseButtons 0])
      | none => (s, [])
  | .up =>
      match event.button with
      | some button =>
          let s := { s with mouseButtons := s.mouseButtons &&& ~~~button.toHidBit }
          (s, [s.sendInPlace s.mouseButtons 0])
      | none => (s, [])
  | .scroll => (s, [s.sendInPlace s.mouseButtons event.scroll])

/-- Queue the packets, if there is a worker to take them. -/
def enqueue (running : Bool) (packets : List Packet) : List Packet × Bool :=
  if running then (packets, true) else ([], packets.isEmpty)

/-- `process_hid_event` on this backend: the state kept, the packets queued and
whether the call returns `Ok`. -/
def process (running : Bool) (s : Ch9329Backend) :
    HidEvent → Ch9329Backend × List Packet × Bool
  | .keyboard event =>
      let (state, packet) := sendKeyboard s.keyboardState event
      ({ s with keyboardState := state }, enqueue running [packet])
  | .mouse event =>
      let (s, packets) := s.sendMouse event
      (s, enqueue running packets)
  | .consumer _ => (s, [], false)
  | .reset =>
      let s := { s with keyboardState := s.keyboardState.clear }
      if running then
        ({ s with mouseButtons := 0, lastAbsX := 0, lastAbsY := 0, relativeMouseActive := false },
          [sendKeyboardReport s.keyboardState, sendMouseAbsolute 0 0 0 0, releaseMediaKeys], true)
      else (s, [], false)

/-- What the backend keeps of keys and buttons. -/
def held (s : Ch9329Backend) : Held := { keyboard := s.keyboardState, buttons := s.mouseButtons }

end Ch9329Backend

/-- The chip accepts a command. -/
def Target.accept (t : Target) (packet : Packet) : Target :=
  if packet.1 = SEND_KB_GENERAL_DATA then { t with keyboard := packet.2 }
  else if packet.1 = SEND_MS_ABS_DATA ∨ packet.1 = SEND_MS_REL_DATA then
    { t with buttons := packet.2.getD 1 0 }
  else t

/-- The chip accepts commands in order. -/
def Target.catchUp (t : Target) (packets : List Packet) : Target := packets.foldl Target.accept t

namespace Ch9329Backend

theorem process_held (s : Ch9329Backend) (event : HidEvent) :
    (s.process true event).1.held = s.held.apply event := by
  cases event with
  | keyboard event =>
    simp [process, sendKeyboard, held, Held.apply, sendKeyboardWith_fst _ id]
  | mouse event =>
    obtain ⟨eventType, x, y, button, scroll⟩ := event
    cases eventType <;> cases button <;> rfl
  | consumer event => rfl
  | reset => rfl

/-- A mouse report carries the buttons. -/
theorem accept_sendInPlace (s : Ch9329Backend) (t : Target) (buttons : UInt8) (wheel : Int8) :
    t.accept (s.sendInPlace buttons wheel) = { t with buttons := buttons } := by
  unfold sendInPlace
  split <;> rfl

/-- The packets of an event bring a chip that shows what the backend kept before
the event to what it keeps after it. -/
theorem catchUp_process {s : Ch9329Backend} {t : Target} (event : HidEvent)
    (h : t.Shows s.held) :
    (t.catchUp (s.process true event).2.1).Shows (s.process true event).1.held := by
  obtain ⟨hkeyboard, hbuttons⟩ := h
  cases event with
  | keyboard event =>
    have hpacket : (sendKeyboard s.keyboardState event).2 =
        sendKeyboardReport (sendKeyboard s.keyboardState event).1 := sendKeyboardWith_snd _ _ _
    simp only [process, enqueue, ite_true, Target.catchUp, List.foldl_cons, List.foldl_nil, hpacket]
    exact ⟨rfl, hbuttons⟩
  | mouse event =>
    obtain ⟨eventType, x, y, button, scroll⟩ := event
    cases eventType with
    | move => exact ⟨hkeyboard, rfl⟩
    | moveAbs => exact ⟨hkeyboard, rfl⟩
    | down =>
      cases button with
      | none => exact ⟨hkeyboard, hbuttons⟩
      | some button =>
        simp only [process, sendMouse, enqueue, ite_true, Target.catchUp, List.foldl_cons,
          List.foldl_nil, accept_sendInPlace]
        exact ⟨hkeyboard, rfl⟩
    | up =>
      cases button with
      | none => exact ⟨hkeyboard, hbuttons⟩
      | some button =>
        simp only [process, sendMouse, enqueue, ite_true, Target.catchUp, List.foldl_cons,
          List.foldl_nil, accept_sendInPlace]
        exact ⟨hkeyboard, rfl⟩
    | scroll =>
      simp only [process, sendMouse, enqueue, ite_true, Target.catchUp, List.foldl_cons,
        List.foldl_nil, accept_sendInPlace]
      exact ⟨hkeyboard, rfl⟩
  | consumer event => exact ⟨hkeyboard, hbuttons⟩
  | reset => exact ⟨rfl, rfl⟩

end Ch9329Backend

/-! ## The worker -/

namespace Ch9329

inductive WorkerCommand
  | packet (packet : Packet)
  | resetState
  | shutdown
  deriving DecidableEq, Repr

/-- The packets of `ResetState`. -/
def resetSequence : List Packet :=
  [(SEND_KB_GENERAL_DATA, [0, 0, 0, 0, 0, 0, 0, 0]), (SEND_MS_ABS_DATA, [0x02, 0, 0, 0, 0, 0, 0]),
    (SEND_KB_MEDIA_DATA, [0x02, 0x00, 0x00, 0x00])]

def WorkerCommand.packets : WorkerCommand → List Packet
  | .packet p => [p]
  | .resetState => resetSequence
  | .shutdown => []

inductive Worker
  /-- Waiting for a command. -/
  | receiving
  /-- Transferring the packets of a command. -/
  | transferring (packets : List Packet)
  /-- Asking for the chip information after an idle interval. -/
  | probing
  /-- In `worker_reconnect_loop`, waiting before the next attempt. -/
  | reconnecting
  /-- In `worker_reconnect_loop`, opening the port. -/
  | opening
  | stopped
  deriving DecidableEq, Repr

/-- The packets the worker has taken from the queue. -/
def Worker.inHand : Worker → List Packet
  | .transferring packets => packets
  | _ => []

structure State where
  backend : Ch9329Backend := {}
  /-- `worker_tx` is set. -/
  connected : Bool := true
  queue : List WorkerCommand := []
  worker : Worker := .receiving
  initialized : Bool := true
  online : Bool := true
  /-- The last send returned `Ok`. -/
  lastOk : Bool := true
  target : Target := {}
  deriving DecidableEq, Repr

/-- How the chip answers a packet. -/
inductive Reply
  | success
  /-- A reply with an error code; the worker takes it for a success. -/
  | errorResponse
  /-- No write, no read or no reply in time; then the chip may get the best-effort
  reset command. -/
  | failed (reset : Bool)
  deriving DecidableEq, Repr

inductive Event
  | send (event : HidEvent)
  | shutdown
  /-- The worker takes a command. -/
  | receive
  /-- The interval without a command passes. -/
  | idle
  /-- The next packet goes over the wire; `accepted` says what the chip did with it. -/
  | transfer (accepted : Bool) (reply : Reply)
  /-- The answer to the idle question; without one the chip may get the reset command. -/
  | probe (ok reset : Bool)
  /-- The reconnect loop opens the port and reads the chip information. -/
  | reopen (ok : Bool)
  deriving DecidableEq, Repr

/-- The chip after the reset command. -/
def Target.afterReset (t : Target) (reset : Bool) : Target := if reset then {} else t

/-- The chip after a packet and its reply. -/
def Target.afterTransfer (t : Target) (packet : Packet) (accepted : Bool) (reply : Reply) : Target :=
  let t := if accepted then t.accept packet else t
  match reply with
  | .failed reset => Target.afterReset t reset
  | _ => t

/-- The worker's next command in `worker_loop`. -/
def State.take (s : State) (command : WorkerCommand) (queue : List WorkerCommand) : State :=
  match command with
  | .shutdown => { s with queue, worker := .stopped, online := false, initialized := false }
  | command => { s with queue, worker := .transferring command.packets }

def step (s : State) : Event → Option State
  | .send event =>
      let running := s.connected && s.worker ≠ .stopped
      let (backend, packets, ok) := s.backend.process running event
      some { s with
        backend
        queue := s.queue ++ packets.map .packet
        lastOk := ok
        -- `enqueue_command` records the error
        online := s.online && running }
  | .shutdown =>
      if s.connected && s.worker ≠ .stopped then
        some { s with connected := false, queue := s.queue ++ [.resetState, .shutdown] }
      else some { s with connected := false, online := false }
  | .receive =>
      match s.worker, s.queue with
      | .receiving, command :: queue => some (s.take command queue)
      -- only `Shutdown` ends the reconnect loop, any other command is dropped
      | .reconnecting, .shutdown :: queue => some (s.take .shutdown queue)
      | .reconnecting, _ :: queue => some { s with queue }
      | _, _ => none
  | .idle =>
      match s.worker, s.queue with
      | .receiving, [] => some { s with worker := .probing }
      | .reconnecting, [] => some { s with worker := .opening }
      | _, _ => none
  | .transfer accepted reply =>
      match s.worker with
      | .transferring (packet :: packets) =>
          let s := { s with target := Target.afterTransfer s.target packet accepted reply }
          match reply with
          | .failed _ => some { s with worker := .reconnecting, online := false }
          | _ =>
              if packets.isEmpty then some { s with worker := .receiving, online := true }
              else some { s with worker := .transferring packets }
      | _ => none
  | .probe ok reset =>
      match s.worker with
      | .probing =>
          if ok then some { s with worker := .receiving, online := true }
          else some { s with
            worker := .reconnecting, online := false, target := Target.afterReset s.target reset }
      | _ => none
  | .reopen ok =>
      match s.worker with
      | .opening =>
          if ok then some { s with worker := .receiving, online := true }
          else some { s with worker := .reconnecting, online := false }
      | _ => none

/-- The backend with its worker and its chip, from the end of `init`. -/
def system : TSys State Event := .ofFn (· = {}) step

/-! ## What the chip will have -/

/-- `runtime_snapshot().online`. -/
def State.reportsOnline (s : State) (portExists : Bool) : Bool :=
  s.initialized && s.online && portExists

/-- Whenever the backend reports online, nothing is queued and the last send
returned `Ok`, the chip has what the backend keeps. -/
def Agrees (s : State) : Prop :=
  ∀ portExists, s.reportsOnline portExists = true → s.queue = [] → s.worker.inHand = [] →
    s.lastOk = true → s.target.Shows s.backend.held

/-- The packets still queued. -/
def State.queued (s : State) : List Packet := s.queue.flatMap WorkerCommand.packets

/-- The packets on their way after a reply to the first of `packets`; a failed one
takes the rest of its command with it. -/
def Reply.rest (reply : Reply) (packets : List Packet) : List Packet :=
  match reply with
  | .failed _ => []
  | _ => packets

/-- A packet is lost (refused by the chip, failed on the wire, dropped by the
reconnect loop or undone by the reset command) only where what is still queued
brings the chip to the same state. -/
def Kept (s : State) (e : Event) : Prop :=
  .shutdown ∉ s.queue →
    match e, s.worker, s.queue with
    | .transfer accepted reply, .transferring (packet :: packets), _ =>
        (Target.afterTransfer s.target packet accepted reply).catchUp
          (reply.rest packets ++ s.queued) = s.target.catchUp (packet :: packets ++ s.queued)
    | .probe false reset, .probing, _ =>
        (Target.afterReset s.target reset).catchUp s.queued = s.target.catchUp s.queued
    | .receive, .reconnecting, _ :: queue =>
        s.target.catchUp (queue.flatMap WorkerCommand.packets) = s.target.catchUp s.queued
    | _, _, _ => True

/-- The chip once it accepted everything on its way. -/
def State.settled (s : State) : Target := s.target.catchUp (s.worker.inHand ++ s.queued)

/-- The chip is on its way to what the backend keeps, or the backend is being
shut down. -/
def OnTheWay (s : State) : Prop :=
  (s.worker = .stopped ∧ s.online = false) ∨ .shutdown ∈ s.queue ∨
    (s.connected = true ∧ s.worker ≠ .stopped ∧ s.settled.Shows s.backend.held)

theorem agrees_of_onTheWay {s : State} (h : OnTheWay s) : Agrees s := by
  intro portExists honline hqueue hhand hok
  rcases h with ⟨-, hoffline⟩ | hshutdown | ⟨-, -, hshows⟩
  · simp [State.reportsOnline, hoffline] at honline
  · simp [hqueue] at hshutdown
  · simpa [State.settled, State.queued, hqueue, hhand, Target.catchUp] using hshows

theorem catchUp_append (t : Target) (packets packets' : List Packet) :
    t.catchUp (packets ++ packets') = (t.catchUp packets).catchUp packets' :=
  List.foldl_append ..

theorem onTheWay_send {s s' : State} {event : HidEvent} (h : OnTheWay s)
    (hstep : step s (.send event) = some s') : OnTheWay s' := by
  cases hstep
  rcases h with ⟨hstopped, hoffline⟩ | hshutdown | ⟨hconnected, hworker, hshows⟩
  · exact .inl ⟨hstopped, by simp [hoffline]⟩
  · exact .inr (.inl (List.mem_append_left _ hshutdown))
  · refine .inr (.inr ⟨hconnected, hworker, ?_⟩)
    have hrunning : (s.connected && decide (s.worker ≠ .stopped)) = true := by
      simp [hconnected, hworker]
    have hpackets : ∀ packets : List Packet,
        (packets.map WorkerCommand.packet).flatMap WorkerCommand.packets = packets := by
      intro packets
      induction packets with
      | nil => rfl
      | cons p packets ih => simpa [WorkerCommand.packets] using ih
    simp only [hrunning, State.settled, State.queued, List.flatMap_append, hpackets]
    rw [← List.append_assoc, catchUp_append]
    exact Ch9329Backend.catchUp_process event hshows

theorem onTheWay_receive {s s' : State} (h : OnTheWay s) (hstep : step s .receive = some s')
    (hkept : Kept s .receive) : OnTheWay s' := by
  simp only [step] at hstep
  split at hstep <;> cases hstep
  · -- the worker loop
    rename_i command queue hworker hqueue
    rcases h with ⟨hstopped, -⟩ | hshutdown | ⟨hconnected, -, hshows⟩
    · simp [hworker] at hstopped
    · rw [hqueue] at hshutdown
      cases command with
      | shutdown => exact .inl ⟨rfl, rfl⟩
      | packet p => exact .inr (.inl (by simpa [State.take] using hshutdown))
      | resetState => exact .inr (.inl (by simpa [State.take] using hshutdown))
    · simp only [State.settled, State.queued, hworker, hqueue, Worker.inHand, List.nil_append,
        List.flatMap_cons] at hshows
      cases command with
      | shutdown => exact .inl ⟨rfl, rfl⟩
      | packet p => exact .inr (.inr ⟨hconnected, by simp [State.take], hshows⟩)
      | resetState => exact .inr (.inr ⟨hconnected, by simp [State.take], hshows⟩)
  · exact .inl ⟨rfl, rfl⟩
  · -- the reconnect loop drops a command
    rename_i command queue hcommand hworker hqueue
    have hstay : WorkerCommand.shutdown ∈ s.queue → WorkerCommand.shutdown ∈ queue := by
      rw [hqueue]
      intro hshutdown
      rcases List.mem_cons.mp hshutdown with heq | hmem
      · exact absurd heq.symm hcommand
      · exact hmem
    by_cases hshutdown : WorkerCommand.shutdown ∈ s.queue
    · exact .inr (.inl (hstay hshutdown))
    · rcases h with ⟨hstopped, -⟩ | hmem | ⟨hconnected, -, hshows⟩
      · simp [hworker] at hstopped
      · exact absurd hmem hshutdown
      · refine .inr (.inr ⟨hconnected, by simp [hworker], ?_⟩)
        have hsame := hkept hshutdown
        simp only [hworker, hqueue] at hsame
        simp only [State.settled, hworker, Worker.inHand, List.nil_append] at hshows ⊢
        rw [← hsame] at hshows
        exact hshows

/-- A step of a live worker that leaves the queue as it is. -/
theorem onTheWay_move {s s' : State} (h : OnTheWay s) (hlive : s.worker ≠ .stopped)
    (hlive' : s'.worker ≠ .stopped) (hqueue : s'.queue = s.queue)
    (hbackend : s'.backend = s.backend) (hconnected : s'.connected = s.connected)
    (hsettled : .shutdown ∉ s.queue → s'.settled = s.settled) : OnTheWay s' := by
  by_cases hshutdown : WorkerCommand.shutdown ∈ s.queue
  · exact .inr (.inl (hqueue ▸ hshutdown))
  · rcases h with ⟨hstopped, -⟩ | hmem | ⟨hopen, -, hshows⟩
    · exact absurd hstopped hlive
    · exact absurd hmem hshutdown
    · refine .inr (.inr ⟨hconnected ▸ hopen, hlive', ?_⟩)
      rw [hsettled hshutdown, hbackend]
      exact hshows

theorem onTheWay_transfer {s s' : State} {accepted : Bool} {reply : Reply} (h : OnTheWay s)
    (hstep : step s (.transfer accepted reply) = some s')
    (hkept : Kept s (.transfer accepted reply)) : OnTheWay s' := by
  simp only [step] at hstep
  split at hstep
  rotate_left
  · cases hstep
  rename_i packet packets hworker
  simp only [Kept, hworker] at hkept
  have hsettled : s.settled = s.target.catchUp (packet :: packets ++ s.queued) := by
    simp only [State.settled, hworker, Worker.inHand]
  split at hstep
  · cases hstep
    refine onTheWay_move h (by simp [hworker]) (by simp) rfl rfl rfl fun hshutdown => ?_
    rw [hsettled]
    exact hkept hshutdown
  · rename_i hreply
    have hrest : reply.rest packets = packets := by
      unfold Reply.rest
      split
      · exact absurd rfl (hreply _)
      · rfl
    rw [hrest] at hkept
    split at hstep
    · rename_i hempty
      rw [List.isEmpty_iff.mp hempty] at hkept hsettled
      cases hstep
      refine onTheWay_move h (by simp [hworker]) (by simp) rfl rfl rfl fun hshutdown => ?_
      rw [hsettled]
      exact hkept hshutdown
    · cases hstep
      refine onTheWay_move h (by simp [hworker]) (by simp) rfl rfl rfl fun hshutdown => ?_
      rw [hsettled]
      exact hkept hshutdown

theorem onTheWay_step {s s' : State} {e : Event} (h : OnTheWay s) (hstep : step s e = some s')
    (hkept : Kept s e) : OnTheWay s' := by
  cases e with
  | send event => exact onTheWay_send h hstep
  | receive => exact onTheWay_receive h hstep hkept
  | transfer accepted reply => exact onTheWay_transfer h hstep hkept
  | shutdown =>
    simp only [step] at hstep
    split at hstep <;> cases hstep
    · exact .inr (.inl (by simp))
    · rename_i hrunning
      rcases h with ⟨hstopped, -⟩ | hshutdown | ⟨hconnected, hworker, -⟩
      · exact .inl ⟨hstopped, rfl⟩
      · exact .inr (.inl hshutdown)
      · simp [hconnected, hworker] at hrunning
  | idle =>
    simp only [step] at hstep
    split at hstep <;> cases hstep <;> rename_i hworker hqueue
    all_goals
      refine onTheWay_move h (by simp [hworker]) (by simp) rfl rfl rfl fun _ => ?_
      simp only [State.settled, hworker]
      rfl
  | probe ok reset =>
    simp only [step] at hstep
    split at hstep
    rotate_left
    · cases hstep
    rename_i hworker
    simp only [Kept, hworker] at hkept
    cases ok with
    | true =>
      cases hstep
      refine onTheWay_move h (by simp [hworker]) (by simp) rfl rfl rfl fun _ => ?_
      simp only [State.settled, hworker]
      rfl
    | false =>
      cases hstep
      refine onTheWay_move h (by simp [hworker]) (by simp) rfl rfl rfl fun hshutdown => ?_
      simp only [State.settled, hworker]
      exact hkept hshutdown
  | reopen ok =>
    simp only [step] at hstep
    split at hstep
    rotate_left
    · cases hstep
    rename_i hworker
    cases ok <;> cases hstep
    all_goals
      refine onTheWay_move h (by simp [hworker]) (by simp) rfl rfl rfl fun _ => ?_
      simp only [State.settled, hworker]
      rfl

/-- In every run in which no packet is lost for good the chip follows the
backend. -/
theorem agrees_of_kept {s : State} (hrun : (system.restrict Kept).Reachable s) : Agrees s := by
  refine agrees_of_onTheWay (TSys.invariant (I := OnTheWay) ?_ ?_ hrun)
  · rintro s rfl
    exact .inr (.inr ⟨rfl, by simp, rfl, rfl⟩)
  · rintro s e s' hs ⟨hstep, hkept⟩
    exact onTheWay_step hs hstep hkept

end Ch9329
end StreamBox.Hid
