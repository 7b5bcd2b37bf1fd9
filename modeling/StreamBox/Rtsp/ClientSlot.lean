import StreamBox.Lib.Slots
import StreamBox.Lib.TSys
import StreamBox.Rtsp.Framing

/-!
# The client slot

`RtspService`: the accept loop, the tasks of the clients, and the slot that admits one of them.
A step of a task is what it does from one `await` to the next. A task that is aborted while it
runs gets to its next `await`, and no further.
-/

namespace StreamBox.Rtsp

open StreamBox.Lib

abbrev SocketAddr := Nat × UInt16

/-- Where the task of a client is: before it reads the configuration, before it looks at the
slot, in its loops, before it gives the slot back. -/
inductive Stage
  | spawned
  | ready
  | serving (conn : Conn)
  | leaving
  | ended
  deriving DecidableEq

def Stage.conn : Stage → Option Conn
  | .serving conn => some conn
  | _ => none

structure Handler where
  peer : SocketAddr
  stage : Stage := .spawned
  /-- `allow_one_client`, as the task read it. -/
  usesSlot : Bool := false
  /-- Whether its handle is in `client_handles`. -/
  listed : Bool := false
  aborted : Bool := false
  deriving DecidableEq

inductive Accepting
  | no | running | aborted
  deriving DecidableEq, Repr

/-- How far a call of `stop` has come: it aborts the accept loop, then the tasks in
`client_handles`, then it clears the slot. -/
inductive Stopping
  | idle | begun | drained
  deriving DecidableEq, Repr

structure Service where
  allowOneClient : Bool := true
  activeClient : Option SocketAddr := none
  handlers : List Handler := []
  accepting : Accepting := .no
  stopping : Stopping := .idle
  /-- A client has been refused for one that is not served. -/
  wronglyRefused : Bool := false
  deriving DecidableEq

namespace Handler

/-- The task serves its client, and uses the slot. -/
def holds (h : Handler) : Bool :=
  h.usesSlot && !h.aborted &&
    match h.stage with
    | .serving _ | .leaving => true
    | _ => false

/-- The task has come to its next `await`. -/
def moved (h : Handler) (stage : Stage) : Handler :=
  { h with stage := if h.aborted then .ended else stage }

def abort (h : Handler) : Handler :=
  if h.listed then { h with aborted := true } else h

end Handler

namespace Service

inductive Action
  | configure (allowOneClient : Bool)
  | start
  | accept (peer : SocketAddr)
  /-- The accept loop puts the handle of a task into `client_handles`. -/
  | list (i : Nat)
  | readConfig (i : Nat)
  /-- With the session and the socket the connection then has. -/
  | takeSlot (i : Nat) (sessionId : String) (writesLeft : Option Nat)
  /-- Under the configuration the task has read. -/
  | event (i : Nat) (env : Env) (e : Event)
  | freeSlot (i : Nat)
  /-- The runtime drops an aborted task. -/
  | drop (i : Nat)
  | stopServer
  | stopClients
  | stopSlot

def put (s : Service) (i : Nat) (h : Handler) : Service :=
  { s with handlers := s.handlers.set i h }

/-- Whether a task serves the client of this address. -/
def serves (s : Service) (peer : SocketAddr) : Bool :=
  s.handlers.any fun h => h.holds && h.peer = peer

/-- The task looks at the slot under its lock. A client that is refused keeps the lock until the
reply is written, so that nothing else happens to the slot before. -/
def takeSlot (s : Service) (i : Nat) (h : Handler) (conn : Conn) : Service :=
  let admitted := s.put i (h.moved (.serving conn))
  if h.usesSlot then
    match s.activeClient with
    | some active =>
      if active ≠ h.peer then
        { s.put i { h with stage := .ended } with
          wronglyRefused := s.wronglyRefused || !s.serves active }
      else admitted
    | none => { admitted with activeClient := some h.peer }
  else admitted

def freeSlot (s : Service) (i : Nat) (h : Handler) : Service :=
  let left := s.put i { h with stage := .ended }
  if h.usesSlot && s.activeClient = some h.peer then { left with activeClient := none } else left

/-- Where a task is after an event of its connection. -/
def afterEvent (conn : Conn) : Stage :=
  match conn.phase with
  | .returned => .leaving
  | .failed => .ended
  | _ => .serving conn

/-- A step of the task at `i`, if it is where `f` asks for it. -/
def onHandler (s : Service) (i : Nat) (f : Handler → Option Service) : Option Service :=
  s.handlers[i]?.bind f

def step (s : Service) : Action → Option Service
  | .configure allowOneClient => some { s with allowOneClient := allowOneClient }
  | .start =>
    if s.stopping = .idle ∧ s.accepting ≠ .running then some { s with accepting := .running }
    else none
  | .accept peer =>
    if s.accepting = .no then none
    else
      some { s with
        handlers := s.handlers ++ [{ peer := peer }]
        accepting := if s.accepting = .running then .running else .no }
  | .list i => s.onHandler i fun h =>
    if h.listed then none else some (s.put i { h with listed := true })
  | .readConfig i => s.onHandler i fun h =>
    if h.stage = .spawned then
      some (s.put i { h.moved .ready with usesSlot := s.allowOneClient })
    else none
  | .takeSlot i sessionId writesLeft => s.onHandler i fun h =>
    if h.stage = .ready then
      some (s.takeSlot i h { state := { sessionId := sessionId }, writesLeft := writesLeft })
    else none
  | .event i env e => s.onHandler i fun h =>
    match h.stage with
    | .serving conn => some (s.put i (h.moved (afterEvent (conn.onEvent env e))))
    | _ => none
  | .freeSlot i => s.onHandler i fun h =>
    if h.stage = .leaving then some (s.freeSlot i h) else none
  | .drop i => s.onHandler i fun h =>
    if h.aborted then some (s.put i { h with stage := .ended }) else none
  | .stopServer =>
    if s.stopping = .idle then
      some { s with
        stopping := .begun
        accepting := if s.accepting = .running then .aborted else s.accepting }
    else none
  | .stopClients =>
    if s.stopping = .begun then
      some { s with stopping := .drained, handlers := s.handlers.map Handler.abort }
    else none
  | .stopSlot =>
    if s.stopping = .drained then some { s with stopping := .idle, activeClient := none }
    else none

def system : TSys Service Action := .ofFn (· = {}) step

/-- The slot is that of the one client that is served, and nobody has been refused for another.
Between aborting the tasks and clearing the slot, `stop` is still ending the one it is of. -/
def SlotExact (s : Service) : Prop :=
  s.wronglyRefused = false ∧
    (s.stopping ≠ .drained →
      (∀ peer, s.activeClient = some peer ↔ ∃ h ∈ s.handlers, h.holds = true ∧ h.peer = peer) ∧
      ∀ (i j : Nat) (h h' : Handler), s.handlers[i]? = some h → s.handlers[j]? = some h' →
        h.holds = true → h'.holds = true → i = j)

/-- No task that has the slot ends by an error; no client comes from an address a task is still
there for; no task takes the slot after `stop` has aborted it, or has aborted the others; and
`stop` has the handle of the task it takes the slot from. -/
def Orderly (s : Service) : Action → Prop
  | .accept peer => ∀ h ∈ s.handlers, h.stage ≠ .ended → h.peer ≠ peer
  | .takeSlot i _ _ => ∀ h ∈ s.handlers[i]?, h.usesSlot = true →
      h.aborted = false ∧ s.stopping ≠ .drained
  | .event i env e => ∀ h ∈ s.handlers[i]?, h.holds = true →
      ∀ conn ∈ h.stage.conn, (conn.onEvent env e).phase ≠ .failed
  | .stopClients => ∀ h ∈ s.handlers, h.holds = true → h.listed = true
  | _ => True

instance (s : Service) (a : Action) : Decidable (Orderly s a) := by
  unfold Orderly
  split <;> infer_instance

/-! ## One step -/

/-- A task of this address serves its client. -/
def Serves (s : Service) (peer : SocketAddr) : Prop :=
  ∃ (i : Nat) (h : Handler), s.handlers[i]? = some h ∧ h.holds = true ∧ h.peer = peer

theorem serves_iff {s : Service} {peer : SocketAddr} : s.serves peer = true ↔ s.Serves peer := by
  unfold serves Serves
  simp only [List.any_eq_true, List.mem_iff_getElem?, Bool.and_eq_true, decide_eq_true_eq]
  constructor
  · rintro ⟨h, ⟨i, hi⟩, hholds, hpeer⟩
    exact ⟨i, h, hi, hholds, hpeer⟩
  · rintro ⟨i, h, hi, hholds, hpeer⟩
    exact ⟨h, ⟨i, hi⟩, hholds, hpeer⟩

structure Inv (s : Service) : Prop where
  notRefused : s.wronglyRefused = false
  slot : s.stopping ≠ .drained → ∀ peer, s.activeClient = some peer ↔ s.Serves peer
  drained : s.stopping = .drained → ∀ peer, ¬ s.Serves peer
  peers : ∀ (i j : Nat) (h h' : Handler), s.handlers[i]? = some h → s.handlers[j]? = some h' →
    h.stage ≠ .ended → h'.stage ≠ .ended → h.peer = h'.peer → i = j

theorem holds_not_ended {h : Handler} (hholds : h.holds = true) : h.stage ≠ .ended := by
  intro hended
  unfold Handler.holds at hholds
  rw [hended] at hholds
  simp at hholds

theorem holds_of_stage {h : Handler} (hholds : h.holds = true) :
    h.usesSlot = true ∧ h.aborted = false := by
  unfold Handler.holds at hholds
  simp only [Bool.and_eq_true, Bool.not_eq_true'] at hholds
  exact hholds.1

/-- One client is served at a time. -/
theorem Inv.serves_unique {s : Service} (h : Inv s) {peer peer' : SocketAddr}
    (hs : s.Serves peer) (hs' : s.Serves peer') : peer = peer' := by
  by_cases hd : s.stopping = .drained
  · exact absurd hs (h.drained hd peer)
  · have heq := (h.slot hd peer).mpr hs
    rw [(h.slot hd peer').mpr hs'] at heq
    exact (Option.some.inj heq).symm

theorem Inv.exact {s : Service} (h : Inv s) : SlotExact s := by
  refine ⟨h.notRefused, fun hd => ⟨fun peer => ?_, ?_⟩⟩
  · rw [h.slot hd peer]
    unfold Serves
    simp only [List.mem_iff_getElem?]
    constructor
    · rintro ⟨i, x, hx, hrest⟩
      exact ⟨x, ⟨i, hx⟩, hrest⟩
    · rintro ⟨x, ⟨i, hx⟩, hrest⟩
      exact ⟨i, x, hx, hrest⟩
  · intro i j x y hx hy hhx hhy
    have hpeer := h.serves_unique ⟨i, x, hx, hhx, rfl⟩ ⟨j, y, hy, hhy, rfl⟩
    exact h.peers i j x y hx hy (holds_not_ended hhx) (holds_not_ended hhy) hpeer

/-- What becomes of one task, with its slot. -/
theorem serves_put {s : Service} {i : Nat} {h h' : Handler} (hi : s.handlers[i]? = some h)
    {slot : Option SocketAddr} {peer : SocketAddr} :
    ({ s.put i h' with activeClient := slot } : Service).Serves peer ↔
      (h'.holds = true ∧ h'.peer = peer) ∨
        ∃ (j : Nat) (x : Handler), j ≠ i ∧ s.handlers[j]? = some x ∧ x.holds = true ∧
          x.peer = peer := by
  unfold Serves put
  constructor
  · rintro ⟨j, x, hx, hholds, hpeer⟩
    rcases getElem?_set_cases hx with ⟨-, rfl⟩ | ⟨hji, hx⟩
    · exact Or.inl ⟨hholds, hpeer⟩
    · exact Or.inr ⟨j, x, hji, hx, hholds, hpeer⟩
  · rintro (⟨hholds, hpeer⟩ | ⟨j, x, hji, hx, hholds, hpeer⟩)
    · exact ⟨i, h', getElem?_set_changed hi h', hholds, hpeer⟩
    · exact ⟨j, x, getElem?_set_kept hx hji, hholds, hpeer⟩

theorem peers_put {s : Service} {i : Nat} {h h' : Handler} (hs : Inv s)
    (hi : s.handlers[i]? = some h) (hpeer : h'.peer = h.peer)
    (hstage : h'.stage ≠ .ended → h.stage ≠ .ended) :
    ∀ (j k : Nat) (x y : Handler), (s.put i h').handlers[j]? = some x →
      (s.put i h').handlers[k]? = some y → x.stage ≠ .ended → y.stage ≠ .ended →
      x.peer = y.peer → j = k := by
  have hlt : i < s.handlers.length := (List.getElem?_eq_some_iff.mp hi).1
  have hold : ∀ (j : Nat) (x : Handler), (s.put i h').handlers[j]? = some x →
      x.stage ≠ .ended → ∃ x₀ : Handler, s.handlers[j]? = some x₀ ∧ x₀.stage ≠ .ended ∧
        x₀.peer = x.peer := by
    intro j x hx hlive
    rcases getElem?_set_cases hx with ⟨rfl, rfl⟩ | ⟨-, hx⟩
    · exact ⟨h, hi, hstage hlive, hpeer.symm⟩
    · exact ⟨x, hx, hlive, rfl⟩
  intro j k x y hx hy hxl hyl hxy
  obtain ⟨x₀, hx₀, hxl₀, hxp⟩ := hold j x hx hxl
  obtain ⟨y₀, hy₀, hyl₀, hyp⟩ := hold k y hy hyl
  exact hs.peers j k x₀ y₀ hx₀ hy₀ hxl₀ hyl₀ (by rw [hxp, hyp, hxy])

/-- A step of a task that neither begins nor ends to serve, or of one that uses no slot. -/
theorem Inv.put_same {s : Service} {i : Nat} {h h' : Handler} (hs : Inv s)
    (hi : s.handlers[i]? = some h) (hpeer : h'.peer = h.peer)
    (hstage : h'.stage ≠ .ended → h.stage ≠ .ended) (hholds : h'.holds = h.holds) :
    Inv (s.put i h') := by
  have hserves : ∀ peer, (s.put i h').Serves peer ↔ s.Serves peer := by
    intro peer
    rw [show (s.put i h').Serves peer ↔
      ({ s.put i h' with activeClient := s.activeClient } : Service).Serves peer from Iff.rfl,
      serves_put hi, hholds, hpeer]
    constructor
    · rintro (⟨hh, hp⟩ | ⟨j, x, -, hx, hh, hp⟩)
      · exact ⟨i, h, hi, hh, hp⟩
      · exact ⟨j, x, hx, hh, hp⟩
    · rintro ⟨j, x, hx, hh, hp⟩
      by_cases hij : j = i
      · subst hij
        rw [hi] at hx
        cases hx
        exact Or.inl ⟨hh, hp⟩
      · exact Or.inr ⟨j, x, hij, hx, hh, hp⟩
  refine ⟨hs.notRefused, fun hd peer => ?_, fun hd peer => ?_, peers_put hs hi hpeer hstage⟩
  · rw [hserves]
    exact hs.slot hd peer
  · rw [hserves]
    exact hs.drained hd peer

theorem holds_of_ready {h : Handler} (hstage : h.stage = .ready ∨ h.stage = .spawned ∨
    h.stage = .ended) : h.holds = false := by
  unfold Handler.holds
  rcases hstage with hstage | hstage | hstage <;> rw [hstage] <;> simp

theorem holds_of_aborted {h : Handler} (ha : h.aborted = true) : h.holds = false := by
  unfold Handler.holds
  rw [ha]
  simp

theorem Inv.takeSlot {s : Service} {i : Nat} {h : Handler} {conn : Conn} (hs : Inv s)
    (hi : s.handlers[i]? = some h) (hready : h.stage = .ready)
    (horderly : h.usesSlot = true → h.aborted = false ∧ s.stopping ≠ .drained) :
    Inv (s.takeSlot i h conn) := by
  have hidle : h.holds = false := holds_of_ready (Or.inl hready)
  have hlive : h.stage ≠ .ended := by simp [hready]
  unfold Service.takeSlot
  dsimp only
  split
  · rename_i huses
    obtain ⟨hrunning, hd⟩ := horderly huses
    have hmoved : h.moved (.serving conn) = { h with stage := .serving conn } := by
      unfold Handler.moved
      simp [hrunning]
    cases hactive : s.activeClient with
    | some active =>
      have hserves := (hs.slot hd active).mp hactive
      dsimp only
      split
      · have hput : Inv (s.put i { h with stage := .ended }) :=
          hs.put_same hi rfl (fun _ => hlive)
            (by rw [hidle]; exact holds_of_ready (Or.inr (Or.inr rfl)))
        refine ⟨?_, hput.slot, hput.drained, hput.peers⟩
        rw [hs.notRefused, serves_iff.mpr hserves]
        rfl
      · -- the client that is served has an address of its own
        rename_i hsame
        obtain ⟨j, x, hx, hxholds, hxpeer⟩ := hserves
        rw [not_not.mp hsame] at hxpeer
        have hij := hs.peers j i x h hx hi (holds_not_ended hxholds) hlive hxpeer
        rw [hij, hi] at hx
        cases hx
        rw [hidle] at hxholds
        cases hxholds
    | none =>
      have hnobody : ∀ peer, ¬ s.Serves peer := by
        intro peer hserves
        have := (hs.slot hd peer).mpr hserves
        rw [hactive] at this
        cases this
      rw [hmoved]
      refine ⟨hs.notRefused, fun _ peer => ?_, fun hd' => absurd hd' hd,
        peers_put hs hi rfl fun _ => hlive⟩
      rw [serves_put hi]
      constructor
      · intro hpeer
        exact Or.inl ⟨by simp [Handler.holds, huses, hrunning], Option.some.inj hpeer⟩
      · rintro (⟨-, hpeer⟩ | ⟨j, x, -, hx, hxholds, hxpeer⟩)
        · exact congrArg some hpeer
        · exact absurd ⟨j, x, hx, hxholds, hxpeer⟩ (hnobody peer)
  · rename_i huses
    refine hs.put_same hi rfl (fun _ => hlive) ?_
    rw [hidle]
    simp [Handler.moved, Handler.holds, huses]

theorem Inv.freeSlot {s : Service} {i : Nat} {h : Handler} (hs : Inv s)
    (hi : s.handlers[i]? = some h) (hleaving : h.stage = .leaving) : Inv (s.freeSlot i h) := by
  have hlive : h.stage ≠ .ended := by simp [hleaving]
  have hgone : ({ h with stage := .ended } : Handler).holds = false :=
    holds_of_ready (Or.inr (Or.inr rfl))
  unfold Service.freeSlot
  dsimp only
  split
  · rename_i hmine
    simp only [Bool.and_eq_true, decide_eq_true_eq] at hmine
    refine ⟨hs.notRefused, fun hd peer => ?_, fun hd peer => ?_,
      peers_put hs hi rfl fun _ => hlive⟩
    · rw [serves_put hi]
      constructor
      · intro hnone
        cases hnone
      · -- the slot was that of this client, and no other is served
        rintro (⟨hh, -⟩ | ⟨j, x, hij, hx, hxholds, hxpeer⟩)
        · rw [hgone] at hh
          cases hh
        · have hserves := (hs.slot hd h.peer).mp hmine.2
          have hpeer := hs.serves_unique ⟨j, x, hx, hxholds, rfl⟩ hserves
          exact absurd (hs.peers j i x h hx hi (holds_not_ended hxholds) hlive hpeer) hij
    · rw [serves_put hi]
      rintro (⟨hh, -⟩ | ⟨j, x, -, hx, hxholds, hxpeer⟩)
      · rw [hgone] at hh
        cases hh
      · exact hs.drained hd peer ⟨j, x, hx, hxholds, hxpeer⟩
  · rename_i hother
    refine hs.put_same hi rfl (fun _ => hlive) ?_
    rw [hgone]
    cases hholds : h.holds with
    | false => rfl
    | true =>
      have hserves : s.Serves h.peer := ⟨i, h, hi, hholds, rfl⟩
      by_cases hd : s.stopping = .drained
      · exact absurd hserves (hs.drained hd h.peer)
      · have hactive := (hs.slot hd h.peer).mpr hserves
        exact absurd (by simp [(holds_of_stage hholds).1, hactive]) hother

theorem Inv.event {s : Service} {i : Nat} {h : Handler} {conn conn' : Conn} (hs : Inv s)
    (hi : s.handlers[i]? = some h) (hserving : h.stage = .serving conn)
    (horderly : h.holds = true → conn'.phase ≠ .failed) :
    Inv (s.put i (h.moved (afterEvent conn'))) := by
  have hlive : h.stage ≠ .ended := by simp [hserving]
  refine hs.put_same hi rfl (fun _ => hlive) ?_
  cases ha : h.aborted with
  | true =>
    rw [holds_of_aborted ha]
    exact holds_of_aborted ha
  | false =>
    cases huses : h.usesSlot with
    | false => simp [Handler.holds, Handler.moved, huses]
    | true =>
      have hholds : h.holds = true := by simp [Handler.holds, huses, ha, hserving]
      have hkept := horderly hholds
      rw [hholds]
      unfold Handler.moved afterEvent Handler.holds
      cases hphase : conn'.phase <;> simp_all

theorem Inv.accept {s : Service} {peer : SocketAddr} {accepting : Accepting} (hs : Inv s)
    (hfresh : ∀ h ∈ s.handlers, h.stage ≠ .ended → h.peer ≠ peer) :
    Inv { s with handlers := s.handlers ++ [{ peer := peer }], accepting := accepting } := by
  have hnew : ∀ (j : Nat) (x : Handler), (s.handlers ++ [{ peer := peer }])[j]? = some x →
      s.handlers[j]? = some x ∨ j = s.handlers.length ∧ x = { peer := peer } := by
    intro j x hx
    rw [List.getElem?_append] at hx
    split at hx
    · exact Or.inl hx
    · rename_i hge
      obtain ⟨hlt, hx⟩ := List.getElem?_eq_some_iff.mp hx
      simp only [List.length_singleton] at hlt
      refine Or.inr ⟨by omega, ?_⟩
      simpa using hx.symm
  have hserves : ∀ p,
      ({ s with
        handlers := s.handlers ++ [{ peer := peer }]
        accepting := accepting } : Service).Serves p ↔ s.Serves p := by
    intro p
    constructor
    · rintro ⟨j, x, hx, hholds, hpeer⟩
      rcases hnew j x hx with hx | ⟨-, rfl⟩
      · exact ⟨j, x, hx, hholds, hpeer⟩
      · cases hholds
    · rintro ⟨j, x, hx, hholds, hpeer⟩
      refine ⟨j, x, ?_, hholds, hpeer⟩
      exact getElem?_append_kept hx
  refine ⟨hs.notRefused, fun hd p => ?_, fun hd p => ?_, ?_⟩
  · rw [hserves]
    exact hs.slot hd p
  · rw [hserves]
    exact hs.drained hd p
  · intro j k x y hx hy hxl hyl hxy
    rcases hnew j x hx with hx | ⟨hj, rfl⟩ <;> rcases hnew k y hy with hy | ⟨hk, rfl⟩
    · exact hs.peers j k x y hx hy hxl hyl hxy
    · exact absurd hxy (hfresh x (List.mem_of_getElem? hx) hxl)
    · exact absurd hxy.symm (hfresh y (List.mem_of_getElem? hy) hyl)
    · rw [hj, hk]

theorem Inv.stopClients {s : Service} (hs : Inv s)
    (hlisted : ∀ h ∈ s.handlers, h.holds = true → h.listed = true) :
    Inv { s with stopping := .drained, handlers := s.handlers.map Handler.abort } := by
  have hstage : ∀ h : Handler, h.abort.stage = h.stage ∧ h.abort.peer = h.peer := by
    intro h
    unfold Handler.abort
    split <;> exact ⟨rfl, rfl⟩
  refine ⟨hs.notRefused, fun hd => absurd rfl hd, fun _ peer => ?_, ?_⟩
  · rintro ⟨j, x, hx, hholds, -⟩
    rw [List.getElem?_map] at hx
    obtain ⟨h, hh, rfl⟩ := Option.map_eq_some_iff.mp hx
    unfold Handler.abort at hholds
    split at hholds
    · rw [holds_of_aborted rfl] at hholds
      cases hholds
    · rename_i hnot
      exact hnot (hlisted h (List.mem_of_getElem? hh) hholds)
  · intro j k x y hx hy hxl hyl hxy
    rw [List.getElem?_map] at hx hy
    obtain ⟨h, hh, rfl⟩ := Option.map_eq_some_iff.mp hx
    obtain ⟨h', hh', rfl⟩ := Option.map_eq_some_iff.mp hy
    rw [(hstage h).1] at hxl
    rw [(hstage h').1] at hyl
    rw [(hstage h).2, (hstage h').2] at hxy
    exact hs.peers j k h h' hh hh' hxl hyl hxy

/-! ## Whole runs -/

theorem onHandler_eq_some {s t : Service} {i : Nat} {f : Handler → Option Service}
    (h : s.onHandler i f = some t) : ∃ x, s.handlers[i]? = some x ∧ f x = some t :=
  Option.bind_eq_some_iff.mp h

theorem Inv.step {s t : Service} {a : Action} (hs : Inv s) (hstep : s.step a = some t)
    (horderly : Orderly s a) : Inv t := by
  cases a with
  | configure allowOneClient =>
    cases hstep
    exact ⟨hs.notRefused, hs.slot, hs.drained, hs.peers⟩
  | start =>
    simp only [Service.step] at hstep
    split at hstep
    · cases hstep
      exact ⟨hs.notRefused, hs.slot, hs.drained, hs.peers⟩
    · cases hstep
  | accept peer =>
    simp only [Service.step] at hstep
    split at hstep
    · cases hstep
    · cases hstep
      exact hs.accept horderly
  | list i =>
    obtain ⟨h, hi, hf⟩ := onHandler_eq_some hstep
    split at hf
    · cases hf
    · cases hf
      exact hs.put_same hi rfl id rfl
  | readConfig i =>
    obtain ⟨h, hi, hf⟩ := onHandler_eq_some hstep
    split at hf
    · rename_i hspawned
      cases hf
      refine hs.put_same hi rfl (fun _ => by simp [hspawned]) ?_
      rw [holds_of_ready (h := h) (Or.inr (Or.inl hspawned))]
      apply holds_of_ready
      unfold Handler.moved
      dsimp only
      split <;> simp
    · cases hf
  | takeSlot i sessionId writesLeft =>
    obtain ⟨h, hi, hf⟩ := onHandler_eq_some hstep
    split at hf
    · rename_i hready
      cases hf
      exact hs.takeSlot hi hready (horderly h hi)
    · cases hf
  | event i env e =>
    obtain ⟨h, hi, hf⟩ := onHandler_eq_some hstep
    cases hstage : h.stage with
    | serving conn =>
      rw [hstage] at hf
      cases hf
      exact hs.event hi hstage fun hholds =>
        horderly h hi hholds conn (by rw [hstage]; exact rfl)
    | spawned | ready | leaving | ended =>
      rw [hstage] at hf
      cases hf
  | freeSlot i =>
    obtain ⟨h, hi, hf⟩ := onHandler_eq_some hstep
    split at hf
    · rename_i hleaving
      cases hf
      exact hs.freeSlot hi hleaving
    · cases hf
  | drop i =>
    obtain ⟨h, hi, hf⟩ := onHandler_eq_some hstep
    split at hf
    · rename_i haborted
      cases hf
      refine hs.put_same hi rfl (fun hne => absurd rfl hne) ?_
      rw [holds_of_aborted haborted]
      exact holds_of_aborted haborted
    · cases hf
  | stopServer =>
    simp only [Service.step] at hstep
    split at hstep
    · rename_i hidle
      cases hstep
      exact ⟨hs.notRefused, fun _ => hs.slot (by simp [hidle]), fun hd => (by cases hd), hs.peers⟩
    · cases hstep
  | stopClients =>
    simp only [Service.step] at hstep
    split at hstep
    · cases hstep
      exact hs.stopClients horderly
    · cases hstep
  | stopSlot =>
    simp only [Service.step] at hstep
    split at hstep
    · rename_i hdrained
      cases hstep
      refine ⟨hs.notRefused, fun _ peer => ?_, fun hd => (by cases hd), hs.peers⟩
      constructor
      · intro hnone
        cases hnone
      · intro hserves
        exact absurd hserves (hs.drained hdrained peer)
    · cases hstep

/-- In every run that is orderly the slot is that of the client that is served. -/
theorem slot_exact {s : Service} (h : (system.restrict Orderly).Reachable s) : SlotExact s := by
  refine Inv.exact (TSys.invariant (I := Inv) ?_ ?_ h)
  · intro s h0
    rw [show s = {} from h0]
    refine ⟨rfl, fun _ peer => ⟨fun hnone => (by cases hnone), ?_⟩, fun hd => (by cases hd), ?_⟩
    · rintro ⟨j, x, hx, -⟩
      cases hx
    · intro j k x y hx
      cases hx
  · intro s a t hs hstep
    exact hs.step hstep.1 hstep.2

/-! ## Samples -/

def sampleEnv : Env where
  parse _ := none
  decode _ := none
  config := {}
  sdp _ := ""
  subscribes := true

def first : SocketAddr := (0xC0A80002, 40000)

def second : SocketAddr := (0xC0A80003, 40000)

/-- A client comes, and looks at the slot. -/
def comes (i : Nat) (peer : SocketAddr) : List Action :=
  [.accept peer, .list i, .readConfig i, .takeSlot i "0123456789abcdef" none]

def oneAfterTheOther : List Action :=
  .start :: comes 0 first ++ [.event 0 sampleEnv (.read []), .freeSlot 0] ++ comes 1 second ++
    [.stopServer, .stopClients, .stopSlot, .drop 1]

/-- The first connection is reset while its requests are read. -/
def reset : List Action :=
  .start :: comes 0 first ++ [.event 0 sampleEnv .readError] ++ comes 1 second

theorem slot_exact_sample :
    ∃ s, (system.restrict Orderly).Reachable s ∧ SlotExact s ∧ s.activeClient = none ∧
      s.handlers.length = 2 := by
  obtain ⟨s, hrun, hfree⟩ : ∃ s,
      oneAfterTheOther.foldlM (fun s a => if Orderly s a then step s a else none) {} = some s ∧
      s.activeClient = none ∧ s.handlers.length = 2 := by decide +kernel
  have hreach := TSys.ofFn_restrict_reachable
    (TSys.Reachable.init (T := system.restrict Orderly) rfl) hrun
  exact ⟨s, hreach, slot_exact hreach, hfree⟩

/-- The next client is refused. -/
theorem refused_for_nobody :
    ∃ s, system.Reachable s ∧ ¬ SlotExact s ∧ s.wronglyRefused = true := by
  obtain ⟨s, hrun, hrefused⟩ : ∃ s,
      reset.foldlM step {} = some s ∧ s.wronglyRefused = true := by decide +kernel
  refine ⟨s, TSys.ofFn_reachable (.init rfl) hrun, ?_, hrefused⟩
  intro hexact
  rw [hexact.1] at hrefused
  cases hrefused

end Service

end StreamBox.Rtsp
