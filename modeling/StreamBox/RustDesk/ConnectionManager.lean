import StreamBox.RustDesk.Closing
import Mathlib.Data.List.Nodup

/-!
# The connection registry

`accept_connection` takes the next id, pushes an entry and spawns the connection's
handler; nothing takes an entry out again.

* **Registry** — `ConnectionManager.step`: calls of `accept_connection`, each in two
  steps, the handlers' own events, and `close_all`.
* **Count** — `count_eq_running`: while no handler ends and fewer than `2 ^ 32` ids
  are handed out, `connection_count` is the number of running handlers and their
  ids are distinct.
* **Leftover** — `ended_connection_counted`: a connection that has ended stays
  counted.
-/

namespace StreamBox.RustDesk

open StreamBox.Lib

/-- An entry of the registry. -/
structure ConnectionInfo where
  id : UInt32
  /-- The handler whose state the entry shares. -/
  handler : Nat
  deriving DecidableEq, Repr

/-- The connection manager with the handlers it has spawned, in order. -/
structure ConnectionManager where
  config : RustDeskConfig
  nextId : UInt32 := 1
  connections : List ConnectionInfo := []
  /-- The ids taken by calls of `accept_connection` that have not pushed their entry. -/
  accepting : List UInt32 := []
  handlers : List (UInt32 × Lifecycle) := []
  deriving DecidableEq, Repr

inductive ManagerEvent
  /-- `accept_connection` takes an id. -/
  | takeId
  /-- `accept_connection` pushes the entry and spawns the handler, with the controllers
  the manager has at that time. -/
  | register (id : UInt32) (hid audio videoManager : Bool) (now : Nat)
  /-- An event of a handler. -/
  | handler (n : Nat) (event : LifecycleEvent)
  | closeAll

namespace ConnectionManager

/-- `connection_count`. -/
def connectionCount (m : ConnectionManager) : Nat := m.connections.length

/-- The handlers still running. -/
def running (m : ConnectionManager) : List (UInt32 × Lifecycle) :=
  m.handlers.filter fun h => h.2.loop.running

/-- Set the state of one handler's connection to Closed. -/
def closeHandler (env : Env) (handlers : List (UInt32 × Lifecycle)) (info : ConnectionInfo) :
    List (UInt32 × Lifecycle) :=
  handlers.modify info.handler fun h => (h.1, (h.2.step env (.loop .closeAll)).getD h.2)

def step (env : Env) (m : ConnectionManager) : ManagerEvent → Option ConnectionManager
  | .takeId => some { m with nextId := m.nextId + 1, accepting := m.accepting ++ [m.nextId] }
  | .register id hid audio videoManager now =>
      if id ∈ m.accepting then
        some { m with
          accepting := m.accepting.erase id
          connections := m.connections ++ [⟨id, m.handlers.length⟩]
          handlers := m.handlers ++
            [(id, { loop := { conn := Connection.new m.config hid audio videoManager now } })] }
      else none
  | .handler n event =>
      match m.handlers[n]? with
      | some (id, s) => (s.step env event).map fun t => { m with handlers := m.handlers.set n (id, t) }
      | none => none
  | .closeAll => some { m with handlers := m.connections.foldl (closeHandler env) m.handlers }

/-- The runs of a connection manager. -/
def system (env : Env) (config : RustDeskConfig) : TSys ConnectionManager ManagerEvent :=
  .ofFn (· = { config }) (step env)

/-- The count is that of the running handlers, whose ids are distinct. -/
def Counted (m : ConnectionManager) : Prop :=
  m.connectionCount = m.running.length ∧ (m.running.map (·.1)).Nodup

/-- No handler ends, and no id is handed out a second time. -/
def NoEnding (env : Env) (m : ConnectionManager) : ManagerEvent → Prop
  | .takeId => m.handlers.length + m.accepting.length < 2 ^ 32
  | .handler n event => ∀ id s t, m.handlers[n]? = some (id, s) → s.step env event = some t →
      s.loop.running = true → t.loop.running = true
  | _ => True

/-! ## The invariant -/

/-- Every handler runs and has its entry, and the ids in use are the ones handed out. -/
structure AllRunning (m : ConnectionManager) : Prop where
  entries : m.connections.length = m.handlers.length
  running : ∀ h ∈ m.handlers, h.2.loop.running = true
  handed : (m.handlers.map (·.1) ++ m.accepting).Perm
    ((List.range (m.handlers.length + m.accepting.length)).map fun k => UInt32.ofNat (k + 1))
  next : m.nextId = UInt32.ofNat (m.handlers.length + m.accepting.length + 1)
  few : m.handlers.length + m.accepting.length ≤ 2 ^ 32

/-- Closing changes neither the ids nor which handlers run. -/
theorem closeHandler_keeps (env : Env) (handlers : List (UInt32 × Lifecycle))
    (info : ConnectionInfo) :
    (closeHandler env handlers info).map (fun h => (h.1, h.2.loop.running))
      = handlers.map fun h => (h.1, h.2.loop.running) := by
  apply List.ext_getElem
  · simp [closeHandler]
  · intro k hk hk'
    simp only [closeHandler, List.getElem_map, List.getElem_modify]
    split <;> rfl

theorem closeAll_keeps (env : Env) (infos : List ConnectionInfo)
    (handlers : List (UInt32 × Lifecycle)) :
    (infos.foldl (closeHandler env) handlers).map (fun h => (h.1, h.2.loop.running))
      = handlers.map fun h => (h.1, h.2.loop.running) := by
  induction infos generalizing handlers with
  | nil => rfl
  | cons info rest ih => rw [List.foldl_cons, ih, closeHandler_keeps]

/-- The ids handed out are distinct as long as there are at most `2 ^ 32`. -/
theorem nodup_handed {n : Nat} (h : n ≤ 2 ^ 32) :
    ((List.range n).map fun k => UInt32.ofNat (k + 1)).Nodup := by
  refine List.Nodup.map_on ?_ List.nodup_range
  intro a ha b hb heq
  have hnat := congrArg UInt32.toNat heq
  simp only [UInt32.toNat_ofNat'] at hnat
  rw [List.mem_range] at ha hb
  omega

/-- A change of the handlers that keeps the ids and lets every handler run. -/
theorem AllRunning.of_handlers {m : ConnectionManager} (h : AllRunning m)
    {handlers : List (UInt32 × Lifecycle)}
    (hkeep : handlers.map (fun h => (h.1, h.2.loop.running))
      = m.handlers.map fun h => (h.1, h.2.loop.running)) :
    AllRunning { m with handlers := handlers } := by
  have hlen : handlers.length = m.handlers.length := by
    simpa using congrArg List.length hkeep
  have hids : handlers.map (·.1) = m.handlers.map (·.1) := by
    simpa [Function.comp_def] using congrArg (List.map Prod.fst) hkeep
  refine ⟨?_, ?_, ?_, ?_, ?_⟩
  · rw [h.entries, hlen]
  · intro x hx
    have hmem : (x.1, x.2.loop.running) ∈ handlers.map fun h => (h.1, h.2.loop.running) :=
      List.mem_map.mpr ⟨x, hx, rfl⟩
    rw [hkeep] at hmem
    obtain ⟨y, hy, heq⟩ := List.mem_map.mp hmem
    rw [← (Prod.mk.inj heq).2]
    exact h.running y hy
  · simpa [hlen, hids] using h.handed
  · simpa [hlen] using h.next
  · simpa [hlen] using h.few

theorem step_allRunning {env : Env} {m m' : ConnectionManager} {event : ManagerEvent}
    (h : AllRunning m) (hstep : step env m event = some m') (hg : NoEnding env m event) :
    AllRunning m' := by
  cases event with
  | takeId =>
    cases hstep
    have hlen : m.handlers.length + (m.accepting ++ [m.nextId]).length
        = m.handlers.length + m.accepting.length + 1 := by
      simp [Nat.add_assoc]
    refine ⟨h.entries, h.running, ?_, ?_, ?_⟩
    · show (m.handlers.map (·.1) ++ (m.accepting ++ [m.nextId])).Perm _
      rw [hlen, List.range_succ, List.map_append, ← List.append_assoc]
      exact h.handed.append (by rw [h.next]; exact List.Perm.refl _)
    · show m.nextId + 1 = _
      rw [hlen, h.next]
      apply UInt32.toNat_inj.mp
      simp [UInt32.toNat_add]
    · show _ + (m.accepting ++ [m.nextId]).length ≤ _
      rw [hlen]
      exact hg
  | register id hid audio videoManager now =>
    obtain ⟨hid', hm⟩ := Option.ite_none_right_eq_some.mp hstep
    cases hm
    have hpos := List.length_pos_of_mem hid'
    have hlen : (m.handlers.length + 1) + (m.accepting.erase id).length
        = m.handlers.length + m.accepting.length := by
      rw [List.length_erase_of_mem hid']
      omega
    refine ⟨by simp [h.entries], ?_, ?_, ?_, ?_⟩
    · intro x hx
      rcases List.mem_append.mp hx with hx | hx
      · exact h.running x hx
      · rw [List.mem_singleton.mp hx]
    · simp only [List.length_append, List.length_singleton, hlen]
      refine List.Perm.trans ?_ h.handed
      simp only [List.map_append, List.map_cons, List.map_nil, List.append_assoc]
      exact List.Perm.append_left _ (List.perm_cons_erase hid').symm
    · simp only [List.length_append, List.length_singleton, hlen]
      exact h.next
    · simp only [List.length_append, List.length_singleton, hlen]
      exact h.few
  | handler n e =>
    simp only [step] at hstep
    split at hstep
    · rename_i id s hs
      obtain ⟨t, ht, rfl⟩ := Option.map_eq_some_iff.mp hstep
      have hlt : n < m.handlers.length := (List.getElem?_eq_some_iff.mp hs).1
      have hget : m.handlers[n] = (id, s) := (List.getElem?_eq_some_iff.mp hs).2
      have hrun : s.loop.running = true :=
        h.running (id, s) (hget ▸ List.getElem_mem hlt)
      have hrun' := hg id s t hs ht hrun
      refine h.of_handlers ?_
      apply List.ext_getElem
      · simp
      · intro k hk hk'
        simp only [List.getElem_map, List.getElem_set]
        split
        · rename_i heq
          subst heq
          rw [hget, hrun, hrun']
        · rfl
    · cases hstep
  | closeAll =>
    cases hstep
    exact h.of_handlers (closeAll_keeps env _ _)

/-- **The count.** In every run in which no handler ends and no more than `2 ^ 32` ids
are handed out, `connection_count` is the number of connections whose handler is
running, and their ids are distinct. -/
theorem count_eq_running {env : Env} {config : RustDeskConfig} {m : ConnectionManager}
    (hrun : ((system env config).restrict (NoEnding env)).Reachable m) : Counted m := by
  have hall : AllRunning m := by
    refine TSys.invariant (I := AllRunning) ?_ ?_ hrun
    · rintro m rfl
      exact ⟨rfl, by simp, by simp, rfl, by simp⟩
    · rintro m e m' h ⟨hstep, hg⟩
      exact step_allRunning h hstep hg
  have hrunning : m.running = m.handlers := List.filter_eq_self.mpr hall.running
  refine ⟨by rw [connectionCount, hrunning, hall.entries], ?_⟩
  rw [hrunning]
  have hnodup := hall.handed.nodup_iff.mpr (nodup_handed hall.few)
  exact (List.nodup_append.mp hnodup).1

/-! ## A connection that ended -/

instance (m : ConnectionManager) : Decidable (Counted m) := inferInstanceAs (Decidable (_ ∧ _))

/-- A manager without connections. -/
def noConnection : ConnectionManager := { config := Lifecycle.openConfig }

/-- A manager with one connection. -/
def oneConnection : ConnectionManager where
  config := Lifecycle.openConfig
  nextId := 2
  connections := [⟨1, 0⟩]
  handlers := [(1, Lifecycle.accepted)]

theorem one_connection_counted : oneConnection.connectionCount = 1 ∧ Counted oneConnection := by
  have htake : step Lifecycle.clientEnv noConnection .takeId
      = some { noConnection with nextId := 2, accepting := [1] } := by decide
  have hregister : step Lifecycle.clientEnv { noConnection with nextId := 2, accepting := [1] }
      (.register 1 true false false 0) = some oneConnection := by decide
  refine ⟨rfl, @count_eq_running Lifecycle.clientEnv Lifecycle.openConfig _ ?_⟩
  refine TSys.Reachable.step (TSys.Reachable.step (.init rfl) ⟨htake, ?_⟩) ⟨hregister, trivial⟩
  show 0 + 0 < 2 ^ 32
  decide

/-- A connection that is accepted, begins and shuts down. -/
def acceptAndShutdown : List ManagerEvent :=
  [.takeId, .register 1 true false false 0, .handler 0 (.begin true),
    .handler 0 (.loop .shutdown)]

/-- **An ended connection stays counted.** After the only connection has shut down the
count is still one. -/
theorem ended_connection_counted :
    ¬ ∀ (env : Env) (config : RustDeskConfig) (m : ConnectionManager),
      (system env config).Reachable m → Counted m := by
  intro halways
  have hrun : (acceptAndShutdown.foldlM (step Lifecycle.clientEnv) noConnection).any
      (fun m => !decide (Counted m)) := by
    decide
  obtain ⟨m, hm, hwrong⟩ := Option.any_eq_true _ _ |>.mp hrun
  have hcounted := halways Lifecycle.clientEnv Lifecycle.openConfig m
    (TSys.ofFn_reachable (.init rfl) hm)
  simp [hcounted] at hwrong

end ConnectionManager

end StreamBox.RustDesk
