import Mathlib.Data.List.Nodup
import StreamBox.Config.Sections
import StreamBox.Lib.TSys

/-!
# Extension processes

`ExtensionManager` starts, stops and watches the processes of three programs. The table of the
processes is locked for a part of `start` at a time: it stops what is there, builds the arguments,
spawns, and puts the new process into the table, so other calls come in between; a call may be
dropped wherever it waits, and a process may exit at any time.

* **Ownership** — `processes_owned`: a process that runs is the one in the table or that of a start
  at work, so without such a start at most one process of an extension runs.
* **Stopping** — `stopped_stays`: what was stopped while no start was at work does not run until
  another start is begun.
* **Health check** — `health_check_restarts`: it starts the extensions that should run and are not in
  the table; one that has exited is in the table until its status is asked for.
-/

namespace StreamBox.Extensions

open StreamBox.Lib
open StreamBox.Config (trimMatches isWhitespace)
open StreamBox.Config.Sections (ExtensionsConfig)

/-! ## Configuration -/

inductive ExtensionId
  | ttyd
  | gostc
  | easytier
  deriving DecidableEq, Repr

def ExtensionId.all : List ExtensionId := [ttyd, gostc, easytier]

def trim (s : String) : String := trimMatches isWhitespace s

def ttydSocketPath : String := "/var/run/one-kvm/ttyd.sock"

/-- The arguments of a command, once the socket of ttyd has been prepared. -/
def buildArgs (id : ExtensionId) (config : ExtensionsConfig) : Except String (List String) :=
  match id with
  | .ttyd => .ok ["-i", ttydSocketPath, "-b", "/api/terminal", "-W", config.ttyd.shell]
  | .gostc =>
    let c := config.gostc
    if trim c.addr = "" then .error "GOSTC server address is required"
    else if c.key = "" then .error "GOSTC client key is required"
    else .ok ((if c.tls then ["--tls=true"] else []) ++ ["-addr", trim c.addr] ++ ["-key", c.key])
  | .easytier =>
    let c := config.easytier
    if c.networkName = "" then .error "EasyTier network name is required"
    else
      .ok (["--network-name", c.networkName, "--network-secret", c.networkSecret] ++
        ((c.peerUrls.filter (· ≠ "")).flatMap fun peer => ["--peers", peer]) ++
        match c.virtualIp with
        | some ip => if ip ≠ "" then ["-i", ip] else ["-d"]
        | none => ["-d"])

/-- The guard of `health_check` and of `start_enabled`. -/
def shouldRun (config : ExtensionsConfig) : ExtensionId → Bool
  | .ttyd => config.ttyd.enabled
  | .gostc => config.gostc.enabled && config.gostc.key ≠ "" && trim config.gostc.addr ≠ ""
  | .easytier => config.easytier.enabled && config.easytier.networkName ≠ ""

/-! ## The manager -/

/-- A `Child`; its id is gone once its exit status has been asked for. -/
structure Child where
  pid : Nat
  reaped : Bool
  deriving DecidableEq, Repr

def Child.id (child : Child) : Option Nat := if child.reaped then none else some child.pid

inductive ExtensionStatus
  | unavailable
  | stopped
  | running (pid : Nat)
  deriving DecidableEq, Repr

/-- A process of the system that has not exited. -/
structure Process where
  pid : Nat
  id : ExtensionId
  args : List String
  deriving DecidableEq, Repr

/-- Where a start waits. -/
inductive Waiting
  | stop
  | args
  | insert (pid : Nat)
  deriving DecidableEq, Repr

/-- A start at work. -/
structure Start where
  id : ExtensionId
  config : ExtensionsConfig
  waiting : Waiting
  deriving DecidableEq, Repr

structure State where
  /-- The table of the manager. -/
  processes : ExtensionId → Option Child
  /-- The binaries that were there when the manager was made. -/
  available : ExtensionId → Bool
  running : List Process
  /-- The number of processes spawned so far, and the next pid. -/
  spawned : Nat
  starts : List Start

def State.new (available : ExtensionId → Bool) : State where
  processes _ := none
  available := available
  running := []
  spawned := 0
  starts := []

namespace State

/-- The process is killed, or has exited. -/
def without (s : State) (pid : Nat) : State :=
  { s with running := s.running.filter fun p => p.pid ≠ pid }

/-- The process of an entry is killed, which is dropped. -/
def killEntry (s : State) (id : ExtensionId) : State :=
  match s.processes id with
  | some child => s.without child.pid
  | none => s

/-- The write lock is held until the process is gone. -/
def stop (s : State) (id : ExtensionId) : State :=
  { s.killEntry id with processes := Function.update s.processes id none }

def isRunning (s : State) (pid : Nat) : Bool := s.running.any fun p => p.pid = pid

/-- `status`; `try_wait` may fail. -/
def status (s : State) (id : ExtensionId) (waitFails : Bool) : ExtensionStatus × State :=
  if s.available id = false then (.unavailable, s)
  else
    match s.processes id with
    | none => (.stopped, s)
    | some child =>
      if waitFails || s.isRunning child.pid then
        match child.id with
        | some pid => (.running pid, s)
        | none => (.stopped, s)
      else
        -- the child is reaped and leaves the table under one lock
        (.stopped, { s with processes := Function.update s.processes id none })

/-- `start` up to its first wait. -/
def beginStart (s : State) (id : ExtensionId) (config : ExtensionsConfig) : State :=
  if s.available id then { s with starts := s.starts ++ [⟨id, config, .stop⟩] } else s

/-- What a health check restarts. -/
def needsRestart (s : State) (config : ExtensionsConfig) : List ExtensionId :=
  (ExtensionId.all.filter fun id => shouldRun config id && s.available id).filter fun id =>
    match s.processes id with
    | some child => child.id.isNone
    | none => true

def healthCheck (s : State) (config : ExtensionsConfig) : State :=
  (s.needsRestart config).foldl (fun s id => s.beginStart id config) s

def startEnabled (s : State) (config : ExtensionsConfig) : State :=
  (ExtensionId.all.filter fun id => shouldRun config id && s.available id).foldl
    (fun s id => s.beginStart id config) s

/-- A start that goes on; `ok` says whether the socket is prepared and the command spawned. -/
def advance (s : State) (i : Nat) (start : Start) (ok : Bool) : State :=
  match start.waiting with
  | .stop => { s.stop start.id with starts := s.starts.set i { start with waiting := .args } }
  | .args =>
    match buildArgs start.id start.config, ok with
    | .ok args, true =>
      { s with
        running := s.running ++ [⟨s.spawned, start.id, args⟩]
        spawned := s.spawned + 1
        starts := s.starts.set i { start with waiting := .insert s.spawned } }
    | _, _ => { s with starts := s.starts.eraseIdx i }
  | .insert pid =>
    -- the entry that was there is dropped, and killed with that
    { s.killEntry start.id with
      processes := Function.update s.processes start.id (some ⟨pid, false⟩)
      starts := s.starts.eraseIdx i }

/-- A start that is dropped; a process that it has spawned is killed. -/
def cancel (s : State) (i : Nat) (start : Start) : State :=
  match start.waiting with
  | .insert pid => { s.without pid with starts := s.starts.eraseIdx i }
  | _ => { s with starts := s.starts.eraseIdx i }

end State

inductive Event
  | start (id : ExtensionId) (config : ExtensionsConfig)
  | stop (id : ExtensionId)
  | status (id : ExtensionId) (waitFails : Bool)
  | healthCheck (config : ExtensionsConfig)
  | startEnabled (config : ExtensionsConfig)
  | advance (i : Nat) (ok : Bool)
  | cancel (i : Nat)
  | exits (pid : Nat)

def State.next (s : State) : Event → Option State
  | .start id config => some (s.beginStart id config)
  | .stop id => some (s.stop id)
  | .status id waitFails => some (s.status id waitFails).2
  | .healthCheck config => some (s.healthCheck config)
  | .startEnabled config => some (s.startEnabled config)
  | .advance i ok => s.starts[i]?.map fun start => s.advance i start ok
  | .cancel i => s.starts[i]?.map fun start => s.cancel i start
  | .exits pid => some (s.without pid)

def system (available : ExtensionId → Bool) : TSys State Event :=
  .ofFn (fun s => s = .new available) State.next

/-! ## Ownership -/

/-- The process is the one in the table, or that of a start at work. -/
def Owned (s : State) (p : Process) : Prop :=
  (∃ child, s.processes p.id = some child ∧ child.pid = p.pid) ∨
    ∃ start ∈ s.starts, start.id = p.id ∧ start.waiting = .insert p.pid

structure Inv (s : State) : Prop where
  owned : ∀ p ∈ s.running, Owned s p
  args : ∀ p ∈ s.running, ∃ config, buildArgs p.id config = .ok p.args
  fresh : ∀ p ∈ s.running, p.pid < s.spawned
  distinct : (s.running.map (·.pid)).Nodup
  /-- No child of the table has been reaped. -/
  waited : ∀ id child, s.processes id = some child → child.reaped = false

variable {s t : State} {id : ExtensionId} {p : Process}

/-! ### Processes that are gone -/

theorem State.mem_without {pid : Nat} :
    p ∈ (s.without pid).running ↔ p ∈ s.running ∧ p.pid ≠ pid := by
  rw [State.without, List.mem_filter, decide_eq_true_eq]

@[simp] theorem State.killEntry_starts (s : State) (id : ExtensionId) :
    (s.killEntry id).starts = s.starts := by
  unfold State.killEntry
  split <;> rfl

@[simp] theorem State.killEntry_spawned (s : State) (id : ExtensionId) :
    (s.killEntry id).spawned = s.spawned := by
  unfold State.killEntry
  split <;> rfl

theorem State.mem_killEntry : p ∈ (s.killEntry id).running ↔
    p ∈ s.running ∧ ∀ child, s.processes id = some child → p.pid ≠ child.pid := by
  unfold State.killEntry
  cases hchild : s.processes id with
  | none => simp
  | some child => simp [State.mem_without]

theorem State.killEntry_sublist (s : State) (id : ExtensionId) :
    (s.killEntry id).running.Sublist s.running := by
  unfold State.killEntry
  split
  · exact List.filter_sublist
  · exact List.Sublist.refl _

/-- Asking for a status starts nothing and ends nothing. -/
theorem State.status_keeps (s : State) (id : ExtensionId) (waitFails : Bool) :
    (s.status id waitFails).2.running = s.running ∧
      (s.status id waitFails).2.starts = s.starts := by
  unfold State.status
  split
  · exact ⟨rfl, rfl⟩
  · split
    · exact ⟨rfl, rfl⟩
    · split
      · split <;> exact ⟨rfl, rfl⟩
      · exact ⟨rfl, rfl⟩

/-- Fewer processes of the same owners. -/
theorem Inv.fewer (h : Inv s) (hsub : t.running.Sublist s.running)
    (howned : ∀ p ∈ t.running, Owned t p) (hspawned : t.spawned = s.spawned)
    (hwaited : ∀ id child, t.processes id = some child → child.reaped = false) : Inv t := by
  refine ⟨howned, fun p hp => h.args p (hsub.subset hp), fun p hp => ?_,
    h.distinct.sublist (hsub.map _), hwaited⟩
  rw [hspawned]
  exact h.fresh p (hsub.subset hp)

theorem Inv.waited_cleared (h : Inv s) {id' : ExtensionId} {child : Child}
    (hchild : Function.update s.processes id none id' = some child) : child.reaped = false := by
  by_cases hid : id' = id
  · rw [hid, Function.update_self] at hchild
    cases hchild
  · exact h.waited id' child ((Function.update_of_ne hid _ _).symm.trans hchild)

/-! ### The list of the starts -/

theorem mem_set_of_ne {α : Type} {l : List α} {i : Nat} {a b x : α} (hi : l[i]? = some a)
    (hx : x ∈ l) (hne : x ≠ a) : x ∈ l.set i b := by
  obtain ⟨j, hj⟩ := List.mem_iff_getElem?.mp hx
  refine List.mem_iff_getElem?.mpr ⟨j, ?_⟩
  rw [List.getElem?_set_ne, hj]
  rintro rfl
  exact hne (Option.some.inj (hj.symm.trans hi))

theorem mem_eraseIdx_of_ne {α : Type} {l : List α} {i : Nat} {a x : α} (hi : l[i]? = some a)
    (hx : x ∈ l) (hne : x ≠ a) : x ∈ l.eraseIdx i := by
  obtain ⟨j, hj⟩ := List.mem_iff_getElem?.mp hx
  refine List.mem_eraseIdx_iff_getElem?.mpr ⟨j, ?_, hj⟩
  rintro rfl
  exact hne (Option.some.inj (hj.symm.trans hi))

/-! ### Steps -/

theorem Inv.beginStart (h : Inv s) (id : ExtensionId) (config : ExtensionsConfig) :
    Inv (s.beginStart id config) := by
  unfold State.beginStart
  split
  · refine h.fewer (List.Sublist.refl _) (fun p hp => ?_) rfl h.waited
    refine (h.owned p hp).imp_right ?_
    rintro ⟨start, hmem, hstart⟩
    exact ⟨start, List.mem_append_left _ hmem, hstart⟩
  · exact h

theorem Inv.beginStarts (config : ExtensionsConfig) (ids : List ExtensionId) :
    ∀ {s : State}, Inv s → Inv (ids.foldl (fun s id => s.beginStart id config) s) := by
  induction ids with
  | nil => exact fun h => h
  | cons id rest ih => exact fun h => ih (h.beginStart id config)

theorem Inv.stop (h : Inv s) (id : ExtensionId) : Inv (s.stop id) := by
  refine h.fewer (State.killEntry_sublist s id) (fun p hp => ?_) (s.killEntry_spawned id) ?_
  · obtain ⟨hmem, hkilled⟩ := State.mem_killEntry.mp hp
    rcases h.owned p hmem with ⟨child, hchild, hpid⟩ | ⟨start, hstart, hheld⟩
    · refine Or.inl ⟨child, ?_, hpid⟩
      have hid : p.id ≠ id := fun hsame => hkilled child (hsame ▸ hchild) hpid.symm
      exact (Function.update_of_ne hid _ _).trans hchild
    · exact Or.inr ⟨start, (s.killEntry_starts id).symm ▸ hstart, hheld⟩
  · exact fun id' child hchild => h.waited_cleared hchild

theorem Inv.without (h : Inv s) (pid : Nat) : Inv (s.without pid) :=
  h.fewer List.filter_sublist (fun p hp => h.owned p (State.mem_without.mp hp).1) rfl h.waited

theorem Inv.status (h : Inv s) (id : ExtensionId) (waitFails : Bool) :
    Inv (s.status id waitFails).2 := by
  unfold State.status
  split
  · exact h
  · split
    · exact h
    · rename_i child hchild
      split
      · split <;> exact h
      · -- the child of the entry runs no more, so it owns no process
        rename_i hexited
        have hgone : ∀ p ∈ s.running, p.pid ≠ child.pid := by
          intro p hp hpid
          refine hexited (Bool.or_eq_true_iff.mpr (Or.inr ?_))
          exact List.any_eq_true.mpr ⟨p, hp, decide_eq_true hpid⟩
        refine h.fewer (List.Sublist.refl _) (fun p hp => ?_) rfl ?_
        · rcases h.owned p hp with ⟨child', hchild', hpid⟩ | hheld
          · refine Or.inl ⟨child', ?_, hpid⟩
            have hid : p.id ≠ id := by
              rintro hsame
              rw [hsame, hchild] at hchild'
              exact hgone p hp (Option.some.inj hchild' ▸ hpid.symm)
            exact (Function.update_of_ne hid _ _).trans hchild'
          · exact Or.inr hheld
        · exact fun id' child' hchild' => h.waited_cleared hchild'

theorem Inv.advance {i : Nat} {start : Start} {ok : Bool} (h : Inv s)
    (hi : s.starts[i]? = some start) : Inv (s.advance i start ok) := by
  obtain ⟨id, config, waiting⟩ := start
  cases waiting with
  | stop =>
    have hstopped := h.stop id
    refine hstopped.fewer (List.Sublist.refl _) (fun p hp => ?_) rfl hstopped.waited
    refine (hstopped.owned p hp).imp_right ?_
    rintro ⟨other, hmem, hid, hheld⟩
    have hmem' : other ∈ s.starts := (s.killEntry_starts id) ▸ hmem
    refine ⟨other, mem_set_of_ne hi hmem' ?_, hid, hheld⟩
    rintro rfl
    cases hheld
  | args =>
    have hdone : Inv { s with starts := s.starts.eraseIdx i } := by
      refine h.fewer (List.Sublist.refl _) (fun p hp => ?_) rfl h.waited
      refine (h.owned p hp).imp_right ?_
      rintro ⟨other, hmem, hid, hheld⟩
      refine ⟨other, mem_eraseIdx_of_ne hi hmem ?_, hid, hheld⟩
      rintro rfl
      cases hheld
    unfold State.advance
    dsimp only
    cases hargs : buildArgs id config with
    | error e => exact hdone
    | ok args =>
      cases ok with
      | false => exact hdone
      | true =>
        dsimp only
        have hnew : ∀ p ∈ s.running, p.pid ≠ s.spawned := fun p hp => (h.fresh p hp).ne
        refine ⟨fun p hp => ?_, fun p hp => ?_, fun p hp => ?_, ?_, h.waited⟩
        · rcases List.mem_append.mp hp with hold | hspawned
          · refine (h.owned p hold).imp_right ?_
            rintro ⟨other, hmem, hid, hheld⟩
            refine ⟨other, mem_set_of_ne hi hmem ?_, hid, hheld⟩
            rintro rfl
            cases hheld
          · obtain rfl := List.mem_singleton.mp hspawned
            have hlt := (List.getElem?_eq_some_iff.mp hi).1
            exact Or.inr ⟨_, List.mem_set hlt _, rfl, rfl⟩
        · rcases List.mem_append.mp hp with hold | hspawned
          · exact h.args p hold
          · obtain rfl := List.mem_singleton.mp hspawned
            exact ⟨config, hargs⟩
        · rcases List.mem_append.mp hp with hold | hspawned
          · exact Nat.lt_succ_of_lt (h.fresh p hold)
          · obtain rfl := List.mem_singleton.mp hspawned
            exact Nat.lt_succ_self _
        · rw [List.map_append, List.nodup_append]
          refine ⟨h.distinct, List.pairwise_singleton .., ?_⟩
          intro pid hpid pid' hpid'
          obtain ⟨p, hp, rfl⟩ := List.mem_map.mp hpid
          obtain rfl := List.mem_singleton.mp hpid'
          exact hnew p hp
  | insert pid =>
    refine h.fewer (State.killEntry_sublist s id) (fun p hp => ?_) (s.killEntry_spawned id) ?_
    · obtain ⟨hmem, hkilled⟩ := State.mem_killEntry.mp hp
      rcases h.owned p hmem with ⟨child, hchild, hpid⟩ | ⟨other, hstart, hid, hheld⟩
      · refine Or.inl ⟨child, ?_, hpid⟩
        have hid : p.id ≠ id := fun hsame => hkilled child (hsame ▸ hchild) hpid.symm
        exact (Function.update_of_ne hid _ _).trans hchild
      · by_cases hsame : other = ⟨id, config, .insert pid⟩
        · subst hsame
          cases hheld
          have hid : id = p.id := hid
          refine Or.inl ⟨⟨p.pid, false⟩, ?_, rfl⟩
          show Function.update s.processes id (some ⟨p.pid, false⟩) p.id = _
          rw [hid, Function.update_self]
        · exact Or.inr ⟨other, mem_eraseIdx_of_ne hi hstart hsame, hid, hheld⟩
    · intro id' child hchild
      by_cases hid : id' = id
      · subst hid
        have hnew : Function.update s.processes id' (some ⟨pid, false⟩) id' = some child := hchild
        rw [Function.update_self] at hnew
        cases hnew
        rfl
      · exact h.waited id' child ((Function.update_of_ne hid _ _).symm.trans hchild)

theorem Inv.cancel {i : Nat} {start : Start} (h : Inv s) (hi : s.starts[i]? = some start) :
    Inv (s.cancel i start) := by
  obtain ⟨id, config, waiting⟩ := start
  have hothers : ∀ p ∈ s.running, waiting ≠ .insert p.pid →
      Owned { s with starts := s.starts.eraseIdx i } p := by
    intro p hp hne
    refine (h.owned p hp).imp_right ?_
    rintro ⟨other, hmem, hid, hheld⟩
    refine ⟨other, mem_eraseIdx_of_ne hi hmem ?_, hid, hheld⟩
    rintro rfl
    exact hne hheld
  cases waiting with
  | stop | args =>
    exact h.fewer (List.Sublist.refl _) (fun p hp => hothers p hp (by simp)) rfl h.waited
  | insert pid =>
    refine h.fewer List.filter_sublist (fun p hp => ?_) rfl h.waited
    obtain ⟨hmem, hpid⟩ := State.mem_without.mp hp
    exact hothers p hmem fun hsame => hpid (Waiting.insert.inj hsame).symm

/-- Every event keeps the invariant. -/
theorem Inv.next {event : Event} (h : Inv s) (hnext : s.next event = some t) : Inv t := by
  cases event with
  | start id config =>
    cases hnext
    exact h.beginStart id config
  | stop id =>
    cases hnext
    exact h.stop id
  | status id waitFails =>
    cases hnext
    exact h.status id waitFails
  | healthCheck config =>
    cases hnext
    exact h.beginStarts config _
  | startEnabled config =>
    cases hnext
    exact h.beginStarts config _
  | advance i ok =>
    obtain ⟨start, hi, rfl⟩ := Option.map_eq_some_iff.mp hnext
    exact h.advance hi
  | cancel i =>
    obtain ⟨start, hi, rfl⟩ := Option.map_eq_some_iff.mp hnext
    exact h.cancel hi
  | exits pid =>
    cases hnext
    exact h.without pid

theorem reachable_inv {available : ExtensionId → Bool} (h : (system available).Reachable s) :
    Inv s := by
  refine TSys.invariant ?_ (fun s event t hinv hstep => hinv.next hstep) h
  rintro s rfl
  exact ⟨fun p hp => (nomatch hp), fun p hp => (nomatch hp), fun p hp => (nomatch hp),
    List.Pairwise.nil, fun id child hchild => nomatch hchild⟩

/-- **Ownership.** In every state of every run, a process that runs has arguments that were built
for its extension, and is the one in the table or that of a start at work; without such a start an
extension has at most one process. -/
theorem processes_owned {available : ExtensionId → Bool} (h : (system available).Reachable s) :
    (∀ p ∈ s.running, Owned s p ∧ ∃ config, buildArgs p.id config = .ok p.args) ∧
    ∀ id, (∀ start ∈ s.starts, start.id ≠ id) → ∀ p ∈ s.running, ∀ q ∈ s.running,
      p.id = id → q.id = id → p = q := by
  have hinv := reachable_inv h
  refine ⟨fun p hp => ⟨hinv.owned p hp, hinv.args p hp⟩, ?_⟩
  rintro id hnone p hp q hq rfl hid
  have hentry : ∀ r ∈ s.running, r.id = p.id → ∃ child, s.processes p.id = some child ∧
      child.pid = r.pid := by
    intro r hr hsame
    rcases hinv.owned r hr with hchild | ⟨start, hmem, hstart, -⟩
    · exact hsame ▸ hchild
    · exact absurd (hstart.trans hsame) (hnone start hmem)
  obtain ⟨child, hchild, hpid⟩ := hentry p hp rfl
  obtain ⟨child', hchild', hpid'⟩ := hentry q hq hid
  obtain rfl := Option.some.inj (hchild.symm.trans hchild')
  exact List.inj_on_of_nodup_map hinv.distinct hp hq (hpid.symm.trans hpid')

/-! ## Stopping -/

/-- The event begins a start of the extension, or may begin one. -/
def Event.begins (id : ExtensionId) : Event → Bool
  | .start id' _ => id' = id
  | .healthCheck config | .startEnabled config => shouldRun config id
  | .stop _ | .status _ _ | .advance _ _ | .cancel _ | .exits _ => false

/-- No process of the extension runs, and no start of it is at work. -/
structure Quiet (id : ExtensionId) (s : State) : Prop where
  running : ∀ p ∈ s.running, p.id ≠ id
  starts : ∀ start ∈ s.starts, start.id ≠ id

theorem Quiet.fewer (h : Quiet id s) (hrunning : ∀ p ∈ t.running, p ∈ s.running)
    (hstarts : ∀ start ∈ t.starts, start ∈ s.starts) : Quiet id t :=
  ⟨fun p hp => h.running p (hrunning p hp),
    fun start hstart => h.starts start (hstarts start hstart)⟩

theorem Quiet.beginStart (h : Quiet id s) {id' : ExtensionId} (hne : id' ≠ id)
    (config : ExtensionsConfig) : Quiet id (s.beginStart id' config) := by
  unfold State.beginStart
  split
  · refine ⟨h.running, fun start hstart => ?_⟩
    rcases List.mem_append.mp hstart with hold | hnew
    · exact h.starts start hold
    · obtain rfl := List.mem_singleton.mp hnew
      exact hne
  · exact h

theorem Quiet.beginStarts (config : ExtensionsConfig) (ids : List ExtensionId) (hne : id ∉ ids) :
    ∀ {s : State}, Quiet id s → Quiet id (ids.foldl (fun s id => s.beginStart id config) s) := by
  induction ids with
  | nil => exact fun h => h
  | cons id' rest ih =>
    intro s h
    rw [List.mem_cons, not_or] at hne
    exact ih hne.2 (h.beginStart (Ne.symm hne.1) config)

theorem Quiet.stop (h : Quiet id s) (id' : ExtensionId) : Quiet id (s.stop id') :=
  h.fewer (fun _ hp => (State.mem_killEntry.mp hp).1)
    fun _ hstart => (s.killEntry_starts id') ▸ hstart

/-- An event that begins no start of the extension leaves it quiet. -/
theorem Quiet.next {event : Event} (h : Quiet id s) (hbegins : event.begins id = false)
    (hnext : s.next event = some t) : Quiet id t := by
  cases event with
  | start id' config =>
    cases hnext
    exact h.beginStart (of_decide_eq_false hbegins) config
  | stop id' =>
    cases hnext
    exact h.stop id'
  | status id' waitFails =>
    cases hnext
    obtain ⟨hrunning, hstarts⟩ := s.status_keeps id' waitFails
    exact h.fewer (fun p hp => hrunning ▸ hp) fun start hstart => hstarts ▸ hstart
  | healthCheck config =>
    cases hnext
    refine h.beginStarts config _ fun hmem => ?_
    have hguard := (List.mem_filter.mp (List.mem_filter.mp hmem).1).2
    rw [show shouldRun config id = false from hbegins] at hguard
    cases hguard
  | startEnabled config =>
    cases hnext
    refine h.beginStarts config _ fun hmem => ?_
    have hguard := (List.mem_filter.mp hmem).2
    rw [show shouldRun config id = false from hbegins] at hguard
    cases hguard
  | advance i ok =>
    obtain ⟨start, hi, rfl⟩ := Option.map_eq_some_iff.mp hnext
    have hother : start.id ≠ id := h.starts start (List.mem_of_getElem? hi)
    have hset : ∀ start' : Start, start'.id = start.id →
        ∀ x ∈ s.starts.set i start', x.id ≠ id := by
      intro start' hsame x hx
      rcases List.mem_or_eq_of_mem_set hx with hold | rfl
      · exact h.starts x hold
      · rwa [hsame]
    have herase : ∀ x ∈ s.starts.eraseIdx i, x.id ≠ id := fun x hx =>
      h.starts x ((List.eraseIdx_sublist _ _).subset hx)
    unfold State.advance
    split
    · exact ⟨(h.stop start.id).running, hset _ rfl⟩
    · split
      · refine ⟨fun p hp => ?_, hset _ rfl⟩
        rcases List.mem_append.mp hp with hold | hnew
        · exact h.running p hold
        · obtain rfl := List.mem_singleton.mp hnew
          exact hother
      · exact ⟨h.running, herase⟩
    · exact ⟨fun p hp => h.running p (State.mem_killEntry.mp hp).1, herase⟩
  | cancel i =>
    obtain ⟨start, hi, rfl⟩ := Option.map_eq_some_iff.mp hnext
    have herase : ∀ x ∈ s.starts.eraseIdx i, x.id ≠ id := fun x hx =>
      h.starts x ((List.eraseIdx_sublist _ _).subset hx)
    unfold State.cancel
    split
    · exact ⟨fun p hp => h.running p (State.mem_without.mp hp).1, herase⟩
    · exact ⟨h.running, herase⟩
  | exits pid =>
    cases hnext
    exact h.fewer (fun p hp => (State.mem_without.mp hp).1) fun start hstart => hstart

/-- What is stopped without a start at work is quiet. -/
theorem Inv.quiet_stop (h : Inv s) (hnone : ∀ start ∈ s.starts, start.id ≠ id) :
    Quiet id (s.stop id) := by
  refine ⟨fun p hp hid => ?_, fun start hstart => ?_⟩
  · obtain ⟨hmem, hkilled⟩ := State.mem_killEntry.mp hp
    rcases h.owned p hmem with ⟨child, hchild, hpid⟩ | ⟨start, hstart, hsame, -⟩
    · exact hkilled child (hid ▸ hchild) hpid.symm
    · exact hnone start hstart (hsame.trans hid)
  · exact hnone start ((s.killEntry_starts id) ▸ hstart)

theorem Quiet.run {events : List Event} (hbegins : ∀ event ∈ events, event.begins id = false) :
    ∀ {s : State}, Quiet id s → events.foldlM State.next s = some t → Quiet id t := by
  induction events with
  | nil =>
    intro s h hrun
    cases hrun
    exact h
  | cons event rest ih =>
    intro s h hrun
    rw [List.foldlM_cons] at hrun
    obtain ⟨u, hstep, hrest⟩ := Option.bind_eq_some_iff.mp hrun
    exact ih (fun e he => hbegins e (List.mem_cons_of_mem _ he))
      (h.next (hbegins event List.mem_cons_self) hstep) hrest

/-- **Stopping.** An extension that is stopped while no start of it is at work has no process in
any state after it until another start of it is begun. -/
theorem stopped_stays {available : ExtensionId → Bool} (h : (system available).Reachable s)
    (hnone : ∀ start ∈ s.starts, start.id ≠ id) {events : List Event}
    (hbegins : ∀ event ∈ events, event.begins id = false)
    (hrun : events.foldlM State.next (s.stop id) = some t) : ∀ p ∈ t.running, p.id ≠ id :=
  (((reachable_inv h).quiet_stop hnone).run hbegins hrun).running

/-! ## Health checks -/

/-- **Health check.** It restarts just what should run, is available and is not in the table; a
process that has exited stays in the table, and is restarted after its status was asked for. -/
theorem health_check_restarts {available : ExtensionId → Bool} (h : (system available).Reachable s)
    (config : ExtensionsConfig) :
    (∀ id, id ∈ s.needsRestart config ↔
      shouldRun config id = true ∧ s.available id = true ∧ s.processes id = none) ∧
    ∀ id child, s.processes id = some child → s.isRunning child.pid = false →
      shouldRun config id = true → s.available id = true →
        id ∉ s.needsRestart config ∧ id ∈ (s.status id false).2.needsRestart config := by
  have hinv := reachable_inv h
  have hiff : ∀ {t : State}, Inv t → ∀ id, id ∈ t.needsRestart config ↔
      shouldRun config id = true ∧ t.available id = true ∧ t.processes id = none := by
    intro t ht id
    have hall : id ∈ ExtensionId.all := by cases id <;> decide
    rw [State.needsRestart, List.mem_filter, List.mem_filter, Bool.and_eq_true]
    cases hchild : t.processes id with
    | none => simp [hall]
    | some child =>
      have hid : child.id.isNone = false := by simp [Child.id, ht.waited id child hchild]
      simp [hid]
  refine ⟨hiff hinv, fun id child hchild hexited hshould havailable => ?_⟩
  constructor
  · rw [hiff hinv, hchild]
    simp
  · rw [hiff (hinv.status id false)]
    have hstatus : (s.status id false).2
        = { s with processes := Function.update s.processes id none } := by
      rw [State.status, if_neg (by simp [havailable]), hchild]
      simp [hexited]
    rw [hstatus]
    exact ⟨hshould, havailable, Function.update_self ..⟩

/-! ## A tunnel and a terminal -/

def tunnelConfig : ExtensionsConfig where
  ttyd := { enabled := true }
  gostc := { enabled := true, addr := " example.net:443 ", key := "k" }

/-- Both are started, the tunnel twice at once, and the terminal exits. -/
def tunnelEvents : List Event :=
  [.startEnabled tunnelConfig, .start .gostc tunnelConfig, .advance 0 true, .advance 0 true,
    .advance 1 true, .advance 1 true, .advance 2 true, .advance 2 true, .advance 0 true,
    .advance 0 true, .advance 0 true, .exits 0]

def tunnelRun (events : List Event) : Option State :=
  events.foldlM State.next (State.new fun id => decide (id ≠ .easytier))

theorem tunnelRun_reachable (events : List Event) (p : State → Bool)
    (h : (tunnelRun events).any p = true) :
    ∃ s, (system fun id => decide (id ≠ .easytier)).Reachable s ∧ p s = true := by
  obtain ⟨s, hs, hp⟩ := (Option.any_eq_true _ _).mp h
  exact ⟨s, TSys.ofFn_reachable (.init rfl) hs, hp⟩

/-- Three processes of two extensions, two of them held by starts. -/
theorem tunnel_owned : ∃ s, (system fun id => decide (id ≠ .easytier)).Reachable s ∧
    s.running.length = 3 ∧ ∀ p ∈ s.running, Owned s p := by
  obtain ⟨s, hreachable, hlength⟩ := tunnelRun_reachable (tunnelEvents.take 9)
    (fun s => s.running.length == 3) (by decide)
  exact ⟨s, hreachable, beq_iff_eq.mp hlength,
    fun p hp => ((processes_owned hreachable).1 p hp).1⟩

/-- The tunnel is stopped, and a health check without it follows. -/
theorem tunnel_stays : ∃ s t, (system fun id => decide (id ≠ .easytier)).Reachable s ∧
    [Event.healthCheck {}, .status .gostc false].foldlM State.next (s.stop .gostc) = some t ∧
    ∀ p ∈ t.running, p.id ≠ .gostc := by
  obtain ⟨s, hreachable, hend⟩ := tunnelRun_reachable tunnelEvents (fun s => s.starts.isEmpty &&
    ([Event.healthCheck {}, .status .gostc false].foldlM State.next (s.stop .gostc)).isSome)
    (by decide)
  rw [Bool.and_eq_true, List.isEmpty_iff] at hend
  obtain ⟨t, ht⟩ := Option.isSome_iff_exists.mp hend.2
  refine ⟨s, t, hreachable, ht, stopped_stays hreachable ?_ (by decide) ht⟩
  rw [hend.1]
  exact fun start hstart => nomatch hstart

/-- The terminal that has exited is restarted after its status was asked for. -/
theorem tunnel_restarts : ∃ s, (system fun id => decide (id ≠ .easytier)).Reachable s ∧
    .ttyd ∉ s.needsRestart tunnelConfig ∧
    .ttyd ∈ (s.status .ttyd false).2.needsRestart tunnelConfig := by
  obtain ⟨s, hreachable, hend⟩ := tunnelRun_reachable tunnelEvents
    (fun s => s.processes .ttyd == some ⟨0, false⟩ && !s.isRunning 0 && s.available .ttyd)
    (by decide)
  simp only [Bool.and_eq_true, beq_iff_eq, Bool.not_eq_true'] at hend
  exact ⟨s, hreachable,
    (health_check_restarts hreachable tunnelConfig).2 .ttyd _ hend.1.1 hend.1.2 rfl hend.2⟩

end StreamBox.Extensions
