import Mathlib.Data.List.Basic
import StreamBox.Video.Streamer

/-!
# The auto-pause monitor

The first `start` of a streamer spawns a monitor under a flag that is never cleared. Every two
seconds the monitor looks whether there are clients; when there have been none for the configured
delay it stops the stream, and itself. Time passes in nanoseconds, and not past a tick that is
due.
-/

namespace StreamBox.Video.AutoPause

open StreamBox.Lib

def second : Nat := 1000000000

/-- The period of the monitor's interval, whose first tick is at once. -/
def period : Nat := 2 * second

structure AutoPauseConfig where
  enabled : Bool := false
  shutdownDelaySecs : Nat := 10
  deriving DecidableEq, Repr

/-- Where the task is: at its interval, waiting for the `stop` it has called, out of its loop. -/
inductive Phase
  | ticking
  | stopping (call : Nat)
  | gone
  deriving DecidableEq, Repr

structure Monitor where
  nextTick : Nat
  zeroSince : Option Nat := none
  phase : Phase := .ticking
  deriving DecidableEq, Repr

def Monitor.alive (m : Monitor) : Bool := m.phase != .gone

structure State where
  streamer : Streamer.State := {}
  backgroundTasksStarted : Bool := false
  config : AutoPauseConfig := {}
  clients : Nat := 0
  /-- Every monitor there ever was, in order. -/
  monitors : List Monitor := []
  now : Nat := 0
  /-- When clients, configuration or monitors last changed. -/
  quietSince : Nat := 0
  deriving DecidableEq, Repr

/-- The call has the lock of the handle next, after which `start` spawns its background tasks. -/
def startsTasks : Streamer.Call → Bool
  | .start (.handle _) => true
  | .recovery (.start (.handle _)) => true
  | _ => false

/-- The tasks are started unless the flag is set. -/
def startTasks (s : State) : State :=
  if s.backgroundTasksStarted then s
  else
    { s with
      backgroundTasksStarted := true
      monitors := s.monitors ++ [{ nextTick := s.now }]
      quietSince := s.now }

/-- The event is the step of a `start` that starts the tasks. -/
def Spawns (s : State) : Streamer.Event → Bool
  | .advance i _ => (s.streamer.calls[i]?).any startsTasks
  | _ => false

/-- A tick of the monitor `i`. -/
def tick (s : State) (i : Nat) (m : Monitor) : State :=
  let m := { m with nextTick := m.nextTick + period }
  if !s.config.enabled then
    { s with monitors := s.monitors.set i { m with zeroSince := none } }
  else if s.clients = 0 then
    match m.zeroSince with
    | none => { s with monitors := s.monitors.set i { m with zeroSince := some s.now } }
    | some since =>
      if (s.now - since) / second ≥ s.config.shutdownDelaySecs then
        { s with
          streamer := { s.streamer with calls := s.streamer.calls ++ [.stop .flag] }
          monitors := s.monitors.set i { m with phase := .stopping s.streamer.calls.length } }
      else { s with monitors := s.monitors.set i m }
  else { s with monitors := s.monitors.set i { m with zeroSince := none } }

inductive Event
  | streamer (e : Streamer.Event)
  | register
  | unregister
  | setAutoPauseConfig (config : AutoPauseConfig)
  | tick (i : Nat)
  /-- The `stop` of the monitor has returned. -/
  | leave (i : Nat)
  | wait (time : Nat)
  deriving DecidableEq, Repr

def step (s : State) : Event → Option State
  | .streamer e =>
    (Streamer.step s.streamer e).map fun t =>
      if Spawns s e then startTasks { s with streamer := t } else { s with streamer := t }
  | .register => some { s with clients := s.clients + 1, quietSince := s.now }
  | .unregister => some { s with clients := s.clients - 1, quietSince := s.now }
  | .setAutoPauseConfig config => some { s with config, quietSince := s.now }
  | .tick i =>
    match s.monitors[i]? with
    | some m => if m.phase = .ticking ∧ m.nextTick ≤ s.now then some (tick s i m) else none
    | none => none
  | .leave i =>
    match s.monitors[i]? with
    | some m =>
      match m.phase with
      | .stopping call =>
        if s.streamer.calls[call]? = some .returned then
          some { s with monitors := s.monitors.set i { m with phase := .gone } }
        else none
      | _ => none
    | none => none
  | .wait time =>
    if ∀ m ∈ s.monitors, m.phase = .ticking → s.now + time ≤ m.nextTick then
      some { s with now := s.now + time }
    else none

def system : TSys State Event :=
  .ofFn (· = {}) step

/-! ## What is claimed of a state -/

/-- No client came or went and nothing else changed for the delay and two periods. -/
def Overdue (s : State) : Prop :=
  s.config.enabled = true ∧ s.clients = 0 ∧
    s.quietSince + s.config.shutdownDelaySecs * second + 2 * period < s.now

/-- Once the tasks are started there is a monitor, and a stream that has long been without
clients is being stopped. -/
def Watched (s : State) : Prop :=
  s.backgroundTasksStarted = true →
    (∃ m ∈ s.monitors, m.alive = true) ∧
      (s.streamer.directActive = true → Overdue s →
        ∃ m ∈ s.monitors, ∃ call, m.phase = .stopping call)

/-- The step is a tick that finds auto-pause enabled and no clients for the delay. -/
def Pauses (s : State) : Event → Prop
  | .tick i => s.config.enabled = true ∧ s.clients = 0 ∧
      (s.monitors[i]?.bind (·.zeroSince)).any fun since =>
        s.config.shutdownDelaySecs ≤ (s.now - since) / second
  | _ => False

instance (s : State) : (e : Event) → Decidable (Pauses s e)
  | .tick _ => inferInstanceAs (Decidable (_ ∧ _ ∧ _))
  | .streamer _ | .register | .unregister | .setAutoPauseConfig _ | .leave _ | .wait _ =>
    inferInstanceAs (Decidable False)

/-! ## Runs without a pause -/

/-- The monitor ticks, on time, and counts from at most a period after the last change. -/
structure OnTime (s : State) (m : Monitor) : Prop where
  ticking : m.phase = .ticking
  due : s.now ≤ m.nextTick
  soon : m.nextTick ≤ s.now + period
  quiet : s.quietSince ≤ s.now
  zero : ∀ since, m.zeroSince = some since → since ≤ s.now
  counts : s.config.enabled = true → s.clients = 0 →
    m.nextTick ≤ s.quietSince + period ∨
      ∃ since, m.zeroSince = some since ∧ since ≤ s.quietSince + period ∧
        m.nextTick ≤ since + s.config.shutdownDelaySecs * second + period

structure Inv (s : State) : Prop where
  fresh : s.backgroundTasksStarted = false → s.monitors = [] ∧ s.quietSince ≤ s.now
  started : s.backgroundTasksStarted = true → ∃ m, s.monitors = [m] ∧ OnTime s m

theorem inv_init : Inv {} where
  fresh _ := ⟨rfl, Nat.le_refl _⟩
  started h := by cases h

theorem Inv.watched {s : State} (h : Inv s) : Watched s := by
  intro hstarted
  obtain ⟨m, hmonitors, hm⟩ := h.started hstarted
  refine ⟨⟨m, by rw [hmonitors]; exact List.mem_singleton_self m, ?_⟩, ?_⟩
  · rw [Monitor.alive, hm.ticking]
    rfl
  · rintro - ⟨henabled, hclients, hlong⟩
    exfalso
    have hdue := hm.due
    rcases hm.counts henabled hclients with hrecent | ⟨since, -, hsince, hnext⟩
    · omega
    · omega

/-- A step of the streamer, which leaves the monitors alone. -/
theorem Inv.streamer {s : State} (h : Inv s) (t : Streamer.State) : Inv { s with streamer := t } where
  fresh := h.fresh
  started hstarted := by
    obtain ⟨m, hmonitors, hm⟩ := h.started hstarted
    exact ⟨m, hmonitors, hm.ticking, hm.due, hm.soon, hm.quiet, hm.zero, hm.counts⟩

theorem Inv.startTasks {s : State} (h : Inv s) : Inv (startTasks s) := by
  rw [AutoPause.startTasks]
  by_cases hstarted : s.backgroundTasksStarted = true
  · rw [if_pos hstarted]
    exact h
  · rw [if_neg hstarted]
    obtain ⟨hnone, -⟩ := h.fresh (eq_false_of_ne_true hstarted)
    refine ⟨fun hfresh => (by cases hfresh), fun _ => ?_⟩
    refine ⟨{ nextTick := s.now }, by rw [hnone]; rfl, ?_⟩
    exact {
      ticking := rfl
      due := Nat.le_refl _
      soon := Nat.le_add_right _ _
      quiet := Nat.le_refl _
      zero := by
        intro since hsince
        cases hsince
      counts := fun _ _ => Or.inl (Nat.le_add_right _ _) }

/-- A change of clients or configuration starts a new quiet time. -/
theorem Inv.changed {s : State} (h : Inv s) (clients : Nat) (config : AutoPauseConfig) :
    Inv { s with clients, config, quietSince := s.now } where
  fresh hfresh := ⟨(h.fresh hfresh).1, Nat.le_refl _⟩
  started hstarted := by
    obtain ⟨m, hmonitors, hm⟩ := h.started hstarted
    exact ⟨m, hmonitors, hm.ticking, hm.due, hm.soon, Nat.le_refl _, hm.zero,
      fun _ _ => Or.inl hm.soon⟩

theorem Inv.wait {s : State} (h : Inv s) {time : Nat}
    (hdue : ∀ m ∈ s.monitors, m.phase = .ticking → s.now + time ≤ m.nextTick) :
    Inv { s with now := s.now + time } where
  fresh hfresh := ⟨(h.fresh hfresh).1, Nat.le_trans (h.fresh hfresh).2 (Nat.le_add_right _ _)⟩
  started hstarted := by
    obtain ⟨m, hmonitors, hm⟩ := h.started hstarted
    have hnext := hdue m (by rw [hmonitors]; exact List.mem_singleton_self m) hm.ticking
    refine ⟨m, hmonitors, hm.ticking, hnext, ?_, ?_, ?_, hm.counts⟩
    · exact Nat.le_trans hm.soon (Nat.add_le_add_right (Nat.le_add_right _ _) _)
    · exact Nat.le_trans hm.quiet (Nat.le_add_right _ _)
    · exact fun since hsince => Nat.le_trans (hm.zero since hsince) (Nat.le_add_right _ _)

/-- A tick without clients, by whether an earlier one has found none. -/
theorem tick_quiet {s : State} {i : Nat} {m : Monitor} (henabled : s.config.enabled = true)
    (hclients : s.clients = 0) {since : Nat} (hless :
      m.zeroSince = some since → (s.now - since) / second < s.config.shutdownDelaySecs)
    (hsince : m.zeroSince = some since ∨ m.zeroSince = none ∧ since = s.now) :
    tick s i m =
      { s with monitors := s.monitors.set i ⟨m.nextTick + period, some since, m.phase⟩ } := by
  unfold tick
  dsimp only
  rw [if_neg (by rw [henabled]; decide), if_pos hclients]
  rcases hsince with hsome | ⟨hnone, rfl⟩
  · rw [hsome]
    exact if_neg (Nat.not_le_of_lt (hless hsome))
  · rw [hnone]

/-- Any other tick forgets when the last client left. -/
theorem tick_reset {s : State} {i : Nat} {m : Monitor}
    (h : s.config.enabled = true → s.clients ≠ 0) :
    tick s i m = { s with monitors := s.monitors.set i ⟨m.nextTick + period, none, m.phase⟩ } := by
  unfold tick
  dsimp only
  by_cases henabled : s.config.enabled = true
  · rw [if_neg (by rw [henabled]; decide), if_neg (h henabled)]
  · rw [if_pos (by rw [eq_false_of_ne_true henabled]; rfl)]

/-- A tick on which nothing is paused. -/
theorem Inv.tick {s : State} (h : Inv s) {i : Nat} {m : Monitor} (hm : s.monitors[i]? = some m)
    (hnow : m.nextTick ≤ s.now) (hpause : ¬Pauses s (.tick i)) : Inv (tick s i m) := by
  by_cases hstarted : s.backgroundTasksStarted = true
  · obtain ⟨only, hmonitors, honly⟩ := h.started hstarted
    rw [hmonitors] at hm
    cases i with
    | succ i => cases hm
    | zero =>
      obtain rfl := Option.some.inj hm
      have hat : only.nextTick = s.now := Nat.le_antisymm hnow honly.due
      have hset : ∀ m', s.monitors.set 0 m' = [m'] := by
        intro m'
        rw [hmonitors]
        rfl
      -- The tick is on time: the next one is a period from now.
      have hkeep : ∀ zero : Option Nat,
          (∀ since, zero = some since → since ≤ s.now) →
          (s.config.enabled = true → s.clients = 0 → ∃ since, zero = some since ∧
            since ≤ s.quietSince + period ∧
              s.now ≤ since + s.config.shutdownDelaySecs * second) →
          Inv { s with monitors := s.monitors.set 0 ⟨only.nextTick + period, zero, only.phase⟩ } := by
        intro zero hzero hcounts
        refine ⟨fun hfresh => absurd (hfresh.symm.trans hstarted) (by decide), fun _ => ?_⟩
        refine ⟨_, hset _, honly.ticking, ?_, ?_, honly.quiet, hzero, ?_⟩
        · show s.now ≤ only.nextTick + period
          omega
        · show only.nextTick + period ≤ s.now + period
          omega
        · intro henabled hclients
          obtain ⟨since, hsince, hquiet, hnext⟩ := hcounts henabled hclients
          refine Or.inr ⟨since, hsince, hquiet, ?_⟩
          show only.nextTick + period ≤ since + s.config.shutdownDelaySecs * second + period
          omega
      by_cases hidle : s.config.enabled = true ∧ s.clients = 0
      · obtain ⟨henabled, hclients⟩ := hidle
        have hcounts := honly.counts henabled hclients
        cases hzero : only.zeroSince with
        | none =>
          have hnow : only.zeroSince = some s.now →
              (s.now - s.now) / second < s.config.shutdownDelaySecs := by
            intro h
            rw [hzero] at h
            cases h
          rw [tick_quiet henabled hclients hnow (Or.inr ⟨hzero, rfl⟩)]
          apply hkeep (some s.now)
          · intro since hsince
            exact Nat.le_of_eq (Option.some.inj hsince).symm
          · intro _ _
            refine ⟨s.now, rfl, ?_, Nat.le_add_right _ _⟩
            rcases hcounts with hrecent | ⟨since, hsince, -⟩
            · omega
            · rw [hzero] at hsince
              cases hsince
        | some since =>
          have hless : (s.now - since) / second < s.config.shutdownDelaySecs := by
            apply Nat.lt_of_not_le
            intro hlong
            refine hpause ⟨henabled, hclients, ?_⟩
            rw [hmonitors]
            simp only [List.getElem?_cons_zero, Option.bind_some, hzero, Option.any_some,
              decide_eq_true hlong]
          have hwithin : s.now - since < s.config.shutdownDelaySecs * second :=
            Nat.lt_mul_of_div_lt hless (by decide)
          have hbefore := honly.zero since hzero
          rw [tick_quiet henabled hclients (fun _ => hless) (Or.inl hzero), ← hzero]
          apply hkeep only.zeroSince honly.zero
          intro _ _
          refine ⟨since, hzero, ?_, by omega⟩
          rcases hcounts with hrecent | ⟨since', hsince', hquiet', -⟩
          · omega
          · rw [hzero] at hsince'
            cases hsince'
            exact hquiet'
      · rw [tick_reset fun henabled hclients => hidle ⟨henabled, hclients⟩]
        apply hkeep none
        · intro since hsince
          cases hsince
        · exact fun henabled hclients => absurd ⟨henabled, hclients⟩ hidle
  · rw [(h.fresh (eq_false_of_ne_true hstarted)).1] at hm
    cases hm

theorem Inv.step {s t : State} {e : Event} (h : Inv s) (hstep : step s e = some t)
    (hpause : ¬Pauses s e) : Inv t := by
  cases e with
  | streamer e =>
    obtain ⟨u, hu, rfl⟩ := Option.map_eq_some_iff.1 hstep
    split
    · exact (h.streamer u).startTasks
    · exact h.streamer u
  | register =>
    cases hstep
    exact h.changed _ _
  | unregister =>
    cases hstep
    exact h.changed _ _
  | setAutoPauseConfig config =>
    cases hstep
    exact h.changed _ _
  | tick i =>
    rw [AutoPause.step] at hstep
    cases hm : s.monitors[i]? with
    | none =>
      rw [hm] at hstep
      cases hstep
    | some m =>
      simp only [hm] at hstep
      split at hstep
      · rename_i hdue
        cases hstep
        exact h.tick hm hdue.2 hpause
      · cases hstep
  | leave i =>
    rw [AutoPause.step] at hstep
    cases hm : s.monitors[i]? with
    | none =>
      rw [hm] at hstep
      cases hstep
    | some m =>
      -- The only monitor is at its interval.
      have hticking : m.phase = .ticking := by
        by_cases hstarted : s.backgroundTasksStarted = true
        · obtain ⟨only, hmonitors, honly⟩ := h.started hstarted
          have hmem := List.mem_of_getElem? hm
          rw [hmonitors] at hmem
          rw [List.mem_singleton.1 hmem]
          exact honly.ticking
        · rw [(h.fresh (eq_false_of_ne_true hstarted)).1] at hm
          cases hm
      simp only [hm, hticking] at hstep
      cases hstep
  | wait time =>
    rw [AutoPause.step] at hstep
    split at hstep
    · rename_i hdue
      cases hstep
      exact h.wait hdue
    · cases hstep

/-- The steps of `start` as call `i`, with the device open or not yet. -/
def startSteps (i : Nat) (opened : Bool) : List Event :=
  .streamer .start :: List.replicate (if opened then 6 else 7) (.streamer (.advance i false))

/-- The steps of a `stop` as call `i` that waits for the loop 0. -/
def stopSteps (i : Nat) : List Event :=
  [.streamer (.advance i false), .streamer (.advance i false), .streamer (.loop 0 .opens),
    .streamer (.loop 0 .stopped), .streamer (.loop 0 .exit)] ++
  List.replicate 3 (.streamer (.advance i false))

end StreamBox.Video.AutoPause
