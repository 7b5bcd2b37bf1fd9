import StreamBox.Video.StopRespected

/-!
# The recovery of a lost device

* **Recovery** — `never_abandoned`: as long as the loops that a recovery task runs can open the
  device, nothing else writes `Ready` or `Error` while a task polls for the restarted capture,
  and no loss is reported to a task that is about to end, a lost device has a task that goes on.
* **Failure** — `abandoned`: a loop of a recovery task that cannot open the device writes
  `Error`, which no task recovers from.
-/

namespace StreamBox.Video.Streamer

open StreamBox.Lib

/-- The streamer, and the loops of recovery tasks that have yet to open the device. -/
structure Recovered where
  streamer : State := {}
  reopening : List Nat := []
  deriving DecidableEq

/-- The step is one in which a recovery task runs a loop. -/
def reopens (s : State) : Event → Bool
  | .advance i _ => s.calls[i]?.any (· == .recovery (.start .spawn))
  | _ => false

def Recovered.step (r : Recovered) (e : Event) : Option Recovered :=
  (Streamer.step r.streamer e).map fun t =>
    { streamer := t
      reopening :=
        if reopens r.streamer e then r.reopening ++ [r.streamer.loops.length]
        else r.reopening.filter fun loop => e ≠ .loop loop .opens }

def recoverySystem : TSys Recovered Event := .ofFn (· = {}) Recovered.step

/-! ## Recovery of a device -/

/-- The state is one that a recovery task retries from. -/
def Lost (s : State) : Prop := s.state = .deviceLost ∨ s.state = .recovering

instance (s : State) : Decidable (Lost s) := inferInstanceAs (Decidable (_ ∨ _))

/-- The call is a recovery task that is not about to end. -/
def Call.recovers : Call → Bool
  | .recovery .finish => false
  | .recovery _ => true
  | _ => false

/-- A recovery task is alive. -/
def RecoveryAlive (s : State) : Prop := ∃ call ∈ s.calls, call.recovers = true

instance (s : State) : Decidable (RecoveryAlive s) := inferInstanceAs (Decidable (∃ _ ∈ _, _))

/-- The task is about to try, or restarts the capture. -/
def Recovery.tries : Recovery → Bool
  | .write | .restart | .start _ | .poll _ => true
  | .begin | .check | .finish => false

/-- An attempt fails: the task goes back to its look at the state, or the loop that it has run
cannot open the device. -/
def FailedAttempt (r : Recovered) (e : Event) (r' : Recovered) : Prop :=
  match e with
  | .advance i _ => ∃ pc, r.streamer.calls[i]? = some (.recovery pc) ∧ pc.tries = true ∧
      r'.streamer.calls[i]? = some (.recovery .check)
  | .loop loop .openFails => loop ∈ r.reopening
  | _ => False

/-! ## The conditions on the steps -/

/-- The task waits for the capture that it has restarted. -/
def Call.polls : Call → Bool
  | .recovery (.poll _) => true
  | _ => false

/-- The call is about to write `Ready`. -/
def Call.settles (call : Call) : Bool :=
  call.stopPc == some .write || call.startPc == some .init || call == .applyVideoConfig .write

/-- The step writes `Ready` or `Error`. -/
def writesReadyOrError (s : State) : Event → Bool
  | .loop _ .openFails | .loop _ .idle => true
  | .advance i _ => s.calls[i]?.any (·.settles)
  | _ => false

/-- A loss is reported while a task is there that is about to end. -/
def missed (s : State) : Event → Bool
  | .advance i _ => s.calls[i]?.any (· == .recovery .begin) && s.calls.any (· == .recovery .finish)
  | _ => false

/-- A loop of a recovery task opens the device; `Ready` and `Error` are not written while a task
polls; a loss is not reported to a task that is about to end. -/
structure Steady (r : Recovered) (e : Event) : Prop where
  opens : ∀ loop ∈ r.reopening, e ≠ .loop loop .openFails
  settles : writesReadyOrError r.streamer e = true → ∀ call ∈ r.streamer.calls, call.polls = false
  missed : missed r.streamer e = false

instance (r : Recovered) (e : Event) : Decidable (Steady r e) :=
  decidable_of_iff
    ((∀ loop ∈ r.reopening, e ≠ .loop loop .openFails) ∧
      (writesReadyOrError r.streamer e = true → ∀ call ∈ r.streamer.calls, call.polls = false) ∧
      missed r.streamer e = false)
    ⟨fun h => ⟨h.1, h.2.1, h.2.2⟩, fun h => ⟨h.opens, h.settles, h.missed⟩⟩

/-! ## The invariant -/

/-- A device is there once a loop is, and the streamer has been initialized once it is. -/
structure DeviceInv (s : State) : Prop where
  initialized : s.currentDevice = true → s.state ≠ .uninitialized
  loops : s.loops ≠ [] → s.currentDevice = true
  spawn : ∀ call ∈ s.calls, call.startPc = some .spawn → s.currentDevice = true
  recovery : ∀ pc, Call.recovery pc ∈ s.calls → s.currentDevice = true

/-- One task is past its beginning, where the flag says so; while it polls, the state is one of
a restarted capture. -/
structure RecoveryInv (s : State) : Prop where
  alive : Lost s → RecoveryAlive s
  flag : s.recoveryInProgress = true →
    ∃ (i : Nat) (pc : Recovery), s.calls[i]? = some (.recovery pc) ∧ pc ≠ .begin
  claimed : ∀ (i : Nat) (pc : Recovery), s.calls[i]? = some (.recovery pc) → pc ≠ .begin →
    s.recoveryInProgress = true
  unique : ∀ (i j : Nat) (pc pc' : Recovery), s.calls[i]? = some (.recovery pc) →
    s.calls[j]? = some (.recovery pc') → pc ≠ .begin → pc' ≠ .begin → i = j
  init : ∀ i : Nat, s.calls[i]? ≠ some (.recovery (.start .init))
  poll : ∀ (i left : Nat), s.calls[i]? = some (.recovery (.poll left)) →
    left = 5 ∧ (s.state = .deviceLost ∨ s.state = .streaming ∨ s.state = .noSignal)

/-! ## The device -/

/-- A step that keeps the device, or makes one known. -/
def DeviceKept (s t : State) : Prop :=
  t.currentDevice = s.currentDevice ∧ (t.state = s.state ∨ t.state ≠ .uninitialized) ∨
    t.currentDevice = true ∧ t.state ≠ .uninitialized

theorem DeviceKept.of_same {s t : State} (hdevice : t.currentDevice = s.currentDevice)
    (hstate : t.state = s.state) : DeviceKept s t := Or.inl ⟨hdevice, Or.inl hstate⟩

theorem DeviceKept.device {s t : State} (h : DeviceKept s t) (hs : s.currentDevice = true) :
    t.currentDevice = true := by
  rcases h with ⟨hdevice, -⟩ | ⟨hdevice, -⟩
  · exact hdevice.trans hs
  · exact hdevice

theorem DeviceKept.initialized {s t : State} (h : DeviceKept s t)
    (hs : s.currentDevice = true → s.state ≠ .uninitialized) (ht : t.currentDevice = true) :
    t.state ≠ .uninitialized := by
  rcases h with ⟨hdevice, hstate | hstate⟩ | ⟨-, hstate⟩
  · rw [hstate]
    exact hs (hdevice ▸ ht)
  · exact hstate
  · exact hstate

theorem device_start {s t : State} {i : Nat} {fails : Bool} {pc : Start}
    {progress : Progress Start} (h : s.start i fails pc = some (t, progress))
    (hloops : s.loops ≠ [] → s.currentDevice = true)
    (hspawn : pc = .spawn → s.currentDevice = true) :
    DeviceKept s t ∧ (t.loops ≠ [] → t.currentDevice = true) ∧
      (progress.pc = some .spawn → t.currentDevice = true) := by
  cases pc with
  | acquire | decide | handle loop =>
    simp only [State.start] at h
    split at h <;> cases h <;> exact ⟨.of_same rfl rfl, hloops, by simp [Progress.pc]⟩
  | init =>
    simp only [State.start] at h
    split at h <;> cases h
    · exact ⟨.of_same rfl rfl, hloops, by simp [Progress.pc]⟩
    · exact ⟨Or.inr ⟨rfl, by simp⟩, fun _ => rfl, fun _ => rfl⟩
  | device =>
    simp only [State.start] at h
    split at h <;> cases h
    · rename_i hdevice
      exact ⟨.of_same rfl rfl, hloops, fun _ => hdevice⟩
    · exact ⟨.of_same rfl rfl, hloops, by simp [Progress.pc]⟩
  | spawn =>
    cases h
    exact ⟨.of_same rfl rfl, fun _ => hspawn rfl, by simp [Progress.pc]⟩
  | write loop =>
    cases h
    exact ⟨Or.inl ⟨rfl, Or.inr (by simp)⟩, hloops, by simp [Progress.pc]⟩

theorem device_stop {s t : State} {i : Nat} {pc : Stop} {progress : Progress Stop}
    (h : s.stop i pc = some (t, progress)) (hloops : s.loops ≠ [] → s.currentDevice = true) :
    DeviceKept s t ∧ (t.loops ≠ [] → t.currentDevice = true) := by
  cases pc with
  | flag | inactive =>
    cases h
    exact ⟨.of_same rfl rfl, hloops⟩
  | write =>
    cases h
    exact ⟨Or.inl ⟨rfl, Or.inr (by simp)⟩, hloops⟩
  | take =>
    simp only [State.stop] at h
    split at h
    · split at h <;> cases h <;> exact ⟨.of_same rfl rfl, hloops⟩
    · cases h
  | wait loop =>
    simp only [State.stop] at h
    split at h <;> cases h
    exact ⟨.of_same rfl rfl, hloops⟩

/-- What a call does to the device: it may become known, and it is before a loop is run. -/
theorem device_next {s t : State} {i : Nat} {fails : Bool} {call call' : Call} (h : DeviceInv s)
    (hcall : call ∈ s.calls) (hnext : s.next i fails call = some (t, call')) :
    DeviceKept s t ∧ (t.loops ≠ [] → t.currentDevice = true) ∧
      (call'.startPc = some .spawn → t.currentDevice = true) ∧
      ∀ pc, call' = .recovery pc → t.currentDevice = true := by
  cases call with
  | returned => cases hnext
  | start pc =>
    obtain ⟨⟨u, progress⟩, hstep, heq⟩ := Option.map_eq_some_iff.mp hnext
    obtain ⟨hkept, hloops, hspawn⟩ := device_start hstep h.loops
      fun hpc => h.spawn _ hcall (congrArg some hpc)
    cases progress <;> cases heq
    · exact ⟨hkept, hloops, hspawn, by simp⟩
    · exact ⟨hkept, hloops, by simp [Call.startPc], by simp⟩
  | stop pc =>
    obtain ⟨⟨u, progress⟩, hstep, heq⟩ := Option.map_eq_some_iff.mp hnext
    obtain ⟨hkept, hloops⟩ := device_stop hstep h.loops
    cases progress <;> cases heq <;> exact ⟨hkept, hloops, by simp [Call.startPc], by simp⟩
  | applyVideoConfig pc =>
    cases pc with
    | check =>
      simp only [State.next, State.applyVideoConfig] at hnext
      split at hnext <;> cases hnext <;>
        exact ⟨.of_same rfl rfl, h.loops, by simp [Call.startPc], by simp⟩
    | stop pc =>
      obtain ⟨⟨u, progress⟩, hstep, heq⟩ := Option.map_eq_some_iff.mp hnext
      obtain ⟨hkept, hloops⟩ := device_stop hstep h.loops
      cases progress <;> cases heq <;> exact ⟨hkept, hloops, by simp [Call.startPc], by simp⟩
    | write =>
      cases hnext
      exact ⟨Or.inr ⟨rfl, by simp⟩, fun _ => rfl, by simp [Call.startPc], by simp⟩
  | recovery pc =>
    have hdevice : s.currentDevice = true := h.recovery pc hcall
    have hkept : DeviceKept s t := by
      cases pc with
      | start pc =>
        obtain ⟨⟨u, progress⟩, hstep, heq⟩ := Option.map_eq_some_iff.mp hnext
        have hkept := (device_start hstep h.loops fun _ => hdevice).1
        cases progress <;> cases heq <;> exact hkept
      | begin | poll =>
        simp only [State.next, State.recovery] at hnext
        split at hnext <;> cases hnext <;> exact .of_same rfl rfl
      | check | restart | finish =>
        cases hnext
        exact .of_same rfl rfl
      | write =>
        cases hnext
        exact Or.inl ⟨rfl, Or.inr (by simp)⟩
    have ht := hkept.device hdevice
    exact ⟨hkept, fun _ => ht, fun _ => ht, fun _ _ => ht⟩

/-- What a loop does: it reports a loss to a task that it starts, and writes what it sees. -/
structure LoopEffect (s : State) (e : LoopStep) (t : State) : Prop where
  device : t.currentDevice = s.currentDevice
  flag : t.recoveryInProgress = s.recoveryInProgress
  calls : t.calls = s.calls ∨ t.calls = s.calls ++ [.recovery .begin]
  state : t.state = s.state ∨ t.state = .streaming ∨ t.state = .noSignal ∨
    t.state = .deviceLost ∧ t.calls = s.calls ++ [.recovery .begin] ∨
    (e = .openFails ∨ e = .idle) ∧ (t.state = .ready ∨ t.state = .error)

theorem setState_effect {s : State} {loop : Nat} {l : CaptureLoop}
    (hl : s.loops[loop]? = some l) (state : StreamerState) (phase : Phase) :
    let t := s.setState loop state phase
    t.currentDevice = s.currentDevice ∧ t.recoveryInProgress = s.recoveryInProgress ∧
      t.calls = s.calls ∧ (t.state = s.state ∨ t.state = state) := by
  simp only [State.setState, hl]
  refine ⟨rfl, rfl, rfl, ?_⟩
  by_cases hstate : state ≠ l.lastState
  · exact Or.inr (if_pos hstate)
  · exact Or.inl (if_neg hstate)

theorem loopStep_effect {s t : State} {loop : Nat} {l : CaptureLoop} {e : LoopStep}
    (hl : s.loops[loop]? = some l) (h : s.loopStep loop l e = some t) : LoopEffect s e t := by
  cases e with
  | opens | stopped | softRestart | exit =>
    simp only [State.loopStep] at h
    split at h <;> cases h
    exact ⟨rfl, rfl, Or.inl rfl, Or.inl rfl⟩
  | openFails =>
    simp only [State.loopStep] at h
    split at h <;> cases h
    obtain ⟨hdevice, hflag, hcalls, hstate⟩ := setState_effect hl .error .leaving
    refine ⟨hdevice, hflag, Or.inl hcalls, ?_⟩
    rcases hstate with hstate | hstate
    · exact Or.inl hstate
    · exact Or.inr (Or.inr (Or.inr (Or.inr ⟨Or.inl rfl, Or.inr hstate⟩)))
  | idle =>
    simp only [State.loopStep] at h
    split at h <;> cases h
    obtain ⟨hdevice, hflag, hcalls, hstate⟩ := setState_effect hl .ready .leaving
    refine ⟨hdevice, hflag, Or.inl hcalls, ?_⟩
    rcases hstate with hstate | hstate
    · exact Or.inl hstate
    · exact Or.inr (Or.inr (Or.inr (Or.inr ⟨Or.inr rfl, Or.inl hstate⟩)))
  | timeout =>
    simp only [State.loopStep] at h
    split at h <;> cases h
    obtain ⟨hdevice, hflag, hcalls, hstate⟩ := setState_effect hl .noSignal .capturing
    refine ⟨hdevice, hflag, Or.inl hcalls, ?_⟩
    rcases hstate with hstate | hstate
    · exact Or.inl hstate
    · exact Or.inr (Or.inr (Or.inl hstate))
  | frame =>
    simp only [State.loopStep] at h
    split at h
    · split at h <;> cases h
      · exact ⟨rfl, rfl, Or.inl rfl, Or.inl rfl⟩
      · obtain ⟨hdevice, hflag, hcalls, hstate⟩ :=
          setState_effect hl .streaming .capturing
        refine ⟨hdevice, hflag, Or.inl hcalls, ?_⟩
        rcases hstate with hstate | hstate
        · exact Or.inl hstate
        · exact Or.inr (Or.inl hstate)
    · cases h
  | lost =>
    simp only [State.loopStep] at h
    split at h <;> cases h
    obtain ⟨hdevice, hflag, hcalls, hstate⟩ := setState_effect hl .deviceLost .leaving
    have hbegin : (s.setState loop .deviceLost .leaving).calls ++ [.recovery .begin] =
        s.calls ++ [.recovery .begin] := by rw [hcalls]
    refine ⟨hdevice, hflag, Or.inr hbegin, ?_⟩
    rcases hstate with hstate | hstate
    · exact Or.inl hstate
    · exact Or.inr (Or.inr (Or.inr (Or.inl ⟨hstate, hbegin⟩)))

theorem loopStep_kept {s t : State} {e : LoopStep} (h : LoopEffect s e t) : DeviceKept s t := by
  refine Or.inl ⟨h.device, ?_⟩
  rcases h.state with hstate | hstate | hstate | ⟨hstate, -⟩ | ⟨-, hstate | hstate⟩
  · exact Or.inl hstate
  all_goals
    right
    rw [hstate]
    simp

theorem DeviceInv.step {s t : State} {e : Event} (h : DeviceInv s)
    (hstep : Streamer.step s e = some t) : DeviceInv t := by
  have hbegin : ∀ call : Call, call.startPc ≠ some .spawn → (∀ pc, call ≠ .recovery pc) →
      DeviceInv { s with calls := s.calls ++ [call] } := by
    intro call hspawn hrecovery
    refine ⟨h.initialized, h.loops, ?_, ?_⟩
    · intro other hother hpc
      rcases List.mem_append.mp hother with hother | hother
      · exact h.spawn other hother hpc
      · rw [List.mem_singleton.mp hother] at hpc
        exact absurd hpc hspawn
    · intro pc hpc
      rcases List.mem_append.mp hpc with hpc | hpc
      · exact h.recovery pc hpc
      · exact absurd (List.mem_singleton.mp hpc).symm (hrecovery pc)
  cases e with
  | start | stop | applyVideoConfig =>
    cases hstep
    exact hbegin _ (by simp [Call.startPc]) (by simp)
  | advance i fails =>
    obtain ⟨call, hcall, hadvance⟩ := Option.bind_eq_some_iff.mp hstep
    obtain ⟨⟨u, call'⟩, hnext, rfl⟩ := Option.map_eq_some_iff.mp hadvance
    obtain ⟨hkept, hloops, hspawn, hrecovery⟩ :=
      device_next h (List.mem_of_getElem? hcall) hnext
    refine ⟨hkept.initialized h.initialized, hloops, ?_, ?_⟩
    · intro other hother hpc
      rcases List.mem_or_eq_of_mem_set hother with hother | rfl
      · exact hkept.device (h.spawn other hother hpc)
      · exact hspawn hpc
    · intro pc hpc
      rcases List.mem_or_eq_of_mem_set hpc with hpc | hpc
      · exact hkept.device (h.recovery pc hpc)
      · exact hrecovery pc hpc.symm
  | loop loop e =>
    obtain ⟨l, hl, hloop⟩ := Option.bind_eq_some_iff.mp hstep
    have hdevice : s.currentDevice = true := h.loops (List.ne_nil_of_mem (List.mem_of_getElem? hl))
    have hkept := loopStep_kept (loopStep_effect hl hloop)
    have ht := hkept.device hdevice
    exact ⟨hkept.initialized h.initialized, fun _ => ht, fun _ _ _ => ht, fun _ _ => ht⟩

/-! ## The tasks -/

/-- `start` and `stop` leave the flag and the tasks alone, and write no state that is lost. -/
theorem start_effect {s t : State} {i : Nat} {fails : Bool} {pc : Start}
    {progress : Progress Start} (h : s.start i fails pc = some (t, progress)) :
    t.recoveryInProgress = s.recoveryInProgress ∧
      (t.state = s.state ∨ t.state = .streaming ∨ pc = .init ∧ t.state = .ready) := by
  cases pc with
  | acquire | init | device | handle loop =>
    simp only [State.start] at h
    split at h <;> cases h <;> simp
  | decide =>
    simp only [State.start] at h
    split at h <;> cases h <;> simp
  | spawn | write loop =>
    cases h
    simp

theorem stop_effect {s t : State} {i : Nat} {pc : Stop} {progress : Progress Stop}
    (h : s.stop i pc = some (t, progress)) :
    t.recoveryInProgress = s.recoveryInProgress ∧
      (t.state = s.state ∨ pc = .write ∧ t.state = .ready) := by
  cases pc with
  | flag | inactive | write =>
    cases h
    simp
  | take =>
    simp only [State.stop] at h
    split at h
    · split at h <;> cases h <;> simp
    · cases h
  | wait loop =>
    simp only [State.stop] at h
    split at h <;> cases h
    simp

/-- So does a call that is no recovery task. -/
theorem next_effect {s t : State} {i : Nat} {fails : Bool} {call call' : Call}
    (h : s.next i fails call = some (t, call')) (hcall : ∀ pc, call ≠ .recovery pc) :
    t.recoveryInProgress = s.recoveryInProgress ∧ (∀ pc, call' ≠ .recovery pc) ∧
      (t.state = s.state ∨ t.state = .streaming ∨ call.settles = true ∧ t.state = .ready) := by
  cases call with
  | returned => cases h
  | recovery pc => exact absurd rfl (hcall pc)
  | start pc =>
    obtain ⟨⟨u, progress⟩, hstep, heq⟩ := Option.map_eq_some_iff.mp h
    obtain ⟨hflag, hstate⟩ := start_effect hstep
    have hstate' : u.state = s.state ∨ u.state = .streaming ∨
        (Call.start pc).settles = true ∧ u.state = .ready :=
      hstate.imp_right (Or.imp_right (And.imp_left fun hpc => by rw [hpc]; rfl))
    cases progress <;> cases heq <;> exact ⟨hflag, by simp, hstate'⟩
  | stop pc =>
    obtain ⟨⟨u, progress⟩, hstep, heq⟩ := Option.map_eq_some_iff.mp h
    obtain ⟨hflag, hstate⟩ := stop_effect hstep
    have hstate' : u.state = s.state ∨ u.state = .streaming ∨
        (Call.stop pc).settles = true ∧ u.state = .ready :=
      hstate.imp_right fun hwrite => Or.inr ⟨by rw [hwrite.1]; rfl, hwrite.2⟩
    cases progress <;> cases heq <;> exact ⟨hflag, by simp, hstate'⟩
  | applyVideoConfig pc =>
    cases pc with
    | check =>
      simp only [State.next, State.applyVideoConfig] at h
      split at h <;> cases h <;> exact ⟨rfl, by simp, Or.inl rfl⟩
    | stop pc =>
      obtain ⟨⟨u, progress⟩, hstep, heq⟩ := Option.map_eq_some_iff.mp h
      obtain ⟨hflag, hstate⟩ := stop_effect hstep
      have hstate' : u.state = s.state ∨ u.state = .streaming ∨
          (Call.applyVideoConfig (.stop pc)).settles = true ∧ u.state = .ready :=
        hstate.imp_right fun hwrite => Or.inr ⟨by rw [hwrite.1]; rfl, hwrite.2⟩
      cases progress <;> cases heq <;> exact ⟨hflag, by simp, hstate'⟩
    | write =>
      cases h
      exact ⟨rfl, by simp, Or.inr (Or.inr ⟨rfl, rfl⟩)⟩

/-- A step of a call that is no task, or of a loop: the tasks go on as they were, but for one that
begins. -/
theorem RecoveryInv.others {s t : State} (h : RecoveryInv s)
    (hflag : t.recoveryInProgress = s.recoveryInProgress)
    (hkept : ∀ (i : Nat) (pc : Recovery), s.calls[i]? = some (.recovery pc) →
      t.calls[i]? = some (.recovery pc))
    (hbegun : ∀ (i : Nat) (pc : Recovery), t.calls[i]? = some (.recovery pc) →
      s.calls[i]? = some (.recovery pc) ∨ pc = .begin)
    (hlost : Lost t → Lost s ∨ RecoveryAlive t)
    (hpoll : (∃ call ∈ s.calls, call.polls = true) → t.state = s.state ∨ t.state = .deviceLost ∨
      t.state = .streaming ∨ t.state = .noSignal) : RecoveryInv t := by
  have hold : ∀ (i : Nat) (pc : Recovery), t.calls[i]? = some (.recovery pc) → pc ≠ .begin →
      s.calls[i]? = some (.recovery pc) := by
    intro i pc hi hpc
    exact (hbegun i pc hi).resolve_right hpc
  refine ⟨?_, ?_, ?_, ?_, ?_, ?_⟩
  · intro ht
    rcases hlost ht with hs | halive
    · obtain ⟨call, hcall, hrecovers⟩ := h.alive hs
      obtain ⟨i, hi⟩ := List.mem_iff_getElem?.mp hcall
      cases call with
      | recovery pc => exact ⟨_, List.mem_of_getElem? (hkept i pc hi), hrecovers⟩
      | start | stop | applyVideoConfig | returned => cases hrecovers
    · exact halive
  · intro ht
    obtain ⟨i, pc, hi, hpc⟩ := h.flag (hflag ▸ ht)
    exact ⟨i, pc, hkept i pc hi, hpc⟩
  · intro i pc hi hpc
    rw [hflag]
    exact h.claimed i pc (hold i pc hi hpc) hpc
  · intro i j pc pc' hi hj hpc hpc'
    exact h.unique i j pc pc' (hold i pc hi hpc) (hold j pc' hj hpc') hpc hpc'
  · intro i hi
    exact h.init i (hold i _ hi (by simp))
  · intro i left hi
    have hs := hold i _ hi (by simp)
    obtain ⟨hleft, hpolled⟩ := h.poll i left hs
    refine ⟨hleft, ?_⟩
    rcases hpoll ⟨_, List.mem_of_getElem? hs, rfl⟩ with heq | ht
    · rw [heq]
      exact hpolled
    · exact ht

/-- A step of the one task that is past its beginning. -/
theorem RecoveryInv.advance {s u : State} (h : RecoveryInv s) {i : Nat} {pc pc' : Recovery}
    (hcall : s.calls[i]? = some (.recovery pc)) (hpc : pc ≠ .begin) (hpc' : pc' ≠ .begin)
    (hflag : u.recoveryInProgress = s.recoveryInProgress) (hinit : pc' ≠ .start .init)
    (halive : Lost u → pc' ≠ .finish)
    (hpoll : ∀ left, pc' = .poll left →
      left = 5 ∧ (u.state = .deviceLost ∨ u.state = .streaming ∨ u.state = .noSignal)) :
    RecoveryInv { u with calls := s.calls.set i (.recovery pc') } := by
  have hself : (s.calls.set i (Call.recovery pc'))[i]? = some (.recovery pc') :=
    getElem?_set_changed hcall _
  -- any other task has yet to begin
  have hothers : ∀ (j : Nat) (other : Recovery),
      (s.calls.set i (Call.recovery pc'))[j]? = some (.recovery other) → other ≠ .begin →
      j = i ∧ other = pc' := by
    intro j other hj hother
    rcases getElem?_set_cases hj with ⟨hji, heq⟩ | ⟨hji, hj'⟩
    · exact ⟨hji, Call.recovery.inj heq⟩
    · exact absurd (h.unique j i other pc hj' hcall hother hpc) hji
  refine ⟨?_, ?_, ?_, ?_, ?_, ?_⟩
  · intro hlost
    refine ⟨.recovery pc', List.mem_of_getElem? hself, ?_⟩
    have hfinish := halive hlost
    cases pc' with
    | finish => exact absurd rfl hfinish
    | begin | check | write | restart | start | poll => rfl
  · intro _
    exact ⟨i, pc', hself, hpc'⟩
  · intro j other hj hother
    show u.recoveryInProgress = true
    rw [hflag]
    exact h.claimed i pc hcall hpc
  · intro j k other other' hj hk hother hother'
    rw [(hothers j other hj hother).1, (hothers k other' hk hother').1]
  · intro j hj
    exact hinit (hothers j _ hj (by simp)).2.symm
  · intro j left hj
    exact hpoll left (hothers j _ hj (by simp)).2.symm

theorem RecoveryInv.begin {s : State} (h : RecoveryInv s) {i : Nat}
    (hcall : s.calls[i]? = some (.recovery .begin)) (hflag : s.recoveryInProgress = false) :
    RecoveryInv { s with
      recoveryInProgress := true
      calls := s.calls.set i (.recovery .check) } := by
  have hself : (s.calls.set i (Call.recovery .check))[i]? = some (.recovery .check) :=
    getElem?_set_changed hcall _
  -- no task is past its beginning while the flag is clear
  have hothers : ∀ (j : Nat) (other : Recovery),
      (s.calls.set i (Call.recovery .check))[j]? = some (.recovery other) → other ≠ .begin →
      j = i ∧ other = .check := by
    intro j other hj hother
    rcases getElem?_set_cases hj with ⟨hji, heq⟩ | ⟨-, hj'⟩
    · exact ⟨hji, Call.recovery.inj heq⟩
    · exact absurd (h.claimed j other hj' hother) (by simp [hflag])
  refine ⟨?_, ?_, ?_, ?_, ?_, ?_⟩
  · intro _
    exact ⟨_, List.mem_of_getElem? hself, rfl⟩
  · intro _
    exact ⟨i, .check, hself, by simp⟩
  · intro _ _ _ _
    rfl
  · intro j k other other' hj hk hother hother'
    rw [(hothers j other hj hother).1, (hothers k other' hk hother').1]
  · intro j hj
    exact absurd (hothers j _ hj (by simp)).2 (by simp)
  · intro j left hj
    exact absurd (hothers j _ hj (by simp)).2 (by simp)

/-- A loss that is reported to a task that goes on. -/
theorem RecoveryInv.skip {s : State} (h : RecoveryInv s) {i : Nat}
    (hcall : s.calls[i]? = some (.recovery .begin)) (hflag : s.recoveryInProgress = true)
    (hmissed : Call.recovery .finish ∉ s.calls) :
    RecoveryInv { s with calls := s.calls.set i .returned } := by
  obtain ⟨j, pc, hj, hpc⟩ := h.flag hflag
  have hold : ∀ (k : Nat) (other : Recovery),
      (s.calls.set i Call.returned)[k]? = some (.recovery other) →
      s.calls[k]? = some (.recovery other) := by
    intro k other hk
    rcases getElem?_set_cases hk with ⟨-, heq⟩ | ⟨-, hk'⟩
    · cases heq
    · exact hk'
  have hij : i ≠ j := by
    rintro rfl
    rw [hcall] at hj
    cases hj
    exact hpc rfl
  have hj' : (s.calls.set i Call.returned)[j]? = some (.recovery pc) := by
    rw [List.getElem?_set_ne hij]
    exact hj
  refine ⟨?_, ?_, ?_, ?_, ?_, ?_⟩
  · intro _
    refine ⟨.recovery pc, List.mem_of_getElem? hj', ?_⟩
    cases pc with
    | finish => exact absurd (List.mem_of_getElem? hj) hmissed
    | begin | check | write | restart | start | poll => rfl
  · intro _
    exact ⟨j, pc, hj', hpc⟩
  · intro k other hk hother
    exact h.claimed k other (hold k other hk) hother
  · intro k l other other' hk hl hother hother'
    exact h.unique k l other other' (hold k other hk) (hold l other' hl) hother hother'
  · intro k hk
    exact h.init k (hold k _ hk)
  · intro k left hk
    exact h.poll k left (hold k _ hk)

theorem RecoveryInv.finish {s : State} (h : RecoveryInv s) {i : Nat}
    (hcall : s.calls[i]? = some (.recovery .finish)) :
    RecoveryInv { s with
      recoveryInProgress := false
      calls := s.calls.set i .returned } := by
  -- the others have yet to begin
  have hothers : ∀ (j : Nat) (other : Recovery),
      (s.calls.set i Call.returned)[j]? = some (.recovery other) → other = .begin := by
    intro j other hj
    rcases getElem?_set_cases hj with ⟨-, heq⟩ | ⟨hji, hj'⟩
    · cases heq
    · by_contra hother
      exact hji (h.unique j i other _ hj' hcall hother (by simp))
  refine ⟨?_, ?_, ?_, ?_, ?_, ?_⟩
  · intro hlost
    obtain ⟨call, hmem, hrecovers⟩ := h.alive hlost
    obtain ⟨j, hj⟩ := List.mem_iff_getElem?.mp hmem
    have hij : i ≠ j := by
      rintro rfl
      rw [hcall] at hj
      cases hj
      cases hrecovers
    refine ⟨call, List.mem_of_getElem? (i := j) ?_, hrecovers⟩
    show (s.calls.set i Call.returned)[j]? = some call
    rw [List.getElem?_set_ne hij]
    exact hj
  · intro hflag
    cases hflag
  · intro j other hj hother
    exact absurd (hothers j other hj) hother
  · intro j k other other' hj hk hother hother'
    exact absurd (hothers j other hj) hother
  · intro j hj
    exact absurd (hothers j _ hj) (by simp)
  · intro j left hj
    exact absurd (hothers j _ hj) (by simp)

/-- `start` initializes what has not been, and leaves a streamer that streams. -/
theorem start_result {s t : State} {i : Nat} {fails : Bool} {pc : Start}
    {progress : Progress Start} (h : s.start i fails pc = some (t, progress)) :
    (progress.pc = some .init → s.state = .uninitialized) ∧
      (progress = .returns true → t.state = .streaming) ∧
      (progress = .returns false → s.currentDevice = false ∨ pc = .init) := by
  cases pc with
  | acquire | handle loop =>
    simp only [State.start] at h
    split at h <;> cases h
    exact ⟨by simp [Progress.pc], by simp, by simp⟩
  | decide =>
    simp only [State.start] at h
    split at h <;> cases h <;> rename_i hstate
    · exact ⟨by simp [Progress.pc], fun _ => hstate, by simp⟩
    · exact ⟨fun _ => hstate, by simp, by simp⟩
    · exact ⟨by simp [Progress.pc], by simp, by simp⟩
  | init =>
    simp only [State.start] at h
    split at h <;> cases h <;> exact ⟨by simp [Progress.pc], by simp, by simp⟩
  | device =>
    simp only [State.start] at h
    split at h <;> cases h <;> rename_i hdevice
    · exact ⟨by simp [Progress.pc], by simp, by simp⟩
    · exact ⟨by simp [Progress.pc], by simp, fun _ => Or.inl (by simpa using hdevice)⟩
  | spawn =>
    cases h
    exact ⟨by simp [Progress.pc], by simp, by simp⟩
  | write loop =>
    cases h
    exact ⟨by simp [Progress.pc], fun _ => rfl, by simp⟩

theorem RecoveryInv.recovery {s u : State} (h : RecoveryInv s) (hdevice : DeviceInv s) {i : Nat}
    {fails : Bool} {pc : Recovery} {call' : Call} (hcall : s.calls[i]? = some (.recovery pc))
    (hnext : s.recovery i fails pc = some (u, call'))
    (hmissed : pc = .begin → Call.recovery .finish ∉ s.calls) :
    RecoveryInv { u with calls := s.calls.set i call' } := by
  cases pc with
  | begin =>
    simp only [State.recovery] at hnext
    split at hnext <;> cases hnext <;> rename_i hflag
    · exact h.skip hcall hflag (hmissed rfl)
    · exact h.begin hcall (by simpa using hflag)
  | check =>
    cases hnext
    split
    · exact h.advance hcall (by simp) (by simp) rfl (by simp) (by simp) (by simp)
    · rename_i hlost
      exact h.advance hcall (by simp) (by simp) rfl (by simp) (fun hlost' => absurd hlost' hlost)
        (by simp)
  | write =>
    cases hnext
    split <;> exact h.advance hcall (by simp) (by simp) rfl (by simp) (by simp) (by simp)
  | restart =>
    cases hnext
    exact h.advance hcall (by simp) (by simp) rfl (by simp) (by simp) (by simp)
  | start pc =>
    obtain ⟨⟨t, progress⟩, hstep, heq⟩ := Option.map_eq_some_iff.mp hnext
    have hflag := (start_effect hstep).1
    obtain ⟨hinit, hstreams, -⟩ := start_result hstep
    -- the device of the lost loop is known
    have hknown := hdevice.initialized (hdevice.recovery _ (List.mem_of_getElem? hcall))
    cases progress with
    | goes pc' =>
      cases heq
      refine h.advance hcall (by simp) (by simp) hflag ?_ (by simp) (by simp)
      intro hpc
      exact hknown (hinit (congrArg some (Recovery.start.inj hpc)))
    | returns ok =>
      cases heq
      cases ok with
      | false => exact h.advance hcall (by simp) (by simp) hflag (by simp) (by simp) (by simp)
      | true =>
        refine h.advance hcall (by simp) (by simp) hflag (by simp) (by simp) ?_
        intro left hleft
        exact ⟨(Recovery.poll.inj hleft).symm, Or.inr (Or.inl (hstreams rfl))⟩
  | poll left =>
    -- the first look at the state decides
    obtain ⟨rfl, hstate | hstate | hstate⟩ := h.poll i left hcall
    · simp only [State.recovery, hstate] at hnext
      cases hnext
      exact h.advance hcall (by simp) (by simp) rfl (by simp) (by simp) (by simp)
    all_goals
      simp only [State.recovery, hstate] at hnext
      cases hnext
      refine h.advance hcall (by simp) (by simp) rfl (by simp) ?_ (by simp)
      intro hlost
      simp [Lost, hstate] at hlost
  | finish =>
    cases hnext
    exact h.finish hcall

/-- New calls, of which a task is at its beginning. -/
theorem RecoveryInv.append {s t : State} {new : List Call} (h : RecoveryInv s)
    (hcalls : t.calls = s.calls ++ new) (hnew : ∀ pc, Call.recovery pc ∈ new → pc = .begin)
    (hflag : t.recoveryInProgress = s.recoveryInProgress)
    (hlost : Lost t → Lost s ∨ RecoveryAlive t)
    (hpoll : (∃ call ∈ s.calls, call.polls = true) → t.state = s.state ∨ t.state = .deviceLost ∨
      t.state = .streaming ∨ t.state = .noSignal) : RecoveryInv t := by
  refine h.others hflag ?_ ?_ hlost hpoll
  · intro i pc hi
    rw [hcalls]
    exact getElem?_append_kept hi
  · intro i pc hi
    rw [hcalls] at hi
    exact (getElem?_append_cases hi).imp_right (hnew pc)

/-! ## Whole runs -/

theorem RecoveryInv.step {r : Recovered} {e : Event} {t : State} (h : RecoveryInv r.streamer)
    (hdevice : DeviceInv r.streamer) (hsteady : Steady r e)
    (hstep : Streamer.step r.streamer e = some t) : RecoveryInv t := by
  cases e with
  | start | stop | applyVideoConfig =>
    cases hstep
    exact h.append rfl (by simp) rfl (fun hlost => Or.inl hlost) (fun _ => Or.inl rfl)
  | advance i fails =>
    obtain ⟨call, hcall, hadvance⟩ := Option.bind_eq_some_iff.mp hstep
    obtain ⟨⟨u, call'⟩, hnext, rfl⟩ := Option.map_eq_some_iff.mp hadvance
    by_cases hrecovery : ∃ pc, call = .recovery pc
    · obtain ⟨pc, rfl⟩ := hrecovery
      refine h.recovery hdevice hcall hnext ?_
      rintro rfl hfinish
      have hmissed := hsteady.missed
      simp [missed, hcall] at hmissed
      exact hmissed _ hfinish rfl
    · have hother : ∀ pc, call ≠ .recovery pc := fun pc hpc => hrecovery ⟨pc, hpc⟩
      obtain ⟨hflag, hother', hstate⟩ := next_effect hnext hother
      refine h.others hflag ?_ ?_ ?_ ?_
      · intro j pc hj
        have hij : i ≠ j := by
          rintro rfl
          exact hother pc (Option.some.inj (hcall.symm.trans hj))
        show (r.streamer.calls.set i call')[j]? = _
        rw [List.getElem?_set_ne hij]
        exact hj
      · intro j pc hj
        rcases getElem?_set_cases hj with ⟨-, heq⟩ | ⟨-, hj'⟩
        · exact absurd heq.symm (hother' pc)
        · exact Or.inl hj'
      · intro hlost
        left
        rcases hstate with hstate | hstate | ⟨-, hstate⟩
        · rw [Lost, ← hstate]
          exact hlost
        all_goals simp [Lost, hstate] at hlost
      · rintro ⟨other, hmem, hpolls⟩
        rcases hstate with hstate | hstate | ⟨hsettles, -⟩
        · exact Or.inl hstate
        · exact Or.inr (Or.inr (Or.inl hstate))
        · have hwrites : writesReadyOrError r.streamer (.advance i fails) = true := by
            simp [writesReadyOrError, hcall, hsettles]
          rw [hsteady.settles hwrites other hmem] at hpolls
          cases hpolls
  | loop loop e =>
    obtain ⟨l, hl, hloop⟩ := Option.bind_eq_some_iff.mp hstep
    have heffect := loopStep_effect hl hloop
    obtain ⟨new, hcalls, hnew⟩ : ∃ new, t.calls = r.streamer.calls ++ new ∧
        ∀ pc, Call.recovery pc ∈ new → pc = .begin := by
      rcases heffect.calls with hcalls | hcalls
      · exact ⟨[], by simpa using hcalls, by simp⟩
      · exact ⟨[.recovery .begin], hcalls, by simp⟩
    refine h.append hcalls hnew heffect.flag ?_ ?_
    · intro hlost
      rcases heffect.state with hstate | hstate | hstate | ⟨-, hbegun⟩ | ⟨-, hstate | hstate⟩
      · left
        rw [Lost, ← hstate]
        exact hlost
      · simp [Lost, hstate] at hlost
      · simp [Lost, hstate] at hlost
      · exact Or.inr ⟨.recovery .begin, by simp [hbegun], rfl⟩
      · simp [Lost, hstate] at hlost
      · simp [Lost, hstate] at hlost
    · rintro ⟨other, hmem, hpolls⟩
      rcases heffect.state with hstate | hstate | hstate | ⟨hstate, -⟩ | ⟨hwrites, -⟩
      · exact Or.inl hstate
      · exact Or.inr (Or.inr (Or.inl hstate))
      · exact Or.inr (Or.inr (Or.inr hstate))
      · exact Or.inr (Or.inl hstate)
      · have hsettles : writesReadyOrError r.streamer (.loop loop e) = true := by
          rcases hwrites with rfl | rfl <;> rfl
        rw [hsteady.settles hsettles other hmem] at hpolls
        cases hpolls

/-- A task goes back to its look at the state without having restarted the capture: the device
is not there yet, or the restarted capture has lost it again. -/
theorem failed_recovery {s u : State} (h : RecoveryInv s) (hdevice : DeviceInv s) {i : Nat}
    {fails : Bool} {pc : Recovery} (hcall : s.calls[i]? = some (.recovery pc))
    (htries : pc.tries = true) (hnext : s.recovery i fails pc = some (u, .recovery .check)) :
    Lost u := by
  cases pc with
  | begin | check | finish => cases htries
  | write =>
    cases fails with
    | true =>
      cases hnext
      exact Or.inr rfl
    | false => cases hnext
  | restart => cases hnext
  | start pc =>
    obtain ⟨⟨t, progress⟩, hstep, heq⟩ := Option.map_eq_some_iff.mp hnext
    cases progress with
    | goes pc' => cases heq
    | returns ok =>
      cases ok with
      | true => cases heq
      | false =>
        rcases (start_result hstep).2.2 rfl with hunknown | rfl
        · rw [hdevice.recovery _ (List.mem_of_getElem? hcall)] at hunknown
          cases hunknown
        · exact absurd hcall (h.init i)
  | poll left =>
    obtain ⟨rfl, hstate | hstate | hstate⟩ := h.poll i left hcall
    · simp only [State.recovery, hstate] at hnext
      cases hnext
      exact Or.inl hstate
    all_goals
      simp only [State.recovery, hstate] at hnext
      cases hnext

/-- Where recovery is steady, a lost device has a task that goes on, and after a failed attempt
the device still counts as lost. -/
theorem never_abandoned {r : Recovered} (h : (recoverySystem.restrict Steady).Reachable r) :
    (Lost r.streamer → RecoveryAlive r.streamer) ∧
      ∀ e r', (recoverySystem.restrict Steady).step r e r' → FailedAttempt r e r' →
        Lost r'.streamer := by
  have hinv : DeviceInv r.streamer ∧ RecoveryInv r.streamer := by
    refine TSys.invariant (I := fun r => DeviceInv r.streamer ∧ RecoveryInv r.streamer) ?_ ?_ h
    · intro r hr
      rw [show r = {} from hr]
      exact ⟨⟨by simp, by simp, by simp, by simp⟩, ⟨by simp [Lost], by simp, by simp, by simp,
        by simp, by simp⟩⟩
    · intro r e r' hr hstep
      obtain ⟨t, ht, rfl⟩ := Option.map_eq_some_iff.mp hstep.1
      exact ⟨hr.1.step ht, hr.2.step hr.1 hstep.2 ht⟩
  refine ⟨hinv.2.alive, ?_⟩
  intro e r' hstep hfailed
  obtain ⟨t, ht, rfl⟩ := Option.map_eq_some_iff.mp hstep.1
  cases e with
  | start | stop | applyVideoConfig => exact hfailed.elim
  | advance i fails =>
    obtain ⟨pc, hcall, htries, hcheck⟩ := hfailed
    obtain ⟨call, hcall', hadvance⟩ := Option.bind_eq_some_iff.mp ht
    obtain rfl := Option.some.inj (hcall'.symm.trans hcall)
    obtain ⟨⟨u, call'⟩, hnext, rfl⟩ := Option.map_eq_some_iff.mp hadvance
    have hself : (r.streamer.calls.set i call')[i]? = some call' :=
      getElem?_set_changed hcall _
    obtain rfl := Option.some.inj (hself.symm.trans hcheck)
    have hlost : Lost u := failed_recovery hinv.2 hinv.1 hcall htries hnext
    exact hlost
  | loop loop e =>
    cases e with
    | openFails => exact absurd rfl (hstep.2.opens loop hfailed)
    | opens | stopped | timeout | frame | softRestart | idle | lost | exit => exact hfailed.elim

/-- A device that is lost, is not there at the first try, is opened at the second and is lost
again. -/
theorem never_abandoned_sample :
    ∃ r, (recoverySystem.restrict Steady).Reachable r ∧ Lost r.streamer ∧
      r.streamer.loops.length = 2 ∧ RecoveryAlive r.streamer := by
  let run : List Event := lostDevice ++ [.advance 1 true, .advance 1 false] ++
    List.replicate 9 (.advance 1 false) ++ [.loop 1 .opens, .loop 1 .lost]
  have hrun : ∃ r, run.foldlM (fun r e => if Steady r e then Recovered.step r e else none)
      {} = some r ∧ Lost r.streamer ∧ r.streamer.loops.length = 2 := ⟨_, rfl, by decide, rfl⟩
  obtain ⟨r, hrun, hlost, hloops⟩ := hrun
  have h : (recoverySystem.restrict Steady).Reachable r :=
    TSys.ofFn_restrict_reachable (.init rfl) hrun
  exact ⟨r, h, hlost, hloops, (never_abandoned h).1 hlost⟩

/-- Nobody calls `stop`. The loop that the recovery task runs cannot open the device, and leaves
the streamer in `Error`. -/
theorem abandoned : ¬∀ r, (recoverySystem.restrict fun _ e => e ≠ .stop).Reachable r →
    ∀ e r', recoverySystem.step r e r' → FailedAttempt r e r' → Lost r'.streamer := by
  intro h
  let run : List Event := lostDevice ++ List.replicate 9 (.advance 1 false)
  have hrun : ∃ r r', run.foldlM (fun r e => if e ≠ .stop then Recovered.step r e else none)
      {} = some r ∧ r.step (.loop 1 .openFails) = some r' ∧ 1 ∈ r.reopening ∧
      r'.streamer.state = .error := ⟨_, _, rfl, rfl, by decide, rfl⟩
  obtain ⟨r, r', hrun, hstep, hreopening, herror⟩ := hrun
  have hreachable : (recoverySystem.restrict fun _ e => e ≠ .stop).Reachable r :=
    TSys.ofFn_restrict_reachable (.init rfl) hrun
  have hlost := h r hreachable (.loop 1 .openFails) r' hstep hreopening
  simp [Lost, herror] at hlost

end StreamBox.Video.Streamer
