import StreamBox.Lib.Slots
import StreamBox.Video.Streamer

/-!
# One capture loop

* **One loop** — `one_loop`: as long as `start` spawns a loop only where `direct_active` is
  off and no `stop` is on its way, and `stop` takes no handle that `start` has yet to store,
  at most one loop is alive, and `direct_active` says so.
* **Streaming** — `streaming_live`: as long as a loop that was told to stop leaves in another
  state than `Streaming`, and `start` writes that state while its loop is at work, a
  streamer in it has a live loop.
* **Failure** — `second_loop`: `start` without a signal runs a second loop.
-/

namespace StreamBox.Video.Streamer

open StreamBox.Lib

/-! ## The claim on the states -/

/-- The loop has not returned. -/
def Live (s : State) (loop : Nat) : Prop :=
  ∃ l : CaptureLoop, s.loops[loop]? = some l ∧ l.phase ≠ .gone

/-- At most one loop is alive, and `direct_active` says whether one is. -/
structure OneLoop (s : State) : Prop where
  one : ∀ i j, Live s i → Live s j → i = j
  active : s.directActive ↔ ∃ i, Live s i

/-- A streamer in state `Streaming` has a live loop. -/
def StreamingLive (s : State) : Prop :=
  s.state = .streaming → ∃ i, Live s i

/-! ## The conditions on the steps -/

namespace Call

/-- Where the call is in `start`. -/
def startPc : Call → Option Start
  | start pc | recovery (.start pc) => some pc
  | _ => none

/-- Where the call is in `stop`. -/
def stopPc : Call → Option Stop
  | stop pc | applyVideoConfig (.stop pc) => some pc
  | _ => none

/-- The call has told the loop to stop and not yet cleared `direct_active`. -/
def stopping (call : Call) : Bool :=
  call.stopPc.any fun pc => pc != .flag && pc != .write

/-- The call has yet to store the handle of the loop that it has spawned. -/
def storing (call : Call) : Option Nat :=
  match call.startPc with
  | some (.handle loop) => some loop
  | _ => none

/-- The loop that the call has spawned, when it is about to write `Streaming`. -/
def writing (call : Call) : Option Nat :=
  match call.startPc with
  | some (.write loop) => some loop
  | _ => none

end Call

/-- `start` spawns a loop where `direct_active` is off and no `stop` is on its way; `stop`
takes the handle when no `start` has yet to store one. -/
def Orderly (s : State) : Event → Prop
  | .advance i _ => ∀ call ∈ s.calls[i]?,
      (call.startPc = some .spawn →
        s.directActive = false ∧ ∀ other ∈ s.calls, other.stopping = false) ∧
      (call.stopPc = some .take → ∀ other ∈ s.calls, other.storing = none)
  | _ => True

/-- The loop is in one of its loops. -/
def State.working (s : State) (loop : Nat) : Bool :=
  s.loops[loop]?.any fun l => l.phase == .opening || l.phase == .capturing

/-- `start` writes `Streaming` while the loop that it has spawned is at work; a loop that is
told to stop leaves in another state. -/
def Settles (s : State) : Event → Prop
  | .advance i _ => ∀ call ∈ s.calls[i]?, ∀ loop ∈ call.writing, s.working loop
  | .loop _ .stopped => s.state ≠ .streaming
  | _ => True

instance (s : State) : (e : Event) → Decidable (Orderly s e)
  | .advance i _ => inferInstanceAs (Decidable (∀ _ ∈ s.calls[i]?, _ ∧ _))
  | .start | .stop | .applyVideoConfig | .loop _ _ => inferInstanceAs (Decidable True)

instance (s : State) : (e : Event) → Decidable (Settles s e)
  | .advance i _ =>
    inferInstanceAs (Decidable (∀ call ∈ s.calls[i]?, ∀ loop ∈ call.writing, s.working loop))
  | .loop _ .stopped => inferInstanceAs (Decidable (_ ≠ _))
  | .loop _ .opens | .loop _ .openFails | .loop _ .timeout | .loop _ .frame | .loop _ .softRestart
  | .loop _ .idle | .loop _ .lost | .loop _ .exit | .start | .stop | .applyVideoConfig =>
    inferInstanceAs (Decidable True)

/-! ## One loop -/

/-- The call is past `start_lock`. -/
def Call.critical (call : Call) : Bool :=
  call.startPc.any (· != .acquire)

structure Inv (s : State) : Prop where
  loops : OneLoop s
  startLock : ∀ (i : Nat) (call : Call), s.calls[i]? = some call → call.critical →
    s.startLock = some i
  handleLock : ∀ (i : Nat) (call : Call) (loop : Nat), s.calls[i]? = some call →
    call.stopPc = some (.wait loop) → s.handleLock = some i
  /-- A live loop has its handle somewhere. -/
  handle : ∀ loop, Live s loop → s.directHandle = some loop ∨ ∃ (i : Nat) (call : Call),
    s.calls[i]? = some call ∧ (call.storing = some loop ∨ call.stopPc = some (.wait loop))
  storing : ∀ (i : Nat) (call : Call) (loop : Nat), s.calls[i]? = some call →
    call.storing = some loop → ∀ other, Live s other → other = loop
  waiting : ∀ (i : Nat) (call : Call) (loop : Nat), s.calls[i]? = some call →
    call.stopPc = some (.wait loop) → ∀ other, Live s other → other = loop
  inactive : ∀ (i : Nat) (call : Call), s.calls[i]? = some call → call.stopPc = some .inactive →
    ∀ loop, ¬Live s loop

/-- A step that neither starts nor ends a loop, and moves one call from a place without
a handle to another such place. -/
theorem inv_set {s t : State} (h : Inv s) {i : Nat} {call call' : Call}
    (hcall : s.calls[i]? = some call) (hset : t.calls = s.calls.set i call')
    (hlive : ∀ loop, Live t loop ↔ Live s loop) (hactive : t.directActive = s.directActive)
    (hhandle : t.directHandle = s.directHandle) (hhandleLock : t.handleLock = s.handleLock)
    (hbefore : call.storing = none ∧ ∀ loop, call.stopPc ≠ some (.wait loop))
    (hafter : call'.storing = none ∧ (∀ loop, call'.stopPc ≠ some (.wait loop)) ∧
      call'.stopPc ≠ some .inactive)
    (hself : call'.critical → t.startLock = some i)
    (hothers : ∀ (j : Nat) (other : Call), j ≠ i → s.calls[j]? = some other → other.critical →
      t.startLock = some j) : Inv t := by
  refine ⟨⟨?_, ?_⟩, ?_, ?_, ?_, ?_, ?_, ?_⟩
  · intro j k hj hk
    exact h.loops.one j k ((hlive j).mp hj) ((hlive k).mp hk)
  · rw [hactive, h.loops.active]
    exact exists_congr fun loop => (hlive loop).symm
  · intro j other hother hcritical
    rw [hset] at hother
    rcases getElem?_set_cases hother with ⟨rfl, rfl⟩ | ⟨hj, hother⟩
    · exact hself hcritical
    · exact hothers j other hj hother hcritical
  · intro j other loop hother hwait
    rw [hset] at hother
    rw [hhandleLock]
    rcases getElem?_set_cases hother with ⟨rfl, rfl⟩ | ⟨-, hother⟩
    · exact absurd hwait (hafter.2.1 loop)
    · exact h.handleLock j other loop hother hwait
  · intro loop hloop
    rw [hhandle]
    rcases h.handle loop ((hlive loop).mp hloop) with hstored | ⟨j, other, hother, hplace⟩
    · exact .inl hstored
    · refine .inr ⟨j, other, ?_, hplace⟩
      have hj : i ≠ j := by
        rintro rfl
        rw [hcall] at hother
        cases hother
        rcases hplace with hplace | hplace
        · rw [hbefore.1] at hplace
          cases hplace
        · exact hbefore.2 loop hplace
      rw [hset, List.getElem?_set_ne hj]
      exact hother
  · intro j other loop hother hstoring k hk
    rw [hset] at hother
    rcases getElem?_set_cases hother with ⟨rfl, rfl⟩ | ⟨-, hother⟩
    · rw [hafter.1] at hstoring
      cases hstoring
    · exact h.storing j other loop hother hstoring k ((hlive k).mp hk)
  · intro j other loop hother hwait k hk
    rw [hset] at hother
    rcases getElem?_set_cases hother with ⟨rfl, rfl⟩ | ⟨-, hother⟩
    · exact absurd hwait (hafter.2.1 loop)
    · exact h.waiting j other loop hother hwait k ((hlive k).mp hk)
  · intro j other hother hinactive k hk
    rw [hset] at hother
    rcases getElem?_set_cases hother with ⟨rfl, rfl⟩ | ⟨-, hother⟩
    · exact absurd hinactive hafter.2.2
    · exact h.inactive j other hother hinactive k ((hlive k).mp hk)

/-- Where a call is in `start` or `stop` after a step of it. -/
def Progress.pc {pc : Type} : Progress pc → Option pc
  | .goes pc => some pc
  | .returns _ => none

section Start

variable {s : State} {i : Nat} {call call' : Call}

/-- A step of `start` before its loop is there, or past the store of its handle. -/
theorem inv_start_set {t : State} {pc : Start} (h : Inv s) (hcall : s.calls[i]? = some call)
    (hpc : call.startPc = some pc) (hstop : call.stopPc = none) (hstop' : call'.stopPc = none)
    (hset : t.calls = s.calls.set i call')
    (hloops : t.loops = s.loops) (hactive : t.directActive = s.directActive)
    (hhandle : t.directHandle = s.directHandle) (hhandleLock : t.handleLock = s.handleLock)
    (hbefore : call.storing = none) (hafter : call'.storing = none)
    (hself : call'.critical → t.startLock = some i)
    (hlock : pc = .acquire → s.startLock = none) : Inv t := by
  refine inv_set h hcall hset ?_ hactive hhandle hhandleLock ⟨hbefore, by simp [hstop]⟩
    ⟨hafter, by simp [hstop'], by simp [hstop']⟩ hself ?_
  · intro loop
    simp only [Live, hloops]
  · intro j other hj hother hcritical
    have hother' := h.startLock j other hother hcritical
    by_cases hacquire : pc = .acquire
    · rw [hlock hacquire] at hother'
      cases hother'
    · have hi := h.startLock i call hcall (by simp [Call.critical, hpc, hacquire])
      rw [hi] at hother'
      exact absurd (Option.some.inj hother').symm hj

theorem storing_critical {loop : Nat} (h : call.storing = some loop) : call.critical := by
  unfold Call.storing at h
  split at h <;> cases h
  rename_i hpc
  simp [Call.critical, hpc]

theorem live_spawn {t : State} (h : Inv s) (hactive : s.directActive = false)
    (hloops : t.loops = s.loops ++ [({} : CaptureLoop)]) (loop : Nat) :
    Live t loop ↔ loop = s.loops.length := by
  constructor
  · rintro ⟨l, hl, hphase⟩
    rw [hloops, List.getElem?_append] at hl
    split at hl
    · have hlive := h.loops.active.mpr ⟨loop, l, hl, hphase⟩
      rw [hactive] at hlive
      cases hlive
    · have hlt := (List.getElem?_eq_some_iff.mp hl).1
      simp only [List.length_singleton] at hlt
      omega
  · rintro rfl
    refine ⟨{}, ?_, by simp⟩
    rw [hloops]
    exact List.getElem?_concat_length

/-- The new loop is the only one. -/
theorem inv_spawn (h : Inv s) (hcall : s.calls[i]? = some call) (hcritical : call.critical)
    (hstop' : call'.stopPc = none) (hstoring : call'.storing = some s.loops.length)
    (hactive : s.directActive = false) (hstopping : ∀ other ∈ s.calls, other.stopping = false) :
    Inv { s with
      directStop := false, directActive := true, loops := s.loops ++ [({} : CaptureLoop)]
      calls := s.calls.set i call' } := by
  have hlive := live_spawn (t := { s with
    directStop := false, directActive := true, loops := s.loops ++ [({} : CaptureLoop)]
    calls := s.calls.set i call' }) h hactive rfl
  have hlock := h.startLock i call hcall hcritical
  refine ⟨⟨?_, ?_⟩, ?_, ?_, ?_, ?_, ?_, ?_⟩
  · intro j k hj hk
    rw [(hlive j).mp hj, (hlive k).mp hk]
  · exact ⟨fun _ => ⟨_, (hlive _).mpr rfl⟩, fun _ => rfl⟩
  · intro j other hother hother'
    rcases getElem?_set_cases hother with ⟨rfl, rfl⟩ | ⟨-, hother⟩
    · exact hlock
    · exact h.startLock j other hother hother'
  · intro j other loop hother hwait
    rcases getElem?_set_cases hother with ⟨rfl, rfl⟩ | ⟨-, hother⟩
    · rw [hstop'] at hwait
      cases hwait
    · exact h.handleLock j other loop hother hwait
  · intro loop hloop
    rw [(hlive loop).mp hloop]
    have hlt := (List.getElem?_eq_some_iff.mp hcall).1
    exact .inr ⟨i, call', List.getElem?_set_self hlt, .inl hstoring⟩
  · intro j other loop hother hother' k hk
    rcases getElem?_set_cases hother with ⟨rfl, rfl⟩ | ⟨hj, hother⟩
    · rw [hstoring] at hother'
      rw [(hlive k).mp hk, Option.some.inj hother']
    · have hj' := h.startLock j other hother (storing_critical hother')
      rw [hlock] at hj'
      exact absurd (Option.some.inj hj').symm hj
  · intro j other loop hother hwait k hk
    rcases getElem?_set_cases hother with ⟨rfl, rfl⟩ | ⟨-, hother⟩
    · rw [hstop'] at hwait
      cases hwait
    · have hno := hstopping other (List.mem_of_getElem? hother)
      simp [Call.stopping, hwait] at hno
  · intro j other hother hinactive k hk
    rcases getElem?_set_cases hother with ⟨rfl, rfl⟩ | ⟨-, hother⟩
    · rw [hstop'] at hinactive
      cases hinactive
    · have hno := hstopping other (List.mem_of_getElem? hother)
      simp [Call.stopping, hinactive] at hno

/-- The handle of the only loop is stored. -/
theorem inv_handle {loop : Nat} (h : Inv s) (hcall : s.calls[i]? = some call)
    (hstoring : call.storing = some loop) (hstop' : call'.stopPc = none)
    (hstoring' : call'.storing = none) :
    Inv { s with directHandle := some loop, calls := s.calls.set i call' } := by
  have hlock := h.startLock i call hcall (storing_critical hstoring)
  refine ⟨⟨h.loops.one, h.loops.active⟩, ?_, ?_, ?_, ?_, ?_, ?_⟩
  · intro j other hother hcritical
    rcases getElem?_set_cases hother with ⟨rfl, rfl⟩ | ⟨-, hother⟩
    · exact hlock
    · exact h.startLock j other hother hcritical
  · intro j other k hother hwait
    rcases getElem?_set_cases hother with ⟨rfl, rfl⟩ | ⟨-, hother⟩
    · rw [hstop'] at hwait
      cases hwait
    · exact h.handleLock j other k hother hwait
  · intro k hk
    exact .inl (congrArg some (h.storing i call loop hcall hstoring k hk).symm)
  · intro j other k hother hother' l hl
    rcases getElem?_set_cases hother with ⟨rfl, rfl⟩ | ⟨-, hother⟩
    · rw [hstoring'] at hother'
      cases hother'
    · exact h.storing j other k hother hother' l hl
  · intro j other k hother hwait l hl
    rcases getElem?_set_cases hother with ⟨rfl, rfl⟩ | ⟨-, hother⟩
    · rw [hstop'] at hwait
      cases hwait
    · exact h.waiting j other k hother hwait l hl
  · intro j other hother hinactive l hl
    rcases getElem?_set_cases hother with ⟨rfl, rfl⟩ | ⟨-, hother⟩
    · rw [hstop'] at hinactive
      cases hinactive
    · exact h.inactive j other hother hinactive l hl

/-- Only a call at `handle` has a loop to store. -/
theorem storing_start {pc : Start} (hpc : call.startPc = some pc)
    (hne : ∀ loop, pc ≠ .handle loop) : call.storing = none := by
  unfold Call.storing
  rw [hpc]
  split
  · rename_i loop heq
    exact absurd (Option.some.inj heq) (hne loop)
  · rfl

/-- A step on which `start` returns. -/
theorem inv_start_returns {t : State} {pc : Start} (h : Inv s) (hcall : s.calls[i]? = some call)
    (hpc : call.startPc = some pc) (hstop : call.stopPc = none) (hpc' : call'.startPc = none)
    (hstop' : call'.stopPc = none) (hset : t.calls = s.calls.set i call')
    (hsame : t.loops = s.loops ∧ t.directActive = s.directActive ∧
      t.directHandle = s.directHandle ∧ t.handleLock = s.handleLock)
    (hacquire : pc ≠ .acquire) (hne : ∀ loop, pc ≠ .handle loop) : Inv t := by
  obtain ⟨hloops, hactive, hhandle, hhandleLock⟩ := hsame
  have hstoring : call'.storing = none := by simp [Call.storing, hpc']
  refine inv_start_set h hcall hpc hstop hstop' hset hloops hactive hhandle hhandleLock
    (storing_start hpc hne) hstoring (fun hcritical => ?_) fun heq => absurd heq hacquire
  simp [Call.critical, hpc'] at hcritical

/-- A step on which `start` goes on under its lock. -/
theorem inv_start_goes {t : State} {pc pc' : Start} (h : Inv s) (hcall : s.calls[i]? = some call)
    (hpc : call.startPc = some pc) (hstop : call.stopPc = none) (hpc' : call'.startPc = some pc')
    (hstop' : call'.stopPc = none) (hset : t.calls = s.calls.set i call')
    (hsame : t.loops = s.loops ∧ t.directActive = s.directActive ∧
      t.directHandle = s.directHandle ∧ t.handleLock = s.handleLock)
    (hlock : t.startLock = s.startLock) (hacquire : pc ≠ .acquire)
    (hne : ∀ loop, pc ≠ .handle loop) (hne' : ∀ loop, pc' ≠ .handle loop) : Inv t := by
  obtain ⟨hloops, hactive, hhandle, hhandleLock⟩ := hsame
  refine inv_start_set h hcall hpc hstop hstop' hset hloops hactive hhandle hhandleLock
    (storing_start hpc hne) (storing_start hpc' hne') (fun _ => hlock.trans ?_)
    fun heq => absurd heq hacquire
  exact h.startLock i call hcall (by simp [Call.critical, hpc, hacquire])

theorem inv_start {t : State} {pc : Start} {progress : Progress Start} {fails : Bool} (h : Inv s)
    (hcall : s.calls[i]? = some call) (hpc : call.startPc = some pc) (hstop : call.stopPc = none)
    (hstep : s.start i fails pc = some (t, progress)) (hpc' : call'.startPc = progress.pc)
    (hstop' : call'.stopPc = none)
    (horderly : pc = .spawn → s.directActive = false ∧ ∀ other ∈ s.calls, other.stopping = false) :
    Inv { t with calls := s.calls.set i call' } := by
  cases pc with
  | acquire =>
    simp only [State.start] at hstep
    split at hstep <;> cases hstep
    rename_i hfree
    exact inv_start_set h hcall hpc hstop hstop' rfl rfl rfl rfl rfl
      (storing_start hpc (by simp)) (storing_start hpc' (by simp)) (fun _ => rfl) fun _ => hfree
  | decide =>
    simp only [State.start] at hstep
    split at hstep <;> cases hstep
    · exact inv_start_returns h hcall hpc hstop hpc' hstop' rfl ⟨rfl, rfl, rfl, rfl⟩ (by simp)
        (by simp)
    · exact inv_start_goes h hcall hpc hstop hpc' hstop' rfl ⟨rfl, rfl, rfl, rfl⟩ rfl (by simp)
        (by simp) (by simp)
    · exact inv_start_goes h hcall hpc hstop hpc' hstop' rfl ⟨rfl, rfl, rfl, rfl⟩ rfl (by simp)
        (by simp) (by simp)
  | init =>
    simp only [State.start] at hstep
    split at hstep <;> cases hstep
    · exact inv_start_returns h hcall hpc hstop hpc' hstop' rfl ⟨rfl, rfl, rfl, rfl⟩ (by simp)
        (by simp)
    · exact inv_start_goes h hcall hpc hstop hpc' hstop' rfl ⟨rfl, rfl, rfl, rfl⟩ rfl (by simp)
        (by simp) (by simp)
  | device =>
    simp only [State.start] at hstep
    split at hstep <;> cases hstep
    · exact inv_start_goes h hcall hpc hstop hpc' hstop' rfl ⟨rfl, rfl, rfl, rfl⟩ rfl (by simp)
        (by simp) (by simp)
    · exact inv_start_returns h hcall hpc hstop hpc' hstop' rfl ⟨rfl, rfl, rfl, rfl⟩ (by simp)
        (by simp)
  | spawn =>
    cases hstep
    obtain ⟨hactive, hstopping⟩ := horderly rfl
    exact inv_spawn (s := s) h hcall (by simp [Call.critical, hpc]) hstop'
      (by simp [Call.storing, hpc', Progress.pc]) hactive hstopping
  | handle loop =>
    simp only [State.start] at hstep
    split at hstep <;> cases hstep
    exact inv_handle (s := s) h hcall (by simp [Call.storing, hpc]) hstop'
      (storing_start hpc' (by simp))
  | write loop =>
    cases hstep
    exact inv_start_returns h hcall hpc hstop hpc' hstop' rfl ⟨rfl, rfl, rfl, rfl⟩ (by simp)
      (by simp)

end Start

section Stop

variable {s : State} {i : Nat} {call call' : Call}

/-- A step of `stop` that moves no handle. -/
theorem inv_stop_set {t : State} (h : Inv s) (hcall : s.calls[i]? = some call)
    (hstart : call.startPc = none) (hstart' : call'.startPc = none)
    (hset : t.calls = s.calls.set i call') (hloops : t.loops = s.loops)
    (hactive : t.directActive = s.directActive) (hhandle : t.directHandle = s.directHandle)
    (hhandleLock : t.handleLock = s.handleLock) (hstartLock : t.startLock = s.startLock)
    (hbefore : ∀ loop, call.stopPc ≠ some (.wait loop))
    (hafter : (∀ loop, call'.stopPc ≠ some (.wait loop)) ∧ call'.stopPc ≠ some .inactive) :
    Inv t := by
  have hnone {call : Call} (hstart : call.startPc = none) :
      call.storing = none ∧ call.critical = false := by
    simp [Call.storing, Call.critical, hstart]
  refine inv_set h hcall hset ?_ hactive hhandle hhandleLock ⟨(hnone hstart).1, hbefore⟩
    ⟨(hnone hstart').1, hafter⟩ (by simp [(hnone hstart').2]) ?_
  · intro loop
    simp only [Live, hloops]
  · intro j other _ hother hcritical
    exact hstartLock.trans (h.startLock j other hother hcritical)

/-- Without a live loop the calls may be anywhere. -/
theorem inv_none {t : State} (hnone : ∀ loop, ¬Live t loop) (hactive : t.directActive = false)
    (hstartLock : ∀ (i : Nat) (call : Call), t.calls[i]? = some call → call.critical →
      t.startLock = some i)
    (hhandleLock : ∀ (i : Nat) (call : Call) (loop : Nat), t.calls[i]? = some call →
      call.stopPc = some (.wait loop) → t.handleLock = some i) : Inv t := by
  refine ⟨⟨?_, ?_⟩, hstartLock, hhandleLock, ?_, ?_, ?_, ?_⟩
  · exact fun i _ hi => absurd hi (hnone i)
  · rw [hactive]
    exact ⟨(fun h => nomatch h), fun ⟨loop, hloop⟩ => absurd hloop (hnone loop)⟩
  · exact fun loop hloop => absurd hloop (hnone loop)
  · exact fun _ _ _ _ _ other hother => absurd hother (hnone other)
  · exact fun _ _ _ _ _ other hother => absurd hother (hnone other)
  · exact fun _ _ _ _ loop => hnone loop

theorem startLock_set (h : Inv s) (hstart' : call'.startPc = none) :
    ∀ (j : Nat) (other : Call), (s.calls.set i call')[j]? = some other → other.critical →
      s.startLock = some j := by
  intro j other hother hcritical
  rcases getElem?_set_cases hother with ⟨rfl, rfl⟩ | ⟨-, hother⟩
  · simp [Call.critical, hstart'] at hcritical
  · exact h.startLock j other hother hcritical

/-- Where no loop is alive `stop` goes on to clear `direct_active`. -/
theorem inv_stop_none {t : State} (h : Inv s) (hset : t.calls = s.calls.set i call')
    (hloops : t.loops = s.loops) (hactive : t.directActive = s.directActive ∨
      t.directActive = false) (hstartLock : t.startLock = s.startLock)
    (hnone : ∀ loop, ¬Live s loop) (hstart' : call'.startPc = none)
    (hwait' : ∀ loop, call'.stopPc ≠ some (.wait loop))
    (hhandleLock : ∀ (j : Nat) (other : Call) (loop : Nat), j ≠ i → s.calls[j]? = some other →
      other.stopPc = some (.wait loop) → t.handleLock = some j) : Inv t := by
  have hfalse : s.directActive = false := by
    by_contra htrue
    obtain ⟨loop, hloop⟩ := h.loops.active.mp (by simpa using htrue)
    exact hnone loop hloop
  refine inv_none ?_ ?_ ?_ ?_
  · intro loop hloop
    exact hnone loop (by simpa only [Live, hloops] using hloop)
  · rcases hactive with hactive | hactive
    · exact hactive.trans hfalse
    · exact hactive
  · rw [hset, hstartLock]
    exact startLock_set h hstart'
  · intro j other loop hother hwait
    rw [hset] at hother
    rcases getElem?_set_cases hother with ⟨rfl, rfl⟩ | ⟨hj, hother⟩
    · exact absurd hwait (hwait' loop)
    · exact hhandleLock j other loop hj hother hwait

/-- A live loop, as `stop` sees it: in the handle, if no call is about to store one. -/
theorem live_stored (h : Inv s) (hfree : s.handleLock = none)
    (hstoring : ∀ other ∈ s.calls, other.storing = none) {loop : Nat} (hlive : Live s loop) :
    s.directHandle = some loop := by
  rcases h.handle loop hlive with hstored | ⟨j, user, huser, hplace | hplace⟩
  · exact hstored
  · rw [hstoring user (List.mem_of_getElem? huser)] at hplace
    cases hplace
  · rw [h.handleLock j user loop huser hplace] at hfree
    cases hfree

/-- `stop` takes the handle of the only loop and waits for it. -/
theorem inv_take {loop : Nat} (h : Inv s) (hcall : s.calls[i]? = some call)
    (hhandle : s.directHandle = some loop) (hfree : s.handleLock = none)
    (hstoring : ∀ other ∈ s.calls, other.storing = none) (hstart' : call'.startPc = none)
    (hwait : call'.stopPc = some (.wait loop)) :
    Inv { s with directHandle := none, handleLock := some i, calls := s.calls.set i call' } := by
  have honly : ∀ other, Live s other → other = loop := by
    intro other hlive
    have hstored := live_stored h hfree hstoring hlive
    rw [hhandle] at hstored
    exact (Option.some.inj hstored).symm
  refine ⟨⟨h.loops.one, h.loops.active⟩, startLock_set h hstart', ?_, ?_, ?_, ?_, ?_⟩
  · intro j other k hother hwait
    rcases getElem?_set_cases hother with ⟨rfl, rfl⟩ | ⟨-, hother⟩
    · rfl
    · rw [h.handleLock j other k hother hwait] at hfree
      cases hfree
  · intro k hk
    have hlt := (List.getElem?_eq_some_iff.mp hcall).1
    rw [honly k hk]
    exact .inr ⟨i, call', List.getElem?_set_self hlt, .inr hwait⟩
  · intro j other k hother hother' l hl
    rcases getElem?_set_cases hother with ⟨rfl, rfl⟩ | ⟨-, hother⟩
    · simp [Call.storing, hstart'] at hother'
    · exact h.storing j other k hother hother' l hl
  · intro j other k hother hwait' l hl
    rcases getElem?_set_cases hother with ⟨rfl, rfl⟩ | ⟨-, hother⟩
    · rw [hwait] at hwait'
      cases hwait'
      exact honly l hl
    · exact h.waiting j other k hother hwait' l hl
  · intro j other hother hinactive l hl
    rcases getElem?_set_cases hother with ⟨rfl, rfl⟩ | ⟨-, hother⟩
    · rw [hwait] at hinactive
      cases hinactive
    · exact h.inactive j other hother hinactive l hl

theorem inv_stop {t : State} {pc : Stop} {progress : Progress Stop} (h : Inv s)
    (hcall : s.calls[i]? = some call) (hpc : call.stopPc = some pc) (hstart : call.startPc = none)
    (hstep : s.stop i pc = some (t, progress)) (hpc' : call'.stopPc = progress.pc)
    (hstart' : call'.startPc = none)
    (horderly : pc = .take → ∀ other ∈ s.calls, other.storing = none) :
    Inv { t with calls := s.calls.set i call' } := by
  cases pc with
  | flag =>
    cases hstep
    exact inv_stop_set h hcall hstart hstart' rfl rfl rfl rfl rfl rfl (by simp [hpc])
      (by simp [hpc', Progress.pc])
  | take =>
    simp only [State.stop] at hstep
    split at hstep
    · rename_i hfree
      split at hstep <;> cases hstep
      · rename_i loop hhandle
        exact inv_take (s := s) h hcall hhandle hfree (horderly rfl) hstart' hpc'
      · rename_i hhandle
        refine inv_stop_none h rfl rfl (.inl rfl) rfl ?_ hstart' (by simp [hpc', Progress.pc]) ?_
        · intro loop hlive
          rw [live_stored h hfree (horderly rfl) hlive] at hhandle
          cases hhandle
        · exact fun j other loop _ => h.handleLock j other loop
    · cases hstep
  | wait loop =>
    simp only [State.stop] at hstep
    split at hstep <;> cases hstep
    rename_i hgone
    refine inv_stop_none h rfl rfl (.inl rfl) rfl ?_ hstart' (by simp [hpc', Progress.pc]) ?_
    · intro other hlive
      obtain rfl := h.waiting i call loop hcall hpc other hlive
      obtain ⟨l, hl, hphase⟩ := hlive
      simp [State.gone, hl, hphase] at hgone
    · intro j other k hj hother hwait
      have hi := h.handleLock i call loop hcall hpc
      rw [h.handleLock j other k hother hwait] at hi
      exact absurd (Option.some.inj hi) hj
  | inactive =>
    cases hstep
    refine inv_stop_none h rfl rfl (.inr rfl) rfl (h.inactive i call hcall hpc) hstart'
      (by simp [hpc', Progress.pc]) ?_
    exact fun j other loop _ => h.handleLock j other loop
  | write =>
    cases hstep
    exact inv_stop_set h hcall hstart hstart' rfl rfl rfl rfl rfl rfl (by simp [hpc])
      (by simp [hpc', Progress.pc])

end Stop

/-! ## Steps of the calls and of the loops -/

/-- A step between `start` and `stop`. -/
theorem inv_outside {s t : State} (h : Inv s) {i : Nat} {call call' : Call}
    (hcall : s.calls[i]? = some call) (hset : t.calls = s.calls.set i call')
    (hloops : t.loops = s.loops) (hactive : t.directActive = s.directActive)
    (hhandle : t.directHandle = s.directHandle) (hhandleLock : t.handleLock = s.handleLock)
    (hstartLock : t.startLock = s.startLock)
    (hbefore : call.startPc = none ∧ call.stopPc = none)
    (hstart : call'.startPc = none ∨ call'.startPc = some .acquire)
    (hstop : call'.stopPc = none ∨ call'.stopPc = some .flag) : Inv t := by
  refine inv_set h hcall hset ?_ hactive hhandle hhandleLock ?_ ?_ ?_ ?_
  · intro loop
    simp only [Live, hloops]
  · exact ⟨by simp [Call.storing, hbefore.1], by simp [hbefore.2]⟩
  · refine ⟨?_, ?_, ?_⟩
    · rcases hstart with hstart | hstart <;> simp [Call.storing, hstart]
    · rcases hstop with hstop | hstop <;> simp [hstop]
    · rcases hstop with hstop | hstop <;> simp [hstop]
  · intro hcritical
    rcases hstart with hstart | hstart <;> simp [Call.critical, hstart] at hcritical
  · intro j other _ hother hcritical
    exact hstartLock.trans (h.startLock j other hother hcritical)

/-- A step of a call that is in `start`. -/
theorem inv_in_start {s : State} (h : Inv s) {i : Nat} {fails : Bool} {call : Call} {pc : Start}
    (hcall : s.calls[i]? = some call) (hpc : call.startPc = some pc) (hstop : call.stopPc = none)
    (hspawn : call.startPc = some .spawn →
      s.directActive = false ∧ ∀ other ∈ s.calls, other.stopping = false)
    {f : State × Progress Start → State × Call}
    (hf : ∀ u progress, ∃ call', f (u, progress) = (u, call') ∧ call'.startPc = progress.pc ∧
      call'.stopPc = none) {t : State} {call' : Call}
    (hnext : (s.start i fails pc).map f = some (t, call')) :
    Inv { t with calls := s.calls.set i call' } := by
  obtain ⟨⟨u, progress⟩, hstep, heq⟩ := Option.map_eq_some_iff.mp hnext
  obtain ⟨call'', hcall'', hpc', hstop'⟩ := hf u progress
  rw [hcall''] at heq
  cases heq
  exact inv_start h hcall hpc hstop hstep hpc' hstop' fun hspawning =>
    hspawn (hpc.trans (congrArg some hspawning))

/-- A step of a call that is in `stop`. -/
theorem inv_in_stop {s : State} (h : Inv s) {i : Nat} {call : Call} {pc : Stop}
    (hcall : s.calls[i]? = some call) (hstart : call.startPc = none) (hpc : call.stopPc = some pc)
    (htake : call.stopPc = some .take → ∀ other ∈ s.calls, other.storing = none)
    {f : State × Progress Stop → State × Call}
    (hf : ∀ u progress, ∃ call', f (u, progress) = (u, call') ∧ call'.startPc = none ∧
      call'.stopPc = progress.pc) {t : State} {call' : Call}
    (hnext : (s.stop i pc).map f = some (t, call')) :
    Inv { t with calls := s.calls.set i call' } := by
  obtain ⟨⟨u, progress⟩, hstep, heq⟩ := Option.map_eq_some_iff.mp hnext
  obtain ⟨call'', hcall'', hstart', hpc'⟩ := hf u progress
  rw [hcall''] at heq
  cases heq
  exact inv_stop h hcall hpc hstart hstep hpc' hstart' fun htaking =>
    htake (hpc.trans (congrArg some htaking))

theorem inv_advance {s : State} (h : Inv s) {i : Nat} {fails : Bool} {call : Call}
    (hcall : s.calls[i]? = some call) (horderly : Orderly s (.advance i fails)) {t : State}
    {call' : Call} (hnext : s.next i fails call = some (t, call')) :
    Inv { t with calls := s.calls.set i call' } := by
  obtain ⟨hspawn, htake⟩ := horderly call hcall
  cases call with
  | returned => cases hnext
  | start pc =>
    refine inv_in_start h hcall rfl rfl hspawn (fun u progress => ?_) hnext
    cases progress with
    | goes pc' => exact ⟨_, rfl, rfl, rfl⟩
    | returns ok => exact ⟨_, rfl, rfl, rfl⟩
  | stop pc =>
    refine inv_in_stop h hcall rfl rfl htake (fun u progress => ?_) hnext
    cases progress with
    | goes pc' => exact ⟨_, rfl, rfl, rfl⟩
    | returns ok => exact ⟨_, rfl, rfl, rfl⟩
  | applyVideoConfig pc =>
    cases pc with
    | check =>
      simp only [State.next, State.applyVideoConfig] at hnext
      split at hnext <;> cases hnext
      · exact inv_outside h hcall rfl rfl rfl rfl rfl rfl ⟨rfl, rfl⟩ (.inl rfl) (.inl rfl)
      · cases hactive : s.directActive with
        | true =>
          exact inv_outside h hcall rfl rfl hactive.symm rfl rfl rfl ⟨rfl, rfl⟩ (.inl rfl)
            (.inr rfl)
        | false =>
          exact inv_outside h hcall rfl rfl hactive.symm rfl rfl rfl ⟨rfl, rfl⟩ (.inl rfl)
            (.inl rfl)
    | stop pc =>
      refine inv_in_stop h hcall rfl rfl htake (fun u progress => ?_) hnext
      cases progress with
      | goes pc' => exact ⟨_, rfl, rfl, rfl⟩
      | returns ok => exact ⟨_, rfl, rfl, rfl⟩
    | write =>
      cases hnext
      exact inv_outside h hcall rfl rfl rfl rfl rfl rfl ⟨rfl, rfl⟩ (.inl rfl) (.inl rfl)
  | recovery pc =>
    cases pc with
    | start pc =>
      refine inv_in_start h hcall rfl rfl hspawn (fun u progress => ?_) hnext
      cases progress with
      | goes pc' => exact ⟨_, rfl, rfl, rfl⟩
      | returns ok => cases ok <;> exact ⟨_, rfl, rfl, rfl⟩
    | restart =>
      cases hnext
      exact inv_outside h hcall rfl rfl rfl rfl rfl rfl ⟨rfl, rfl⟩ (.inr rfl) (.inl rfl)
    | begin =>
      simp only [State.next, State.recovery] at hnext
      split at hnext <;> cases hnext
      · exact inv_outside h hcall rfl rfl rfl rfl rfl rfl ⟨rfl, rfl⟩ (.inl rfl) (.inl rfl)
      · exact inv_outside h hcall rfl rfl rfl rfl rfl rfl ⟨rfl, rfl⟩ (.inl rfl) (.inl rfl)
    | check =>
      cases hnext
      split <;>
        exact inv_outside h hcall rfl rfl rfl rfl rfl rfl ⟨rfl, rfl⟩ (.inl rfl) (.inl rfl)
    | finish =>
      cases hnext
      exact inv_outside h hcall rfl rfl rfl rfl rfl rfl ⟨rfl, rfl⟩ (.inl rfl) (.inl rfl)
    | write =>
      cases hnext
      cases fails <;>
        exact inv_outside h hcall rfl rfl rfl rfl rfl rfl ⟨rfl, rfl⟩ (.inl rfl) (.inl rfl)
    | poll left =>
      simp only [State.next, State.recovery] at hnext
      split at hnext <;> cases hnext <;>
        exact inv_outside h hcall rfl rfl rfl rfl rfl rfl ⟨rfl, rfl⟩ (.inl rfl) (.inl rfl)

theorem live_update {s : State} {loop : Nat} {f : CaptureLoop → CaptureLoop}
    (hf : ∀ l, s.loops[loop]? = some l → (f l).phase ≠ .gone ∧ l.phase ≠ .gone) (other : Nat) :
    Live (s.update loop f) other ↔ Live s other := by
  simp only [Live, State.update, List.getElem?_modify]
  split
  · rename_i heq
    subst heq
    cases hl : s.loops[loop]? with
    | none => simp
    | some l => simp [hf l hl]
  · simp

theorem live_setState {s : State} {loop : Nat} {state : StreamerState} {phase : Phase}
    (hphase : phase ≠ .gone)
    (hl : ∀ l, s.loops[loop]? = some l → l.phase ≠ .gone) (other : Nat) :
    Live (s.setState loop state phase) other ↔ Live s other := by
  simp only [State.setState]
  split
  · refine live_update (fun l hl' => ⟨hphase, hl l hl'⟩) other
  · rfl

/-- A loop goes on, and new calls may begin. -/
theorem inv_loops {s t : State} (h : Inv s) (hlive : ∀ loop, Live t loop ↔ Live s loop)
    (hactive : t.directActive = s.directActive) (hhandle : t.directHandle = s.directHandle)
    (hhandleLock : t.handleLock = s.handleLock) (hstartLock : t.startLock = s.startLock)
    {new : List Call} (hcalls : t.calls = s.calls ++ new)
    (hnew : ∀ call ∈ new, call.critical = false ∧ call.storing = none ∧
      (∀ loop, call.stopPc ≠ some (.wait loop)) ∧ call.stopPc ≠ some .inactive) : Inv t := by
  have hget {j : Nat} {call : Call} (hj : t.calls[j]? = some call) :
      s.calls[j]? = some call ∨ call ∈ new := by
    rw [hcalls] at hj
    exact getElem?_append_cases hj
  refine ⟨⟨?_, ?_⟩, ?_, ?_, ?_, ?_, ?_, ?_⟩
  · intro i j hi hj
    exact h.loops.one i j ((hlive i).mp hi) ((hlive j).mp hj)
  · rw [hactive, h.loops.active]
    exact exists_congr fun loop => (hlive loop).symm
  · intro j call hj hcritical
    rw [hstartLock]
    rcases hget hj with hj | hj
    · exact h.startLock j call hj hcritical
    · rw [(hnew call hj).1] at hcritical
      cases hcritical
  · intro j call loop hj hwait
    rw [hhandleLock]
    rcases hget hj with hj | hj
    · exact h.handleLock j call loop hj hwait
    · exact absurd hwait ((hnew call hj).2.2.1 loop)
  · intro loop hloop
    rw [hhandle]
    rcases h.handle loop ((hlive loop).mp hloop) with hstored | ⟨j, call, hj, hplace⟩
    · exact .inl hstored
    · refine .inr ⟨j, call, ?_, hplace⟩
      rw [hcalls]
      exact getElem?_append_kept hj
  · intro j call loop hj hstoring k hk
    rcases hget hj with hj | hj
    · exact h.storing j call loop hj hstoring k ((hlive k).mp hk)
    · rw [(hnew call hj).2.1] at hstoring
      cases hstoring
  · intro j call loop hj hwait k hk
    rcases hget hj with hj | hj
    · exact h.waiting j call loop hj hwait k ((hlive k).mp hk)
    · exact absurd hwait ((hnew call hj).2.2.1 loop)
  · intro j call hj hinactive k hk
    rcases hget hj with hj | hj
    · exact h.inactive j call hj hinactive k ((hlive k).mp hk)
    · exact absurd hinactive (hnew call hj).2.2.2

/-- A loop returns. -/
theorem inv_exit {s : State} (h : Inv s) {loop : Nat} {l : CaptureLoop}
    (hl : s.loops[loop]? = some l) (hleaving : l.phase = .leaving) :
    Inv { s.update loop ({ · with phase := .gone }) with directActive := false } := by
  have hlive : Live s loop := ⟨l, hl, by simp [hleaving]⟩
  refine inv_none ?_ rfl h.startLock h.handleLock
  rintro other ⟨l', hl', hphase⟩
  simp only [State.update, List.getElem?_modify] at hl'
  split at hl'
  · obtain ⟨l, -, rfl⟩ := Option.map_eq_some_iff.mp hl'
    exact hphase rfl
  · rename_i hne
    exact hne (h.loops.one loop other hlive ⟨l', by simpa using hl', hphase⟩)

/-- What `set_state` leaves alone. -/
structure Frame (s t : State) : Prop where
  active : t.directActive = s.directActive
  handle : t.directHandle = s.directHandle
  handleLock : t.handleLock = s.handleLock
  startLock : t.startLock = s.startLock
  calls : t.calls = s.calls

theorem frame_setState (s : State) (loop : Nat) (state : StreamerState) (phase : Phase) :
    Frame s (s.setState loop state phase) := by
  simp only [State.setState]
  split <;> exact ⟨rfl, rfl, rfl, rfl, rfl⟩

theorem inv_frame {s t : State} (h : Inv s) (hlive : ∀ loop, Live t loop ↔ Live s loop)
    (hframe : Frame s t) : Inv t :=
  inv_loops h hlive hframe.active hframe.handle hframe.handleLock hframe.startLock
    (hframe.calls.trans (List.append_nil _).symm) fun _ hcall => nomatch hcall

theorem inv_loopStep {s t : State} (h : Inv s) {loop : Nat} {l : CaptureLoop} {e : LoopStep}
    (hl : s.loops[loop]? = some l) (hstep : s.loopStep loop l e = some t) : Inv t := by
  have honly {l' : CaptureLoop} (hl' : s.loops[loop]? = some l') : l' = l := by
    rw [hl] at hl'
    exact (Option.some.inj hl').symm
  have hset {state : StreamerState} {phase : Phase} (hphase : phase ≠ .gone)
      (hl' : l.phase ≠ .gone) : Inv (s.setState loop state phase) :=
    inv_frame h (live_setState hphase fun l' h' => honly h' ▸ hl') (frame_setState _ _ _ _)
  cases e with
  | opens =>
    simp only [State.loopStep] at hstep
    split at hstep <;> cases hstep
    rename_i hphase
    refine inv_frame h (live_update fun l' hl' => ?_) ⟨rfl, rfl, rfl, rfl, rfl⟩
    simp [honly hl', hphase]
  | openFails =>
    simp only [State.loopStep] at hstep
    split at hstep <;> cases hstep
    rename_i hphase
    exact hset (by simp) (by simp [hphase])
  | stopped =>
    simp only [State.loopStep] at hstep
    split at hstep <;> cases hstep
    rename_i hphase
    refine inv_frame h (live_update fun l' hl' => ?_) ⟨rfl, rfl, rfl, rfl, rfl⟩
    rcases hphase.1 with hphase | hphase <;> simp [honly hl', hphase]
  | timeout =>
    simp only [State.loopStep] at hstep
    split at hstep <;> cases hstep
    rename_i hphase
    refine inv_frame (hset (by simp) (by simp [hphase.1])) (live_update fun l' hl' => ?_)
      ⟨rfl, rfl, rfl, rfl, rfl⟩
    simp [State.setState, hl, State.update] at hl'
    simp [← hl']
  | frame =>
    simp only [State.loopStep] at hstep
    split at hstep
    · rename_i hphase
      split at hstep <;> cases hstep
      · exact h
      · refine inv_frame (hset (by simp) (by simp [hphase])) (live_update fun l' hl' => ?_)
          ⟨rfl, rfl, rfl, rfl, rfl⟩
        simp [State.setState, hl, State.update] at hl'
        simp [← hl']
    · cases hstep
  | softRestart =>
    simp only [State.loopStep] at hstep
    split at hstep <;> cases hstep
    rename_i hphase
    refine inv_frame h (live_update fun l' hl' => ?_) ⟨rfl, rfl, rfl, rfl, rfl⟩
    simp [honly hl', hphase.1]
  | idle =>
    simp only [State.loopStep] at hstep
    split at hstep <;> cases hstep
    rename_i hphase
    exact hset (by simp) (by simp [hphase])
  | lost =>
    simp only [State.loopStep] at hstep
    split at hstep <;> cases hstep
    rename_i hphase
    have hleaving : Inv (s.setState loop .deviceLost .leaving) :=
      hset (by simp) (by simp [hphase])
    refine inv_loops hleaving (fun _ => Iff.rfl) rfl rfl rfl rfl rfl ?_
    intro call hcall
    obtain rfl := List.mem_singleton.mp hcall
    exact ⟨rfl, rfl, by simp [Call.stopPc], by simp [Call.stopPc]⟩
  | exit =>
    simp only [State.loopStep] at hstep
    split at hstep <;> cases hstep
    rename_i hphase
    exact inv_exit h hl hphase

theorem inv_step {s s' : State} {e : Event} (h : Inv s) (horderly : Orderly s e)
    (hstep : step s e = some s') : Inv s' := by
  have hbegin {call : Call} (hstart : call.startPc = none ∨ call.startPc = some .acquire)
      (hstop : call.stopPc = none ∨ call.stopPc = some .flag) :
      Inv { s with calls := s.calls ++ [call] } := by
    refine inv_loops h (fun _ => Iff.rfl) rfl rfl rfl rfl rfl ?_
    intro other hother
    obtain rfl := List.mem_singleton.mp hother
    refine ⟨?_, ?_, ?_, ?_⟩
    · rcases hstart with hstart | hstart <;> simp [Call.critical, hstart]
    · rcases hstart with hstart | hstart <;> simp [Call.storing, hstart]
    · rcases hstop with hstop | hstop <;> simp [hstop]
    · rcases hstop with hstop | hstop <;> simp [hstop]
  cases e with
  | start =>
    cases hstep
    exact hbegin (.inr rfl) (.inl rfl)
  | stop =>
    cases hstep
    exact hbegin (.inl rfl) (.inr rfl)
  | applyVideoConfig =>
    cases hstep
    exact hbegin (.inl rfl) (.inl rfl)
  | advance i fails =>
    obtain ⟨call, hcall, hstep⟩ := Option.bind_eq_some_iff.mp hstep
    obtain ⟨⟨t, call'⟩, hnext, rfl⟩ := Option.map_eq_some_iff.mp hstep
    exact inv_advance h hcall horderly hnext
  | loop loop e =>
    obtain ⟨l, hl, hstep⟩ := Option.bind_eq_some_iff.mp hstep
    exact inv_loopStep h hl hstep

theorem inv_init : Inv {} := by
  refine inv_none ?_ rfl ?_ ?_
  · rintro loop ⟨l, hl, -⟩
    cases hl
  · intro i call hcall
    cases hcall
  · intro i call loop hcall
    cases hcall

/-- Where calls are orderly, at most one loop is alive and `direct_active` says so. -/
theorem one_loop {s : State} (h : (system.restrict Orderly).Reachable s) : OneLoop s := by
  have hinv : Inv s := by
    refine TSys.invariant ?_ ?_ h
    · rintro s rfl
      exact inv_init
    · intro s e t h hstep
      exact inv_step h hstep.2 hstep.1
  exact hinv.loops

/-! ## Streaming -/

/-- A streamer in state `Streaming` has a loop at work. -/
structure Working (s : State) : Prop where
  streaming : s.state = .streaming → ∃ loop, s.working loop
  last : ∀ (loop : Nat) (l : CaptureLoop), s.loops[loop]? = some l →
    l.phase = .opening ∨ l.phase = .capturing → l.lastState = .streaming ∨ l.lastState = .noSignal

theorem working_of_same {s t : State} (h : Working s) (hloops : t.loops = s.loops)
    (hstate : t.state = .streaming → s.state = .streaming ∨ ∃ loop, s.working loop) :
    Working t := by
  have hworking (loop : Nat) : t.working loop = s.working loop := by
    simp only [State.working, hloops]
  refine ⟨?_, hloops ▸ h.last⟩
  intro hstreaming
  simp only [hworking]
  rcases hstate hstreaming with hbefore | hat
  · exact h.streaming hbefore
  · exact hat

theorem working_spawn {s t : State} (h : Working s)
    (hloops : t.loops = s.loops ++ [({} : CaptureLoop)]) : Working t := by
  refine ⟨fun _ => ⟨s.loops.length, ?_⟩, ?_⟩
  · simp [State.working, hloops]
  · intro loop l hl hphase
    rw [hloops, List.getElem?_append] at hl
    split at hl
    · exact h.last loop l hl hphase
    · obtain rfl := List.mem_singleton.mp (List.mem_of_getElem? hl)
      exact .inl rfl

theorem working_start {s t : State} {i : Nat} {fails : Bool} {pc : Start}
    {progress : Progress Start} (h : Working s) (hstep : s.start i fails pc = some (t, progress))
    (hwrite : ∀ loop, pc = .write loop → s.working loop) : Working t := by
  cases pc with
  | acquire | device =>
    simp only [State.start] at hstep
    split at hstep <;> cases hstep
    all_goals exact working_of_same h rfl .inl
  | decide =>
    simp only [State.start] at hstep
    split at hstep <;> cases hstep
    all_goals exact working_of_same h rfl .inl
  | init =>
    simp only [State.start] at hstep
    split at hstep <;> cases hstep
    · exact working_of_same h rfl .inl
    · exact working_of_same h rfl fun hstreaming => nomatch hstreaming
  | spawn =>
    cases hstep
    exact working_spawn h rfl
  | handle loop =>
    simp only [State.start] at hstep
    split at hstep <;> cases hstep
    exact working_of_same h rfl .inl
  | write loop =>
    cases hstep
    exact working_of_same h rfl fun _ => .inr ⟨loop, hwrite loop rfl⟩

theorem working_stop {s t : State} {i : Nat} {pc : Stop} {progress : Progress Stop} (h : Working s)
    (hstep : s.stop i pc = some (t, progress)) : Working t := by
  cases pc with
  | flag | inactive =>
    cases hstep
    exact working_of_same h rfl .inl
  | take =>
    simp only [State.stop] at hstep
    split at hstep
    · split at hstep <;> cases hstep
      all_goals exact working_of_same h rfl .inl
    · cases hstep
  | wait loop =>
    simp only [State.stop] at hstep
    split at hstep <;> cases hstep
    exact working_of_same h rfl .inl
  | write =>
    cases hstep
    exact working_of_same h rfl fun hstreaming => nomatch hstreaming

theorem working_next {s t : State} {i : Nat} {fails : Bool} {call call' : Call} (h : Working s)
    (hnext : s.next i fails call = some (t, call'))
    (hwrite : ∀ loop, call.startPc = some (.write loop) → s.working loop) : Working t := by
  cases call with
  | returned => cases hnext
  | start pc =>
    obtain ⟨⟨u, progress⟩, hstep, heq⟩ := Option.map_eq_some_iff.mp hnext
    have hu := working_start h hstep fun loop hpc => hwrite loop (congrArg some hpc)
    cases progress <;> cases heq <;> exact hu
  | stop pc =>
    obtain ⟨⟨u, progress⟩, hstep, heq⟩ := Option.map_eq_some_iff.mp hnext
    have hu := working_stop h hstep
    cases progress <;> cases heq <;> exact hu
  | applyVideoConfig pc =>
    cases pc with
    | check =>
      simp only [State.next, State.applyVideoConfig] at hnext
      split at hnext <;> cases hnext <;> exact h
    | stop pc =>
      obtain ⟨⟨u, progress⟩, hstep, heq⟩ := Option.map_eq_some_iff.mp hnext
      have hu := working_stop h hstep
      cases progress <;> cases heq <;> exact hu
    | write =>
      cases hnext
      exact working_of_same h rfl fun hstreaming => nomatch hstreaming
  | recovery pc =>
    cases pc with
    | start pc =>
      obtain ⟨⟨u, progress⟩, hstep, heq⟩ := Option.map_eq_some_iff.mp hnext
      have hu := working_start h hstep fun loop hpc => hwrite loop (congrArg some hpc)
      cases progress <;> cases heq <;> exact hu
    | restart =>
      cases hnext
      exact working_of_same h rfl .inl
    | begin =>
      simp only [State.next, State.recovery] at hnext
      split at hnext <;> cases hnext
      all_goals exact working_of_same h rfl .inl
    | check | finish =>
      cases hnext
      exact working_of_same h rfl .inl
    | write =>
      cases hnext
      exact working_of_same h rfl fun hstreaming => nomatch hstreaming
    | poll left =>
      simp only [State.next, State.recovery] at hnext
      split at hnext <;> cases hnext
      all_goals exact working_of_same h rfl .inl

/-- A loop changes: it stays at work, or the state is another one. -/
theorem working_modify {s t : State} (h : Working s) {loop : Nat} {l : CaptureLoop}
    {f : CaptureLoop → CaptureLoop} (hl : s.loops[loop]? = some l)
    (hloops : t.loops = s.loops.modify loop f)
    (hlast : (f l).phase = .opening ∨ (f l).phase = .capturing →
      (f l).lastState = .streaming ∨ (f l).lastState = .noSignal)
    (hstate : ((f l).phase = .opening ∨ (f l).phase = .capturing) ∨ t.state ≠ .streaming) :
    Working t := by
  refine ⟨?_, ?_⟩
  · intro hstreaming
    rcases hstate with hphase | hstate
    · refine ⟨loop, ?_⟩
      rcases hphase with hphase | hphase <;> simp [State.working, hloops, hl, hphase]
    · exact absurd hstreaming hstate
  · intro k l' hl' hphase
    rw [hloops, List.getElem?_modify] at hl'
    split at hl'
    · rename_i heq
      subst heq
      rw [hl] at hl'
      cases hl'
      exact hlast hphase
    · exact h.last k l' (by simpa using hl') hphase

/-- `set_state` of a loop at work. -/
theorem working_setState {s : State} (h : Working s) {loop : Nat} {l : CaptureLoop}
    (hl : s.loops[loop]? = some l) (hphase : l.phase = .opening ∨ l.phase = .capturing)
    {state : StreamerState} {phase : Phase}
    (hstate : phase = .capturing ∧ (state = .streaming ∨ state = .noSignal) ∨
      phase = .leaving ∧ state ≠ .streaming ∧ state ≠ .noSignal) :
    Working (s.setState loop state phase) := by
  simp only [State.setState, hl]
  rcases hstate with ⟨rfl, hstate⟩ | ⟨rfl, hstreaming, hnoSignal⟩
  · exact working_modify h hl rfl (fun _ => hstate) (.inl (.inr rfl))
  · refine working_modify h hl rfl (by simp) (.inr ?_)
    -- the last state of a loop at work is neither that nor an end of it
    have hne : state ≠ l.lastState := by
      rcases h.last loop l hl hphase with hlast | hlast <;> rw [hlast]
      · exact hstreaming
      · exact hnoSignal
    simp only [hne, ne_eq, not_false_eq_true, if_true]
    exact hstreaming

theorem working_loopStep {s t : State} (h : Working s) {loop : Nat} {l : CaptureLoop} {e : LoopStep}
    (hl : s.loops[loop]? = some l) (hsettles : e = .stopped → s.state ≠ .streaming)
    (hstep : s.loopStep loop l e = some t) : Working t := by
  cases e with
  | opens =>
    simp only [State.loopStep] at hstep
    split at hstep <;> cases hstep
    rename_i hphase
    exact working_modify h hl rfl (fun _ => h.last loop l hl (.inl hphase)) (.inl (.inr rfl))
  | openFails =>
    simp only [State.loopStep] at hstep
    split at hstep <;> cases hstep
    rename_i hphase
    exact working_setState h hl (.inl hphase) (.inr ⟨rfl, by simp, by simp⟩)
  | stopped =>
    simp only [State.loopStep] at hstep
    split at hstep <;> cases hstep
    exact working_modify h hl rfl (by simp) (.inr (hsettles rfl))
  | timeout =>
    simp only [State.loopStep] at hstep
    split at hstep <;> cases hstep
    rename_i hphase
    have hset := working_setState h hl (.inr hphase.1) (.inl ⟨rfl, .inr rfl⟩)
    have hl' : (s.setState loop .noSignal .capturing).loops[loop]? =
        some { l with lastState := .noSignal, phase := .capturing } := by
      simp [State.setState, hl, State.update]
    exact working_modify hset hl' rfl (fun _ => .inr rfl) (.inl (.inr rfl))
  | frame =>
    simp only [State.loopStep] at hstep
    split at hstep
    · rename_i hphase
      split at hstep <;> cases hstep
      · exact h
      · have hset := working_setState h hl (.inr hphase) (.inl ⟨rfl, .inl rfl⟩)
        have hl' : (s.setState loop .streaming .capturing).loops[loop]? =
            some { l with lastState := .streaming, phase := .capturing } := by
          simp [State.setState, hl, State.update]
        exact working_modify hset hl' rfl (fun _ => .inl rfl) (.inl (.inr rfl))
    · cases hstep
  | softRestart =>
    simp only [State.loopStep] at hstep
    split at hstep <;> cases hstep
    rename_i hphase
    exact working_modify h hl rfl (fun _ => h.last loop l hl (.inr hphase.1)) (.inl (.inl rfl))
  | idle =>
    simp only [State.loopStep] at hstep
    split at hstep <;> cases hstep
    rename_i hphase
    exact working_setState h hl (.inr hphase) (.inr ⟨rfl, by simp, by simp⟩)
  | lost =>
    simp only [State.loopStep] at hstep
    split at hstep <;> cases hstep
    rename_i hphase
    have hset : Working (s.setState loop .deviceLost .leaving) :=
      working_setState h hl (.inr hphase) (.inr ⟨rfl, by simp, by simp⟩)
    exact working_of_same hset rfl .inl
  | exit =>
    simp only [State.loopStep] at hstep
    split at hstep <;> cases hstep
    rename_i hphase
    refine ⟨?_, ?_⟩
    · intro hstreaming
      obtain ⟨k, hk⟩ := h.streaming hstreaming
      have hne : loop ≠ k := by
        rintro rfl
        simp [State.working, hl, hphase] at hk
      refine ⟨k, ?_⟩
      simpa [State.working, State.update, List.getElem?_modify, hne] using hk
    · intro k l' hl' hphase'
      simp only [State.update, List.getElem?_modify] at hl'
      split at hl'
      · obtain ⟨l, -, rfl⟩ := Option.map_eq_some_iff.mp hl'
        rcases hphase' with hphase' | hphase' <;> cases hphase'
      · exact h.last k l' (by simpa using hl') hphase'

theorem working_step {s s' : State} {e : Event} (h : Working s) (hsettles : Settles s e)
    (hstep : step s e = some s') : Working s' := by
  cases e with
  | start | stop | applyVideoConfig =>
    cases hstep
    exact working_of_same h rfl .inl
  | advance i fails =>
    obtain ⟨call, hcall, hstep⟩ := Option.bind_eq_some_iff.mp hstep
    obtain ⟨⟨t, call'⟩, hnext, rfl⟩ := Option.map_eq_some_iff.mp hstep
    have ht := working_next h hnext fun loop hpc =>
      hsettles call hcall loop (by simp [Call.writing, hpc])
    exact working_of_same ht rfl .inl
  | loop loop e =>
    obtain ⟨l, hl, hstep⟩ := Option.bind_eq_some_iff.mp hstep
    refine working_loopStep h hl ?_ hstep
    rintro rfl
    exact hsettles

/-- Where calls and loops settle the state, a streamer in state `Streaming` has a live loop. -/
theorem streaming_live {s : State} (h : (system.restrict Settles).Reachable s) :
    StreamingLive s := by
  have hworking : Working s := by
    refine TSys.invariant ?_ ?_ h
    · rintro s rfl
      exact ⟨(fun hstreaming => nomatch hstreaming), fun loop l hl => nomatch hl⟩
    · intro s e t h hstep
      exact working_step h hstep.2 hstep.1
  intro hstreaming
  obtain ⟨loop, hloop⟩ := hworking.streaming hstreaming
  obtain ⟨l, hl, hphase⟩ := (Option.any_eq_true _ _).mp hloop
  refine ⟨loop, l, hl, ?_⟩
  rintro hgone
  simp [hgone] at hphase

/-- One loop at most, as `direct_active` says, and one in state `Streaming`. -/
theorem capture_invariant {s : State}
    (h : (system.restrict fun s e => Orderly s e ∧ Settles s e).Reachable s) :
    OneLoop s ∧ StreamingLive s :=
  ⟨one_loop (TSys.restrict_mono (fun _ _ => And.left) h),
    streaming_live (TSys.restrict_mono (fun _ _ => And.right) h)⟩

/-- A loop that has lost its signal. -/
def noSignal : List Event :=
  .start :: List.replicate 7 (.advance 0 false) ++ [.loop 0 .opens, .loop 0 .timeout]

/-- It is stopped, and the next `start` has the only loop. -/
theorem restarted : ∃ s, (system.restrict fun s e => Orderly s e ∧ Settles s e).Reachable s ∧
    s.state = .streaming ∧ s.loops.map (·.phase) = [.gone, .opening] ∧
    OneLoop s ∧ StreamingLive s := by
  let run : List Event := noSignal ++ [.stop, .advance 1 false, .advance 1 false,
    .loop 0 .stopped, .loop 0 .exit] ++ List.replicate 3 (.advance 1 false) ++
    .start :: List.replicate 6 (.advance 2 false)
  have hrun : ∃ s, run.foldlM (fun s e => if Orderly s e ∧ Settles s e then step s e else none)
      {} = some s ∧ s.state = .streaming ∧ s.loops.map (·.phase) = [.gone, .opening] :=
    ⟨_, rfl, rfl, rfl⟩
  obtain ⟨s, hrun, hstate, hphases⟩ := hrun
  have h : (system.restrict fun s e => Orderly s e ∧ Settles s e).Reachable s :=
    TSys.ofFn_restrict_reachable (.init rfl) hrun
  exact ⟨s, h, hstate, hphases, capture_invariant h⟩

/-- `start` decides from the state, which is not `Streaming`, and runs a second loop. -/
theorem second_loop : ¬∀ s, system.Reachable s → OneLoop s ∧ StreamingLive s := by
  intro h
  let run : List Event := noSignal ++ .start :: List.replicate 4 (.advance 1 false)
  have hrun : ∃ s, run.foldlM step {} = some s ∧
      s.loops.map (·.phase) = [.capturing, .opening] := ⟨_, rfl, rfl⟩
  obtain ⟨s, hrun, hphases⟩ := hrun
  have hreachable : system.Reachable s := TSys.ofFn_reachable (.init rfl) hrun
  have hlive {loop : Nat} {phase : Phase} (hphase : phase ≠ .gone)
      (hget : [Phase.capturing, .opening][loop]? = some phase) : Live s loop := by
    rw [← hphases, List.getElem?_map, Option.map_eq_some_iff] at hget
    obtain ⟨l, hl, rfl⟩ := hget
    exact ⟨l, hl, hphase⟩
  have heq : (0 : Nat) = 1 := (h s hreachable).1.one 0 1
    (@hlive 0 .capturing (by simp) rfl) (@hlive 1 .opening (by simp) rfl)
  cases heq

end StreamBox.Video.Streamer
