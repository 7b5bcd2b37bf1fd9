import Mathlib.Data.List.Basic
import Mathlib.Logic.Basic
import StreamBox.Hid.ControllerStages

/-!
# The life of the HID backends

* **Lifecycle** — at most one backend is up, in the slot or in the hand of a call, and
  once the calls have returned the reported state is that of the slot
  (`lifecycle_of_orderly`), in every run in which calls do not overlap and a few windows
  are not hit (`Orderly`).
* **Overlap** — two reloads that overlap have two backends up (`two_backends_up`).
-/

namespace StreamBox.Hid.Controller

open StreamBox.Lib

/-! ## The property -/

/-- An initialised backend that has not been shut down, and that someone refers to. -/
def State.Live (s : State) (b : Nat) : Prop :=
  (s.hid.backend = some b ∨ (∃ call ∈ s.calls, call.holds = some b) ∨
      ∃ w ∈ s.hid.workers, w.pc ≠ .finished ∧ w.backend = b) ∧
    ∃ backend, s.hid.backends[b]? = some backend ∧ backend.up = true

/-- At most one backend is live, and it is the stored one, unless a call is about to
store it or shuts it down. -/
def Unique (s : State) : Prop :=
  ∀ b, s.Live b → (s.hid.backend = some b ∨ ∃ call ∈ s.calls, call.holds = some b) ∧
    ∀ b', s.Live b' → b' = b

namespace HidController

/-- Every announced change of backend `b` has been handled. -/
def Settled (c : HidController) (b : Nat) (backend : Backend) : Prop :=
  ∀ w ∈ c.workers, w.pc = .finished ∨
    (w.pc = .waiting ∧ (w.backend = b → w.seen = backend.version))

end HidController

/-- With no call running, the reported state is that of the slot. -/
def Describes (s : State) : Prop :=
  s.calls = [] →
    (s.hid.backend = none → s.hid.backendAvailable = false ∧ s.hid.runtimeState.Quiet) ∧
    ∀ b backend, s.hid.backend = some b → s.hid.backends[b]? = some backend →
      backend.kind = s.hid.backendType ∧ (s.hid.Settled b backend → s.hid.Shows backend)

def Lifecycle (s : State) : Prop := Unique s ∧ Describes s

/-! ## The condition -/

/-- Calls do not overlap, no `init` finds a stored backend and no `reload` to OTG lacks
the OTG service; no worker is in a pass when it is aborted, nor has it set the flag again
after a `reload` to no backend cleared it; every change of a snapshot is announced, and
the stored backend has none between a call's look at it and its subscription. -/
def Orderly (s : State) : Event → Prop
  | .start op => s.calls = [] ∧ (op = .init → s.hid.backend = none) ∧
      (op = .reload .otg → s.hid.otgService = true)
  | .advance i _ => ∀ call ∈ s.calls[i]?, call.aborts = true →
      s.hid.WorkerIdle ∧ (call = .reloadStop .none → s.hid.backendAvailable = false)
  | .change b _ announced => announced = true ∧
      (s.hid.backend = some b → ∀ call ∈ s.calls, call.unsubscribed = false)
  | _ => True

/-! ## Whole runs -/

/-- No call runs, or a single one. -/
def Inv (s : State) : Prop :=
  (s.calls = [] ∧ s.hid.Idle) ∨ ∃ call, s.calls = [call] ∧ s.hid.Stage call

theorem inv_start {s : State} {op : Op} (h : Inv s) (horderly : Orderly s (.start op)) :
    s.hid.Stage op.call := by
  obtain ⟨hcalls, hinit, hotg⟩ := horderly
  have hidle : s.hid.Idle := by
    rcases h with ⟨-, hidle⟩ | ⟨call, hcall, -⟩
    · exact hidle
    · simp [hcalls] at hcall
  cases op with
  | init => exact hidle.off (hinit rfl)
  | shutdown => exact hidle.attended
  | reload new =>
    refine ⟨hidle.attended, ?_⟩
    rintro rfl
    exact hotg rfl

/-- A step that leaves the calls alone. -/
theorem inv_of_hid {s : State} {hid : HidController} (h : Inv s)
    (hidle : s.hid.Idle → hid.Idle)
    (hstage : ∀ call ∈ s.calls, s.hid.Stage call → hid.Stage call) : Inv { s with hid } := by
  rcases h with ⟨hcalls, hold⟩ | ⟨call, hcalls, hold⟩
  · exact .inl ⟨hcalls, hidle hold⟩
  · exact .inr ⟨call, hcalls, hstage call (by simp [hcalls]) hold⟩

theorem inv_advance {s s' : State} {i : Nat} {outcome : Opened} (h : Inv s)
    (hstep : step s (.advance i outcome) = some s')
    (horderly : Orderly s (.advance i outcome)) : Inv s' := by
  obtain ⟨call, hcall, hs⟩ := Option.bind_eq_some_iff.mp hstep
  rcases h with ⟨hcalls, -⟩ | ⟨call', hcalls, hstage⟩
  · simp [hcalls] at hcall
  · have horderly := horderly call hcall
    rw [hcalls] at hcall hs
    obtain ⟨hlt, hget⟩ := List.getElem?_eq_some_iff.mp hcall
    obtain rfl : i = 0 := by simpa using hlt
    obtain rfl : call' = call := by simpa using hget
    have hafter := HidController.stage_advance hstage outcome horderly
    generalize s.hid.advance outcome call' = r at hafter hs
    obtain ⟨hid, next⟩ := r
    obtain ⟨-, hs⟩ := Option.ite_none_left_eq_some.mp hs
    obtain rfl := Option.some.inj hs
    cases next with
    | none => exact .inl ⟨rfl, hafter⟩
    | some next => exact .inr ⟨next, rfl, hafter⟩

theorem inv_worker {s : State} {hid : HidController} {i : Nat} {w : Worker} (h : Inv s)
    (hw : s.hid.workers[i]? = some w) (hmoves : s.hid.WorkerMoves i w hid) :
    Inv { s with hid } :=
  inv_of_hid h (fun hidle => HidController.idle_worker hidle hmoves hw)
    fun _ _ hstage => HidController.stage_worker hstage hmoves hw

theorem inv_step {s s' : State} {e : Event} (h : Inv s) (hstep : step s e = some s')
    (horderly : Orderly s e) : Inv s' := by
  cases e with
  | start op =>
    have hstage := inv_start h horderly
    cases hstep
    exact .inr ⟨op.call, by simp [horderly.1], hstage⟩
  | advance i outcome => exact inv_advance h hstep horderly
  | wake i =>
    obtain ⟨hid, hwake, rfl⟩ := Option.map_eq_some_iff.mp hstep
    obtain ⟨w, hw, hmoves⟩ := HidController.wake_moves hwake
    exact inv_worker h hw hmoves
  | work i =>
    obtain ⟨hid, hwork, rfl⟩ := Option.map_eq_some_iff.mp hstep
    obtain ⟨w, hw, hmoves⟩ := HidController.work_moves hwork
    exact inv_worker h hw hmoves
  | cancel i =>
    obtain ⟨hid, hcancel, rfl⟩ := Option.map_eq_some_iff.mp hstep
    obtain ⟨w, hw, hmoves⟩ := HidController.cancel_moves hcancel
    exact inv_worker h hw hmoves
  | change b snapshot announced =>
    obtain ⟨rfl, hwindow⟩ := horderly
    obtain ⟨hid, hchange, rfl⟩ := Option.map_eq_some_iff.mp hstep
    obtain ⟨old, new, hchanges⟩ := HidController.change_changes hchange
    refine inv_of_hid h (fun hidle => HidController.idle_change hidle hchanges) ?_
    exact fun call hcall hstage => HidController.stage_change hstage hchanges
      fun hb => hwindow hb call hcall

theorem inv_of_orderly {s : State} (hrun : (system.restrict Orderly).Reachable s) : Inv s := by
  refine TSys.invariant (I := Inv) ?_ ?_ hrun
  · rintro s ⟨kind, otgService, rfl⟩
    refine .inl ⟨rfl, .inl ⟨⟨rfl, ⟨?_, ?_⟩, rfl⟩, HidRuntimeState.quiet_fromBackendType kind⟩⟩
    · intro b backend hb
      simp [HidController.new] at hb
    · simp [HidController.new]
  · exact fun s e s' hs ⟨hstep, horderly⟩ => inv_step hs hstep horderly

/-- The backend that is up at a stage is the stored one or in the hand of the call. -/
theorem HidController.Stage.up {c : HidController} {call : Call} (h : c.Stage call) :
    ∃ o, c.OnlyUp o ∧ (o = none ∨ o = c.backend ∨ o = call.holds) := by
  cases call with
  | initType | write _ | initOpen _ => exact ⟨none, h.1.alone.up, .inl rfl⟩
  | initStore b | reloadClose b new | reloadStore new b =>
    exact ⟨_, h.2.1.up, .inr (.inr rfl)⟩
  | reloadOpen new => exact ⟨none, h.2.1.up, .inl rfl⟩
  | failType _ | failCurrent _ _ | reloadFailType _ | reloadNone | shutdownType =>
    exact ⟨none, h.alone.up, .inl rfl⟩
  | shutdownStop =>
    have hattended : c.Attended := h
    exact ⟨c.backend, hattended.up, .inr (.inl rfl)⟩
  | reloadClear _ | reloadStop _ => exact ⟨c.backend, h.1.up, .inr (.inl rfl)⟩
  | shutdownTake =>
    have halone : c.Alone c.backend := h
    exact ⟨c.backend, halone.up, .inr (.inl rfl)⟩
  | reloadTake _ | reloadCheck _ => exact ⟨c.backend, h.1.up, .inr (.inl rfl)⟩
  | shutdownClose b => exact ⟨_, h.2.up, .inr (.inr rfl)⟩
  | reloadType _ =>
    obtain ⟨b, hslot, halone, -⟩ := h
    exact ⟨some b, halone.up, .inr (.inl hslot.symm)⟩
  | syncSlot =>
    obtain ⟨b, backend, hstored⟩ := h
    exact ⟨some b, hstored.alone.up, .inr (.inl hstored.slot.symm)⟩
  | syncType _ | syncSample _ _ =>
    obtain ⟨⟨b, backend, hstored⟩, -⟩ := h
    exact ⟨some b, hstored.alone.up, .inr (.inl hstored.slot.symm)⟩
  | syncWrite _ | restartStop | restartSlot =>
    obtain ⟨b, backend, hstored, -⟩ := h
    exact ⟨some b, hstored.alone.up, .inr (.inl hstored.slot.symm)⟩
  | restartStore _ =>
    obtain ⟨backend, w, hwatched⟩ := h
    exact ⟨c.backend, hwatched.up, .inr (.inl rfl)⟩

theorem unique_of_inv {s : State} (h : Inv s) : Unique s := by
  obtain ⟨o, hup, ho⟩ : ∃ o, s.hid.OnlyUp o ∧
      (o = none ∨ o = s.hid.backend ∨ ∃ call ∈ s.calls, o = call.holds) := by
    rcases h with ⟨-, hidle⟩ | ⟨call, hcalls, hstage⟩
    · exact ⟨s.hid.backend, hidle.attended.up, .inr (.inl rfl)⟩
    · obtain ⟨o, hup, ho⟩ := hstage.up
      refine ⟨o, hup, ?_⟩
      rcases ho with ho | ho | ho
      · exact .inl ho
      · exact .inr (.inl ho)
      · exact .inr (.inr ⟨call, by simp [hcalls], ho⟩)
  rintro b ⟨-, backend, hentry, hbackend⟩
  have hb : o = some b := hup b backend hentry hbackend
  refine ⟨?_, ?_⟩
  · rcases ho with ho | ho | ⟨call, hcall, ho⟩
    · rw [hb] at ho
      cases ho
    · exact .inl (ho.symm.trans hb)
    · exact .inr ⟨call, hcall, ho.symm.trans hb⟩
  · rintro b' ⟨-, backend', hentry', hbackend'⟩
    exact Option.some.inj ((hup b' backend' hentry' hbackend').symm.trans hb)

/-- A worker that waits and has seen the last change leaves the backend's state. -/
theorem shows_of_settled {c : HidController} {i : Nat} {backend : Backend} {w : Worker}
    (h : c.Watched i backend w) (hsettled : c.Settled w.backend backend) : c.Shows backend := by
  have hfresh := h.fresh
  unfold HidController.Fresh at hfresh
  rcases hsettled w (List.mem_of_getElem? h.worker) with hpc | ⟨hpc, hseen⟩
  · rw [hpc] at hfresh
    cases hfresh
  · rw [hpc] at hfresh
    exact hfresh (hseen rfl)

theorem describes_of_inv {s : State} (h : Inv s) : Describes s := by
  intro hcalls
  have hidle : s.hid.Idle := by
    rcases h with ⟨-, hidle⟩ | ⟨call, hcall, -⟩
    · exact hidle
    · simp [hcalls] at hcall
  refine ⟨fun hslot => ?_, fun b backend hslot hentry => ?_⟩
  · obtain ⟨hoff, hquiet⟩ := hidle.off hslot
    exact ⟨hoff.available, hquiet⟩
  · rcases hidle with ⟨hoff, -⟩ | ⟨i, backend', w, -, hwatched⟩
    · rw [hoff.slot] at hslot
      cases hslot
    · obtain rfl : w.backend = b := Option.some.inj (hwatched.slot.symm.trans hslot)
      obtain rfl : backend' = backend := Option.some.inj (hwatched.entry.symm.trans hentry)
      exact ⟨hwatched.kind, shows_of_settled hwatched⟩

/-- **Backend lifecycle.** In every orderly run, at most one backend is live, stored or in
the hand of a call, and once the calls have returned the reported state is that of the
slot. -/
theorem lifecycle_of_orderly {s : State} (hrun : (system.restrict Orderly).Reachable s) :
    Lifecycle s :=
  ⟨unique_of_inv (inv_of_orderly hrun), describes_of_inv (inv_of_orderly hrun)⟩

/-! ## Runs -/

instance (c : HidController) : Decidable c.WorkerIdle :=
  inferInstanceAs (Decidable (∀ i ∈ _, ∀ w ∈ _, _))

instance (s : State) : (e : Event) → Decidable (Orderly s e)
  | .start _ => inferInstanceAs (Decidable (_ ∧ _ ∧ _))
  | .advance _ _ => inferInstanceAs (Decidable (∀ call ∈ _, _))
  | .change _ _ _ => inferInstanceAs (Decidable (_ ∧ _))
  | .wake _ | .work _ | .cancel _ => inferInstanceAs (Decidable True)

def online : HidBackendRuntimeSnapshot where
  initialized := true
  online := true

/-- `init` of an OTG backend, and a change that its worker handles. -/
def initRun : List Event :=
  [.start .init, .advance 0 .notCreated, .advance 0 (.initialised online)] ++
    List.replicate 8 (.advance 0 .notCreated) ++
    [.change 0 { online with online := false } true, .wake 0, .work 0, .work 0, .work 0]

theorem initRun_lifecycle : ∃ s : State, s.calls = [] ∧ s.hid.backend = some 0 ∧
    s.hid.runtimeState.online = false ∧ Lifecycle s := by
  have hrun : (initRun.foldlM (fun s e => if Orderly s e then step s e else none)
      { hid := .new .otg true }).any (fun s => s.calls.isEmpty && s.hid.backend == some 0 &&
        !s.hid.runtimeState.online) := by decide
  obtain ⟨s, hs, hend⟩ := Option.any_eq_true _ _ |>.mp hrun
  simp only [Bool.and_eq_true, List.isEmpty_iff, beq_iff_eq, Bool.not_eq_true'] at hend
  exact ⟨s, hend.1.1, hend.1.2, hend.2, lifecycle_of_orderly
    (TSys.ofFn_restrict_reachable (.init ⟨.otg, true, rfl⟩) hs)⟩

/-- Two reloads to OTG that both take the empty slot before either stores its backend. -/
def overlappingReloads : List Event :=
  [.start (.reload .otg), .start (.reload .otg), .advance 0 .notCreated, .advance 0 .notCreated,
    .advance 0 .notCreated, .advance 1 .notCreated, .advance 1 .notCreated,
    .advance 1 .notCreated, .advance 0 (.initialised online), .advance 1 (.initialised online)]

theorem live_of_holds {s : State} {call : Call} {b : Nat} (hcall : call ∈ s.calls)
    (hholds : call.holds = some b) (hup : (s.hid.backends.map (·.up))[b]? = some true) :
    s.Live b := by
  rw [List.getElem?_map, Option.map_eq_some_iff] at hup
  exact ⟨.inr (.inl ⟨call, hcall, hholds⟩), hup⟩

/-- **Two backends up.** Overlapping reloads initialise two backends. -/
theorem two_backends_up : ¬ ∀ s : State, system.Reachable s → Lifecycle s := by
  intro halways
  have hrun : (overlappingReloads.foldlM step { hid := .new .otg true }).any
      (fun s => s.calls == [.reloadStore .otg (some 0), .reloadStore .otg (some 1)] &&
        s.hid.backends.map (·.up) == [true, true]) := by decide
  obtain ⟨s, hs, hend⟩ := Option.any_eq_true _ _ |>.mp hrun
  simp only [Bool.and_eq_true, beq_iff_eq] at hend
  obtain ⟨hcalls, hup⟩ := hend
  have hfirst : s.Live 0 := live_of_holds (hcalls ▸ List.mem_cons_self) rfl (by rw [hup]; rfl)
  have hsecond : s.Live 1 :=
    live_of_holds (hcalls ▸ List.mem_cons_of_mem _ List.mem_cons_self) rfl (by rw [hup]; rfl)
  have hunique := (halways s (TSys.ofFn_reachable (.init ⟨.otg, true, rfl⟩) hs)).1
  cases (hunique 0 hfirst).2 1 hsecond

end StreamBox.Hid.Controller
