import Mathlib.Data.List.Basic
import Mathlib.Logic.Basic
import StreamBox.Hid.Controller
import StreamBox.Lib.Slots

/-!
# The stages of a controller call

What holds of the controller where a single call is (`HidController.Stage`), and between
calls (`HidController.Idle`).

* **Calls** — a step of the call leads from its stage to the next one (`stage_advance`).
* **Workers** — a step of a worker keeps the stage (`stage_worker`, `idle_worker`).
* **Backends** — so does a change of a snapshot (`stage_change`, `idle_change`).
-/

namespace StreamBox.Hid.Controller

open StreamBox.Lib

/-! ## The stages of a call -/

/-- It aborts the runtime worker next. -/
def Call.aborts : Call → Bool
  | .reloadStop _ | .shutdownStop | .restartStop => true
  | _ => false

/-- It has looked at the backend and has not subscribed to its changes yet. -/
def Call.unsubscribed : Call → Bool
  | .syncWrite _ | .restartStop | .restartSlot => true
  | _ => false

namespace HidController

/-- The runtime worker, if there is one, is not in a pass. -/
def WorkerIdle (c : HidController) : Prop :=
  ∀ i ∈ c.runtimeWorker, ∀ w ∈ c.workers[i]?, w.pc = .waiting ∨ w.pc = .finished

/-- The reported state is that of the backend. -/
def Shows (c : HidController) (backend : Backend) : Prop :=
  c.runtimeState = .fromBackend c.backendType backend.snapshot ∧
    c.backendAvailable = backend.snapshot.initialized

/-- Only `o` is up. -/
def OnlyUp (c : HidController) (o : Option Nat) : Prop :=
  ∀ (b : Nat) backend, c.backends[b]? = some backend → backend.up = true → o = some b

/-- Only `o` is up, and no worker runs. -/
structure Alone (c : HidController) (o : Option Nat) : Prop where
  up : c.OnlyUp o
  workers : ∀ w ∈ c.workers, w.pc = .finished

def OfKind (c : HidController) (b : Nat) (kind : HidBackendType) : Prop :=
  ∃ backend, c.backends[b]? = some backend ∧ backend.kind = kind

/-- Nothing is stored, up or available. -/
structure Off (c : HidController) : Prop where
  slot : c.backend = none
  alone : c.Alone none
  available : c.backendAvailable = false

/-- Only the stored backend is up, and only the worker of the handle runs. -/
structure Attended (c : HidController) : Prop where
  up : c.OnlyUp c.backend
  workers : ∀ (i : Nat) w, c.workers[i]? = some w → w.pc ≠ .finished →
    c.runtimeWorker = some i ∧ c.backend = some w.backend

/-- What a worker knows, by where it is. -/
def Fresh (c : HidController) (backend : Backend) (w : Worker) : Prop :=
  match w.pc with
  | .waiting => w.seen = backend.version → c.Shows backend
  | .type => True
  | .sample kind => kind = c.backendType
  | .write next => w.seen = backend.version →
      next = .fromBackend c.backendType backend.snapshot ∧
        c.backendAvailable = backend.snapshot.initialized
  | .finished => False

/-- Worker `i` watches the stored backend. -/
structure Watched (c : HidController) (i : Nat) (backend : Backend) (w : Worker) : Prop where
  slot : c.backend = some w.backend
  entry : c.backends[w.backend]? = some backend
  kind : backend.kind = c.backendType
  up : c.OnlyUp c.backend
  worker : c.workers[i]? = some w
  others : ∀ (j : Nat) v, c.workers[j]? = some v → v.pc ≠ .finished → j = i
  aborted : w.aborted = false
  seen : w.seen ≤ backend.version
  fresh : c.Fresh backend w

/-- The slot holds a backend of the reported type, with no worker yet. -/
structure Stored (c : HidController) (b : Nat) (backend : Backend) : Prop where
  slot : c.backend = some b
  alone : c.Alone (some b)
  entry : c.backends[b]? = some backend
  kind : backend.kind = c.backendType

/-- What holds with no call running. -/
def Idle (c : HidController) : Prop :=
  (c.Off ∧ c.runtimeState.Quiet) ∨
    ∃ i backend w, c.runtimeWorker = some i ∧ c.Watched i backend w

/-- What a reload to `new` keeps from its start. -/
def Reloads (c : HidController) (new : HidBackendType) : Prop :=
  (new = .otg → c.otgService = true) ∧ (new = .none → c.backendAvailable = false)

/-- What holds where a call is. -/
def Stage (c : HidController) : Call → Prop
  | .initType => c.Off ∧ c.runtimeState.Quiet
  | .initOpen kind => c.Off ∧ c.runtimeState.Quiet ∧ kind = c.backendType
  | .initStore b => c.backend = none ∧ c.Alone (some b) ∧ c.OfKind b c.backendType
  | .failType _ | .failCurrent _ _ | .reloadFailType _ | .reloadNone | .shutdownType => c.Off
  | .write next => c.Off ∧ next.Quiet
  | .shutdownStop => c.Attended
  | .reloadClear new | .reloadStop new => c.Attended ∧ (new = .otg → c.otgService = true)
  | .shutdownTake => c.Alone c.backend
  | .reloadTake new => c.Alone c.backend ∧ c.Reloads new
  | .shutdownClose b => c.backend = none ∧ c.Alone (some b)
  | .reloadClose b new => c.backend = none ∧ c.Alone (some b) ∧ c.Reloads new
  | .reloadOpen new => c.backend = none ∧ c.Alone none ∧ c.Reloads new
  | .reloadStore new b => c.backend = none ∧ c.Alone b ∧ c.Reloads new ∧
      (new = .none → b = none) ∧ ∀ b' ∈ b, c.OfKind b' new
  | .reloadCheck new => c.Alone c.backend ∧ ∀ b ∈ c.backend, c.OfKind b new
  | .reloadType new => ∃ b ∈ c.backend, c.Alone (some b) ∧ c.OfKind b new
  | .syncSlot => ∃ b backend, c.Stored b backend
  | .syncType o => (∃ b backend, c.Stored b backend) ∧ o = c.backend
  | .syncSample o kind => (∃ b backend, c.Stored b backend) ∧ o = c.backend ∧
      kind = c.backendType
  | .syncWrite next => ∃ b backend, c.Stored b backend ∧
      next = .fromBackend c.backendType backend.snapshot ∧
        c.backendAvailable = backend.snapshot.initialized
  | .restartStop | .restartSlot => ∃ b backend, c.Stored b backend ∧ c.Shows backend
  | .restartStore i => ∃ backend w, c.Watched i backend w

end HidController

/-! ## The steps of a call -/

namespace HidController

variable {c c' : HidController}

/-- The stored backend's worker is the only one that runs, whatever is stored. -/
theorem Idle.attended (h : c.Idle) : c.Attended := by
  rcases h with ⟨hoff, -⟩ | ⟨i, backend, w, hhandle, hwatched⟩
  · refine ⟨hoff.slot ▸ hoff.alone.up, fun i w hw hrun => ?_⟩
    exact absurd (hoff.alone.workers w (List.mem_of_getElem? hw)) hrun
  · refine ⟨hwatched.up, fun j v hv hrun => ?_⟩
    obtain rfl := hwatched.others j v hv hrun
    obtain rfl : w = v := Option.some.inj (hwatched.worker.symm.trans hv)
    exact ⟨hhandle, hwatched.slot⟩

theorem Idle.off (h : c.Idle) (hslot : c.backend = none) : c.Off ∧ c.runtimeState.Quiet := by
  rcases h with hoff | ⟨i, backend, w, -, hwatched⟩
  · exact hoff
  · rw [hwatched.slot] at hslot
    cases hslot

theorem abort_finished {w : Worker} (h : w.pc = .waiting ∨ w.pc = .finished) :
    w.abort.pc = .finished := by
  rcases h with h | h <;> simp [Worker.abort, h]

theorem stop_backend (c : HidController) : c.stopRuntimeWorker.backend = c.backend := by
  unfold stopRuntimeWorker
  split <;> rfl

theorem stop_backends (c : HidController) : c.stopRuntimeWorker.backends = c.backends := by
  unfold stopRuntimeWorker
  split <;> rfl

theorem stop_reported (c : HidController) :
    c.stopRuntimeWorker.backendType = c.backendType ∧
      c.stopRuntimeWorker.runtimeState = c.runtimeState ∧
      c.stopRuntimeWorker.backendAvailable = c.backendAvailable ∧
      c.stopRuntimeWorker.otgService = c.otgService := by
  unfold stopRuntimeWorker
  split <;> exact ⟨rfl, rfl, rfl, rfl⟩

theorem stop_alone (h : c.Attended) (hidle : c.WorkerIdle) :
    c.stopRuntimeWorker.Alone c.backend := by
  refine ⟨?_, fun w hw => ?_⟩
  · unfold OnlyUp
    rw [stop_backends]
    exact h.up
  · obtain ⟨j, hj⟩ := List.mem_iff_getElem?.mp hw
    unfold stopRuntimeWorker at hj
    split at hj
    · rename_i i hhandle
      simp only [List.getElem?_modify] at hj
      split at hj
      · rename_i hij
        obtain ⟨v, hv, rfl⟩ := Option.map_eq_some_iff.mp hj
        exact abort_finished (hidle i hhandle v (hij ▸ hv))
      · rename_i hij
        have hold : c.workers[j]? = some w := by simpa using hj
        by_contra hrun
        have hhandle' := (h.workers j w hold hrun).1
        rw [hhandle] at hhandle'
        exact hij (Option.some.inj hhandle')
    · rename_i hhandle
      by_contra hrun
      have hhandle' := (h.workers j w hj hrun).1
      rw [hhandle] at hhandle'
      cases hhandle'

theorem stop_alone_slot (h : c.Attended) (hidle : c.WorkerIdle) :
    c.stopRuntimeWorker.Alone c.stopRuntimeWorker.backend := by
  rw [stop_backend]
  exact stop_alone h hidle

/-- With no worker running there is nothing to abort. -/
theorem stop_alone_of_alone {o : Option Nat} (h : c.Alone o) : c.stopRuntimeWorker.Alone o := by
  refine ⟨?_, fun w hw => ?_⟩
  · unfold OnlyUp
    rw [stop_backends]
    exact h.up
  · unfold stopRuntimeWorker at hw
    split at hw
    · obtain ⟨j, hj⟩ := List.mem_iff_getElem?.mp hw
      simp only [List.getElem?_modify] at hj
      obtain ⟨v, hv, rfl⟩ := Option.map_eq_some_iff.mp hj
      have hfinished := h.workers v (List.mem_of_getElem? hv)
      split
      · exact abort_finished (.inr hfinished)
      · exact hfinished
    · exact h.workers w hw

theorem stored_stop {b : Nat} {backend : Backend} (h : c.Stored b backend) :
    c.stopRuntimeWorker.Stored b backend := by
  refine ⟨?_, stop_alone_of_alone h.alone, ?_, ?_⟩
  · rw [stop_backend]
    exact h.slot
  · rw [stop_backends]
    exact h.entry
  · rw [(stop_reported c).1]
    exact h.kind

theorem shows_stop {backend : Backend} (h : c.Shows backend) :
    c.stopRuntimeWorker.Shows backend := by
  obtain ⟨htype, hstate, hflag, -⟩ := stop_reported c
  unfold Shows
  rw [htype, hstate, hflag]
  exact h

theorem alone_close {b : Nat} (h : c.Alone (some b)) : (c.close b).Alone none := by
  refine ⟨fun b' backend hb' hup => ?_, h.workers⟩
  simp only [close, List.getElem?_modify] at hb'
  obtain ⟨old, hold, rfl⟩ := Option.map_eq_some_iff.mp hb'
  split at hup
  · cases hup
  · rename_i hne
    exact absurd (Option.some.inj (h.up b' old hold hup)) hne

theorem alone_opened (h : c.Alone none) (kind : HidBackendType)
    (snapshot : HidBackendRuntimeSnapshot) :
    (c.opened kind snapshot).Alone (some c.backends.length) := by
  refine ⟨fun b backend hb hup => ?_, h.workers⟩
  rcases getElem?_concat_cases hb with ⟨rfl, -⟩ | hold
  · rfl
  · cases h.up b backend hold hup

theorem ofKind_opened (c : HidController) (kind : HidBackendType)
    (snapshot : HidBackendRuntimeSnapshot) :
    (c.opened kind snapshot).OfKind c.backends.length kind :=
  ⟨{ kind, snapshot }, by simp [opened], rfl⟩

theorem Stored.sample {b : Nat} {backend : Backend} (h : c.Stored b backend)
    (kind : HidBackendType) : c.sample (some b) kind = .fromBackend kind backend.snapshot := by
  simp [HidController.sample, h.entry]

/-- What the worker a call has just spawned watches. -/
theorem watched_spawn {b : Nat} {backend : Backend} (h : c.Stored b backend)
    (hshows : c.Shows backend) :
    HidController.Watched
      { c with workers := c.workers ++ [{ backend := b, seen := backend.version }] }
      c.workers.length backend { backend := b, seen := backend.version } where
  slot := h.slot
  entry := h.entry
  kind := h.kind
  up := by
    show c.OnlyUp c.backend
    rw [h.slot]
    exact h.alone.up
  worker := by simp
  others j v hv hrun := by
    rcases getElem?_concat_cases hv with ⟨hlast, -⟩ | hold
    · exact hlast
    · exact absurd (h.alone.workers v (List.mem_of_getElem? hold)) hrun
  aborted := rfl
  seen := Nat.le_refl _
  fresh := fun _ => hshows

/-- What a step of a call leads to: the next stage, or no call. -/
def After (r : HidController × Option Call) : Prop :=
  match r.2 with
  | some call => r.1.Stage call
  | none => r.1.Idle

theorem after_initOpen {kind : HidBackendType} (h : c.Stage (.initOpen kind))
    (outcome : Opened) : After (c.advance outcome (.initOpen kind)) := by
  obtain ⟨hoff, hquiet, hkind⟩ := h
  simp only [advance]
  split
  · exact .inl ⟨hoff, hquiet⟩
  · cases outcome with
    | notCreated => exact .inl ⟨hoff, hquiet⟩
    | failed reason => exact ⟨hoff.slot, ⟨hoff.alone.up, hoff.alone.workers⟩, rfl⟩
    | initialised snapshot =>
      refine ⟨hoff.slot, alone_opened hoff.alone kind snapshot, ?_⟩
      have hnew := ofKind_opened c kind snapshot
      rw [hkind] at hnew ⊢
      exact hnew

theorem after_reloadOpen {new : HidBackendType} (h : c.Stage (.reloadOpen new))
    (outcome : Opened) : After (c.advance outcome (.reloadOpen new)) := by
  obtain ⟨hslot, halone, hreloads⟩ := h
  have hnone : After (c, some (.reloadStore new none)) :=
    ⟨hslot, halone, hreloads, fun _ => rfl, by simp⟩
  have hopened : ∀ snapshot, new ≠ .none →
      After (c.opened new snapshot, some (.reloadStore new (some c.backends.length))) := by
    intro snapshot hnew
    refine ⟨hslot, alone_opened halone new snapshot, hreloads, fun h => absurd h hnew, ?_⟩
    rintro b ⟨⟩
    exact ofKind_opened c new snapshot
  simp only [advance]
  split
  · rename_i hmissing
    rw [hreloads.1 hmissing.1] at hmissing
    cases hmissing.2
  · cases new with
    | none => exact hnone
    | otg =>
      cases outcome with
      | initialised snapshot => exact hopened snapshot (by simp)
      | _ => exact hnone
    | ch9329 port baudRate =>
      cases outcome with
      | initialised snapshot => exact hopened snapshot (by simp)
      | _ => exact hnone

theorem after_reloadStore {new : HidBackendType} {b : Option Nat}
    (h : c.Stage (.reloadStore new b)) (outcome : Opened) :
    After (c.advance outcome (.reloadStore new b)) := by
  obtain ⟨-, halone, hreloads, hnone, hkind⟩ := h
  by_cases hnew : new = .none
  · subst hnew
    obtain rfl := hnone rfl
    exact ⟨rfl, ⟨halone.up, halone.workers⟩, hreloads.2 rfl⟩
  · simp only [advance, hnew, ite_false]
    exact ⟨⟨halone.up, halone.workers⟩, hkind⟩

theorem after_restartSlot (h : c.Stage .restartSlot) (outcome : Opened) :
    After (c.advance outcome .restartSlot) := by
  obtain ⟨b, backend, hstored, hshows⟩ := h
  simp only [advance]
  split
  · rename_i b' hslot
    obtain rfl : b = b' := Option.some.inj (hstored.slot.symm.trans hslot)
    simp only [hstored.entry, Option.elim_some]
    exact ⟨backend, _, watched_spawn hstored hshows⟩
  · rename_i hslot
    rw [hstored.slot] at hslot
    cases hslot

/-- A step of a call leads from its stage to the next one. -/
theorem stage_advance {call : Call} (h : c.Stage call) (outcome : Opened)
    (habort : call.aborts = true →
      c.WorkerIdle ∧ (call = .reloadStop .none → c.backendAvailable = false)) :
    After (c.advance outcome call) := by
  cases call with
  | initType =>
    obtain ⟨hoff, hquiet⟩ := h
    simp only [advance]
    split
    · exact .inl ⟨hoff, hquiet⟩
    · exact ⟨hoff, hquiet, rfl⟩
  | initOpen kind => exact after_initOpen h outcome
  | initStore b =>
    obtain ⟨-, halone, backend, hentry, hkind⟩ := h
    exact ⟨b, backend, rfl, ⟨halone.up, halone.workers⟩, hentry, hkind⟩
  | failType reason => exact h
  | failCurrent kind reason => exact ⟨h, HidRuntimeState.quiet_withError _ _ _ _⟩
  | write next =>
    obtain ⟨hoff, hquiet⟩ := h
    exact .inl ⟨⟨hoff.slot, ⟨hoff.alone.up, hoff.alone.workers⟩, hoff.available⟩, hquiet⟩
  | reloadClear new =>
    obtain ⟨hattended, hotg⟩ := h
    exact ⟨⟨hattended.up, hattended.workers⟩, hotg⟩
  | reloadStop new =>
    obtain ⟨hattended, hotg⟩ := h
    obtain ⟨hidle, hcleared⟩ := habort rfl
    refine ⟨stop_alone_slot hattended hidle, fun hnew => ?_, fun hnew => ?_⟩
    · exact (stop_reported c).2.2.2.trans (hotg hnew)
    · exact (stop_reported c).2.2.1.trans (hcleared (hnew ▸ rfl))
  | reloadTake new =>
    obtain ⟨halone, hreloads⟩ := h
    simp only [advance]
    split
    · rename_i b hslot
      rw [hslot] at halone
      exact ⟨rfl, ⟨halone.up, halone.workers⟩, hreloads⟩
    · rename_i hslot
      exact ⟨hslot, hslot ▸ halone, hreloads⟩
  | reloadClose b new =>
    obtain ⟨hslot, halone, hreloads⟩ := h
    exact ⟨hslot, alone_close halone, hreloads⟩
  | reloadOpen new => exact after_reloadOpen h outcome
  | reloadStore new b => exact after_reloadStore h outcome
  | reloadNone =>
    exact ⟨⟨h.slot, ⟨h.alone.up, h.alone.workers⟩, h.available⟩,
      HidRuntimeState.quiet_fromBackendType .none⟩
  | reloadCheck new =>
    obtain ⟨halone, hkind⟩ := h
    simp only [advance]
    split
    · rename_i b hslot
      exact ⟨b, hslot, hslot ▸ halone, hkind b hslot⟩
    · rename_i hslot
      rw [hslot] at halone
      exact ⟨hslot, ⟨halone.up, halone.workers⟩, rfl⟩
  | reloadType new =>
    obtain ⟨b, hslot, halone, backend, hentry, hkind⟩ := h
    exact ⟨b, backend, hslot, ⟨halone.up, halone.workers⟩, hentry, hkind⟩
  | reloadFailType new => exact ⟨h.slot, ⟨h.alone.up, h.alone.workers⟩, h.available⟩
  | shutdownStop => exact stop_alone_slot h (habort rfl).1
  | shutdownTake =>
    have halone : c.Alone c.backend := h
    simp only [advance]
    split
    · rename_i b hslot
      rw [hslot] at halone
      exact ⟨rfl, halone.up, halone.workers⟩
    · rename_i hslot
      rw [hslot] at halone
      exact ⟨hslot, ⟨halone.up, halone.workers⟩, rfl⟩
  | shutdownClose b =>
    obtain ⟨hslot, halone⟩ := h
    exact ⟨hslot, ⟨(alone_close halone).up, (alone_close halone).workers⟩, rfl⟩
  | shutdownType => exact ⟨h, HidRuntimeState.quiet_afterShutdown _⟩
  | syncSlot => exact ⟨h, rfl⟩
  | syncType b =>
    obtain ⟨hstored, hb⟩ := h
    exact ⟨hstored, hb, rfl⟩
  | syncSample o kind =>
    obtain ⟨⟨b, backend, hstored⟩, rfl, rfl⟩ := h
    have hsample := hstored.sample c.backendType
    refine ⟨b, backend, ⟨hstored.slot, ⟨hstored.alone.up, hstored.alone.workers⟩, hstored.entry,
      hstored.kind⟩, ?_, ?_⟩
    · rw [hstored.slot]
      exact hsample
    · rw [hstored.slot]
      exact congrArg HidRuntimeState.initialized hsample
  | syncWrite next =>
    obtain ⟨b, backend, hstored, hnext, havailable⟩ := h
    exact ⟨b, backend, ⟨hstored.slot, ⟨hstored.alone.up, hstored.alone.workers⟩, hstored.entry,
      hstored.kind⟩, hnext, havailable⟩
  | restartStop =>
    obtain ⟨b, backend, hstored, hshows⟩ := h
    exact ⟨b, backend, stored_stop hstored, shows_stop hshows⟩
  | restartSlot => exact after_restartSlot h outcome
  | restartStore i =>
    obtain ⟨backend, w, hwatched⟩ := h
    exact .inr ⟨i, backend, w, rfl, ⟨hwatched.slot, hwatched.entry, hwatched.kind, hwatched.up,
      hwatched.worker, hwatched.others, hwatched.aborted, hwatched.seen, hwatched.fresh⟩⟩

/-! ## The steps of a worker -/

/-- A step of worker `i`, which is `w`. -/
inductive WorkerMoves (c : HidController) (i : Nat) (w : Worker) : HidController → Prop
  | wake {backend} : w.pc = .waiting → c.backends[w.backend]? = some backend →
      WorkerMoves c i w
        { c with workers := c.workers.set i { w with pc := .type, seen := backend.version } }
  | type : w.pc = .type →
      WorkerMoves c i w
        { c with workers := c.workers.set i { w with pc := .sample c.backendType } }
  | sample {kind} : w.pc = .sample kind →
      WorkerMoves c i w
        { c with
          backendAvailable := (c.sample (some w.backend) kind).initialized
          workers := c.workers.set i { w with pc := .write (c.sample (some w.backend) kind) } }
  | write {next} : w.pc = .write next →
      WorkerMoves c i w
        { c with
          runtimeState := next
          workers := c.workers.set i
            { w with pc := if w.aborted then .finished else .waiting } }
  | cancel : w.aborted = true →
      WorkerMoves c i w { c with workers := c.workers.set i { w with pc := .finished } }

theorem wake_moves {i : Nat} (h : c.wake i = some c') :
    ∃ w, c.workers[i]? = some w ∧ WorkerMoves c i w c' := by
  obtain ⟨w, hw, h⟩ := Option.bind_eq_some_iff.mp h
  obtain ⟨backend, hbackend, h⟩ := Option.bind_eq_some_iff.mp h
  obtain ⟨⟨hpc, -⟩, h⟩ := Option.ite_none_right_eq_some.mp h
  cases h
  exact ⟨w, hw, .wake hpc hbackend⟩

theorem work_moves {i : Nat} (h : c.work i = some c') :
    ∃ w, c.workers[i]? = some w ∧ WorkerMoves c i w c' := by
  obtain ⟨w, hw, h⟩ := Option.bind_eq_some_iff.mp h
  refine ⟨w, hw, ?_⟩
  split at h <;> cases h
  · rename_i hpc
    exact .type hpc
  · rename_i kind hpc
    exact .sample hpc
  · rename_i next hpc
    exact .write hpc

theorem cancel_moves {i : Nat} (h : c.cancel i = some c') :
    ∃ w, c.workers[i]? = some w ∧ WorkerMoves c i w c' := by
  obtain ⟨w, hw, h⟩ := Option.bind_eq_some_iff.mp h
  obtain ⟨haborted, h⟩ := Option.ite_none_right_eq_some.mp h
  cases h
  exact ⟨w, hw, .cancel haborted⟩

/-- A worker at its end changes nothing. -/
theorem WorkerMoves.finished {i : Nat} {w : Worker} (h : WorkerMoves c i w c')
    (hw : c.workers[i]? = some w) (hpc : w.pc = .finished) : c' = c := by
  cases h with
  | wake hpc' _ => simp [hpc] at hpc'
  | type hpc' => simp [hpc] at hpc'
  | sample hpc' => simp [hpc] at hpc'
  | write hpc' => simp [hpc] at hpc'
  | cancel _ =>
    obtain ⟨hlt, hget⟩ := List.getElem?_eq_some_iff.mp hw
    have hsame : { w with pc := .finished } = c.workers[i] := by rw [hget, ← hpc]
    rw [hsame, List.set_getElem_self]

theorem WorkerMoves.attended {i : Nat} {w : Worker} (h : WorkerMoves c i w c')
    (hw : c.workers[i]? = some w) (hattended : c.Attended) : c'.Attended := by
  have hset : ∀ w' : Worker, w'.backend = w.backend → (w'.pc ≠ .finished → w.pc ≠ .finished) →
      ∀ (j : Nat) v, (c.workers.set i w')[j]? = some v → v.pc ≠ .finished →
        c.runtimeWorker = some j ∧ c.backend = some v.backend := by
    intro w' hbackend hrunning j v hv hrun
    rcases getElem?_set_cases hv with ⟨rfl, rfl⟩ | ⟨-, hold⟩
    · rw [hbackend]
      exact hattended.workers j w hw (hrunning hrun)
    · exact hattended.workers j v hold hrun
  cases h with
  | wake hpc _ => exact ⟨hattended.up, hset _ rfl (by simp [hpc])⟩
  | type hpc => exact ⟨hattended.up, hset _ rfl (by simp [hpc])⟩
  | sample hpc => exact ⟨hattended.up, hset _ rfl (by simp [hpc])⟩
  | write hpc => exact ⟨hattended.up, hset _ rfl (by simp [hpc])⟩
  | cancel _ => exact ⟨hattended.up, hset _ rfl (by simp)⟩

/-- The watching worker after a step of its own. -/
theorem watched_set {i : Nat} {backend : Backend} {w w' : Worker} (h : c.Watched i backend w)
    (hsame : c' = { c with
      workers := c.workers.set i w'
      backendAvailable := c'.backendAvailable
      runtimeState := c'.runtimeState })
    (hbackend : w'.backend = w.backend) (haborted : w'.aborted = w.aborted)
    (hseen : w'.seen ≤ backend.version) (hfresh : c'.Fresh backend w') :
    c'.Watched i backend w' := by
  rw [hsame]
  rw [hsame] at hfresh
  refine ⟨hbackend ▸ h.slot, hbackend ▸ h.entry, h.kind, h.up, getElem?_set_changed h.worker w',
    fun j v hv hrun => ?_, haborted.trans h.aborted, hseen, hfresh⟩
  rcases getElem?_set_cases hv with ⟨rfl, -⟩ | ⟨-, hold⟩
  · rfl
  · exact h.others j v hold hrun

theorem WorkerMoves.watched {i j : Nat} {backend : Backend} {w v : Worker}
    (h : WorkerMoves c j v c') (hv : c.workers[j]? = some v) (hwatched : c.Watched i backend w) :
    ∃ w', c'.Watched i backend w' := by
  by_cases hpc : v.pc = .finished
  · rw [h.finished hv hpc]
    exact ⟨w, hwatched⟩
  obtain rfl := hwatched.others j v hv hpc
  obtain rfl : w = v := Option.some.inj (hwatched.worker.symm.trans hv)
  have hfresh := hwatched.fresh
  unfold Fresh at hfresh
  cases h with
  | @wake backend' hpc' hbackend =>
    obtain rfl : backend = backend' := Option.some.inj (hwatched.entry.symm.trans hbackend)
    exact ⟨_, watched_set hwatched rfl rfl rfl (Nat.le_refl _) trivial⟩
  | type hpc' => exact ⟨_, watched_set hwatched rfl rfl rfl hwatched.seen rfl⟩
  | @sample kind hpc' =>
    rw [hpc'] at hfresh
    obtain rfl := hfresh
    have hsample : c.sample (some w.backend) c.backendType =
        .fromBackend c.backendType backend.snapshot := by
      simp [HidController.sample, hwatched.entry]
    refine ⟨_, watched_set hwatched rfl rfl rfl hwatched.seen fun _ => ⟨hsample, ?_⟩⟩
    exact congrArg HidRuntimeState.initialized hsample
  | write hpc' =>
    rw [hpc'] at hfresh
    refine ⟨_, watched_set hwatched rfl rfl rfl hwatched.seen ?_⟩
    simp only [hwatched.aborted, Bool.false_eq_true, ite_false, Fresh]
    exact hfresh
  | cancel haborted =>
    rw [hwatched.aborted] at haborted
    cases haborted

/-- A worker's step changes no stage. -/
theorem stage_worker {call : Call} {i : Nat} {w : Worker} (h : c.Stage call)
    (hmoves : WorkerMoves c i w c') (hw : c.workers[i]? = some w) : c'.Stage call := by
  have hquiet : ∀ {o}, c.Alone o → c'.Stage call := fun halone => by
    rw [hmoves.finished hw (halone.workers w (List.mem_of_getElem? hw))]
    exact h
  cases call with
  | initType | write _ | initOpen _ => exact hquiet h.1.alone
  | initStore b | reloadClose b new | reloadOpen new | reloadStore new b => exact hquiet h.2.1
  | failType _ | failCurrent _ _ | reloadFailType _ | reloadNone | shutdownType =>
    exact hquiet h.alone
  | shutdownStop => exact hmoves.attended hw h
  | reloadClear new | reloadStop new =>
    refine ⟨hmoves.attended hw h.1, ?_⟩
    cases hmoves <;> exact h.2
  | shutdownTake => exact hquiet h
  | reloadTake new | reloadCheck new => exact hquiet h.1
  | shutdownClose b => exact hquiet h.2
  | reloadType new =>
    obtain ⟨b, -, halone, -⟩ := h
    exact hquiet halone
  | syncSlot =>
    obtain ⟨b, backend, hstored⟩ := h
    exact hquiet hstored.alone
  | syncType _ | syncSample _ _ =>
    obtain ⟨⟨b, backend, hstored⟩, -⟩ := h
    exact hquiet hstored.alone
  | syncWrite _ | restartStop | restartSlot =>
    obtain ⟨b, backend, hstored, -⟩ := h
    exact hquiet hstored.alone
  | restartStore _ =>
    obtain ⟨backend, v, hwatched⟩ := h
    exact ⟨backend, hmoves.watched hw hwatched⟩

theorem idle_worker {i : Nat} {w : Worker} (h : c.Idle) (hmoves : WorkerMoves c i w c')
    (hw : c.workers[i]? = some w) : c'.Idle := by
  rcases h with ⟨hoff, hquiet⟩ | ⟨j, backend, v, hhandle, hwatched⟩
  · rw [hmoves.finished hw (hoff.alone.workers w (List.mem_of_getElem? hw))]
    exact .inl ⟨hoff, hquiet⟩
  · obtain ⟨v', hwatched'⟩ := hmoves.watched hw hwatched
    refine .inr ⟨j, backend, v', ?_, hwatched'⟩
    cases hmoves <;> exact hhandle

/-! ## The changes of a backend -/

/-- An announced change of backend `b`. -/
structure Changes (c c' : HidController) (b : Nat) (old new : Backend) : Prop where
  entry : c.backends[b]? = some old
  same : c' = { c with backends := c.backends.set b new }
  kind : new.kind = old.kind
  up : new.up = old.up
  version : old.version < new.version

theorem change_changes {b : Nat} {snapshot : HidBackendRuntimeSnapshot}
    (h : c.change b snapshot true = some c') : ∃ old new, Changes c c' b old new := by
  obtain ⟨old, hold, rfl⟩ := Option.map_eq_some_iff.mp h
  exact ⟨old, _, hold, rfl, rfl, rfl, Nat.lt_succ_self _⟩

variable {b : Nat} {old new : Backend}

theorem Changes.at (h : Changes c c' b old new) : c'.backends[b]? = some new := by
  obtain ⟨hlt, -⟩ := List.getElem?_eq_some_iff.mp h.entry
  rw [h.same]
  simp [hlt]

theorem Changes.others (h : Changes c c' b old new) {b' : Nat} (hne : b ≠ b') :
    c'.backends[b']? = c.backends[b']? := by
  rw [h.same]
  exact List.getElem?_set_ne hne

theorem Changes.onlyUp (h : Changes c c' b old new) {o : Option Nat} (hup : c.OnlyUp o) :
    c'.OnlyUp o := by
  intro b' backend hb' hbackend
  by_cases hb : b = b'
  · subst hb
    obtain rfl : new = backend := Option.some.inj (h.at.symm.trans hb')
    exact hup b old h.entry (h.up ▸ hbackend)
  · rw [h.others hb] at hb'
    exact hup b' backend hb' hbackend

theorem Changes.alone (h : Changes c c' b old new) {o : Option Nat} (halone : c.Alone o) :
    c'.Alone o := by
  refine ⟨h.onlyUp halone.up, ?_⟩
  rw [h.same]
  exact halone.workers

theorem Changes.ofKind (h : Changes c c' b old new) {b' : Nat} {kind : HidBackendType}
    (hkind : c.OfKind b' kind) : c'.OfKind b' kind := by
  obtain ⟨backend, hentry, hkind⟩ := hkind
  by_cases hb : b = b'
  · subst hb
    obtain rfl : old = backend := Option.some.inj (h.entry.symm.trans hentry)
    exact ⟨new, h.at, h.kind.trans hkind⟩
  · exact ⟨backend, (h.others hb).trans hentry, hkind⟩

/-- The change is of the table of backends only. -/
theorem Changes.reported (h : Changes c c' b old new) :
    c'.backend = c.backend ∧ c'.backendType = c.backendType ∧
      c'.runtimeState = c.runtimeState ∧ c'.backendAvailable = c.backendAvailable ∧
        c'.otgService = c.otgService ∧ c'.runtimeWorker = c.runtimeWorker ∧
          c'.workers = c.workers := by
  rw [h.same]
  exact ⟨rfl, rfl, rfl, rfl, rfl, rfl, rfl⟩

theorem Changes.stored (h : Changes c c' b old new) {b' : Nat} {backend : Backend}
    (hstored : c.Stored b' backend) : ∃ backend', c'.Stored b' backend' := by
  obtain ⟨backend', hentry, hkind⟩ := h.ofKind ⟨backend, hstored.entry, hstored.kind⟩
  obtain ⟨hslot, htype, -⟩ := h.reported
  exact ⟨backend', hslot.trans hstored.slot, h.alone hstored.alone, hentry, hkind.trans htype.symm⟩

theorem Changes.stored_other (h : Changes c c' b old new) {b' : Nat} {backend : Backend}
    (hstored : c.Stored b' backend) (hne : c.backend ≠ some b) : c'.Stored b' backend := by
  obtain ⟨hslot, htype, -⟩ := h.reported
  have hb : b ≠ b' := fun hb => hne (hb ▸ hstored.slot)
  exact ⟨hslot.trans hstored.slot, h.alone hstored.alone, (h.others hb).trans hstored.entry,
    hstored.kind.trans htype.symm⟩

theorem Changes.shows (h : Changes c c' b old new) {backend : Backend}
    (hshows : c.Shows backend) : c'.Shows backend := by
  obtain ⟨-, htype, hstate, hflag, -⟩ := h.reported
  unfold Shows
  rw [htype, hstate, hflag]
  exact hshows

theorem Changes.off (h : Changes c c' b old new) (hoff : c.Off) : c'.Off := by
  obtain ⟨hslot, -, -, hflag, -⟩ := h.reported
  exact ⟨hslot.trans hoff.slot, h.alone hoff.alone, hflag.trans hoff.available⟩

theorem Changes.attended (h : Changes c c' b old new) (hattended : c.Attended) :
    c'.Attended := by
  obtain ⟨hslot, -, -, -, -, hhandle, hworkers⟩ := h.reported
  refine ⟨hslot ▸ h.onlyUp hattended.up, ?_⟩
  rw [hworkers, hhandle, hslot]
  exact hattended.workers

/-- A change the worker has not seen yet leaves nothing to show. -/
theorem Changes.watched (h : Changes c c' b old new) {i : Nat} {backend : Backend} {w : Worker}
    (hwatched : c.Watched i backend w) : ∃ backend', c'.Watched i backend' w := by
  obtain ⟨hslot, htype, hstate, hflag, -, -, hworkers⟩ := h.reported
  have hfresh := hwatched.fresh
  by_cases hb : b = w.backend
  · have hold : old = backend :=
      Option.some.inj (h.entry.symm.trans (hb ▸ hwatched.entry))
    have hlt : w.seen < new.version :=
      Nat.lt_of_le_of_lt hwatched.seen (hold ▸ h.version)
    refine ⟨new, hslot.trans hwatched.slot, hb ▸ h.at, ?_, hslot ▸ h.onlyUp hwatched.up,
      hworkers ▸ hwatched.worker, hworkers ▸ hwatched.others, hwatched.aborted,
      Nat.le_of_lt hlt, ?_⟩
    · rw [h.kind, hold, htype]
      exact hwatched.kind
    · unfold Fresh at hfresh ⊢
      split <;> simp_all [Nat.ne_of_lt hlt]
  · refine ⟨backend, hslot.trans hwatched.slot, (h.others hb).trans hwatched.entry,
      hwatched.kind.trans htype.symm, hslot ▸ h.onlyUp hwatched.up,
      hworkers ▸ hwatched.worker, hworkers ▸ hwatched.others, hwatched.aborted,
      hwatched.seen, ?_⟩
    unfold Fresh Shows at hfresh ⊢
    rw [htype, hstate, hflag]
    exact hfresh

theorem Changes.reloads (h : Changes c c' b old new) {kind : HidBackendType}
    (hreloads : c.Reloads kind) : c'.Reloads kind := by
  obtain ⟨-, -, -, hflag, hservice, -⟩ := h.reported
  unfold Reloads
  rw [hflag, hservice]
  exact hreloads

/-- A change of the stored backend, or of another one between a call's look at the
stored one and its subscription, changes no stage. -/
theorem stage_change {call : Call} (hstage : c.Stage call) (h : Changes c c' b old new)
    (hwindow : c.backend = some b → call.unsubscribed = false) : c'.Stage call := by
  obtain ⟨hslot, htype, hstate, hflag, hservice, -, -⟩ := h.reported
  cases call with
  | initType => exact ⟨h.off hstage.1, hstate ▸ hstage.2⟩
  | initOpen kind => exact ⟨h.off hstage.1, hstate ▸ hstage.2.1, hstage.2.2.trans htype.symm⟩
  | initStore b' =>
    exact ⟨hslot.trans hstage.1, h.alone hstage.2.1, htype ▸ h.ofKind hstage.2.2⟩
  | failType _ | failCurrent _ _ | reloadFailType _ | reloadNone | shutdownType =>
    exact h.off hstage
  | write next => exact ⟨h.off hstage.1, hstage.2⟩
  | shutdownStop => exact h.attended hstage
  | reloadClear kind | reloadStop kind => exact ⟨h.attended hstage.1, hservice ▸ hstage.2⟩
  | shutdownTake =>
    show c'.Alone c'.backend
    rw [hslot]
    exact h.alone hstage
  | reloadTake kind => exact ⟨hslot ▸ h.alone hstage.1, h.reloads hstage.2⟩
  | shutdownClose b' => exact ⟨hslot.trans hstage.1, h.alone hstage.2⟩
  | reloadClose b' kind =>
    exact ⟨hslot.trans hstage.1, h.alone hstage.2.1, h.reloads hstage.2.2⟩
  | reloadOpen kind => exact ⟨hslot.trans hstage.1, h.alone hstage.2.1, h.reloads hstage.2.2⟩
  | reloadStore kind o =>
    obtain ⟨hempty, halone, hreloads, hnone, hkind⟩ := hstage
    exact ⟨hslot.trans hempty, h.alone halone, h.reloads hreloads, hnone,
      fun b' hb' => h.ofKind (hkind b' hb')⟩
  | reloadCheck kind =>
    refine ⟨hslot ▸ h.alone hstage.1, fun b' hb' => h.ofKind (hstage.2 b' ?_)⟩
    rw [← hslot]
    exact hb'
  | reloadType kind =>
    obtain ⟨b', hb', halone, hkind⟩ := hstage
    exact ⟨b', hslot.trans hb', h.alone halone, h.ofKind hkind⟩
  | syncSlot =>
    obtain ⟨b', backend, hstored⟩ := hstage
    exact ⟨b', h.stored hstored⟩
  | syncType o =>
    obtain ⟨⟨b', backend, hstored⟩, ho⟩ := hstage
    exact ⟨⟨b', h.stored hstored⟩, ho.trans hslot.symm⟩
  | syncSample o kind =>
    obtain ⟨⟨b', backend, hstored⟩, ho, hkind⟩ := hstage
    exact ⟨⟨b', h.stored hstored⟩, ho.trans hslot.symm, hkind.trans htype.symm⟩
  | syncWrite next =>
    obtain ⟨b', backend, hstored, hnext, havailable⟩ := hstage
    have hother : c.backend ≠ some b := fun hb => by cases hwindow hb
    refine ⟨b', backend, h.stored_other hstored hother, ?_, hflag.trans havailable⟩
    rw [htype]
    exact hnext
  | restartStop | restartSlot =>
    obtain ⟨b', backend, hstored, hshows⟩ := hstage
    have hother : c.backend ≠ some b := fun hb => by cases hwindow hb
    exact ⟨b', backend, h.stored_other hstored hother, h.shows hshows⟩
  | restartStore i =>
    obtain ⟨backend, w, hwatched⟩ := hstage
    obtain ⟨backend', hwatched'⟩ := h.watched hwatched
    exact ⟨backend', w, hwatched'⟩

theorem idle_change (hidle : c.Idle) (h : Changes c c' b old new) : c'.Idle := by
  obtain ⟨-, -, hstate, -, -, hhandle, -⟩ := h.reported
  rcases hidle with ⟨hoff, hquiet⟩ | ⟨i, backend, w, hi, hwatched⟩
  · exact .inl ⟨h.off hoff, hstate ▸ hquiet⟩
  · obtain ⟨backend', hwatched'⟩ := h.watched hwatched
    exact .inr ⟨i, backend', w, hhandle.trans hi, hwatched'⟩

end HidController

end StreamBox.Hid.Controller
