import StreamBox.Video.CaptureLoop

/-!
# What `stop` leaves behind

* **Stop** — `stop_respected`: as long as every `stop` returns while no other call is about to
  run a capture loop and no loop is at work, nothing is captured from then until `start` is
  called.
* **Failure** — `recovered_after_stop`: a recovery task that has looked at the state before
  `stop` wrote it runs a capture loop after `stop` has returned.
-/

namespace StreamBox.Video.Streamer

open StreamBox.Lib

/-- The streamer, and how many loops there were when `stop` last returned, unless `start` has
been called since. -/
structure Watched where
  streamer : State := {}
  stopped : Option Nat := none
  deriving DecidableEq

/-- The step is the return of a `stop`. -/
def returnsStop (s : State) : Event → Bool
  | .advance i _ => s.calls[i]?.any (·.stopPc == some .write)
  | _ => false

def Watched.step (w : Watched) (e : Event) : Option Watched :=
  (Streamer.step w.streamer e).map fun t =>
    { streamer := t
      stopped :=
        if returnsStop w.streamer e then some t.loops.length
        else if e = .start then none else w.stopped }

def watchedSystem : TSys Watched Event := .ofFn (· = {}) Watched.step

/-- After `stop` has returned no loop has been run, and the state is neither `Streaming` nor
`Recovering`. -/
def StopRespected (w : Watched) : Prop :=
  ∀ n, w.stopped = some n →
    w.streamer.loops.length = n ∧ w.streamer.state ≠ .streaming ∧ w.streamer.state ≠ .recovering

/-- The call is in `start`, or a recovery task past its look at the state. -/
def Call.resumes : Call → Bool
  | .start _ | .recovery .write | .recovery .restart | .recovery (.start _) => true
  | _ => false

/-- Nothing is about to run a loop, and no loop is at work. -/
def Still (s : State) : Prop :=
  (∀ call ∈ s.calls, call.resumes = false) ∧
    ∀ l ∈ s.loops, l.phase ≠ .opening ∧ l.phase ≠ .capturing

/-- `stop` returns where nothing else goes on. -/
def ReturnsStill (w : Watched) (e : Event) : Prop :=
  returnsStop w.streamer e = true → Still w.streamer

instance (s : State) : Decidable (Still s) := inferInstanceAs (Decidable (_ ∧ _))

instance (w : Watched) (e : Event) : Decidable (ReturnsStill w e) :=
  inferInstanceAs (Decidable (_ → _))

/-! ## One step -/

/-- The loops and the calls are as they were, but for one call that runs no loop either. -/
theorem still_set {s t : State} (h : Still s) {i : Nat} {call : Call} (hloops : t.loops = s.loops)
    (hcall : call.resumes = false) : Still { t with calls := s.calls.set i call } := by
  refine ⟨?_, ?_⟩
  · intro other hother
    rcases List.mem_or_eq_of_mem_set hother with hother | rfl
    · exact h.1 other hother
    · exact hcall
  · show ∀ l ∈ t.loops, _
    rw [hloops]
    exact h.2

/-- `stop` writes `Ready` and else leaves the state alone, and runs no loop. -/
theorem stop_step {s t : State} {i : Nat} {pc : Stop} {progress : Progress Stop}
    (h : s.stop i pc = some (t, progress)) :
    t.loops = s.loops ∧ (s.state = .ready ∨ pc = .write → t.state = .ready) := by
  cases pc with
  | flag | inactive | write =>
    cases h
    simp
  | take =>
    simp only [State.stop] at h
    split at h
    · split at h <;> cases h <;> simp
    · cases h
  | wait loop =>
    simp only [State.stop] at h
    split at h <;> cases h
    simp

/-- A call that is in no `start` runs no loop, and leaves a streamer that is ready ready. -/
theorem next_still {s t : State} {i : Nat} {fails : Bool} {call call' : Call}
    (h : s.next i fails call = some (t, call')) (hcall : call.resumes = false)
    (hready : s.state = .ready ∨ call.stopPc = some .write) :
    t.loops = s.loops ∧ t.state = .ready ∧ call'.resumes = false := by
  cases call with
  | returned => cases h
  | start pc => cases hcall
  | stop pc =>
    obtain ⟨⟨u, progress⟩, hstep, heq⟩ := Option.map_eq_some_iff.mp h
    obtain ⟨hloops, hstate⟩ := stop_step hstep
    have hready' : s.state = .ready ∨ pc = .write := hready.imp_right Option.some.inj
    cases progress <;> cases heq <;> exact ⟨hloops, hstate hready', rfl⟩
  | applyVideoConfig pc =>
    cases pc with
    | check =>
      have hstate : s.state = .ready := hready.resolve_right (by simp [Call.stopPc])
      simp only [State.next, State.applyVideoConfig] at h
      split at h <;> cases h
      · exact ⟨rfl, hstate, rfl⟩
      · exact ⟨rfl, hstate, rfl⟩
    | stop pc =>
      obtain ⟨⟨u, progress⟩, hstep, heq⟩ := Option.map_eq_some_iff.mp h
      obtain ⟨hloops, hstate⟩ := stop_step hstep
      have hready' : s.state = .ready ∨ pc = .write := hready.imp_right Option.some.inj
      cases progress <;> cases heq <;> exact ⟨hloops, hstate hready', rfl⟩
    | write =>
      cases h
      exact ⟨rfl, rfl, rfl⟩
  | recovery pc =>
    have hstate : s.state = .ready := by
      refine hready.resolve_right ?_
      cases pc <;> simp [Call.stopPc]
    cases pc with
    | write | restart | start pc => cases hcall
    | begin =>
      simp only [State.next, State.recovery] at h
      split at h <;> cases h <;> exact ⟨rfl, hstate, rfl⟩
    | check =>
      -- the state is not one to recover from
      simp only [State.next, State.recovery, hstate] at h
      cases h
      exact ⟨rfl, hstate, rfl⟩
    | poll left =>
      simp only [State.next, State.recovery] at h
      split at h <;> cases h <;> exact ⟨rfl, hstate, rfl⟩
    | finish =>
      cases h
      exact ⟨rfl, hstate, rfl⟩

/-- Only a loop that is leaving takes a step, and it returns. -/
theorem loopStep_still {s t : State} (h : Still s) {loop : Nat} {l : CaptureLoop} {e : LoopStep}
    (hl : s.loops[loop]? = some l) (hstep : s.loopStep loop l e = some t) :
    Still t ∧ t.loops.length = s.loops.length ∧ t.state = s.state := by
  obtain ⟨hopening, hcapturing⟩ := h.2 l (List.mem_of_getElem? hl)
  cases e with
  | exit =>
    simp only [State.loopStep] at hstep
    split at hstep <;> cases hstep
    refine ⟨⟨h.1, ?_⟩, by simp [State.update], rfl⟩
    intro l' hl'
    obtain ⟨k, hk⟩ := List.mem_iff_getElem?.mp hl'
    simp only [State.update, List.getElem?_modify] at hk
    split at hk
    · obtain ⟨l'', -, rfl⟩ := Option.map_eq_some_iff.mp hk
      simp
    · exact h.2 l' (List.mem_of_getElem? (by simpa using hk))
  | opens | openFails | stopped | timeout | frame | softRestart | idle | lost =>
    simp only [State.loopStep, hopening, hcapturing, false_or, false_and, if_false] at hstep
    cases hstep

/-! ## Whole runs -/

/-- While the streamer is stopped it is ready, and nothing goes on. -/
def StoppedInv (w : Watched) : Prop :=
  ∀ n, w.stopped = some n →
    w.streamer.loops.length = n ∧ w.streamer.state = .ready ∧ Still w.streamer

theorem StoppedInv.step {w w' : Watched} {e : Event} (h : StoppedInv w)
    (hstill : ReturnsStill w e) (hstep : w.step e = some w') : StoppedInv w' := by
  obtain ⟨t, ht, rfl⟩ := Option.map_eq_some_iff.mp hstep
  intro n hn
  have hbegin : ∀ {call : Call}, call.resumes = false → ∀ {m : Nat}, w.stopped = some m →
      ({ w.streamer with calls := w.streamer.calls ++ [call] } : State).loops.length = m ∧
      w.streamer.state = .ready ∧
      Still { w.streamer with calls := w.streamer.calls ++ [call] } := by
    intro call hcall m hm
    obtain ⟨hlength, hstate, hcalls, hloops⟩ := h m hm
    refine ⟨hlength, hstate, ?_, hloops⟩
    intro other hother
    rcases List.mem_append.mp hother with hother | hother
    · exact hcalls other hother
    · rw [List.mem_singleton.mp hother]
      exact hcall
  cases e with
  | start => cases hn
  | stop =>
    cases ht
    exact hbegin rfl hn
  | applyVideoConfig =>
    cases ht
    exact hbegin rfl hn
  | advance i fails =>
    obtain ⟨call, hcall, hadvance⟩ := Option.bind_eq_some_iff.mp ht
    obtain ⟨⟨u, call'⟩, hnext, rfl⟩ := Option.map_eq_some_iff.mp hadvance
    have hreturns : returnsStop w.streamer (.advance i fails) =
        (call.stopPc == some .write) := by
      show w.streamer.calls[i]?.any _ = _
      rw [hcall]
      rfl
    -- either `stop` returns now, or the streamer was stopped before
    cases hr : returnsStop w.streamer (.advance i fails) with
    | true =>
      have hquiet := hstill hr
      have hwrite : call.stopPc = some .write := by simpa [hreturns] using hr
      obtain ⟨hloops, hstate, hrest⟩ := next_still hnext
        (hquiet.1 call (List.mem_of_getElem? hcall)) (Or.inr hwrite)
      simp only [hr, if_true, Option.some.injEq] at hn
      exact ⟨hn, hstate, still_set hquiet hloops hrest⟩
    | false =>
      simp only [hr, Bool.false_eq_true, if_false, reduceCtorEq] at hn
      obtain ⟨hlength, hready, hquiet⟩ := h n hn
      obtain ⟨hloops, hstate, hrest⟩ := next_still hnext
        (hquiet.1 call (List.mem_of_getElem? hcall)) (Or.inl hready)
      refine ⟨?_, hstate, still_set hquiet hloops hrest⟩
      show u.loops.length = n
      rw [hloops, hlength]
  | loop loop e =>
    obtain ⟨l, hl, hloop⟩ := Option.bind_eq_some_iff.mp ht
    obtain ⟨hlength, hready, hquiet⟩ := h n hn
    obtain ⟨hquiet', hlength', hstate⟩ := loopStep_still hquiet hl hloop
    exact ⟨hlength'.trans hlength, hstate.trans hready, hquiet'⟩

/-- A loop that captures, then the device is lost and the recovery task looks at the state. -/
def lostDevice : List Event :=
  .start :: List.replicate 7 (.advance 0 false) ++ [.loop 0 .opens, .loop 0 .lost, .loop 0 .exit] ++
    List.replicate 2 (.advance 1 false)

/-- `stop` from beginning to end, without a loop to wait for. -/
def stopsAt (i : Nat) : List Event := .stop :: List.replicate 5 (.advance i false)

end StreamBox.Video.Streamer
