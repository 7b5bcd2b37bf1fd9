import StreamBox.Webrtc.Streamer

/-!
# One stream of the capture device

Each pipeline opens the capture device in a thread of its own. `stop` clears the flag that
ends the thread, and `stop_and_wait` waits for that flag and then 50 ms.

* **Exclusivity** — `exclusive_of_prompt`: as long as a thread whose flag is cleared is
  gone when a pipeline starts or a wait ends, and no call empties the slot under a running
  pipeline, one stream is open at a time and a wait returns after every thread is gone.
* **Failure** — `returns_while_capturing`: `stop_and_wait` returns with the device open.
-/

namespace StreamBox.Webrtc.Streamer

open StreamBox.Lib StreamBox.Video

/-- The pipeline's thread has a stream of the device open. -/
def Pipeline.streamOpen (pipeline : Pipeline) : Bool :=
  pipeline.thread == .capturing || pipeline.thread == .closing

/-- One stream is open at a time, and all waits have returned with none open. -/
def Exclusive (s : State) : Prop :=
  (∀ (p q : Nat) (P Q : Pipeline), s.pipelines[p]? = some P → s.pipelines[q]? = some Q →
    P.streamOpen → Q.streamOpen → p = q) ∧
  ∀ alive ∈ s.released, alive = []

/-! ## The condition on the steps -/

/-- The capture threads whose flag is cleared are gone. -/
def Prompt (s : State) : Prop :=
  ∀ pipeline ∈ s.pipelines, pipeline.runningFlag = false → pipeline.thread = .ended

instance (s : State) : Decidable (Prompt s) :=
  inferInstanceAs (Decidable (∀ _ ∈ _, _))

namespace Call

/-- The next step of the call is the return of a wait. -/
def returns : Call → Bool
  | release (.sleep _) | release .clear => true
  | _ => false

end Call

/-- The threads are prompt when a pipeline may start and when a wait returns, and the slot
is emptied of a pipeline that has stopped. -/
def CallPrompt (s : State) (call : Call) : Prop :=
  ((call.ensures ∧ s.running = none) ∨ call.returns → Prompt s) ∧
  (call.clears → s.running = none)

instance (s : State) (call : Call) : Decidable (CallPrompt s call) :=
  inferInstanceAs (Decidable (_ ∧ _))

def StepPrompt (s : State) : Event → Prop
  | .advance i _ => ∀ call ∈ s.calls[i]?, CallPrompt s call
  | .ensure _ => s.running = none → Prompt s
  | _ => True

instance (s : State) : (e : Event) → Decidable (StepPrompt s e)
  | .advance i _ => inferInstanceAs (Decidable (∀ call ∈ s.calls[i]?, CallPrompt s call))
  | .ensure _ => inferInstanceAs (Decidable (_ → _))
  | .call _ | .stop _ | .subscribe _ | .receiverEnds _ | .disconnect _ | .setCaptureDevice _
  | .opened _ _ | .leave _ | .giveUp _ | .autoStop _ | .dropStream _ | .monitor _ =>
    inferInstanceAs (Decidable True)

/-! ## The invariant -/

/-- The slot holds the pipeline, which does not run. -/
def Stopped (s : State) (p : Nat) : Prop :=
  s.videoPipeline = some p ∧ ∀ P : Pipeline, s.pipelines[p]? = some P → P.running = false

structure Device (s : State) : Prop where
  flags : ∀ (p : Nat) (P : Pipeline), s.pipelines[p]? = some P → P.runningFlag = P.running
  slot : ∀ (p : Nat) (P : Pipeline), s.pipelines[p]? = some P → P.running → s.videoPipeline = some p
  one : ∀ (p q : Nat) (P Q : Pipeline), s.pipelines[p]? = some P → s.pipelines[q]? = some Q →
    P.thread ≠ .ended → Q.thread ≠ .ended → p = q

/-- Over the device: while a call waits, the slot holds the pipeline it has stopped. -/
structure Inv (s : State) : Prop where
  device : Device s
  waiting : ∀ call ∈ s.calls, ∀ p, call.waitsFor = some p → Stopped s p
  released : ∀ alive ∈ s.released, alive = []

/-- Nothing starts: the slot stays, and the flags and threads only go down. -/
structure Quiet (s t : State) : Prop where
  slot : t.videoPipeline = s.videoPipeline
  pipelines : ∀ (p : Nat) (Q : Pipeline), t.pipelines[p]? = some Q →
    ∃ P : Pipeline, s.pipelines[p]? = some P ∧
    (P.runningFlag = P.running → Q.runningFlag = Q.running) ∧
    (Q.running → P.running) ∧ (P.thread = .ended → Q.thread = .ended)

theorem quiet_of_same {s t : State} (hslot : t.videoPipeline = s.videoPipeline)
    (hpipelines : t.pipelines = s.pipelines) : Quiet s t := by
  refine ⟨hslot, ?_⟩
  intro p P hP
  exact ⟨P, hpipelines ▸ hP, id, id, id⟩

theorem quiet_update (s : State) (p : Nat) {f : Pipeline → Pipeline}
    (hf : ∀ P, s.pipelines[p]? = some P →
      (P.runningFlag = P.running → (f P).runningFlag = (f P).running) ∧
        ((f P).running → P.running) ∧ (P.thread = .ended → (f P).thread = .ended)) :
    Quiet s (s.update p f) := by
  refine ⟨rfl, ?_⟩
  intro q Q hQ
  rw [update_get] at hQ
  split at hQ
  · rename_i hpq
    subst hpq
    obtain ⟨P, hP, rfl⟩ := Option.map_eq_some_iff.mp hQ
    exact ⟨P, hP, hf P hP⟩
  · exact ⟨Q, hQ, id, id, id⟩

theorem quiet_stop (s : State) (p : Nat) : Quiet s (s.stop p) := by
  apply quiet_update
  intro P _
  simp only [Pipeline.stop]
  split <;> simp

/-- A thread that has not ended leaves its loop. -/
theorem quiet_leave {s : State} {p : Nat} (thread : CaptureThread)
    (hthread : s.pipelines[p]?.any (·.thread != .ended)) :
    Quiet s (s.update p (·.leave thread)) := by
  apply quiet_update
  intro P hP
  rw [hP] at hthread
  refine ⟨fun _ => rfl, (fun hrunning => nomatch hrunning), ?_⟩
  intro hended
  simp [hended] at hthread

theorem quiet_stopStored (s : State) : Quiet s s.stopStored := by
  simp only [State.stopStored]
  split
  · exact quiet_stop s _
  · exact quiet_of_same rfl rfl

theorem quiet_idleStop (s : State) (pc : IdleStop) : Quiet s (s.idleStop pc).1 := by
  cases pc with
  | stop p => exact quiet_stop s p
  | count | slot | test => exact quiet_of_same rfl rfl

theorem quiet_poll (s : State) (p : Nat) (late : Bool) : Quiet s (s.poll p late).1 := by
  simp only [State.poll]
  split
  · split <;> exact quiet_of_same rfl rfl
  · exact quiet_of_same rfl rfl

/-- A call that neither ensures nor clears starts nothing. -/
theorem quiet_next (s : State) (choice : Bool) {call : Call} (hensures : call.ensures = false)
    (hclears : call.clears = false) : Quiet s (s.next choice call).1 := by
  cases call with
  | returned => exact quiet_of_same rfl rfl
  | createSession pc =>
    cases pc with
    | ensure codec => cases hensures
    | codec | config | new | subscribe | store => exact quiet_of_same rfl rfl
  | closeSession id pc =>
    cases pc with
    | remove => exact quiet_of_same rfl rfl
    | idle pc => exact quiet_idleStop s pc
  | cleanup pc =>
    cases pc with
    | collect | remove => exact quiet_of_same rfl rfl
    | idle pc => exact quiet_idleStop s pc
  | setVideoCodec codec pc =>
    cases pc with
    | clear => cases hclears
    | ensure => cases hensures
    | stop => exact quiet_stopStored s
    | idle pc => exact quiet_idleStop s pc
    | compare | drain | write => exact quiet_of_same rfl rfl
  | updateVideoConfig resolution inputFormat fps pc =>
    cases pc with
    | clear => cases hclears
    | stop => exact quiet_stopStored s
    | idle pc => exact quiet_idleStop s pc
    | compare | drain | write => exact quiet_of_same rfl rfl
  | release pc =>
    cases pc with
    | clear => cases hclears
    | poll p => exact quiet_poll s p choice
    | drain | sleep => exact quiet_of_same rfl rfl
    | idle pc => exact quiet_idleStop s pc
    | stop =>
      simp only [State.next, State.release]
      split
      · exact quiet_stop s _
      · exact quiet_of_same rfl rfl

theorem device_quiet {s t : State} (h : Device s) (hquiet : Quiet s t) : Device t := by
  refine ⟨?_, ?_, ?_⟩
  · intro p Q hQ
    obtain ⟨P, hP, hflags, -, -⟩ := hquiet.pipelines p Q hQ
    exact hflags (h.flags p P hP)
  · intro p Q hQ hrunning
    obtain ⟨P, hP, -, hP', -⟩ := hquiet.pipelines p Q hQ
    rw [hquiet.slot]
    exact h.slot p P hP (hP' hrunning)
  · intro p q P' Q' hP' hQ' hp hq
    obtain ⟨P, hP, -, -, hP''⟩ := hquiet.pipelines p P' hP'
    obtain ⟨Q, hQ, -, -, hQ''⟩ := hquiet.pipelines q Q' hQ'
    exact h.one p q P Q hP hQ (mt hP'' hp) (mt hQ'' hq)

theorem stopped_quiet {s t : State} {p : Nat} (h : Stopped s p) (hquiet : Quiet s t) :
    Stopped t p := by
  refine ⟨hquiet.slot.trans h.1, ?_⟩
  intro Q hQ
  obtain ⟨P, hP, -, hrunning, -⟩ := hquiet.pipelines p Q hQ
  by_contra htrue
  have hP' := hrunning (by simpa using htrue)
  rw [h.2 P hP] at hP'
  cases hP'

/-- Where the slot's pipeline does not run, none does. -/
theorem none_running {s : State} (h : Device s) (hrunning : s.running = none) {p : Nat}
    {P : Pipeline} (hP : s.pipelines[p]? = some P) : P.running = false := by
  by_contra htrue
  have htrue : P.running = true := by simpa using htrue
  have hslot := h.slot p P hP htrue
  simp [State.running, hslot, hP, htrue] at hrunning

/-- Prompt threads are all gone while no pipeline runs. -/
theorem all_ended {s : State} (h : Device s) (hprompt : Prompt s) (hrunning : s.running = none)
    {p : Nat} {P : Pipeline} (hP : s.pipelines[p]? = some P) : P.thread = .ended := by
  apply hprompt P (List.mem_of_getElem? hP)
  rw [h.flags p P hP]
  exact none_running h hrunning hP

theorem alive_nil {s : State} (h : Device s) (hprompt : Prompt s) (hrunning : s.running = none) :
    s.alive = [] := by
  simp only [State.alive, List.filter_eq_nil_iff]
  intro p _ halive
  obtain ⟨P, hP, hthread⟩ := (Option.any_eq_true _ _).mp halive
  rw [all_ended h hprompt hrunning hP] at hthread
  cases hthread

/-- A new pipeline, where no other thread is left. -/
theorem device_start {s : State} (h : Device s) (hprompt : Prompt s)
    (hrunning : s.running = none) : Device s.start := by
  have hget : ∀ (p : Nat) (P : Pipeline), s.start.pipelines[p]? = some P →
      s.pipelines[p]? = some P ∨ p = s.pipelines.length ∧ P.runningFlag = P.running := by
    intro p P hP
    simp only [State.start, List.getElem?_append] at hP
    split at hP
    · exact .inl hP
    · rename_i hge
      obtain ⟨hlt, rfl⟩ := List.getElem?_eq_some_iff.mp hP
      refine .inr ⟨?_, by simp⟩
      simp only [List.length_singleton] at hlt
      omega
  refine ⟨?_, ?_, ?_⟩
  · intro p P hP
    rcases hget p P hP with hP | ⟨-, hflags⟩
    · exact h.flags p P hP
    · exact hflags
  · intro p P hP htrue
    rcases hget p P hP with hP | ⟨rfl, -⟩
    · rw [none_running h hrunning hP] at htrue
      cases htrue
    · rfl
  · intro p q P Q hP hQ hp hq
    rcases hget p P hP with hP | ⟨rfl, -⟩
    · exact absurd (all_ended h hprompt hrunning hP) hp
    rcases hget q Q hQ with hQ | ⟨rfl, -⟩
    · exact absurd (all_ended h hprompt hrunning hQ) hq
    · rfl

theorem device_ensure {s : State} (h : Device s) (hprompt : s.running = none → Prompt s)
    (fails : Bool) : Device (s.ensureVideoPipeline fails).1 := by
  simp only [State.ensureVideoPipeline]
  split
  · exact h
  · rename_i hrunning
    split
    · exact h
    · exact device_start h (hprompt hrunning) hrunning

theorem device_clear {s t : State} (h : Device s) (hrunning : s.running = none)
    (hpipelines : t.pipelines = s.pipelines) : Device t := by
  refine ⟨?_, ?_, ?_⟩
  · rw [hpipelines]
    exact h.flags
  · intro p P hP htrue
    rw [hpipelines] at hP
    rw [none_running h hrunning hP] at htrue
    cases htrue
  · rw [hpipelines]
    exact h.one

/-! ## The steps of the calls -/

theorem device_next {s : State} (h : Device s) {call : Call} (hprompt : CallPrompt s call)
    (choice : Bool) : Device (s.next choice call).1 := by
  cases hensures : call.ensures with
  | true =>
    have hstart : s.running = none → Prompt s :=
      fun hrunning => hprompt.1 (.inl ⟨hensures, hrunning⟩)
    rcases Call.ensures_cases hensures with ⟨codec, rfl⟩ | ⟨codec, rfl⟩
    · exact device_ensure h hstart choice
    · simp only [State.next, State.setVideoCodec]
      split
      · exact device_ensure h hstart choice
      · exact h
  | false =>
    cases hclears : call.clears with
    | true =>
      have hrunning : s.running = none := hprompt.2 hclears
      rcases Call.clears_cases hclears with ⟨codec, rfl⟩ | ⟨_, _, _, rfl⟩ | rfl <;>
        exact device_clear h hrunning rfl
    | false => exact device_quiet h (quiet_next s choice hensures hclears)

/-- A call that waits did so before, or stops the slot's pipeline now. -/
theorem waitsFor_next {s : State} {call : Call} {choice : Bool} {p : Nat}
    (hp : (s.next choice call).2.waitsFor = some p) :
    call.waitsFor = some p ∨ call = .release .stop ∧ s.videoPipeline = some p := by
  have hafter {next : IdleStop → Call} {done : Call} (step : State × Option IdleStop)
      (hnext : ∀ pc, (next pc).waitsFor = none) (hdone : done.waitsFor = none) :
      (State.afterIdle next done step).2.waitsFor ≠ some p := by
    rcases afterIdle_cases next done step with h | ⟨pc, -, h⟩
    · simp [h, hdone]
    · simp [h, hnext pc]
  cases call with
  | returned => cases hp
  | createSession pc =>
    cases pc with
    | ensure codec =>
      simp only [State.next, State.createSession] at hp
      cases hpipeline : (s.ensureVideoPipeline choice).2 with
      | none => simp [hpipeline, Call.waitsFor] at hp
      | some q => simp [hpipeline, Call.waitsFor] at hp
    | new config q =>
      simp only [State.next, State.createSession] at hp
      split at hp <;> cases hp
    | codec | config | subscribe | store => cases hp
  | closeSession id pc =>
    cases pc with
    | remove =>
      simp only [State.next, State.closeSession] at hp
      split at hp <;> cases hp
    | idle pc => exact absurd hp (hafter _ (fun _ => rfl) rfl)
  | cleanup pc =>
    cases pc with
    | collect =>
      simp only [State.next, State.cleanup] at hp
      split at hp <;> cases hp
    | remove => cases hp
    | idle pc => exact absurd hp (hafter _ (fun _ => rfl) rfl)
  | setVideoCodec codec pc =>
    cases pc with
    | compare =>
      simp only [State.next, State.setVideoCodec] at hp
      split at hp <;> cases hp
    | idle pc => exact absurd hp (hafter _ (fun _ => rfl) rfl)
    | drain | stop | clear | write | ensure => cases hp
  | updateVideoConfig resolution inputFormat fps pc =>
    cases pc with
    | compare =>
      simp only [State.next, State.updateVideoConfig] at hp
      split at hp <;> cases hp
    | idle pc => exact absurd hp (hafter _ (fun _ => rfl) rfl)
    | stop | clear | drain | write => cases hp
  | release pc =>
    cases pc with
    | drain | clear | sleep => cases hp
    | idle pc => exact absurd hp (hafter _ (fun _ => rfl) rfl)
    | stop =>
      refine .inr ⟨rfl, ?_⟩
      simp only [State.next, State.release] at hp
      split at hp
      · rename_i q hslot
        cases hp
        exact hslot
      · cases hp
    | poll q =>
      refine .inl ?_
      simp only [State.next, State.release, State.poll] at hp
      split at hp
      · split at hp <;> cases hp
        rfl
      · cases hp
        rfl

theorem stopped_stop {s : State} {p : Nat} (hslot : s.videoPipeline = some p) :
    Stopped (s.stop p) p := by
  refine ⟨hslot, ?_⟩
  intro P hP
  simp only [State.stop, update_get, if_true] at hP
  obtain ⟨Q, hQ, rfl⟩ := Option.map_eq_some_iff.mp hP
  simp only [Pipeline.stop]
  split
  · rfl
  · simp_all

theorem ensure_released (s : State) (fails : Bool) :
    (s.ensureVideoPipeline fails).1.released = s.released := by
  simp only [State.ensureVideoPipeline]
  split
  · rfl
  · split <;> rfl

theorem idleStop_released (s : State) (pc : IdleStop) :
    (s.idleStop pc).1.released = s.released := by
  cases pc <;> rfl

theorem stopStored_released (s : State) : s.stopStored.released = s.released := by
  simp only [State.stopStored]
  split <;> rfl

/-- What a step reports: nothing, or at a return the threads that are left. -/
theorem released_cases (s : State) (choice : Bool) (call : Call) :
    (s.next choice call).1.released = s.released ∨
      (s.next choice call).1.released = s.released ++ [s.alive] ∧
        (call.returns ∨ ∃ p, call = .release (.poll p) ∧ s.pipelines[p]?.any (·.runningFlag)) := by
  cases call with
  | returned => exact .inl rfl
  | createSession pc =>
    cases pc with
    | ensure codec => exact .inl (ensure_released s choice)
    | codec | config | new | subscribe | store => exact .inl rfl
  | closeSession id pc =>
    cases pc with
    | remove => exact .inl rfl
    | idle pc => exact .inl (idleStop_released s pc)
  | cleanup pc =>
    cases pc with
    | collect | remove => exact .inl rfl
    | idle pc => exact .inl (idleStop_released s pc)
  | setVideoCodec codec pc =>
    cases pc with
    | stop => exact .inl (stopStored_released s)
    | idle pc => exact .inl (idleStop_released s pc)
    | ensure =>
      simp only [State.next, State.setVideoCodec]
      split
      · exact .inl (ensure_released s choice)
      · exact .inl rfl
    | compare | drain | clear | write => exact .inl rfl
  | updateVideoConfig resolution inputFormat fps pc =>
    cases pc with
    | stop => exact .inl (stopStored_released s)
    | idle pc => exact .inl (idleStop_released s pc)
    | compare | clear | drain | write => exact .inl rfl
  | release pc =>
    cases pc with
    | drain => exact .inl rfl
    | idle pc => exact .inl (idleStop_released s pc)
    | stop =>
      simp only [State.next, State.release]
      split <;> exact .inl rfl
    | poll p =>
      simp only [State.next, State.release, State.poll]
      split
      · rename_i hflag
        split
        · exact .inr ⟨rfl, .inr ⟨p, rfl, hflag⟩⟩
        · exact .inl rfl
      · exact .inl rfl
    | sleep p => exact .inr ⟨rfl, .inl rfl⟩
    | clear => exact .inr ⟨rfl, .inl rfl⟩

theorem stopped_running {s : State} {p : Nat} (h : Stopped s p) : s.running = none := by
  cases hP : s.pipelines[p]? with
  | none => simp [State.running, h.1, hP]
  | some P => simp [State.running, h.1, hP, h.2 P hP]

/-- A wait that returns does so with every thread gone. -/
theorem released_next {s : State} (h : Device s) {call : Call} (hprompt : CallPrompt s call)
    (hwaiting : ∀ p, call.waitsFor = some p → Stopped s p)
    (hreleased : ∀ alive ∈ s.released, alive = []) (choice : Bool) :
    ∀ alive ∈ (s.next choice call).1.released, alive = [] := by
  rcases released_cases s choice call with heq | ⟨heq, hreturns⟩ <;> rw [heq]
  · exact hreleased
  have halive : s.alive = [] := by
    rcases hreturns with hreturns | ⟨p, rfl, hflag⟩
    · apply alive_nil h (hprompt.1 (.inr hreturns))
      unfold Call.returns at hreturns
      split at hreturns
      · exact stopped_running (hwaiting _ rfl)
      · exact hprompt.2 rfl
      · cases hreturns
    · obtain ⟨P, hP, hflag⟩ := (Option.any_eq_true _ _).mp hflag
      rw [h.flags p P hP, (hwaiting p rfl).2 P hP] at hflag
      cases hflag
  intro alive hmem
  rcases List.mem_append.mp hmem with hmem | hmem
  · exact hreleased alive hmem
  · rw [List.mem_singleton.mp hmem, halive]

/-! ## Runs -/

theorem locked_of_waits {s : State} {call : Call} (hcall : call ∈ s.calls) {p : Nat}
    (hp : call.waitsFor = some p) : s.locked := by
  refine List.any_eq_true.mpr ⟨call, hcall, ?_⟩
  simp [hp]

theorem inv_advance {s : State} (h : Inv s) {i : Nat} {choice : Bool} {call : Call}
    (hcall : s.calls[i]? = some call) (hfree : ¬(s.locked ∧ (call.ensures ∨ call.clears)))
    (hprompt : CallPrompt s call) :
    Inv { (s.next choice call).1 with calls := s.calls.set i (s.next choice call).2 } := by
  have hmem : call ∈ s.calls := List.mem_of_getElem? hcall
  refine ⟨?_, ?_, released_next h.device hprompt (h.waiting call hmem) h.released choice⟩
  · exact device_quiet (device_next h.device hprompt choice) (quiet_of_same rfl rfl)
  intro other hother p hp
  -- a call that waits keeps the others from the slot
  have hquiet (hlocked : s.locked) : Quiet s (s.next choice call).1 := by
    simp only [hlocked, true_and, not_or, Bool.not_eq_true] at hfree
    exact quiet_next s choice hfree.1 hfree.2
  show Stopped (s.next choice call).1 p
  rcases List.mem_or_eq_of_mem_set hother with hother | rfl
  · have hstopped := h.waiting other hother p hp
    exact stopped_quiet hstopped (hquiet (locked_of_waits hother hp))
  · rcases waitsFor_next hp with hbefore | ⟨rfl, hslot⟩
    · exact stopped_quiet (h.waiting call hmem p hbefore) (hquiet (locked_of_waits hmem hbefore))
    · simp only [State.next, State.release, hslot]
      exact stopped_stop hslot

theorem waitsFor_fresh {call : Call} (h : call.Fresh) : call.waitsFor = none := by
  cases call with
  | release pc =>
    cases h
    rfl
  | createSession | closeSession | cleanup | setVideoCodec | updateVideoConfig | returned => rfl

/-- A thread that has not ended may always leave its loop. -/
theorem any_not_ended {s : State} {p : Nat} {f : Pipeline → Bool}
    (hf : ∀ P : Pipeline, f P → P.thread ≠ .ended) (h : s.pipelines[p]?.any f) :
    s.pipelines[p]?.any (·.thread != .ended) := by
  obtain ⟨P, hP, hfP⟩ := (Option.any_eq_true _ _).mp h
  simp [hP, hf P hfP]

theorem inv_quiet {s t : State} (h : Inv s) (hquiet : Quiet s t) (hcalls : t.calls = s.calls)
    (hreleased : t.released = s.released) : Inv t := by
  refine ⟨device_quiet h.device hquiet, ?_, hreleased ▸ h.released⟩
  intro call hcall p hp
  rw [hcalls] at hcall
  exact stopped_quiet (h.waiting call hcall p hp) hquiet

theorem inv_step {s s' : State} {e : Event} (h : Inv s) (hprompt : StepPrompt s e)
    (hstep : step s e = some s') : Inv s' := by
  cases e with
  | call call =>
    simp only [step] at hstep
    split at hstep <;> cases hstep
    rename_i hfresh
    refine ⟨device_quiet h.device (quiet_of_same rfl rfl), ?_, h.released⟩
    intro other hother p hp
    rcases List.mem_append.mp hother with hother | hother
    · exact h.waiting other hother p hp
    · rw [List.mem_singleton.mp hother, waitsFor_fresh hfresh] at hp
      cases hp
  | advance i choice =>
    obtain ⟨call, hcall, hstep⟩ := Option.bind_eq_some_iff.mp hstep
    split at hstep <;> cases hstep
    rename_i hfree
    exact inv_advance h hcall (fun hlocked => hfree (.inr hlocked)) (hprompt call hcall)
  | ensure fails =>
    simp only [step] at hstep
    split at hstep <;> cases hstep
    rename_i hfree
    refine ⟨device_ensure h.device hprompt fails, ?_, ?_⟩
    · intro call hcall p hp
      rw [ensure_calls] at hcall
      exact absurd (locked_of_waits hcall hp) hfree
    · rw [ensure_released]
      exact h.released
  | stop p =>
    cases hstep
    exact inv_quiet h (quiet_stop s p) rfl rfl
  | subscribe | receiverEnds | disconnect | setCaptureDevice =>
    cases hstep
    exact inv_quiet h (quiet_of_same rfl rfl) rfl rfl
  | opened p ok =>
    simp only [step] at hstep
    split at hstep <;> cases hstep
    rename_i hopening
    refine inv_quiet h (quiet_update s p ?_) rfl rfl
    intro P hP
    have hthread : P.thread = .opening := by simpa [hP] using hopening
    cases ok <;> simp [Pipeline.leave, hthread]
  | leave p | giveUp p | autoStop p =>
    simp only [step] at hstep
    split at hstep <;> cases hstep
    rename_i hcapturing
    refine inv_quiet h (quiet_leave .closing ?_) rfl rfl
    first
    | refine any_not_ended ?_ hcapturing
    | refine any_not_ended ?_ hcapturing.1
    intro P hP
    simp_all
  | dropStream p =>
    simp only [step] at hstep
    split at hstep <;> cases hstep
    refine inv_quiet h (quiet_update s p ?_) rfl rfl
    exact fun P _ => ⟨id, id, fun _ => rfl⟩
  | monitor p =>
    simp only [step] at hstep
    split at hstep <;> cases hstep
    rename_i hstopped
    obtain ⟨hslot, hrunning, hfree⟩ := hstopped
    have hnone : s.running = none := by
      obtain ⟨P, hP, hP'⟩ := (Option.any_eq_true _ _).mp hrunning
      simp_all [State.running]
    refine ⟨device_clear h.device hnone rfl, ?_, h.released⟩
    intro call hcall q hq
    have hlocked : s.locked := locked_of_waits (s := s) hcall hq
    rw [hlocked] at hfree
    cases hfree

theorem inv_init {s : State} (h : Init s) : Inv s := by
  obtain ⟨config, videoCodec, captureDevice, rfl⟩ := h
  refine ⟨⟨?_, ?_, ?_⟩, ?_, ?_⟩
  all_goals simp

/-- A pipeline that captures for an external consumer, and a release of the device, up to
the 50 ms that `stop_and_wait` sleeps. -/
def untilSleep : List Event :=
  [.ensure false, .opened 0 true, .call (.release .drain)] ++ List.replicate 7 (.advance 0 false)

end StreamBox.Webrtc.Streamer
