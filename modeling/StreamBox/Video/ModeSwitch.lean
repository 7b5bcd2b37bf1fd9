import StreamBox.Lib.Slots
import StreamBox.Video.StreamManager

/-!
# One mode switch at a time

* **Transactions** — `transactional`: as long as a caller gets the flag only while the mode
  is still the one it has read, the start of a new mode fails only where the stored mode is
  that one already, and no other path stores another mode while a failed switch ends, at
  most one switch runs, it leaves the current mode for another one, and one that fails
  leaves the mode, the configuration and the streamer in agreement.
* **Failure** — `stale_and_torn`: a second caller switches from a mode that is gone, and a
  failed start leaves the new mode next to the old configuration.
-/

namespace StreamBox.Video.ModeSwitch

open StreamBox.Lib StreamBox.Config StreamBox.Video.Streamer StreamBox.Video.StreamManager

/-- A caller of `switch_mode_transaction`, or the task of a switch. -/
inductive Call
  | transaction (newMode : StreamMode) (pc : Transaction)
  | switch (switch : Switch)
  | returned (result : Option ModeSwitchTransaction)
  | ended
  deriving DecidableEq, Repr

structure State where
  manager : Manager
  calls : List Call := []
  deriving DecidableEq, Repr

/-- What happens: besides the calls, the streamer changes its state by itself, though never
back to `Uninitialized`, and other paths store a configuration. -/
inductive Event
  | call (newMode : StreamMode)
  | advance (i : Nat) (fails : Bool)
  | streamer (state : StreamerState)
  | store (config : AppConfig)
  deriving DecidableEq, Repr

/-- A step of call `i`. -/
def State.next (s : State) (i : Nat) (fails : Bool) : Call → Option State
  | .transaction newMode pc =>
    match s.manager.transaction newMode fails pc with
    | (manager, .goes pc) =>
      some { manager, calls := s.calls.set i (.transaction newMode pc) }
    | (manager, .spawns switch result) =>
      some { manager, calls := s.calls.set i (.returned (some result)) ++ [.switch switch] }
    | (manager, .returns result) =>
      some { manager, calls := s.calls.set i (.returned result) }
  | .switch switch =>
    match s.manager.doSwitchMode switch fails switch.pc with
    | (manager, some pc) =>
      some { manager, calls := s.calls.set i (.switch { switch with pc }) }
    | (manager, none) => some { manager, calls := s.calls.set i .ended }
  | .returned _ | .ended => none

def step (s : State) : Event → Option State
  | .call newMode => some { s with calls := s.calls ++ [.transaction newMode .read] }
  | .advance i fails => s.calls[i]?.bind (s.next i fails)
  | .streamer state =>
    if state = .uninitialized then none
    else some { s with manager := { s.manager with streamer := state } }
  | .store config => some { s with manager := { s.manager with config } }

/-- After `init_with_mode`. -/
def Init (s : State) : Prop :=
  ∃ (config : AppConfig) (streamer : StreamerState),
    (streamer = .uninitialized ∨ streamer = .ready) ∧
    s = { manager := { mode := config.stream.mode, streamer, config } }

def system : TSys State Event :=
  .ofFn Init step

/-! ## Transactions -/

namespace Call

/-- A switch is in progress, from the flag on. -/
def switching : Call → Bool
  | transaction _ (.identify _) | transaction _ (.spawn _ _) | switch _ => true
  | _ => false

/-- The modes of an accepted switch that has not written the mode yet. -/
def accepted : Call → Option (StreamMode × StreamMode)
  | transaction newMode (.identify currentMode) | transaction newMode (.spawn currentMode _) =>
    some (currentMode, newMode)
  | switch ⟨currentMode, newMode, _, .stop⟩ | switch ⟨currentMode, newMode, _, .write⟩ =>
    some (currentMode, newMode)
  | _ => none

/-- `do_switch_mode` has failed. -/
def failed : Call → Bool
  | switch ⟨_, _, _, .clear true⟩ | switch ⟨_, _, _, .release true⟩ => true
  | _ => false

end Call

structure Transactional (s : State) : Prop where
  one : ∀ (i j : Nat) (a b : Call), s.calls[i]? = some a → s.calls[j]? = some b →
    a.switching → b.switching → i = j
  current : ∀ call ∈ s.calls, ∀ currentMode newMode, call.accepted = some (currentMode, newMode) →
    currentMode = s.manager.mode ∧ newMode ≠ s.manager.mode
  agrees : ∀ call ∈ s.calls, call.failed → s.manager.mode = s.manager.config.stream.mode ∧
    (s.manager.streamer = .streaming → s.manager.mode = .mjpeg)

/-! ## The condition on the steps -/

/-- The caller gets the flag in the mode that it has read; the new mode fails to start only
where it is stored already. -/
def Call.steady (m : Manager) (fails : Bool) : Call → Bool
  | transaction _ (.compare currentMode) => m.switching || currentMode = m.mode
  | switch ⟨_, newMode, _, .start⟩ => !fails || m.config.stream.mode = newMode
  | _ => true

/-- While a failed switch ends, the stored mode stays the current one. -/
def Steady (s : State) : Event → Prop
  | .advance i fails => ∀ call ∈ s.calls[i]?, call.steady s.manager fails
  | .store config => ∀ call ∈ s.calls, call.failed → config.stream.mode = s.manager.mode
  | .call _ | .streamer _ => True

instance (s : State) : (e : Event) → Decidable (Steady s e)
  | .advance i fails =>
    inferInstanceAs (Decidable (∀ call ∈ s.calls[i]?, call.steady s.manager fails))
  | .store config =>
    inferInstanceAs
      (Decidable (∀ call ∈ s.calls, call.failed → config.stream.mode = s.manager.mode))
  | .call _ | .streamer _ => instDecidableTrue

/-! ## The invariant -/

/-- What holds of one call. -/
def Call.Sound (m : Manager) : Call → Prop
  | transaction newMode (.compare currentMode) => newMode ≠ currentMode
  | transaction newMode (.identify currentMode) | transaction newMode (.spawn currentMode _) =>
    m.switching ∧ currentMode = m.mode ∧ newMode ≠ m.mode
  | switch { currentMode, newMode, pc, .. } => m.switching ∧
    match pc with
    | .stop => currentMode = m.mode ∧ newMode ≠ m.mode
    | .write => currentMode = m.mode ∧ newMode ≠ m.mode ∧
      (newMode = .webrtc → m.streamer ≠ .uninitialized)
    | .format | .start => m.mode = newMode ∧ newMode = .mjpeg
    | .init => m.mode = newMode ∧ m.streamer ≠ .uninitialized
    | .clear true | .release true =>
      m.mode = newMode ∧ newMode = .mjpeg ∧ m.config.stream.mode = m.mode
    | .get | .set _ | .clear false | .release false => m.mode = newMode
  | _ => True

structure Inv (s : State) : Prop where
  one : ∀ (i j : Nat) (a b : Call), s.calls[i]? = some a → s.calls[j]? = some b →
    a.switching → b.switching → i = j
  sound : ∀ call ∈ s.calls, call.Sound s.manager

namespace Call

theorem Sound.flag {m : Manager} {call : Call} (h : call.Sound m) (hswitching : call.switching) :
    m.switching := by
  unfold switching at hswitching
  split at hswitching
  · exact h.1
  · exact h.1
  · exact h.1
  · cases hswitching

/-- A call outside a switch does not care about the manager. -/
theorem Sound.of_idle {m m' : Manager} {call : Call} (h : call.Sound m)
    (hidle : call.switching = false) : call.Sound m' := by
  cases call with
  | transaction newMode pc =>
    cases pc with
    | compare => exact h
    | identify | spawn => cases hidle
    | read | capture | init | refused => trivial
  | switch => cases hidle
  | returned | ended => trivial

/-- A switch minds the mode, the flag, the stored mode once it has failed, and that the
streamer is initialized. -/
theorem Sound.of_keeps {m m' : Manager} {call : Call} (h : call.Sound m)
    (hmode : m'.mode = m.mode) (hswitching : m.switching → m'.switching)
    (hstreamer : m.streamer ≠ .uninitialized → m'.streamer ≠ .uninitialized)
    (hconfig : call.failed → m.config.stream.mode = m.mode →
      m'.config.stream.mode = m.mode) : call.Sound m' := by
  cases call with
  | transaction newMode pc =>
    cases pc with
    | compare => exact h
    | identify | spawn => exact ⟨hswitching h.1, by rw [hmode]; exact h.2⟩
    | read | capture | init | refused => trivial
  | returned | ended => trivial
  | switch switch =>
    obtain ⟨currentMode, newMode, transitionId, pc⟩ := switch
    refine ⟨hswitching h.1, ?_⟩
    have hpc := h.2
    cases pc with
    | stop =>
      simp only [hmode]
      exact hpc
    | write =>
      simp only [hmode]
      exact ⟨hpc.1, hpc.2.1, fun hnew => hstreamer (hpc.2.2 hnew)⟩
    | format | start | get | set =>
      simp only [hmode]
      exact hpc
    | init =>
      simp only [hmode]
      exact ⟨hpc.1, hstreamer hpc.2⟩
    | clear failed | release failed =>
      cases failed with
      | false =>
        simp only [hmode]
        exact hpc
      | true =>
        simp only [hmode]
        exact ⟨hpc.1, hpc.2.1, hconfig (by simp [failed]) hpc.2.2⟩

end Call

/-! ## One step of a call -/

/-- What a step of `switch_mode_transaction` leaves for its call. -/
def OutcomeSound (m : Manager) (newMode : StreamMode) : Outcome → Prop
  | .goes pc => (Call.transaction newMode pc).Sound m
  | .spawns switch _ => (Call.switch switch).Sound m
  | .returns _ => True

theorem sound_transaction {m m' : Manager} {newMode : StreamMode} {pc : Transaction}
    {fails : Bool} {outcome : Outcome} (h : (Call.transaction newMode pc).Sound m)
    (hsteady : (Call.transaction newMode pc).steady m fails)
    (hstep : m.transaction newMode fails pc = (m', outcome)) :
    OutcomeSound m' newMode outcome := by
  cases pc with
  | read =>
    simp only [Manager.transaction] at hstep
    split at hstep
    · cases newMode <;> cases hstep <;> trivial
    · rename_i hne
      cases hstep
      exact fun heq => hne heq.symm
  | capture =>
    simp only [Manager.transaction] at hstep
    split at hstep <;> cases hstep <;> trivial
  | init =>
    simp only [Manager.transaction] at hstep
    split at hstep <;> cases hstep <;> trivial
  | compare currentMode =>
    simp only [Manager.transaction] at hstep
    split at hstep
    · cases hstep
      trivial
    · rename_i hfree
      cases hstep
      have hcurrent : currentMode = m.mode := by simpa [Call.steady, hfree] using hsteady
      refine ⟨rfl, hcurrent, ?_⟩
      show newMode ≠ m.mode
      rw [← hcurrent]
      exact h
  | refused =>
    cases hstep
    trivial
  | identify currentMode =>
    cases hstep
    exact h
  | spawn currentMode transitionId =>
    cases hstep
    exact h

/-- A mode that is left for WebRTC is MJPEG, whose stop initializes the streamer. -/
theorem left_mjpeg {m : Manager} {newMode : StreamMode} (hne : newMode ≠ m.mode)
    (hnew : newMode = .webrtc) : m.mode = .mjpeg := by
  subst hnew
  cases hmode : m.mode with
  | webrtc => exact absurd hmode.symm hne
  | mjpeg => rfl

/-- What a step of `do_switch_mode` leaves for its task. -/
theorem sound_switch {m m' : Manager} {switch : Switch} {fails : Bool} {pc : DoSwitchMode}
    (h : (Call.switch switch).Sound m) (hsteady : (Call.switch switch).steady m fails)
    (hstep : m.doSwitchMode switch fails switch.pc = (m', some pc)) :
    (Call.switch { switch with pc }).Sound m' := by
  obtain ⟨currentMode, newMode, transitionId, now⟩ := switch
  obtain ⟨hflag, hnow⟩ := h
  cases now with
  | stop =>
    cases currentMode with
    | mjpeg =>
      cases hstep
      exact ⟨hflag, hnow.1, hnow.2, fun _ => by simp⟩
    | webrtc =>
      cases hstep
      refine ⟨hflag, hnow.1, hnow.2, fun hnew => ?_⟩
      have hmode := left_mjpeg hnow.2 hnew
      rw [← hnow.1] at hmode
      cases hmode
  | write =>
    cases hstep
    cases newMode with
    | mjpeg => exact ⟨hflag, rfl, rfl⟩
    | webrtc => exact ⟨hflag, rfl, hnow.2.2 rfl⟩
  | format =>
    cases hstep
    cases fails <;> exact ⟨hflag, hnow⟩
  | start =>
    simp only [Manager.doSwitchMode] at hstep
    split at hstep
    · cases hstep
      exact ⟨hflag, hnow.1⟩
    · split at hstep
      · rename_i hfails
        cases hstep
        have hstored : m.config.stream.mode = newMode := by
          simpa [Call.steady, hfails] using hsteady
        exact ⟨hflag, hnow.1, hnow.2, hstored.trans hnow.1.symm⟩
      · cases hstep
        exact ⟨hflag, hnow.1⟩
  | init =>
    simp only [Manager.doSwitchMode, hnow.2, if_false] at hstep
    cases hstep
    exact ⟨hflag, hnow.1⟩
  | get =>
    cases hstep
    exact ⟨hflag, hnow⟩
  | set config =>
    cases hstep
    cases fails <;> exact ⟨hflag, hnow⟩
  | clear failed =>
    cases hstep
    cases failed <;> exact ⟨hflag, hnow⟩
  | release failed => cases hstep

/-! ## One step of the system -/

section Step

variable {s : State} {i : Nat} {call call' : Call} {m : Manager}

/-- The other calls stay as they are: of two calls one is outside a switch. -/
theorem sound_others (h : Inv s) (hcall : s.calls[i]? = some call)
    (hkeeps : call.switching ∨ (m.mode = s.manager.mode ∧ m.config = s.manager.config ∧
      (s.manager.switching → m.switching) ∧
      (s.manager.streamer ≠ .uninitialized → m.streamer ≠ .uninitialized)))
    {j : Nat} {other : Call} (hj : j ≠ i) (hother : s.calls[j]? = some other) :
    other.Sound m := by
  have hsound := h.sound other (List.mem_of_getElem? hother)
  rcases hkeeps with hswitching | ⟨hmode, hconfig, hflag, hstreamer⟩
  · cases hidle : other.switching with
    | false => exact hsound.of_idle hidle
    | true => exact absurd (h.one j i other call hother hcall hidle hswitching) hj
  · exact hsound.of_keeps hmode hflag hstreamer fun _ hstored => by rw [hconfig]; exact hstored

/-- While call `i` is in a switch, no other call is. -/
theorem idle_others (h : Inv s) (hcall : s.calls[i]? = some call) (hswitching : call.switching)
    {j : Nat} {other : Call} (hj : j ≠ i) (hother : s.calls[j]? = some other) :
    other.switching = false := by
  cases hidle : other.switching with
  | false => rfl
  | true => exact absurd (h.one j i other call hother hcall hidle hswitching) hj

/-- Call `i` moves on; it enters a switch only where no other call is in one. -/
theorem inv_set (call' : Call) (h : Inv s) (hcall : s.calls[i]? = some call)
    (hsound : call'.Sound m)
    (hothers : ∀ (j : Nat) (other : Call), j ≠ i → s.calls[j]? = some other → other.Sound m)
    (hone : call'.switching → call.switching ∨ ∀ other ∈ s.calls, other.switching = false) :
    Inv { manager := m, calls := s.calls.set i call' } := by
  have hidle {j : Nat} {other : Call} (hj : j ≠ i) (hother : s.calls[j]? = some other)
      (hswitching : call'.switching) : other.switching = false := by
    rcases hone hswitching with hswitching | hidle
    · exact idle_others h hcall hswitching hj hother
    · exact hidle other (List.mem_of_getElem? hother)
  refine ⟨?_, ?_⟩
  · intro j k a b ha hb hswitchingA hswitchingB
    rcases getElem?_set_cases ha with ⟨hj, haeq⟩ | ⟨hj, ha'⟩ <;>
      rcases getElem?_set_cases hb with ⟨hk, hbeq⟩ | ⟨hk, hb'⟩
    · rw [hj, hk]
    · rw [haeq] at hswitchingA
      rw [hidle hk hb' hswitchingA] at hswitchingB
      cases hswitchingB
    · rw [hbeq] at hswitchingB
      rw [hidle hj ha' hswitchingB] at hswitchingA
      cases hswitchingA
    · exact h.one j k a b ha' hb' hswitchingA hswitchingB
  · intro other hother
    obtain ⟨j, hget⟩ := List.mem_iff_getElem?.mp hother
    rcases getElem?_set_cases hget with ⟨-, heq⟩ | ⟨hj, hget⟩
    · rw [heq]
      exact hsound
    · exact hothers j other hj hget

/-- A call appears; it is in a switch only where no other one is. -/
theorem inv_append (h : Inv s) (hsound : call'.Sound s.manager)
    (hone : call'.switching → ∀ other ∈ s.calls, other.switching = false) :
    Inv { s with calls := s.calls ++ [call'] } := by
  have hget {j : Nat} {other : Call} (hother : (s.calls ++ [call'])[j]? = some other) :
      j = s.calls.length ∧ other = call' ∨ s.calls[j]? = some other := by
    rw [List.getElem?_append] at hother
    split at hother
    · exact .inr hother
    · rw [List.getElem?_singleton] at hother
      split at hother
      · exact .inl ⟨by omega, (Option.some.inj hother).symm⟩
      · cases hother
  refine ⟨?_, ?_⟩
  · intro j k a b ha hb hswitchingA hswitchingB
    rcases hget ha with ⟨hj, haeq⟩ | ha' <;> rcases hget hb with ⟨hk, hbeq⟩ | hb'
    · rw [hj, hk]
    · rw [haeq] at hswitchingA
      rw [hone hswitchingA b (List.mem_of_getElem? hb')] at hswitchingB
      cases hswitchingB
    · rw [hbeq] at hswitchingB
      rw [hone hswitchingB a (List.mem_of_getElem? ha')] at hswitchingA
      cases hswitchingA
    · exact h.one j k a b ha' hb' hswitchingA hswitchingB
  · intro other hother
    rcases List.mem_append.mp hother with hother | hother
    · exact h.sound other hother
    · rw [List.mem_singleton.mp hother]
      exact hsound

/-- No call is in a switch while the flag is off. -/
theorem idle_of_flag (h : Inv s) (hflag : s.manager.switching = false) :
    ∀ other ∈ s.calls, other.switching = false := by
  intro other hother
  cases hidle : other.switching with
  | false => rfl
  | true =>
    have htrue := (h.sound other hother).flag hidle
    rw [hflag] at htrue
    cases htrue

/-- A caller leaves an initialized streamer initialized. -/
theorem transaction_streamer {m m' : Manager} {newMode : StreamMode} {fails : Bool}
    {pc : Transaction} {outcome : Outcome}
    (h : m.transaction newMode fails pc = (m', outcome)) :
    m.streamer ≠ .uninitialized → m'.streamer ≠ .uninitialized := by
  intro hstreamer
  cases pc with
  | read | compare =>
    simp only [Manager.transaction] at h
    split at h <;> cases h <;> exact hstreamer
  | init =>
    simp only [Manager.transaction] at h
    split at h <;> cases h
    · exact hstreamer
    · simp
  | capture | refused | identify | spawn =>
    cases h
    exact hstreamer

/-- A caller enters a switch where the flag was off. -/
theorem transaction_enters {m m' : Manager} {newMode : StreamMode} {fails : Bool}
    {pc pc' : Transaction} (h : m.transaction newMode fails pc = (m', .goes pc'))
    (hswitching : (Call.transaction newMode pc').switching) :
    (Call.transaction newMode pc).switching ∨ m.switching = false := by
  rcases Manager.transaction_switching h with hsame | ⟨-, -, hflag, -⟩
  · cases pc with
    | identify | spawn => exact .inl rfl
    | read =>
      simp only [Manager.transaction] at h
      split at h
      · cases newMode <;> cases h
        cases hswitching
      · cases h
        cases hswitching
    | capture | init =>
      simp only [Manager.transaction] at h
      split at h <;> cases h
      all_goals cases hswitching
    | compare =>
      simp only [Manager.transaction] at h
      split at h
      · cases h
        cases hswitching
      · rename_i hfree
        exact .inr (by simpa using hfree)
    | refused => cases h
  · exact .inr hflag

theorem inv_transaction {newMode : StreamMode} {pc : Transaction} {fails : Bool} {s' : State}
    (h : Inv s) (hcall : s.calls[i]? = some (.transaction newMode pc))
    (hsteady : (Call.transaction newMode pc).steady s.manager fails)
    (hstep : s.next i fails (.transaction newMode pc) = some s') : Inv s' := by
  rcases hm : s.manager.transaction newMode fails pc with ⟨m, outcome⟩
  simp only [State.next, hm] at hstep
  have hsound := sound_transaction (h.sound _ (List.mem_of_getElem? hcall)) hsteady hm
  obtain ⟨hmode, hconfig, -⟩ := Manager.transaction_keeps hm
  have hothers (j : Nat) (other : Call) (hj : j ≠ i) (hother : s.calls[j]? = some other) :
      other.Sound m := by
    refine sound_others h hcall (.inr ⟨hmode, hconfig, ?_, transaction_streamer hm⟩) hj hother
    intro hflag
    rcases Manager.transaction_switching hm with hsame | ⟨-, -, -, htrue, -⟩
    · rw [hsame]
      exact hflag
    · exact htrue
  cases outcome with
  | goes pc' =>
    cases hstep
    refine inv_set _ h hcall hsound hothers fun hswitching => ?_
    exact (transaction_enters hm hswitching).imp_right (idle_of_flag h)
  | spawns switch result =>
    cases hstep
    have hreturned := inv_set (.returned (some result)) h hcall trivial hothers
      (by simp [Call.switching])
    refine inv_append hreturned hsound fun _ other hother => ?_
    have hspawn : (Call.transaction newMode pc).switching := by
      cases pc with
      | spawn => rfl
      | read =>
        simp only [Manager.transaction] at hm
        split at hm
        · cases newMode <;> cases hm
        · cases hm
      | capture | init | compare =>
        simp only [Manager.transaction] at hm
        split at hm <;> cases hm
      | refused | identify => cases hm
    obtain ⟨j, hget⟩ := List.mem_iff_getElem?.mp hother
    rcases getElem?_set_cases hget with ⟨-, rfl⟩ | ⟨hj, hget⟩
    · rfl
    · exact idle_others h hcall hspawn hj hget
  | returns result =>
    cases hstep
    exact inv_set (.returned result) h hcall trivial hothers
      (by simp [Call.switching])

theorem inv_switch {switch : Switch} {fails : Bool} {s' : State} (h : Inv s)
    (hcall : s.calls[i]? = some (.switch switch))
    (hsteady : (Call.switch switch).steady s.manager fails)
    (hstep : s.next i fails (.switch switch) = some s') : Inv s' := by
  rcases hm : s.manager.doSwitchMode switch fails switch.pc with ⟨m, next⟩
  simp only [State.next, hm] at hstep
  have hothers (j : Nat) (other : Call) (hj : j ≠ i) (hother : s.calls[j]? = some other) :
      other.Sound m :=
    sound_others h hcall (.inl rfl) hj hother
  cases next with
  | some pc =>
    cases hstep
    have hsound := sound_switch (h.sound _ (List.mem_of_getElem? hcall)) hsteady hm
    exact inv_set _ h hcall hsound hothers fun _ => .inl rfl
  | none =>
    cases hstep
    exact inv_set .ended h hcall trivial hothers (by simp [Call.switching])

end Step

theorem inv_step {s s' : State} {e : Event} (h : Inv s) (hsteady : Steady s e)
    (hstep : step s e = some s') : Inv s' := by
  cases e with
  | call newMode =>
    cases hstep
    exact inv_append h trivial (by simp [Call.switching])
  | advance i fails =>
    obtain ⟨call, hcall, hnext⟩ := Option.bind_eq_some_iff.mp hstep
    have hcallSteady := hsteady call hcall
    cases call with
    | transaction newMode pc => exact inv_transaction h hcall hcallSteady hnext
    | switch switch => exact inv_switch h hcall hcallSteady hnext
    | returned | ended => cases hnext
  | streamer state =>
    simp only [step] at hstep
    split at hstep <;> cases hstep
    rename_i hstate
    refine ⟨h.one, fun call hcall => ?_⟩
    exact (h.sound call hcall).of_keeps rfl id (fun _ => hstate) fun _ => id
  | store config =>
    cases hstep
    refine ⟨h.one, fun call hcall => ?_⟩
    exact (h.sound call hcall).of_keeps rfl id id fun hfailed _ => hsteady call hcall hfailed

/-! ## Over whole runs -/

theorem Inv.intact {s : State} (h : Inv s) : Transactional s := by
  refine ⟨h.one, ?_, ?_⟩
  · intro call hcall currentMode newMode haccepted
    have hsound := h.sound call hcall
    unfold Call.accepted at haccepted
    split at haccepted
    · cases haccepted
      exact hsound.2
    · cases haccepted
      exact hsound.2
    · cases haccepted
      exact hsound.2
    · cases haccepted
      exact ⟨hsound.2.1, hsound.2.2.1⟩
    · cases haccepted
  · intro call hcall hfailed
    have hsound := h.sound call hcall
    unfold Call.failed at hfailed
    split at hfailed
    · obtain ⟨-, hmode, hnew, hstored⟩ := hsound
      exact ⟨hstored.symm, fun _ => hmode.trans hnew⟩
    · obtain ⟨-, hmode, hnew, hstored⟩ := hsound
      exact ⟨hstored.symm, fun _ => hmode.trans hnew⟩
    · cases hfailed

/-- Where callers get the flag in the mode that they have read and a start fails only in the
stored mode, switches are transactions. -/
theorem transactional {s : State} (h : (system.restrict Steady).Reachable s) :
    Transactional s := by
  have hinv : Inv s := by
    refine TSys.invariant ?_ ?_ h
    · rintro s ⟨config, streamer, -, rfl⟩
      exact ⟨(fun i j a b ha => nomatch ha), fun call hcall => nomatch hcall⟩
    · intro s e t hs hstep
      exact inv_step hs hstep.2 hstep.1
  exact hinv.intact

/-- MJPEG mode, with the streamer initialized. -/
def ready : State where
  manager :=
    { mode := .mjpeg, streamer := .ready
      config := { rustdesk := { deviceId := "123456789", devicePassword := "secret" } } }

theorem init_ready : Init ready :=
  ⟨ready.manager.config, .ready, .inr rfl, rfl⟩

/-- A caller switches to WebRTC. -/
def toWebrtc : List Event :=
  .call .webrtc :: List.replicate 4 (.advance 0 false) ++ List.replicate 7 (.advance 1 false)

/-- A second caller asks for WebRTC too, a third one goes back to MJPEG. -/
theorem back_and_forth : ∃ s, (system.restrict Steady).Reachable s ∧
    s.manager.mode = .mjpeg ∧ s.manager.streamer = .streaming ∧
    s.manager.config.stream.mode = .mjpeg ∧ Transactional s := by
  let run : List Event := toWebrtc ++ [.call .webrtc, .advance 2 false, .advance 2 false] ++
    .call .mjpeg :: List.replicate 4 (.advance 3 false) ++ List.replicate 8 (.advance 4 false)
  have hrun : ∃ s, run.foldlM (fun s e => if Steady s e then step s e else none) ready = some s ∧
      s.manager.mode = .mjpeg ∧ s.manager.streamer = .streaming ∧
      s.manager.config.stream.mode = .mjpeg :=
    ⟨_, rfl, rfl, rfl, rfl⟩
  obtain ⟨s, hrun, hmode, hstreamer, hstored⟩ := hrun
  have h : (system.restrict Steady).Reachable s :=
    TSys.ofFn_restrict_reachable (.init init_ready) hrun
  exact ⟨s, h, hmode, hstreamer, hstored, transactional h⟩

/-- Two callers have read MJPEG; the second one gets the flag after the switch of the first
one and leaves MJPEG once more. And on the way back to MJPEG the streamer does not start:
then the mode is MJPEG, and WebRTC is stored. -/
theorem stale_and_torn :
    (¬∀ s, system.Reachable s → Transactional s) ∧
    ∃ s, system.Reachable s ∧ ∃ call ∈ s.calls, call.failed ∧
      s.manager.mode ≠ s.manager.config.stream.mode := by
  refine ⟨fun h => ?_, ?_⟩
  · let run : List Event := [.call .webrtc, .call .webrtc, .advance 0 false, .advance 1 false] ++
      List.replicate 3 (.advance 0 false) ++ List.replicate 7 (.advance 2 false) ++
      [.advance 1 false]
    have hrun : ∃ s, run.foldlM step ready = some s ∧ s.manager.mode = .webrtc ∧
        s.calls[1]? = some (.transaction .webrtc (.identify .mjpeg)) :=
      ⟨_, rfl, rfl, rfl⟩
    obtain ⟨s, hrun, hmode, hcall⟩ := hrun
    have hreachable : system.Reachable s := TSys.ofFn_reachable (.init init_ready) hrun
    have hcurrent := (h s hreachable).current _ (List.mem_of_getElem? hcall) .mjpeg .webrtc rfl
    exact hcurrent.2 hmode.symm
  · let run : List Event := toWebrtc ++ .call .mjpeg :: List.replicate 4 (.advance 2 false) ++
      List.replicate 3 (.advance 3 false) ++ [.advance 3 true]
    have hrun : ∃ s, run.foldlM step ready = some s ∧ s.manager.mode = .mjpeg ∧
        s.manager.config.stream.mode = .webrtc ∧
        s.calls[3]? = some (.switch ⟨.webrtc, .mjpeg, 1, .clear true⟩) :=
      ⟨_, rfl, rfl, rfl, rfl⟩
    obtain ⟨s, hrun, hmode, hstored, hcall⟩ := hrun
    have hreachable : system.Reachable s := TSys.ofFn_reachable (.init init_ready) hrun
    refine ⟨s, hreachable, _, List.mem_of_getElem? hcall, rfl, ?_⟩
    rw [hmode, hstored]
    decide

end StreamBox.Video.ModeSwitch
