import StreamBox.Audio.Controller
import StreamBox.Lib.Slots

/-!
# One audio streamer at a time

`start_streaming` looks whether the stored streamer runs, and stores another one much later; a
streamer that is starting does not run yet. `set_enabled` writes the configuration and stops the
stored streamer if that runs.

* **Exclusivity** — `exclusive_of_ok`: as long as a start that goes on finds no capture thread and
  no other start on its way, a disabling finds no start that has read the configuration before it
  and misses no streamer, and no stop takes a streamer for stopped whose thread is alive, one
  capture thread is alive at a time, and none once all calls have returned with audio disabled.
* **Failure** — `two_streamers`: two starts at once.
-/

namespace StreamBox.Audio

open StreamBox.Lib

/-! ## Where the calls are -/

/-- The start has read the configuration. -/
def Start.begun : Start → Bool
  | .config => false
  | _ => true

/-- The start is past its check. -/
def Start.critical : Start → Bool
  | .config | .check _ => false
  | _ => true

/-- The start has this streamer and its capture thread. -/
def Start.holds (x : Nat) : Start → Bool
  | .spawn y | .store y => x == y
  | _ => false

/-- The stop has taken a streamer and has not let go of the lock. -/
def Stop.locked : Stop → Bool
  | .take => false
  | _ => true

/-- The stop has taken this streamer, whose thread may be alive. -/
def Stop.holds (x : Nat) : Stop → Bool
  | .signal y | .wait y => x == y
  | _ => false

/-- The thread of the stored streamer may be alive before this step of the stop. -/
def Stop.awaits : Stop → Bool
  | .clear _ => false
  | _ => true

namespace Call

def startPc : Call → Option Start
  | start pc | selectDevice (.start pc) | updateConfig (.start pc) => some pc
  | _ => none

def stopPc : Call → Option Stop
  | stop pc | setEnabled (.stop pc) | selectDevice (.stop pc) | updateConfig (.stop _ pc) => some pc
  | _ => none

def begun (call : Call) : Bool := call.startPc.any (·.begun)

def critical (call : Call) : Bool := call.startPc.any (·.critical)

def starts (call : Call) (x : Nat) : Bool := call.startPc.any (·.holds x)

def locked (call : Call) : Bool := call.stopPc.any (·.locked)

def stops (call : Call) (x : Nat) : Bool := call.stopPc.any (·.holds x)

/-- What the step of the call makes of `enabled`, if it writes it. -/
def writes : Call → Option Bool
  | setEnabled (.write enabled) => some enabled
  | updateConfig (.write config) => some config.enabled
  | _ => none

/-- The call is neither past the beginning of a start nor of a stop. -/
def Idle (call : Call) : Prop :=
  call.begun = false ∧ call.locked = false

def isReturned : Call → Bool
  | returned _ => true
  | _ => false

end Call

namespace State

/-- No capture thread is alive. -/
def Silent (s : State) : Prop :=
  ∀ streamer ∈ s.streamers, streamer.alive = false

/-- No start has read the configuration. -/
def Unstarted (s : State) : Prop :=
  ∀ call ∈ s.calls, call.begun = false

/-- No call other than `i` is a start past its check. -/
def AloneBut (s : State) (i : Nat) : Prop :=
  ∀ j < s.calls.length, j ≠ i → s.calls[j]?.any (·.critical) = false

/-- A call other than `i` is a disabling that has still to look for a streamer. -/
def DisablingBut (s : State) (i : Nat) : Prop :=
  ∃ j < s.calls.length, j ≠ i ∧ s.calls[j]? = some (.setEnabled (.check false))

end State

/-- One capture thread is alive at a time, and none once all calls have returned with audio
disabled. -/
def Exclusive (s : State) : Prop :=
  (∀ x y, s.alive x → s.alive y → x = y) ∧
    ((∀ call ∈ s.calls, call.isReturned) → s.config.enabled = false → s.Silent)

/-! ## The condition on the steps -/

/-- A start that goes on finds no thread and no other start on its way. -/
def StartOk (s : State) (i : Nat) : Start → Prop
  | .check _ => s.isStreaming = false → s.Silent ∧ s.AloneBut i
  | _ => True

/-- A stop does not take a streamer for stopped whose thread is alive. -/
def StopOk (s : State) : Stop → Prop
  | .signal x => s.streamState x = .stopped → s.alive x = false
  | _ => True

/-- The last disabling to look, or to write, misses no start and no thread. -/
def DisableOk (s : State) (i : Nat) : Call → Prop
  | .setEnabled (.check false) =>
    s.config.enabled = false → s.DisablingBut i ∨
      s.Unstarted ∧ (s.isStreaming = false → s.Silent)
  | .updateConfig (.write config) =>
    config.enabled = false → s.DisablingBut i ∨ s.Unstarted ∧ s.Silent
  | _ => True

def CallOk (s : State) (i : Nat) (call : Call) : Prop :=
  (∀ pc ∈ call.startPc, StartOk s i pc) ∧ (∀ pc ∈ call.stopPc, StopOk s pc) ∧ DisableOk s i call

def StepOk (s : State) : Event → Prop
  | .advance i _ => ∀ call ∈ s.calls[i]?, CallOk s i call
  | _ => True

section

variable (s : State) (i : Nat)

instance : Decidable s.Silent :=
  inferInstanceAs (Decidable (∀ streamer ∈ s.streamers, streamer.alive = false))

instance : Decidable s.Unstarted :=
  inferInstanceAs (Decidable (∀ call ∈ s.calls, call.begun = false))

instance : Decidable (s.AloneBut i) :=
  inferInstanceAs (Decidable (∀ j < _, _ → _))

instance : Decidable (s.DisablingBut i) :=
  inferInstanceAs (Decidable (∃ j < _, _ ∧ _))

instance : (pc : Start) → Decidable (StartOk s i pc)
  | .check _ => inferInstanceAs (Decidable (_ → _ ∧ _))
  | .config | .create _ | .capture _ | .spawn _ | .store _ => .isTrue trivial

instance : (pc : Stop) → Decidable (StopOk s pc)
  | .signal _ => inferInstanceAs (Decidable (_ → _))
  | .take | .wait _ | .clear _ => .isTrue trivial

instance : (call : Call) → Decidable (DisableOk s i call)
  | .setEnabled (.check false) => inferInstanceAs (Decidable (_ → _ ∨ _ ∧ (_ → _)))
  | .updateConfig (.write _) => inferInstanceAs (Decidable (_ → _ ∨ _ ∧ _))
  | .setEnabled (.check true) | .setEnabled (.write _) | .setEnabled (.stop _)
  | .updateConfig (.check _) | .updateConfig (.stop _ _) | .updateConfig (.start _)
  | .start _ | .stop _ | .selectDevice _ | .setQuality _ | .returned _ => .isTrue trivial

instance (call : Call) : Decidable (CallOk s i call) :=
  inferInstanceAs (Decidable (_ ∧ _ ∧ _))

instance : (event : Event) → Decidable (StepOk s event)
  | .advance _ _ => inferInstanceAs (Decidable (∀ call ∈ _, _))
  | .startStreaming | .stopStreaming | .setEnabled _ | .selectDevice _ | .setQuality _
  | .updateConfig _ | .capture _ _ | .task _ _ => .isTrue trivial

end

/-! ## Capture threads -/

theorem alive_update (s : State) (x y : Nat) (f : AudioStreamer → AudioStreamer) :
    (s.update x f).alive y =
      if x = y then s.streamers[y]?.any fun streamer => (f streamer).alive else s.alive y := by
  simp only [State.alive, State.update, List.getElem?_modify]
  split
  · cases s.streamers[y]? <;> rfl
  · simp

/-- A change of a streamer that leaves its capture thread as it is. -/
theorem alive_update_same {s : State} {x : Nat} {f : AudioStreamer → AudioStreamer}
    (hf : ∀ streamer, (f streamer).capturer.thread = streamer.capturer.thread) (y : Nat) :
    (s.update x f).alive y = s.alive y := by
  rw [alive_update]
  split
  · simp only [AudioStreamer.alive, hf]
    rfl
  · rfl

theorem alive_append {s : State} {streamer : AudioStreamer} (h : streamer.alive = false) (y : Nat) :
    ({ s with streamers := s.streamers ++ [streamer] } : State).alive y = s.alive y := by
  simp only [State.alive]
  by_cases hy : y < s.streamers.length
  · rw [List.getElem?_append_left hy]
  · rw [List.getElem?_append_right (Nat.le_of_not_lt hy),
      List.getElem?_eq_none (Nat.le_of_not_lt hy)]
    cases hlast : y - s.streamers.length with
    | zero => simpa using h
    | succ n => simp

/-! ## Steps of a call -/

/-- Stored streamer, lock and capture threads are as they were. -/
def Frame (s t : State) : Prop :=
  t.streamer = s.streamer ∧ t.lock = s.lock ∧ ∀ x, t.alive x = s.alive x

theorem Frame.refl (s : State) : Frame s s := ⟨rfl, rfl, fun _ => rfl⟩

/-- The place that a step goes on at. -/
def Progress.pc? {pc : Type} : Progress pc → Option pc
  | .goes pc => some pc
  | .returns _ => none

/-- A step of a call is a step of its start, a step of its stop, or changes neither the stored
streamer nor a capture thread. -/
inductive Moves (s : State) (i : Nat) (env : Env) (call : Call) (u : State) (call' : Call) : Prop
  | start (pc : Start) (progress : Progress Start) (hpc : call.startPc = some pc)
      (hstep : s.startStreaming env pc = some (u, progress))
      (hnext : call'.startPc = progress.pc?) (hstop : call'.stopPc = none)
  | stops (pc pc' : Stop) (hpc : call.stopPc = some pc)
      (hstep : s.stopStreaming i pc = some (u, .goes pc'))
      (hnext : call'.stopPc = some pc') (hstart : call'.startPc = none)
  | stopped (pc : Stop) (error : Option String) (hpc : call.stopPc = some pc)
      (hstep : s.stopStreaming i pc = some (u, .returns error)) (hidle : call'.Idle)
  | other (hstart : call.startPc = none) (hstop : call.stopPc = none) (hidle : call'.Idle)
      (hframe : Frame s u) (henabled : u.config.enabled = call.writes.getD s.config.enabled)

theorem setEnabled_moves {s u : State} {i : Nat} {env : Env} {pc : SetEnabled} {call' : Call}
    (h : s.next i env (.setEnabled pc) = some (u, call')) :
    Moves s i env (.setEnabled pc) u call' := by
  obtain ⟨⟨v, progress⟩, hstep, hcall⟩ := Option.map_eq_some_iff.mp h
  cases hcall
  cases pc with
  | write enabled =>
    cases hstep
    exact .other rfl rfl ⟨rfl, rfl⟩ ⟨rfl, rfl, fun _ => rfl⟩ rfl
  | check enabled =>
    simp only [State.setEnabled] at hstep
    split at hstep
    · cases hstep
      exact .other rfl rfl ⟨rfl, rfl⟩ (.refl _) rfl
    · split at hstep
      · split at hstep <;> cases hstep
        · exact .other rfl rfl ⟨rfl, rfl⟩ (.refl _) rfl
        · exact .other rfl rfl ⟨rfl, rfl⟩ (.refl _) rfl
      · cases hstep
  | stop pc =>
    obtain ⟨⟨w, progress'⟩, hstop, hgoes⟩ := Option.map_eq_some_iff.mp hstep
    cases progress' with
    | goes pc' =>
      cases hgoes
      exact .stops pc pc' rfl hstop rfl rfl
    | returns error =>
      cases hgoes
      exact .stopped pc error rfl hstop ⟨rfl, rfl⟩

theorem selectDevice_moves {s u : State} {i : Nat} {env : Env} {pc : SelectDevice} {call' : Call}
    (h : s.next i env (.selectDevice pc) = some (u, call')) :
    Moves s i env (.selectDevice pc) u call' := by
  obtain ⟨⟨v, progress⟩, hstep, hcall⟩ := Option.map_eq_some_iff.mp h
  cases hcall
  cases pc with
  | list device =>
    simp only [State.selectDevice] at hstep
    split at hstep
    · split at hstep
      · cases hstep
        exact .other rfl rfl ⟨rfl, rfl⟩ (.refl _) rfl
      · split at hstep <;> cases hstep
        · exact .other rfl rfl ⟨rfl, rfl⟩ ⟨rfl, rfl, fun _ => rfl⟩ rfl
        · exact .other rfl rfl ⟨rfl, rfl⟩ ⟨rfl, rfl, fun _ => rfl⟩ rfl
    · cases hstep
  | write device =>
    cases hstep
    exact .other rfl rfl ⟨rfl, rfl⟩ ⟨rfl, rfl, fun _ => rfl⟩ rfl
  | check =>
    simp only [State.selectDevice] at hstep
    split at hstep
    · split at hstep <;> cases hstep
      · exact .other rfl rfl ⟨rfl, rfl⟩ (.refl _) rfl
      · exact .other rfl rfl ⟨rfl, rfl⟩ (.refl _) rfl
    · cases hstep
  | stop pc =>
    obtain ⟨⟨w, progress'⟩, hstop, hgoes⟩ := Option.map_eq_some_iff.mp hstep
    cases progress' with
    | goes pc' =>
      cases hgoes
      exact .stops pc pc' rfl hstop rfl rfl
    | returns error =>
      cases hgoes
      exact .stopped pc error rfl hstop ⟨rfl, rfl⟩
  | start pc =>
    obtain ⟨⟨w, progress'⟩, hstart, hgoes⟩ := Option.map_eq_some_iff.mp hstep
    cases progress' with
    | goes pc' =>
      cases hgoes
      exact .start pc (.goes pc') rfl hstart rfl rfl
    | returns error =>
      cases hgoes
      exact .start pc (.returns error) rfl hstart rfl rfl

theorem setQuality_moves {s u : State} {i : Nat} {env : Env} {pc : SetQuality} {call' : Call}
    (h : s.next i env (.setQuality pc) = some (u, call')) :
    Moves s i env (.setQuality pc) u call' := by
  obtain ⟨⟨v, progress⟩, hstep, hcall⟩ := Option.map_eq_some_iff.mp h
  cases hcall
  cases pc with
  | write quality =>
    cases hstep
    exact .other rfl rfl ⟨rfl, rfl⟩ ⟨rfl, rfl, fun _ => rfl⟩ rfl
  | bitrate quality =>
    have hset (x : Nat) : Frame s (s.update x ({ · with bitrate := quality.bitrate })) :=
      ⟨rfl, rfl, alive_update_same fun _ => rfl⟩
    simp only [State.setQuality] at hstep
    split at hstep
    · split at hstep
      · split at hstep <;> cases hstep
        · exact .other rfl rfl ⟨rfl, rfl⟩ (hset _) rfl
        · exact .other rfl rfl ⟨rfl, rfl⟩ (hset _) rfl
      · cases hstep
        exact .other rfl rfl ⟨rfl, rfl⟩ (.refl _) rfl
    · cases hstep

theorem updateConfig_moves {s u : State} {i : Nat} {env : Env} {pc : UpdateConfig} {call' : Call}
    (h : s.next i env (.updateConfig pc) = some (u, call')) :
    Moves s i env (.updateConfig pc) u call' := by
  obtain ⟨⟨v, progress⟩, hstep, hcall⟩ := Option.map_eq_some_iff.mp h
  cases hcall
  cases pc with
  | check config =>
    simp only [State.updateConfig] at hstep
    split at hstep
    · split at hstep <;> cases hstep
      · exact .other rfl rfl ⟨rfl, rfl⟩ (.refl _) rfl
      · exact .other rfl rfl ⟨rfl, rfl⟩ (.refl _) rfl
    · cases hstep
  | stop config pc =>
    obtain ⟨⟨w, progress'⟩, hstop, hgoes⟩ := Option.map_eq_some_iff.mp hstep
    cases progress' with
    | goes pc' =>
      cases hgoes
      exact .stops pc pc' rfl hstop rfl rfl
    | returns error =>
      cases hgoes
      exact .stopped pc error rfl hstop ⟨rfl, rfl⟩
  | write config =>
    simp only [State.updateConfig] at hstep
    split at hstep <;> cases hstep
    · exact .other rfl rfl ⟨rfl, rfl⟩ ⟨rfl, rfl, fun _ => rfl⟩ rfl
    · exact .other rfl rfl ⟨rfl, rfl⟩ ⟨rfl, rfl, fun _ => rfl⟩ rfl
  | start pc =>
    obtain ⟨⟨w, progress'⟩, hstart, hgoes⟩ := Option.map_eq_some_iff.mp hstep
    cases progress' with
    | goes pc' =>
      cases hgoes
      exact .start pc (.goes pc') rfl hstart rfl rfl
    | returns error =>
      cases hgoes
      exact .start pc (.returns error) rfl hstart rfl rfl

theorem next_moves {s u : State} {i : Nat} {env : Env} {call call' : Call}
    (h : s.next i env call = some (u, call')) : Moves s i env call u call' := by
  cases call with
  | start pc =>
    obtain ⟨⟨v, progress⟩, hstep, hcall⟩ := Option.map_eq_some_iff.mp h
    cases hcall
    cases progress with
    | goes pc' => exact .start pc (.goes pc') rfl hstep rfl rfl
    | returns error => exact .start pc (.returns error) rfl hstep rfl rfl
  | stop pc =>
    obtain ⟨⟨v, progress⟩, hstep, hcall⟩ := Option.map_eq_some_iff.mp h
    cases hcall
    cases progress with
    | goes pc' => exact .stops pc pc' rfl hstep rfl rfl
    | returns error => exact .stopped pc error rfl hstep ⟨rfl, rfl⟩
  | setEnabled pc => exact setEnabled_moves h
  | selectDevice pc => exact selectDevice_moves h
  | setQuality pc => exact setQuality_moves h
  | updateConfig pc => exact updateConfig_moves h
  | returned error => cases h

/-! ## One thread at a time -/

theorem silent_iff {s : State} : s.Silent ↔ ∀ x, s.alive x = false := by
  constructor
  · intro h x
    cases hx : s.streamers[x]? with
    | none => simp [State.alive, hx]
    | some streamer => simpa [State.alive, hx] using h streamer (List.mem_of_getElem? hx)
  · intro h streamer hmem
    obtain ⟨x, hx⟩ := List.mem_iff_getElem?.mp hmem
    simpa [State.alive, hx] using h x

/-- The threads that are alive, and the calls that have them. -/
structure Core (s : State) : Prop where
  one : ∀ (i j : Nat) (call call' : Call), s.calls[i]? = some call → s.calls[j]? = some call' → call.critical →
    call'.critical → i = j
  covered : ∀ (i : Nat) (call : Call) x, s.calls[i]? = some call → call.critical → s.alive x → call.starts x
  exclusive : ∀ x y, s.alive x → s.alive y → x = y
  held : ∀ x, s.alive x → s.streamer = some x ∨
    ∃ (i : Nat) (call : Call), s.calls[i]? = some call ∧ (call.starts x ∨ call.stops x)
  locked : ∀ (i : Nat) (call : Call), s.calls[i]? = some call → call.locked → s.lock = some i
  empty : s.lock ≠ none → s.streamer = none

theorem Start.begun_of_critical {pc : Start} (h : pc.critical) : pc.begun := by
  cases pc with
  | config => cases h
  | _ => rfl

/-- A call that has not begun to start is not past a check of its own. -/
theorem Call.Idle.not_critical {call : Call} (h : call.Idle) : call.critical = false := by
  refine eq_false_of_ne_true fun hcritical => ?_
  obtain ⟨pc, hpc, hcritical⟩ := (Option.any_eq_true _ _).mp hcritical
  have hbegun := h.1
  rw [Call.begun, hpc] at hbegun
  exact absurd (Start.begun_of_critical hcritical) (by simpa using hbegun)

theorem Start.holds_unique {pc : Start} {x y : Nat} (hx : pc.holds x) (hy : pc.holds y) :
    x = y := by
  cases pc with
  | spawn z | store z => exact (of_decide_eq_true hx).trans (of_decide_eq_true hy).symm
  | _ => cases hx

section

variable {s u : State} {i : Nat} {call call' : Call}

/-- A start past its check is alone. -/
theorem Core.alone (h : Core s) (hcall : s.calls[i]? = some call) (hcritical : call.critical) :
    s.AloneBut i := by
  intro j hj hji
  have hother : s.calls[j]? = some s.calls[j] := List.getElem?_eq_getElem hj
  rw [hother, Option.any_some]
  refine eq_false_of_ne_true fun hcritical' => hji ?_
  exact h.one j i _ _ hother hcall hcritical' hcritical

theorem alone_not_critical {j : Nat} {other : Call} (halone : s.AloneBut i) (hj : j ≠ i)
    (hother : s.calls[j]? = some other) : other.critical = false := by
  have hlt := (List.getElem?_eq_some_iff.mp hother).1
  simpa [hother] using halone j hlt hj

/-- What a step of call `i` has to keep. -/
theorem Core.advance (h : Core s) (hcall : s.calls[i]? = some call)
    (hone : call'.critical → s.AloneBut i)
    (hcovered : call'.critical → ∀ x, u.alive x → call'.starts x)
    (hgrow : ∀ x, u.alive x → s.alive x ∨ call.critical ∧ call'.starts x ∧ s.Silent)
    (hheld : ∀ x, u.alive x → s.alive x → s.streamer = some x ∨ call.starts x ∨ call.stops x →
      u.streamer = some x ∨ call'.starts x ∨ call'.stops x)
    (hlocked : call'.locked → u.lock = some i)
    (hlocks : ∀ j, j ≠ i → s.lock = some j → u.lock = some j)
    (hempty : u.lock ≠ none → u.streamer = none) :
    Core { u with calls := s.calls.set i call' } := by
  have hself : (s.calls.set i call')[i]? = some call' := getElem?_set_changed hcall _
  have hsingle {x y : Nat} (hx : call'.starts x) (hy : call'.starts y) : x = y := by
    simp only [Call.starts, Option.any_eq_true] at hx hy
    obtain ⟨pc, hpc, hx⟩ := hx
    obtain ⟨pc', hpc', hy⟩ := hy
    obtain rfl := Option.some.inj (hpc.symm.trans hpc')
    exact Start.holds_unique hx hy
  refine ⟨?_, ?_, ?_, ?_, ?_, hempty⟩
  · intro j k other other' hj hk hother hother'
    rcases getElem?_set_cases hj with ⟨rfl, rfl⟩ | ⟨hji, hj'⟩
    · rcases getElem?_set_cases hk with ⟨rfl, rfl⟩ | ⟨hki, hk'⟩
      · rfl
      · rw [alone_not_critical (hone hother) hki hk'] at hother'
        cases hother'
    · rcases getElem?_set_cases hk with ⟨rfl, rfl⟩ | ⟨hki, hk'⟩
      · rw [alone_not_critical (hone hother') hji hj'] at hother
        cases hother
      · exact h.one j k _ _ hj' hk' hother hother'
  · intro j other x hj hother hx
    rcases getElem?_set_cases hj with ⟨rfl, rfl⟩ | ⟨hji, hj⟩
    · exact hcovered hother x hx
    · rcases hgrow x hx with hold | ⟨hcritical, -, -⟩
      · exact h.covered j other x hj hother hold
      · exact absurd (h.one j i _ _ hj hcall hother hcritical) hji
  · intro x y hx hy
    rcases hgrow x hx with hold | ⟨-, hstart, hsilent⟩
    · rcases hgrow y hy with hold' | ⟨-, -, hsilent⟩
      · exact h.exclusive x y hold hold'
      · rw [silent_iff.mp hsilent x] at hold
        cases hold
    · rcases hgrow y hy with hold' | ⟨-, hstart', -⟩
      · rw [silent_iff.mp hsilent y] at hold'
        cases hold'
      · exact hsingle hstart hstart'
  · intro x hx
    have hmine (hx' : u.streamer = some x ∨ call'.starts x ∨ call'.stops x) :
        u.streamer = some x ∨ ∃ (j : Nat) (other : Call),
          (s.calls.set i call')[j]? = some other ∧ (other.starts x ∨ other.stops x) := by
      rcases hx' with hstored | hmine
      · exact .inl hstored
      · exact .inr ⟨i, call', hself, hmine⟩
    rcases hgrow x hx with hold | ⟨-, hstart, -⟩
    · rcases h.held x hold with hstored | ⟨j, other, hj, hother⟩
      · exact hmine (hheld x hx hold (.inl hstored))
      · by_cases hji : j = i
        · subst hji
          cases hcall.symm.trans hj
          exact hmine (hheld x hx hold (.inr hother))
        · exact .inr ⟨j, other, getElem?_set_kept hj hji, hother⟩
    · exact hmine (.inr (.inl hstart))
  · intro j other hj hother
    rcases getElem?_set_cases hj with ⟨rfl, rfl⟩ | ⟨hji, hj⟩
    · exact hlocked hother
    · exact hlocks j hji (h.locked j other hj hother)

/-- A step that leaves the stored streamer, the lock and the threads as they are. -/
theorem Core.frame (h : Core s) (hcall : s.calls[i]? = some call) (hframe : Frame s u)
    (hcritical : call'.critical → call.critical ∨ s.Silent ∧ s.AloneBut i)
    (hstarts : call'.critical → ∀ x, call.starts x → call'.starts x)
    (hholds : ∀ x, s.alive x → call.starts x ∨ call.stops x → call'.starts x ∨ call'.stops x)
    (hlocked : call'.locked → s.lock = some i) :
    Core { u with calls := s.calls.set i call' } := by
  obtain ⟨hstreamer, hlock, halive⟩ := hframe
  refine h.advance hcall ?_ ?_ ?_ ?_ ?_ ?_ ?_
  · intro hcritical'
    rcases hcritical hcritical' with hold | ⟨-, halone⟩
    · exact h.alone hcall hold
    · exact halone
  · intro hcritical' x hx
    rw [halive] at hx
    rcases hcritical hcritical' with hold | ⟨hsilent, -⟩
    · exact hstarts hcritical' x (h.covered i call x hcall hold hx)
    · rw [silent_iff.mp hsilent x] at hx
      cases hx
  · intro x hx
    exact .inl (halive x ▸ hx)
  · intro x _ hx hheld
    rcases hheld with hstored | hmine
    · exact .inl (hstreamer.trans hstored)
    · exact .inr (hholds x hx hmine)
  · exact fun hlocked' => hlock.trans (hlocked hlocked')
  · exact fun j _ hj => hlock.trans hj
  · rw [hlock, hstreamer]
    exact h.empty

theorem stopPc_of_startPc {pc : Start} (h : call.startPc = some pc) : call.stopPc = none := by
  cases call with
  | start | stop | setQuality | returned => first | rfl | cases h
  | setEnabled pc => cases h
  | selectDevice pc => cases pc <;> first | rfl | cases h
  | updateConfig pc => cases pc <;> first | rfl | cases h

theorem Core.startStreaming {env : Env} {pc : Start} {progress : Progress Start} (h : Core s)
    (hcall : s.calls[i]? = some call) (hpc : call.startPc = some pc) (hok : StartOk s i pc)
    (hstep : s.startStreaming env pc = some (u, progress)) (hnext : call'.startPc = progress.pc?)
    (hstop : call'.stopPc = none) : Core { u with calls := s.calls.set i call' } := by
  have hlocked : call'.locked = false := by rw [Call.locked, hstop]; rfl
  have hstops (x : Nat) : call.stops x = false := by
    rw [Call.stops, stopPc_of_startPc hpc]
    rfl
  have hcritical : call.critical = pc.critical := by rw [Call.critical, hpc]; rfl
  have hstarts (x : Nat) : call.starts x = pc.holds x := by rw [Call.starts, hpc]; rfl
  have hcritical' : call'.critical = progress.pc?.any (·.critical) := by
    rw [Call.critical, hnext]
  have hstarts' (x : Nat) : call'.starts x = progress.pc?.any (·.holds x) := by
    rw [Call.starts, hnext]
  cases pc with
  | config =>
    -- Neither the start before this step nor the one after it is critical.
    have hframe : Frame s u ∧ progress.pc?.any (·.critical) = false := by
      simp only [State.startStreaming] at hstep
      split at hstep <;> cases hstep
      · exact ⟨.refl s, rfl⟩
      · exact ⟨.refl s, rfl⟩
    refine h.frame hcall hframe.1 ?_ ?_ ?_ ?_
    all_goals simp [hcritical', hframe.2, hstarts, hstops, hlocked, Start.holds]
  | check config =>
    simp only [State.startStreaming] at hstep
    split at hstep
    · split at hstep <;> cases hstep
      · refine h.frame hcall (.refl s) ?_ ?_ ?_ ?_
        all_goals simp [hcritical', Progress.pc?, hstarts, hstops, hlocked, Start.holds]
      · rename_i hstreaming
        refine h.frame hcall ⟨rfl, rfl, fun _ => rfl⟩ ?_ ?_ ?_ ?_
        · exact fun _ => .inr (hok (eq_false_of_ne_true hstreaming))
        all_goals simp [hstarts, hstops, hlocked, Start.holds]
    · cases hstep
  | create config =>
    have hframe : Frame s u := by
      simp only [State.startStreaming] at hstep
      split at hstep <;> cases hstep
      · exact ⟨rfl, rfl, alive_append rfl⟩
      · exact ⟨rfl, rfl, alive_append rfl⟩
    refine h.frame hcall hframe ?_ ?_ ?_ ?_
    all_goals simp [hcritical, hstarts, hstops, hlocked, Start.critical, Start.holds]
  | capture x =>
    -- The only step that begins a thread; the start was alone, and there was none.
    cases hstep
    have hsilent : s.Silent := by
      refine silent_iff.mpr fun y => eq_false_of_ne_true fun hy => ?_
      have hholds := h.covered i call y hcall hcritical hy
      rw [hstarts] at hholds
      cases hholds
    have halive {y : Nat} (hy : (s.update x fun streamer => { streamer with
        capturer := { streamer.capturer with thread := .opening } }).alive y) : y = x := by
      rw [alive_update] at hy
      split at hy
      · rename_i hxy
        exact hxy.symm
      · rw [silent_iff.mp hsilent y] at hy
        cases hy
    refine h.advance hcall (fun _ => h.alone hcall hcritical) ?_ ?_ ?_ ?_ ?_ h.empty
    · intro _ y hy
      rw [hstarts']
      exact decide_eq_true (halive hy)
    · intro y hy
      refine .inr ⟨hcritical, ?_, hsilent⟩
      rw [hstarts']
      exact decide_eq_true (halive hy)
    · intro y _ hy
      rw [silent_iff.mp hsilent y] at hy
      cases hy
    · simp [hlocked]
    · exact fun _ _ hj => hj
  | spawn x =>
    cases hstep
    refine h.frame hcall ⟨rfl, rfl, alive_update_same fun _ => rfl⟩ ?_ ?_ ?_ ?_
    · exact fun _ => .inl hcritical
    · intro _ y hy
      rw [hstarts] at hy
      rw [hstarts']
      exact hy
    · intro y _ hy
      rw [hstarts, hstops] at hy
      rw [hstarts']
      exact hy.imp_right (by simp)
    · simp [hlocked]
  | store x =>
    simp only [State.startStreaming] at hstep
    split at hstep
    · rename_i hlock
      cases hstep
      refine h.advance hcall ?_ ?_ (fun y hy => .inl hy) ?_ ?_ ?_ ?_
      · simp [hcritical', Progress.pc?]
      · simp [hcritical', Progress.pc?]
      · intro y _ hy _
        -- What the store overwrites has no thread.
        have hholds := h.covered i call y hcall hcritical hy
        rw [hstarts] at hholds
        exact .inl (congrArg some (of_decide_eq_true hholds).symm)
      · simp [hlocked]
      · exact fun _ _ hj => hj
      · exact fun hne => absurd hlock hne
    · cases hstep

theorem startPc_of_stopPc {pc : Stop} (h : call.stopPc = some pc) : call.startPc = none := by
  cases hpc : call.startPc with
  | none => rfl
  | some pc' => cases (stopPc_of_startPc hpc).symm.trans h

/-- A step that ends a stop: nobody else has the lock that it lets go of. -/
theorem Core.unlock (h : Core s) (hcall : s.calls[i]? = some call) (hlocked : call.locked)
    (hidle : call'.Idle) (hstarts : ∀ x, call.starts x = false) (hlock : u.lock = none)
    (hstreamer : u.streamer = s.streamer) (halive : ∀ x, u.alive x = s.alive x)
    (hstops : ∀ x, call.stops x → s.alive x = false) :
    Core { u with calls := s.calls.set i call' } := by
  have hmine := h.locked i call hcall hlocked
  refine h.advance hcall ?_ ?_ ?_ ?_ ?_ ?_ ?_
  · simp [hidle.not_critical]
  · simp [hidle.not_critical]
  · exact fun x hx => .inl (halive x ▸ hx)
  · intro x _ hx hheld
    rcases hheld with hstored | hstart | hstop
    · exact .inl (hstreamer.trans hstored)
    · simp [hstarts] at hstart
    · simp [hstops x hstop] at hx
  · simp [hidle.2]
  · intro j hji hj
    exact absurd (Option.some.inj (hj.symm.trans hmine)) hji
  · exact fun hne => absurd hlock hne

theorem Core.stopStreaming_goes {pc pc' : Stop} (h : Core s) (hcall : s.calls[i]? = some call)
    (hpc : call.stopPc = some pc) (hstep : s.stopStreaming i pc = some (u, .goes pc'))
    (hnext : call'.stopPc = some pc') (hstart : call'.startPc = none) :
    Core { u with calls := s.calls.set i call' } := by
  have hcritical' : call'.critical = false := by rw [Call.critical, hstart]; rfl
  have hstarts (x : Nat) : call.starts x = false := by
    rw [Call.starts, startPc_of_stopPc hpc]
    rfl
  have hstops (x : Nat) : call.stops x = pc.holds x := by rw [Call.stops, hpc]; rfl
  have hstops' (x : Nat) : call'.stops x = pc'.holds x := by rw [Call.stops, hnext]; rfl
  have hlocked : call.locked = pc.locked := by rw [Call.locked, hpc]; rfl
  cases pc with
  | take =>
    simp only [State.stopStreaming] at hstep
    split at hstep
    · rename_i hlock
      split at hstep <;> cases hstep
      rename_i x hstreamer
      refine h.advance hcall ?_ ?_ (fun y hy => .inl hy) ?_ (fun _ => rfl) ?_ (fun _ => rfl)
      · simp [hcritical']
      · simp [hcritical']
      · intro y _ _ hheld
        rcases hheld with hstored | hother | hother
        · -- The thread of what was stored is now the stop's.
          refine .inr (.inr ?_)
          rw [hstops']
          exact decide_eq_true (Option.some.inj (hstored.symm.trans hstreamer))
        · simp [hstarts] at hother
        · simp [hstops, Stop.holds] at hother
      · intro j _ hj
        cases hlock.symm.trans hj
    · cases hstep
  | signal x =>
    simp only [State.stopStreaming] at hstep
    split at hstep <;> cases hstep
    refine h.frame hcall ⟨rfl, rfl, alive_update_same fun _ => rfl⟩ ?_ ?_ ?_ ?_
    · simp [hcritical']
    · simp [hcritical']
    · intro y _ hy
      rw [hstarts, hstops] at hy
      rw [hstops']
      exact .inr (hy.resolve_left (by simp))
    · exact fun _ => h.locked i call hcall hlocked
  | wait x =>
    simp only [State.stopStreaming] at hstep
    split at hstep <;> cases hstep
    rename_i hended
    refine h.frame hcall ⟨rfl, rfl, alive_update_same fun _ => rfl⟩ ?_ ?_ ?_ ?_
    · simp [hcritical']
    · simp [hcritical']
    · intro y hy hheld
      rw [hstarts, hstops] at hheld
      obtain rfl : y = x := of_decide_eq_true (hheld.resolve_left (by simp))
      exact absurd hy hended
    · exact fun _ => h.locked i call hcall hlocked
  | clear x => cases hstep

theorem Core.stopStreaming_returns {pc : Stop} {error : Option String} (h : Core s)
    (hcall : s.calls[i]? = some call) (hpc : call.stopPc = some pc) (hok : StopOk s pc)
    (hstep : s.stopStreaming i pc = some (u, .returns error)) (hidle : call'.Idle) :
    Core { u with calls := s.calls.set i call' } := by
  have hstarts (x : Nat) : call.starts x = false := by
    rw [Call.starts, startPc_of_stopPc hpc]
    rfl
  have hstops (x : Nat) : call.stops x = pc.holds x := by rw [Call.stops, hpc]; rfl
  have hlocked : call.locked = pc.locked := by rw [Call.locked, hpc]; rfl
  cases pc with
  | take =>
    simp only [State.stopStreaming] at hstep
    split at hstep
    · split at hstep <;> cases hstep
      refine h.frame hcall (.refl s) ?_ ?_ ?_ ?_
      · simp [hidle.not_critical]
      · simp [hidle.not_critical]
      · simp [hstarts, hstops, Stop.holds]
      · simp [hidle.2]
    · cases hstep
  | signal x =>
    simp only [State.stopStreaming] at hstep
    split at hstep <;> cases hstep
    rename_i hstopped
    refine h.unlock hcall hlocked hidle hstarts rfl rfl (fun _ => rfl) ?_
    intro y hy
    rw [hstops] at hy
    obtain rfl : y = x := of_decide_eq_true hy
    exact hok hstopped
  | wait x =>
    simp only [State.stopStreaming] at hstep
    split at hstep <;> cases hstep
  | clear x =>
    cases hstep
    refine h.unlock hcall hlocked hidle hstarts rfl rfl (alive_update_same fun _ => rfl) ?_
    simp [hstops, Stop.holds]

/-- A step of a call that meets the condition. -/
theorem Core.moves {env : Env} (h : Core s) (hcall : s.calls[i]? = some call)
    (hmoves : Moves s i env call u call') (hok : CallOk s i call) :
    Core { u with calls := s.calls.set i call' } := by
  cases hmoves with
  | start pc progress hpc hstep hnext hstop =>
    exact h.startStreaming hcall hpc (hok.1 pc hpc) hstep hnext hstop
  | stops pc pc' hpc hstep hnext hstart =>
    exact h.stopStreaming_goes hcall hpc hstep hnext hstart
  | stopped pc error hpc hstep hidle =>
    exact h.stopStreaming_returns hcall hpc (hok.2.1 pc hpc) hstep hidle
  | other hstart hstop hidle hframe henabled =>
    refine h.frame hcall hframe ?_ ?_ ?_ ?_
    · simp [hidle.not_critical]
    · simp [hidle.not_critical]
    · simp [Call.starts, Call.stops, hstart, hstop]
    · simp [hidle.2]

/-- What is left of the threads when a capture thread or a streaming task has moved. -/
theorem Core.shrink (h : Core s) (hcalls : u.calls = s.calls) (hstreamer : u.streamer = s.streamer)
    (hlock : u.lock = s.lock) (halive : ∀ x, u.alive x → s.alive x) : Core u where
  one := by
    rw [hcalls]
    exact h.one
  covered := by
    rw [hcalls]
    exact fun i call x hcall hcritical hx => h.covered i call x hcall hcritical (halive x hx)
  exclusive x y hx hy := h.exclusive x y (halive x hx) (halive y hy)
  held x hx := by
    rw [hcalls, hstreamer]
    exact h.held x (halive x hx)
  locked := by
    rw [hcalls, hlock]
    exact h.locked
  empty := by
    rw [hstreamer, hlock]
    exact h.empty

theorem Core.called (h : Core s) (hidle : call'.Idle) : Core (s.call call') where
  one i j c c' hi hj hc hc' := by
    rcases getElem?_concat_cases hi with ⟨-, rfl⟩ | hi
    · simp [hidle.not_critical] at hc
    · rcases getElem?_concat_cases hj with ⟨-, rfl⟩ | hj
      · simp [hidle.not_critical] at hc'
      · exact h.one i j c c' hi hj hc hc'
  covered i c x hi hc hx := by
    rcases getElem?_concat_cases hi with ⟨-, rfl⟩ | hi
    · simp [hidle.not_critical] at hc
    · exact h.covered i c x hi hc hx
  exclusive := h.exclusive
  held x hx := by
    refine (h.held x hx).imp_right ?_
    rintro ⟨i, c, hi, hc⟩
    exact ⟨i, c, getElem?_append_kept hi, hc⟩
  locked i c hi hc := by
    rcases getElem?_concat_cases hi with ⟨-, rfl⟩ | hi
    · simp [hidle.2] at hc
    · exact h.locked i c hi hc
  empty := h.empty

end

/-! ## No thread while audio is disabled -/

/-- While audio is disabled a disabling has still to look for a streamer, or there is no start and
no thread but the one that a disabling is about to end. -/
def Disabled (s : State) : Prop :=
  s.config.enabled = false →
    (∃ i : Nat, s.calls[i]? = some (.setEnabled (.check false))) ∨
      s.Unstarted ∧ (s.Silent ∨
        ∃ (i : Nat) (pc : Stop), s.calls[i]? = some (.setEnabled (.stop pc)) ∧ pc.awaits)

section

variable {s u : State} {i : Nat} {call call' : Call} {env : Env}

theorem Start.critical_of_holds {pc : Start} {x : Nat} (h : pc.holds x) : pc.critical := by
  cases pc with
  | spawn | store => rfl
  | _ => cases h

theorem Stop.locked_of_holds {pc : Stop} {x : Nat} (h : pc.holds x) : pc.locked := by
  cases pc with
  | take => cases h
  | _ => rfl

theorem startStreaming_config {pc : Start} {progress : Progress Start}
    (h : s.startStreaming env pc = some (u, progress)) : u.config = s.config := by
  cases pc with
  | config | create | store =>
    simp only [State.startStreaming] at h
    split at h <;> cases h <;> rfl
  | check =>
    simp only [State.startStreaming] at h
    split at h
    · split at h <;> cases h <;> rfl
    · cases h
  | capture | spawn =>
    cases h
    rfl

theorem stopStreaming_frame {pc : Stop} {progress : Progress Stop}
    (h : s.stopStreaming i pc = some (u, progress)) :
    u.config = s.config ∧ ∀ x, u.alive x = s.alive x := by
  cases pc with
  | take =>
    simp only [State.stopStreaming] at h
    split at h
    · split at h <;> cases h <;> exact ⟨rfl, fun _ => rfl⟩
    · cases h
  | signal x =>
    simp only [State.stopStreaming] at h
    split at h <;> cases h
    · exact ⟨rfl, fun _ => rfl⟩
    · exact ⟨rfl, alive_update_same fun _ => rfl⟩
  | wait x =>
    simp only [State.stopStreaming] at h
    split at h <;> cases h
    exact ⟨rfl, alive_update_same fun _ => rfl⟩
  | clear x =>
    cases h
    exact ⟨rfl, alive_update_same fun _ => rfl⟩

/-- Without a start and with nothing stored, the threads are those of a stop. -/
theorem Core.silent (h : Core s) (hunstarted : s.Unstarted) (hstored : s.streamer = none)
    (hstops : ∀ (j : Nat) (other : Call) (x : Nat), s.calls[j]? = some other → other.stops x →
      s.alive x = false) : s.Silent := by
  refine silent_iff.mpr fun x => eq_false_of_ne_true fun hx => ?_
  rcases h.held x hx with hstreamer | ⟨j, other, hj, hstart | hstop⟩
  · cases hstored.symm.trans hstreamer
  · obtain ⟨pc, hpc, hholds⟩ := (Option.any_eq_true _ _).mp hstart
    have hbegun := hunstarted other (List.mem_of_getElem? hj)
    rw [Call.begun, hpc] at hbegun
    exact absurd (Start.begun_of_critical (Start.critical_of_holds hholds)) (by simpa using hbegun)
  · rw [hstops j other x hj hstop] at hx
    cases hx

/-- The thread of the streamer that a stop has taken is the last. -/
theorem Core.silent_of_locked {x : Nat} (h : Core s) (hunstarted : s.Unstarted)
    (hcall : s.calls[i]? = some call) (hlocked : call.locked) (hholds : ∀ y, call.stops y → y = x)
    (hended : s.alive x = false) : s.Silent := by
  have hlock := h.locked i call hcall hlocked
  refine h.silent hunstarted (h.empty (by simp [hlock])) ?_
  intro j other y hj hstop
  obtain ⟨pc, hpc, hpcholds⟩ := (Option.any_eq_true _ _).mp hstop
  have hother : other.locked := by
    rw [Call.locked, hpc]
    exact Stop.locked_of_holds hpcholds
  obtain rfl := Option.some.inj (hlock.symm.trans (h.locked j other hj hother))
  obtain rfl := Option.some.inj (hcall.symm.trans hj)
  rw [hholds y hstop]
  exact hended

/-- The calls that are left are no starts either. -/
theorem unstarted_set (h : s.Unstarted) (hidle : call'.begun = false) :
    ({ u with calls := s.calls.set i call' } : State).Unstarted := by
  intro other hother
  rcases List.mem_or_eq_of_mem_set hother with hold | rfl
  · exact h other hold
  · exact hidle

/-- Without a start and with audio disabled no step begins one, and none begins a thread. -/
theorem Moves.quiet (h : Moves s i env call u call') (hunstarted : s.Unstarted)
    (hcall : s.calls[i]? = some call) (henabled : s.config.enabled = false) :
    call'.begun = false ∧ ∀ x, u.alive x = s.alive x := by
  cases h with
  | start pc progress hpc hstep hnext hstop =>
    have hbegun := hunstarted call (List.mem_of_getElem? hcall)
    rw [Call.begun, hpc] at hbegun
    cases pc with
    | config =>
      simp only [State.startStreaming, henabled] at hstep
      cases hstep
      rw [Call.begun, hnext]
      exact ⟨rfl, fun _ => rfl⟩
    | _ => cases hbegun
  | stops pc pc' hpc hstep hnext hstart =>
    rw [Call.begun, hstart]
    exact ⟨rfl, (stopStreaming_frame hstep).2⟩
  | stopped pc error hpc hstep hidle => exact ⟨hidle.1, (stopStreaming_frame hstep).2⟩
  | other hstart hstop hidle hframe henabled => exact ⟨hidle.1, hframe.2.2⟩

theorem Moves.enabled (h : Moves s i env call u call') :
    u.config.enabled = call.writes.getD s.config.enabled := by
  have hwrites (hpc : call.startPc ≠ none ∨ call.stopPc ≠ none) : call.writes = none := by
    cases call with
    | setEnabled pc => cases pc <;> simp_all [Call.startPc, Call.stopPc, Call.writes]
    | updateConfig pc => cases pc <;> simp_all [Call.startPc, Call.stopPc, Call.writes]
    | _ => rfl
  cases h with
  | start pc progress hpc hstep _ _ =>
    rw [hwrites (.inl (by simp [hpc])), startStreaming_config hstep]
    rfl
  | stops pc pc' hpc hstep _ _ | stopped pc error hpc hstep _ =>
    rw [hwrites (.inr (by simp [hpc])), (stopStreaming_frame hstep).1]
    rfl
  | other _ _ _ _ henabled => exact henabled

/-- A disabling that stops a streamer is still about to end its thread, or there is none left. -/
theorem silent_or_awaits {pc : Stop} (hcore : Core s) (hunstarted : s.Unstarted)
    (hcall : s.calls[i]? = some (.setEnabled (.stop pc))) (hok : StopOk s pc)
    (hnext : s.next i env (.setEnabled (.stop pc)) = some (u, call')) (hawaits : pc.awaits) :
    s.Silent ∨ ∃ pc' : Stop, call' = .setEnabled (.stop pc') ∧ pc'.awaits := by
  obtain ⟨⟨v, progress⟩, hstep, hgoes⟩ := Option.map_eq_some_iff.mp hnext
  cases hgoes
  obtain ⟨⟨w, progress'⟩, hstep, hgoes⟩ := Option.map_eq_some_iff.mp hstep
  cases pc with
  | take =>
    simp only [State.stopStreaming] at hstep
    split at hstep
    · rename_i hlock
      split at hstep <;> cases hstep
      · cases hgoes
        exact .inr ⟨_, rfl, rfl⟩
      · rename_i hstored
        refine .inl (hcore.silent hunstarted hstored ?_)
        intro j other x hj hstop
        obtain ⟨pc, hpc, hholds⟩ := (Option.any_eq_true _ _).mp hstop
        have hlocked : other.locked := by
          rw [Call.locked, hpc]
          exact Stop.locked_of_holds hholds
        cases hlock.symm.trans (hcore.locked j other hj hlocked)
    · cases hstep
  | signal x =>
    simp only [State.stopStreaming] at hstep
    split at hstep <;> cases hstep
    · rename_i hstopped
      exact .inl (hcore.silent_of_locked hunstarted hcall rfl (fun y hy => of_decide_eq_true hy)
        (hok hstopped))
    · cases hgoes
      exact .inr ⟨_, rfl, rfl⟩
  | wait x =>
    simp only [State.stopStreaming] at hstep
    split at hstep <;> cases hstep
    rename_i hended
    exact .inl (hcore.silent_of_locked hunstarted hcall rfl (fun y hy => of_decide_eq_true hy)
      (eq_false_of_ne_true hended))
  | clear x => cases hawaits

/-- A step that is not a disabling's look nor its write. -/
theorem Disabled.ordinary (h : Disabled s) (hcore : Core s) (hcall : s.calls[i]? = some call)
    (hnext : s.next i env call = some (u, call')) (hok : CallOk s i call)
    (hwrites : call.writes = none) (hcheck : call ≠ .setEnabled (.check false)) :
    Disabled { u with calls := s.calls.set i call' } := by
  have hmoves := next_moves hnext
  intro henabled
  have hold : s.config.enabled = false := by
    have heq := hmoves.enabled
    rw [hwrites] at heq
    exact heq.symm.trans henabled
  rcases h hold with ⟨j, hj⟩ | ⟨hunstarted, hthreads⟩
  · have hji : j ≠ i := by
      rintro rfl
      exact hcheck (Option.some.inj (hcall.symm.trans hj))
    exact .inl ⟨j, getElem?_set_kept hj hji⟩
  · obtain ⟨hbegun, halive⟩ := hmoves.quiet hunstarted hcall hold
    have hquiet (hsilent : s.Silent) : ({ u with calls := s.calls.set i call' } : State).Silent :=
      silent_iff.mpr fun x => (halive x).trans (silent_iff.mp hsilent x)
    refine .inr ⟨unstarted_set hunstarted hbegun, ?_⟩
    rcases hthreads with hsilent | ⟨j, pc, hj, hawaits⟩
    · exact .inl (hquiet hsilent)
    · by_cases hji : j = i
      · subst hji
        obtain rfl := Option.some.inj (hcall.symm.trans hj)
        rcases silent_or_awaits hcore hunstarted hcall (hok.2.1 pc rfl) hnext hawaits with
          hsilent | ⟨pc', rfl, hawaits'⟩
        · exact .inl (hquiet hsilent)
        · exact .inr ⟨j, pc', getElem?_set_changed hcall _, hawaits'⟩
      · exact .inr ⟨j, pc, getElem?_set_kept hj hji, hawaits⟩

/-- Another disabling is still to look. -/
theorem disabling_set (h : s.DisablingBut i) :
    ∃ j : Nat, (s.calls.set i call')[j]? = some (.setEnabled (.check false)) := by
  obtain ⟨j, -, hji, hj⟩ := h
  exact ⟨j, getElem?_set_kept hj hji⟩

theorem Disabled.check (hcall : s.calls[i]? = some (.setEnabled (.check false)))
    (hnext : s.next i env (.setEnabled (.check false)) = some (u, call'))
    (hok : DisableOk s i (.setEnabled (.check false))) :
    Disabled { u with calls := s.calls.set i call' } := by
  obtain ⟨⟨v, progress⟩, hstep, hgoes⟩ := Option.map_eq_some_iff.mp hnext
  simp only [State.setEnabled, Bool.false_eq_true, if_false] at hstep
  split at hstep
  · split at hstep <;> cases hstep <;> cases hgoes
    · intro henabled
      rcases hok henabled with hdisabling | ⟨hunstarted, -⟩
      · exact .inl (disabling_set hdisabling)
      · exact .inr ⟨unstarted_set hunstarted rfl, .inr ⟨i, .take, getElem?_set_changed hcall _, rfl⟩⟩
    · rename_i hstreaming
      intro henabled
      rcases hok henabled with hdisabling | ⟨hunstarted, hsilent⟩
      · exact .inl (disabling_set hdisabling)
      · exact .inr ⟨unstarted_set hunstarted rfl, .inl (hsilent (eq_false_of_ne_true hstreaming))⟩
  · cases hstep

theorem Disabled.configure {config : AudioControllerConfig}
    (hnext : s.next i env (.updateConfig (.write config)) = some (u, call'))
    (hok : DisableOk s i (.updateConfig (.write config))) :
    Disabled { u with calls := s.calls.set i call' } := by
  obtain ⟨⟨v, progress⟩, hstep, hgoes⟩ := Option.map_eq_some_iff.mp hnext
  simp only [State.updateConfig] at hstep
  intro henabled
  split at hstep <;> cases hstep <;> cases hgoes
  · rename_i hconfig
    cases hconfig.symm.trans henabled
  · rcases hok henabled with hdisabling | ⟨hunstarted, hsilent⟩
    · exact .inl (disabling_set hdisabling)
    · exact .inr ⟨unstarted_set hunstarted rfl, .inl hsilent⟩

theorem Disabled.next (h : Disabled s) (hcore : Core s) (hcall : s.calls[i]? = some call)
    (hnext : s.next i env call = some (u, call')) (hok : CallOk s i call) :
    Disabled { u with calls := s.calls.set i call' } := by
  by_cases hordinary : call.writes = none ∧ call ≠ .setEnabled (.check false)
  · exact h.ordinary hcore hcall hnext hok hordinary.1 hordinary.2
  · cases call with
    | setEnabled pc =>
      cases pc with
      | write enabled =>
        cases hnext
        intro henabled
        obtain rfl : enabled = false := henabled
        exact .inl ⟨i, getElem?_set_changed hcall _⟩
      | check enabled =>
        cases enabled with
        | true => exact absurd ⟨rfl, by simp⟩ hordinary
        | false => exact .check hcall hnext hok.2.2
      | stop pc => exact absurd ⟨rfl, by simp⟩ hordinary
    | updateConfig pc =>
      cases pc with
      | write config => exact .configure hnext hok.2.2
      | check | stop | start => exact absurd ⟨rfl, by simp⟩ hordinary
    | start | stop | selectDevice | setQuality | returned => exact absurd ⟨rfl, by simp⟩ hordinary

/-- What the capture threads and the streaming tasks do. -/
theorem Disabled.shrink (h : Disabled s) (hcalls : u.calls = s.calls)
    (hconfig : u.config = s.config) (halive : ∀ x, u.alive x → s.alive x) : Disabled u := by
  intro henabled
  rw [State.Unstarted, hcalls]
  refine (h (hconfig ▸ henabled)).imp_right (And.imp_right (Or.imp_left fun hsilent => ?_))
  refine silent_iff.mpr fun x => eq_false_of_ne_true fun hx => ?_
  simpa [silent_iff.mp hsilent x] using halive x hx

theorem Disabled.called (h : Disabled s) (hidle : call'.Idle) : Disabled (s.call call') := by
  have hkept {j : Nat} {other : Call} (hj : s.calls[j]? = some other) :
      (s.calls ++ [call'])[j]? = some other := getElem?_append_kept hj
  intro henabled
  rcases h henabled with ⟨j, hj⟩ | ⟨hunstarted, hthreads⟩
  · exact .inl ⟨j, hkept hj⟩
  · refine .inr ⟨?_, ?_⟩
    · intro other hother
      rcases List.mem_append.mp hother with hold | hnew
      · exact hunstarted other hold
      · rw [List.mem_singleton.mp hnew]
        exact hidle.1
    · refine hthreads.imp_right ?_
      rintro ⟨j, pc, hj, hawaits⟩
      exact ⟨j, pc, hkept hj, hawaits⟩

end

/-! ## Runs -/

section

variable {s t : State}

/-- Only a thread that is alive takes a step. -/
theorem alive_of_step {x : AudioStreamer} {c : AudioCapturer} {e : CaptureStep}
    (h : x.capturer.step e = some c) : x.alive := by
  cases e with
  | opens | openFails =>
    simp only [AudioCapturer.step] at h
    split at h
    · rename_i hthread
      simp [AudioStreamer.alive, hthread]
    · cases h
  | stops =>
    simp only [AudioCapturer.step] at h
    split at h
    · rename_i hthread
      simp [AudioStreamer.alive, hthread.1]
    · cases h

theorem taskStep_alive {x x' : AudioStreamer} {e : TaskStep} (h : x.taskStep e = some x') :
    x'.alive = x.alive := by
  cases e with
  | begins | stopped | captureError | timeout | exit =>
    simp only [AudioStreamer.taskStep] at h
    split at h <;> cases h
    rfl

/-- A streamer that is alive after a change was alive before it. -/
theorem alive_of_update {x y : Nat} {f : AudioStreamer → AudioStreamer} {streamer : AudioStreamer}
    (hx : s.streamers[x]? = some streamer) (hf : (f streamer).alive → streamer.alive)
    (h : (s.update x f).alive y) : s.alive y := by
  rw [alive_update] at h
  split at h
  · rename_i hxy
    subst hxy
    rw [hx, Option.any_some] at h
    rw [State.alive, hx, Option.any_some]
    exact hf h
  · exact h

theorem inv_step {event : Event} (hcore : Core s) (hdisabled : Disabled s)
    (h : step s event = some t) (hok : StepOk s event) : Core t ∧ Disabled t := by
  cases event with
  | startStreaming | stopStreaming | setEnabled | selectDevice | setQuality | updateConfig =>
    cases h
    exact ⟨hcore.called ⟨rfl, rfl⟩, hdisabled.called ⟨rfl, rfl⟩⟩
  | advance i env =>
    obtain ⟨call, hcall, h⟩ := Option.bind_eq_some_iff.mp h
    obtain ⟨⟨u, call'⟩, hnext, rfl⟩ := Option.map_eq_some_iff.mp h
    exact ⟨hcore.moves hcall (next_moves hnext) (hok call hcall),
      hdisabled.next hcore hcall hnext (hok call hcall)⟩
  | capture x e =>
    obtain ⟨streamer, hx, h⟩ := Option.bind_eq_some_iff.mp h
    obtain ⟨capturer, hstep, rfl⟩ := Option.map_eq_some_iff.mp h
    have halive (y : Nat) (hy : (s.update x ({ · with capturer })).alive y) : s.alive y :=
      alive_of_update hx (fun _ => alive_of_step hstep) hy
    exact ⟨hcore.shrink rfl rfl rfl halive, hdisabled.shrink rfl rfl halive⟩
  | task x e =>
    obtain ⟨streamer, hx, h⟩ := Option.bind_eq_some_iff.mp h
    obtain ⟨streamer', hstep, rfl⟩ := Option.map_eq_some_iff.mp h
    have halive (y : Nat) (hy : (s.update x fun _ => streamer').alive y) : s.alive y :=
      alive_of_update hx (fun hy' => taskStep_alive hstep ▸ hy') hy
    exact ⟨hcore.shrink rfl rfl rfl halive, hdisabled.shrink rfl rfl halive⟩

end

/-- In every run whose steps all meet the condition, one capture thread is alive at a time, and
none once all calls have returned with audio disabled. -/
theorem exclusive_of_ok {s : State} (h : (system.restrict StepOk).Reachable s) : Exclusive s := by
  obtain ⟨hcore, hdisabled⟩ : Core s ∧ Disabled s := by
    refine TSys.invariant (I := fun s => Core s ∧ Disabled s) ?_ ?_ h
    · rintro s ⟨config, rfl⟩
      have hnone (x : Nat) : ({ config } : State).alive x = false := rfl
      constructor
      · constructor <;> simp [hnone]
      · exact fun _ => .inr ⟨by simp [State.Unstarted], .inl (by simp [State.Silent])⟩
    · intro s event t hinv hstep
      exact inv_step hinv.1 hinv.2 hstep.1 hstep.2
  refine ⟨hcore.exclusive, fun hreturned henabled => ?_⟩
  rcases hdisabled henabled with ⟨i, hi⟩ | ⟨-, hsilent | ⟨i, pc, hi, -⟩⟩
  · cases hreturned _ (List.mem_of_getElem? hi)
  · exact hsilent
  · cases hreturned _ (List.mem_of_getElem? hi)

section

private def config : AudioControllerConfig := { enabled := true }

/-- A start that is not over when its streamer runs, and a disabling that stops it. -/
private def startedAndDisabled : List Event :=
  [.startStreaming, .advance 0 {}, .advance 0 {}, .advance 0 {}, .advance 0 {}, .advance 0 {},
    .capture 0 .opens, .task 0 .begins, .advance 0 {}, .setEnabled false, .advance 1 {},
    .advance 1 {}, .advance 1 {}, .advance 1 {}, .capture 0 .stops, .advance 1 {}, .advance 1 {},
    .task 0 .stopped, .task 0 .exit]

private def twoStarts : List Event :=
  [.startStreaming, .startStreaming, .advance 0 {}, .advance 1 {}, .advance 0 {}, .advance 1 {},
    .advance 0 {}, .advance 1 {}, .advance 0 {}, .advance 1 {}]

/-- A run that meets the condition to its end. -/
theorem started_and_disabled :
    ∃ s, (system.restrict StepOk).Reachable s ∧ (∀ call ∈ s.calls, call.isReturned) ∧
      s.config.enabled = false ∧ s.streamers.length = 1 ∧ Exclusive s := by
  have hrun : (startedAndDisabled.foldlM (fun s e => if StepOk s e then step s e else none)
      { config }).any (fun s => (∀ call ∈ s.calls, call.isReturned) ∧ s.config.enabled = false ∧
        s.streamers.length = 1) := by decide +kernel
  obtain ⟨s, hs, hend⟩ := (Option.any_eq_true _ _).mp hrun
  obtain ⟨hreturned, henabled, hlength⟩ := of_decide_eq_true hend
  have hreach : (system.restrict StepOk).Reachable s :=
    TSys.ofFn_restrict_reachable (.init ⟨config, rfl⟩) hs
  exact ⟨s, hreach, hreturned, henabled, hlength, exclusive_of_ok hreach⟩

/-- Two starts both look before either has stored its streamer. -/
theorem two_streamers : ¬∀ s, system.Reachable s → Exclusive s := by
  intro hall
  have hrun : (twoStarts.foldlM step { config }).any (fun s => s.alive 0 ∧ s.alive 1) := by
    decide +kernel
  obtain ⟨s, hs, hend⟩ := (Option.any_eq_true _ _).mp hrun
  obtain ⟨hzero, hone⟩ := of_decide_eq_true hend
  have hreach : system.Reachable s := TSys.ofFn_reachable (.init ⟨config, rfl⟩) hs
  cases (hall s hreach).1 0 1 hzero hone

end

end StreamBox.Audio
