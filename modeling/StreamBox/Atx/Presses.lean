import StreamBox.Atx.Executor
import StreamBox.Lib.Slots
import StreamBox.Lib.TSys

/-!
# Presses of the ATX keys

`trigger_power_action` by any number of requests at once. A press sets its line active, sleeps
and sets it inactive; nothing keeps another press off the line meanwhile, and a request whose
client is gone is dropped at the sleep.

* **Lines** — `inv_step`: a line that has not been released since an activation is active.
* **Long presses** — `long_pressed_iff`: in a run every long press keeps the power line active
  just when no other press of the line ends during it.
* **Release** — `released_iff`: in a run a press leaves its line active just when it is dropped
  at its sleep.
* **Failures** — `short_ends_long`, `dropped_active`.
-/

namespace StreamBox.Atx

open StreamBox.Lib
open StreamBox.Config.Sections (AppError)

inductive AtxAction
  | short
  | long
  | reset
  deriving DecidableEq, Repr

/-! ## Requests -/

/-- The action of a request to `atx_power`. -/
def AtxAction.parse : String → Option AtxAction
  | "short" => some .short
  | "long" => some .long
  | "reset" => some .reset
  | _ => none

/-- `timing`, in milliseconds. -/
def AtxAction.duration : AtxAction → Nat
  | .short => 500
  | .long => 5000
  | .reset => 500

def AtxAction.message : AtxAction → String
  | .short => "Power short press executed"
  | .long => "Power long press (force off) executed"
  | .reset => "Reset button pressed"

/-- The error of an action whose key has no executor. -/
def AtxAction.missing : AtxAction → AppError
  | .short | .long => .config "Power button not configured for ATX controller"
  | .reset => .config "Reset button not configured for ATX controller"

def unknownAction (name : String) : AppError :=
  .badRequest ("Unknown ATX action: " ++ name ++ ". Valid actions: short, long, reset")

inductive PressStage
  /-- At the sleep, since the line was set active. -/
  | holding (action : AtxAction) (since : Nat)
  | ended (response : Except AppError String)
  /-- The client is gone and the request is dropped. -/
  | dropped
  deriving DecidableEq

structure Press where
  stage : PressStage
  /-- What it has set its line to, until somebody tries to set the line inactive. -/
  owed : Option (Line × Bool) := none
  deriving DecidableEq

structure AtxSystem where
  /-- The clock, in milliseconds. -/
  now : Nat := 0
  powerExecutor : Option AtxKeyExecutor
  resetExecutor : Option AtxKeyExecutor
  lines : Line → Bool
  presses : List Press := []
  /-- How long the presses that have ended after their sleep were held. -/
  held : List (AtxAction × Nat) := []

inductive AtxEvent
  /-- A request, and why its write fails if it does. -/
  | request (name : String) (fails : Option String)
  /-- The sleep of press `i` is over. -/
  | release (i : Nat) (fails : Option String)
  | drop (i : Nat)
  | tick (n : Nat)

namespace AtxSystem

def executor (s : AtxSystem) : AtxAction → Option AtxKeyExecutor
  | .short | .long => s.powerExecutor
  | .reset => s.resetExecutor

def respond (s : AtxSystem) (response : Except AppError String) : AtxSystem :=
  { s with presses := s.presses ++ [{ stage := .ended response }] }

/-- A new press has set its line active. -/
def press (s : AtxSystem) (action : AtxAction) (w : Write) : AtxSystem :=
  { s with
    lines := w.apply s.lines
    presses := s.presses ++
      [{ stage := .holding action s.now, owed := w.sets }] }

/-- `trigger_power_action` up to the sleep. -/
def triggerPowerAction (s : AtxSystem) (action : AtxAction) (fails : Option String) : AtxSystem :=
  match s.executor action with
  | none => s.respond (.error action.missing)
  | some e =>
    match e.start, fails with
    | .error err, _ => s.respond (.error err)
    | .ok none, _ => s.respond (.ok action.message)
    | .ok (some _), some reason => s.respond (.error (e.writeError reason))
    | .ok (some w), none => s.press action w

/-- Somebody tries to set a line inactive. -/
def Press.settle (line : Line) (p : Press) : Press :=
  if p.owed.any (·.1 = line) then { p with owed := none } else p

def endPress (s : AtxSystem) (i : Nat) (p : Press) (stage : PressStage) : AtxSystem :=
  { s with presses := s.presses.set i { p with stage } }

/-- The write after the sleep. -/
def setInactive (s : AtxSystem) (w : Write) (fails : Option String) : AtxSystem :=
  { s with
    lines := if fails.isNone then w.apply s.lines else s.lines
    presses :=
      match w.sets with
      | some (line, _) => s.presses.map (Press.settle line)
      | none => s.presses }

/-- Press `i` goes on after its sleep. -/
def release (s : AtxSystem) (i : Nat) (p : Press) (action : AtxAction) (since : Nat)
    (fails : Option String) : AtxSystem :=
  let s := { s with held := s.held ++ [(action, s.now - since)] }
  match s.executor action with
  | none => s.endPress i p (.ended (.error action.missing))
  | some e =>
    match e.send false with
    | .error err => s.endPress i p (.ended (.error err))
    | .ok none => s.endPress i p (.ended (.ok action.message))
    | .ok (some w) =>
      (s.endPress i p (.ended ((e.finish fails).map fun _ => action.message))).setInactive w fails

def step (s : AtxSystem) : AtxEvent → Option AtxSystem
  | .request name fails =>
    match AtxAction.parse name with
    | some action => some (s.triggerPowerAction action fails)
    | none => some (s.respond (.error (unknownAction name)))
  | .release i fails => s.presses[i]?.bind fun p =>
    match p.stage with
    | .holding action since =>
      if since + action.duration ≤ s.now then some (s.release i p action since fails) else none
    | _ => none
  | .drop i => s.presses[i]?.bind fun p =>
    match p.stage with
    | .holding _ _ => some (s.endPress i p .dropped)
    | _ => none
  | .tick n => some { s with now := s.now + n }

/-- No press has been made. The kernel hands a GPIO line out once. -/
def Started (s : AtxSystem) : Prop :=
  ∃ now power reset lines,
    s = { now, powerExecutor := power, resetExecutor := reset, lines } ∧
      ∀ p r, power = some p → reset = some r → p.config.driver = .gpio →
        r.config.driver = .gpio → p.line ≠ r.line

def system : TSys AtxSystem AtxEvent := .ofFn Started step

/-! ## Long presses -/

/-- The power line is active during every long press, and each lasts five seconds. -/
structure LongPressed (s : AtxSystem) : Prop where
  active : ∀ p ∈ s.presses, ∀ since e, p.stage = .holding .long since →
    s.now < since + AtxAction.long.duration → s.powerExecutor = some e →
    s.lines e.line = e.value true
  full : ∀ time, (AtxAction.long, time) ∈ s.held → AtxAction.long.duration ≤ time

/-- A press ends while no other one is a long press on its line. -/
def Apart (s : AtxSystem) : AtxEvent → Prop
  | .release i fails => ∀ (p : Press) (action : AtxAction) (since : Nat) (e power : AtxKeyExecutor),
    s.presses[i]? = some p → p.stage = .holding action since → s.executor action = some e →
    fails = none → s.powerExecutor = some power → e.line = power.line →
    ∀ (j : Nat) (other : Press) (since' : Nat), j ≠ i → s.presses[j]? = some other →
      other.stage = .holding .long since' → since' + AtxAction.long.duration ≤ s.now
  | _ => True

/-! ## Release -/

/-- A press that is over has not left its line active. -/
def Released (s : AtxSystem) : Prop :=
  ∀ p ∈ s.presses, (∀ action since, p.stage ≠ .holding action since) →
    ∀ line value, p.owed = some (line, value) → s.lines line ≠ value

/-- A press is dropped only if somebody has tried to set its line inactive since. -/
def Settled (s : AtxSystem) : AtxEvent → Prop
  | .drop i => ∀ p, s.presses[i]? = some p → p.owed = none
  | _ => True

/-! ## One step -/

/-- An executor of the controller that has switched its line. -/
def Switches (s : AtxSystem) (e : AtxKeyExecutor) : Prop :=
  ∃ action w, s.executor action = some e ∧ e.send true = .ok (some w)

structure Inv (s : AtxSystem) : Prop where
  wired : ∀ p r, s.powerExecutor = some p → s.resetExecutor = some r →
    p.config.driver = .gpio → r.config.driver = .gpio → p.line ≠ r.line
  holding : ∀ p ∈ s.presses, ∀ action since, p.stage = .holding action since →
    ∃ e w, s.executor action = some e ∧ e.send true = .ok (some w) ∧
      ∀ x, p.owed = some x → x = (e.line, e.value true)
  owed : ∀ p ∈ s.presses, ∀ line value, p.owed = some (line, value) →
    s.lines line = value ∧ ∃ e, s.Switches e ∧ e.line = line ∧ e.value true = value
  full : ∀ time, (AtxAction.long, time) ∈ s.held → AtxAction.long.duration ≤ time

theorem send_of_start {e : AtxKeyExecutor} {w : Write} (h : e.start = .ok (some w)) :
    e.send true = .ok (some w) := by
  unfold AtxKeyExecutor.start at h
  split at h
  · cases h
  · split at h
    · cases h
    · exact h

section

variable {s t : AtxSystem} {i : Nat} {p : Press}

/-- Two executors on one line set it to the same value. -/
theorem Inv.same_value (h : s.Inv) {e e' : AtxKeyExecutor} (he : s.Switches e)
    (he' : s.Switches e') (hline : e.line = e'.line) : e.value true = e'.value true := by
  obtain ⟨action, w, hexec, hsend⟩ := he
  obtain ⟨action', w', hexec', hsend'⟩ := he'
  have hdiffer : ∀ p r, s.powerExecutor = some p → s.resetExecutor = some r → p.line = r.line →
      p.config.driver ≠ .gpio ∨ r.config.driver ≠ .gpio := by
    intro p r hp hr hline
    by_contra hboth
    rw [not_or, not_not, not_not] at hboth
    exact h.wired p r hp hr hboth.1 hboth.2 hline
  have hcases : ∀ action, s.executor action = s.powerExecutor ∨
      s.executor action = s.resetExecutor := by
    intro action
    cases action with
    | short => exact .inl rfl
    | long => exact .inl rfl
    | reset => exact .inr rfl
  rcases hcases action with hpower | hreset
  · rcases hcases action' with hpower' | hreset'
    · obtain rfl : e = e' := Option.some.inj
        ((hexec.symm.trans hpower).trans (hpower'.symm.trans hexec'))
      rfl
    · exact AtxKeyExecutor.value_eq hsend hsend' hline
        (hdiffer e e' (hpower.symm.trans hexec) (hreset'.symm.trans hexec') hline)
  · rcases hcases action' with hpower' | hreset'
    · exact AtxKeyExecutor.value_eq hsend hsend' hline
        (hdiffer e' e (hpower'.symm.trans hexec') (hreset.symm.trans hexec) hline.symm).symm
    · obtain rfl : e = e' := Option.some.inj
        ((hexec.symm.trans hreset).trans (hreset'.symm.trans hexec'))
      rfl

theorem mem_endPress {stage : PressStage} {q : Press}
    (hq : q ∈ (s.endPress i p stage).presses) : q ∈ s.presses ∨ q = { p with stage } :=
  List.mem_or_eq_of_mem_set hq

theorem settle_stage (line : Line) (q : Press) : (Press.settle line q).stage = q.stage := by
  unfold Press.settle
  split
  · rfl
  · rfl

/-- What is still owed after somebody has tried to set a line inactive. -/
theorem settle_owed {line line' : Line} {value : Bool} {q : Press}
    (h : (Press.settle line q).owed = some (line', value)) :
    q.owed = some (line', value) ∧ line' ≠ line := by
  unfold Press.settle at h
  split at h
  · cases h
  · rename_i hother
    refine ⟨h, fun heq => hother ?_⟩
    rw [h, heq]
    simp

/-- A request is answered without a write. -/
theorem inv_respond (h : s.Inv) (response : Except AppError String) : (s.respond response).Inv := by
  refine ⟨h.wired, fun q hq action since hstage => ?_, fun q hq line value howed => ?_, h.full⟩
  · rcases List.mem_append.mp hq with hq | hq
    · exact h.holding q hq action since hstage
    · rw [List.mem_singleton.mp hq] at hstage
      cases hstage
  · rcases List.mem_append.mp hq with hq | hq
    · exact h.owed q hq line value howed
    · rw [List.mem_singleton.mp hq] at howed
      cases howed

/-- A press sets its line active. -/
theorem inv_press (h : s.Inv) {action : AtxAction} {e : AtxKeyExecutor} {w : Write}
    (hexec : s.executor action = some e) (hsend : e.send true = .ok (some w)) :
    (s.press action w).Inv := by
  have hlines : (s.press action w).lines
      = Function.update s.lines e.line (e.value true) :=
    AtxKeyExecutor.apply_send hsend s.lines
  have hswitches : s.Switches e := ⟨action, w, hexec, hsend⟩
  refine ⟨h.wired, fun q hq action' since hstage => ?_, fun q hq line value howed => ?_, h.full⟩
  · rcases List.mem_append.mp hq with hq | hq
    · exact h.holding q hq action' since hstage
    · rw [List.mem_singleton.mp hq] at hstage ⊢
      cases hstage
      refine ⟨e, w, hexec, hsend, fun x hx => ?_⟩
      exact Option.some.inj (hx.symm.trans (AtxKeyExecutor.sets_send hsend))
  · rw [hlines]
    rcases List.mem_append.mp hq with hq | hq
    · obtain ⟨hactive, e', hswitches', hline, hvalue⟩ := h.owed q hq line value howed
      refine ⟨?_, e', hswitches', hline, hvalue⟩
      by_cases hsame : line = e.line
      · rw [hsame, Function.update_self, ← hvalue]
        exact h.same_value hswitches hswitches' (hsame.symm.trans hline.symm)
      · rw [Function.update_of_ne hsame]
        exact hactive
    · rw [List.mem_singleton.mp hq] at howed
      obtain ⟨rfl, rfl⟩ : e.line = line ∧ e.value true = value := by
        have hx := (AtxKeyExecutor.sets_send hsend).symm.trans howed
        exact Prod.mk.inj (Option.some.inj hx)
      exact ⟨Function.update_self .., e, hswitches, rfl, rfl⟩

/-- A press is over without a write. -/
theorem inv_endPress (h : s.Inv) (hi : s.presses[i]? = some p) {stage : PressStage}
    (hstage : ∀ action since, stage ≠ .holding action since) : (s.endPress i p stage).Inv := by
  have hp : p ∈ s.presses := List.mem_of_getElem? hi
  refine ⟨h.wired, fun q hq action since hq' => ?_, fun q hq line value howed => ?_, h.full⟩
  · rcases mem_endPress hq with hq | rfl
    · exact h.holding q hq action since hq'
    · exact absurd hq' (hstage action since)
  · rcases mem_endPress hq with hq | rfl
    · exact h.owed q hq line value howed
    · exact h.owed p hp line value howed

/-- Somebody tries to set a line inactive. -/
theorem inv_setInactive (h : s.Inv) {e : AtxKeyExecutor} {w : Write}
    (hsend : e.send false = .ok (some w)) (fails : Option String) :
    (s.setInactive w fails).Inv := by
  have hsets := AtxKeyExecutor.sets_send hsend
  have hpresses : (s.setInactive w fails).presses = s.presses.map (Press.settle e.line) := by
    unfold setInactive
    rw [hsets]
  have hlines : ∀ line, line ≠ e.line → (s.setInactive w fails).lines line = s.lines line := by
    intro line hne
    unfold setInactive
    dsimp only
    split
    · rw [AtxKeyExecutor.apply_send hsend, Function.update_of_ne hne]
    · rfl
  refine ⟨h.wired, fun q hq action since hstage => ?_, fun q hq line value howed => ?_, h.full⟩
  · rw [hpresses] at hq
    obtain ⟨old, hold, rfl⟩ := List.mem_map.mp hq
    rw [settle_stage] at hstage
    obtain ⟨e', w', hexec, hsend', howed⟩ := h.holding old hold action since hstage
    exact ⟨e', w', hexec, hsend', fun x hx => howed x (settle_owed hx).1⟩
  · rw [hpresses] at hq
    obtain ⟨old, hold, rfl⟩ := List.mem_map.mp hq
    obtain ⟨howed, hne⟩ := settle_owed howed
    obtain ⟨hactive, hrest⟩ := h.owed old hold line value howed
    exact ⟨(hlines line hne).trans hactive, hrest⟩

/-- A press that has been held for its time is released. -/
theorem inv_held (h : s.Inv) {action : AtxAction} {since : Nat}
    (htime : since + action.duration ≤ s.now) :
    Inv { s with held := s.held ++ [(action, s.now - since)] } := by
  refine ⟨h.wired, h.holding, h.owed, fun time hmem => ?_⟩
  rcases List.mem_append.mp hmem with hmem | hmem
  · exact h.full time hmem
  · obtain ⟨rfl, rfl⟩ := Prod.mk.inj (List.mem_singleton.mp hmem)
    omega

/-- What a release does, by the executor of the press. -/
theorem release_eq (h : s.Inv) (hi : s.presses[i]? = some p) {action : AtxAction} {since : Nat}
    (hstage : p.stage = .holding action since) (fails : Option String) :
    ∃ e w, s.executor action = some e ∧ s.Switches e ∧ e.send false = .ok (some w) ∧
      (∀ x, p.owed = some x → x = (e.line, e.value true)) ∧
      s.release i p action since fails
        = ({ s with held := s.held ++ [(action, s.now - since)] }.endPress i p
            (.ended ((e.finish fails).map fun _ => action.message))).setInactive w fails := by
  obtain ⟨e, w, hexec, hsend, howed⟩ :=
    h.holding p (List.mem_of_getElem? hi) action since hstage
  obtain ⟨w', hsend'⟩ := AtxKeyExecutor.send_false hsend
  refine ⟨e, w', hexec, ⟨action, w, hexec, hsend⟩, hsend', howed, ?_⟩
  have hexec' : { s with held := s.held ++ [(action, s.now - since)] }.executor action = some e :=
    hexec
  unfold release
  simp only [hexec', hsend']

end

/-- What a step can do: a request is answered at once or sets its line active, a press whose time
is over goes on, one is dropped at its sleep, or time passes. -/
inductive Stepped (s : AtxSystem) : AtxEvent → AtxSystem → Prop
  | respond {name fails response} : Stepped s (.request name fails) (s.respond response)
  | press {name fails action e w} : s.executor action = some e → e.send true = .ok (some w) →
      Stepped s (.request name fails) (s.press action w)
  | release {i fails p action since} : s.presses[i]? = some p →
      p.stage = .holding action since → since + action.duration ≤ s.now →
      Stepped s (.release i fails) (s.release i p action since fails)
  | drop {i p action since} : s.presses[i]? = some p → p.stage = .holding action since →
      Stepped s (.drop i) (s.endPress i p .dropped)
  | tick {n} : Stepped s (.tick n) { s with now := s.now + n }

theorem stepped_of_step {s t : AtxSystem} {a : AtxEvent} (hstep : s.step a = some t) :
    s.Stepped a t := by
  cases a with
  | request name fails =>
    simp only [step] at hstep
    split at hstep
    · cases hstep
      unfold triggerPowerAction
      split
      · exact .respond
      · rename_i e hexec
        split
        · exact .respond
        · exact .respond
        · exact .respond
        · rename_i w hstart
          exact .press hexec (send_of_start hstart)
    · cases hstep
      exact .respond
  | release i fails =>
    obtain ⟨p, hi, hr⟩ := Option.bind_eq_some_iff.mp hstep
    split at hr
    · rename_i action since hstage
      split at hr
      · rename_i htime
        cases hr
        exact .release hi hstage htime
      · cases hr
    · cases hr
  | drop i =>
    obtain ⟨p, hi, hr⟩ := Option.bind_eq_some_iff.mp hstep
    split at hr
    · rename_i action since hstage
      cases hr
      exact .drop hi hstage
    · cases hr
  | tick n =>
    cases hstep
    exact .tick

theorem inv_step {s t : AtxSystem} {a : AtxEvent} (h : s.Inv) (hstep : s.step a = some t) :
    t.Inv := by
  cases stepped_of_step hstep with
  | respond => exact inv_respond h _
  | press hexec hsend => exact inv_press h hexec hsend
  | release hi hstage htime =>
    obtain ⟨e, w, -, -, hsend, -, heq⟩ := release_eq h hi hstage _
    rw [heq]
    refine inv_setInactive (inv_endPress (inv_held h htime) hi fun _ _ hended => ?_) hsend _
    cases hended
  | drop hi hstage =>
    refine inv_endPress h hi fun _ _ hdropped => ?_
    cases hdropped
  | tick => exact ⟨h.wired, h.holding, h.owed, h.full⟩

theorem inv_reachable {s : AtxSystem} (h : system.Reachable s) : s.Inv := by
  refine TSys.invariant ?_ ?_ h
  · intro s hstart
    obtain ⟨now, power, reset, lines, rfl, hwired⟩ := hstart
    refine ⟨hwired, fun p hp => ?_, fun p hp => ?_, fun time htime => ?_⟩
    · cases hp
    · cases hp
    · cases htime
  · intro s a t hinv hstep
    exact inv_step hinv hstep

section

variable {s t : AtxSystem} {i : Nat} {p : Press} {fails : Option String}

/-- A release writes to the line of its press, unless the write fails. -/
theorem lines_setInactive {e : AtxKeyExecutor} {w : Write} (hsend : e.send false = .ok (some w)) :
    (s.setInactive w fails).lines
      = if fails.isNone then Function.update s.lines e.line (e.value false) else s.lines := by
  unfold setInactive
  dsimp only
  rw [AtxKeyExecutor.apply_send hsend]

theorem presses_setInactive {e : AtxKeyExecutor} {w : Write}
    (hsend : e.send false = .ok (some w)) :
    (s.setInactive w fails).presses = s.presses.map (Press.settle e.line) := by
  unfold setInactive
  rw [AtxKeyExecutor.sets_send hsend]

/-- The presses behind a release: the other ones, and the one that has ended. -/
theorem mem_release {stage : PressStage} {q : Press}
    (hq : q ∈ (s.endPress i p stage).presses) :
    q = { p with stage } ∨ ∃ j, j ≠ i ∧ s.presses[j]? = some q := by
  obtain ⟨j, hj⟩ := List.getElem?_of_mem hq
  have hj : (s.presses.set i { p with stage })[j]? = some q := hj
  rcases getElem?_set_cases hj with ⟨-, rfl⟩ | ⟨hij, hold⟩
  · exact .inl rfl
  · exact .inr ⟨j, hij, hold⟩

theorem switches_of_holding (h : s.Inv) (hp : p ∈ s.presses) {since : Nat} {e : AtxKeyExecutor}
    (hstage : p.stage = .holding .long since) (hpower : s.powerExecutor = some e) :
    s.Switches e := by
  obtain ⟨e', w, hexec, hsend, -⟩ := h.holding p hp .long since hstage
  obtain rfl : e' = e := Option.some.inj (hexec.symm.trans hpower)
  exact ⟨.long, w, hexec, hsend⟩

/-! ## Long presses stay on -/

theorem long_respond (h : s.LongPressed) (response : Except AppError String) :
    (s.respond response).LongPressed := by
  refine ⟨fun q hq since e hstage => ?_, h.full⟩
  rcases List.mem_append.mp hq with hq | hq
  · exact h.active q hq since e hstage
  · rw [List.mem_singleton.mp hq] at hstage
    cases hstage

/-- Another press that begins sets the line to the same value. -/
theorem long_press (hinv : s.Inv) (h : s.LongPressed) {action : AtxAction} {e : AtxKeyExecutor}
    {w : Write} (hexec : s.executor action = some e) (hsend : e.send true = .ok (some w)) :
    (s.press action w).LongPressed := by
  have hlines : (s.press action w).lines = Function.update s.lines e.line (e.value true) :=
    AtxKeyExecutor.apply_send hsend s.lines
  refine ⟨fun q hq since power hstage hwindow hpower => ?_, h.full⟩
  rw [hlines]
  rcases List.mem_append.mp hq with hq | hq
  · by_cases hsame : power.line = e.line
    · rw [hsame, Function.update_self]
      exact hinv.same_value ⟨action, w, hexec, hsend⟩
        (switches_of_holding hinv hq hstage hpower) hsame.symm
    · rw [Function.update_of_ne hsame]
      exact h.active q hq since power hstage hwindow hpower
  · rw [List.mem_singleton.mp hq] at hstage
    cases hstage
    obtain rfl : e = power := Option.some.inj (hexec.symm.trans hpower)
    exact Function.update_self ..

/-- A press that ends leaves the long presses on just when there is none on its line. -/
theorem long_release (hinv : s.Inv) (h : s.LongPressed) (hi : s.presses[i]? = some p)
    {action : AtxAction} {since : Nat} (hstage : p.stage = .holding action since)
    (htime : since + action.duration ≤ s.now) :
    (s.release i p action since fails).LongPressed ↔ s.Apart (.release i fails) := by
  obtain ⟨e, w, hexec, hswitches, hsend, -, heq⟩ := release_eq hinv hi hstage fails
  have hfull : ∀ time, (AtxAction.long, time) ∈ s.held ++ [(action, s.now - since)] →
      AtxAction.long.duration ≤ time := (inv_held hinv htime).full
  rw [heq]
  constructor
  · intro hafter p' action' since' e' power hi' hstage' hexec' hfails hpower hline j other since₂
      hne hj hother
    obtain rfl : p = p' := Option.some.inj (hi.symm.trans hi')
    obtain ⟨rfl, rfl⟩ := PressStage.holding.inj (hstage.symm.trans hstage')
    obtain rfl : e = e' := Option.some.inj (hexec.symm.trans hexec')
    by_contra hwindow
    -- the other press would still need the line that is set inactive
    have hmem : Press.settle e.line other ∈ (({ s with
        held := s.held ++ [(action, s.now - since)] }.endPress i p
          (.ended ((e.finish fails).map fun _ => action.message))).setInactive w fails).presses := by
      rw [presses_setInactive hsend]
      refine List.mem_map_of_mem (List.mem_of_getElem? (i := j) ?_)
      show (s.presses.set i _)[j]? = some other
      exact getElem?_set_kept hj hne
    have hactive := hafter.active _ hmem since₂ power ((settle_stage _ _).trans hother)
      (Nat.lt_of_not_le hwindow) hpower
    rw [lines_setInactive hsend, hfails, Option.isNone_none, if_pos rfl, ← hline,
      Function.update_self, AtxKeyExecutor.value_false,
      hinv.same_value hswitches (switches_of_holding hinv (List.mem_of_getElem? hj) hother hpower)
        hline] at hactive
    cases hvalue : power.value true <;> rw [hvalue] at hactive <;> cases hactive
  · intro hapart
    refine ⟨fun q hq since' power hstage' hwindow hpower => ?_, hfull⟩
    rw [presses_setInactive hsend] at hq
    obtain ⟨old, hold, rfl⟩ := List.mem_map.mp hq
    rw [settle_stage] at hstage'
    rcases mem_release hold with rfl | ⟨j, hne, hj⟩
    · cases hstage'
    · have hbefore := h.active old (List.mem_of_getElem? hj) since' power hstage' hwindow hpower
      rw [lines_setInactive hsend]
      cases fails with
      | some reason => exact hbefore
      | none =>
        rw [Option.isNone_none, if_pos rfl]
        by_cases hsame : e.line = power.line
        · have hover := hapart p action since e power hi hstage hexec rfl hpower hsame j old since'
            hne hj hstage'
          exact absurd hwindow (Nat.not_lt_of_le hover)
        · rw [Function.update_of_ne fun h => hsame h.symm]
          exact hbefore

theorem long_step {a : AtxEvent} (hinv : s.Inv) (h : s.LongPressed) (hstep : s.step a = some t) :
    t.LongPressed ↔ s.Apart a := by
  cases stepped_of_step hstep with
  | respond => exact iff_of_true (long_respond h _) True.intro
  | press hexec hsend => exact iff_of_true (long_press hinv h hexec hsend) True.intro
  | release hi hstage htime => exact long_release hinv h hi hstage htime
  | drop hi hstage =>
    refine iff_of_true ⟨fun q hq since e hstage => ?_, h.full⟩ True.intro
    rcases mem_endPress hq with hq | rfl
    · exact h.active q hq since e hstage
    · cases hstage
  | @tick n =>
    refine iff_of_true ⟨fun q hq since e hstage hwindow => ?_, h.full⟩ True.intro
    exact h.active q hq since e hstage (Nat.lt_of_le_of_lt (Nat.le_add_right _ n) hwindow)

/-- **Long presses.** In a run every accepted long press keeps the power line active for its five
seconds just when no other press of that line ends meanwhile. -/
theorem long_pressed_iff {tr : List (AtxSystem × AtxEvent × AtxSystem)} {s : AtxSystem}
    (h : system.Trace tr s) : (∀ x ∈ tr, x.2.2.LongPressed) ↔ ∀ x ∈ tr, x.1.Apart x.2.1 := by
  refine h.forall_post_iff (fun s hstart => ?_) fun s a t hreach hlong hstep =>
    long_step (inv_reachable hreach) hlong hstep
  obtain ⟨now, power, reset, lines, rfl, -⟩ := hstart
  refine ⟨fun p hp => ?_, fun time htime => ?_⟩
  · cases hp
  · cases htime

/-! ## Lines are released -/

/-- A press that is over owes nothing. -/
theorem released_iff_owed (h : s.Inv) : s.Released ↔
    ∀ p ∈ s.presses, (∀ action since, p.stage ≠ .holding action since) → p.owed = none := by
  constructor
  · intro hreleased p hp hover
    cases howed : p.owed with
    | none => rfl
    | some x =>
      have hactive := (h.owed p hp x.1 x.2 howed).1
      exact absurd hactive (hreleased p hp hover x.1 x.2 howed)
  · intro howed p hp hover line value hsome
    rw [howed p hp hover] at hsome
    cases hsome

theorem owed_respond (h : ∀ p ∈ s.presses, (∀ action since, p.stage ≠ .holding action since) →
      p.owed = none) (response : Except AppError String) :
    ∀ p ∈ (s.respond response).presses, (∀ action since, p.stage ≠ .holding action since) →
      p.owed = none := by
  intro q hq hover
  rcases List.mem_append.mp hq with hq | hq
  · exact h q hq hover
  · rw [List.mem_singleton.mp hq]

theorem released_step {a : AtxEvent} (hinv : s.Inv) (h : s.Released) (hstep : s.step a = some t) :
    t.Released ↔ s.Settled a := by
  have howed := (released_iff_owed hinv).mp h
  refine (released_iff_owed (inv_step hinv hstep)).trans ?_
  cases stepped_of_step hstep with
  | respond => exact iff_of_true (owed_respond howed _) True.intro
  | press hexec hsend =>
    refine iff_of_true (fun q hq hover => ?_) True.intro
    rcases List.mem_append.mp hq with hq | hq
    · exact howed q hq hover
    · rw [List.mem_singleton.mp hq] at hover
      exact absurd rfl (hover _ _)
  | release hi hstage htime =>
    refine iff_of_true ?_ True.intro
    obtain ⟨e, w, -, -, hsend, hown, heq⟩ := release_eq hinv hi hstage _
    rw [heq, presses_setInactive hsend]
    intro q hq hover
    obtain ⟨old, hold, rfl⟩ := List.mem_map.mp hq
    cases hq' : (Press.settle e.line old).owed with
    | none => rfl
    | some x =>
      -- what is left was owed before, and on another line
      obtain ⟨line, value⟩ := x
      obtain ⟨hold', hne⟩ := settle_owed hq'
      rcases mem_endPress hold with hmem | rfl
      · rw [settle_stage] at hover
        rw [howed old hmem hover] at hold'
        cases hold'
      · exact absurd (congrArg Prod.fst (hown _ hold')) hne
  | @drop i p action since hi hstage =>
    constructor
    · intro hafter p' hi'
      obtain rfl : p = p' := Option.some.inj (hi.symm.trans hi')
      have hmem : { p with stage := .dropped } ∈ (s.endPress i p .dropped).presses :=
        List.mem_of_getElem? (i := i)
          (List.getElem?_set_self (List.getElem?_eq_some_iff.mp hi).1)
      have hover : ∀ action since, PressStage.dropped ≠ .holding action since := by
        intro action since hstage
        cases hstage
      exact (hafter { p with stage := .dropped } hmem hover :)
    · intro hsettled q hq hover
      rcases mem_endPress hq with hq | rfl
      · exact howed q hq hover
      · exact hsettled p hi
  | tick => exact iff_of_true howed True.intro

/-- **Release.** In a run no press leaves its line active, nor ends without an attempt to set it
inactive, just when no press is dropped at its sleep before such an attempt. -/
theorem released_iff {tr : List (AtxSystem × AtxEvent × AtxSystem)} {s : AtxSystem}
    (h : system.Trace tr s) : (∀ x ∈ tr, x.2.2.Released) ↔ ∀ x ∈ tr, x.1.Settled x.2.1 := by
  refine h.forall_post_iff (fun s hstart => ?_) fun s a t hreach hreleased hstep =>
    released_step (inv_reachable hreach) hreleased hstep
  obtain ⟨now, power, reset, lines, rfl, -⟩ := hstart
  intro p hp
  cases hp

end

/-! ## Runs -/

def powerKey : AtxKeyExecutor where
  config := { driver := .gpio, device := "/dev/gpiochip0", pin := 5 }

/-- A machine whose power key is on a GPIO line, and that has no reset key. -/
def machine : AtxSystem where
  powerExecutor := some powerKey
  resetExecutor := none
  lines := fun _ => false

theorem machine_started : machine.Started :=
  ⟨0, some powerKey, none, fun _ => false, rfl, fun _ _ _ hr => by cases hr⟩

/-- A press whose time is over can be released. -/
theorem step_release {s : AtxSystem} {i : Nat} {p : Press} {action : AtxAction} {since : Nat}
    (hi : s.presses[i]? = some p) (hstage : p.stage = .holding action since)
    (htime : since + action.duration ≤ s.now) (fails : Option String) :
    s.step (.release i fails) = some (s.release i p action since fails) := by
  simp only [step, hi, Option.bind_some, hstage, htime, if_true]

/-- The steps of a long press alone. -/
theorem long_trace : ∃ tr s, system.Trace tr s ∧
    tr.map (·.2.1) = [.request "long" none, .tick 5000, .release 0 none] ∧
    s.held = [(.long, 5000)] ∧ s.lines powerKey.line = false ∧
    ∀ x ∈ tr, x.1.Apart x.2.1 ∧ x.1.Settled x.2.1 := by
  have hrequest := TSys.Trace.step (T := system) (a := .request "long" none)
    (.init machine_started) rfl
  have htick := TSys.Trace.step (T := system) (a := .tick 5000) hrequest rfl
  have htime : 0 + AtxAction.long.duration ≤ 0 + 5000 := Nat.le_refl 5000
  have hrelease := TSys.Trace.step (T := system) (a := .release 0 none) htick
    (step_release rfl rfl htime none)
  refine ⟨_, _, hrelease, rfl, rfl, rfl, ?_⟩
  simp only [List.forall_mem_append, List.forall_mem_singleton]
  refine ⟨⟨⟨by simp, True.intro, True.intro⟩, True.intro, True.intro⟩, ?_, True.intro⟩
  intro p action since e power hp hstage hexec hfails hpower hline j other since' hne hj
  have hj : [_][j]? = some other := hj
  rw [List.getElem?_singleton, if_neg hne] at hj
  cases hj

/-- A long press alone lasts its five seconds. -/
theorem long_alone : ∃ tr s, system.Trace tr s ∧
    tr.map (·.2.1) = [.request "long" none, .tick 5000, .release 0 none] ∧
    ∀ x ∈ tr, x.2.2.LongPressed := by
  obtain ⟨tr, s, htrace, hlabels, -, -, hcond⟩ := long_trace
  exact ⟨tr, s, htrace, hlabels, (long_pressed_iff htrace).mpr fun x hx => (hcond x hx).1⟩

/-- A press that is not dropped releases its line. -/
theorem long_releases : ∃ tr s, system.Trace tr s ∧
    tr.map (·.2.1) = [.request "long" none, .tick 5000, .release 0 none] ∧
    s.lines powerKey.line = false ∧ ∀ x ∈ tr, x.2.2.Released := by
  obtain ⟨tr, s, htrace, hlabels, -, hline, hcond⟩ := long_trace
  exact ⟨tr, s, htrace, hlabels, hline, (released_iff htrace).mpr fun x hx => (hcond x hx).2⟩

/-- **A short press ends a long one.** It comes a second after it and is released first. -/
theorem short_ends_long : ¬ ∀ s : AtxSystem, system.Reachable s → s.LongPressed := by
  intro halways
  have hrun : (([.request "long" none, .tick 1000, .request "short" none, .tick 500,
      .release 1 none] : List AtxEvent).foldlM step machine).any
      (fun s => decide (s.presses[0]?.map (·.stage) = some (.holding .long 0)) && s.now == 1500 &&
        decide (s.powerExecutor = some powerKey) && !s.lines powerKey.line) := by
    decide +kernel
  obtain ⟨s, hs, hends⟩ := Option.any_eq_true _ _ |>.mp hrun
  simp only [Bool.and_eq_true, decide_eq_true_eq, beq_iff_eq, Bool.not_eq_true'] at hends
  obtain ⟨⟨⟨hfirst, hnow⟩, hpower⟩, hline⟩ := hends
  obtain ⟨p, hp, hstage⟩ := Option.map_eq_some_iff.mp hfirst
  have hwindow : s.now < 0 + AtxAction.long.duration := by
    rw [hnow]
    decide
  have hactive := (halways s (TSys.ofFn_reachable (.init machine_started) hs)).active p
    (List.mem_of_getElem? hp) 0 powerKey hstage hwindow hpower
  rw [hline] at hactive
  exact absurd hactive (by decide)

/-- **Left active.** The client of a press is gone during its sleep. -/
theorem dropped_active : ¬ ∀ s : AtxSystem, system.Reachable s → s.Released := by
  intro halways
  have hrun : (([.request "short" none, .drop 0] : List AtxEvent).foldlM step machine).any
      (fun s => decide (s.presses = [{ stage := .dropped, owed := some (powerKey.line, true) }]) &&
        s.lines powerKey.line) := by
    decide +kernel
  obtain ⟨s, hs, hends⟩ := Option.any_eq_true _ _ |>.mp hrun
  simp only [Bool.and_eq_true, decide_eq_true_eq] at hends
  have hreleased := halways s (TSys.ofFn_reachable (.init machine_started) hs)
    { stage := .dropped, owed := some (powerKey.line, true) }
    (by rw [hends.1]; exact List.mem_singleton_self _)
    (fun action since hstage => by cases hstage) powerKey.line true rfl
  exact hreleased hends.2

end AtxSystem

end StreamBox.Atx
