import StreamBox.Hid.Backend
import StreamBox.Hid.ShownKeys
import StreamBox.RustDesk.SessionAuth

/-!
# Keys held by RustDesk messages

Which keys the key messages of an active connection leave held on the target.

* **Messages** — a message may replay Caps Lock, and sends the event it is converted to.
* **Settled** — the keys held are those whose last message was a press to hold.
* **Runs** — the keys stay settled in exactly the runs of clean messages (`settled_iff`).
-/

namespace StreamBox.RustDesk

open Session
open StreamBox.Hid (CanonicalKey KeyboardEvent KeyboardReport sendKeyboardWith)
open StreamBox.Lib

/-! ## Messages -/

/-- The report a backend keeps after a call. -/
def typeKey (r : KeyboardReport) : Effect → KeyboardReport
  | .keyboard event => (sendKeyboardWith id r event).1
  | _ => r

/-- The key a message is about. -/
def keyOf (ke : KeyEvent) : Option CanonicalKey := (convertKeyEvent ke).map (·.key)

/-- The last message about a key. -/
def lastFor (k : CanonicalKey) (handled : List KeyEvent) : Option KeyEvent :=
  handled.reverse.find? fun ke => keyOf ke = some k

/-- The last message about the key pressed it to be held. -/
def Pressed (handled : List KeyEvent) (k : CanonicalKey) : Prop :=
  ∃ ke, lastFor k handled = some ke ∧ ke.down = true ∧ ke.press = false

/-- A connection, the report kept for its target and the messages it has handled. -/
structure Typing where
  conn : Connection
  report : KeyboardReport := .empty
  handled : List KeyEvent := []

namespace Typing

/-- A key message is handled. -/
def step (env : Env) (io : Io) (s : Typing) (ke : KeyEvent) : Option Typing :=
  let after := (dispatch env io ⟨s.conn, []⟩ (.keyEvent ke)).2
  some
    { conn := after.conn
      report := after.effects.foldl typeKey s.report
      handled := s.handled ++ [ke] }

/-- The key messages of an active connection with a HID controller. -/
def system (env : Env) (io : Io) : TSys Typing KeyEvent :=
  .ofFn (fun s => s.conn.state = .active ∧ s.conn.hid = true ∧ s.report = .empty ∧ s.handled = [])
    (step env io)

/-- No key is held but one whose last message pressed it to be held. -/
def Settled (s : Typing) : Prop := ∀ k, s.report.Shown k → Pressed s.handled k

/-- The message toggles Caps Lock. -/
def Toggles (s : Typing) (ke : KeyEvent) : Prop :=
  ke.modifiers.contains ControlKey.capsLock ≠ s.conn.lastCapsLock

instance (s : Typing) (ke : KeyEvent) : Decidable (s.Toggles ke) :=
  inferInstanceAs (Decidable (_ ≠ _))

/-- Six other keys are held, so that a press finds no slot. -/
def NoSlot (s : Typing) (ke : KeyEvent) (k : CanonicalKey) : Prop :=
  k.isModifier = false ∧ 0 ∉ s.report.keys ∧ k.toHidUsage ∉ s.report.keys ∧
    (s.Toggles ke → CanonicalKey.capsLock.toHidUsage ∉ s.report.keys)

/-- A message that presses and releases at once finds no slot, and one for a key that is no
modifier lists only modifiers that are pressed by messages of their own. -/
def Clean (s : Typing) (ke : KeyEvent) : Prop :=
  ∀ event, convertKeyEvent ke = some event →
    (ke.press = true → s.NoSlot ke event.key) ∧
      (event.key.isModifier = false → ∀ k, event.modifiers.Lists k → Pressed s.handled k)

end Typing

theorem pressed_concat (handled : List KeyEvent) (ke : KeyEvent) (k : CanonicalKey) :
    Pressed (handled ++ [ke]) k ↔
      if keyOf ke = some k then ke.down = true ∧ ke.press = false else Pressed handled k := by
  unfold Pressed lastFor
  rw [List.reverse_concat, List.find?_cons]
  by_cases h : keyOf ke = some k
  · simp [h]
  · simp [h]

/-- What handling a message does to the connection. -/
theorem handleKeyEvent_kept (s : Session) (ke : KeyEvent) :
    (handleKeyEvent s ke).conn.state = s.conn.state ∧ (handleKeyEvent s ke).conn.hid = s.conn.hid := by
  unfold handleKeyEvent
  by_cases hcaps : ke.modifiers.contains ControlKey.capsLock = s.conn.lastCapsLock
  · simp only [hcaps, ne_eq, not_true_eq_false, ite_false]
    split <;> simp
  · simp only [ne_eq, hcaps, not_false_eq_true, ite_true]
    split <;> simp

/-- The replay of Caps Lock. -/
def toggleCapsLock : List Effect :=
  [.keyboard { eventType := .down, key := .capsLock }, .keyboard { eventType := .up, key := .capsLock }]

/-- The calls of a message. -/
theorem handleKeyEvent_effects {c : Connection} (hhid : c.hid = true) (ke : KeyEvent) :
    (handleKeyEvent ⟨c, []⟩ ke).effects =
      (if ke.modifiers.contains ControlKey.capsLock ≠ c.lastCapsLock then toggleCapsLock else []) ++
        (convertKeyEvent ke).toList.map .keyboard := by
  unfold handleKeyEvent
  by_cases hcaps : ke.modifiers.contains ControlKey.capsLock = c.lastCapsLock
  · simp only [hcaps, ne_eq, not_true_eq_false, ite_false]
    cases convertKeyEvent ke <;> simp [sendKeyboard, hhid]
  · simp only [ne_eq, hcaps, not_false_eq_true, ite_true]
    cases convertKeyEvent ke <;> simp [sendKeyboard, hhid, toggleCapsLock]

/-- After the replay only keys are held that were, and no modifiers. -/
theorem shown_toggleCapsLock (r : KeyboardReport) (k : CanonicalKey) :
    (toggleCapsLock.foldl typeKey r).Shown k ↔
      k ≠ .capsLock ∧ k.isModifier = false ∧ r.Shown k := by
  simp only [toggleCapsLock, List.foldl_cons, List.foldl_nil, typeKey, Hid.shown_sendKeyboard]
  by_cases hk : k = .capsLock
  · simp [hk]
  · cases hmodifier : k.isModifier <;>
      simp [hk, CanonicalKey.isModifier, Hid.KeyboardModifiers.not_lists_default]

/-- After the replay a slot is free unless six other keys are held. -/
theorem zero_mem_toggleCapsLock (r : KeyboardReport) :
    0 ∈ (toggleCapsLock.foldl typeKey r).keys ↔
      0 ∈ r.keys ∨ CanonicalKey.capsLock.toHidUsage ∈ r.keys :=
  Hid.zero_mem_removeSlots_addSlot (by decide) r.keys

theorem shown_of_not_modifier {k : CanonicalKey} (h : k.isModifier = false) (r : KeyboardReport) :
    r.Shown k ↔ k.toHidUsage ∈ r.keys := by
  have hbit : k.modifierBit = none := by
    rw [← Option.isNone_iff_eq_none, ← Option.not_isSome, CanonicalKey.modifierBit_isSome, h]
    rfl
  simp only [KeyboardReport.Shown, hbit]

theorem convertKeyEvent_eventType {ke : KeyEvent} {event : KeyboardEvent}
    (h : convertKeyEvent ke = some event) :
    event.eventType = .down ↔ ke.down = true ∨ ke.press = true := by
  unfold convertKeyEvent at h
  dsimp only at h
  split at h
  all_goals
    obtain ⟨usage, -, h⟩ := Option.bind_eq_some_iff.1 h
    obtain ⟨key, -, h⟩ := Option.bind_eq_some_iff.1 h
    cases h
    cases ke.down <;> cases ke.press <;> simp

namespace Typing

variable {env : Env} {io : Io} {s s' : Typing} {ke : KeyEvent}

/-- The report before the event of the message itself. -/
def replayed (s : Typing) (ke : KeyEvent) : KeyboardReport :=
  if s.Toggles ke then toggleCapsLock.foldl typeKey s.report else s.report

theorem shown_of_replayed {k : CanonicalKey} (h : (s.replayed ke).Shown k) : s.report.Shown k := by
  unfold replayed at h
  split at h
  · exact ((shown_toggleCapsLock _ _).1 h).2.2
  · exact h

/-- A press finds no slot just when six other keys are held. -/
theorem noSlot_iff (k : CanonicalKey) : s.NoSlot ke k ↔
    ¬ (k.isModifier = true ∨ 0 ∈ (s.replayed ke).keys ∨ k.toHidUsage ∈ (s.replayed ke).keys) := by
  simp only [not_or, Bool.not_eq_true, NoSlot]
  refine and_congr_right fun hplain => ?_
  have hshown := shown_of_not_modifier hplain (s.replayed ke)
  unfold replayed at hshown ⊢
  split
  · next htoggles =>
    rw [if_pos htoggles, shown_toggleCapsLock, shown_of_not_modifier hplain] at hshown
    rw [← hshown, zero_mem_toggleCapsLock, not_or]
    constructor
    · rintro ⟨hzero, hkey, hcaps⟩
      exact ⟨⟨hzero, hcaps htoggles⟩, fun h => hkey h.2.2⟩
    · rintro ⟨⟨hzero, hcaps⟩, hkey⟩
      refine ⟨hzero, fun hmem => ?_, fun _ => hcaps⟩
      exact hkey ⟨fun hk => hcaps (hk ▸ hmem), hplain, hmem⟩
  · next htoggles => simp [htoggles]

/-- What a message leaves. -/
theorem step_eq (hactive : s.conn.state = .active) (hhid : s.conn.hid = true)
    (hstep : step env io s ke = some s') :
    s'.conn.state = .active ∧ s'.conn.hid = true ∧ s'.handled = s.handled ++ [ke] ∧
      s'.report = match convertKeyEvent ke with
        | some event => (sendKeyboardWith id (s.replayed ke) event).1
        | none => s.replayed ke := by
  obtain ⟨hstate, hkept⟩ := handleKeyEvent_kept ⟨s.conn, []⟩ ke
  have heffects := handleKeyEvent_effects hhid ke
  cases hstep
  have hdispatch : (dispatch env io ⟨s.conn, []⟩ (.keyEvent ke)).2 =
      handleKeyEvent ⟨s.conn, []⟩ ke := if_pos hactive
  have hreplayed : (if ke.modifiers.contains ControlKey.capsLock ≠ s.conn.lastCapsLock then
      toggleCapsLock else []).foldl typeKey s.report = s.replayed ke :=
    apply_ite (List.foldl typeKey s.report) _ _ _
  simp only [hdispatch, heffects, List.foldl_append, hreplayed, true_and]
  refine ⟨hstate.trans hactive, hkept.trans hhid, ?_⟩
  cases convertKeyEvent ke <;> rfl

/-- A message keeps the keys settled just when it is clean. -/
theorem settled_step (hactive : s.conn.state = .active) (hhid : s.conn.hid = true)
    (h : s.Settled) (hstep : step env io s ke = some s') : s'.Settled ↔ s.Clean ke := by
  obtain ⟨-, -, hhandled, hreport⟩ := step_eq hactive hhid hstep
  unfold Settled
  rw [hhandled, hreport]
  cases hconvert : convertKeyEvent ke with
  | none =>
    -- at most Caps Lock is replayed
    refine iff_of_true (fun k hk => ?_) fun event hevent => ?_
    · rw [pressed_concat, if_neg (by simp [keyOf, hconvert])]
      exact h k (shown_of_replayed hk)
    · rw [hconvert] at hevent
      cases hevent
  | some event =>
    have hkey : ∀ k, keyOf ke = some k ↔ k = event.key := by
      intro k
      simp [keyOf, hconvert, eq_comm]
    have htype := convertKeyEvent_eventType hconvert
    have hclean : s.Clean ke ↔ (ke.press = true → s.NoSlot ke event.key) ∧
        (event.key.isModifier = false → ∀ k, event.modifiers.Lists k → Pressed s.handled k) := by
      unfold Clean
      rw [hconvert]
      exact ⟨fun hall => hall event rfl, fun hall _ heq => Option.some.inj heq ▸ hall⟩
    rw [hclean, noSlot_iff]
    simp only [Hid.shown_sendKeyboard, pressed_concat, hkey, htype]
    constructor
    · intro hall
      refine ⟨fun hpress hroom => ?_, fun hplain k hlists => ?_⟩
      · have hheld := hall event.key
        rw [if_pos rfl, if_pos rfl] at hheld
        exact absurd ((hheld ⟨.inr hpress, hroom⟩).2.symm.trans hpress) (by decide)
      · have hmodifier : k.isModifier = true := by
          obtain ⟨bit, hbit, -⟩ := hlists
          rw [← CanonicalKey.modifierBit_isSome, hbit]
          rfl
        have hne : k ≠ event.key := by
          rintro rfl
          rw [hplain] at hmodifier
          cases hmodifier
        have hheld := hall k
        rw [if_neg hne, if_neg hne, if_pos ⟨hplain, hmodifier⟩] at hheld
        exact hheld hlists
    · rintro ⟨hpress, hlists⟩ k
      by_cases hk : k = event.key
      · subst hk
        rw [if_pos rfl, if_pos rfl]
        rintro ⟨hdown, hroom⟩
        have hnot : ke.press = false := by
          rw [← Bool.not_eq_true]
          exact fun h => hpress h hroom
        refine ⟨hdown.resolve_right ?_, hnot⟩
        rw [hnot]
        decide
      · rw [if_neg hk, if_neg hk]
        split
        · next hboth => exact hlists hboth.1 k
        · exact fun hshown => h k (shown_of_replayed hshown)

theorem active_of_reachable (h : (system env io).Reachable s) :
    s.conn.state = .active ∧ s.conn.hid = true := by
  refine TSys.invariant (T := system env io)
    (I := fun s => s.conn.state = .active ∧ s.conn.hid = true)
    (fun s h0 => ⟨h0.1, h0.2.1⟩) (fun s ke s' h hstep => ?_) h
  obtain ⟨hactive, hhid, -, -⟩ := step_eq h.1 h.2 hstep
  exact ⟨hactive, hhid⟩

/-- **Held keys.** In a run of key messages no key is ever held but one whose last message pressed
it to be held, just when every message is clean. -/
theorem settled_iff (env : Env) (io : Io) {tr : List (Typing × KeyEvent × Typing)} {s : Typing}
    (hrun : (system env io).Trace tr s) :
    (∀ x ∈ tr, x.2.2.Settled) ↔ ∀ x ∈ tr, x.1.Clean x.2.1 := by
  refine hrun.forall_post_iff (fun s h0 => ?_) fun s ke t hreach h hstep => ?_
  · intro k hk
    rw [h0.2.2.1] at hk
    exact absurd hk (KeyboardReport.not_shown_empty k)
  · obtain ⟨hactive, hhid⟩ := active_of_reachable hreach
    exact settled_step hactive hhid h hstep

/-- A connection that has logged in. -/
def loggedIn : Typing where
  conn := { Connection.new ⟨false, "", none, none, "123456789", "secret"⟩ true false false 0 with
    state := .active }

def keyA (down press : Bool) : KeyEvent := { down, press, union := some (.chr 97) }

/-- A key pressed and released. -/
theorem key_released : ∃ tr s, (system Loop.sampleEnv { now := 0 }).Trace tr s ∧
    tr.map (·.2.1) = [keyA true false, keyA false false] ∧ ∀ x ∈ tr, x.2.2.Settled := by
  have hdown := TSys.Trace.step (T := system Loop.sampleEnv { now := 0 }) (s := loggedIn)
    (a := keyA true false) (.init ⟨rfl, rfl, rfl, rfl⟩) rfl
  have hup := TSys.Trace.step (T := system Loop.sampleEnv { now := 0 }) (a := keyA false false)
    hdown rfl
  refine ⟨_, _, hup, rfl, (settled_iff _ _ hup).mpr ?_⟩
  have hclean : ∀ (s : Typing) (down : Bool), s.Clean (keyA down false) := by
    intro s down event hevent
    have hconvert : convertKeyEvent (keyA down false) =
        some { eventType := if down then .down else .up, key := .keyA } := by
      cases down <;> decide
    rw [hconvert] at hevent
    cases hevent
    refine ⟨fun hpress => ?_, fun _ k hlists => ?_⟩
    · cases hpress
    · exact absurd hlists (Hid.KeyboardModifiers.not_lists_default k)
  simp only [List.forall_mem_append, List.forall_mem_singleton]
  exact ⟨⟨by simp, hclean _ true⟩, hclean _ false⟩

/-- A key typed by one message is held after it. -/
theorem typed_key_held : ¬ ∀ s : Typing, (system Loop.sampleEnv { now := 0 }).Reachable s →
    s.Settled := by
  intro halways
  have htyped := TSys.Reachable.step (T := system Loop.sampleEnv { now := 0 }) (s := loggedIn)
    (a := keyA false true) (.init ⟨rfl, rfl, rfl, rfl⟩) rfl
  obtain ⟨ke, hlast, hdown, -⟩ := halways _ htyped .keyA (by decide)
  have hself : lastFor .keyA [keyA false true] = some (keyA false true) := by decide
  cases hself.symm.trans hlast
  cases hdown

end Typing

end StreamBox.RustDesk
