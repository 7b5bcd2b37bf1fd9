import StreamBox.Hid.Report
import StreamBox.Hid.EventQueue

/-!
# What a backend keeps and what its target was told

Both HID backends keep the keyboard report and the mouse buttons, and both change
them in the same way with each event (`Held.apply`). The target has the last
keyboard report and the last mouse buttons it accepted.
-/

namespace StreamBox.Hid

/-- `v.clamp(lo, hi)`. -/
def clampI32 (v lo hi : Int32) : Int32 := max lo (min hi v)

/-- The keyboard state and the mouse buttons of a backend. -/
structure Held where
  keyboard : KeyboardReport := .empty
  buttons : UInt8 := 0
  deriving DecidableEq, Repr

/-- `mouse_buttons` after a mouse event. -/
def applyButtons (buttons : UInt8) (event : MouseEvent) : UInt8 :=
  match event.eventType, event.button with
  | .down, some button => buttons ||| button.toHidBit
  | .up, some button => buttons &&& ~~~button.toHidBit
  | _, _ => buttons

/-- What a backend keeps after an event, every send of which succeeds. -/
def Held.apply (h : Held) : HidEvent → Held
  | .keyboard event => { h with keyboard := (sendKeyboardWith id h.keyboard event).1 }
  | .mouse event => { h with buttons := applyButtons h.buttons event }
  | .consumer _ => h
  | .reset => { keyboard := h.keyboard.clear, buttons := 0 }

/-- What a backend keeps after a run of events. -/
def Held.after (events : List HidEvent) : Held := events.foldl Held.apply {}

/-- No key and no button is down. -/
def Held.Released (h : Held) : Prop :=
  h.keyboard.toBytes = [0, 0, 0, 0, 0, 0, 0, 0] ∧ h.buttons = 0

/-- The last keyboard report and mouse buttons a target accepted. -/
structure Target where
  keyboard : List UInt8 := [0, 0, 0, 0, 0, 0, 0, 0]
  buttons : UInt8 := 0
  deriving DecidableEq, Repr

/-- The target has what the backend keeps. -/
def Target.Shows (t : Target) (h : Held) : Prop :=
  t.keyboard = h.keyboard.toBytes ∧ t.buttons = h.buttons

/-! ## Events that change nothing -/

theorem applyButtons_move {event : MouseEvent} (buttons : UInt8)
    (h : event.eventType ≠ .down) (h' : event.eventType ≠ .up) :
    applyButtons buttons event = buttons := by
  unfold applyButtons
  split
  · exact absurd ‹event.eventType = .down› h
  · exact absurd ‹event.eventType = .up› h'
  · rfl

/-- A mouse move presses and releases nothing. -/
theorem Held.apply_move (h : Held) {event : HidEvent} (hmove : event.isMove = true) :
    h.apply event = h := by
  cases event with
  | mouse event =>
    have htype : event.eventType = .move ∨ event.eventType = .moveAbs := by
      simpa [HidEvent.isMove] using hmove
    have hbuttons : applyButtons h.buttons event = h.buttons := by
      rcases htype with ht | ht
      · exact applyButtons_move _ (by simp [ht]) (by simp [ht])
      · exact applyButtons_move _ (by simp [ht]) (by simp [ht])
    simp [Held.apply, hbuttons]
  | _ => simp [HidEvent.isMove] at hmove

/-- The last event of a run. -/
theorem Held.after_concat (events : List HidEvent) (event : HidEvent) :
    Held.after (events ++ [event]) = (Held.after events).apply event := by
  simp [Held.after]

/-- A mouse move may be left out of a run. -/
theorem Held.after_move {event : HidEvent} (hmove : event.isMove = true)
    (before rest : List HidEvent) :
    Held.after (before ++ event :: rest) = Held.after (before ++ rest) := by
  simp only [Held.after, List.foldl_append, List.foldl_cons, Held.apply_move _ hmove]

/-- After a reset nothing is down. -/
theorem Held.after_reset (events : List HidEvent) :
    (Held.after (events ++ [.reset])).Released := by
  have hreserved : ∀ (events : List HidEvent) (h : Held), h.keyboard.reserved = 0 →
      (events.foldl Held.apply h).keyboard.reserved = 0 := by
    intro events
    induction events with
    | nil => exact fun h hzero => hzero
    | cons event events ih =>
      intro h hzero
      refine ih _ ?_
      cases event with
      | keyboard event =>
        simp only [Held.apply, sendKeyboardWith]
        split
        · split <;> exact hzero
        · split <;> exact hzero
      | mouse event => exact hzero
      | consumer event => exact hzero
      | reset => exact hzero
  rw [Held.after_concat]
  refine ⟨?_, rfl⟩
  simp [Held.apply, KeyboardReport.clear, KeyboardReport.toBytes, Held.after,
    hreserved events {} rfl]

end StreamBox.Hid
