import Mathlib.Algebra.Group.Int.Defs
import Mathlib.Tactic.SplitIfs
import StreamBox.Hid.Datachannel

/-!
# The HID wire format

What is left of an event that is encoded and parsed again.

* **Fields** — keys, modifiers, buttons and scroll deltas come back; a coordinate comes back
  as an `i16`, whatever the kind of the event.
* **Events** — so an event of the documented domain comes back unless it is an absolute one
  with a coordinate from `2 ^ 15` on (`wire_format_iff`).
* **Messages** — a message that is parsed is encoded to one with the same parse.
-/

namespace StreamBox.Hid

/-! ## Fields -/

theorem KeyboardModifiers.ofByte_toHidByte (m : KeyboardModifiers) : ofByte m.toHidByte = m := by
  obtain ⟨a, b, c, d, e, f, g, h⟩ := m
  revert a b c d e f g h
  decide

/-- Two bytes make the `u16` they are taken from. -/
theorem u16_of_leBytes (u : UInt16) :
    u.toUInt8.toUInt16 ||| (u >>> 8).toUInt8.toUInt16 <<< 8 = u := by
  have hu := u.toNat_lt
  rw [← UInt16.toNat_inj]
  simp only [UInt16.toNat_or, UInt8.toNat_toUInt16, UInt16.toNat_toUInt8, UInt16.toNat_shiftLeft,
    UInt16.toNat_shiftRight]
  rw [show (8 : UInt16).toNat % 16 = 8 from rfl, Nat.shiftRight_eq_div_pow, Nat.shiftLeft_eq,
    Nat.mod_eq_of_lt (show u.toNat / 2 ^ 8 % 2 ^ 8 * 2 ^ 8 < 2 ^ 16 by omega), Nat.or_comm,
    ← Nat.shiftLeft_eq, ← Nat.shiftLeft_add_eq_or_of_lt (Nat.mod_lt _ (by decide)), Nat.shiftLeft_eq]
  omega

/-- A coordinate comes back as an `i16`. -/
theorem i16FromLeBytes_toLeBytes (v : Int32) :
    i16FromLeBytes (i16ToLeBytes v).1 (i16ToLeBytes v).2 = v.toInt16.toInt32 := by
  rw [i16FromLeBytes, i16ToLeBytes, u16_of_leBytes]
  rfl

/-- What comes back is an `i16`. -/
theorem i16FromLeBytes_small (lo hi : UInt8) :
    (i16FromLeBytes lo hi).toInt16.toInt32 = i16FromLeBytes lo hi := by
  rw [i16FromLeBytes, Int16.toInt16_toInt32]

/-- A coordinate is kept when it is an `i16`. -/
theorem i16_kept_iff (v : Int32) :
    v.toInt16.toInt32 = v ↔ -2 ^ 15 ≤ v.toInt ∧ v.toInt < 2 ^ 15 := by
  rw [← Int32.toInt_inj, Int16.toInt_toInt32, Int32.toInt_toInt16, Int.bmod_def]
  constructor
  · intro h
    split at h <;> omega
  · intro h
    split <;> omega

/-! ## Events -/

/-- The events the message format is documented for: relative coordinates are `i16`, absolute
ones `u16`, and a press or release has its button. -/
def HidChannelEvent.Documented : HidChannelEvent → Prop
  | keyboard _ => True
  | mouse event =>
    match event.eventType with
    | .move => (-2 ^ 15 ≤ event.x.toInt ∧ event.x.toInt < 2 ^ 15) ∧
        -2 ^ 15 ≤ event.y.toInt ∧ event.y.toInt < 2 ^ 15
    | .moveAbs => (0 ≤ event.x.toInt ∧ event.x.toInt < 2 ^ 16) ∧
        0 ≤ event.y.toInt ∧ event.y.toInt < 2 ^ 16
    | .down | .up => event.button ≠ none
    | .scroll => True
  | consumer _ => False

/-- Two events are equal in every field that their kind carries. -/
def HidChannelEvent.SameFields : HidChannelEvent → HidChannelEvent → Prop
  | keyboard a, keyboard b => a = b
  | mouse a, mouse b => a.eventType = b.eventType ∧
      match b.eventType with
      | .move | .moveAbs => a.x = b.x ∧ a.y = b.y
      | .down | .up => a.button = b.button
      | .scroll => a.scroll = b.scroll
  | _, _ => False

/-- An event comes back from its encoding. -/
def HidChannelEvent.RoundTrips (event : HidChannelEvent) : Prop :=
  ∃ data parsed, event.encode = some data ∧ parseHidMessage data = some parsed ∧
    parsed.SameFields event

/-- An absolute event with a coordinate that is no `i16`. -/
def HidChannelEvent.Far : HidChannelEvent → Prop
  | mouse event => event.eventType = .moveAbs ∧ (2 ^ 15 ≤ event.x.toInt ∨ 2 ^ 15 ≤ event.y.toInt)
  | _ => False

theorem parse_encodeKeyboardEvent (event : KeyboardEvent) :
    parseHidMessage (encodeKeyboardEvent event) = some (.keyboard event) := by
  obtain ⟨eventType, key, modifiers⟩ := event
  have hkey := CanonicalKey.fromHidUsage_toHidUsage key
  have hmodifiers := modifiers.ofByte_toHidByte
  cases eventType <;>
    simp [encodeKeyboardEvent, parseHidMessage, parseKeyboardMessage, hkey, hmodifiers, MSG_KEYBOARD,
      KB_EVENT_DOWN, KB_EVENT_UP]

theorem mouseEventType_toByte (t : MouseEventType) : mouseEventType t.toByte = some t := by
  cases t <;> decide

theorem mouseButton_toByte (b : MouseButton) : mouseButton b.toByte = b := by
  cases b <;> decide

/-- What the byte behind the coordinates is parsed to. -/
def MouseEventType.parseExtra (t : MouseEventType) (extra : UInt8) : Option MouseButton × Int8 :=
  match t with
  | .down | .up => (some (mouseButton extra), 0)
  | .scroll => (none, extra.toInt8)
  | _ => (none, 0)

/-- What a mouse event comes back as. -/
theorem parse_encodeMouseEvent (event : MouseEvent) :
    parseHidMessage (encodeMouseEvent event) = some (.mouse
      { eventType := event.eventType
        x := event.x.toInt16.toInt32
        y := event.y.toInt16.toInt32
        button := (event.eventType.parseExtra event.extra).1
        scroll := (event.eventType.parseExtra event.extra).2 }) := by
  have hx := i16FromLeBytes_toLeBytes event.x
  have hy := i16FromLeBytes_toLeBytes event.y
  have htype := mouseEventType_toByte event.eventType
  rw [encodeMouseEvent, parseHidMessage, if_neg (by decide), if_pos rfl, parseMouseMessage, htype,
    hx, hy]
  cases event.eventType <;> rfl

/-- In the documented domain an event comes back unless it is a far one. -/
theorem HidChannelEvent.Documented.roundTrips_iff {event : HidChannelEvent}
    (h : event.Documented) : event.RoundTrips ↔ ¬ event.Far := by
  cases event with
  | keyboard event =>
    exact iff_of_true ⟨_, _, rfl, parse_encodeKeyboardEvent event, rfl⟩ id
  | mouse event =>
    have hback : HidChannelEvent.RoundTrips (mouse event) ↔ HidChannelEvent.SameFields (mouse
        { eventType := event.eventType
          x := event.x.toInt16.toInt32
          y := event.y.toInt16.toInt32
          button := (event.eventType.parseExtra event.extra).1
          scroll := (event.eventType.parseExtra event.extra).2 }) (mouse event) := by
      constructor
      · rintro ⟨data, parsed, hdata, hparsed, hsame⟩
        cases hdata
        rw [parse_encodeMouseEvent] at hparsed
        cases hparsed
        exact hsame
      · intro hsame
        exact ⟨_, _, rfl, parse_encodeMouseEvent event, hsame⟩
    rw [hback]
    obtain ⟨eventType, x, y, button, scroll⟩ := event
    cases eventType with
    | move =>
      have hx := (i16_kept_iff x).2 h.1
      have hy := (i16_kept_iff y).2 h.2
      exact iff_of_true ⟨rfl, hx, hy⟩ fun hfar => nomatch hfar.1
    | moveAbs =>
      obtain ⟨⟨hx0, hx⟩, hy0, hy⟩ : (0 ≤ x.toInt ∧ x.toInt < 2 ^ 16) ∧
        0 ≤ y.toInt ∧ y.toInt < 2 ^ 16 := h
      simp only [SameFields, Far, true_and, i16_kept_iff]
      omega
    | down | up =>
      obtain ⟨b, rfl⟩ := Option.ne_none_iff_exists'.1 h
      exact iff_of_true ⟨rfl, congrArg some (mouseButton_toByte b)⟩ fun hfar => nomatch hfar.1
    | scroll =>
      exact iff_of_true ⟨rfl, Int8.toInt8_toUInt8 scroll⟩ fun hfar => nomatch hfar.1
  | consumer event => exact h.elim

/-! ## Messages -/

/-- The event of a message is encoded to one with the same parse. -/
def HidChannelEvent.Reencodes (event : HidChannelEvent) : Prop :=
  ∃ data, event.encode = some data ∧ parseHidMessage data = some event

/-- A keyboard message is parsed to a keyboard event. -/
theorem parseKeyboardMessage_keyboard {data : List UInt8} {event : HidChannelEvent}
    (h : parseKeyboardMessage data = some event) : ∃ e, event = .keyboard e := by
  unfold parseKeyboardMessage at h
  split at h
  · dsimp only at h
    split_ifs at h
    all_goals
      obtain ⟨_, _, h⟩ := Option.bind_eq_some_iff.1 h
      obtain ⟨_, _, h⟩ := Option.bind_eq_some_iff.1 h
      exact ⟨_, (Option.some.inj h).symm⟩
  · cases h

/-- A mouse message is parsed to a mouse event: its coordinates are `i16`s, and its button and
scroll delta are those of one byte. -/
theorem parseMouseMessage_mouse {data : List UInt8} {event : HidChannelEvent}
    (h : parseMouseMessage data = some event) : ∃ t xLo xHi yLo yHi b, event = .mouse
      { eventType := t
        x := i16FromLeBytes xLo xHi
        y := i16FromLeBytes yLo yHi
        button := (t.parseExtra b).1
        scroll := (t.parseExtra b).2 } := by
  unfold parseMouseMessage at h
  split at h
  · next _ xLo xHi yLo yHi extra _ =>
    obtain ⟨t, _, h⟩ := Option.bind_eq_some_iff.1 h
    refine ⟨t, xLo, xHi, yLo, yHi, extra, ?_⟩
    cases t <;> exact (Option.some.inj h).symm
  · cases h

/-- A consumer message is parsed to a consumer event. -/
theorem parseConsumerMessage_consumer {data : List UInt8} {event : HidChannelEvent}
    (h : parseConsumerMessage data = some event) : ∃ e, event = .consumer e := by
  unfold parseConsumerMessage at h
  split at h
  · exact ⟨_, (Option.some.inj h).symm⟩
  · cases h

/-- The byte of a parsed button or scroll delta is parsed to it again. -/
theorem parseExtra_extra (t : MouseEventType) (x y : Int32) (b : UInt8) :
    t.parseExtra (MouseEvent.extra
      { eventType := t, x, y, button := (t.parseExtra b).1, scroll := (t.parseExtra b).2 }) =
    t.parseExtra b := by
  cases t with
  | move | moveAbs => rfl
  | down | up =>
    exact congrArg (fun button => (some button, 0)) (mouseButton_toByte (mouseButton b))
  | scroll => exact congrArg (fun scroll => (none, scroll)) (Int8.toInt8_toUInt8 b.toInt8)

/-- Bytes behind a message that is parsed are not read. -/
theorem parseHidMessage_append {data : List UInt8} {event : HidChannelEvent}
    (h : parseHidMessage data = some event) (rest : List UInt8) :
    parseHidMessage (data ++ rest) = some event := by
  cases data with
  | nil => cases h
  | cons msgType data =>
    simp only [parseHidMessage, List.cons_append] at h ⊢
    split at h
    · next hkeyboard =>
      rw [if_pos hkeyboard]
      unfold parseKeyboardMessage at h
      split at h
      · exact h
      · cases h
    · next hkeyboard =>
      rw [if_neg hkeyboard]
      split at h
      · next hmouse =>
        rw [if_pos hmouse]
        unfold parseMouseMessage at h
        split at h
        · exact h
        · cases h
      · next hmouse =>
        rw [if_neg hmouse]
        split at h
        · next hconsumer =>
          rw [if_pos hconsumer]
          unfold parseConsumerMessage at h
          split at h
          · exact h
          · cases h
        · cases h

/-- A message that is parsed is encoded again, unless it is a consumer one. -/
theorem reencodes_iff {data : List UInt8} {event : HidChannelEvent}
    (h : parseHidMessage data = some event) :
    event.Reencodes ↔ data.head? ≠ some MSG_CONSUMER := by
  cases data with
  | nil => cases h
  | cons msgType data =>
    simp only [parseHidMessage] at h
    split at h
    · next hkeyboard =>
      obtain ⟨e, rfl⟩ := parseKeyboardMessage_keyboard h
      subst hkeyboard
      exact iff_of_true ⟨_, rfl, parse_encodeKeyboardEvent e⟩ (by simp [MSG_KEYBOARD, MSG_CONSUMER])
    · split at h
      · next hmouse =>
        obtain ⟨t, xLo, xHi, yLo, yHi, b, rfl⟩ := parseMouseMessage_mouse h
        subst hmouse
        refine iff_of_true ⟨_, rfl, ?_⟩ (by simp [MSG_MOUSE, MSG_CONSUMER])
        rw [parse_encodeMouseEvent]
        simp only [parseExtra_extra, i16FromLeBytes_small]
      · split at h
        · next hconsumer =>
          obtain ⟨e, rfl⟩ := parseConsumerMessage_consumer h
          subst hconsumer
          refine iff_of_false ?_ (by simp)
          rintro ⟨_, hencode, _⟩
          cases hencode
        · cases h

/-- An event of the documented domain comes back from its encoding unless it is an absolute one
with a coordinate that is no `i16`; a message that is parsed is encoded to one with the same
parse unless it is a consumer one, and bytes behind it are not read. -/
theorem wire_format_iff (event : HidChannelEvent) (data : List UInt8) :
    (event.Documented → (event.RoundTrips ↔ ¬ event.Far)) ∧
      ∀ parsed, parseHidMessage data = some parsed →
        (parsed.Reencodes ↔ data.head? ≠ some MSG_CONSUMER) ∧
          ∀ rest, parseHidMessage (data ++ rest) = some parsed :=
  ⟨fun h => h.roundTrips_iff, fun _ h => ⟨reencodes_iff h, parseHidMessage_append h⟩⟩

/-- The absolute event at the first coordinate that is no `i16`. -/
def farMove : MouseEvent where
  eventType := .moveAbs
  x := 32768
  y := 0
  button := none
  scroll := 0

theorem wire_format_at_edge :
    ((HidChannelEvent.mouse { farMove with x := 32767 }).RoundTrips ↔
        ¬ HidChannelEvent.Far (.mouse { farMove with x := 32767 })) ∧
      (HidChannelEvent.Reencodes (.keyboard
          { eventType := .down, key := .keyA, modifiers := { leftCtrl := true } }) ↔
        [MSG_KEYBOARD, KB_EVENT_DOWN, 0x04, 0x01].head? ≠ some MSG_CONSUMER) :=
  have h := wire_format_iff (.mouse { farMove with x := 32767 })
    [MSG_KEYBOARD, KB_EVENT_DOWN, 0x04, 0x01]
  ⟨h.1 (show (_ ∧ _) ∧ _ ∧ _ by decide), (h.2 _ (by decide)).1⟩

/-- It comes back with a negative coordinate. -/
theorem absolute_wraps :
    (HidChannelEvent.mouse farMove).Documented ∧ ¬ (HidChannelEvent.mouse farMove).RoundTrips := by
  refine ⟨show (_ ∧ _) ∧ _ ∧ _ by decide, ?_⟩
  rintro ⟨data, parsed, hdata, hparsed, hsame⟩
  cases hdata
  have hback : parseHidMessage (encodeMouseEvent farMove) =
      some (.mouse { farMove with x := -32768 }) := by
    decide
  rw [hback] at hparsed
  cases hparsed
  exact absurd hsame.2.1 (by decide)

end StreamBox.Hid
