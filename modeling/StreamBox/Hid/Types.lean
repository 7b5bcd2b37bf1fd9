import StreamBox.Hid.Keyboard

/-!
# HID event types

The keyboard, mouse and consumer events that every input path hands to the HID
controller.
-/

namespace StreamBox.Hid

inductive KeyEventType
  | down | up
  deriving DecidableEq, Repr

structure KeyboardModifiers where
  leftCtrl : Bool := false
  leftShift : Bool := false
  leftAlt : Bool := false
  leftMeta : Bool := false
  rightCtrl : Bool := false
  rightShift : Bool := false
  rightAlt : Bool := false
  rightMeta : Bool := false
  deriving DecidableEq, Repr

/-- Convert to USB HID modifier byte. -/
def KeyboardModifiers.toHidByte (m : KeyboardModifiers) : UInt8 :=
  (if m.leftCtrl then 0x01 else 0) ||| (if m.leftShift then 0x02 else 0) |||
  (if m.leftAlt then 0x04 else 0) ||| (if m.leftMeta then 0x08 else 0) |||
  (if m.rightCtrl then 0x10 else 0) ||| (if m.rightShift then 0x20 else 0) |||
  (if m.rightAlt then 0x40 else 0) ||| (if m.rightMeta then 0x80 else 0)

structure KeyboardEvent where
  eventType : KeyEventType
  key : CanonicalKey
  modifiers : KeyboardModifiers := {}
  deriving DecidableEq, Repr

inductive MouseButton
  | left | right | middle | back | forward
  deriving DecidableEq, Repr

/-- Convert to USB HID button bit. -/
def MouseButton.toHidBit : MouseButton → UInt8
  | .left => 0x01
  | .right => 0x02
  | .middle => 0x04
  | .back => 0x08
  | .forward => 0x10

inductive MouseEventType
  /-- Relative movement. -/
  | move
  /-- Absolute position. -/
  | moveAbs
  | down
  | up
  | scroll
  deriving DecidableEq, Repr

structure MouseEvent where
  eventType : MouseEventType
  x : Int32 := 0
  y : Int32 := 0
  button : Option MouseButton := none
  scroll : Int8 := 0
  deriving DecidableEq, Repr

/-- Consumer control event (multimedia keys). -/
structure ConsumerEvent where
  usage : UInt16
  deriving DecidableEq, Repr

end StreamBox.Hid
