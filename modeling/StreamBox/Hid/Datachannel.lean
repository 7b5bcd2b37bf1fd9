import StreamBox.Hid.Types

/-!
# Binary HID messages

The messages of the WebRTC data channel and of the HID WebSocket: a type byte,
then the data of a keyboard, mouse or consumer event.
-/

namespace StreamBox.Hid

/-! ## Message types -/

def MSG_KEYBOARD : UInt8 := 0x01
def MSG_MOUSE : UInt8 := 0x02
def MSG_CONSUMER : UInt8 := 0x03

def KB_EVENT_DOWN : UInt8 := 0x00
def KB_EVENT_UP : UInt8 := 0x01

def MS_EVENT_MOVE : UInt8 := 0x00
def MS_EVENT_MOVE_ABS : UInt8 := 0x01
def MS_EVENT_DOWN : UInt8 := 0x02
def MS_EVENT_UP : UInt8 := 0x03
def MS_EVENT_SCROLL : UInt8 := 0x04

/-- Parsed HID event. -/
inductive HidChannelEvent
  | keyboard (event : KeyboardEvent)
  | mouse (event : MouseEvent)
  | consumer (event : ConsumerEvent)
  deriving DecidableEq, Repr

/-! ## Parsing -/

/-- The modifiers of a bitmask. -/
def KeyboardModifiers.ofByte (b : UInt8) : KeyboardModifiers where
  leftCtrl := b &&& 0x01 != 0
  leftShift := b &&& 0x02 != 0
  leftAlt := b &&& 0x04 != 0
  leftMeta := b &&& 0x08 != 0
  rightCtrl := b &&& 0x10 != 0
  rightShift := b &&& 0x20 != 0
  rightAlt := b &&& 0x40 != 0
  rightMeta := b &&& 0x80 != 0

/-- `i16::from_le_bytes([lo, hi]) as i32`. -/
def i16FromLeBytes (lo hi : UInt8) : Int32 :=
  (lo.toUInt16 ||| hi.toUInt16 <<< 8).toInt16.toInt32

/-- Parse keyboard message payload. -/
def parseKeyboardMessage : List UInt8 → Option HidChannelEvent
  | eventType :: code :: modifiers :: _ => do
    let eventType ←
      if eventType = KB_EVENT_DOWN then some KeyEventType.down
      else if eventType = KB_EVENT_UP then some .up
      else none
    let key ← CanonicalKey.fromHidUsage code
    some (.keyboard { eventType, key, modifiers := .ofByte modifiers })
  | _ => none

/-- The event type byte of a mouse message. -/
def mouseEventType (b : UInt8) : Option MouseEventType :=
  if b = MS_EVENT_MOVE then some .move
  else if b = MS_EVENT_MOVE_ABS then some .moveAbs
  else if b = MS_EVENT_DOWN then some .down
  else if b = MS_EVENT_UP then some .up
  else if b = MS_EVENT_SCROLL then some .scroll
  else none

/-- The button byte of a press or release; an unknown button is the left one. -/
def mouseButton (b : UInt8) : MouseButton :=
  if b = 1 then .middle
  else if b = 2 then .right
  else if b = 3 then .back
  else if b = 4 then .forward
  else .left

/-- Parse mouse message payload. -/
def parseMouseMessage : List UInt8 → Option HidChannelEvent
  | eventType :: xLo :: xHi :: yLo :: yHi :: extra :: _ => do
    let eventType ← mouseEventType eventType
    let (button, scroll) : Option MouseButton × Int8 :=
      match eventType with
      | .down | .up => (some (mouseButton extra), 0)
      | .scroll => (none, extra.toInt8)
      | _ => (none, 0)
    some (.mouse
      { eventType, x := i16FromLeBytes xLo xHi, y := i16FromLeBytes yLo yHi, button, scroll })
  | _ => none

/-- Parse consumer control message payload. -/
def parseConsumerMessage : List UInt8 → Option HidChannelEvent
  | lo :: hi :: _ => some (.consumer { usage := lo.toUInt16 ||| hi.toUInt16 <<< 8 })
  | _ => none

/-- Parse a binary HID message. -/
def parseHidMessage : List UInt8 → Option HidChannelEvent
  | [] => none
  | msgType :: data =>
      if msgType = MSG_KEYBOARD then parseKeyboardMessage data
      else if msgType = MSG_MOUSE then parseMouseMessage data
      else if msgType = MSG_CONSUMER then parseConsumerMessage data
      else none

example : parseHidMessage [0x01, 0x00, 0x04, 0x01] =
    some (.keyboard { eventType := .down, key := .keyA, modifiers := { leftCtrl := true } }) := by
  decide

/-! ## Encoding -/

/-- `(v as i16).to_le_bytes()`. -/
def i16ToLeBytes (v : Int32) : UInt8 × UInt8 :=
  let u := v.toInt16.toUInt16
  (u.toUInt8, (u >>> 8).toUInt8)

/-- Encode a keyboard event to binary format. -/
def encodeKeyboardEvent (event : KeyboardEvent) : List UInt8 :=
  let eventType :=
    match event.eventType with
    | .down => KB_EVENT_DOWN
    | .up => KB_EVENT_UP
  [MSG_KEYBOARD, eventType, event.key.toHidUsage, event.modifiers.toHidByte]

def MouseEventType.toByte : MouseEventType → UInt8
  | .move => MS_EVENT_MOVE
  | .moveAbs => MS_EVENT_MOVE_ABS
  | .down => MS_EVENT_DOWN
  | .up => MS_EVENT_UP
  | .scroll => MS_EVENT_SCROLL

def MouseButton.toByte : MouseButton → UInt8
  | .left => 0
  | .middle => 1
  | .right => 2
  | .back => 3
  | .forward => 4

/-- The byte behind the coordinates: a button or a scroll delta. -/
def MouseEvent.extra (event : MouseEvent) : UInt8 :=
  match event.eventType with
  | .down | .up => (event.button.map MouseButton.toByte).getD 0
  | .scroll => event.scroll.toUInt8
  | _ => 0

/-- Encode a mouse event to binary format. -/
def encodeMouseEvent (event : MouseEvent) : List UInt8 :=
  let (xLo, xHi) := i16ToLeBytes event.x
  let (yLo, yHi) := i16ToLeBytes event.y
  [MSG_MOUSE, event.eventType.toByte, xLo, xHi, yLo, yHi, event.extra]

/-- The encoder of an event; consumer events have none. -/
def HidChannelEvent.encode : HidChannelEvent → Option (List UInt8)
  | keyboard event => some (encodeKeyboardEvent event)
  | mouse event => some (encodeMouseEvent event)
  | consumer _ => none

end StreamBox.Hid
