import StreamBox.Hid.Types
import StreamBox.RustDesk.Protocol

/-!
# RustDesk HID adapter

Converts RustDesk key and mouse events to the events of the HID controller.
-/

namespace StreamBox.RustDesk

open StreamBox.Hid (CanonicalKey KeyEventType KeyboardEvent KeyboardModifiers MouseButton
  MouseEventType)

/-! ## Mouse events -/

namespace MouseType

def MOVE : Int32 := 0
def DOWN : Int32 := 1
def UP : Int32 := 2
def WHEEL : Int32 := 3
def TRACKPAD : Int32 := 4
def MOVE_RELATIVE : Int32 := 5

end MouseType

/-- RustDesk button ids, before the shift by three. -/
def buttonIdToButton (buttonId : Int32) : Option MouseButton :=
  if buttonId = 0x01 then some .left
  else if buttonId = 0x02 then some .right
  else if buttonId = 0x04 then some .middle
  else none

/-- Parse the mask: `(button << 3) | event_type`. -/
def MouseEvent.eventType (event : MouseEvent) : Int32 := event.mask &&& 0x07

def MouseEvent.buttonId (event : MouseEvent) : Int32 := event.mask >>> 3

/-- Normalize a coordinate to the 0-32767 range of the absolute mouse. -/
def absCoord (v : Int32) (size : UInt32) : Int32 :=
  .ofInt (max v.toInt 0 * 32767 / max size.toNat 1)

def absMove (event : MouseEvent) (screenWidth screenHeight : UInt32) : Hid.MouseEvent :=
  { eventType := .moveAbs
    x := absCoord event.x screenWidth
    y := absCoord event.y screenHeight }

/-- Convert a RustDesk mouse event to the events of the HID controller: outside
relative mode every kind but a relative move starts with an absolute move. -/
def convertMouseEvent (event : MouseEvent) (screenWidth screenHeight : UInt32)
    (relativeMode : Bool) : List Hid.MouseEvent :=
  let move := absMove event screenWidth screenHeight
  let absMoves := if relativeMode then [] else [move]
  let button (type : MouseEventType) : List Hid.MouseEvent :=
    match buttonIdToButton event.buttonId with
    | some button => [{ eventType := type, button := some button }]
    | none => []
  if event.eventType = MouseType.MOVE then [move]
  else if event.eventType = MouseType.MOVE_RELATIVE then
    [{ eventType := .move, x := event.x, y := event.y }]
  else if event.eventType = MouseType.DOWN then absMoves ++ button .down
  else if event.eventType = MouseType.UP then absMoves ++ button .up
  else if event.eventType = MouseType.WHEEL then
    -- positive y scrolls up; zero and negative y scroll down
    absMoves ++ [{ eventType := .scroll, scroll := if event.y > 0 then 1 else -1 }]
  else absMoves

/-! ## Key events -/

/-- The HID usage of a control key. -/
def controlKeyTable : List (Int × UInt8) :=
  [(ControlKey.alt, 0xE2), (ControlKey.backspace, 0x2A), (ControlKey.capsLock, 0x39),
    (ControlKey.control, 0xE0), (ControlKey.delete, 0x4C), (ControlKey.downArrow, 0x51),
    (ControlKey.«end», 0x4D), (ControlKey.escape, 0x29), (ControlKey.f1, 0x3A),
    (ControlKey.f2, 0x3B), (ControlKey.f3, 0x3C), (ControlKey.f4, 0x3D), (ControlKey.f5, 0x3E),
    (ControlKey.f6, 0x3F), (ControlKey.f7, 0x40), (ControlKey.f8, 0x41), (ControlKey.f9, 0x42),
    (ControlKey.f10, 0x43), (ControlKey.f11, 0x44), (ControlKey.f12, 0x45),
    (ControlKey.home, 0x4A), (ControlKey.leftArrow, 0x50), (ControlKey.«meta», 0xE3),
    (ControlKey.pageDown, 0x4E), (ControlKey.pageUp, 0x4B), (ControlKey.«return», 0x28),
    (ControlKey.rightArrow, 0x4F), (ControlKey.shift, 0xE1), (ControlKey.space, 0x2C),
    (ControlKey.tab, 0x2B), (ControlKey.upArrow, 0x52), (ControlKey.numpad0, 0x62),
    (ControlKey.numpad1, 0x59), (ControlKey.numpad2, 0x5A), (ControlKey.numpad3, 0x5B),
    (ControlKey.numpad4, 0x5C), (ControlKey.numpad5, 0x5D), (ControlKey.numpad6, 0x5E),
    (ControlKey.numpad7, 0x5F), (ControlKey.numpad8, 0x60), (ControlKey.numpad9, 0x61),
    (ControlKey.insert, 0x49), (ControlKey.pause, 0x48), (ControlKey.scroll, 0x47),
    (ControlKey.numLock, 0x53), (ControlKey.rShift, 0xE5), (ControlKey.rControl, 0xE4),
    (ControlKey.rAlt, 0xE6), (ControlKey.multiply, 0x55), (ControlKey.add, 0x57),
    (ControlKey.subtract, 0x56), (ControlKey.decimal, 0x63), (ControlKey.divide, 0x54),
    (ControlKey.numpadEnter, 0x58)]

def controlKeyToHid (key : Int) : Option UInt8 := controlKeyTable.lookup key

/-- A run of codes mapped to a run of usages from `base`. -/
def codeRun (code lo hi : Nat) (base : UInt8) : Option UInt8 :=
  if lo ≤ code ∧ code ≤ hi then some (UInt8.ofNat (code - lo) + base) else none

/-- Common keys by their ASCII code (US keyboard layout). -/
def asciiTable : List (Nat × UInt8) :=
  [(48, 0x27), (32, 0x2C), (13, 0x28), (10, 0x28), (9, 0x2B), (27, 0x29), (8, 0x2A), (127, 0x4C),
    (45, 0x2D), (61, 0x2E), (91, 0x2F), (93, 0x30), (92, 0x31), (59, 0x33), (39, 0x34),
    (96, 0x35), (44, 0x36), (46, 0x37), (47, 0x38)]

/-- Convert ASCII code to USB HID usage code. -/
def asciiToHid (ascii : Nat) : Option UInt8 :=
  codeRun ascii 97 122 0x04 <|> codeRun ascii 65 90 0x04 <|> codeRun ascii 49 57 0x1E <|>
    asciiTable.lookup ascii

/-- The Windows virtual keys outside the runs. -/
def windowsVkTable : List (Nat × UInt8) :=
  [(0x30, 0x27), (0x60, 0x62), (0x6A, 0x55), (0x6B, 0x57), (0x6D, 0x56), (0x6E, 0x63),
    (0x6F, 0x54), (0x08, 0x2A), (0x09, 0x2B), (0x0D, 0x28), (0x1B, 0x29), (0x20, 0x2C),
    (0x21, 0x4B), (0x22, 0x4E), (0x23, 0x4D), (0x24, 0x4A), (0x25, 0x50), (0x26, 0x52),
    (0x27, 0x4F), (0x28, 0x51), (0x2D, 0x49), (0x2E, 0x4C), (0xBA, 0x33), (0xBB, 0x2E),
    (0xBC, 0x36), (0xBD, 0x2D), (0xBE, 0x37), (0xBF, 0x38), (0xC0, 0x35), (0xDB, 0x2F),
    (0xDC, 0x31), (0xDD, 0x30), (0xDE, 0x34), (0x14, 0x39), (0x90, 0x53), (0x91, 0x47),
    (0x2C, 0x46), (0x13, 0x48)]

/-- Convert Windows Virtual Key Code to USB HID usage code. -/
def windowsVkToHid (vk : Nat) : Option UInt8 :=
  codeRun vk 0x41 0x5A 0x04 <|> codeRun vk 0x31 0x39 0x1E <|> codeRun vk 0x61 0x69 0x59 <|>
    codeRun vk 0x70 0x7B 0x3A <|> windowsVkTable.lookup vk

/-- The X11 keycodes outside the digit run (letters are row-based). -/
def x11Table : List (Nat × UInt8) :=
  [(19, 0x27), (20, 0x2D), (21, 0x2E), (34, 0x2F), (35, 0x30), (24, 0x14), (25, 0x1A), (26, 0x08),
    (27, 0x15), (28, 0x17), (29, 0x1C), (30, 0x18), (31, 0x0C), (32, 0x12), (33, 0x13),
    (38, 0x04), (39, 0x16), (40, 0x07), (41, 0x09), (42, 0x0A), (43, 0x0B), (44, 0x0D),
    (45, 0x0E), (46, 0x0F), (47, 0x33), (48, 0x34), (49, 0x35), (51, 0x31), (52, 0x1D),
    (53, 0x1B), (54, 0x06), (55, 0x19), (56, 0x05), (57, 0x11), (58, 0x10), (59, 0x36),
    (60, 0x37), (61, 0x38), (65, 0x2C)]

/-- Convert X11 keycode to USB HID usage code (for Linux clients). -/
def x11KeycodeToHid (keycode : Nat) : Option UInt8 :=
  codeRun keycode 10 18 0x1E <|> x11Table.lookup keycode

/-- ASCII codes first, then Windows virtual keys, then X11 keycodes. -/
def keycodeToHid (keycode : UInt32) : Option UInt8 :=
  asciiToHid keycode.toNat <|> windowsVkToHid keycode.toNat <|> x11KeycodeToHid keycode.toNat

/-- Check if the event is a modifier key sent as a control key. -/
def isModifierControlKey (event : KeyEvent) : Bool :=
  match event.union with
  | some (.controlKey val) =>
      [ControlKey.control, ControlKey.shift, ControlKey.alt, ControlKey.«meta», ControlKey.rControl,
        ControlKey.rShift, ControlKey.rAlt].contains val
  | _ => false

/-- Parse modifier keys into the modifier flags. -/
def parseModifiers (event : KeyEvent) : KeyboardModifiers :=
  { leftCtrl := event.modifiers.contains ControlKey.control
    leftShift := event.modifiers.contains ControlKey.shift
    leftAlt := event.modifiers.contains ControlKey.alt
    leftMeta := event.modifiers.contains ControlKey.«meta»
    rightCtrl := event.modifiers.contains ControlKey.rControl
    rightShift := event.modifiers.contains ControlKey.rShift
    rightAlt := event.modifiers.contains ControlKey.rAlt }

/-- Convert a RustDesk key event to a keyboard event. -/
def convertKeyEvent (event : KeyEvent) : Option KeyboardEvent := do
  let eventType := if event.down || event.press then KeyEventType.down else .up
  let modifiers := if isModifierControlKey event then {} else parseModifiers event
  let usage ← match event.union with
    | some (.controlKey ck) => controlKeyToHid ck
    | some (.chr chr) => keycodeToHid chr
    -- unicode input is skipped
    | _ => none
  let key ← CanonicalKey.fromHidUsage usage
  return { eventType, key, modifiers }

end StreamBox.RustDesk
