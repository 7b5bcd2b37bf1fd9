import Mathlib.Logic.Function.Basic

/-!
# Canonical keys

The key identifiers shared by the frontend and the HID backends, and their USB
HID usages on the keyboard page.
-/

namespace StreamBox.Hid

/-- Shared canonical keyboard key identifiers. -/
inductive CanonicalKey
  | keyA | keyB | keyC | keyD | keyE | keyF | keyG | keyH | keyI | keyJ | keyK | keyL | keyM
  | keyN | keyO | keyP | keyQ | keyR | keyS | keyT | keyU | keyV | keyW | keyX | keyY | keyZ
  | digit1 | digit2 | digit3 | digit4 | digit5 | digit6 | digit7 | digit8 | digit9 | digit0
  | enter | escape | backspace | tab | space | minus | equal | bracketLeft | bracketRight
  | backslash | semicolon | quote | backquote | comma | period | slash | capsLock | f1 | f2 | f3
  | f4 | f5 | f6 | f7 | f8 | f9 | f10 | f11 | f12 | printScreen | scrollLock | pause | insert
  | home | pageUp | delete | end | pageDown | arrowRight | arrowLeft | arrowDown | arrowUp
  | numLock | numpadDivide | numpadMultiply | numpadSubtract | numpadAdd | numpadEnter | numpad1
  | numpad2 | numpad3 | numpad4 | numpad5 | numpad6 | numpad7 | numpad8 | numpad9 | numpad0
  | numpadDecimal | intlBackslash | contextMenu | f13 | f14 | f15 | f16 | f17 | f18 | f19 | f20
  | f21 | f22 | f23 | f24 | controlLeft | shiftLeft | altLeft | metaLeft | controlRight
  | shiftRight | altRight | metaRight
  deriving DecidableEq, Repr

namespace CanonicalKey

/-- The USB HID usage of the key. -/
def toHidUsage : CanonicalKey → UInt8
  | .keyA => 0x04 | .keyB => 0x05 | .keyC => 0x06 | .keyD => 0x07 | .keyE => 0x08 | .keyF => 0x09
  | .keyG => 0x0A | .keyH => 0x0B | .keyI => 0x0C | .keyJ => 0x0D | .keyK => 0x0E | .keyL => 0x0F
  | .keyM => 0x10 | .keyN => 0x11 | .keyO => 0x12 | .keyP => 0x13 | .keyQ => 0x14 | .keyR => 0x15
  | .keyS => 0x16 | .keyT => 0x17 | .keyU => 0x18 | .keyV => 0x19 | .keyW => 0x1A | .keyX => 0x1B
  | .keyY => 0x1C | .keyZ => 0x1D | .digit1 => 0x1E | .digit2 => 0x1F | .digit3 => 0x20
  | .digit4 => 0x21 | .digit5 => 0x22 | .digit6 => 0x23 | .digit7 => 0x24 | .digit8 => 0x25
  | .digit9 => 0x26 | .digit0 => 0x27 | .enter => 0x28 | .escape => 0x29 | .backspace => 0x2A
  | .tab => 0x2B | .space => 0x2C | .minus => 0x2D | .equal => 0x2E | .bracketLeft => 0x2F
  | .bracketRight => 0x30 | .backslash => 0x31 | .semicolon => 0x33 | .quote => 0x34
  | .backquote => 0x35 | .comma => 0x36 | .period => 0x37 | .slash => 0x38 | .capsLock => 0x39
  | .f1 => 0x3A | .f2 => 0x3B | .f3 => 0x3C | .f4 => 0x3D | .f5 => 0x3E | .f6 => 0x3F
  | .f7 => 0x40 | .f8 => 0x41 | .f9 => 0x42 | .f10 => 0x43 | .f11 => 0x44 | .f12 => 0x45
  | .printScreen => 0x46 | .scrollLock => 0x47 | .pause => 0x48 | .insert => 0x49 | .home => 0x4A
  | .pageUp => 0x4B | .delete => 0x4C | .end => 0x4D | .pageDown => 0x4E | .arrowRight => 0x4F
  | .arrowLeft => 0x50 | .arrowDown => 0x51 | .arrowUp => 0x52 | .numLock => 0x53
  | .numpadDivide => 0x54 | .numpadMultiply => 0x55 | .numpadSubtract => 0x56
  | .numpadAdd => 0x57 | .numpadEnter => 0x58 | .numpad1 => 0x59 | .numpad2 => 0x5A
  | .numpad3 => 0x5B | .numpad4 => 0x5C | .numpad5 => 0x5D | .numpad6 => 0x5E | .numpad7 => 0x5F
  | .numpad8 => 0x60 | .numpad9 => 0x61 | .numpad0 => 0x62 | .numpadDecimal => 0x63
  | .intlBackslash => 0x64 | .contextMenu => 0x65 | .f13 => 0x68 | .f14 => 0x69 | .f15 => 0x6A
  | .f16 => 0x6B | .f17 => 0x6C | .f18 => 0x6D | .f19 => 0x6E | .f20 => 0x6F | .f21 => 0x70
  | .f22 => 0x71 | .f23 => 0x72 | .f24 => 0x73 | .controlLeft => 0xE0 | .shiftLeft => 0xE1
  | .altLeft => 0xE2 | .metaLeft => 0xE3 | .controlRight => 0xE4 | .shiftRight => 0xE5
  | .altRight => 0xE6 | .metaRight => 0xE7

/-- The canonical key of a USB HID usage. -/
def fromHidUsage (usage : UInt8) : Option CanonicalKey :=
  match usage with
  | 0x04 => some .keyA | 0x05 => some .keyB | 0x06 => some .keyC | 0x07 => some .keyD
  | 0x08 => some .keyE | 0x09 => some .keyF | 0x0A => some .keyG | 0x0B => some .keyH
  | 0x0C => some .keyI | 0x0D => some .keyJ | 0x0E => some .keyK | 0x0F => some .keyL
  | 0x10 => some .keyM | 0x11 => some .keyN | 0x12 => some .keyO | 0x13 => some .keyP
  | 0x14 => some .keyQ | 0x15 => some .keyR | 0x16 => some .keyS | 0x17 => some .keyT
  | 0x18 => some .keyU | 0x19 => some .keyV | 0x1A => some .keyW | 0x1B => some .keyX
  | 0x1C => some .keyY | 0x1D => some .keyZ | 0x1E => some .digit1 | 0x1F => some .digit2
  | 0x20 => some .digit3 | 0x21 => some .digit4 | 0x22 => some .digit5 | 0x23 => some .digit6
  | 0x24 => some .digit7 | 0x25 => some .digit8 | 0x26 => some .digit9 | 0x27 => some .digit0
  | 0x28 => some .enter | 0x29 => some .escape | 0x2A => some .backspace | 0x2B => some .tab
  | 0x2C => some .space | 0x2D => some .minus | 0x2E => some .equal | 0x2F => some .bracketLeft
  | 0x30 => some .bracketRight | 0x31 => some .backslash | 0x33 => some .semicolon
  | 0x34 => some .quote | 0x35 => some .backquote | 0x36 => some .comma | 0x37 => some .period
  | 0x38 => some .slash | 0x39 => some .capsLock | 0x3A => some .f1 | 0x3B => some .f2
  | 0x3C => some .f3 | 0x3D => some .f4 | 0x3E => some .f5 | 0x3F => some .f6 | 0x40 => some .f7
  | 0x41 => some .f8 | 0x42 => some .f9 | 0x43 => some .f10 | 0x44 => some .f11
  | 0x45 => some .f12 | 0x46 => some .printScreen | 0x47 => some .scrollLock
  | 0x48 => some .pause | 0x49 => some .insert | 0x4A => some .home | 0x4B => some .pageUp
  | 0x4C => some .delete | 0x4D => some .end | 0x4E => some .pageDown | 0x4F => some .arrowRight
  | 0x50 => some .arrowLeft | 0x51 => some .arrowDown | 0x52 => some .arrowUp
  | 0x53 => some .numLock | 0x54 => some .numpadDivide | 0x55 => some .numpadMultiply
  | 0x56 => some .numpadSubtract | 0x57 => some .numpadAdd | 0x58 => some .numpadEnter
  | 0x59 => some .numpad1 | 0x5A => some .numpad2 | 0x5B => some .numpad3 | 0x5C => some .numpad4
  | 0x5D => some .numpad5 | 0x5E => some .numpad6 | 0x5F => some .numpad7 | 0x60 => some .numpad8
  | 0x61 => some .numpad9 | 0x62 => some .numpad0 | 0x63 => some .numpadDecimal
  | 0x64 => some .intlBackslash | 0x65 => some .contextMenu | 0x68 => some .f13
  | 0x69 => some .f14 | 0x6A => some .f15 | 0x6B => some .f16 | 0x6C => some .f17
  | 0x6D => some .f18 | 0x6E => some .f19 | 0x6F => some .f20 | 0x70 => some .f21
  | 0x71 => some .f22 | 0x72 => some .f23 | 0x73 => some .f24 | 0xE0 => some .controlLeft
  | 0xE1 => some .shiftLeft | 0xE2 => some .altLeft | 0xE3 => some .metaLeft
  | 0xE4 => some .controlRight | 0xE5 => some .shiftRight | 0xE6 => some .altRight
  | 0xE7 => some .metaRight
  | _ => none

def isModifier : CanonicalKey → Bool
  | .controlLeft | .shiftLeft | .altLeft | .metaLeft | .controlRight | .shiftRight | .altRight
  | .metaRight => true
  | _ => false

def modifierBit : CanonicalKey → Option UInt8
  | .controlLeft => some 0x01 | .shiftLeft => some 0x02 | .altLeft => some 0x04
  | .metaLeft => some 0x08 | .controlRight => some 0x10 | .shiftRight => some 0x20
  | .altRight => some 0x40 | .metaRight => some 0x80
  | _ => none

theorem fromHidUsage_toHidUsage (k : CanonicalKey) : fromHidUsage k.toHidUsage = some k := by
  cases k <;> rfl

/-- Distinct keys have distinct usages. -/
theorem toHidUsage_injective : Function.Injective toHidUsage := by
  intro a b h
  have hab : some a = some b := by
    rw [← fromHidUsage_toHidUsage a, h, fromHidUsage_toHidUsage b]
  exact Option.some.inj hab

/-- No key has the usage of an empty slot. -/
theorem toHidUsage_ne_zero (k : CanonicalKey) : k.toHidUsage ≠ 0 := by
  cases k <;> decide

end CanonicalKey

end StreamBox.Hid
