import StreamBox.Lib.LittleEndian

/-!
# UTF-16 names on an exFAT volume

File names are stored as UTF-16 code units. This module has the standard
library's UTF-16 coding of strings, and the per-unit upper-case mapping that the
volume's up-case table and the name hash use. Code units are numbers below
`2 ^ 16`.
-/

namespace StreamBox.Exfat

/-! ## UTF-16 coding -/

/-- The code units of one character: itself, or a surrogate pair. -/
def encodeUtf16Char (c : Char) : List Nat :=
  let v := c.toNat
  if v < 0x10000 then [v]
  else [0xD800 + (v - 0x10000) / 0x400, 0xDC00 + (v - 0x10000) % 0x400]

/-- `str::encode_utf16`. -/
def encodeUtf16 (s : String) : List Nat := s.toList.flatMap encodeUtf16Char

/-- A code unit of the surrogate range. -/
def isSurrogate (u : Nat) : Bool := 0xD800 ≤ u && u ≤ 0xDFFF

/-- The second unit of a surrogate pair. -/
def isLowSurrogate (u : Nat) : Bool := 0xDC00 ≤ u && u ≤ 0xDFFF

/-- `char::decode_utf16` with the unpaired surrogates filtered out. -/
def decodeUtf16 : List Nat → List Char
  | [] => []
  | u :: rest =>
    if !isSurrogate u then Char.ofNat u :: decodeUtf16 rest
    else if 0xDC00 ≤ u then decodeUtf16 rest
    else
      match rest with
      | [] => []
      | u₂ :: rest₂ =>
        if isLowSurrogate u₂ then
          Char.ofNat (0x10000 + (u - 0xD800) * 0x400 + (u₂ - 0xDC00)) :: decodeUtf16 rest₂
        else decodeUtf16 (u₂ :: rest₂)

/-- Length of a string in bytes. -/
def utf8Len (s : String) : Nat := s.toList.foldl (fun len c => len + c.utf8Size) 0

/-- `str::to_lowercase`, left open: the lookup only compares its results. -/
class Lowercase where
  toLowercase : String → String

export Lowercase (toLowercase)

/-! ## Upper-case mapping -/

/-- The one-to-one mappings of Latin Extended-A. -/
def latinExtendedA : List (Nat × Nat) :=
  [(0x0101, 0x0100), (0x0103, 0x0102), (0x0105, 0x0104), (0x0107, 0x0106), (0x0109, 0x0108),
   (0x010B, 0x010A), (0x010D, 0x010C), (0x010F, 0x010E), (0x0111, 0x0110), (0x0113, 0x0112),
   (0x0115, 0x0114), (0x0117, 0x0116), (0x0119, 0x0118), (0x011B, 0x011A), (0x011D, 0x011C),
   (0x011F, 0x011E), (0x0121, 0x0120), (0x0123, 0x0122), (0x0125, 0x0124), (0x0127, 0x0126),
   (0x0129, 0x0128), (0x012B, 0x012A), (0x012D, 0x012C), (0x012F, 0x012E), (0x0131, 0x0049),
   (0x0133, 0x0132), (0x0135, 0x0134), (0x0137, 0x0136), (0x013A, 0x0139), (0x013C, 0x013B),
   (0x013E, 0x013D), (0x0140, 0x013F), (0x0142, 0x0141), (0x0144, 0x0143), (0x0146, 0x0145),
   (0x0148, 0x0147), (0x014B, 0x014A), (0x014D, 0x014C), (0x014F, 0x014E), (0x0151, 0x0150),
   (0x0153, 0x0152), (0x0155, 0x0154), (0x0157, 0x0156), (0x0159, 0x0158), (0x015B, 0x015A),
   (0x015D, 0x015C), (0x015F, 0x015E), (0x0161, 0x0160), (0x0163, 0x0162), (0x0165, 0x0164),
   (0x0167, 0x0166), (0x0169, 0x0168), (0x016B, 0x016A), (0x016D, 0x016C), (0x016F, 0x016E),
   (0x0171, 0x0170), (0x0173, 0x0172), (0x0175, 0x0174), (0x0177, 0x0176), (0x017A, 0x0179),
   (0x017C, 0x017B), (0x017E, 0x017D), (0x017F, 0x0053)]

/-- Convert a UTF-16 code unit to uppercase. -/
def toUppercaseSimple (ch : Nat) : Nat :=
  -- ASCII, then Latin-1 Supplement
  if 0x0061 ≤ ch ∧ ch ≤ 0x007A then ch - 32
  else if (0x00E0 ≤ ch ∧ ch ≤ 0x00F6) ∨ (0x00F8 ≤ ch ∧ ch ≤ 0x00FE) then ch - 32
  else match latinExtendedA.lookup ch with
    | some upper => upper
    | none =>
      -- Greek, with the final sigma on its own
      if 0x03B1 ≤ ch ∧ ch ≤ 0x03C1 then ch - 32
      else if 0x03C3 ≤ ch ∧ ch ≤ 0x03C9 then ch - 32
      else if ch = 0x03C2 then 0x03A3
      -- Cyrillic and its extension
      else if 0x0430 ≤ ch ∧ ch ≤ 0x044F then ch - 32
      else if 0x0450 ≤ ch ∧ ch ≤ 0x045F then ch - 80
      else ch

/-- The up-case table: the mapping of every code unit, two bytes each. -/
def generateUpcaseTable : List UInt8 :=
  (List.range 65536).flatMap fun i => leBytes 2 (toUppercaseSimple i)

/-- The table is 128KB. -/
theorem length_generateUpcaseTable : generateUpcaseTable.length = 128 * 1024 := by
  simp only [generateUpcaseTable, List.length_flatMap, length_leBytes, List.map_const',
    List.length_range, List.sum_replicate_nat]

/-- `u16::rotate_right(1)`. -/
def rotateRight16 (h : Nat) : Nat := h / 2 + h % 2 * 2 ^ 15

/-- One rotate-and-add step of the 16-bit checksums. -/
def addRotated (hash byte : Nat) : Nat := (rotateRight16 hash + byte) % 2 ^ 16

/-- The name hash of the Stream Extension entry. -/
def calculateNameHash (name : String) : Nat :=
  (encodeUtf16 name).foldl (fun hash ch =>
    let upper := toUppercaseSimple ch
    addRotated (addRotated hash (upper % 256)) (upper / 256)) 0

end StreamBox.Exfat
