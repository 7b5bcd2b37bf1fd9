import Mathlib.Data.List.Forall2
import StreamBox.Config.Otg
import StreamBox.Lib.Trimming
import StreamBox.Lib.Utf8

/-!
# Wake-on-LAN requests

`atx_wol` normalizes the address for the history, and `send_wol` parses what is normalized.

* **Addresses** — `normalize_of_spells`, `parse_of_spells`: an address in six groups of two digits,
  or in twelve digits, is parsed to its bytes, and has one normal form.
* **Requests** — `correct_iff`: two requests are accepted, keyed and sent as they ought to be just
  when neither is loose: accepted by `from_str_radix` alone.
* **Failure** — `short_groups`
-/

namespace StreamBox.Atx.Wol

open StreamBox.Lib StreamBox.Lib.Utf8
open StreamBox.Config (isWhitespace)
open StreamBox.Config.Sections (AppError)

abbrev Text := List Char

/-! ## Digits -/

def hexTable : List (Char × Nat) :=
  [('0', 0), ('1', 1), ('2', 2), ('3', 3), ('4', 4), ('5', 5), ('6', 6), ('7', 7), ('8', 8),
    ('9', 9), ('a', 10), ('b', 11), ('c', 12), ('d', 13), ('e', 14), ('f', 15), ('A', 10),
    ('B', 11), ('C', 12), ('D', 13), ('E', 14), ('F', 15)]

/-- `to_digit(16)` -/
def hexDigit (c : Char) : Option Nat := hexTable.lookup c

def isHex (c : Char) : Bool := (hexDigit c).isSome

/-- The digits without a plus sign before them. -/
def digitsOf (part : Text) : Text := if part.head? = some '+' then part.tail else part

/-- `u8::from_str_radix` with the radix 16, for any number of digits. -/
def fromStrRadix (part : Text) : Option UInt8 :=
  if digitsOf part = [] then none
  else
    ((digitsOf part).foldlM (fun n c => (hexDigit c).map fun d => n * 16 + d) 0).bind fun n =>
      if n ≤ 255 then some (UInt8.ofNat n) else none

/-! ## Upper case -/

/-- The characters that a normalized address may have. -/
def addressChars : List Char := ['+', ':', '-'] ++ hexTable.map Prod.fst

/-- What each of them is found to be. -/
theorem forall_addressChars (p : Char → Prop) [DecidablePred p]
    (h : (addressChars.all fun c => decide (p c)) = true) : ∀ c ∈ addressChars, p c :=
  fun c hc => of_decide_eq_true (List.all_eq_true.mp h c hc)

/-- No character of an address, nor the ligature that becomes two of them. -/
def IsForeign (c : Char) : Prop := c ∉ addressChars ∧ c ≠ '\uFB00'

instance (c : Char) : Decidable (IsForeign c) :=
  inferInstanceAs (Decidable (c ∉ addressChars ∧ c ≠ '\uFB00'))

/-- The Unicode table of `char::to_uppercase`, with what every Unicode version has of it. -/
structure UppercaseTable where
  upper : Char → List Char
  ascii : ∀ c : Char, c.toNat < 128 → upper c = [c.toUpper]
  /-- The ligature of two `f`. -/
  ligature : upper '\uFB00' = ['F', 'F']
  visible : ∀ c, isWhitespace c = false → upper c ≠ [] ∧ ∀ d ∈ upper c, isWhitespace d = false
  /-- No other character becomes a part of an address. -/
  foreign : ∀ c : Char, 128 ≤ c.toNat → c ≠ '\uFB00' → ∃ d ∈ upper c, IsForeign d

variable (u : UppercaseTable)

def UppercaseTable.toUppercase (s : Text) : Text := s.flatMap u.upper

def trim (s : Text) : Text := trimEnds isWhitespace s

def colon (c : Char) : Char := if c = '-' then ':' else c

/-! ## Addresses -/

/-- Colons between the pairs of characters. -/
def chunked : Text → Text
  | a :: b :: c :: rest => a :: b :: ':' :: chunked (c :: rest)
  | rest => rest

def normalizeWolMacAddress (macAddress : Text) : Text :=
  let normalized := (u.toUppercase (trim macAddress)).map colon
  if utf8Size normalized = 12 ∧ normalized.all isHex then chunked normalized else normalized

def parseBytes : List Text → Except AppError (List UInt8)
  | [] => .ok []
  | part :: parts =>
    (fromStrRadix part).elim
      (.error (.config ("Invalid MAC address byte: " ++ String.ofList part))) fun byte =>
        (parseBytes parts).map (byte :: ·)

def parseParts (parts : List Text) : Except AppError (List UInt8) :=
  if parts.length ≠ 6 then
    .error (.config s!"Invalid MAC address: expected 6 parts, got {parts.length}")
  else parseBytes parts

def parseMacAddress (mac : Text) : Except AppError (List UInt8) :=
  let mac := u.toUppercase (trim mac)
  if ':' ∈ mac then parseParts (mac.splitOn ':')
  else if '-' ∈ mac then parseParts (mac.splitOn '-')
  else .error (.config ("Invalid MAC address format: " ++ String.ofList mac))

/-! ## Requests -/

def magicPacketSize : Nat := 102

/-- `copy_from_slice` into the places from `offset` on. -/
def copyAt (offset : Nat) (data packet : List UInt8) : List UInt8 :=
  packet.take offset ++ data ++ packet.drop (offset + data.length)

/-- Six bytes of 0xFF, and 16 repetitions of the address. -/
def buildMagicPacket (mac : List UInt8) : List UInt8 :=
  let packet := copyAt 0 (List.replicate 6 0xFF) (List.replicate magicPacketSize 0)
  (List.range 16).foldl (fun packet i => copyAt (6 + i * 6) mac packet) packet

/-- The packet that is sent; `network` gives the error of the sockets for it. -/
def sendWol (network : List UInt8 → Option String) (macAddress : Text) :
    Except AppError (List UInt8) :=
  (parseMacAddress u macAddress).bind fun mac =>
    (network (buildMagicPacket mac)).elim (.ok (buildMagicPacket mac)) fun e =>
      .error (.internal e)

/-- A request that has been carried out: the packet, and the key in the history. -/
structure Sent where
  packet : List UInt8
  key : Text
  deriving DecidableEq, Repr

def atxWol (network : List UInt8 → Option String) (macAddress : Text) : Except AppError Sent :=
  let normalized := normalizeWolMacAddress u macAddress
  (sendWol u network normalized).map fun packet => ⟨packet, normalized⟩

/-! ## The property and its condition -/

/-- Two digits of this value. -/
def IsGroup (group : Text) (byte : UInt8) : Prop :=
  ∃ x y high low, group = [x, y] ∧ hexDigit x = some high ∧ hexDigit y = some low ∧
    byte.toNat = high * 16 + low

/-- The text has six groups of two digits with `:` or `-` between them, or nothing. -/
def Spells (t : Text) (mac : List UInt8) : Prop :=
  mac.length = 6 ∧ ∃ groups, List.Forall₂ IsGroup groups mac ∧
    (t.map colon = [':'].intercalate groups ∨ t = groups.flatten)

/-- A request is accepted, unless the network fails, if the text is an address, and the packet has
its bytes. -/
def Accepted (s : Text) : Prop :=
  ((∃ sent, atxWol u (fun _ => none) s = .ok sent) ↔ ∃ mac, Spells (trim s) mac) ∧
    ∀ mac sent, Spells (trim s) mac → atxWol u (fun _ => none) s = .ok sent →
      sent.packet = List.replicate 6 0xFF ++ (List.replicate 16 mac).flatten

/-- Two requests are accepted as they ought to be, with one key if they have the same bytes. -/
structure Correct (s s' : Text) : Prop where
  first : Accepted u s
  second : Accepted u s'
  key : ∀ mac sent sent', parseMacAddress u (normalizeWolMacAddress u s) = .ok mac →
    parseMacAddress u (normalizeWolMacAddress u s') = .ok mac →
    atxWol u (fun _ => none) s = .ok sent → atxWol u (fun _ => none) s' = .ok sent' →
    sent.key = sent'.key

/-- The text without the white space around it, `-` for `:`, in upper case, and `FF` for the
ligature. -/
def reading (s : Text) : Text :=
  (trim s).flatMap fun c => if c = '\uFB00' then ['F', 'F'] else [(colon c).toUpper]

/-- Six parts that `from_str_radix` takes, or twelve digits. -/
def IsLax (t : Text) : Prop :=
  ((t.splitOn ':').length = 6 ∧ ∀ part ∈ t.splitOn ':', (fromStrRadix part).isSome = true) ∨
    (t.length = 12 ∧ ∀ c ∈ t, isHex c = true)

/-- The text is taken for an address that it does not spell. -/
def Loose (s : Text) : Prop := IsLax (reading s) ∧ ¬ ∃ mac, Spells (trim s) mac

/-! ## Characters -/

theorem mem_hexTable {c : Char} {d : Nat} (h : hexDigit c = some d) : (c, d) ∈ hexTable := by
  obtain ⟨before, after, heq, -⟩ := List.lookup_eq_some_iff.mp h
  rw [heq]
  exact List.mem_append_right _ List.mem_cons_self

theorem addressChar_of_hex {c : Char} (h : isHex c = true) : c ∈ addressChars := by
  obtain ⟨d, hd⟩ := Option.isSome_iff_exists.mp h
  exact List.mem_append_right _ (List.mem_map_of_mem (mem_hexTable hd))

theorem foreign_toUpper {c : Char} (h : IsForeign c) : IsForeign c.toUpper := by
  by_cases hascii : c.toNat < 128
  · have hall : ∀ n < 128, IsForeign (Char.ofNat n) → IsForeign (Char.ofNat n).toUpper := by
      decide +kernel
    have hc := hall c.toNat hascii
    rw [Char.ofNat_toNat] at hc
    exact hc h
  · have hbeyond : ¬ ('a'.val ≤ c.val ∧ c.val ≤ 'z'.val) := by
      rintro ⟨-, hle⟩
      exact hascii (Nat.lt_of_le_of_lt (UInt32.le_iff_toNat_le.mp hle) (by decide))
    have hsame : c.toUpper = c := dif_neg hbeyond
    rw [hsame]
    exact h

theorem upper_of_addressChar {c : Char} (h : c ∈ addressChars) : u.upper c = [c.toUpper] := by
  refine u.ascii c ?_
  have hall : ∀ c ∈ addressChars, c.toNat < 128 :=
    forall_addressChars _ (by decide)
  exact hall c h

theorem upper_of_foreign {c : Char} (h : IsForeign c) : ∃ d ∈ u.upper c, IsForeign d := by
  by_cases hascii : c.toNat < 128
  · rw [u.ascii c hascii]
    exact ⟨_, List.mem_singleton.mpr rfl, foreign_toUpper h⟩
  · exact u.foreign c (Nat.le_of_not_lt hascii) h.2

/-! ## Parts -/

theorem mem_intercalate {sep c : Char} {parts : List Text} (h : c ∈ [sep].intercalate parts) :
    c = sep ∨ ∃ part ∈ parts, c ∈ part := by
  induction parts with
  | nil => cases h
  | cons part parts ih =>
    cases parts with
    | nil =>
      rw [List.intercalate_singleton] at h
      exact .inr ⟨part, List.mem_cons_self, h⟩
    | cons next parts =>
      rw [List.intercalate_cons_cons, List.mem_append, List.mem_append] at h
      rcases h with (h | h) | h
      · exact .inr ⟨part, List.mem_cons_self, h⟩
      · exact .inl (List.mem_singleton.mp h)
      · rcases ih h with hsep | ⟨other, hother, hc⟩
        · exact .inl hsep
        · exact .inr ⟨other, List.mem_cons_of_mem _ hother, hc⟩

/-- A character is between the separators, or one of them. -/
theorem mem_splitOn (sep : Char) {c : Char} {t : Text} (h : c ∈ t) :
    c = sep ∨ ∃ part ∈ t.splitOn sep, c ∈ part := by
  have hjoin : [sep].intercalate (t.splitOn sep) = t := List.intercalate_splitOn sep
  rw [← hjoin] at h
  exact mem_intercalate h

theorem map_intercalate (f : Char → Char) (sep : Char) (parts : List Text) :
    ([sep].intercalate parts).map f = [f sep].intercalate (parts.map (List.map f)) := by
  induction parts with
  | nil => rfl
  | cons part parts ih =>
    cases parts with
    | nil => rw [List.intercalate_singleton, List.map_singleton, List.intercalate_singleton]
    | cons next parts =>
      have hmap : (part :: next :: parts).map (List.map f) =
          part.map f :: next.map f :: parts.map (List.map f) := rfl
      rw [List.intercalate_cons_cons, List.map_append, List.map_append, ih, hmap,
        List.intercalate_cons_cons]
      rfl

theorem hex_of_foldlM {digits : Text} {n m : Nat}
    (h : digits.foldlM (fun n c => (hexDigit c).map fun d => n * 16 + d) n = some m) :
    ∀ c ∈ digits, isHex c = true := by
  induction digits generalizing n with
  | nil =>
    intro c hc
    cases hc
  | cons d digits ih =>
    rw [List.foldlM_cons] at h
    obtain ⟨next, hnext, hrest⟩ := Option.bind_eq_some_iff.mp h
    obtain ⟨value, hvalue, -⟩ := Option.map_eq_some_iff.mp hnext
    intro c hc
    rcases List.mem_cons.mp hc with rfl | hc
    · rw [isHex, hvalue]
      rfl
    · exact ih hrest c hc

/-- A part that is taken has characters of an address only. -/
theorem addressChar_of_part {part : Text} (h : (fromStrRadix part).isSome = true) :
    ∀ c ∈ part, c ∈ addressChars := by
  obtain ⟨byte, hbyte⟩ := Option.isSome_iff_exists.mp h
  rw [fromStrRadix] at hbyte
  split at hbyte
  · cases hbyte
  obtain ⟨n, hn, -⟩ := Option.bind_eq_some_iff.mp hbyte
  have hdigits := hex_of_foldlM hn
  intro c hc
  rw [digitsOf] at hdigits
  split at hdigits <;> rename_i hplus
  · cases part with
    | nil => cases hc
    | cons d part =>
      rcases List.mem_cons.mp hc with rfl | hc
      · cases hplus
        decide
      · exact addressChar_of_hex (hdigits c hc)
  · exact addressChar_of_hex (hdigits c hc)

theorem parseBytes_ok_iff {parts : List Text} {mac : List UInt8} :
    parseBytes parts = .ok mac ↔ parts.map fromStrRadix = mac.map some := by
  induction parts generalizing mac with
  | nil =>
    rw [parseBytes, List.map_nil, eq_comm (a := []), List.map_eq_nil_iff]
    constructor
    · intro h
      cases h
      rfl
    · rintro rfl
      rfl
  | cons part parts ih =>
    rw [parseBytes, List.map_cons]
    cases hpart : fromStrRadix part with
    | none =>
      constructor
      · intro h
        cases h
      · intro h
        cases mac with
        | nil => cases h
        | cons byte mac => cases h
    | some byte =>
      rw [Option.elim_some]
      cases hrest : parseBytes parts with
      | error e =>
        constructor
        · intro h
          cases h
        · intro h
          cases mac with
          | nil => cases h
          | cons byte' mac =>
            have hok := ih.mpr (List.cons.inj h).2
            rw [hrest] at hok
            cases hok
      | ok mac' =>
        have hmac := ih.mp hrest
        constructor
        · intro h
          cases h
          rw [hmac]
          rfl
        · intro h
          cases mac with
          | nil => cases h
          | cons byte' mac =>
            obtain ⟨hbyte, hmac''⟩ := List.cons.inj h
            have hok := ih.mpr hmac''
            rw [hrest] at hok
            cases hbyte
            cases hok
            rfl

theorem parseParts_ok_iff {parts : List Text} {mac : List UInt8} :
    parseParts parts = .ok mac ↔ parts.length = 6 ∧ parts.map fromStrRadix = mac.map some := by
  rw [parseParts]
  split <;> rename_i hlength
  · constructor
    · intro h
      cases h
    · rintro ⟨hsix, -⟩
      exact absurd hsix hlength
  · rw [parseBytes_ok_iff]
    exact ⟨fun h => ⟨Decidable.not_not.mp hlength, h⟩, fun h => h.2⟩

/-- Parts are taken if each of them is. -/
theorem parseParts_isOk_iff {parts : List Text} :
    (∃ mac, parseParts parts = .ok mac) ↔
      parts.length = 6 ∧ ∀ part ∈ parts, (fromStrRadix part).isSome = true := by
  simp only [parseParts_ok_iff]
  constructor
  · rintro ⟨mac, hlength, hmac⟩
    refine ⟨hlength, fun part hpart => ?_⟩
    have hmem := List.mem_map_of_mem (f := fromStrRadix) hpart
    rw [hmac] at hmem
    obtain ⟨byte, -, hbyte⟩ := List.mem_map.mp hmem
    rw [← hbyte]
    rfl
  · rintro ⟨hlength, hall⟩
    refine ⟨parts.map fun part => (fromStrRadix part).getD 0, hlength, ?_⟩
    rw [List.map_map]
    refine List.map_congr_left fun part hpart => ?_
    obtain ⟨byte, hbyte⟩ := Option.isSome_iff_exists.mp (hall part hpart)
    rw [Function.comp_apply, hbyte]
    rfl

/-! ## Normalized texts -/

/-- A character of a normalized address: upper case, and no `-`. -/
def IsNormal (c : Char) : Prop := c ∈ addressChars ∧ c ≠ '-' ∧ c.toUpper = c

instance (c : Char) : Decidable (IsNormal c) :=
  inferInstanceAs (Decidable (c ∈ addressChars ∧ c ≠ '-' ∧ c.toUpper = c))

theorem IsNormal.visible {c : Char} (h : IsNormal c) : isWhitespace c = false := by
  have hall : ∀ c ∈ addressChars, isWhitespace c = false :=
    forall_addressChars _ (by decide)
  exact hall c h.1

theorem trim_of_normal {t : Text} (h : ∀ c ∈ t, IsNormal c) : trim t = t :=
  trimEnds_eq_self_iff.mpr ⟨fun c hc => (h c (List.mem_of_head? hc)).visible,
    fun c hc => (h c (List.mem_of_getLast? hc)).visible⟩

theorem toUppercase_of_normal {t : Text} (h : ∀ c ∈ t, IsNormal c) : u.toUppercase t = t := by
  induction t with
  | nil => rfl
  | cons c t ih =>
    have hc := h c List.mem_cons_self
    rw [UppercaseTable.toUppercase, List.flatMap_cons, upper_of_addressChar u hc.1, hc.2.2,
      ← UppercaseTable.toUppercase, ih fun d hd => h d (List.mem_cons_of_mem _ hd)]
    rfl

theorem parse_of_normal {t : Text} (h : ∀ c ∈ t, IsNormal c) (mac : List UInt8) :
    parseMacAddress u t = .ok mac ↔ parseParts (t.splitOn ':') = .ok mac := by
  have hdash : '-' ∉ t := fun hmem => (h _ hmem).2.1 rfl
  rw [parseMacAddress, trim_of_normal h, toUppercase_of_normal u h]
  split <;> rename_i hcolon
  · rfl
  · rw [List.splitOn_eq_singleton hcolon]
    constructor
    · intro hok
      cases hok
    · intro hok
      cases hok

/-! ## What is normalized -/

/-- Nothing in the text is foreign to an address. -/
def IsClean (t : Text) : Prop := ∀ c ∈ t, ¬ IsForeign c

theorem map_colon_toUppercase {t : Text} (h : IsClean t) :
    (u.toUppercase t).map colon =
      t.flatMap fun c => if c = '\uFB00' then ['F', 'F'] else [(colon c).toUpper] := by
  have hsame : ∀ c ∈ addressChars, colon c.toUpper = (colon c).toUpper :=
    forall_addressChars _ (by decide)
  rw [UppercaseTable.toUppercase, List.map_flatMap]
  refine List.flatMap_congr fun c hc => ?_
  split <;> rename_i hligature
  · rw [hligature, u.ligature]
    decide
  · have hchar : c ∈ addressChars := by
      by_contra hnot
      exact h c hc ⟨hnot, hligature⟩
    rw [upper_of_addressChar u hchar, List.map_singleton, hsame c hchar]

theorem normal_reading {s : Text} (h : IsClean (trim s)) : ∀ c ∈ reading s, IsNormal c := by
  have hall : ∀ c ∈ addressChars, (colon c).toUpper ∈ addressChars ∧ (colon c).toUpper ≠ '-' ∧
      (colon c).toUpper.toUpper = (colon c).toUpper := forall_addressChars _ (by decide)
  intro c hc
  obtain ⟨d, hd, hc⟩ := List.mem_flatMap.mp hc
  split at hc <;> rename_i hligature
  · have hf : c = 'F' := by simpa using hc
    rw [hf]
    exact ⟨by decide, by decide, by decide⟩
  · have hchar : d ∈ addressChars := by
      by_contra hnot
      exact h d hd ⟨hnot, hligature⟩
    rw [List.mem_singleton.mp hc]
    exact hall d hchar

theorem normalize_of_clean {s : Text} (h : IsClean (trim s)) :
    normalizeWolMacAddress u s =
      if utf8Size (reading s) = 12 ∧ (reading s).all isHex then chunked (reading s)
      else reading s := by
  rw [normalizeWolMacAddress, map_colon_toUppercase u h]
  rfl

/-- White space is trimmed only once. -/
theorem trim_map_colon (s : Text) :
    trim ((u.toUppercase (trim s)).map colon) = (u.toUppercase (trim s)).map colon := by
  have hcolon : ∀ c, isWhitespace c = false → isWhitespace (colon c) = false := by
    intro c hc
    rw [colon]
    split
    · decide
    · exact hc
  have hall : ∀ c, isWhitespace c = false →
      (u.upper c).map colon ≠ [] ∧ ∀ d ∈ (u.upper c).map colon, isWhitespace d = false := by
    intro c hc
    obtain ⟨hne, hvisible⟩ := u.visible c hc
    refine ⟨fun hnil => hne (List.map_eq_nil_iff.mp hnil), fun d hd => ?_⟩
    obtain ⟨e, he, rfl⟩ := List.mem_map.mp hd
    exact hcolon e (hvisible e he)
  refine trimEnds_eq_self_iff.mpr ⟨fun c hc => ?_, fun c hc => ?_⟩
  · cases ht : trim s with
    | nil =>
      rw [ht] at hc
      cases hc
    | cons d t =>
      obtain ⟨hne, hvisible⟩ := hall d (trimEnds_head (l := s) (by rw [← trim, ht]; rfl))
      rw [ht, UppercaseTable.toUppercase, List.flatMap_cons, List.map_append,
        List.head?_append_of_ne_nil _ hne] at hc
      exact hvisible c (List.mem_of_head? hc)
  · rcases List.eq_nil_or_concat' (trim s) with ht | ⟨t, d, ht⟩
    · rw [ht] at hc
      cases hc
    · obtain ⟨hne, hvisible⟩ :=
        hall d (trimEnds_last (l := s) (by rw [← trim, ht]; exact List.getLast?_concat))
      rw [ht, UppercaseTable.toUppercase, List.flatMap_append,
        List.flatMap_singleton, List.map_append, List.getLast?_append_of_ne_nil _ hne] at hc
      exact hvisible c (List.mem_of_getLast? hc)

/-! ## Foreign characters -/

/-- Parts that are taken have no foreign character between them. -/
theorem not_foreign_of_parts {sep : Char} (hsep : sep ∈ addressChars) {t : Text}
    (h : ∀ part ∈ t.splitOn sep, (fromStrRadix part).isSome = true) : IsClean t := by
  intro c hc hforeign
  rcases mem_splitOn sep hc with rfl | ⟨part, hpart, hc⟩
  · exact hforeign.1 hsep
  · exact hforeign.1 (addressChar_of_part (h part hpart) c hc)

theorem not_ok_of_foreign {s : Text} (h : ¬ IsClean (trim s)) :
    ¬ ∃ mac, parseMacAddress u (normalizeWolMacAddress u s) = .ok mac := by
  simp only [IsClean, not_forall, not_not] at h
  obtain ⟨c, hc, hforeign⟩ := h
  obtain ⟨d, hd, hd'⟩ := upper_of_foreign u hforeign
  have hcolon : colon d = d := by
    rw [colon, if_neg]
    rintro rfl
    exact absurd hd' (by decide)
  -- the foreign character is in the normalized text, which is not twelve digits
  have hmem : d ∈ (u.toUppercase (trim s)).map colon :=
    List.mem_map.mpr ⟨d, List.mem_flatMap.mpr ⟨c, hc, hd⟩, hcolon⟩
  have hnormal : normalizeWolMacAddress u s = (u.toUppercase (trim s)).map colon := by
    rw [normalizeWolMacAddress, if_neg]
    rintro ⟨-, hall⟩
    exact hd'.1 (addressChar_of_hex (List.all_eq_true.mp hall d hmem))
  obtain ⟨e, he, he'⟩ := upper_of_foreign u hd'
  have hmem' : e ∈ u.toUppercase ((u.toUppercase (trim s)).map colon) :=
    List.mem_flatMap.mpr ⟨d, hmem, he⟩
  rintro ⟨mac, hok⟩
  rw [hnormal, parseMacAddress, trim_map_colon] at hok
  split at hok
  · exact not_foreign_of_parts (by decide) (parseParts_isOk_iff.mp ⟨mac, hok⟩).2 e hmem' he'
  · split at hok
    · exact not_foreign_of_parts (by decide) (parseParts_isOk_iff.mp ⟨mac, hok⟩).2 e hmem' he'
    · cases hok

theorem not_lax_of_foreign {s : Text} (h : ¬ IsClean (trim s)) : ¬ IsLax (reading s) := by
  simp only [IsClean, not_forall, not_not] at h
  obtain ⟨c, hc, hforeign⟩ := h
  have hcolon : colon c = c := by
    rw [colon, if_neg]
    rintro rfl
    exact absurd hforeign (by decide)
  have hmem : c.toUpper ∈ reading s := by
    refine List.mem_flatMap.mpr ⟨c, hc, ?_⟩
    rw [if_neg hforeign.2, hcolon]
    exact List.mem_singleton.mpr rfl
  have hupper := foreign_toUpper hforeign
  rintro (⟨-, hparts⟩ | ⟨-, hall⟩)
  · exact not_foreign_of_parts (by decide) hparts _ hmem hupper
  · exact hupper.1 (addressChar_of_hex (hall _ hmem))

/-! ## Pairs of digits -/

/-- A byte in two digits. -/
def hexPair (byte : UInt8) : Text :=
  [(Nat.digitChar (byte.toNat / 16)).toUpper, (Nat.digitChar (byte.toNat % 16)).toUpper]

/-- The normal form of an address. -/
def normalForm (mac : List UInt8) : Text := [':'].intercalate (mac.map hexPair)

theorem upperDigit_spec {d : Nat} (h : d < 16) :
    hexDigit (Nat.digitChar d).toUpper = some d ∧ IsNormal (Nat.digitChar d).toUpper := by
  have hall : ∀ d < 16,
      hexDigit (Nat.digitChar d).toUpper = some d ∧ IsNormal (Nat.digitChar d).toUpper := by
    decide
  exact hall d h

theorem hexPair_spec (byte : UInt8) : fromStrRadix (hexPair byte) = some byte ∧
    ∀ c ∈ hexPair byte, IsNormal c ∧ isHex c = true := by
  have hlt := byte.toNat_lt
  obtain ⟨hhigh, hnormal⟩ := upperDigit_spec (d := byte.toNat / 16) (by omega)
  obtain ⟨hlow, hnormal'⟩ := upperDigit_spec (d := byte.toNat % 16) (by omega)
  refine ⟨?_, fun c hc => ?_⟩
  · have hdigits : digitsOf (hexPair byte) = hexPair byte := by
      rw [digitsOf, if_neg]
      intro hplus
      rw [Option.some.inj (show some _ = some '+' from hplus)] at hhigh
      cases hhigh
    have hne : hexPair byte ≠ [] := List.cons_ne_nil _ _
    rw [fromStrRadix, hdigits, if_neg hne, hexPair, List.foldlM_cons, hhigh]
    change (((hexDigit _).map fun d => (0 * 16 + byte.toNat / 16) * 16 + d).bind some).bind _ = _
    rw [hlow, Option.map_some, Option.bind_some, Option.bind_some,
      show (0 * 16 + byte.toNat / 16) * 16 + byte.toNat % 16 = byte.toNat from by omega,
      if_pos (Nat.le_of_lt_succ hlt), UInt8.ofNat_toNat]
  · rcases List.mem_cons.mp hc with rfl | hc
    · exact ⟨hnormal, by rw [isHex, hhigh]; rfl⟩
    · rw [List.mem_singleton.mp hc]
      exact ⟨hnormal', by rw [isHex, hlow]; rfl⟩

/-- A digit in upper case is that of its value. -/
theorem toUpper_of_hexDigit {c : Char} {d : Nat} (h : hexDigit c = some d) :
    c.toUpper = (Nat.digitChar d).toUpper ∧ d < 16 := by
  have hall : ∀ p ∈ hexTable, p.1.toUpper = (Nat.digitChar p.2).toUpper ∧ p.2 < 16 := by decide
  exact hall _ (mem_hexTable h)

theorem hexPair_of_value {byte : UInt8} {high low : Nat} (hlow : low < 16)
    (hbyte : byte.toNat = high * 16 + low) :
    hexPair byte = [(Nat.digitChar high).toUpper, (Nat.digitChar low).toUpper] := by
  rw [hexPair, hbyte, show (high * 16 + low) / 16 = high from by omega,
    show (high * 16 + low) % 16 = low from by omega]

theorem hexPair_of_group {group : Text} {byte : UInt8} (h : IsGroup group byte) :
    group.map Char.toUpper = hexPair byte := by
  obtain ⟨x, y, high, low, rfl, hx, hy, hbyte⟩ := h
  obtain ⟨hupper, -⟩ := toUpper_of_hexDigit hx
  obtain ⟨hupper', hlow⟩ := toUpper_of_hexDigit hy
  rw [List.map_cons, List.map_singleton, hupper, hupper', hexPair_of_value hlow hbyte]

theorem map_hexPair {groups : List Text} {mac : List UInt8}
    (h : List.Forall₂ IsGroup groups mac) :
    groups.map (List.map Char.toUpper) = mac.map hexPair := by
  induction h with
  | nil => rfl
  | cons hgroup _ ih => rw [List.map_cons, List.map_cons, hexPair_of_group hgroup, ih]

theorem hex_of_group {groups : List Text} {mac : List UInt8} (h : List.Forall₂ IsGroup groups mac) :
    ∀ group ∈ groups, ∀ c ∈ group, isHex c = true := by
  induction h with
  | nil =>
    intro group hgroup
    cases hgroup
  | cons hfirst _ ih =>
    intro group hgroup c hc
    rcases List.mem_cons.mp hgroup with rfl | hgroup
    · obtain ⟨x, y, high, low, rfl, hx, hy, -⟩ := hfirst
      rcases List.mem_cons.mp hc with rfl | hc
      · rw [isHex, hx]
        rfl
      · rw [List.mem_singleton.mp hc, isHex, hy]
        rfl
    · exact ih group hgroup c hc

/-- Digits in upper case are the pairs of bytes. -/
theorem pairs_of_hex {n : Nat} {t : Text} (hlength : t.length = 2 * n)
    (h : ∀ c ∈ t, IsNormal c ∧ isHex c = true) :
    ∃ mac : List UInt8, mac.length = n ∧ t = (mac.map hexPair).flatten := by
  induction n generalizing t with
  | zero => exact ⟨[], rfl, List.eq_nil_of_length_eq_zero hlength⟩
  | succ n ih =>
    obtain ⟨x, t, rfl⟩ := List.exists_cons_of_length_pos (l := t) (by omega)
    rw [List.length_cons] at hlength
    obtain ⟨y, t, rfl⟩ := List.exists_cons_of_length_pos (l := t) (by omega)
    rw [List.length_cons] at hlength
    obtain ⟨mac, hmac, rfl⟩ := ih (t := t) (by omega) fun c hc =>
      h c (List.mem_cons_of_mem _ (List.mem_cons_of_mem _ hc))
    obtain ⟨⟨-, -, hx⟩, hhex⟩ := h x List.mem_cons_self
    obtain ⟨⟨-, -, hy⟩, hhex'⟩ := h y (List.mem_cons_of_mem _ List.mem_cons_self)
    obtain ⟨high, hhigh⟩ := Option.isSome_iff_exists.mp hhex
    obtain ⟨low, hlow⟩ := Option.isSome_iff_exists.mp hhex'
    obtain ⟨hupper, hhigh⟩ := toUpper_of_hexDigit hhigh
    obtain ⟨hupper', hlow⟩ := toUpper_of_hexDigit hlow
    have hbyte : (UInt8.ofNat (high * 16 + low)).toNat = high * 16 + low := by
      rw [UInt8.toNat_ofNat']
      omega
    refine ⟨UInt8.ofNat (high * 16 + low) :: mac, by rw [List.length_cons, hmac], ?_⟩
    rw [List.map_cons, List.flatten_cons, hexPair_of_value hlow hbyte, ← hupper, ← hupper',
      hx, hy]
    rfl

theorem chunked_pairs (mac : List UInt8) : chunked (mac.map hexPair).flatten = normalForm mac := by
  induction mac with
  | nil => rfl
  | cons byte mac ih =>
    cases mac with
    | nil => rfl
    | cons next mac =>
      rw [normalForm, List.map_cons, List.map_cons, List.intercalate_cons_cons]
      rw [normalForm, List.map_cons] at ih
      rw [← ih]
      rfl

theorem normal_normalForm (mac : List UInt8) : ∀ c ∈ normalForm mac, IsNormal c := by
  intro c hc
  rcases mem_intercalate hc with rfl | ⟨pair, hpair, hc⟩
  · decide
  · obtain ⟨byte, -, rfl⟩ := List.mem_map.mp hpair
    exact ((hexPair_spec byte).2 c hc).1

theorem parse_normalForm {mac : List UInt8} (h : mac.length = 6) :
    parseMacAddress u (normalForm mac) = .ok mac := by
  have hsplit : (normalForm mac).splitOn ':' = mac.map hexPair := by
    refine List.splitOn_intercalate ':' (fun pair hpair hcolon => ?_) ?_
    · obtain ⟨byte, -, rfl⟩ := List.mem_map.mp hpair
      exact absurd ((hexPair_spec byte).2 _ hcolon).2 (by decide)
    · rintro hnil
      rw [List.map_eq_nil_iff.mp hnil] at h
      cases h
  rw [parse_of_normal u (normal_normalForm mac), hsplit, parseParts_ok_iff, List.length_map,
    List.map_map]
  exact ⟨h, List.map_congr_left fun byte _ => (hexPair_spec byte).1⟩

/-! ## Addresses in their form -/

/-- Digits and separators are characters of an address. -/
theorem addressChar_of_spells {t : Text} {mac : List UInt8} (h : Spells t mac) :
    ∀ c ∈ t, c ∈ addressChars := by
  obtain ⟨-, groups, hgroups, hjoin | hflat⟩ := h
  · intro c hc
    by_cases hdash : c = '-'
    · rw [hdash]
      decide
    · have hmem : c ∈ [':'].intercalate groups := by
        rw [← hjoin]
        exact List.mem_map.mpr ⟨c, hc, if_neg hdash⟩
      rcases mem_intercalate hmem with rfl | ⟨group, hgroup, hc⟩
      · decide
      · exact addressChar_of_hex (hex_of_group hgroups group hgroup c hc)
  · intro c hc
    rw [hflat] at hc
    obtain ⟨group, hgroup, hc⟩ := List.mem_flatten.mp hc
    exact addressChar_of_hex (hex_of_group hgroups group hgroup c hc)

theorem reading_of_spells {s : Text} {mac : List UInt8} (h : Spells (trim s) mac) :
    IsClean (trim s) ∧ reading s = ((trim s).map colon).map Char.toUpper := by
  have hchars := addressChar_of_spells h
  refine ⟨fun c hc hforeign => hforeign.1 (hchars c hc), ?_⟩
  rw [reading, List.map_map, List.map_eq_flatMap]
  refine List.flatMap_congr fun c hc => ?_
  rw [if_neg]
  · rfl
  · rintro rfl
    exact absurd (hchars _ hc) (by decide)

theorem utf8Size_of_addressChars {t : Text} (h : ∀ c ∈ t, c ∈ addressChars) :
    utf8Size t = t.length := by
  have hall : ∀ c ∈ addressChars, c.utf8Size = 1 :=
    forall_addressChars _ (by decide)
  induction t with
  | nil => rfl
  | cons c t ih =>
    rw [show utf8Size (c :: t) = c.utf8Size + utf8Size t from rfl, hall c (h c List.mem_cons_self),
      ih fun d hd => h d (List.mem_cons_of_mem _ hd), List.length_cons, Nat.add_comm]

/-- Twelve digits get their colons. -/
theorem normalize_of_hex {s : Text} (hclean : IsClean (trim s)) (hlength : (reading s).length = 12)
    (hhex : ∀ c ∈ reading s, isHex c = true) :
    ∃ mac : List UInt8, mac.length = 6 ∧ reading s = (mac.map hexPair).flatten ∧
      normalizeWolMacAddress u s = normalForm mac := by
  have hnormal := normal_reading hclean
  obtain ⟨mac, hmac, hpairs⟩ :=
    pairs_of_hex (n := 6) hlength fun c hc => ⟨hnormal c hc, hhex c hc⟩
  refine ⟨mac, hmac, hpairs, ?_⟩
  rw [normalize_of_clean u hclean, if_pos, hpairs, chunked_pairs]
  rw [utf8Size_of_addressChars fun c hc => (hnormal c hc).1]
  exact ⟨hlength, List.all_eq_true.mpr hhex⟩

/-- An address has one normal form, whatever its separators and letters. -/
theorem normalize_of_spells {s : Text} {mac : List UInt8} (h : Spells (trim s) mac) :
    normalizeWolMacAddress u s = normalForm mac := by
  obtain ⟨hclean, hreading⟩ := reading_of_spells h
  obtain ⟨hlength, groups, hgroups, hform⟩ := h
  have hmap := map_hexPair hgroups
  rcases hform with hjoin | hflat
  · have hnormal : reading s = normalForm mac := by
      rw [hreading, hjoin, map_intercalate, hmap]
      rfl
    have hcolon : ':' ∈ normalForm mac := by
      obtain ⟨byte, mac, rfl⟩ := List.exists_cons_of_length_pos (l := mac) (by omega)
      rw [List.length_cons] at hlength
      obtain ⟨next, mac, rfl⟩ := List.exists_cons_of_length_pos (l := mac) (by omega)
      rw [normalForm, List.map_cons, List.map_cons, List.intercalate_cons_cons]
      simp
    rw [normalize_of_clean u hclean, if_neg, hnormal]
    rintro ⟨-, hall⟩
    rw [hnormal] at hall
    exact absurd (List.all_eq_true.mp hall _ hcolon) (by decide)
  · have hsame : (trim s).map colon = trim s := by
      have hid : (trim s).map colon = (trim s).map id := by
        refine List.map_congr_left fun c hc => if_neg ?_
        rintro rfl
        rw [hflat] at hc
        obtain ⟨group, hgroup, hc⟩ := List.mem_flatten.mp hc
        exact absurd (hex_of_group hgroups group hgroup _ hc) (by decide)
      rw [hid, List.map_id]
    have hpairs : reading s = (mac.map hexPair).flatten := by
      rw [hreading, hsame, hflat, List.map_flatten, hmap]
    have hhex : ∀ c ∈ reading s, isHex c = true := by
      intro c hc
      rw [hpairs] at hc
      obtain ⟨pair, hpair, hc⟩ := List.mem_flatten.mp hc
      obtain ⟨byte, -, rfl⟩ := List.mem_map.mp hpair
      exact ((hexPair_spec byte).2 c hc).2
    have htwelve : utf8Size (reading s) = 12 := by
      have htwo : mac.map (List.length ∘ hexPair) = mac.map fun _ => 2 :=
        List.map_congr_left fun _ _ => rfl
      rw [utf8Size_of_addressChars fun c hc => addressChar_of_hex (hhex c hc), hpairs,
        List.length_flatten, List.map_map, htwo, List.map_const', List.sum_replicate_nat, hlength]
    rw [normalize_of_clean u hclean, if_pos ⟨htwelve, List.all_eq_true.mpr hhex⟩, hpairs,
      chunked_pairs]

theorem parse_of_spells {s : Text} {mac : List UInt8} (h : Spells (trim s) mac) :
    parseMacAddress u (normalizeWolMacAddress u s) = .ok mac := by
  rw [normalize_of_spells u h]
  exact parse_normalForm u h.1

/-! ## What is accepted -/

/-- An address is taken if `from_str_radix` takes its parts, or if it is twelve digits. -/
theorem parse_isOk_iff (s : Text) :
    (∃ mac, parseMacAddress u (normalizeWolMacAddress u s) = .ok mac) ↔ IsLax (reading s) := by
  by_cases hclean : IsClean (trim s)
  · by_cases hhex : (reading s).length = 12 ∧ ∀ c ∈ reading s, isHex c = true
    · obtain ⟨mac, hmac, -, hnormal⟩ := normalize_of_hex u hclean hhex.1 hhex.2
      rw [hnormal]
      exact ⟨fun _ => .inr hhex, fun _ => ⟨mac, parse_normalForm u hmac⟩⟩
    · have hnormal := normal_reading hclean
      have hsame : normalizeWolMacAddress u s = reading s := by
        rw [normalize_of_clean u hclean, if_neg]
        rintro ⟨hsize, hall⟩
        rw [utf8Size_of_addressChars fun c hc => (hnormal c hc).1] at hsize
        exact hhex ⟨hsize, List.all_eq_true.mp hall⟩
      rw [hsame]
      simp only [parse_of_normal u hnormal]
      rw [parseParts_isOk_iff, IsLax, or_iff_left hhex]
  · exact ⟨fun h => absurd h (not_ok_of_foreign u hclean),
      fun h => absurd h (not_lax_of_foreign hclean)⟩

theorem atxWol_isOk_iff (s : Text) :
    (∃ sent, atxWol u (fun _ => none) s = .ok sent) ↔ IsLax (reading s) := by
  rw [← parse_isOk_iff u, atxWol, sendWol]
  cases parseMacAddress u (normalizeWolMacAddress u s) with
  | error e =>
    constructor
    · rintro ⟨sent, hsent⟩
      cases hsent
    · rintro ⟨mac, hmac⟩
      cases hmac
  | ok mac => exact ⟨fun _ => ⟨mac, rfl⟩, fun _ => ⟨_, rfl⟩⟩

/-! ## The packet -/

theorem copyAt_append (a data b : List UInt8) :
    copyAt a.length data (a ++ b) = a ++ data ++ b.drop data.length := by
  rw [copyAt, List.take_left, List.drop_length_add_append]

theorem buildMagicPacket_eq {mac : List UInt8} (h : mac.length = 6) :
    buildMagicPacket mac = List.replicate 6 0xFF ++ (List.replicate 16 mac).flatten := by
  have hrounds : ∀ n ≤ 16, (List.range n).foldl (fun packet i => copyAt (6 + i * 6) mac packet)
      (copyAt 0 (List.replicate 6 0xFF) (List.replicate magicPacketSize 0)) =
      List.replicate 6 0xFF ++ (List.replicate n mac).flatten ++ List.replicate (96 - n * 6) 0 := by
    intro n
    induction n with
    | zero =>
      intro _
      rfl
    | succ n ih =>
      intro hn
      have hplace : 6 + n * 6 =
          (List.replicate 6 (0xFF : UInt8) ++ (List.replicate n mac).flatten).length := by
        rw [List.length_append, List.length_replicate, List.length_flatten, List.map_replicate,
          List.sum_replicate_nat, h]
      rw [List.range_succ, List.foldl_append, ih (by omega), List.foldl_cons, List.foldl_nil,
        hplace, copyAt_append, List.replicate_succ' (n := n) (a := mac), List.flatten_append, List.flatten_singleton,
        List.drop_replicate, h, ← List.append_assoc]
      congr 2
      omega
  exact (hrounds 16 (Nat.le_refl 16)).trans (List.append_nil _)

/-! ## Two requests -/

theorem sent_of_spells {s : Text} {mac : List UInt8} (h : Spells (trim s) mac) :
    atxWol u (fun _ => none) s = .ok ⟨buildMagicPacket mac, normalForm mac⟩ := by
  rw [atxWol, sendWol, parse_of_spells u h, normalize_of_spells u h]
  rfl

theorem accepted_iff (s : Text) : Accepted u s ↔ ¬ Loose s := by
  rw [Accepted, atxWol_isOk_iff]
  constructor
  · rintro ⟨hiff, -⟩ ⟨hlax, hnot⟩
    exact hnot (hiff.mp hlax)
  · intro hloose
    refine ⟨⟨fun hlax => ?_, fun ⟨mac, hmac⟩ => ?_⟩, fun mac sent hmac hsent => ?_⟩
    · by_contra hnot
      exact hloose ⟨hlax, hnot⟩
    · exact (parse_isOk_iff u s).mp ⟨mac, parse_of_spells u hmac⟩
    · rw [sent_of_spells u hmac] at hsent
      rw [← Except.ok.inj hsent]
      exact buildMagicPacket_eq hmac.1

/-- When two requests are accepted, keyed and sent as they ought to be. -/
theorem correct_iff (s s' : Text) : Correct u s s' ↔ ¬ Loose s ∧ ¬ Loose s' := by
  constructor
  · intro h
    exact ⟨(accepted_iff u s).mp h.first, (accepted_iff u s').mp h.second⟩
  · rintro ⟨hloose, hloose'⟩
    have hfirst := (accepted_iff u s).mpr hloose
    have hsecond := (accepted_iff u s').mpr hloose'
    refine ⟨hfirst, hsecond, fun mac sent sent' hmac hmac' hsent hsent' => ?_⟩
    obtain ⟨mac₁, hspells⟩ := hfirst.1.mp ⟨sent, hsent⟩
    obtain ⟨mac₂, hspells'⟩ := hsecond.1.mp ⟨sent', hsent'⟩
    rw [parse_of_spells u hspells] at hmac
    rw [parse_of_spells u hspells'] at hmac'
    rw [sent_of_spells u hspells] at hsent
    rw [sent_of_spells u hspells'] at hsent'
    rw [← Except.ok.inj hsent, ← Except.ok.inj hsent', Except.ok.inj hmac, Except.ok.inj hmac']

/-- The table for letters of ASCII and the ligature. -/
def latin : UppercaseTable where
  upper c := if c.toNat < 128 then [c.toUpper] else if c = '\uFB00' then ['F', 'F'] else [c]
  ascii c hc := if_pos hc
  ligature := by decide
  visible c hc := by
    split <;> rename_i hascii
    · have hall : ∀ n < 128, isWhitespace (Char.ofNat n) = false →
          isWhitespace (Char.ofNat n).toUpper = false := by decide +kernel
      have hupper := hall c.toNat hascii
      rw [Char.ofNat_toNat] at hupper
      exact ⟨List.cons_ne_nil _ _, fun d hd => List.mem_singleton.mp hd ▸ hupper hc⟩
    · split
      · have hplain : isWhitespace 'F' = false := by decide
        refine ⟨List.cons_ne_nil _ _, fun d hd => ?_⟩
        rcases List.mem_pair.mp hd with rfl | rfl <;> exact hplain
      · exact ⟨List.cons_ne_nil _ _, fun d hd => List.mem_singleton.mp hd ▸ hc⟩
  foreign c hc hne := by
    rw [if_neg (Nat.not_lt.mpr hc), if_neg hne]
    refine ⟨c, List.mem_singleton.mpr rfl, fun hmem => ?_, hne⟩
    have hall : ∀ c ∈ addressChars, c.toNat < 128 :=
      forall_addressChars _ (by decide)
    exact absurd (hall c hmem) (Nat.not_lt.mpr hc)

/-- An address with one digit in each group is taken. -/
theorem short_groups : ¬ Correct latin "1:2:3:4:5:6".toList "01:02:03:04:05:06".toList := by
  intro h
  have hlax : IsLax (reading "1:2:3:4:5:6".toList) :=
    .inl ⟨by decide +kernel, by decide +kernel⟩
  obtain ⟨mac, hspells⟩ := h.first.1.mp ((atxWol_isOk_iff latin _).mpr hlax)
  have hparse : parseMacAddress latin (normalizeWolMacAddress latin "1:2:3:4:5:6".toList) =
      .ok [1, 2, 3, 4, 5, 6] := by rfl
  have hmac := hparse.symm.trans (parse_of_spells latin hspells)
  have hkey := normalize_of_spells latin hspells
  rw [← Except.ok.inj hmac] at hkey
  exact absurd hkey (by decide +kernel)

end StreamBox.Atx.Wol
