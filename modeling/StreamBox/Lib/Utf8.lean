import Mathlib.Algebra.GroupWithZero.Nat
import StreamBox.Lib.Cutting

/-!
# UTF-8

The bytes of characters, and the decoding of any bytes in which U+FFFD takes the place of what is
ill-formed. The pieces of the bytes are characters and maximal subparts of characters; that they
are all of the bytes is `flatMap_pieces`, that characters come back `fromUtf8Lossy_encode_append`.
-/

namespace StreamBox.Lib.Utf8

/-! ## Encoding -/

def encode (chars : List Char) : List UInt8 := chars.flatMap String.utf8EncodeChar

def utf8Size (chars : List Char) : Nat := (chars.map Char.utf8Size).sum

theorem encode_append (a b : List Char) : encode (a ++ b) = encode a ++ encode b :=
  List.flatMap_append

theorem utf8Size_append (a b : List Char) : utf8Size (a ++ b) = utf8Size a + utf8Size b := by
  rw [utf8Size, List.map_append, List.sum_append]
  rfl

theorem length_encode (chars : List Char) : (encode chars).length = utf8Size chars := by
  rw [encode, List.length_flatMap]
  exact congrArg List.sum (List.map_congr_left fun c _ => String.length_utf8EncodeChar c)

theorem utf8ByteSize_ofList (chars : List Char) :
    (String.ofList chars).utf8ByteSize = utf8Size chars := by
  induction chars with
  | nil => rfl
  | cons c chars ih =>
    have hone : (String.ofList [c]).utf8ByteSize = c.utf8Size := by
      rw [← String.singleton_eq_ofList, String.utf8ByteSize_singleton]
    rw [show c :: chars = [c] ++ chars from rfl, String.ofList_append,
      String.utf8ByteSize_append, ih, hone, utf8Size_append]
    rfl

/-- A list of the same size as what it begins with is that. -/
theorem eq_nil_of_utf8Size_le {a b : List Char} (h : utf8Size (a ++ b) ≤ utf8Size a) : b = [] := by
  rw [utf8Size_append] at h
  cases b with
  | nil => rfl
  | cons c b =>
    have hpos := c.utf8Size_pos
    have hcons : utf8Size (c :: b) = c.utf8Size + utf8Size b := rfl
    omega

/-! ## Decoding -/

/-- The character that the bytes begin with. -/
def decode (bytes : List UInt8) : Option Char := bytes.toByteArray.utf8DecodeChar? 0

theorem decode_encode_append (c : Char) (rest : List UInt8) :
    decode (String.utf8EncodeChar c ++ rest) = some c := by
  rw [decode, List.toByteArray_append]
  exact ByteArray.utf8DecodeChar?_utf8EncodeChar_append

theorem prefix_of_decode {bytes : List UInt8} {c : Char} (h : decode bytes = some c) :
    String.utf8EncodeChar c <+: bytes := by
  obtain ⟨rest, hrest⟩ := ByteArray.exists_of_utf8DecodeChar?_eq_some h
  refine ⟨rest.data.toList, ?_⟩
  have hlist := congrArg (fun b : ByteArray => b.data.toList) hrest
  simpa using hlist.symm

/-- How many bytes follow the first byte of a character, and between which bounds the first of
them is; `none` where no character has more than this byte and begins with it. -/
def lead (b : UInt8) : Option (Nat × UInt8 × UInt8) :=
  if 0xC2 ≤ b ∧ b ≤ 0xDF then some (1, 0x80, 0xBF)
  else if b = 0xE0 then some (2, 0xA0, 0xBF)
  else if b = 0xED then some (2, 0x80, 0x9F)
  else if 0xE1 ≤ b ∧ b ≤ 0xEF then some (2, 0x80, 0xBF)
  else if b = 0xF0 then some (3, 0x90, 0xBF)
  else if b = 0xF4 then some (3, 0x80, 0x8F)
  else if 0xF1 ≤ b ∧ b ≤ 0xF3 then some (3, 0x80, 0xBF)
  else none

/-- The bytes that continue a character, `n` at most, of which the first is between the bounds. -/
def continued : Nat → UInt8 → UInt8 → List UInt8 → List UInt8
  | 0, _, _, _ => []
  | _ + 1, _, _, [] => []
  | n + 1, low, high, b :: rest =>
    if low ≤ b ∧ b ≤ high then b :: continued n 0x80 0xBF rest else []

/-- The maximal subpart of a character that the bytes begin with, where they begin with none. -/
def subpart (b : UInt8) (rest : List UInt8) : List UInt8 :=
  b :: (lead b).elim [] fun (n, low, high) => continued (n - 1) low high rest

inductive Piece
  | char (c : Char)
  | invalid (bytes : List UInt8)
  deriving DecidableEq, Repr

namespace Piece

def bytes : Piece → List UInt8
  | char c => String.utf8EncodeChar c
  | invalid bytes => bytes

/-- The character that stands for it. -/
def out : Piece → Char
  | char c => c
  | invalid _ => '\uFFFD'

end Piece

def piece (b : UInt8) (rest : List UInt8) : Piece :=
  (decode (b :: rest)).elim (.invalid (subpart b rest)) .char

/-- The pieces after the first bytes, which are skipped. -/
def piecesAfter : Nat → List UInt8 → List Piece
  | _, [] => []
  | skipped + 1, _ :: rest => piecesAfter skipped rest
  | 0, b :: rest => piece b rest :: piecesAfter ((piece b rest).bytes.length - 1) rest

def pieces (bytes : List UInt8) : List Piece := piecesAfter 0 bytes

/-- `String::from_utf8_lossy` -/
def fromUtf8Lossy (bytes : List UInt8) : List Char := (pieces bytes).map Piece.out

/-! ## The pieces are the bytes -/

theorem piecesAfter_eq (skipped : Nat) (bytes : List UInt8) :
    piecesAfter skipped bytes = pieces (bytes.drop skipped) := by
  induction bytes generalizing skipped with
  | nil => cases skipped <;> rfl
  | cons b rest ih =>
    cases skipped with
    | zero => rfl
    | succ skipped => exact ih skipped

theorem continued_prefix (n : Nat) (low high : UInt8) (bytes : List UInt8) :
    continued n low high bytes <+: bytes := by
  induction n generalizing low high bytes with
  | zero => exact List.nil_prefix
  | succ n ih =>
    cases bytes with
    | nil => exact List.nil_prefix
    | cons b rest =>
      rw [continued]
      split
      · exact List.cons_prefix_cons.mpr ⟨rfl, ih _ _ rest⟩
      · exact List.nil_prefix

theorem subpart_prefix (b : UInt8) (rest : List UInt8) : subpart b rest <+: b :: rest := by
  refine List.cons_prefix_cons.mpr ⟨rfl, ?_⟩
  cases lead b with
  | none => exact List.nil_prefix
  | some found => exact continued_prefix _ _ _ rest

theorem piece_prefix (b : UInt8) (rest : List UInt8) : (piece b rest).bytes <+: b :: rest := by
  rw [piece]
  cases hdecode : decode (b :: rest) with
  | none => exact subpart_prefix b rest
  | some c => exact prefix_of_decode hdecode

theorem piece_ne_nil (b : UInt8) (rest : List UInt8) : (piece b rest).bytes ≠ [] := by
  rw [piece]
  cases hdecode : decode (b :: rest) with
  | none => exact List.cons_ne_nil _ _
  | some c =>
    intro hnil
    have hlength := String.length_utf8EncodeChar c
    have hpos := c.utf8Size_pos
    rw [show String.utf8EncodeChar c = [] from hnil, List.length_nil] at hlength
    omega

/-- The first piece, and those of the bytes after it. -/
theorem pieces_cons (b : UInt8) (rest : List UInt8) :
    ∃ more, b :: rest = (piece b rest).bytes ++ more ∧
      pieces (b :: rest) = piece b rest :: pieces more := by
  obtain ⟨more, hmore⟩ := piece_prefix b rest
  refine ⟨more, hmore.symm, ?_⟩
  rw [pieces, piecesAfter, piecesAfter_eq]
  congr 2
  cases hbytes : (piece b rest).bytes with
  | nil => exact absurd hbytes (piece_ne_nil b rest)
  | cons a as =>
    rw [hbytes] at hmore
    obtain ⟨-, rfl⟩ := List.cons.inj hmore
    exact List.drop_left

/-- Induction on the pieces of the bytes. -/
theorem pieces_induction {motive : List UInt8 → Prop} (nil : motive [])
    (cons : ∀ b rest more, b :: rest = (piece b rest).bytes ++ more →
      pieces (b :: rest) = piece b rest :: pieces more → motive more → motive (b :: rest))
    (bytes : List UInt8) : motive bytes := by
  induction hlength : bytes.length using Nat.strong_induction_on generalizing bytes with
  | _ n ih =>
    cases bytes with
    | nil => exact nil
    | cons b rest =>
      obtain ⟨more, hmore, hpieces⟩ := pieces_cons b rest
      have hne := List.length_pos_of_ne_nil (piece_ne_nil b rest)
      have hshorter : more.length < n := by
        rw [← hlength, hmore, List.length_append]
        omega
      exact cons b rest more hmore hpieces (ih _ hshorter more rfl)

theorem flatMap_pieces (bytes : List UInt8) : (pieces bytes).flatMap Piece.bytes = bytes := by
  induction bytes using pieces_induction with
  | nil => rfl
  | cons b rest more hmore hpieces ih => rw [hpieces, List.flatMap_cons, ih, ← hmore]

theorem fromUtf8Lossy_eq_nil_iff {bytes : List UInt8} : fromUtf8Lossy bytes = [] ↔ bytes = [] := by
  constructor
  · intro h
    rw [← flatMap_pieces bytes, List.map_eq_nil_iff.mp h]
    rfl
  · rintro rfl
    rfl

theorem bytes_ne_nil {bytes : List UInt8} {p : Piece} (h : p ∈ pieces bytes) : p.bytes ≠ [] := by
  induction bytes using pieces_induction with
  | nil => cases h
  | cons b rest more hmore hpieces ih =>
    rw [hpieces] at h
    rcases List.mem_cons.mp h with rfl | hlater
    · exact piece_ne_nil b rest
    · exact ih hlater

/-! ## Characters come back -/

theorem pieces_encode_append (c : Char) (rest : List UInt8) :
    pieces (String.utf8EncodeChar c ++ rest) = .char c :: pieces rest := by
  cases hbytes : String.utf8EncodeChar c ++ rest with
  | nil =>
    have hdecode := decode_encode_append c rest
    rw [hbytes] at hdecode
    cases hdecode
  | cons a as =>
    obtain ⟨more, hmore, hpieces⟩ := pieces_cons a as
    have hpiece : piece a as = .char c := by
      rw [piece, ← hbytes, decode_encode_append]
      rfl
    rw [hpiece] at hmore hpieces
    rw [← hbytes] at hmore
    rw [hpieces, List.append_cancel_left hmore]

theorem fromUtf8Lossy_encode_append (chars : List Char) (rest : List UInt8) :
    fromUtf8Lossy (encode chars ++ rest) = chars ++ fromUtf8Lossy rest := by
  induction chars with
  | nil => rfl
  | cons c chars ih =>
    have hcons : encode (c :: chars) = String.utf8EncodeChar c ++ encode chars := rfl
    rw [hcons, List.append_assoc, fromUtf8Lossy, pieces_encode_append]
    exact congrArg (c :: ·) ih

theorem fromUtf8Lossy_encode (chars : List Char) : fromUtf8Lossy (encode chars) = chars := by
  simpa [fromUtf8Lossy, pieces, piecesAfter] using fromUtf8Lossy_encode_append chars []

/-- Only what is no UTF-8 is lost. -/
theorem encode_fromUtf8Lossy_iff {bytes : List UInt8} :
    encode (fromUtf8Lossy bytes) = bytes ↔ ∃ chars, encode chars = bytes := by
  constructor
  · intro h
    exact ⟨_, h⟩
  · rintro ⟨chars, rfl⟩
    rw [fromUtf8Lossy_encode]

/-! ## ASCII -/

/-- A character of several bytes has no ASCII byte among them. -/
theorem high_of_mem {c : Char} (hc : c.utf8Size ≠ 1) {b : UInt8}
    (hb : b ∈ String.utf8EncodeChar c) : 0x80 ≤ b := by
  have hlead : ∀ x y : UInt8, 0x80 ≤ y → 0x80 ≤ x ||| y := fun x y hy =>
    UInt8.le_trans hy (by rw [UInt8.or_comm]; exact UInt8.left_le_or)
  rcases c.utf8Size_eq with hone | htwo | hthree | hfour
  · exact absurd hone hc
  · rw [String.utf8EncodeChar_eq_cons_cons htwo] at hb
    simp only [List.mem_cons, List.not_mem_nil, or_false] at hb
    rcases hb with rfl | rfl <;> exact hlead _ _ (by decide)
  · rw [String.utf8EncodeChar_eq_cons_cons_cons hthree] at hb
    simp only [List.mem_cons, List.not_mem_nil, or_false] at hb
    rcases hb with rfl | rfl | rfl <;> exact hlead _ _ (by decide)
  · rw [String.utf8EncodeChar_eq_cons_cons_cons_cons hfour] at hb
    simp only [List.mem_cons, List.not_mem_nil, or_false] at hb
    rcases hb with rfl | rfl | rfl | rfl <;> exact hlead _ _ (by decide)

/-- An ASCII byte continues no character. -/
theorem continued_append (n : Nat) {low high : UInt8} (hlow : 0x80 ≤ low) {r : UInt8}
    (hr : r < 0x80) (a b : List UInt8) :
    continued n low high (a ++ r :: b) = continued n low high a := by
  induction n generalizing low high a with
  | zero => rfl
  | succ n ih =>
    cases a with
    | nil =>
      have hout : ¬ (low ≤ r ∧ r ≤ high) := by
        rintro ⟨hle, -⟩
        exact absurd (UInt8.le_trans hlow hle) (UInt8.not_le.mpr hr)
      have hnone : continued (n + 1) low high (r :: b) = [] := by rw [continued, if_neg hout]
      exact hnone
    | cons x a =>
      rw [List.cons_append, continued, continued, ih (by decide) a]

theorem low_of_lead {b : UInt8} {n : Nat} {low high : UInt8} (h : lead b = some (n, low, high)) :
    0x80 ≤ low := by
  rw [lead] at h
  repeat' split at h
  all_goals
    cases h
    try decide

theorem subpart_append (x : UInt8) {r : UInt8} (hr : r < 0x80) (a b : List UInt8) :
    subpart x (a ++ r :: b) = subpart x a := by
  rw [subpart, subpart]
  cases hlead : lead x with
  | none => rfl
  | some found =>
    obtain ⟨n, low, high⟩ := found
    exact congrArg (x :: ·) (continued_append _ (low_of_lead hlead) hr a b)

/-- What a piece begins with and an ASCII byte ends is that piece without what follows. -/
theorem piece_append (x : UInt8) {r : UInt8} (hr : r < 0x80) (a b : List UInt8) :
    piece x (a ++ r :: b) = piece x a := by
  have hdecode : decode (x :: a ++ r :: b) = decode (x :: a) := by
    cases hwhole : decode (x :: a ++ r :: b) with
    | some c =>
      -- the character has ended before the ASCII byte, or it is in front of it
      obtain ⟨rest, hrest⟩ := prefix_of_decode hwhole
      rcases List.append_eq_append_iff.mp hrest with ⟨more, hmore, -⟩ | ⟨more, hmore, htail⟩
      · rw [hmore, decode_encode_append]
      · cases more with
        | nil =>
          rw [List.append_nil] at hmore
          rw [← hmore, ← List.append_nil (String.utf8EncodeChar c), decode_encode_append]
        | cons y more =>
          have hmem : r ∈ String.utf8EncodeChar c := by
            rw [hmore, (List.cons.inj htail).1]
            exact List.mem_append_right _ (List.mem_cons_self)
          have hone : c.utf8Size = 1 := by
            by_contra hsize
            exact absurd (high_of_mem hsize hmem) (UInt8.not_le.mpr hr)
          have hlength := congrArg List.length hmore
          rw [String.length_utf8EncodeChar, hone, List.length_append, List.length_cons,
            List.length_cons] at hlength
          omega
    | none =>
      cases hpart : decode (x :: a) with
      | none => rfl
      | some c =>
        obtain ⟨rest, hrest⟩ := prefix_of_decode hpart
        rw [← hrest, List.append_assoc, decode_encode_append] at hwhole
        cases hwhole
  rw [piece, ← List.cons_append, hdecode, subpart_append x hr]
  rfl

theorem pieces_append_ascii (a : List UInt8) {r : UInt8} (hr : r < 0x80) (b : List UInt8) :
    pieces (a ++ r :: b) = pieces a ++ pieces (r :: b) := by
  induction a using pieces_induction with
  | nil => rfl
  | cons x a more hmore hpieces ih =>
    obtain ⟨more', hmore', hpieces'⟩ := pieces_cons x (a ++ r :: b)
    have hsame : more' = more ++ r :: b := by
      rw [piece_append x hr, ← List.cons_append, hmore, List.append_assoc] at hmore'
      exact (List.append_cancel_left hmore').symm
    rw [List.cons_append, hpieces', hpieces, hsame, ih, piece_append x hr, List.cons_append]

theorem fromUtf8Lossy_append_ascii (a : List UInt8) {r : UInt8} (hr : r < 0x80) (b : List UInt8) :
    fromUtf8Lossy (a ++ r :: b) = fromUtf8Lossy a ++ fromUtf8Lossy (r :: b) := by
  rw [fromUtf8Lossy, pieces_append_ascii a hr, List.map_append]
  rfl

/-- Only an ASCII character is shown as one. -/
theorem bytes_of_out {p : Piece} {c : Char} (h : p.out = c) (hc : c.utf8Size = 1) :
    p.bytes = String.utf8EncodeChar c := by
  cases p with
  | char d =>
    cases h
    rfl
  | invalid bytes =>
    have hthree : (Piece.invalid bytes).out.utf8Size = 3 := rfl
    rw [← h, hthree] at hc
    cases hc

/-! ## Lengths -/

theorem length_continued_le (n : Nat) (low high : UInt8) (bytes : List UInt8) :
    (continued n low high bytes).length ≤ n := by
  induction n generalizing low high bytes with
  | zero => exact Nat.le_refl 0
  | succ n ih =>
    cases bytes with
    | nil => exact Nat.zero_le _
    | cons b rest =>
      rw [continued]
      split
      · exact Nat.succ_le_succ (ih _ _ rest)
      · exact Nat.zero_le _

theorem length_subpart_le (b : UInt8) (rest : List UInt8) : (subpart b rest).length ≤ 3 := by
  rw [subpart, List.length_cons]
  cases hlead : lead b with
  | none => exact Nat.le_of_ble_eq_true rfl
  | some found =>
    obtain ⟨n, low, high⟩ := found
    have hn : n ≤ 3 := by
      rw [lead] at hlead
      repeat' split at hlead
      all_goals
        cases hlead
        try decide
    have hle := length_continued_le (n - 1) low high rest
    change (continued (n - 1) low high rest).length + 1 ≤ 3
    omega

/-- An ill-formed piece has three bytes at most, as many as its replacement. -/
theorem length_of_mem_pieces {bytes ill : List UInt8} (h : .invalid ill ∈ pieces bytes) :
    ill.length ≤ 3 := by
  induction bytes using pieces_induction with
  | nil => cases h
  | cons b rest more hmore hpieces ih =>
    rw [hpieces] at h
    rcases List.mem_cons.mp h with hfirst | hlater
    · rw [piece] at hfirst
      cases hdecode : decode (b :: rest) with
      | none =>
        rw [hdecode] at hfirst
        cases hfirst
        exact length_subpart_le b rest
      | some c =>
        rw [hdecode] at hfirst
        cases hfirst
    · exact ih hlater

/-- The text has as many bytes as what it is made of just when every replacement has. -/
theorem utf8Size_fromUtf8Lossy_iff (bytes : List UInt8) :
    bytes.length ≤ utf8Size (fromUtf8Lossy bytes) ∧
      (utf8Size (fromUtf8Lossy bytes) = bytes.length ↔
        ∀ ill, .invalid ill ∈ pieces bytes → ill.length = 3) := by
  have hle := fun ill (h : .invalid ill ∈ pieces bytes) => length_of_mem_pieces h
  have hbytes := congrArg List.length (flatMap_pieces bytes)
  rw [List.length_flatMap] at hbytes
  rw [← hbytes, fromUtf8Lossy, utf8Size, List.map_map]
  generalize pieces bytes = ps at hle
  induction ps with
  | nil =>
    refine ⟨Nat.le_refl 0, ?_, fun _ => rfl⟩
    intro _ ill h
    cases h
  | cons p ps ih =>
    obtain ⟨ihle, ihiff⟩ := ih fun ill h => hle ill (List.mem_cons_of_mem _ h)
    rw [List.map_cons, List.map_cons, List.sum_cons, List.sum_cons]
    simp only [List.mem_cons]
    cases p with
    | char c =>
      have hsame : (String.utf8EncodeChar c).length = c.utf8Size := String.length_utf8EncodeChar c
      change (String.utf8EncodeChar c).length + _ ≤ c.utf8Size + _ ∧
        (c.utf8Size + _ = (String.utf8EncodeChar c).length + _ ↔ _)
      rw [hsame, Nat.add_left_cancel_iff, ihiff]
      refine ⟨Nat.add_le_add_left ihle _, ?_⟩
      constructor
      · rintro h ill (hill | hill)
        · cases hill
        · exact h ill hill
      · intro h ill hill
        exact h ill (.inr hill)
    | invalid bytes =>
      have hbytes := hle bytes List.mem_cons_self
      change bytes.length + _ ≤ 3 + _ ∧ (3 + _ = bytes.length + _ ↔ _)
      refine ⟨Nat.add_le_add hbytes ihle, ?_⟩
      constructor
      · rintro h ill (hill | hill)
        · cases hill
          omega
        · exact ihiff.mp (by omega) ill hill
      · intro h
        have hthree := h bytes (.inl rfl)
        have hrest := ihiff.mpr fun ill hill => h ill (.inr hill)
        omega

/-! ## Places of ASCII patterns -/

/-- A text that begins with ASCII characters is of bytes that begin with them. -/
theorem prefix_of_out {pat : List Char} (hpat : ∀ c ∈ pat, c.utf8Size = 1) {ps : List Piece}
    (h : pat <+: ps.map Piece.out) : encode pat <+: ps.flatMap Piece.bytes := by
  induction pat generalizing ps with
  | nil => exact List.nil_prefix
  | cons c pat ih =>
    cases ps with
    | nil => exact absurd (List.prefix_nil.mp h) (List.cons_ne_nil _ _)
    | cons p ps =>
      obtain ⟨hc, hrest⟩ := List.cons_prefix_cons.mp h
      have hbytes := bytes_of_out hc.symm (hpat c List.mem_cons_self)
      rw [List.flatMap_cons, hbytes]
      exact (List.prefix_append_right_inj _).mpr
        (ih (fun c hmem => hpat c (List.mem_cons_of_mem _ hmem)) hrest)

/-- The first place of an ASCII pattern in the bytes is its first place in the text. -/
theorem isFirst_fromUtf8Lossy {pat : List Char} (hne : pat ≠ [])
    (hall : (pat.all fun c => c.utf8Size == 1) = true) {bytes head rest : List UInt8}
    (h : IsFirst (encode pat) bytes head rest) :
    IsFirst pat (fromUtf8Lossy bytes) (fromUtf8Lossy head) (fromUtf8Lossy rest) := by
  have hpat : ∀ c ∈ pat, c.utf8Size = 1 := fun c hc =>
    eq_of_beq (List.all_eq_true.mp hall c hc)
  obtain ⟨rfl, hfirst⟩ := h
  obtain ⟨c, more, rfl⟩ := List.exists_cons_of_ne_nil hne
  obtain ⟨r, hr, hc⟩ : ∃ r : UInt8, r < 0x80 ∧ String.utf8EncodeChar c = [r] := by
    have hone := hpat c List.mem_cons_self
    refine ⟨_, ?_, String.utf8EncodeChar_eq_singleton hone⟩
    have hle := UInt32.le_iff_toNat_le.mp (Char.utf8Size_eq_one_iff.mp hone)
    rw [UInt8.lt_iff_toNat_lt, UInt32.toNat_toUInt8]
    change c.val.toNat ≤ 127 at hle
    change _ < 128
    omega
  have hcons : encode (c :: more) = r :: encode more := by
    rw [show encode (c :: more) = String.utf8EncodeChar c ++ encode more from rfl, hc]
    rfl
  have hpieces : pieces (head ++ (encode (c :: more) ++ rest)) =
      pieces head ++ pieces (encode (c :: more) ++ rest) := by
    rw [hcons]
    exact pieces_append_ascii head hr _
  refine ⟨?_, fun k hk hstarts => ?_⟩
  · rw [List.append_assoc, hcons, List.cons_append, fromUtf8Lossy_append_ascii head hr,
      ← List.cons_append, ← hcons, fromUtf8Lossy_encode_append, List.append_assoc]
  · -- the pieces before the place in the text are pieces of what is before the place in the bytes
    rw [fromUtf8Lossy, List.length_map] at hk
    rw [fromUtf8Lossy, ← List.map_drop] at hstarts
    have hbytes := prefix_of_out hpat hstarts
    have hsplit := flatMap_pieces (head ++ (encode (c :: more) ++ rest))
    have hhead := flatMap_pieces head
    have htake : (pieces (head ++ (encode (c :: more) ++ rest))).take k = (pieces head).take k := by
      rw [hpieces, List.take_append_of_le_length (Nat.le_of_lt hk)]
    rw [List.append_assoc] at hbytes hfirst
    rw [← List.take_append_drop k (pieces (head ++ _)), List.flatMap_append, htake] at hsplit
    refine hfirst (((pieces head).take k).flatMap Piece.bytes).length ?_ ?_
    · rw [← List.take_append_drop k (pieces head), List.flatMap_append] at hhead
      have hlength := congrArg List.length hhead
      rw [List.length_append] at hlength
      have hpos : 0 < (((pieces head).drop k).flatMap Piece.bytes).length := by
        rw [List.drop_eq_getElem_cons hk, List.flatMap_cons, List.length_append]
        have hp := List.length_pos_of_ne_nil (bytes_ne_nil (List.getElem_mem hk))
        omega
      omega
    · rw [← hsplit, List.drop_left]
      exact hbytes

end StreamBox.Lib.Utf8
