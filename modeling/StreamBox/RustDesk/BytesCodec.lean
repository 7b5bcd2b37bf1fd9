import Mathlib.Data.Nat.Bitwise
import Mathlib.Data.List.Basic

/-!
# RustDesk stream framing

Variable-length framing: the low two bits of the first byte give the header
length, the rest of the little-endian header is the message length. `readFrame`
is the reader as a future between two bytes: what it has read so far is kept in
the future alone.

* `completes_encodeFrame` — fed the bytes of an encoded message, a fresh reader
  returns exactly that message, and not before its last byte.
-/

namespace StreamBox.RustDesk

abbrev Bytes := List UInt8

/-- Maximum packet length (1GB). -/
def MAX_PACKET_LENGTH : Nat := 0x3FFFFFFF

/-- Encode a message with RustDesk's variable-length framing. -/
def encodeFrame (data : Bytes) : Except String Bytes :=
  let len := data.length
  if len ≤ 0x3F then
    .ok (UInt8.ofNat (len <<< 2) :: data)
  else if len ≤ 0x3FFF then
    let h := (len <<< 2) ||| 0x1
    .ok ([UInt8.ofNat h, UInt8.ofNat (h >>> 8)] ++ data)
  else if len ≤ 0x3FFFFF then
    let h := (len <<< 2) ||| 0x2
    .ok ([UInt8.ofNat h, UInt8.ofNat (h >>> 8), UInt8.ofNat (h >>> 16)] ++ data)
  else if len ≤ MAX_PACKET_LENGTH then
    let h := (len <<< 2) ||| 0x3
    .ok ([UInt8.ofNat h, UInt8.ofNat (h >>> 8), UInt8.ofNat (h >>> 16),
      UInt8.ofNat (h >>> 24)] ++ data)
  else .error "Message too large"

/-- The header length the first byte announces. -/
def headLen (firstByte : UInt8) : Nat := (firstByte &&& 0x3).toNat + 1

/-- Decode the header to get message length: `(header length, message length)`. -/
def decodeHeader (firstByte : UInt8) (headerBytes : Bytes) : Nat × Nat :=
  let headLen := headLen firstByte
  let n := firstByte.toNat
  let n := if headLen > 1 ∧ headerBytes ≠ [] then n ||| (headerBytes.getD 0 0).toNat <<< 8 else n
  let n := if headLen > 2 ∧ headerBytes.length ≥ 2 then
    n ||| (headerBytes.getD 1 0).toNat <<< 16 else n
  let n := if headLen > 3 ∧ headerBytes.length ≥ 3 then
    n ||| (headerBytes.getD 2 0).toNat <<< 24 else n
  (headLen, n >>> 2)

/-- The reader between two bytes: before the first byte, inside the header, or
inside the body. -/
inductive ReadFrame
  | first
  | header (firstByte : UInt8) (got : Bytes)
  | body (msgLen : Nat) (got : Bytes)
  deriving DecidableEq, Repr

/-- The reader after a byte. -/
inductive ReadStep
  | pending (fut : ReadFrame)
  | ready (msg : Bytes)
  | failed (reason : String)
  deriving DecidableEq, Repr

namespace ReadFrame

/-- The header is complete: check the length and go on to the body, which an
empty message does not wait for. -/
def startBody (firstByte : UInt8) (headerRest : Bytes) : ReadStep :=
  let msgLen := (decodeHeader firstByte headerRest).2
  if msgLen > MAX_PACKET_LENGTH then .failed "Message too large"
  else if msgLen = 0 then .ready []
  else .pending (.body msgLen [])

/-- The reader takes one byte. -/
def feed : ReadFrame → UInt8 → ReadStep
  | .first, b =>
      if headLen b > 1 then .pending (.header b [])
      else startBody b [0, 0, 0]
  | .header firstByte got, b =>
      let got := got ++ [b]
      if got.length < headLen firstByte - 1 then .pending (.header firstByte got)
      else startBody firstByte (got ++ List.replicate (3 - got.length) 0)
  | .body msgLen got, b =>
      let got := got ++ [b]
      if got.length < msgLen then .pending (.body msgLen got) else .ready got

/-- The message a reader returns when fed exactly these bytes, and not before
the last of them. -/
def completes : ReadFrame → Bytes → Option Bytes
  | _, [] => none
  | fut, b :: bs =>
      match feed fut b with
      | .ready msg => if bs = [] then some msg else none
      | .pending fut' => completes fut' bs
      | .failed _ => none

theorem completes_body (msgLen : Nat) (got bs : Bytes) (hne : bs ≠ [])
    (hlen : got.length + bs.length = msgLen) :
    completes (.body msgLen got) bs = some (got ++ bs) := by
  induction bs generalizing got with
  | nil => exact absurd rfl hne
  | cons b bs ih =>
    simp only [completes, feed, List.length_append, List.length_singleton]
    simp only [List.length_cons] at hlen
    by_cases hbs : bs = []
    · subst hbs
      simp only [List.length_nil] at hlen
      rw [if_neg (by omega)]
      simp
    · have hpos := List.length_pos_iff.mpr hbs
      rw [if_pos (by omega)]
      simp only
      rw [ih (got ++ [b]) hbs (by simp; omega)]
      simp

/-- After a header that announces the data's length, the body is the data. -/
theorem completes_startBody {fut : ReadFrame} {b firstByte : UInt8} {headerRest data : Bytes}
    (hfeed : feed fut b = startBody firstByte headerRest)
    (hlen : (decodeHeader firstByte headerRest).2 = data.length)
    (hmax : data.length ≤ MAX_PACKET_LENGTH) :
    completes fut (b :: data) = some data := by
  simp only [completes, hfeed, startBody, hlen]
  rw [if_neg (by omega)]
  by_cases hnil : data = []
  · subst hnil; rfl
  · have hpos := List.length_pos_iff.mpr hnil
    rw [if_neg (by omega)]
    simpa using completes_body data.length [] data hnil (by simp)

end ReadFrame

/-! ## The round trip -/

open ReadFrame

/-- Reading one more little-endian byte of a word. -/
theorem or_next_byte (word k : Nat) :
    word % 2 ^ k ||| (word >>> k % 256) <<< k = word % (2 ^ k * 256) := by
  have hlt : word % 2 ^ k < 2 ^ k := Nat.mod_lt _ (Nat.two_pow_pos k)
  rw [Nat.lor_comm, ← Nat.shiftLeft_add_eq_or_of_lt hlt, Nat.shiftLeft_eq,
    Nat.shiftRight_eq_div_pow, Nat.mod_mul, Nat.mul_comm, Nat.add_comm]

/-- The header bytes after the first: as many as the tag says, and zeros up to
three. -/
def headerRest (word : Nat) : Nat → Bytes
  | 0 => [0, 0, 0]
  | 1 => [UInt8.ofNat (word >>> 8), 0, 0]
  | 2 => [UInt8.ofNat (word >>> 8), UInt8.ofNat (word >>> 16), 0]
  | _ => [UInt8.ofNat (word >>> 8), UInt8.ofNat (word >>> 16), UInt8.ofNat (word >>> 24)]

theorem headLen_word (word : Nat) : headLen (UInt8.ofNat word) = word % 4 + 1 := by
  have h3 : (3 : UInt8).toNat = 2 ^ 2 - 1 := rfl
  simp only [headLen, UInt8.toNat_and, h3, Nat.and_two_pow_sub_one_eq_mod, UInt8.toNat_ofNat']
  omega

theorem decodeHeader_word {word tag : Nat} (htag : word % 4 = tag)
    (hfit : word < 256 ^ (tag + 1)) :
    (decodeHeader (UInt8.ofNat word) (headerRest word tag)).2 = word / 4 := by
  have hlen := headLen_word word
  rw [htag] at hlen
  have hb0 : word % 256 ||| (word >>> 8 % 256) <<< 8 = word % 65536 := or_next_byte word 8
  have hb1 : word % 65536 ||| (word >>> 16 % 256) <<< 16 = word % 16777216 :=
    or_next_byte word 16
  have hb2 : word % 16777216 ||| (word >>> 24 % 256) <<< 24 = word % 4294967296 :=
    or_next_byte word 24
  have hdiv (n : Nat) : n >>> 2 = n / 4 := Nat.shiftRight_eq_div_pow n 2
  unfold decodeHeader
  simp only [hlen]
  obtain rfl | rfl | rfl | rfl : tag = 0 ∨ tag = 1 ∨ tag = 2 ∨ tag = 3 := by omega
  · simp only [headerRest, hdiv]
    simp
    omega
  · simp [headerRest, hb0, hdiv]
    omega
  · simp [headerRest, hb0, hb1, hdiv]
    omega
  · simp [headerRest, hb0, hb1, hb2, hdiv]
    omega

/-- A header word of `tag + 1` bytes and then the data it announces. -/
theorem completes_word {word : Nat} (tag : Nat) {data : Bytes} (htag : word % 4 = tag)
    (hfit : word < 256 ^ (tag + 1)) (hlen : word / 4 = data.length)
    (hmax : data.length ≤ MAX_PACKET_LENGTH) :
    completes .first (UInt8.ofNat word :: ((headerRest word tag).take tag ++ data)) = some data := by
  have hhead := headLen_word word
  rw [htag] at hhead
  have hdec := (decodeHeader_word htag hfit).trans hlen
  obtain rfl | rfl | rfl | rfl : tag = 0 ∨ tag = 1 ∨ tag = 2 ∨ tag = 3 := by omega
  · exact completes_startBody (by simp [feed, hhead, headerRest]) hdec hmax
  all_goals
    have hfirst : feed .first (UInt8.ofNat word) = .pending (.header (UInt8.ofNat word) []) := by
      simp [feed, hhead]
    rw [completes, hfirst]
  · exact completes_startBody (by simp [feed, hhead, headerRest]) hdec hmax
  · simp only [headerRest, List.take, List.cons_append, List.nil_append]
    rw [completes]
    simp only [feed, hhead]
    exact completes_startBody (by simp [feed, hhead, headerRest]) hdec hmax
  · simp only [headerRest, List.take, List.cons_append, List.nil_append]
    rw [completes]
    simp only [feed, hhead]
    rw [if_pos (by simp)]
    simp only
    rw [completes]
    simp only [feed, hhead]
    exact completes_startBody (by simp [feed, hhead, headerRest]) hdec hmax

/-- The header word of a message of length `len`. -/
theorem header_word (len tag : Nat) (htag : tag < 4) : (len <<< 2) ||| tag = len * 4 + tag := by
  rw [← Nat.shiftLeft_add_eq_or_of_lt (i := 2) htag, Nat.shiftLeft_eq]

/-- A frame is a header word of one to four bytes, whose low bits tell how many, and
the data it announces. -/
theorem encodeFrame_word {data bs : Bytes} (henc : encodeFrame data = .ok bs) :
    ∃ word tag, word % 4 = tag ∧ word < 256 ^ (tag + 1) ∧ word / 4 = data.length ∧
      data.length ≤ MAX_PACKET_LENGTH ∧
      bs = UInt8.ofNat word :: ((headerRest word tag).take tag ++ data) := by
  simp only [encodeFrame, MAX_PACKET_LENGTH, header_word _ 1 (by decide),
    header_word _ 2 (by decide), header_word _ 3 (by decide)] at henc ⊢
  split at henc
  case isTrue h6 =>
    cases henc
    exact ⟨_, 0, by simp [Nat.shiftLeft_eq], by simp [Nat.shiftLeft_eq]; omega,
      by simp [Nat.shiftLeft_eq], by omega, rfl⟩
  split at henc
  case isTrue h14 =>
    cases henc
    exact ⟨_, 1, by omega, by omega, by omega, by omega, rfl⟩
  split at henc
  case isTrue h22 =>
    cases henc
    exact ⟨_, 2, by omega, by omega, by omega, by omega, rfl⟩
  split at henc
  case isTrue h30 =>
    cases henc
    exact ⟨_, 3, by omega, by omega, by omega, by omega, rfl⟩
  case isFalse => cases henc

/-- **Framing round trip.** Fed the bytes of an encoded message, a fresh reader
returns that message with the last byte and not before. -/
theorem completes_encodeFrame {data bs : Bytes} (henc : encodeFrame data = .ok bs) :
    completes .first bs = some data := by
  obtain ⟨word, tag, htag, hfit, hlen, hmax, rfl⟩ := encodeFrame_word henc
  exact completes_word tag htag hfit hlen hmax

end StreamBox.RustDesk
