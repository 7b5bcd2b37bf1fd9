import Mathlib.Algebra.Group.Nat.Defs

/-!
# Decimal numerals

Parsing an unsigned 64-bit number from text, as the standard library does it.

* **Parsing** — an optional plus sign, then digits; the first digit that makes the number too large
  fails (`parseU64`).
* **Numerals** — digits are parsed exactly when their number fits (`parseU64_eq_ok`).
-/

namespace StreamBox.Lib

/-- What one more digit makes of a number: the digit is checked first, then the overflow. -/
def pushDigit (n : Nat) (c : Char) : Except String Nat :=
  if c.isDigit = false then .error "invalid digit found in string"
  else if n * 10 + (c.toNat - 48) < 2 ^ 64 then .ok (n * 10 + (c.toNat - 48))
  else .error "number too large to fit in target type"

/-- `str::parse::<u64>` -/
def parseU64 (text : List Char) : Except String Nat :=
  if text = [] then .error "cannot parse integer from empty string"
  else
    let digits := if text.head? = some '+' then text.tail else text
    if digits = [] then .error "invalid digit found in string" else digits.foldlM pushDigit 0

/-- Some digits, of a number that fits. -/
structure IsNumber (digits : List Char) (n : Nat) : Prop where
  nonempty : digits ≠ []
  numeric : digits.all Char.isDigit = true
  number : Nat.ofDigitChars 10 digits 0 = n
  fits : n < 2 ^ 64

/-- More digits make no smaller number. -/
theorem le_ofDigitChars (digits : List Char) : ∀ n : Nat, n ≤ Nat.ofDigitChars 10 digits n := by
  induction digits with
  | nil => exact fun n => Nat.le_of_eq Nat.ofDigitChars_nil.symm
  | cons c rest ih =>
    intro n
    have hrest := ih (10 * n + (c.toNat - '0'.toNat))
    rw [Nat.ofDigitChars_cons]
    omega

/-- Digits are pushed one by one as long as the number fits. -/
theorem foldlM_pushDigit {digits : List Char} (hdigits : digits.all Char.isDigit = true) :
    ∀ {n m : Nat}, n < 2 ^ 64 → (digits.foldlM pushDigit n = .ok m ↔
      Nat.ofDigitChars 10 digits n = m ∧ m < 2 ^ 64) := by
  induction digits with
  | nil =>
    intro n m hn
    rw [Nat.ofDigitChars_nil]
    constructor
    · intro h
      cases h
      exact ⟨rfl, hn⟩
    · rintro ⟨rfl, -⟩
      rfl
  | cons c rest ih =>
    intro n m hn
    rw [List.all_cons, Bool.and_eq_true] at hdigits
    have hstep : 10 * n + (c.toNat - '0'.toNat) = n * 10 + (c.toNat - 48) := by
      rw [Nat.mul_comm]
      rfl
    rw [List.foldlM_cons, pushDigit, if_neg (by simp [hdigits.1]), Nat.ofDigitChars_cons, hstep]
    by_cases hfits : n * 10 + (c.toNat - 48) < 2 ^ 64
    · rw [if_pos hfits]
      exact ih hdigits.2 hfits
    · rw [if_neg hfits]
      have hle := le_ofDigitChars rest (n * 10 + (c.toNat - 48))
      constructor
      · exact fun h => nomatch h
      · rintro ⟨rfl, hlt⟩
        omega

theorem parseU64_eq_ok {digits : List Char} (hne : digits ≠ [])
    (hdigits : digits.all Char.isDigit = true) {n : Nat} :
    parseU64 digits = .ok n ↔ IsNumber digits n := by
  have hplus : digits.head? ≠ some '+' := by
    intro hhead
    have hmem : '+' ∈ digits := List.mem_of_mem_head? hhead
    exact absurd (List.all_eq_true.mp hdigits _ hmem) (by decide)
  rw [parseU64, if_neg hne, if_neg hplus]
  dsimp only
  rw [if_neg hne, foldlM_pushDigit hdigits (by decide)]
  constructor
  · rintro ⟨hnumber, hfits⟩
    exact ⟨hne, hdigits, hnumber, hfits⟩
  · exact fun h => ⟨h.number, h.fits⟩

theorem IsNumber.parse {digits : List Char} {n : Nat} (h : IsNumber digits n) :
    parseU64 digits = .ok n := (parseU64_eq_ok h.nonempty h.numeric).mpr h

end StreamBox.Lib
