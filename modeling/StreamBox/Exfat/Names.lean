import StreamBox.Exfat.EntrySets
import Mathlib.Data.List.TakeWhile

/-!
# Names in their Name entries

A name is cut into entries of 15 code units, and each entry is decoded on its own.

* **One entry** — decoding the units of whole characters gives them back.
* **Cuts** — a character whose surrogate pair starts in the last unit of an entry is lost,
  and every other one is kept (`decodedName_eq_kept`).
* **Round trip** — so a name without null reads back as itself exactly when none of its
  pairs is cut (`decodedName_eq_iff`).
-/

namespace StreamBox.Exfat

/-! ## One entry -/

/-- The number of code units of a character. -/
def unitCount (c : Char) : Nat := (encodeUtf16Char c).length

/-- The code units of a list of characters. -/
def encodeChars (cs : List Char) : List Nat := cs.flatMap encodeUtf16Char

@[simp] theorem encodeChars_nil : encodeChars [] = [] := rfl

@[simp] theorem encodeChars_cons (c : Char) (cs : List Char) :
    encodeChars (c :: cs) = encodeUtf16Char c ++ encodeChars cs := rfl

@[simp] theorem encodeChars_append (a b : List Char) :
    encodeChars (a ++ b) = encodeChars a ++ encodeChars b := List.flatMap_append

theorem encodeUtf16_eq (name : String) : encodeUtf16 name = encodeChars name.toList := rfl

/-- A character is one unit, or a surrogate pair. -/
theorem encodeUtf16Char_cases (c : Char) :
    (encodeUtf16Char c = [c.toNat] ∧ isSurrogate c.toNat = false) ∨
    ∃ high low, encodeUtf16Char c = [high, low] ∧ 0xD800 ≤ high ∧ high < 0xDC00 ∧
      0xDC00 ≤ low ∧ low ≤ 0xDFFF ∧
      0x10000 + (high - 0xD800) * 0x400 + (low - 0xDC00) = c.toNat := by
  have hmax := toNat_char_lt c
  by_cases hsmall : c.toNat < 0x10000
  · refine Or.inl ⟨by rw [encodeUtf16Char, if_pos hsmall], ?_⟩
    have hvalid : c.toNat.isValidChar := c.valid
    unfold Nat.isValidChar at hvalid
    simp only [isSurrogate, Bool.and_eq_false_iff, decide_eq_false_iff_not]
    omega
  · refine Or.inr ⟨_, _, by rw [encodeUtf16Char, if_neg hsmall], ?_⟩
    have hdiv := Nat.div_add_mod (c.toNat - 0x10000) 0x400
    have hmod := Nat.mod_lt (c.toNat - 0x10000) (by decide : 0 < 0x400)
    omega

theorem unitCount_bounds (c : Char) : unitCount c = 1 ∨ unitCount c = 2 := by
  unfold unitCount
  rcases encodeUtf16Char_cases c with ⟨h, -⟩ | ⟨high, low, h, -⟩
  · exact Or.inl (by rw [h]; rfl)
  · exact Or.inr (by rw [h]; rfl)

/-- Decoding starts with a whole character. -/
theorem decodeUtf16_char (c : Char) (rest : List Nat) :
    decodeUtf16 (encodeUtf16Char c ++ rest) = c :: decodeUtf16 rest := by
  rcases encodeUtf16Char_cases c with ⟨h, hplain⟩ | ⟨high, low, h, hlo, hhi, hlo', hhi', hvalue⟩
  · rw [h, List.singleton_append, decodeUtf16.eq_def]
    simp only [hplain, Bool.not_false, if_true, Char.ofNat_toNat]
  · have hsurrogate : ¬ (!isSurrogate high) = true := by
      simp only [isSurrogate, Bool.not_eq_true', Bool.and_eq_false_iff, decide_eq_false_iff_not]
      omega
    have hlow : isLowSurrogate low = true := by
      simp only [isLowSurrogate, Bool.and_eq_true, decide_eq_true_eq]
      exact ⟨hlo', hhi'⟩
    rw [h, List.cons_append, List.cons_append, List.nil_append, decodeUtf16, if_neg hsurrogate,
      if_neg (by omega)]
    simp only [hlow, if_true, hvalue, Char.ofNat_toNat]

/-- Decoding the units of whole characters gives them back. -/
theorem decodeUtf16_chars (cs : List Char) (rest : List Nat) :
    decodeUtf16 (encodeChars cs ++ rest) = cs ++ decodeUtf16 rest := by
  induction cs with
  | nil => rfl
  | cons c cs ih => rw [encodeChars_cons, List.append_assoc, decodeUtf16_char, ih, List.cons_append]

/-- A second half of a pair at the start is skipped. -/
theorem decodeUtf16_low {low : Nat} (hlo : 0xDC00 ≤ low) (hhi : low ≤ 0xDFFF) (rest : List Nat) :
    decodeUtf16 (low :: rest) = decodeUtf16 rest := by
  have hsurrogate : ¬ (!isSurrogate low) = true := by
    simp only [isSurrogate, Bool.not_eq_true', Bool.and_eq_false_iff, decide_eq_false_iff_not]
    omega
  rw [decodeUtf16.eq_def]
  simp only [if_neg hsurrogate, if_pos hlo]

/-- A first half of a pair at the end is skipped. -/
theorem decodeUtf16_high {high : Nat} (hlo : 0xD800 ≤ high) (hhi : high < 0xDC00) :
    decodeUtf16 [high] = [] := by
  have hsurrogate : ¬ (!isSurrogate high) = true := by
    simp only [isSurrogate, Bool.not_eq_true', Bool.and_eq_false_iff, decide_eq_false_iff_not]
    omega
  rw [decodeUtf16, if_neg hsurrogate, if_neg (by omega)]

/-! ## Cuts -/

/-- The characters of a name that are decoded, from this unit of the name on: a pair that
starts in the last unit of an entry is lost. -/
def kept : Nat → List Char → List Char
  | _, [] => []
  | unit, c :: cs =>
    if unitCount c = 2 ∧ unit % 15 = 14 then kept (unit + 2) cs
    else c :: kept (unit + unitCount c) cs

theorem kept_add_fifteen (unit : Nat) (cs : List Char) : kept (unit + 15) cs = kept unit cs := by
  induction cs generalizing unit with
  | nil => rfl
  | cons c cs ih =>
    rw [kept, kept, Nat.add_mod_right, Nat.add_right_comm, ih, Nat.add_right_comm, ih]

/-- The entries of some units, the first one and the others. -/
theorem nameChunks_of_ne_nil {units : List Nat} (h : units ≠ []) :
    nameChunks units = units.take 15 :: nameChunks (units.drop 15) := by
  have hpos := List.length_pos_iff.mpr h
  have hcount : (units.length + 14) / 15 = ((units.drop 15).length + 14) / 15 + 1 := by
    rw [List.length_drop]
    omega
  rw [nameChunks, hcount, List.range_succ_eq_map, List.map_cons, List.map_map, nameChunks]
  congr 1
  refine List.map_congr_left fun k _ => ?_
  show (units.drop (15 * (k + 1))).take 15 = ((units.drop 15).drop (15 * k)).take 15
  rw [List.drop_drop, Nat.mul_add, Nat.mul_one, Nat.add_comm]

/-- The entries decoded one by one. -/
def decodeChunks (units : List Nat) : List Char := (nameChunks units).flatMap decodeUtf16

theorem decodeChunks_of_ne_nil {units : List Nat} (h : units ≠ []) :
    decodeChunks units = decodeUtf16 (units.take 15) ++ decodeChunks (units.drop 15) := by
  rw [decodeChunks, nameChunks_of_ne_nil h, List.flatMap_cons, decodeChunks]

/-- Cutting the units of some characters behind `m` of them: between two characters, or
inside a pair. -/
theorem encodeChars_cut (cs : List Char) (m : Nat) :
    ∃ inside after, cs = inside ++ after ∧
      (((encodeChars inside).length = m ∨ (after = [] ∧ (encodeChars inside).length ≤ m)) ∨
        ∃ c rest, after = c :: rest ∧ unitCount c = 2 ∧ (encodeChars inside).length + 1 = m) := by
  induction cs generalizing m with
  | nil => exact ⟨[], [], rfl, Or.inl (Or.inr ⟨rfl, Nat.zero_le m⟩)⟩
  | cons c cs ih =>
    cases m with
    | zero => exact ⟨[], c :: cs, rfl, Or.inl (Or.inl rfl)⟩
    | succ m =>
      by_cases hpair : unitCount c = 2 ∧ m = 0
      · obtain ⟨htwo, rfl⟩ := hpair
        exact ⟨[], c :: cs, rfl, Or.inr ⟨c, cs, rfl, htwo, rfl⟩⟩
      · have hcount := unitCount_bounds c
        obtain ⟨inside, after, rfl, hcut⟩ := ih (m + 1 - unitCount c)
        have hlen : (encodeChars (c :: inside)).length = unitCount c + (encodeChars inside).length := by
          rw [encodeChars_cons, List.length_append, unitCount]
        refine ⟨c :: inside, after, rfl, ?_⟩
        rcases hcut with (hexact | ⟨hnil, hle⟩) | ⟨c', rest, hafter, htwo, hexact⟩
        · exact Or.inl (Or.inl (by omega))
        · exact Or.inl (Or.inr ⟨hnil, by omega⟩)
        · exact Or.inr ⟨c', rest, hafter, htwo, by omega⟩

/-- Characters that end inside an entry are kept. -/
theorem kept_inside (unit : Nat) (inside after : List Char)
    (h : unit % 15 + (encodeChars inside).length ≤ 15) :
    kept unit (inside ++ after) = inside ++ kept (unit + (encodeChars inside).length) after := by
  induction inside generalizing unit with
  | nil => rfl
  | cons c inside ih =>
    have hcount := unitCount_bounds c
    have hlen : (encodeChars (c :: inside)).length = unitCount c + (encodeChars inside).length := by
      rw [encodeChars_cons, List.length_append, unitCount]
    rw [hlen] at h ⊢
    have hwhole : ¬ (unitCount c = 2 ∧ unit % 15 = 14) := by omega
    rw [List.cons_append, kept, if_neg hwhole, List.cons_append, ← Nat.add_assoc]
    by_cases hlast : unit % 15 + unitCount c = 15
    · have hnil : encodeChars inside = [] := List.eq_nil_of_length_eq_zero (by omega)
      cases inside with
      | nil => rfl
      | cons c' inside' =>
        have hlen' := congrArg List.length hnil
        have hcount' := unitCount_bounds c'
        rw [encodeChars_cons, List.length_append] at hlen'
        unfold unitCount at hcount'
        simp only [List.length_nil] at hlen'
        omega
    · rw [ih _ (by omega)]

/-- **Decoding entry by entry.** `pre` is the second half of a cut pair, or nothing. -/
theorem decodeChunks_eq (n : Nat) : ∀ (pre : List Nat) (cs : List Char),
    (pre ++ encodeChars cs).length = n →
    (pre = [] ∨ ∃ low, pre = [low] ∧ 0xDC00 ≤ low ∧ low ≤ 0xDFFF) →
    decodeChunks (pre ++ encodeChars cs) = kept pre.length cs := by
  induction n using Nat.strongRecOn with
  | ind n ih =>
    intro pre cs hn hpre
    have hpreLen : pre.length ≤ 1 := by
      rcases hpre with rfl | ⟨low, rfl, -⟩ <;> simp
    have hskip : ∀ rest, decodeUtf16 (pre ++ rest) = decodeUtf16 rest := by
      intro rest
      rcases hpre with rfl | ⟨low, rfl, hlo, hhi⟩
      · rfl
      · exact decodeUtf16_low hlo hhi rest
    by_cases hempty : pre ++ encodeChars cs = []
    · obtain ⟨rfl, hcs⟩ := List.append_eq_nil_iff.mp hempty
      cases cs with
      | nil => rfl
      | cons c cs =>
        have hcount := unitCount_bounds c
        have hlen := congrArg List.length hcs
        rw [encodeChars_cons, List.length_append] at hlen
        unfold unitCount at hcount
        simp only [List.length_nil] at hlen
        omega
    · have hpos := List.length_pos_iff.mpr hempty
      rw [decodeChunks_of_ne_nil hempty]
      obtain ⟨inside, after, rfl, (hexact | ⟨rfl, hle⟩) | ⟨c, rest, rfl, htwo, hexact⟩⟩ :=
        encodeChars_cut cs (15 - pre.length)
      · -- the entry ends between two characters
        have hfirst : (pre ++ encodeChars inside).length = 15 := by
          rw [List.length_append]
          omega
        rw [encodeChars_append, ← List.append_assoc, List.take_left' hfirst, List.drop_left' hfirst,
          hskip, ← List.append_nil (encodeChars inside), decodeUtf16_chars]
        have hrest := ih (encodeChars after).length (by
          rw [encodeChars_append, List.length_append, List.length_append] at hn
          rw [List.length_append] at hfirst
          omega) [] after rfl (Or.inl rfl)
        rw [List.nil_append] at hrest
        rw [hrest, kept_inside _ _ _ (by omega), hexact,
          show pre.length + (15 - pre.length) = 0 + 15 by omega, kept_add_fifteen]
        simp [decodeUtf16]
      · -- the last entry
        have hfirst : (pre ++ encodeChars inside).length ≤ 15 := by
          rw [List.length_append]
          omega
        rw [List.append_nil, List.take_of_length_le hfirst, List.drop_eq_nil_of_le hfirst, hskip,
          ← List.append_nil (encodeChars inside), decodeUtf16_chars]
        have hkept := kept_inside pre.length inside [] (by omega)
        rw [List.append_nil] at hkept
        rw [hkept]
        simp [decodeUtf16, kept, decodeChunks, nameChunks]
      · -- the entry ends inside a pair
        rcases encodeUtf16Char_cases c with ⟨hone, -⟩ | ⟨high, low, hpair, hlo, hhi, hlo', hhi', -⟩
        · rw [unitCount, hone] at htwo
          cases htwo
        · have hfirst : (pre ++ (encodeChars inside ++ [high])).length = 15 := by
            simp only [List.length_append, List.length_singleton]
            omega
          have hsplit : pre ++ encodeChars (inside ++ c :: rest)
              = pre ++ (encodeChars inside ++ [high]) ++ ([low] ++ encodeChars rest) := by
            rw [encodeChars_append, encodeChars_cons, hpair]
            simp
          have hrest := ih ([low] ++ encodeChars rest).length (by
            rw [hsplit, List.length_append, hfirst] at hn
            omega) [low] rest rfl (Or.inr ⟨low, rfl, hlo', hhi'⟩)
          rw [hsplit, List.take_left' hfirst, List.drop_left' hfirst, hskip, decodeUtf16_chars,
            decodeUtf16_high hlo hhi, hrest, List.append_nil, kept_inside _ _ _ (by omega), kept,
            if_pos ⟨htwo, by omega⟩]
          congr 1
          rw [show pre.length + (encodeChars inside).length + 2 = [low].length + 15 by
            show _ = 1 + 15
            omega, kept_add_fifteen]

/-! ## Round trip -/

/-- A character of a name that is a single unit below the surrogates stands there itself. -/
theorem mem_of_mem_encodeUtf16 {name : String} {u : Nat} (hu : u < 0xD800)
    (h : u ∈ encodeUtf16 name) : Char.ofNat u ∈ name.toList := by
  obtain ⟨c, hc, hunit⟩ := List.mem_flatMap.mp h
  rcases encodeUtf16Char_cases c with ⟨hone, -⟩ | ⟨high, low, hpair, hlo, -, hlo', -⟩
  · rw [hone, List.mem_singleton] at hunit
    rw [hunit, Char.ofNat_toNat]
    exact hc
  · rw [hpair] at hunit
    simp only [List.mem_cons, List.not_mem_nil, or_false] at hunit
    omega

/-- **Names as read back.** A name without null reads back without its cut characters. -/
theorem decodedName_eq_kept {name : String} (hnull : '\x00' ∉ name.toList) :
    decodedName name = String.ofList (kept 0 name.toList) := by
  have hchunks : ∀ chunk ∈ nameChunks (encodeUtf16 name), decodeChunk chunk = decodeUtf16 chunk := by
    intro chunk hchunk
    rw [decodeChunk, List.takeWhile_eq_self_iff.mpr]
    intro u hu
    refine decide_eq_true fun hzero => hnull ?_
    rw [hzero] at hu
    exact mem_of_mem_encodeUtf16 (by decide) ((mem_nameChunks hchunk).2 0 hu)
  have hdecoded := decodeChunks_eq (encodeChars name.toList).length [] name.toList rfl (Or.inl rfl)
  rw [decodedName, List.flatMap_congr hchunks]
  exact congrArg String.ofList hdecoded

/-- A surrogate pair of the name starts in the last unit of a Name entry. -/
def Straddles (name : String) : Prop :=
  ∃ before c after, name.toList = before ++ c :: after ∧ unitCount c = 2 ∧
    (encodeChars before).length % 15 = 14

theorem length_kept_le (unit : Nat) (cs : List Char) : (kept unit cs).length ≤ cs.length := by
  induction cs generalizing unit with
  | nil => exact Nat.le_refl 0
  | cons c cs ih =>
    rw [kept]
    split
    · exact Nat.le_succ_of_le (ih _)
    · exact Nat.succ_le_succ (ih _)

theorem kept_eq_iff (unit : Nat) (cs : List Char) :
    kept unit cs = cs ↔ ∀ before c after, cs = before ++ c :: after → unitCount c = 2 →
      (unit + (encodeChars before).length) % 15 ≠ 14 := by
  induction cs generalizing unit with
  | nil =>
    refine iff_of_true rfl fun before c after h => ?_
    simp at h
  | cons c cs ih =>
    rw [kept]
    by_cases hcut : unitCount c = 2 ∧ unit % 15 = 14
    · rw [if_pos hcut]
      refine iff_of_false (fun heq => ?_) fun hall => hall [] c cs rfl hcut.1 hcut.2
      have hlen := length_kept_le (unit + 2) cs
      rw [heq, List.length_cons] at hlen
      omega
    · rw [if_neg hcut]
      constructor
      · intro heq before c' after h hpair
        have htail := (ih _).mp (List.cons.inj heq).2
        cases before with
        | nil =>
          obtain ⟨rfl, -⟩ := List.cons.inj h
          exact fun hunit => hcut ⟨hpair, hunit⟩
        | cons x before =>
          obtain ⟨rfl, hcs⟩ := List.cons.inj h
          rw [encodeChars_cons, List.length_append, ← Nat.add_assoc]
          exact htail before c' after hcs hpair
      · intro hall
        congr 1
        refine (ih _).mpr fun before c' after h hpair => ?_
        have hshift := hall (c :: before) c' after (by rw [h]; rfl) hpair
        rwa [encodeChars_cons, List.length_append, ← Nat.add_assoc] at hshift

/-- No pair is cut exactly when every character is kept. -/
theorem not_straddles_iff (name : String) :
    ¬ Straddles name ↔ kept 0 name.toList = name.toList := by
  rw [kept_eq_iff]
  constructor
  · intro hnone before c after hname hpair hunit
    exact hnone ⟨before, c, after, hname, hpair, by rwa [Nat.zero_add] at hunit⟩
  · rintro hall ⟨before, c, after, hname, hpair, hunit⟩
    exact hall before c after hname hpair (by rwa [Nat.zero_add])

instance (name : String) : Decidable (Straddles name) :=
  decidable_of_iff (kept 0 name.toList ≠ name.toList)
    (by rw [Ne, ← not_straddles_iff, Classical.not_not])

/-- A name without null reads back as itself exactly when none of its pairs is cut. -/
theorem decodedName_eq_iff {name : String} (hnull : '\x00' ∉ name.toList) :
    decodedName name = name ↔ ¬ Straddles name := by
  rw [not_straddles_iff, decodedName_eq_kept hnull]
  constructor
  · intro h
    rw [← String.toList_ofList (l := kept 0 name.toList), h]
  · intro h
    rw [h, String.ofList_toList]

end StreamBox.Exfat
