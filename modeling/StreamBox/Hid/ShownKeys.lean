import StreamBox.Hid.Report

/-!
# Keys shown by a report

A modifier is shown by its bit, another key by a slot. One event changes its own key, and the
event of a key that is no modifier sets the modifiers it comes with (`shown_sendKeyboard`).
-/

namespace StreamBox.Hid

open CanonicalKey

/-- The report shows the key as held. -/
def KeyboardReport.Shown (r : KeyboardReport) (k : CanonicalKey) : Prop :=
  match k.modifierBit with
  | some bit => r.modifiers &&& bit ≠ 0
  | none => k.toHidUsage ∈ r.keys

instance (r : KeyboardReport) (k : CanonicalKey) : Decidable (r.Shown k) :=
  match h : k.modifierBit with
  | some bit => decidable_of_iff (r.modifiers &&& bit ≠ 0) (by simp [KeyboardReport.Shown, h])
  | none => decidable_of_iff (k.toHidUsage ∈ r.keys) (by simp [KeyboardReport.Shown, h])

/-- The bit of a key is set in the modifiers of an event. -/
def KeyboardModifiers.Lists (m : KeyboardModifiers) (k : CanonicalKey) : Prop :=
  ∃ bit, k.modifierBit = some bit ∧ m.toHidByte &&& bit ≠ 0

theorem CanonicalKey.modifierBit_isSome (k : CanonicalKey) : k.modifierBit.isSome = k.isModifier := by
  cases k <;> rfl

/-- Every key has a bit of its own. -/
theorem CanonicalKey.modifierBit_disjoint {k k' : CanonicalKey} {bit bit' : UInt8}
    (h : k.modifierBit = some bit) (h' : k'.modifierBit = some bit') :
    bit &&& bit' = if k = k' then bit' else 0 := by
  cases k <;> cases h <;> cases k' <;> cases h' <;> decide

theorem CanonicalKey.modifierBit_ne_zero {k : CanonicalKey} {bit : UInt8}
    (h : k.modifierBit = some bit) : bit ≠ 0 := by
  cases k <;> cases h <;> decide

/-- A bit that is set is shown, another one as before. -/
theorem setBit_and {k k' : CanonicalKey} {bit bit' : UInt8} (h : k.modifierBit = some bit)
    (h' : k'.modifierBit = some bit') (m : UInt8) :
    (m ||| bit) &&& bit' ≠ 0 ↔ k = k' ∨ m &&& bit' ≠ 0 := by
  have hor : (m ||| bit) &&& bit' = (m &&& bit') ||| (bit &&& bit') := by
    rw [← UInt8.toBitVec_inj]
    simp only [UInt8.toBitVec_and, UInt8.toBitVec_or, BitVec.and_or_distrib_right]
  rw [hor, modifierBit_disjoint h h']
  by_cases hk : k = k'
  · simp [hk, modifierBit_ne_zero h']
  · simp [hk]

/-- A bit that is cleared is not shown, another one as before. -/
theorem clearBit_and {k k' : CanonicalKey} {bit bit' : UInt8} (h : k.modifierBit = some bit)
    (h' : k'.modifierBit = some bit') (m : UInt8) :
    m &&& ~~~bit &&& bit' ≠ 0 ↔ k ≠ k' ∧ m &&& bit' ≠ 0 := by
  have hnot : ~~~bit &&& bit' = if k = k' then 0 else bit' := by
    cases k <;> cases h <;> cases k' <;> cases h' <;> decide
  rw [UInt8.and_assoc, hnot]
  by_cases hk : k = k'
  · simp [hk]
  · simp [hk]

theorem mem_addSlot {key u : UInt8} (hu : u ≠ 0) (slots : List UInt8) :
    u ∈ addSlot key slots ↔ u ∈ slots ∨ 0 ∈ slots ∧ u = key := by
  rw [← List.count_pos_iff, ← List.count_pos_iff (l := slots), count_addSlot hu]
  split
  · next h => exact iff_of_true (by omega) (.inr h)
  · next h => simp [h]

theorem mem_removeSlots {key u : UInt8} (hu : u ≠ 0) (slots : List UInt8) :
    u ∈ removeSlots key slots ↔ u ≠ key ∧ u ∈ slots := by
  rw [← List.count_pos_iff, ← List.count_pos_iff (l := slots), count_removeSlots hu]
  split
  · next h => simp [h]
  · next h => simp [h]

theorem zero_mem_removeSlots (key : UInt8) (slots : List UInt8) :
    0 ∈ removeSlots key slots ↔ 0 ∈ slots ∨ key ∈ slots := by
  rw [removeSlots, List.mem_insertionSort, List.mem_map]
  constructor
  · rintro ⟨slot, hslot, hzero⟩
    split at hzero
    · next h => exact .inr (h ▸ hslot)
    · exact .inl (hzero ▸ hslot)
  · rintro (hzero | hkey)
    · exact ⟨0, hzero, by split <;> rfl⟩
    · exact ⟨key, hkey, if_pos rfl⟩

/-- What the report shows after an event. -/
theorem shown_sendKeyboard (r : KeyboardReport) (event : KeyboardEvent) (k : CanonicalKey) :
    (sendKeyboardWith id r event).1.Shown k ↔
      if k = event.key then
        event.eventType = .down ∧ (k.isModifier = true ∨ 0 ∈ r.keys ∨ k.toHidUsage ∈ r.keys)
      else if event.key.isModifier = false ∧ k.isModifier = true then event.modifiers.Lists k
      else r.Shown k := by
  obtain ⟨eventType, key, modifiers⟩ := event
  cases hkey : key.modifierBit with
  | some bit =>
    have hmodifier : key.isModifier = true := by rw [← modifierBit_isSome, hkey]; rfl
    simp only [sendKeyboardWith, hmodifier, if_true, hkey, Bool.true_eq_false, false_and, if_false]
    cases hk : k.modifierBit with
    | none =>
      have hne : k ≠ key := by rintro rfl; rw [hkey] at hk; cases hk
      rw [if_neg hne]
      cases eventType <;> simp only [KeyboardReport.Shown, hk]
    | some bit' =>
      have hmodifier' : k.isModifier = true := by rw [← modifierBit_isSome, hk]; rfl
      cases eventType with
      | down =>
        simp only [KeyboardReport.Shown, hk, setBit_and hkey hk, hmodifier', true_or, and_true]
        by_cases hne : k = key
        · simp [hne]
        · simp [hne, Ne.symm hne]
      | up =>
        simp only [KeyboardReport.Shown, hk, clearBit_and hkey hk, reduceCtorEq, false_and]
        by_cases hne : k = key
        · simp [hne]
        · simp [hne, Ne.symm hne]
  | none =>
    have hplain : key.isModifier = false := by rw [← modifierBit_isSome, hkey]; rfl
    simp only [sendKeyboardWith, hplain, Bool.false_eq_true, if_false, true_and]
    cases hk : k.modifierBit with
    | some bit =>
      have hmodifier : k.isModifier = true := by rw [← modifierBit_isSome, hk]; rfl
      have hne : k ≠ key := by rintro rfl; rw [hkey] at hk; cases hk
      rw [if_neg hne, if_pos hmodifier, KeyboardModifiers.Lists]
      simp only [hk, Option.some.injEq, exists_eq_left']
      cases eventType <;> simp only [KeyboardReport.Shown, hk] <;> rfl
    | none =>
      have hplain' : k.isModifier = false := by rw [← modifierBit_isSome, hk]; rfl
      have hu := k.toHidUsage_ne_zero
      cases eventType with
      | down =>
        simp only [KeyboardReport.Shown, hk, KeyboardReport.addKey, mem_addSlot hu, hplain',
          toHidUsage_injective.eq_iff, true_and, Bool.false_eq_true, if_false, false_or]
        by_cases hne : k = key
        · simp [hne, or_comm]
        · simp [hne]
      | up =>
        simp only [KeyboardReport.Shown, hk, KeyboardReport.removeKey, mem_removeSlots hu, hplain',
          toHidUsage_injective.eq_iff, ne_eq, reduceCtorEq, false_and, Bool.false_eq_true, if_false]
        by_cases hne : k = key
        · simp [hne]
        · simp [hne]

/-- A slot is free after a key is pressed and released, unless six others are held. -/
theorem zero_mem_removeSlots_addSlot {key : UInt8} (hkey : key ≠ 0) (slots : List UInt8) :
    0 ∈ removeSlots key (addSlot key slots) ↔ 0 ∈ slots ∨ key ∈ slots := by
  rw [zero_mem_removeSlots, mem_addSlot hkey]
  constructor
  · rintro (hzero | hmem | ⟨hzero, -⟩)
    · by_contra hnot
      rw [not_or] at hnot
      rw [addSlot_full hnot.1] at hzero
      exact hnot.1 hzero
    · exact .inr hmem
    · exact .inl hzero
  · rintro (hzero | hmem)
    · exact .inr (.inr ⟨hzero, rfl⟩)
    · exact .inr (.inl hmem)

theorem KeyboardModifiers.not_lists_default (k : CanonicalKey) :
    ¬ KeyboardModifiers.Lists {} k := by
  rintro ⟨bit, -, hbit⟩
  exact hbit UInt8.zero_and

theorem KeyboardReport.not_shown_empty (k : CanonicalKey) : ¬ KeyboardReport.empty.Shown k := by
  cases k <;> decide

end StreamBox.Hid
