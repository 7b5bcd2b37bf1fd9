import StreamBox.Hid.Types
import Mathlib.Data.List.Sort
import Mathlib.Data.Finset.Card
import Mathlib.Data.Finset.Image
import Mathlib.Data.Finset.Dedup

/-!
# Keyboard reports

The six-slot keyboard report, and the state both backends keep from one
keyboard event to the next.

* **slots** — `addKey` fills the first empty slot and `removeKey` empties every
  slot of the key, as counts (`count_addKey`, `count_removeKey`);
* **faithful** — a report is faithful when each held key is in exactly one
  slot and no other key is in any (`Faithful`); then an empty slot exists
  exactly while fewer than six keys are held (`Faithful.zero_mem_iff`);
* **runs** — over runs with at most six held keys every report is faithful
  exactly when no held key is pressed again while a slot is free
  (`report_faithful_iff`).
-/

namespace StreamBox.Hid

/-! ## The slots -/

/-- The first empty slot takes the key; all slots full leaves them as they are. -/
def addSlot (key : UInt8) : List UInt8 → List UInt8
  | [] => []
  | slot :: rest => if slot = 0 then key :: rest else slot :: addSlot key rest

/-- Every slot of the key is emptied, then the slots are sorted downwards. -/
def removeSlots (key : UInt8) (slots : List UInt8) : List UInt8 :=
  (slots.map fun slot => if slot = key then 0 else slot).insertionSort (· ≥ ·)

@[simp] theorem length_addSlot (key : UInt8) (slots : List UInt8) :
    (addSlot key slots).length = slots.length := by
  induction slots with
  | nil => rfl
  | cons s rest ih => unfold addSlot; split <;> simp [ih]

@[simp] theorem length_removeSlots (key : UInt8) (slots : List UInt8) :
    (removeSlots key slots).length = slots.length := by
  simp [removeSlots]

theorem count_addSlot {key u : UInt8} (hu : u ≠ 0) (slots : List UInt8) :
    (addSlot key slots).count u =
      slots.count u + if 0 ∈ slots ∧ u = key then 1 else 0 := by
  induction slots with
  | nil => simp [addSlot]
  | cons s rest ih =>
    unfold addSlot
    by_cases hs : s = 0
    · subst hs
      by_cases hk : u = key
      · subst hk; simp [Ne.symm hu]
      · simp [Ne.symm hu, hk, Ne.symm hk]
    · simp only [hs, ite_false, List.count_cons, ih, List.mem_cons, Ne.symm hs, false_or]
      omega

theorem count_removeSlots {key u : UInt8} (hu : u ≠ 0) (slots : List UInt8) :
    (removeSlots key slots).count u = if u = key then 0 else slots.count u := by
  unfold removeSlots
  rw [(List.perm_insertionSort _ _).count_eq]
  induction slots with
  | nil => simp
  | cons s rest ih =>
    simp only [List.map_cons, List.count_cons, ih]
    by_cases hs : s = key
    · subst hs
      by_cases hk : u = s
      · subst hk; simp [Ne.symm hu]
      · simp [hk, Ne.symm hk, Ne.symm hu]
    · by_cases hk : u = key
      · subst hk; simp [hs]
      · simp [hk, hs]

/-- USB HID keyboard report; `six` is the fixed number of key slots. -/
structure KeyboardReport where
  modifiers : UInt8 := 0
  reserved : UInt8 := 0
  keys : List UInt8 := [0, 0, 0, 0, 0, 0]
  six : keys.length = 6 := by rfl
  deriving DecidableEq, Repr

namespace KeyboardReport

/-- `KeyboardReport::default()`. -/
def empty : KeyboardReport := {}

/-- Convert to bytes for USB HID. -/
def toBytes (r : KeyboardReport) : List UInt8 := [r.modifiers, r.reserved] ++ r.keys

/-- Add a key to the report. -/
def addKey (r : KeyboardReport) (key : UInt8) : KeyboardReport × Bool :=
  ({ r with keys := addSlot key r.keys, six := by simp [r.six] }, r.keys.contains 0)

/-- Remove a key from the report. -/
def removeKey (r : KeyboardReport) (key : UInt8) : KeyboardReport :=
  { r with keys := removeSlots key r.keys, six := by simp [r.six] }

/-- Clear all keys. -/
def clear (r : KeyboardReport) : KeyboardReport :=
  { r with modifiers := 0, keys := [0, 0, 0, 0, 0, 0], six := rfl }

@[simp] theorem count_addKey {r : KeyboardReport} {key u : UInt8} (hu : u ≠ 0) :
    (r.addKey key).1.keys.count u =
      r.keys.count u + if 0 ∈ r.keys ∧ u = key then 1 else 0 :=
  count_addSlot hu r.keys

@[simp] theorem count_removeKey {r : KeyboardReport} {key u : UInt8} (hu : u ≠ 0) :
    (r.removeKey key).keys.count u = if u = key then 0 else r.keys.count u :=
  count_removeSlots hu r.keys

end KeyboardReport

/-! ## The backends -/

/-- What both backends do with a keyboard event: update the kept report and
send it with the backend's own `sendKeyboardReport`. -/
def sendKeyboardWith {ρ : Type*} (sendKeyboardReport : KeyboardReport → ρ)
    (state : KeyboardReport) (event : KeyboardEvent) : KeyboardReport × ρ :=
  if event.key.isModifier then
    let state := match event.key.modifierBit, event.eventType with
      | some bit, .down => { state with modifiers := state.modifiers ||| bit }
      | some bit, .up => { state with modifiers := state.modifiers &&& ~~~bit }
      | none, _ => state
    (state, sendKeyboardReport state)
  else
    let state := { state with modifiers := event.modifiers.toHidByte }
    let state := match event.eventType with
      | .down => (state.addKey event.key.toHidUsage).1
      | .up => state.removeKey event.key.toHidUsage
    (state, sendKeyboardReport state)

/-- The CH9329 command that carries a keyboard report. -/
def SEND_KB_GENERAL_DATA : UInt8 := 0x02

/-- CH9329: the report is the data of a serial packet. -/
def Ch9329Backend.sendKeyboardReport (report : KeyboardReport) : UInt8 × List UInt8 :=
  (SEND_KB_GENERAL_DATA, report.toBytes)

def Ch9329Backend.sendKeyboard (state : KeyboardReport) (event : KeyboardEvent) :
    KeyboardReport × UInt8 × List UInt8 :=
  sendKeyboardWith Ch9329Backend.sendKeyboardReport state event

/-- OTG: the report is written to the keyboard gadget, when it has one. -/
def OtgBackend.sendKeyboardReport (keyboardPath : Bool) (report : KeyboardReport) :
    Option (List UInt8) :=
  if keyboardPath then some report.toBytes else none

def OtgBackend.sendKeyboard (keyboardPath : Bool) (state : KeyboardReport)
    (event : KeyboardEvent) : KeyboardReport × Option (List UInt8) :=
  sendKeyboardWith (OtgBackend.sendKeyboardReport keyboardPath) state event

/-! ## Faithful slots -/

/-- The non-modifier keys held after the events. -/
def heldKeys (events : List KeyboardEvent) : Finset CanonicalKey :=
  events.foldl (fun held e =>
    if e.key.isModifier then held
    else match e.eventType with
      | .down => insert e.key held
      | .up => held.erase e.key) ∅

/-- Every held key is in exactly one slot, and no other key is in any. -/
def Faithful (slots : List UInt8) (held : Finset CanonicalKey) : Prop :=
  ∀ u ≠ 0, slots.count u = if u ∈ held.image CanonicalKey.toHidUsage then 1 else 0

theorem Faithful.nil_slots : Faithful [0, 0, 0, 0, 0, 0] ∅ := by
  intro u hu
  simp [List.count_eq_zero, hu]

/-- The occupied slots of a faithful report are as many as the held keys. -/
theorem Faithful.card_eq {slots : List UInt8} {held : Finset CanonicalKey}
    (h : Faithful slots held) : (slots.filter (· ≠ 0)).length = held.card := by
  have hnodup : (slots.filter (· ≠ 0)).Nodup := by
    rw [List.nodup_iff_count_le_one]
    intro u
    by_cases hu : u = 0
    · have hzero : (0 : UInt8) ∉ slots.filter (· ≠ 0) := by simp
      rw [hu, List.count_eq_zero.mpr hzero]
      exact Nat.zero_le 1
    · rw [List.count_filter (by simpa using hu), h u hu]
      split <;> omega
  have hset : (slots.filter (· ≠ 0)).toFinset = held.image CanonicalKey.toHidUsage := by
    ext u
    simp only [List.mem_toFinset, List.mem_filter, decide_eq_true_eq]
    constructor
    · rintro ⟨hmem, hu⟩
      by_contra hnot
      have := h u hu
      rw [if_neg hnot, List.count_eq_zero] at this
      exact this hmem
    · intro hmem
      have hu : u ≠ 0 := by
        obtain ⟨k, -, rfl⟩ := Finset.mem_image.mp hmem
        exact k.toHidUsage_ne_zero
      have := h u hu
      rw [if_pos hmem] at this
      exact ⟨List.count_pos_iff.mp (by omega), hu⟩
  rw [← List.toFinset_card_of_nodup hnodup, hset,
    Finset.card_image_of_injective held CanonicalKey.toHidUsage_injective]

/-- A slot is free exactly while fewer than six keys are held. -/
theorem Faithful.zero_mem_iff {slots : List UInt8} {held : Finset CanonicalKey}
    (h : Faithful slots held) (hlen : slots.length = 6) : 0 ∈ slots ↔ held.card < 6 := by
  have hsplit := List.length_eq_length_filter_add (l := slots) (fun u => decide (u ≠ 0))
  rw [h.card_eq, hlen] at hsplit
  have hzero : 0 ∈ slots ↔ 0 < (slots.filter fun u => !decide (u ≠ 0)).length := by
    rw [List.length_pos_iff_exists_mem]
    simp [List.mem_filter]
  rw [hzero]
  omega

theorem Faithful.add {slots : List UInt8} {held : Finset CanonicalKey}
    (h : Faithful slots held) {key : CanonicalKey} (hnew : key ∉ held) (hfree : 0 ∈ slots) :
    Faithful (addSlot key.toHidUsage slots) (insert key held) := by
  intro u hu
  rw [count_addSlot hu, h u hu, Finset.image_insert]
  have himage : key.toHidUsage ∉ held.image CanonicalKey.toHidUsage := by
    simpa [CanonicalKey.toHidUsage_injective.eq_iff] using hnew
  by_cases hk : u = key.toHidUsage
  · subst hk; simp [himage, hfree]
  · simp [hk]

theorem Faithful.remove {slots : List UInt8} {held : Finset CanonicalKey}
    (h : Faithful slots held) (key : CanonicalKey) :
    Faithful (removeSlots key.toHidUsage slots) (held.erase key) := by
  intro u hu
  rw [count_removeSlots hu, h u hu,
    Finset.image_erase CanonicalKey.toHidUsage_injective]
  by_cases hk : u = key.toHidUsage <;> simp [hk]

/-- With every slot taken, one more press changes nothing. -/
theorem addSlot_full {slots : List UInt8} (hfull : 0 ∉ slots) (key : UInt8) :
    addSlot key slots = slots := by
  induction slots with
  | nil => rfl
  | cons s rest ih =>
    simp only [List.mem_cons, not_or] at hfull
    rw [addSlot, if_neg (Ne.symm hfull.1), ih hfull.2]

/-! ## Runs -/

/-- The report kept after the events. -/
def keyboardState {ρ : Type*} (send : KeyboardReport → KeyboardEvent → KeyboardReport × ρ)
    (events : List KeyboardEvent) : KeyboardReport :=
  events.foldl (fun state e => (send state e).1) {}

/-- A press of a key that is already held. -/
def KeyboardEvent.repeats (e : KeyboardEvent) (held : Finset CanonicalKey) : Prop :=
  e.eventType = .down ∧ e.key.isModifier = false ∧ e.key ∈ held

/-- One event keeps the slots faithful unless it repeats a press while a slot
is free. -/
theorem faithful_step {ρ : Type*} (f : KeyboardReport → ρ) {state : KeyboardReport}
    {events : List KeyboardEvent} {e : KeyboardEvent}
    (h : Faithful state.keys (heldKeys events)) (hsix : (heldKeys (events ++ [e])).card ≤ 6)
    (hrep : e.repeats (heldKeys events) → (heldKeys events).card = 6) :
    Faithful (sendKeyboardWith f state e).1.keys (heldKeys (events ++ [e])) := by
  rw [heldKeys, List.foldl_concat, ← heldKeys] at hsix ⊢
  unfold sendKeyboardWith
  cases hm : e.key.isModifier with
  | true =>
    simp only [ite_true]
    cases e.key.modifierBit <;> cases e.eventType <;> exact h
  | false =>
    simp only [hm, Bool.false_eq_true, ite_false] at hsix ⊢
    cases ht : e.eventType with
    | up => exact h.remove e.key
    | down =>
      simp only [ht] at hsix ⊢
      by_cases hheld : e.key ∈ heldKeys events
      · -- a repeated press: harmless only when the slots are full
        have hfull : 0 ∉ state.keys := by
          rw [h.zero_mem_iff state.six, hrep ⟨ht, hm, hheld⟩]; omega
        rw [Finset.insert_eq_of_mem hheld]
        simpa [KeyboardReport.addKey, addSlot_full hfull] using h
      · refine h.add hheld ?_
        rw [h.zero_mem_iff state.six]
        rw [Finset.card_insert_of_notMem hheld] at hsix
        omega

/-- A repeated press with a free slot leaves the key in two slots. -/
theorem not_faithful_of_repeat {ρ : Type*} (f : KeyboardReport → ρ) {state : KeyboardReport}
    {events : List KeyboardEvent} {e : KeyboardEvent}
    (h : Faithful state.keys (heldKeys events)) (hrep : e.repeats (heldKeys events))
    (hfree : (heldKeys events).card < 6) :
    ¬ Faithful (sendKeyboardWith f state e).1.keys (heldKeys (events ++ [e])) := by
  obtain ⟨ht, hm, hheld⟩ := hrep
  intro hbad
  have hzero : 0 ∈ state.keys := (h.zero_mem_iff state.six).mpr hfree
  have hne := e.key.toHidUsage_ne_zero
  have htwo : (sendKeyboardWith f state e).1.keys.count e.key.toHidUsage = 2 := by
    simp only [sendKeyboardWith, hm, Bool.false_eq_true, ite_false, ht]
    rw [KeyboardReport.count_addKey hne, h _ hne,
      if_pos (Finset.mem_image_of_mem _ hheld)]
    simp [hzero]
  have := hbad _ hne
  rw [htwo] at this
  split at this <;> omega

/-- The slots of the report data a backend sends. -/
def reportSlots (data : List UInt8) : List UInt8 := data.drop 2

/-- After `e` at the end of `p ++ [e]`, the reports both backends send are
faithful to the held keys. -/
def SentFaithful (p : List KeyboardEvent) (e : KeyboardEvent) : Prop :=
  Faithful (reportSlots (Ch9329Backend.sendKeyboard
    (keyboardState Ch9329Backend.sendKeyboard p) e).2.2) (heldKeys (p ++ [e])) ∧
  ∀ keyboardPath data, (OtgBackend.sendKeyboard keyboardPath
      (keyboardState (OtgBackend.sendKeyboard keyboardPath) p) e).2 = some data →
    Faithful (reportSlots data) (heldKeys (p ++ [e]))

theorem sendKeyboardWith_snd {ρ : Type*} (f : KeyboardReport → ρ) (state : KeyboardReport)
    (e : KeyboardEvent) :
    (sendKeyboardWith f state e).2 = f (sendKeyboardWith f state e).1 := by
  unfold sendKeyboardWith
  split <;> rfl

theorem sendKeyboardWith_fst {ρ σ : Type*} (f : KeyboardReport → ρ) (g : KeyboardReport → σ)
    (state : KeyboardReport) (e : KeyboardEvent) :
    (sendKeyboardWith f state e).1 = (sendKeyboardWith g state e).1 := by
  unfold sendKeyboardWith
  split <;> rfl

/-- What a backend keeps does not depend on how it sends. -/
theorem keyboardState_eq {ρ σ : Type*} (f : KeyboardReport → ρ) (g : KeyboardReport → σ)
    (events : List KeyboardEvent) :
    keyboardState (sendKeyboardWith f) events = keyboardState (sendKeyboardWith g) events := by
  unfold keyboardState
  congr 1
  funext state e
  exact sendKeyboardWith_fst f g state e

theorem keyboardState_concat {ρ : Type*}
    (send : KeyboardReport → KeyboardEvent → KeyboardReport × ρ) (p : List KeyboardEvent)
    (e : KeyboardEvent) :
    keyboardState send (p ++ [e]) = (send (keyboardState send p) e).1 := by
  simp [keyboardState]

/-- Both backends send the slots of the kept report. -/
theorem sentFaithful_iff (p : List KeyboardEvent) (e : KeyboardEvent) :
    SentFaithful p e ↔
      Faithful (keyboardState (sendKeyboardWith id) (p ++ [e])).keys (heldKeys (p ++ [e])) := by
  have hslots : ∀ r : KeyboardReport, reportSlots r.toBytes = r.keys := fun r => rfl
  unfold SentFaithful Ch9329Backend.sendKeyboard OtgBackend.sendKeyboard
  simp only [sendKeyboardWith_snd, Ch9329Backend.sendKeyboardReport,
    OtgBackend.sendKeyboardReport, hslots, keyboardState_concat]
  rw [sendKeyboardWith_fst _ id,
    show keyboardState (fun s e => sendKeyboardWith Ch9329Backend.sendKeyboardReport s e) p =
      keyboardState (sendKeyboardWith id) p from keyboardState_eq _ _ _]
  refine and_iff_left_of_imp fun h keyboardPath data hdata => ?_
  split at hdata
  · simp only [Option.some.injEq] at hdata
    rw [← hdata, hslots, sendKeyboardWith_fst _ id]
    rwa [show keyboardState (fun s e =>
        sendKeyboardWith (OtgBackend.sendKeyboardReport keyboardPath) s e) p =
      keyboardState (sendKeyboardWith id) p from keyboardState_eq _ _ _]
  · cases hdata

/-- Along a run whose prefixes hold at most six keys, the kept slots are
faithful if held keys are pressed again only while all six slots are taken. -/
theorem faithful_run (events : List KeyboardEvent)
    (hsix : ∀ p, p <+: events → (heldKeys p).card ≤ 6)
    (hrep : ∀ p e, p ++ [e] <+: events → e.repeats (heldKeys p) → (heldKeys p).card = 6) :
    Faithful (keyboardState (sendKeyboardWith id) events).keys (heldKeys events) := by
  induction events using List.reverseRecOn with
  | nil => exact Faithful.nil_slots
  | append_singleton p e ih =>
    have hp : p <+: p ++ [e] := List.prefix_append p [e]
    rw [keyboardState_concat]
    exact faithful_step id
      (ih (fun q hq => hsix q (hq.trans hp)) (fun q e' hq => hrep q e' (hq.trans hp)))
      (hsix _ List.prefix_rfl) (hrep p e List.prefix_rfl)

/-- **Report faithfulness.** Over a run in which at most six non-modifier keys
are held at a time, every report both backends send is faithful exactly when a
key already held is pressed again only while six keys are held. -/
theorem report_faithful_iff (events : List KeyboardEvent)
    (hsix : ∀ p, p <+: events → (heldKeys p).card ≤ 6) :
    (∀ p e, p ++ [e] <+: events → SentFaithful p e) ↔
      ∀ p e, p ++ [e] <+: events → e.repeats (heldKeys p) → (heldKeys p).card = 6 := by
  constructor
  · intro hall p e hp hrep
    by_contra hcard
    have hle := hsix p ((List.prefix_append p [e]).trans hp)
    have hkept : Faithful (keyboardState (sendKeyboardWith id) p).keys (heldKeys p) := by
      rcases List.eq_nil_or_concat' p with rfl | ⟨q, e', rfl⟩
      · exact Faithful.nil_slots
      · exact (sentFaithful_iff q e').mp (hall q e' ((List.prefix_append _ [e]).trans hp))
    refine not_faithful_of_repeat id hkept hrep (by omega) ?_
    rw [← keyboardState_concat]
    exact (sentFaithful_iff p e).mp (hall p e hp)
  · intro hrep p e hp
    rw [sentFaithful_iff]
    exact faithful_run _ (fun q hq => hsix q (hq.trans hp))
      (fun q e' hq => hrep q e' (hq.trans hp))

/-- A press of `A`, held and repeated. -/
def autoRepeat : List KeyboardEvent := [⟨.down, .keyA, {}⟩, ⟨.down, .keyA, {}⟩]

/-- Auto-repeat puts the held key into a second slot. -/
theorem autoRepeat_not_faithful :
    (∀ p, p <+: autoRepeat → (heldKeys p).card ≤ 6) ∧
      ¬ (∀ p e, p ++ [e] <+: autoRepeat → SentFaithful p e) := by
  have hsix : ∀ p, p <+: autoRepeat → (heldKeys p).card ≤ 6 := by
    intro p hp
    have : ∀ p ∈ autoRepeat.inits, (heldKeys p).card ≤ 6 := by decide
    exact this p ((List.mem_inits _ _).mpr hp)
  refine ⟨hsix, fun hall => ?_⟩
  have h := (hall [⟨.down, .keyA, {}⟩] ⟨.down, .keyA, {}⟩ (by decide)).1 0x04 (by decide)
  revert h
  decide

theorem report_faithful_single : SentFaithful [] (⟨.down, .keyA, {}⟩ : KeyboardEvent) :=
  (report_faithful_iff [⟨.down, .keyA, {}⟩] (by
    intro p hp
    have : ∀ p ∈ [(⟨.down, .keyA, {}⟩ : KeyboardEvent)].inits, (heldKeys p).card ≤ 6 := by
      decide
    exact this p ((List.mem_inits _ _).mpr hp))).mpr (by
    intro p e hp hrep
    have hnil : p = [] := by
      have := hp.length_le
      simpa using this
    subst hnil
    exact absurd hrep.2.2 (by simp [heldKeys])) [] _ (List.prefix_refl _)

end StreamBox.Hid
