import StreamBox.Exfat.Names

/-!
# Two ways to fold case

The volume stores an up-case mapping of single code units, and the name hash uses it; the
lookup compares names by `str::to_lowercase`.

* **Up-cased names** — `upcased`, unit by unit under the stored mapping; two names have one
  up-cased form when their characters have, one by one.
* **Lower-cased names** — `CaseTables.toLowercase`: the algorithm of `str::to_lowercase` over
  the Unicode tables of the standard library, with the final sigma and the dotted İ.
* **Agreement** — `agrees_of_unambiguous`, `unambiguous_of_agrees`: the two compare all
  names over an alphabet alike exactly when the alphabet is unambiguous.
-/

namespace StreamBox.Exfat

/-! ## Up-cased names -/

/-- The units of a name under the up-case mapping. -/
def upcased (name : String) : List Nat := (encodeUtf16 name).map toUppercaseSimple

theorem mem_latinExtendedA {u upper : Nat} (h : latinExtendedA.lookup u = some upper) :
    (u, upper) ∈ latinExtendedA := by
  obtain ⟨before, after, heq, -⟩ := List.lookup_eq_some_iff.mp h
  rw [heq]
  exact List.mem_append_right _ List.mem_cons_self

/-- The mapping stays inside the blocks it maps, and leaves the others alone. -/
theorem toUppercaseSimple_bounds (u : Nat) :
    (u < 0x460 → toUppercaseSimple u < 0x460) ∧ (0x460 ≤ u → toUppercaseSimple u = u) := by
  have hlatin : ∀ p ∈ latinExtendedA, p.1 < 0x180 ∧ p.2 < 0x180 := by decide
  unfold toUppercaseSimple
  cases hlookup : latinExtendedA.lookup u with
  | some upper =>
    have hmem := hlatin (u, upper) (mem_latinExtendedA hlookup)
    dsimp only at hmem ⊢
    split_ifs <;> omega
  | none =>
    dsimp only
    split_ifs <;> omega

/-- The units of a character under the up-case mapping. -/
def upChar (c : Char) : List Nat := (encodeUtf16Char c).map toUppercaseSimple

theorem upcased_eq (name : String) : upcased name = name.toList.flatMap upChar := by
  rw [upcased, encodeUtf16_eq, encodeChars, List.map_flatMap]
  rfl

/-- A character is up-cased to a unit outside the surrogates, or is a pair and stays it. -/
theorem upChar_cases (c : Char) :
    (upChar c = [toUppercaseSimple c.toNat] ∧ isSurrogate (toUppercaseSimple c.toNat) = false) ∨
    ∃ high low, upChar c = [high, low] ∧ isSurrogate high = true := by
  rcases encodeUtf16Char_cases c with
    ⟨hone, hsurrogate⟩ | ⟨high, low, htwo, hhi, hhi', hlo, hlo', -⟩
  · refine .inl ⟨by rw [upChar, hone, List.map_singleton], ?_⟩
    have hbounds := toUppercaseSimple_bounds c.toNat
    by_cases hlow : c.toNat < 0x460
    · have := hbounds.1 hlow
      simp only [isSurrogate, Bool.and_eq_false_iff, decide_eq_false_iff_not]
      omega
    · rwa [hbounds.2 (by omega)]
  · refine .inr ⟨high, low, ?_, ?_⟩
    · rw [upChar, htwo, List.map_cons, List.map_singleton,
        (toUppercaseSimple_bounds high).2 (by omega), (toUppercaseSimple_bounds low).2 (by omega)]
    · simp only [isSurrogate, Bool.and_eq_true, decide_eq_true_eq]
      omega

/-- The first up-cased character of a name can be split off. -/
theorem upChar_append_inj {c d : Char} {s t : List Nat} (h : upChar c ++ s = upChar d ++ t) :
    upChar c = upChar d ∧ s = t := by
  rcases upChar_cases c with ⟨hc, hcs⟩ | ⟨high, low, hc, hcs⟩ <;>
    rcases upChar_cases d with ⟨hd, hds⟩ | ⟨high', low', hd, hds⟩ <;>
    rw [hc, hd] at h ⊢ <;>
    simp only [List.cons_append, List.nil_append, List.cons.injEq] at h
  · exact ⟨by rw [h.1], h.2⟩
  · rw [h.1, hds] at hcs
    cases hcs
  · rw [← h.1, hcs] at hds
    cases hds
  · exact ⟨by rw [h.1, h.2.1], h.2.2⟩

theorem upChar_ne_nil (c : Char) : upChar c ≠ [] := by
  rcases upChar_cases c with ⟨hc, -⟩ | ⟨_, _, hc, -⟩ <;> simp [hc]

/-- Two names have one up-cased form when their characters have, one by one. -/
theorem flatMap_upChar_eq_iff (as bs : List Char) :
    as.flatMap upChar = bs.flatMap upChar ↔ as.map upChar = bs.map upChar := by
  induction as generalizing bs with
  | nil =>
    cases bs with
    | nil => simp
    | cons b bs => simp [upChar_ne_nil]
  | cons a as ih =>
    cases bs with
    | nil => simp [upChar_ne_nil]
    | cons b bs =>
      rw [List.flatMap_cons, List.flatMap_cons, List.map_cons, List.map_cons, List.cons.injEq,
        ← ih]
      exact ⟨upChar_append_inj, fun ⟨hab, hrest⟩ => by rw [hab, hrest]⟩

theorem upcased_eq_iff (a b : String) :
    upcased a = upcased b ↔ a.toList.map upChar = b.toList.map upChar := by
  rw [upcased_eq, upcased_eq, flatMap_upChar_eq_iff]

/-- The three letters sigma. -/
def IsSigma (c : Char) : Prop := c = 'Σ' ∨ c = 'σ' ∨ c = 'ς'

/-- They are up-cased alike, and nothing else is. -/
theorem upChar_sigma_iff (c : Char) : upChar c = upChar 'Σ' ↔ IsSigma c := by
  have hlatin : ∀ p ∈ latinExtendedA, p.2 ≠ 0x3A3 := by decide
  constructor
  · intro h
    rcases upChar_cases c with ⟨hc, -⟩ | ⟨high, low, hc, -⟩
    · rw [hc, show upChar 'Σ' = [0x3A3] by decide, List.singleton_inj] at h
      have hunit : c.toNat = 0x3A3 ∨ c.toNat = 0x3C3 ∨ c.toNat = 0x3C2 := by
        unfold toUppercaseSimple at h
        cases hlookup : latinExtendedA.lookup c.toNat with
        | some upper =>
          have hne := hlatin _ (mem_latinExtendedA hlookup)
          simp only [hlookup] at h hne
          split_ifs at h <;> omega
        | none =>
          simp only [hlookup] at h
          split_ifs at h <;> omega
      rcases hunit with hu | hu | hu
      · exact .inl (Char.toNat_inj.mp hu)
      · exact .inr (.inl (Char.toNat_inj.mp hu))
      · exact .inr (.inr (Char.toNat_inj.mp hu))
    · rw [hc, show upChar 'Σ' = [0x3A3] by decide] at h
      cases h
  · rintro (rfl | rfl | rfl) <;> decide

/-! ## Lower-cased names -/

/-- The Unicode tables of the standard library: `char::to_lowercase`, `Cased` and
`Case_Ignorable`, with what every Unicode version has of them. -/
structure CaseTables where
  lower : Char → List Char
  cased : Char → Bool
  caseIgnorable : Char → Bool
  ascii : ∀ c : Char, c.toNat < 128 → lower c = [c.toLower]
  /-- Only İ has two characters in lower case: i and a combining dot. -/
  dotted : lower 'İ' = ['i', '\u0307']
  single : ∀ c, c ≠ 'İ' → ∃ d, lower c = [d]
  of_i : ∀ c, lower c = ['i'] → c = 'i' ∨ c = 'I'
  of_dot : ∀ c, lower c = ['\u0307'] → c = '\u0307'
  dot : lower '\u0307' = ['\u0307']
  sigma : lower 'σ' = ['σ']
  finalSigma : lower 'ς' = ['ς']
  of_sigma : ∀ c, lower c = ['σ'] ∨ lower c = ['ς'] → IsSigma c
  /-- The characters that the up-case mapping identifies are letters. -/
  letter : ∀ c d, c ≠ d → upChar c = upChar d → cased c = true ∧ caseIgnorable c = false

namespace CaseTables

variable (u : CaseTables)

/-- A cased character stands behind case-ignorable ones, if any. -/
def caseIgnorableThenCased (cs : List Char) : Bool :=
  match cs.dropWhile u.caseIgnorable with
  | c :: _ => u.cased c
  | [] => false

/-- Σ is ς at the end of a word, and σ elsewhere. -/
def mapUppercaseSigma (before after : List Char) : Char :=
  if u.caseIgnorableThenCased before.reverse && !u.caseIgnorableThenCased after then 'ς' else 'σ'

/-- The rest of a string in lower case, behind the characters `before`. -/
def lowerFrom : List Char → List Char → List Char
  | _, [] => []
  | before, c :: rest =>
    (if c = 'Σ' then [u.mapUppercaseSigma before rest] else u.lower c) ++
      lowerFrom (before ++ [c]) rest

/-- `str::to_lowercase`. -/
def toLowercase (s : String) : String := String.ofList (u.lowerFrom [] s.toList)

/-- An alphabet whose characters the two foldings identify alike. -/
structure Unambiguous (A : Set Char) : Prop where
  alike : ∀ c ∈ A, ∀ d ∈ A, c ≠ 'Σ' → d ≠ 'Σ' → (u.lower c = u.lower d ↔ upChar c = upChar d)
  oneSigma : ∀ c ∈ A, ∀ d ∈ A, IsSigma c → IsSigma d → c = d
  noDot : ¬ ('İ' ∈ A ∧ '\u0307' ∈ A ∧ ('i' ∈ A ∨ 'I' ∈ A))

/-- The two foldings compare two names alike. -/
def Agrees (a b : String) : Prop := u.toLowercase a = u.toLowercase b ↔ upcased a = upcased b

variable {u} {A : Set Char}

/-! ## Names over an unambiguous alphabet -/

theorem caseIgnorableThenCased_cons (c : Char) (cs : List Char) :
    u.caseIgnorableThenCased (c :: cs) =
      if u.caseIgnorable c then u.caseIgnorableThenCased cs else u.cased c := by
  unfold caseIgnorableThenCased
  rw [List.dropWhile_cons]
  cases u.caseIgnorable c <;> rfl

/-- Whether a word ends is seen on the up-cased characters. -/
theorem caseIgnorableThenCased_congr : ∀ {cs ds : List Char}, cs.map upChar = ds.map upChar →
    u.caseIgnorableThenCased cs = u.caseIgnorableThenCased ds
  | [], [], _ => rfl
  | c :: cs, d :: ds, h => by
    rw [List.map_cons, List.map_cons, List.cons.injEq] at h
    obtain ⟨hcd, hrest⟩ := h
    rw [caseIgnorableThenCased_cons, caseIgnorableThenCased_cons,
      caseIgnorableThenCased_congr hrest]
    by_cases heq : c = d
    · rw [heq]
    · obtain ⟨hc, hc'⟩ := u.letter c d heq hcd
      obtain ⟨hd, hd'⟩ := u.letter d c (Ne.symm heq) hcd.symm
      rw [hc, hc', hd, hd']

/-- Names with one up-cased form have one lower-case form. -/
theorem Unambiguous.lowerFrom_eq (h : u.Unambiguous A) : ∀ {as bs before before' : List Char},
    (∀ c ∈ as, c ∈ A) → (∀ c ∈ bs, c ∈ A) → as.map upChar = bs.map upChar →
    before.map upChar = before'.map upChar → u.lowerFrom before as = u.lowerFrom before' bs
  | [], [], _, _, _, _, _, _ => rfl
  | a :: as, b :: bs, before, before', ha, hb, hup, hbefore => by
    rw [List.map_cons, List.map_cons, List.cons.injEq] at hup
    obtain ⟨hab, hrest⟩ := hup
    have haA := ha a List.mem_cons_self
    have hbA := hb b List.mem_cons_self
    have hbefore' : (before ++ [a]).map upChar = (before' ++ [b]).map upChar := by
      rw [List.map_append, List.map_append, hbefore, List.map_singleton, List.map_singleton, hab]
    have htail := h.lowerFrom_eq (fun c hc => ha c (List.mem_cons_of_mem _ hc))
      (fun c hc => hb c (List.mem_cons_of_mem _ hc)) hrest hbefore'
    have hsigma : a = 'Σ' ↔ b = 'Σ' := by
      constructor
      · rintro rfl
        exact (h.oneSigma _ haA _ hbA (.inl rfl) ((upChar_sigma_iff b).mp hab.symm)).symm
      · rintro rfl
        exact h.oneSigma _ haA _ hbA ((upChar_sigma_iff a).mp hab) (.inl rfl)
    rw [lowerFrom, lowerFrom, htail]
    congr 1
    by_cases hs : a = 'Σ'
    · have hreverse : before.reverse.map upChar = before'.reverse.map upChar := by
        rw [List.map_reverse, List.map_reverse, hbefore]
      rw [if_pos hs, if_pos (hsigma.mp hs), mapUppercaseSigma, mapUppercaseSigma,
        caseIgnorableThenCased_congr hreverse, caseIgnorableThenCased_congr hrest]
    · rw [if_neg hs, if_neg (mt hsigma.mpr hs)]
      exact (h.alike a haA b hbA hs (mt hsigma.mpr hs)).mpr hab

/-- What one character becomes, wherever it stands. -/
def Block (u : CaseTables) (c : Char) (block : List Char) : Prop :=
  if c = 'Σ' then block = ['σ'] ∨ block = ['ς'] else block = u.lower c

/-- A string is put together from what its characters become. -/
inductive LowersTo (u : CaseTables) : List Char → List Char → Prop
  | nil : LowersTo u [] []
  | cons {c cs block rest} : u.Block c block → LowersTo u cs rest →
      LowersTo u (c :: cs) (block ++ rest)

theorem lowersTo_lowerFrom (before cs : List Char) : u.LowersTo cs (u.lowerFrom before cs) := by
  induction cs generalizing before with
  | nil => exact .nil
  | cons c cs ih =>
    refine .cons ?_ (ih _)
    unfold Block mapUppercaseSigma
    by_cases hs : c = 'Σ'
    · rw [if_pos hs, if_pos hs]
      split
      · exact .inr rfl
      · exact .inl rfl
    · rw [if_neg hs, if_neg hs]

/-- A character other than İ becomes one character. -/
theorem Block.single {c : Char} {block : List Char} (h : u.Block c block) (hc : c ≠ 'İ') :
    ∃ d, block = [d] := by
  unfold Block at h
  split at h
  · rcases h with rfl | rfl <;> exact ⟨_, rfl⟩
  · exact h ▸ u.single c hc

theorem Block.dotted {block : List Char} (h : u.Block 'İ' block) : block = ['i', '\u0307'] := by
  rw [Block, if_neg (by decide)] at h
  exact h.trans u.dotted

/-- A character that becomes i, or the dot, is one of few. -/
theorem Block.of_i {c : Char} (h : u.Block c ['i']) : c = 'i' ∨ c = 'I' := by
  unfold Block at h
  split at h
  · rcases h with h | h <;> exact absurd h (by decide)
  · exact u.of_i c h.symm

theorem Block.of_dot {c : Char} (h : u.Block c ['\u0307']) : c = '\u0307' := by
  unfold Block at h
  split at h
  · rcases h with h | h <;> exact absurd h (by decide)
  · exact u.of_dot c h.symm

/-- What starts with the dot starts with the dot's own character. -/
theorem LowersTo.of_dot {cs rest : List Char} (h : u.LowersTo cs ('\u0307' :: rest)) :
    '\u0307' ∈ cs := by
  generalize hw : '\u0307' :: rest = w at h
  cases h with
  | nil => cases hw
  | @cons c cs block rest hblock _ =>
    by_cases hc : c = 'İ'
    · subst hc
      rw [hblock.dotted] at hw
      exact absurd (List.cons.inj hw).1 (by decide)
    · obtain ⟨d, rfl⟩ := hblock.single hc
      obtain rfl : '\u0307' = d := (List.cons.inj hw).1
      rw [hblock.of_dot]
      exact List.mem_cons_self

/-- Characters that become one character alike are identified by the up-case mapping. -/
theorem Unambiguous.of_block (h : u.Unambiguous A) {c d x : Char} (hc : c ∈ A) (hd : d ∈ A)
    (hcx : u.Block c [x]) (hdx : u.Block d [x]) : upChar c = upChar d := by
  have hsigma {c d : Char} (hc : c ∈ A) (hd : d ∈ A) (hcx : u.Block c [x]) (hdx : u.Block d [x])
      (hcs : c = 'Σ') : upChar c = upChar d := by
    subst hcs
    rw [Block, if_pos rfl] at hcx
    have hds : IsSigma d := by
      unfold Block at hdx
      split at hdx
      · exact .inl ‹_›
      · exact u.of_sigma d (hcx.imp (hdx.symm.trans ·) (hdx.symm.trans ·))
    rw [h.oneSigma _ hc _ hd (.inl rfl) hds]
  by_cases hcs : c = 'Σ'
  · exact hsigma hc hd hcx hdx hcs
  · by_cases hds : d = 'Σ'
    · exact (hsigma hd hc hdx hcx hds).symm
    · rw [Block, if_neg hcs] at hcx
      rw [Block, if_neg hds] at hdx
      exact (h.alike c hc d hd hcs hds).mp (hcx.symm.trans hdx)

/-- İ and another character cannot both start one lower-case string over the alphabet. -/
theorem Unambiguous.not_dotted (h : u.Unambiguous A) {c : Char} {cs block rest t : List Char}
    (hI : 'İ' ∈ A) (hc : c ∈ A) (hcs : ∀ x ∈ cs, x ∈ A) (hne : c ≠ 'İ') (hblock : u.Block c block)
    (hrest : u.LowersTo cs rest) : ['i', '\u0307'] ++ t ≠ block ++ rest := by
  intro heq
  obtain ⟨d, rfl⟩ := hblock.single hne
  obtain ⟨rfl, rfl⟩ := List.cons.inj heq
  have hdot := hcs _ hrest.of_dot
  rcases hblock.of_i with rfl | rfl
  · exact h.noDot ⟨hI, hdot, .inl hc⟩
  · exact h.noDot ⟨hI, hdot, .inr hc⟩

/-- Names with one lower-case form have one up-cased form; the induction reads both from the
left, where only İ becomes more than one character. -/
theorem Unambiguous.upChar_eq (h : u.Unambiguous A) {as bs w : List Char} (ha : ∀ c ∈ as, c ∈ A)
    (hb : ∀ c ∈ bs, c ∈ A) (haw : u.LowersTo as w) (hbw : u.LowersTo bs w) :
    as.map upChar = bs.map upChar := by
  induction haw generalizing bs with
  | nil =>
    generalize hw : ([] : List Char) = w at hbw
    cases hbw with
    | nil => rfl
    | @cons c _ block _ hblock _ =>
      by_cases hc : c = 'İ'
      · subst hc
        rw [hblock.dotted] at hw
        cases hw
      · obtain ⟨d, rfl⟩ := hblock.single hc
        cases hw
  | @cons a as block rest hblock hrest ih =>
    have haA := ha a List.mem_cons_self
    have hasA := fun c hc => ha c (List.mem_cons_of_mem _ hc)
    generalize hw : block ++ rest = w at hbw
    cases hbw with
    | nil =>
      by_cases hc : a = 'İ'
      · subst hc
        rw [hblock.dotted] at hw
        cases hw
      · obtain ⟨d, rfl⟩ := hblock.single hc
        cases hw
    | @cons b bs block' rest' hblock' hrest' =>
      have hbA := hb b List.mem_cons_self
      have hbsA := fun c hc => hb c (List.mem_cons_of_mem _ hc)
      rw [List.map_cons, List.map_cons]
      by_cases hac : a = 'İ' <;> by_cases hbc : b = 'İ'
      · subst hac hbc
        rw [hblock.dotted, hblock'.dotted] at hw
        obtain rfl : rest = rest' := List.append_cancel_left hw
        rw [ih hasA hbsA hrest']
      · subst hac
        rw [hblock.dotted] at hw
        exact absurd hw (h.not_dotted haA hbA hbsA hbc hblock' hrest')
      · subst hbc
        rw [hblock'.dotted] at hw
        exact absurd hw.symm (h.not_dotted hbA haA hasA hac hblock hrest)
      · obtain ⟨x, rfl⟩ := hblock.single hac
        obtain ⟨y, rfl⟩ := hblock'.single hbc
        obtain ⟨rfl, rfl⟩ := List.cons.inj hw
        rw [h.of_block haA hbA hblock hblock', ih hasA hbsA hrest']

/-- **Agreement.** Names over an unambiguous alphabet are compared alike. -/
theorem agrees_of_unambiguous (h : u.Unambiguous A) {a b : String} (ha : ∀ c ∈ a.toList, c ∈ A)
    (hb : ∀ c ∈ b.toList, c ∈ A) : u.Agrees a b := by
  unfold Agrees toLowercase
  rw [upcased_eq_iff, String.ofList_inj]
  constructor
  · intro hlower
    exact h.upChar_eq ha hb (lowersTo_lowerFrom [] _) (hlower ▸ lowersTo_lowerFrom [] _)
  · intro hup
    exact h.lowerFrom_eq ha hb hup rfl

/-! ## Names over an ambiguous alphabet -/

theorem agrees_ofList (as bs : List Char) :
    u.Agrees (String.ofList as) (String.ofList bs) ↔
      (u.lowerFrom [] as = u.lowerFrom [] bs ↔ as.map upChar = bs.map upChar) := by
  rw [Agrees, toLowercase, toLowercase, upcased_eq_iff, String.toList_ofList, String.toList_ofList,
    String.ofList_inj]

theorem lowerFrom_singleton {c : Char} (hc : c ≠ 'Σ') : u.lowerFrom [] [c] = u.lower c := by
  rw [lowerFrom, lowerFrom, if_neg hc, List.append_nil]

/-- At the start of a word Σ is σ. -/
theorem lowerFrom_sigma (rest : List Char) :
    u.lowerFrom [] ('Σ' :: rest) = 'σ' :: u.lowerFrom ['Σ'] rest := rfl

/-- At its end Σ is ς. -/
theorem lowerFrom_sigma_sigma : u.lowerFrom [] ['Σ', 'Σ'] = ['σ', 'ς'] := by
  obtain ⟨hcased, hignorable⟩ := u.letter 'Σ' 'σ' (by decide) (by decide)
  have hword : u.caseIgnorableThenCased ['Σ'] = true := by
    rw [caseIgnorableThenCased_cons, hignorable, hcased]
    rfl
  rw [lowerFrom_sigma, lowerFrom, lowerFrom, if_pos rfl, mapUppercaseSigma,
    show (['Σ'] : List Char).reverse = ['Σ'] from rfl, hword]
  rfl

/-- **Agreement, the other way.** An alphabet all of whose names of one or two characters are
compared alike is unambiguous. -/
theorem unambiguous_of_agrees (h : ∀ as bs : List Char, as ≠ [] → bs ≠ [] → as.length ≤ 2 →
    bs.length ≤ 2 → (∀ c ∈ as, c ∈ A) → (∀ c ∈ bs, c ∈ A) →
    u.Agrees (String.ofList as) (String.ofList bs)) : u.Unambiguous A := by
  have hnames (as bs : List Char) (hne : as ≠ [] ∧ bs ≠ []) (hlen : as.length ≤ 2 ∧ bs.length ≤ 2)
      (hA : ∀ c ∈ as ++ bs, c ∈ A) :
      u.lowerFrom [] as = u.lowerFrom [] bs ↔ as.map upChar = bs.map upChar :=
    (agrees_ofList as bs).mp (h as bs hne.1 hne.2 hlen.1 hlen.2
      (fun c hc => hA c (List.mem_append_left _ hc)) fun c hc => hA c (List.mem_append_right _ hc))
  have hsigma : ¬ ('Σ' ∈ A ∧ 'σ' ∈ A) := by
    rintro ⟨hA, hA'⟩
    have hagree := hnames ['Σ', 'Σ'] ['Σ', 'σ'] (by simp) (by simp)
      (by simp [hA, hA'])
    have hlower := hagree.mpr (by decide)
    rw [lowerFrom_sigma_sigma, lowerFrom_sigma, lowerFrom, lowerFrom, if_neg (by decide),
      u.sigma] at hlower
    exact absurd hlower (by decide)
  have hfinal : ¬ ('Σ' ∈ A ∧ 'ς' ∈ A) := by
    rintro ⟨hA, hA'⟩
    have hagree := hnames ['Σ'] ['ς'] (by simp) (by simp) (by simp [hA, hA'])
    have hlower := hagree.mpr (by decide)
    rw [lowerFrom_sigma, lowerFrom, lowerFrom_singleton (by decide), u.finalSigma] at hlower
    exact absurd hlower (by decide)
  have hsmall : ¬ ('σ' ∈ A ∧ 'ς' ∈ A) := by
    rintro ⟨hA, hA'⟩
    have hagree := hnames ['σ'] ['ς'] (by simp) (by simp) (by simp [hA, hA'])
    have hlower := hagree.mpr (by decide)
    rw [lowerFrom_singleton (by decide), lowerFrom_singleton (by decide), u.sigma,
      u.finalSigma] at hlower
    exact absurd hlower (by decide)
  refine ⟨fun c hc d hd hcs hds => ?_, fun c hc d hd hcs hds => ?_, ?_⟩
  · have hagree := hnames [c] [d] (by simp) (by simp) (by simp [hc, hd])
    rw [lowerFrom_singleton hcs, lowerFrom_singleton hds] at hagree
    simpa using hagree
  · rcases hcs with rfl | rfl | rfl <;> rcases hds with rfl | rfl | rfl <;>
      first
      | rfl
      | exact (hsigma ⟨hc, hd⟩).elim
      | exact (hsigma ⟨hd, hc⟩).elim
      | exact (hfinal ⟨hc, hd⟩).elim
      | exact (hfinal ⟨hd, hc⟩).elim
      | exact (hsmall ⟨hc, hd⟩).elim
      | exact (hsmall ⟨hd, hc⟩).elim
  · rintro ⟨hI, hdot, hi⟩
    have hdotted {c : Char} (hc : c ∈ A) (hlower : u.lower c = ['i']) (hcs : c ≠ 'Σ')
        (hup : upChar 'İ' ≠ upChar c) : False := by
      have hagree := hnames ['İ'] [c, '\u0307'] (by simp) (by simp)
        (by simp [hI, hc, hdot])
      have hsame : u.lowerFrom [] ['İ'] = u.lowerFrom [] [c, '\u0307'] := by
        rw [lowerFrom_singleton (by decide), u.dotted, lowerFrom, lowerFrom, lowerFrom, if_neg hcs,
          if_neg (by decide), hlower, u.dot]
        rfl
      exact hup (List.cons.inj (hagree.mp hsame)).1
    rcases hi with hi | hi
    · exact hdotted hi (u.ascii 'i' (by decide)) (by decide) (by decide)
    · exact hdotted hi (u.ascii 'I' (by decide)) (by decide) (by decide)

end CaseTables

end StreamBox.Exfat
