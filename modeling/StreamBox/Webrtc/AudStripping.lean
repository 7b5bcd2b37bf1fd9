import Mathlib.Data.List.Infix
import StreamBox.Rtsp.AnnexB
import StreamBox.Webrtc.H265Receiver

/-!
# Access units without delimiters

* **Start codes** — no start code begins inside a unit (`startCodeLen_unit`), so a unit reaches up to
  the next one (`untilStartCode_unit`).
* **Stripping** — `strip_exact`: the units that are neither delimiters nor filler data are left, each
  with its start code, in order.
-/

namespace StreamBox.Webrtc

open StreamBox.RustDesk (Bytes)
open StreamBox.Rtsp (h264NalType)
open H265Payloader

/-! ## Start codes -/

/-- The units of an access unit: not empty, without a start code in them, not ending in a zero. -/
def WellFormed (units : List (Bool × Bytes)) : Prop := ∀ u ∈ units, Delimited u.2 ∧ u.2 ≠ []

theorem WellFormed.tail {u : Bool × Bytes} {units : List (Bool × Bytes)}
    (h : WellFormed (u :: units)) : WellFormed units :=
  fun v hv => h v (List.mem_cons_of_mem _ hv)

theorem WellFormed.filter {units : List (Bool × Bytes)} (h : WellFormed units)
    (p : Bool × Bytes → Bool) : WellFormed (units.filter p) :=
  fun v hv => h v (List.mem_of_mem_filter hv)

theorem startCodeLen_startCode (long : Bool) (rest : Bytes) :
    startCodeLen (startCode long ++ rest) = some (startCode long).length := by
  cases long with
  | false => rfl
  | true => rfl

/-- A start code is three bytes, or a zero and three bytes. -/
theorem startCodeLen_some {data : Bytes} {len : Nat} (h : startCodeLen data = some len) :
    [0, 0, 1] <+: data ∨ [0, 0, 0, 1] <+: data := by
  unfold startCodeLen at h
  split at h
  · exact Or.inr (List.prefix_append [0, 0, 0, 1] _)
  · exact Or.inl (List.prefix_append [0, 0, 1] _)
  · cases h

theorem last_of_suffix {nalu suf : Bytes} (h : Delimited nalu) (hsuf : suf <:+ nalu)
    (hne : suf ≠ []) : suf.getLast? ≠ some 0 := by
  obtain ⟨pre, rfl⟩ := hsuf
  have hlast := h.lastNonzero
  rwa [List.getLast?_append_of_ne_nil _ hne] at hlast

/-- No start code begins inside a unit: it would lie in the unit, or the unit would end in one of
the code's zeros. -/
theorem startCodeLen_unit {nalu suf : Bytes} (h : Delimited nalu) (hsuf : suf <:+ nalu)
    (hne : suf ≠ []) (rest : Bytes) : startCodeLen (suf ++ rest) = none := by
  have hlast := last_of_suffix h hsuf hne
  have hno : ¬ [0, 0, 1] <:+: suf := fun hinside => h.noStartCode (hinside.trans hsuf.isInfix)
  cases hlen : startCodeLen (suf ++ rest) with
  | none => rfl
  | some len =>
    exfalso
    rcases startCodeLen_some hlen with hcode | hcode
    · rcases List.prefix_or_prefix_of_prefix hcode (List.prefix_append suf rest) with hin | hin
      · exact hno hin.isInfix
      · have hmem := (List.mem_inits suf [0, 0, 1]).mpr hin
        simp only [List.inits, List.map_cons, List.map_nil, List.mem_cons, List.not_mem_nil,
          or_false] at hmem
        rcases hmem with rfl | rfl | rfl | rfl
        · exact hne rfl
        · exact hlast rfl
        · exact hlast rfl
        · exact hno (List.infix_refl _)
    · rcases List.prefix_or_prefix_of_prefix hcode (List.prefix_append suf rest) with hin | hin
      · exact hno ((List.suffix_cons 0 [0, 0, 1]).isInfix.trans hin.isInfix)
      · have hmem := (List.mem_inits suf [0, 0, 0, 1]).mpr hin
        simp only [List.inits, List.map_cons, List.map_nil, List.mem_cons, List.not_mem_nil,
          or_false] at hmem
        rcases hmem with rfl | rfl | rfl | rfl | rfl
        · exact hne rfl
        · exact hlast rfl
        · exact hlast rfl
        · exact hlast rfl
        · exact hno (List.suffix_cons 0 [0, 0, 1]).isInfix

/-- A unit reaches up to the next start code. -/
theorem untilStartCode_unit {nalu suf : Bytes} (h : Delimited nalu) (hsuf : suf <:+ nalu)
    (units : List (Bool × Bytes)) :
    untilStartCode (suf ++ annexB units) = (suf, annexB units) := by
  induction suf with
  | nil =>
    cases units with
    | nil => rfl
    | cons u rest =>
      obtain ⟨long, next⟩ := u
      have hcode := startCodeLen_startCode long (next ++ annexB rest)
      cases long with
      | false => rfl
      | true => rfl
  | cons b suf ih =>
    have hnone := startCodeLen_unit h hsuf (List.cons_ne_nil b suf) (annexB units)
    rw [List.cons_append] at hnone ⊢
    rw [untilStartCode, hnone, ih ((List.suffix_cons b suf).trans hsuf)]
    rfl

/-! ## Stripping -/

/-- The unit is neither an access unit delimiter nor filler data. -/
def kept (u : Bool × Bytes) : Bool :=
  h264NalType u.2 ≠ some 9 ∧ h264NalType u.2 ≠ some 12

/-- One pass of the scan over a unit. -/
theorem scanStripped_unit (fuel : Nat) (long : Bool) {nalu : Bytes}
    (h : Delimited nalu ∧ nalu ≠ []) (units : List (Bool × Bytes)) (result : Bytes) :
    scanStripped (fuel + 1) (annexB ((long, nalu) :: units)) result =
      scanStripped fuel (annexB units)
        (result ++ if kept (long, nalu) then startCode long ++ nalu else []) := by
  obtain ⟨header, body, rfl⟩ := List.exists_cons_of_ne_nil h.2
  have huntil := untilStartCode_unit h.1 (List.suffix_cons header body) units
  obtain ⟨b, rest, hdata⟩ : ∃ b rest, annexB ((long, header :: body) :: units) = b :: rest := by
    cases long <;> exact ⟨_, _, rfl⟩
  have hcode := startCodeLen_startCode long (header :: body ++ annexB units)
  have hdrop : (b :: rest).drop (startCode long).length = header :: (body ++ annexB units) := by
    rw [← hdata, annexB, List.drop_left]
    rfl
  have htake : (b :: rest).take (startCode long).length = startCode long := by
    rw [← hdata, annexB, List.take_left]
  rw [← annexB, hdata] at hcode
  rw [hdata, scanStripped, hcode]
  simp only [hdrop, huntil, htake]
  have hkept : kept (long, header :: body) = true ↔ header &&& 0x1F ≠ 9 ∧ header &&& 0x1F ≠ 12 := by
    simp [kept, h264NalType]
  by_cases hkeep : header &&& 0x1F ≠ 9 ∧ header &&& 0x1F ≠ 12
  · rw [if_pos hkeep, if_pos (hkept.mpr hkeep)]
  · rw [if_neg hkeep, if_neg (fun hk => hkeep (hkept.mp hk)), List.append_nil]

/-- The scan keeps the kept units. -/
theorem scanStripped_annexB {units : List (Bool × Bytes)} (h : WellFormed units) (fuel : Nat)
    (hfuel : units.length ≤ fuel) (result : Bytes) :
    scanStripped fuel (annexB units) result = result ++ annexB (units.filter kept) := by
  induction units generalizing fuel result with
  | nil => cases fuel <;> simp [annexB, scanStripped]
  | cons u units ih =>
    obtain ⟨long, nalu⟩ := u
    obtain ⟨fuel, rfl⟩ : ∃ n, fuel = n + 1 := ⟨fuel - 1, by rw [List.length_cons] at hfuel; omega⟩
    rw [scanStripped_unit fuel long (h _ List.mem_cons_self),
      ih h.tail fuel (by rw [List.length_cons] at hfuel; omega), List.filter_cons]
    split
    · rw [annexB, List.append_assoc, List.append_assoc]
    · rw [List.append_nil]

theorem annexB_eq_nil {units : List (Bool × Bytes)} : annexB units = [] ↔ units = [] := by
  constructor
  · intro h
    have hlen := length_annexB units
    rw [h] at hlen
    exact List.eq_nil_of_length_eq_zero (Nat.le_zero.mp hlen)
  · rintro rfl
    rfl

/-- Stripping an access unit. -/
theorem stripAudNalUnits_annexB {units : List (Bool × Bytes)} (h : WellFormed units) :
    stripAudNalUnits (annexB units) =
      if units.filter kept = [] then annexB units else annexB (units.filter kept) := by
  have hscan := scanStripped_annexB h _ (length_annexB units) []
  rw [List.nil_append] at hscan
  simp only [stripAudNalUnits, hscan, annexB_eq_nil]
  by_cases hnone : units.filter kept = []
  · rw [if_pos hnone, hnone]
    by_cases hempty : units = []
    · rw [hempty]
      rfl
    · rw [if_pos ⟨rfl, fun hnil => hempty (annexB_eq_nil.mp hnil)⟩]
  · rw [if_neg hnone, if_neg fun hboth => hnone hboth.1]

/-- **Stripping is exact.** What is left of an access unit are the units that are neither delimiters
nor filler data, each behind its own start code, or all of it where there are none; and
stripping it again changes nothing. -/
theorem strip_exact {units : List (Bool × Bytes)}
    (h : ∀ u ∈ units, Delimited u.2 ∧ u.2 ≠ []) :
    stripAudNalUnits (annexB units) =
        (if units.filter kept = [] then annexB units else annexB (units.filter kept)) ∧
      stripAudNalUnits (stripAudNalUnits (annexB units)) = stripAudNalUnits (annexB units) := by
  have hstrip := stripAudNalUnits_annexB h
  refine ⟨hstrip, ?_⟩
  rw [hstrip]
  by_cases hnone : units.filter kept = []
  · rw [if_pos hnone, hstrip, if_pos hnone]
  · have hagain := stripAudNalUnits_annexB (WellFormed.filter h kept)
    rw [List.filter_filter, show (units.filter fun a => kept a && kept a) = units.filter kept by
      simp] at hagain
    rw [if_neg hnone, hagain, if_neg hnone]

instance (nalu : Bytes) : Decidable (Delimited nalu) :=
  decidable_of_iff (¬ [0, 0, 1] <:+: nalu ∧ nalu.getLast? ≠ some 0)
    ⟨fun h => ⟨h.1, h.2⟩, fun h => ⟨h.1, h.2⟩⟩

/-- Delimiters at both ends and between the slices. -/
theorem strip_exact_sample :
    stripAudNalUnits [0, 0, 0, 1, 9, 16, 0, 0, 1, 0x65, 1, 0, 0, 1, 12, 255, 0, 0, 0, 1, 0x41, 2,
        0, 0, 1, 9, 48] = [0, 0, 1, 0x65, 1, 0, 0, 0, 1, 0x41, 2] :=
  (@strip_exact [(true, [9, 16]), (false, [0x65, 1]), (false, [12, 255]), (true, [0x41, 2]),
    (false, [9, 48])] (by decide)).1

end StreamBox.Webrtc
