import StreamBox.Webrtc.AudStripping
import StreamBox.Webrtc.UniversalSession

/-!
# The scanners of Annex B data

Every scanner of the repository, on an access unit.

* **Units** — `splitAnnexbNalUnits_annexB` and the payload loop give the units themselves.
* **Parameter sets** — `extractSpsPps_annexB`, `hasSpsPps_annexB`.
* **Slices** — `isH264Keyframe_annexB`.
* **Agreement** — `scanners_agree_iff`: all agree, but that `h264_contains_parameter_sets` reads
  data without parameter sets again as length-prefixed units.
* **Failure** — `parameter_sets_misread`.
-/

namespace StreamBox.Webrtc

open StreamBox.RustDesk (Bytes)
open StreamBox.Rtsp
open H265Payloader

/-- Some unit is of the type. -/
def hasType (nalType : UInt8) (units : List (Bool × Bytes)) : Bool :=
  units.any fun u => h264NalType u.2 == some nalType

/-- The last unit of the type. -/
def lastOfType (nalType : UInt8) (units : List (Bool × Bytes)) : Option Bytes :=
  ((units.map Prod.snd).filter fun nal => h264NalType nal == some nalType).getLast?

/-- The units that `H265Payloader::payload` visits; empty data has none. -/
def payloadUnits (data : Bytes) : List Bytes := if data = [] then [] else nalUnits data

/-- All scanners see the units of an access unit. -/
structure ScannersAgree (units : List (Bool × Bytes)) : Prop where
  split : splitAnnexbNalUnits (annexB units) = units.map Prod.snd
  payload : payloadUnits (annexB units) = units.map Prod.snd
  extract : extractSpsPps (annexB units) = (lastOfType 7 units, lastOfType 8 units)
  both : hasSpsPps (annexB units) = (hasType 7 units && hasType 8 units)
  keyframe : isH264Keyframe (annexB units) = hasType 5 units
  contains : h264ContainsParameterSets (annexB units) = (hasType 7 units || hasType 8 units)

/-! ## Splitting -/

theorem scanAnnexbStartCode_unit {nalu suf : Bytes} (h : Delimited nalu) (hsuf : suf <:+ nalu)
    (i : Nat) (units : List (Bool × Bytes)) :
    scanAnnexbStartCode i (suf ++ annexB units) =
      match units with
      | [] => none
      | (long, _) :: _ => some (i + suf.length, (startCode long).length) := by
  induction suf generalizing i with
  | nil =>
    cases units with
    | nil => rfl
    | cons u rest =>
      obtain ⟨long, next⟩ := u
      cases long with
      | false => rfl
      | true => rfl
  | cons b suf ih =>
    have hnone := startCodeLen_unit h hsuf (List.cons_ne_nil b suf) (annexB units)
    rw [List.cons_append] at hnone ⊢
    rw [scanAnnexbStartCode, hnone, ih ((List.suffix_cons b suf).trans hsuf)]
    have hlen : i + 1 + suf.length = i + (b :: suf).length := by
      rw [List.length_cons]
      omega
    rw [hlen]

theorem trimZeros_of_last {nal : Bytes} (h : nal.getLast? ≠ some 0) : trimZeros nal = nal := by
  unfold trimZeros
  cases hrev : nal.reverse with
  | nil =>
    rw [List.reverse_eq_nil_iff] at hrev
    rw [hrev]
    rfl
  | cons b rest =>
    have hb : b ≠ 0 := by
      rintro rfl
      refine h ?_
      rw [← List.head?_reverse, hrev]
      rfl
    rw [List.dropWhile_cons_of_neg (by simpa using hb), ← hrev, List.reverse_reverse]

/-- Where the next unit's start code is found. -/
theorem findAnnexbStartCode_unit (pre : Bytes) {nalu : Bytes} (h : Delimited nalu)
    (units : List (Bool × Bytes)) :
    findAnnexbStartCode (pre ++ (nalu ++ annexB units)) pre.length =
      match units with
      | [] => none
      | (long, _) :: _ => some (pre.length + nalu.length, (startCode long).length) := by
  rw [findAnnexbStartCode, List.drop_left]
  exact scanAnnexbStartCode_unit h (List.suffix_refl nalu) _ _

/-- The loop gives the units from a start code on; the induction is on the units left. -/
theorem splitLoop_annexB {units : List (Bool × Bytes)} (h : WellFormed units) (pre : Bytes)
    (fuel : Nat) (hfuel : units.length ≤ fuel) :
    splitLoop (pre ++ annexB units) fuel pre.length = units.map Prod.snd := by
  induction units generalizing pre fuel with
  | nil =>
    cases fuel with
    | zero => rfl
    | succ fuel =>
      rw [splitLoop, findAnnexbStartCode, List.drop_left]
      rfl
  | cons u units ih =>
    obtain ⟨long, nalu⟩ := u
    obtain ⟨hnalu, hne⟩ := h _ List.mem_cons_self
    obtain ⟨fuel, rfl⟩ : ∃ n, fuel = n + 1 := ⟨fuel - 1, by rw [List.length_cons] at hfuel; omega⟩
    have hfind : findAnnexbStartCode (pre ++ annexB ((long, nalu) :: units)) pre.length =
        some (pre.length, (startCode long).length) := by
      rw [findAnnexbStartCode, List.drop_left]
      cases long with
      | false => rfl
      | true => rfl
    have hsplit : pre ++ annexB ((long, nalu) :: units) =
        (pre ++ startCode long) ++ (nalu ++ annexB units) := by
      rw [annexB, List.append_assoc]
    have hstart : pre.length + (startCode long).length = (pre ++ startCode long).length :=
      (List.length_append ..).symm
    have hnext := findAnnexbStartCode_unit (pre ++ startCode long) hnalu units
    have hinside : ¬ (pre ++ startCode long).length ≥
        (pre ++ annexB ((long, nalu) :: units)).length := by
      have hpos := List.length_pos_iff.mpr hne
      rw [hsplit]
      simp only [List.length_append] at hpos ⊢
      omega
    have hend : ((findAnnexbStartCode (pre ++ annexB ((long, nalu) :: units))
        (pre ++ startCode long).length).map Prod.fst).getD
          (pre ++ annexB ((long, nalu) :: units)).length
        = (pre ++ startCode long ++ nalu).length := by
      rw [hsplit, hnext]
      cases units with
      | nil => simp [annexB]
      | cons v rest => simp [Nat.add_assoc]
    have hunit : ((pre ++ annexB ((long, nalu) :: units)).take
        (pre ++ startCode long ++ nalu).length).drop (pre ++ startCode long).length = nalu := by
      rw [hsplit, ← List.append_assoc, List.take_left, List.drop_left]
    rw [splitLoop, hfind]
    simp only [hstart, if_neg hinside, hend, hunit, trimZeros_of_last hnalu.lastNonzero, if_pos hne]
    have hrest := ih h.tail (pre ++ startCode long ++ nalu) fuel
      (by rw [List.length_cons] at hfuel; omega)
    rw [hsplit, ← List.append_assoc, hrest]
    rfl

theorem splitAnnexbNalUnits_annexB {units : List (Bool × Bytes)} (h : WellFormed units) :
    splitAnnexbNalUnits (annexB units) = units.map Prod.snd :=
  splitLoop_annexB h [] _ (length_annexB units)

theorem payloadUnits_annexB {units : List (Bool × Bytes)} (h : WellFormed units) :
    payloadUnits (annexB units) = units.map Prod.snd := by
  unfold payloadUnits
  by_cases hempty : units = []
  · rw [if_pos (annexB_eq_nil.mpr hempty), hempty]
    rfl
  · rw [if_neg fun hnil => hempty (annexB_eq_nil.mp hnil)]
    exact nalUnits_annexB hempty h

/-! ## Parameter sets -/

theorem h264NalType_cons (header : UInt8) (body : Bytes) :
    h264NalType (header :: body) = some (header &&& 0x1F) := rfl

theorem lastOfType_cons (nalType : UInt8) (long : Bool) (nalu : Bytes)
    (units : List (Bool × Bytes)) :
    lastOfType nalType ((long, nalu) :: units) =
      (lastOfType nalType units).or (if h264NalType nalu = some nalType then some nalu else none) := by
  simp only [lastOfType, List.map_cons, List.filter_cons, beq_iff_eq]
  split
  · rw [List.getLast?_cons]
    cases (List.filter (fun nal => h264NalType nal == some nalType)
      (units.map Prod.snd)).getLast? <;> rfl
  · rw [Option.or_none]

/-- The head of an access unit: where its first unit begins. -/
theorem annexB_cons (long : Bool) (nalu : Bytes) (units : List (Bool × Bytes)) :
    ∃ b rest, annexB ((long, nalu) :: units) = b :: rest ∧
      startCodeLen (b :: rest) = some (startCode long).length ∧
      (b :: rest).drop (startCode long).length = nalu ++ annexB units := by
  cases long with
  | false => exact ⟨_, _, rfl, rfl, rfl⟩
  | true => exact ⟨_, _, rfl, rfl, rfl⟩

/-- The scan takes the last unit of either type over those found before. -/
theorem scanSpsPps_annexB {units : List (Bool × Bytes)} (h : WellFormed units) (fuel : Nat)
    (hfuel : units.length ≤ fuel) (sps pps : Option Bytes) :
    scanSpsPps fuel (annexB units) (sps, pps) =
      ((lastOfType 7 units).or sps, (lastOfType 8 units).or pps) := by
  induction units generalizing fuel sps pps with
  | nil => cases fuel <;> rfl
  | cons u units ih =>
    obtain ⟨long, nalu⟩ := u
    obtain ⟨hnalu, hne⟩ := h _ List.mem_cons_self
    obtain ⟨fuel, rfl⟩ : ∃ n, fuel = n + 1 := ⟨fuel - 1, by rw [List.length_cons] at hfuel; omega⟩
    have hrest : units.length ≤ fuel := Nat.le_of_succ_le_succ hfuel
    obtain ⟨header, body, rfl⟩ := List.exists_cons_of_ne_nil hne
    have huntil := untilStartCode_unit hnalu (List.suffix_cons header body) units
    obtain ⟨b, rest, hdata, hcode, hdrop⟩ := annexB_cons long (header :: body) units
    rw [List.cons_append] at hdrop
    rw [hdata, scanSpsPps, hcode]
    simp only [hdrop, huntil, lastOfType_cons, h264NalType_cons, Option.some.injEq]
    split
    case h_1 htype => rw [ih h.tail fuel hrest, htype]; simp
    case h_2 htype => rw [ih h.tail fuel hrest, htype]; simp
    case h_3 h7 h8 => rw [ih h.tail fuel hrest, if_neg h7, if_neg h8]; simp

theorem extractSpsPps_annexB {units : List (Bool × Bytes)} (h : WellFormed units) :
    extractSpsPps (annexB units) = (lastOfType 7 units, lastOfType 8 units) := by
  rw [extractSpsPps, scanSpsPps_annexB h _ (length_annexB units), Option.or_none, Option.or_none]

/-- The scan passes over the rest of a unit. -/
theorem scanHasSpsPps_unit {nalu suf : Bytes} (h : Delimited nalu) (hsuf : suf <:+ nalu)
    (rest : Bytes) (fuel : Nat) (sps pps : Bool) :
    scanHasSpsPps (suf.length + fuel) (suf ++ rest) sps pps = scanHasSpsPps fuel rest sps pps := by
  induction suf with
  | nil => rw [List.length_nil, Nat.zero_add, List.nil_append]
  | cons b suf ih =>
    have hnone := startCodeLen_unit h hsuf (List.cons_ne_nil b suf) rest
    rw [List.cons_append] at hnone
    rw [List.length_cons, Nat.add_right_comm, List.cons_append, scanHasSpsPps, hnone]
    exact ih ((List.suffix_cons b suf).trans hsuf)

theorem hasType_cons (nalType : UInt8) (long : Bool) (nalu : Bytes) (units : List (Bool × Bytes)) :
    hasType nalType ((long, nalu) :: units) =
      (h264NalType nalu == some nalType || hasType nalType units) := rfl

/-- Enough fuel for an access unit is enough behind its first header. -/
theorem fuel_unit {long : Bool} {header : UInt8} {body : Bytes} {units : List (Bool × Bytes)}
    {fuel : Nat} (h : (annexB ((long, header :: body) :: units)).length ≤ fuel) :
    ∃ rest, fuel = body.length + rest + 1 ∧ (annexB units).length < rest := by
  have hcode : 3 ≤ (startCode long).length := by cases long <;> decide
  simp only [annexB, List.length_append, List.length_cons] at h
  exact ⟨fuel - 1 - body.length, by omega, by omega⟩

/-- The scan finds both kinds among the units, or one of them among those and the other before. -/
theorem scanHasSpsPps_annexB {units : List (Bool × Bytes)} (h : WellFormed units) (fuel : Nat)
    (hfuel : (annexB units).length ≤ fuel) (sps pps : Bool) (hnot : (sps && pps) = false) :
    scanHasSpsPps fuel (annexB units) sps pps =
      ((sps || hasType 7 units) && (pps || hasType 8 units)) := by
  induction units generalizing fuel sps pps with
  | nil => cases fuel <;> simp [scanHasSpsPps, annexB, hasType]
  | cons u units ih =>
    obtain ⟨long, nalu⟩ := u
    obtain ⟨hnalu, hne⟩ := h _ List.mem_cons_self
    obtain ⟨header, body, rfl⟩ := List.exists_cons_of_ne_nil hne
    obtain ⟨rest, rfl, hrest⟩ := fuel_unit hfuel
    obtain ⟨b, data, hdata, hcode, hdrop⟩ := annexB_cons long (header :: body) units
    rw [List.cons_append] at hdrop
    rw [hdata, scanHasSpsPps, hcode]
    simp only [hdrop, hasType_cons, h264NalType_cons]
    rw [← Bool.or_assoc, ← Bool.or_assoc]
    by_cases hboth : (sps || header &&& 0x1F == 7) && (pps || header &&& 0x1F == 8)
    · rw [if_pos hboth]
      rw [Bool.and_eq_true] at hboth
      rw [show (some (header &&& 0x1F) == some 7) = (header &&& 0x1F == 7) from rfl,
        show (some (header &&& 0x1F) == some 8) = (header &&& 0x1F == 8) from rfl, hboth.1, hboth.2]
      rfl
    · rw [if_neg hboth, scanHasSpsPps_unit hnalu (List.suffix_cons header body),
        ih h.tail rest (Nat.le_of_lt hrest) _ _ (Bool.eq_false_of_not_eq_true hboth)]
      rfl

theorem hasSpsPps_annexB {units : List (Bool × Bytes)} (h : WellFormed units) :
    hasSpsPps (annexB units) = (hasType 7 units && hasType 8 units) :=
  scanHasSpsPps_annexB h _ (Nat.le_refl _) false false rfl

/-! ## Slices -/

/-- Where no start code begins, the scan for a keyframe goes on. -/
theorem scanKeyframe_skip {b : UInt8} {data : Bytes} (h : startCodeLen (b :: data) = none)
    (fuel : Nat) : scanKeyframe (fuel + 1) (b :: data) = scanKeyframe fuel data := by
  rw [scanKeyframe]
  all_goals
    intro header rest hb hdata
    rw [hb, hdata] at h
    simp [startCodeLen] at h

theorem scanKeyframe_unit {nalu suf : Bytes} (h : Delimited nalu) (hsuf : suf <:+ nalu)
    (rest : Bytes) (fuel : Nat) :
    scanKeyframe (suf.length + fuel) (suf ++ rest) = scanKeyframe fuel rest := by
  induction suf with
  | nil => rw [List.length_nil, Nat.zero_add, List.nil_append]
  | cons b suf ih =>
    have hnone := startCodeLen_unit h hsuf (List.cons_ne_nil b suf) rest
    rw [List.cons_append] at hnone
    rw [List.length_cons, Nat.add_right_comm, List.cons_append, scanKeyframe_skip hnone]
    exact ih ((List.suffix_cons b suf).trans hsuf)

theorem scanKeyframe_annexB {units : List (Bool × Bytes)} (h : WellFormed units) (fuel : Nat)
    (hfuel : (annexB units).length ≤ fuel) :
    scanKeyframe fuel (annexB units) = hasType 5 units := by
  induction units generalizing fuel with
  | nil => cases fuel <;> rfl
  | cons u units ih =>
    obtain ⟨long, nalu⟩ := u
    obtain ⟨hnalu, hne⟩ := h _ List.mem_cons_self
    obtain ⟨header, body, rfl⟩ := List.exists_cons_of_ne_nil hne
    obtain ⟨rest, rfl, hrest⟩ := fuel_unit hfuel
    -- the scan goes on at the header, which is a byte of the unit
    have hscan : scanKeyframe (body.length + rest) (header :: body ++ annexB units) =
        hasType 5 units := by
      have hskip := scanKeyframe_unit hnalu (List.suffix_refl _) (annexB units) (rest - 1)
      have hlen : (header :: body).length + (rest - 1) = body.length + rest := by
        rw [List.length_cons]
        omega
      rw [hlen] at hskip
      rw [hskip, ih h.tail (rest - 1) (by omega)]
    rw [hasType_cons, ← hscan]
    cases long with
    | false => rfl
    | true => rfl

theorem isH264Keyframe_annexB {units : List (Bool × Bytes)} (h : WellFormed units) :
    isH264Keyframe (annexB units) = hasType 5 units :=
  scanKeyframe_annexB h _ (Nat.le_refl _)

/-! ## Parameter sets in the session -/

theorem annexBParameterSets_nil (fuel : Nat) : annexBParameterSets fuel [] = false := by
  cases fuel <;> rfl

/-- The scan passes over the rest of a unit; it stops short only where nothing is left. -/
theorem annexBParameterSets_unit {nalu suf : Bytes} (h : Delimited nalu) (hsuf : suf <:+ nalu)
    {rest : Bytes} (hrest : rest = [] ∨ 4 ≤ rest.length) (fuel : Nat) :
    annexBParameterSets (suf.length + fuel) (suf ++ rest) = annexBParameterSets fuel rest := by
  induction suf with
  | nil => rw [List.length_nil, Nat.zero_add, List.nil_append]
  | cons b suf ih =>
    have hnone := startCodeLen_unit h hsuf (List.cons_ne_nil b suf) rest
    rw [List.length_cons, Nat.add_right_comm, annexBParameterSets, hnone]
    by_cases hshort : (b :: suf ++ rest).length < 4
    · have hnil : rest = [] := by
        refine hrest.resolve_right ?_
        intro hlong
        rw [List.length_append] at hshort
        omega
      rw [if_pos hshort, hnil, annexBParameterSets_nil]
    · rw [if_neg hshort]
      exact ih ((List.suffix_cons b suf).trans hsuf)

theorem four_le_annexB {units : List (Bool × Bytes)} (h : WellFormed units) :
    annexB units = [] ∨ 4 ≤ (annexB units).length := by
  cases units with
  | nil => exact Or.inl rfl
  | cons u units =>
    obtain ⟨long, nalu⟩ := u
    have hcode : 3 ≤ (startCode long).length := by cases long <;> decide
    have hpos := List.length_pos_iff.mpr (h _ List.mem_cons_self).2
    refine Or.inr ?_
    simp only [annexB, List.length_append] at hpos ⊢
    omega

theorem annexBParameterSets_annexB {units : List (Bool × Bytes)} (h : WellFormed units) (fuel : Nat)
    (hfuel : (annexB units).length ≤ fuel) :
    annexBParameterSets fuel (annexB units) = (hasType 7 units || hasType 8 units) := by
  induction units generalizing fuel with
  | nil => exact annexBParameterSets_nil fuel
  | cons u units ih =>
    obtain ⟨long, nalu⟩ := u
    obtain ⟨hnalu, hne⟩ := h _ List.mem_cons_self
    have hlong := (four_le_annexB h).resolve_left fun hnil => List.cons_ne_nil _ _
      (annexB_eq_nil.mp hnil)
    obtain ⟨header, body, rfl⟩ := List.exists_cons_of_ne_nil hne
    obtain ⟨rest, rfl, hrest⟩ := fuel_unit hfuel
    obtain ⟨b, data, hdata, hcode, hdrop⟩ := annexB_cons long (header :: body) units
    rw [List.cons_append] at hdrop
    have hskip := annexBParameterSets_unit hnalu (List.suffix_cons header body)
      (four_le_annexB h.tail) rest
    rw [annexBParameterSets, if_neg (Nat.not_lt.mpr hlong), hdata, hcode]
    simp only [hdrop, hskip, ih h.tail rest (Nat.le_of_lt hrest), hasType_cons, h264NalType_cons]
    show (_ == _ || _ == _ || (_ || _)) = ((_ == _ || _) || (_ == _ || _))
    rw [Bool.or_assoc, Bool.or_assoc, Bool.or_left_comm (header &&& 0x1F == 8)]
    rfl

/-! ## Agreement -/

/-- **The scanners agree.** On an access unit all scanners see its units, if and only if one is a
parameter set or none is found in the data read as length-prefixed units. -/
theorem scanners_agree_iff {units : List (Bool × Bytes)}
    (h : ∀ u ∈ units, Delimited u.2 ∧ u.2 ≠ []) :
    ScannersAgree units ↔ (hasType 7 units || hasType 8 units) = true ∨
      lengthPrefixedParameterSets (annexB units).length (annexB units) = false := by
  have hcontains : h264ContainsParameterSets (annexB units) =
      ((hasType 7 units || hasType 8 units) ||
        lengthPrefixedParameterSets (annexB units).length (annexB units)) := by
    rw [h264ContainsParameterSets, annexBParameterSets_annexB h _ (Nat.le_refl _)]
  constructor
  · intro hagree
    have heq := hcontains.symm.trans hagree.contains
    cases hsome : hasType 7 units || hasType 8 units with
    | true => exact Or.inl rfl
    | false =>
      rw [hsome, Bool.false_or] at heq
      exact Or.inr heq
  · intro hfound
    refine ⟨splitAnnexbNalUnits_annexB h, payloadUnits_annexB h, extractSpsPps_annexB h,
      hasSpsPps_annexB h, isH264Keyframe_annexB h, ?_⟩
    rw [hcontains]
    rcases hfound with hsome | hnone
    · rw [hsome, Bool.true_or]
    · rw [hnone, Bool.or_false]

/-- An access unit with parameter sets. -/
theorem scanners_agree_sample :
    ScannersAgree [(true, [0x67, 1]), (false, [0x68, 2]), (false, [0x65, 0, 3])] :=
  (scanners_agree_iff (by decide)).mpr (Or.inl rfl)

/-- A slice that, read as two length-prefixed units, has an SPS in it. -/
theorem parameter_sets_misread :
    (∀ u ∈ [(true, [0x41, 0, 0, 0, 2, 0x67, 1])], Delimited u.2 ∧ u.2 ≠ []) ∧
      ¬ ScannersAgree [(true, [0x41, 0, 0, 0, 2, 0x67, 1])] := by
  refine ⟨by decide, ?_⟩
  intro hagree
  exact absurd hagree.contains (by decide)

end StreamBox.Webrtc
