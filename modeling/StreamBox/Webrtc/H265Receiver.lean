import StreamBox.Webrtc.H265Payloader

/-!
# What a receiver makes of the H.265 payloads

A receiver takes single NAL unit packets as they are and joins fragmentation units; an
access unit without parameter sets arrives exactly.

* **Access units** — an Annex B access unit is taken apart into its units, whatever the
  start codes (`nalUnits_annexB`).
* **Fragments** — the fragments of a unit join to that unit (`reassemble_fragments`).
* **Exactness** — the payloads fit the MTU and reassemble to the units (`payload_exact`).
-/

namespace StreamBox.Webrtc

open StreamBox.RustDesk (Bytes)

namespace H265Payloader

/-! ## Access units -/

/-- A start code of three or four bytes. -/
def startCode (long : Bool) : Bytes := if long then [0, 0, 0, 1] else [0, 0, 1]

/-- An Annex B access unit: every NAL unit behind a start code of either length. -/
def annexB : List (Bool × Bytes) → Bytes
  | [] => []
  | (long, nalu) :: rest => startCode long ++ (nalu ++ annexB rest)

/-- A unit without a start code in it, not ending in a zero. -/
structure Delimited (nalu : Bytes) : Prop where
  noStartCode : ¬ [0, 0, 1] <:+: nalu
  lastNonzero : nalu.getLast? ≠ some 0

theorem scanInd_startCode (i : Nat) (long : Bool) (rest : Bytes) :
    scanInd i 0 (startCode long ++ rest) = some (i, (startCode long).length) := by
  cases long with
  | false => rfl
  | true => rfl

/-- The zeros at the end of some bytes, behind `zeroCount` zeros. -/
def zerosAfter : Nat → Bytes → Nat
  | zeroCount, [] => zeroCount
  | zeroCount, b :: rest => if b = 0 then zerosAfter (zeroCount + 1) rest else zerosAfter 0 rest

theorem zerosAfter_eq_zero {nalu : Bytes} (zeroCount : Nat) (hne : nalu ≠ [])
    (hlast : nalu.getLast? ≠ some 0) : zerosAfter zeroCount nalu = 0 := by
  induction nalu generalizing zeroCount with
  | nil => exact absurd rfl hne
  | cons b nalu ih =>
    rw [zerosAfter]
    by_cases hnil : nalu = []
    · subst hnil
      have hb : b ≠ 0 := by
        rintro rfl
        exact hlast rfl
      rw [if_neg hb, zerosAfter]
    · have hlast' : nalu.getLast? ≠ some 0 := by
        rw [List.getLast?_cons_of_ne_nil hnil] at hlast
        exact hlast
      split
      · exact ih _ hnil hlast'
      · exact ih _ hnil hlast'

/-- The scan runs over a unit without finding a start code in it. -/
theorem scanInd_unit (nalu rest : Bytes) (i zeroCount : Nat)
    (hno : ¬ [0, 0, 1] <:+: List.replicate zeroCount 0 ++ nalu) :
    scanInd i zeroCount (nalu ++ rest)
      = scanInd (i + nalu.length) (zerosAfter zeroCount nalu) rest := by
  induction nalu generalizing i zeroCount with
  | nil => rfl
  | cons b nalu ih =>
    have hlen : i + (b :: nalu).length = i + 1 + nalu.length := by
      rw [List.length_cons]
      omega
    rw [List.cons_append, scanInd, zerosAfter, hlen]
    by_cases hb : b = 0
    · subst hb
      rw [if_pos rfl, if_pos rfl]
      refine ih (i + 1) (zeroCount + 1) ?_
      rwa [List.replicate_succ', List.append_assoc]
    · have hone : ¬ (b = 1 ∧ zeroCount ≥ 2) := by
        rintro ⟨rfl, hcount⟩
        refine hno ⟨List.replicate (zeroCount - 2) 0, nalu, ?_⟩
        obtain ⟨n, rfl⟩ : ∃ n, zeroCount = n + 2 := ⟨zeroCount - 2, by omega⟩
        rw [List.replicate_add, Nat.add_sub_cancel]
        simp [List.replicate]
      rw [if_neg hb, if_neg hone, if_neg hb]
      refine ih (i + 1) 0 ?_
      intro hinside
      refine hno (hinside.trans ?_)
      exact (List.suffix_cons b nalu).isInfix.trans (List.suffix_append _ _).isInfix

/-- Behind a unit the next start code is found. -/
theorem nextInd_unit (pre nalu : Bytes) (hnalu : Delimited nalu) (hne : nalu ≠ []) (long : Bool)
    (rest : Bytes) :
    nextInd (pre ++ (nalu ++ (startCode long ++ rest))) pre.length
      = some (pre.length + nalu.length, (startCode long).length) := by
  rw [nextInd, List.drop_left, scanInd_unit nalu _ _ 0 hnalu.noStartCode,
    zerosAfter_eq_zero _ hne hnalu.lastNonzero, scanInd_startCode]

/-- Behind the last unit no start code is found. -/
theorem nextInd_last (pre nalu : Bytes) (hnalu : Delimited nalu) :
    nextInd (pre ++ nalu) pre.length = none := by
  have hscan := scanInd_unit nalu [] pre.length 0 hnalu.noStartCode
  rw [List.append_nil] at hscan
  rw [nextInd, List.drop_left, hscan, scanInd]

/-- The loop visits the units of the access unit; the induction is on the units left. -/
theorem unitsFrom_annexB (units : List (Bool × Bytes)) (pre nalu : Bytes) (fuel : Nat)
    (hnalu : Delimited nalu ∧ nalu ≠ []) (hunits : ∀ u ∈ units, Delimited u.2 ∧ u.2 ≠ [])
    (hfuel : units.length < fuel) :
    unitsFrom (pre ++ (nalu ++ annexB units)) fuel pre.length = nalu :: units.map Prod.snd := by
  induction units generalizing pre nalu fuel with
  | nil =>
    obtain ⟨fuel, rfl⟩ : ∃ n, fuel = n + 1 := ⟨fuel - 1, by omega⟩
    rw [annexB, List.append_nil, unitsFrom, nextInd_last _ _ hnalu.1, List.drop_left]
    rfl
  | cons u units ih =>
    obtain ⟨long, next⟩ := u
    obtain ⟨fuel, rfl⟩ : ∃ n, fuel = n + 1 := ⟨fuel - 1, by omega⟩
    have hnext := hunits (long, next) List.mem_cons_self
    have hsplit : pre ++ (nalu ++ annexB ((long, next) :: units))
        = (pre ++ nalu ++ startCode long) ++ (next ++ annexB units) := by
      simp only [annexB, List.append_assoc]
    have hlen : pre.length + nalu.length + (startCode long).length
        = (pre ++ nalu ++ startCode long).length := by
      simp only [List.length_append]
    have hunit : ((pre ++ (nalu ++ annexB ((long, next) :: units))).take
        (pre.length + nalu.length)).drop pre.length = nalu := by
      rw [← List.append_assoc, List.take_left' (List.length_append ..), List.drop_left]
    rw [unitsFrom, annexB, nextInd_unit _ _ hnalu.1 hnalu.2]
    show _ :: unitsFrom _ fuel _ = _
    rw [← annexB, hunit, hlen, hsplit]
    have hrest := ih (pre ++ nalu ++ startCode long) next fuel hnext
      (fun u hu => hunits u (List.mem_cons_of_mem _ hu)) (by rw [List.length_cons] at hfuel; omega)
    rw [hrest]
    rfl

theorem length_annexB (units : List (Bool × Bytes)) : units.length ≤ (annexB units).length := by
  induction units with
  | nil => exact Nat.le_refl _
  | cons u units ih =>
    obtain ⟨long, nalu⟩ := u
    have hcode : 3 ≤ (startCode long).length := by
      cases long <;> decide
    rw [annexB, List.length_append, List.length_append, List.length_cons]
    omega

/-- An access unit is taken apart into its units. -/
theorem nalUnits_annexB {units : List (Bool × Bytes)} (hne : units ≠ [])
    (hunits : ∀ u ∈ units, Delimited u.2 ∧ u.2 ≠ []) :
    nalUnits (annexB units) = units.map Prod.snd := by
  obtain ⟨⟨long, nalu⟩, rest, rfl⟩ := List.exists_cons_of_ne_nil hne
  have hfirst : nextInd (annexB ((long, nalu) :: rest)) 0 = some (0, (startCode long).length) :=
    scanInd_startCode 0 long _
  have hfuel : rest.length < (annexB ((long, nalu) :: rest)).length :=
    length_annexB ((long, nalu) :: rest)
  rw [nalUnits, hfirst]
  show unitsFrom _ _ (0 + (startCode long).length) = _
  rw [Nat.zero_add]
  exact unitsFrom_annexB rest (startCode long) nalu _ (hunits _ List.mem_cons_self)
    (fun u hu => hunits u (List.mem_cons_of_mem _ hu)) hfuel

/-! ## The receiver -/

def isFuStart (header : UInt8) : Bool := header &&& 0x80 != 0
def isFuEnd (header : UInt8) : Bool := header &&& 0x40 != 0
def fuType (header : UInt8) : UInt8 := header &&& 0x3F

/-- A unit whose fragments are arriving, with the payload so far. -/
structure Fragments where
  byte0 : UInt8
  byte1 : UInt8
  nalType : UInt8
  data : Bytes
  deriving DecidableEq, Repr

/-- The joined unit: its header is the fragments' with the unit's own type. -/
def Fragments.nalu (f : Fragments) : Bytes :=
  ((f.byte0 &&& (0x81 : UInt8)) ||| (f.nalType <<< (1 : UInt8))) :: f.byte1 :: f.data

/-- The first fragment of a unit: it has the start bit, and is not the last. -/
def Fragments.start : Bytes → Option Fragments
  | b0 :: b1 :: header :: data =>
    if getNalType [b0, b1] = 49 ∧ isFuStart header = true ∧ isFuEnd header = false ∧ data ≠ [] then
      some ⟨b0, b1, fuType header, data⟩
    else none
  | _ => none

/-- A further fragment of the unit, with the same header and type: whether it is the last. -/
def Fragments.add (f : Fragments) : Bytes → Option (Fragments × Bool)
  | b0 :: b1 :: header :: data =>
    if b0 = f.byte0 ∧ b1 = f.byte1 ∧ fuType header = f.nalType ∧ isFuStart header = false ∧
        data ≠ [] then
      some ({ f with data := f.data ++ data }, isFuEnd header)
    else none
  | _ => none

/-- The units of some payloads: a single NAL unit packet is a unit, and the fragments of a
unit follow one another. Anything else is malformed. -/
def reassemble : Option Fragments → List Bytes → Option (List Bytes)
  | none, [] => some []
  | some _, [] => none
  | none, pkt :: rest =>
    if 2 ≤ pkt.length ∧ getNalType pkt < 48 then (reassemble none rest).map (pkt :: ·)
    else
      match Fragments.start pkt with
      | some f => reassemble (some f) rest
      | none => none
  | some f, pkt :: rest =>
    match f.add pkt with
    | some (f, true) => (reassemble none rest).map (f.nalu :: ·)
    | some (f, false) => reassemble (some f) rest
    | none => none

/-- What holds of all 256 bytes holds of a byte. -/
theorem forall_byte {motive : UInt8 → Prop} (h : ∀ n : Fin 256, motive (UInt8.ofNat n)) (b : UInt8) :
    motive b := by
  have hb := h ⟨b.toNat, b.toNat_lt⟩
  rwa [UInt8.ofNat_toNat] at hb

theorem getNalType_fuByte0 (b0 b1 : UInt8) : getNalType [fuByte0 b0, b1] = 49 := by
  exact forall_byte (motive := fun b0 => (fuByte0 b0 >>> 1) &&& 0x3F = 49) (by decide +kernel) b0

/-- The header of a unit is back when the type is put in place again. -/
theorem restore_byte0 (b0 b1 : UInt8) :
    (fuByte0 b0 &&& (0x81 : UInt8)) ||| (getNalType [b0, b1] <<< (1 : UInt8)) = b0 := by
  exact forall_byte (motive := fun b0 =>
    (fuByte0 b0 &&& (0x81 : UInt8)) ||| (((b0 >>> 1) &&& 0x3F) <<< (1 : UInt8)) = b0)
    (by decide +kernel) b0

/-- The fields of a fragment's header. -/
theorem fuHeader_fields (nalu : Bytes) (isStart isEnd : Bool) :
    isFuStart (fuHeader (getNalType nalu) isStart isEnd) = isStart ∧
      isFuEnd (fuHeader (getNalType nalu) isStart isEnd) = isEnd ∧
      fuType (fuHeader (getNalType nalu) isStart isEnd) = getNalType nalu := by
  have hsix : ∀ b : UInt8, isFuStart (fuHeader (b &&& 0x3F) isStart isEnd) = isStart ∧
      isFuEnd (fuHeader (b &&& 0x3F) isStart isEnd) = isEnd ∧
      fuType (fuHeader (b &&& 0x3F) isStart isEnd) = b &&& 0x3F := by
    cases isStart <;> cases isEnd <;> exact forall_byte (by decide +kernel)
  match nalu with
  | [] => exact hsix 0
  | [_] => exact hsix 0
  | b0 :: _ :: _ => exact hsix (b0 >>> 1)

/-- A single NAL unit packet is its unit. -/
theorem reassemble_single {nalu : Bytes} (hlen : 2 ≤ nalu.length) (htype : getNalType nalu < 48)
    (rest : List Bytes) :
    reassemble none (nalu :: rest) = (reassemble none rest).map (nalu :: ·) := by
  rw [reassemble, if_pos ⟨hlen, htype⟩]

/-- The first fragment of a unit is recognised. -/
theorem start_fragment (b0 b1 : UInt8) {data : Bytes} (hdata : data ≠ []) :
    Fragments.start (fuByte0 b0 :: b1 :: fuHeader (getNalType [b0, b1]) true false :: data)
      = some ⟨fuByte0 b0, b1, getNalType [b0, b1], data⟩ := by
  obtain ⟨hs, he, ht⟩ := fuHeader_fields [b0, b1] true false
  rw [Fragments.start, if_pos ⟨getNalType_fuByte0 b0 b1, hs, he, hdata⟩, ht]

/-- A further fragment of a unit is added to it. -/
theorem add_fragment (b0 b1 : UInt8) (isEnd : Bool) (got : Bytes) {data : Bytes} (hdata : data ≠ []) :
    Fragments.add ⟨fuByte0 b0, b1, getNalType [b0, b1], got⟩
        (fuByte0 b0 :: b1 :: fuHeader (getNalType [b0, b1]) false isEnd :: data)
      = some (⟨fuByte0 b0, b1, getNalType [b0, b1], got ++ data⟩, isEnd) := by
  obtain ⟨hs, he, ht⟩ := fuHeader_fields [b0, b1] false isEnd
  rw [Fragments.add, if_pos ⟨rfl, rfl, ht, hs, hdata⟩, he]

/-- Part of the bytes is not empty. -/
theorem take_drop_ne_nil {naluPayload : Bytes} {offset size : Nat} (hsize : 0 < size)
    (hin : offset < naluPayload.length) : (naluPayload.drop offset).take size ≠ [] := by
  intro hnil
  have hlen := congrArg List.length hnil
  rw [List.length_take, List.length_drop, List.length_nil] at hlen
  omega

/-- The fragments from the second one on complete the unit; the induction is on the bytes
left. -/
theorem reassemble_loop (b0 b1 : UInt8) (naluPayload : Bytes) {maxSize : Nat} (hmax : 0 < maxSize)
    (rest : List Bytes) (fuel offset : Nat) (hpos : 0 < offset) (hin : offset < naluPayload.length)
    (hfuel : naluPayload.length - offset ≤ fuel) :
    reassemble (some ⟨fuByte0 b0, b1, getNalType [b0, b1], naluPayload.take offset⟩)
        (fragmentLoop (fuByte0 b0) b1 (getNalType [b0, b1]) maxSize naluPayload fuel offset [] ++ rest)
      = (reassemble none rest).map ((b0 :: b1 :: naluPayload) :: ·) := by
  induction fuel generalizing offset with
  | zero => omega
  | succ fuel ih =>
    obtain ⟨size, hsize⟩ : ∃ size, min (naluPayload.length - offset) maxSize = size := ⟨_, rfl⟩
    have hstart : (offset == 0) = false := beq_false_of_ne (by omega)
    have hdata : (naluPayload.drop offset).take size ≠ [] := take_drop_ne_nil (by omega) hin
    have hjoin : naluPayload.take offset ++ (naluPayload.drop offset).take size
        = naluPayload.take (offset + size) := List.take_add.symm
    rw [fragmentLoop, if_pos hin, hsize, hstart]
    show reassemble _ (fragmentLoop _ _ _ _ _ fuel (offset + size) ([] ++ [_]) ++ rest) = _
    rw [List.nil_append, fragmentLoop_append, List.append_assoc, List.singleton_append, reassemble,
      add_fragment _ _ _ _ hdata, hjoin]
    by_cases hend : offset + size ≥ naluPayload.length
    · -- the last fragment
      have hloop : fragmentLoop (fuByte0 b0) b1 (getNalType [b0, b1]) maxSize naluPayload fuel
          (offset + size) [] = [] := by
        cases fuel with
        | zero => rfl
        | succ fuel => rw [fragmentLoop, if_neg (by omega)]
      rw [decide_eq_true hend, hloop, List.nil_append, List.take_of_length_le hend]
      show (reassemble none rest).map (Fragments.nalu _ :: ·) = _
      rw [Fragments.nalu, restore_byte0]
    · rw [decide_eq_false hend]
      exact ih (offset + size) (by omega) (by omega) (by omega)

/-- The fragments of a unit join to the unit. -/
theorem reassemble_fragments {nalu : Bytes} {mtu : Nat} (hmtu : 3 < mtu) (hlong : mtu < nalu.length)
    (rest : List Bytes) :
    reassemble none (emitFragmented nalu mtu [] ++ rest)
      = (reassemble none rest).map (nalu :: ·) := by
  match nalu, hlong with
  | [], hlong => exact absurd hlong (by simp)
  | [_], hlong => exact absurd hlong (by rw [List.length_singleton]; omega)
  | b0 :: b1 :: naluPayload, hlong =>
    rw [List.length_cons, List.length_cons] at hlong
    have hmax : maxFragmentSize mtu = mtu - 3 := if_pos (by omega)
    have htype : getNalType (b0 :: b1 :: naluPayload) = getNalType [b0, b1] := rfl
    obtain ⟨n, hn⟩ : ∃ n, naluPayload.length = n + 1 := ⟨naluPayload.length - 1, by omega⟩
    have hin : 0 < naluPayload.length := by omega
    have hsize : min (naluPayload.length - 0) (mtu - 3) = mtu - 3 := by omega
    have hopen : ¬ 0 + (mtu - 3) ≥ naluPayload.length := by omega
    have hdata : (naluPayload.drop 0).take (mtu - 3) ≠ [] := take_drop_ne_nil (by omega) hin
    have hnot : ∀ body : Bytes, ¬ (2 ≤ (fuByte0 b0 :: b1 :: body).length ∧
        getNalType (fuByte0 b0 :: b1 :: body) < 48) := by
      rintro body ⟨-, hsmall⟩
      have hfu : getNalType (fuByte0 b0 :: b1 :: body) = 49 := getNalType_fuByte0 b0 b1
      rw [hfu] at hsmall
      exact absurd hsmall (by decide)
    have hloop : fragmentLoop (fuByte0 b0) b1 (getNalType [b0, b1]) (mtu - 3) naluPayload
        naluPayload.length 0 []
        = fragmentLoop (fuByte0 b0) b1 (getNalType [b0, b1]) (mtu - 3) naluPayload n (0 + (mtu - 3))
            [fuByte0 b0 :: b1 :: fuHeader (getNalType [b0, b1]) true false ::
              (naluPayload.drop 0).take (mtu - 3)] := by
      conv_lhs => rw [hn]
      rw [fragmentLoop, if_pos hin, hsize]
      simp only [decide_eq_false hopen]
      rfl
    rw [emitFragmented, hmax, if_neg (by omega), htype, hloop, fragmentLoop_append, List.append_assoc,
      List.singleton_append, reassemble, if_neg (hnot _), start_fragment b0 b1 hdata, Nat.zero_add,
      List.drop_zero]
    exact reassemble_loop b0 b1 naluPayload (by omega) rest n (mtu - 3) (by omega) (by omega)
      (by omega)

/-! ## Sizes -/

/-- A fragment has its three header bytes and at most the maximum of the unit. -/
theorem length_fragmentLoop (byte0 byte1 nalType : UInt8) (maxSize : Nat) (naluPayload : Bytes)
    (fuel offset : Nat) (payloads : List Bytes) (h : ∀ pkt ∈ payloads, pkt.length ≤ maxSize + 3) :
    ∀ pkt ∈ fragmentLoop byte0 byte1 nalType maxSize naluPayload fuel offset payloads,
      pkt.length ≤ maxSize + 3 := by
  induction fuel generalizing offset payloads with
  | zero => exact h
  | succ fuel ih =>
    rw [fragmentLoop]
    split
    · refine ih _ _ fun pkt hpkt => ?_
      rcases List.mem_append.mp hpkt with hpkt | hpkt
      · exact h pkt hpkt
      · rw [List.mem_singleton.mp hpkt]
        simp only [List.length_cons, List.length_take]
        omega
    · exact h

/-- Fragments fit the MTU, if it leaves room for their headers. -/
theorem length_emitFragmented (nalu : Bytes) {mtu : Nat} (hmtu : 3 ≤ mtu) (payloads : List Bytes)
    (h : ∀ pkt ∈ payloads, pkt.length ≤ mtu) :
    ∀ pkt ∈ emitFragmented nalu mtu payloads, pkt.length ≤ mtu := by
  have hmax : maxFragmentSize mtu + 3 = mtu := by
    rw [maxFragmentSize, if_pos hmtu]
    omega
  unfold emitFragmented
  split
  · split
    · exact h
    · rw [← hmax] at h ⊢
      rw [show maxFragmentSize (maxFragmentSize mtu + 3) = maxFragmentSize mtu by rw [hmax]]
      exact length_fragmentLoop _ _ _ _ _ _ _ _ h
  · exact h

/-! ## Exactness -/

/-- A unit the payloader neither keeps back nor drops, as it comes in an access unit. -/
structure VideoUnit (nalu : Bytes) : Prop extends Delimited nalu where
  long : 2 ≤ nalu.length
  single : getNalType nalu < 48
  sent : getNalType nalu ≠ h265NalVps ∧ getNalType nalu ≠ h265NalSps ∧
    getNalType nalu ≠ h265NalPps ∧ getNalType nalu ≠ h265NalAud ∧ getNalType nalu ≠ h265NalFiller

/-- Such a unit is sent as one payload or in fragments. -/
theorem emit_video {nalu : Bytes} (h : VideoUnit nalu) (mtu : Nat) (payloads : List Bytes) :
    emit {} nalu mtu payloads
      = ({}, if nalu.length ≤ mtu then payloads ++ [nalu] else emitFragmented nalu mtu payloads) := by
  obtain ⟨hvps, hsps, hpps, haud, hfiller⟩ := h.sent
  have hlong : ¬ nalu.length < 2 := Nat.not_lt.mpr h.long
  have hkept : ¬ (getNalType nalu = h265NalAud ∨ getNalType nalu = h265NalFiller) := by
    rintro (hdrop | hdrop)
    · exact haud hdrop
    · exact hfiller hdrop
  simp only [emit, if_neg hlong, if_neg hkept, if_neg hvps, if_neg hsps, if_neg hpps]
  show (if nalu.length ≤ mtu then _ else _) = _
  split
  · rfl
  · rfl

/-- The payloads of such units fit the MTU and join to the units behind those already sent;
the induction is on the units. -/
theorem emitAll_video {mtu : Nat} (hmtu : 3 < mtu) (units payloads : List Bytes)
    (hunits : ∀ nalu ∈ units, VideoUnit nalu) :
    ∃ more, emitAll mtu ({}, payloads) units = ({}, payloads ++ more) ∧
      (∀ pkt ∈ more, pkt.length ≤ mtu) ∧ reassemble none more = some units := by
  induction units generalizing payloads with
  | nil => exact ⟨[], by rw [List.append_nil]; rfl, by simp, rfl⟩
  | cons nalu units ih =>
    have hnalu := hunits nalu List.mem_cons_self
    have hrest := fun n hn => hunits n (List.mem_cons_of_mem _ hn)
    rw [emitAll, emit_video hnalu]
    by_cases hfits : nalu.length ≤ mtu
    · obtain ⟨more, hrun, hsize, hjoin⟩ := ih (payloads ++ [nalu]) hrest
      refine ⟨nalu :: more, ?_, ?_, ?_⟩
      · rw [if_pos hfits, hrun, List.append_assoc, List.singleton_append]
      · exact List.forall_mem_cons.mpr ⟨hfits, hsize⟩
      · rw [reassemble_single hnalu.long hnalu.single, hjoin, Option.map_some]
    · obtain ⟨more, hrun, hsize, hjoin⟩ := ih (payloads ++ emitFragmented nalu mtu []) hrest
      refine ⟨emitFragmented nalu mtu [] ++ more, ?_, ?_, ?_⟩
      · rw [if_neg hfits, emitFragmented_append, hrun, List.append_assoc]
      · intro pkt hpkt
        rcases List.mem_append.mp hpkt with hpkt | hpkt
        · exact length_emitFragmented nalu (by omega) [] (by simp) pkt hpkt
        · exact hsize pkt hpkt
      · rw [reassemble_fragments hmtu (by omega), hjoin, Option.map_some]

/-- No parameter set is kept back. -/
def Empty (p : H265Payloader) : Prop :=
  p.vpsNalu = none ∧ p.spsNalu = none ∧ p.ppsNalu = none

/-- **Payload exactness.** With no parameter set kept back, the payloads of an access unit fit
the MTU and reassemble to exactly its units, in order. -/
theorem payload_exact {p : H265Payloader} (hp : p.Empty) {mtu : Nat} (hmtu : 3 < mtu)
    {units : List (Bool × Bytes)} (hunits : ∀ u ∈ units, VideoUnit u.2) :
    (∀ pkt ∈ (p.payload mtu (annexB units)).2, pkt.length ≤ mtu) ∧
      reassemble none (p.payload mtu (annexB units)).2 = some (units.map Prod.snd) := by
  obtain ⟨vps, sps, pps⟩ := p
  obtain ⟨rfl, rfl, rfl⟩ := hp
  by_cases hne : units = []
  · subst hne
    exact ⟨by simp [annexB, payload], rfl⟩
  · have hdelimited : ∀ u ∈ units, Delimited u.2 ∧ u.2 ≠ [] := by
      intro u hu
      refine ⟨(hunits u hu).toDelimited, fun hnil => ?_⟩
      have hlong := (hunits u hu).long
      rw [hnil] at hlong
      exact absurd hlong (by decide)
    have hvideo : ∀ nalu ∈ units.map Prod.snd, VideoUnit nalu := by
      intro nalu hnalu
      obtain ⟨u, hu, rfl⟩ := List.mem_map.mp hnalu
      exact hunits u hu
    obtain ⟨more, hrun, hsize, hjoin⟩ := emitAll_video hmtu _ [] hvideo
    rw [payload_eq _ (by omega), nalUnits_annexB hne hdelimited, hrun, List.nil_append]
    exact ⟨hsize, hjoin⟩

/-- Two units with start codes of both lengths, one of them in three fragments. -/
theorem payload_exact_two :
    reassemble none (payload {} 4 (annexB [(true, [0x26, 1, 7, 8, 9]), (false, [2, 1])])).2
      = some [[0x26, 1, 7, 8, 9], [2, 1]] :=
  (payload_exact ⟨rfl, rfl, rfl⟩ (by decide) (fun u hu => by
    rcases List.mem_cons.mp hu with rfl | hu
    · exact ⟨⟨by decide, by decide⟩, by decide, by decide, by decide⟩
    · rw [List.mem_singleton.mp hu]
      exact ⟨⟨by decide, by decide⟩, by decide, by decide, by decide⟩)).2

end H265Payloader

end StreamBox.Webrtc
