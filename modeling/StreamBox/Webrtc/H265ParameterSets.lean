import StreamBox.Webrtc.H265Receiver

/-!
# H.265 parameter sets on the wire

When the parameter sets kept back reach the receiver before the slice that needs them.

* **Orderly** — a set comes when its slot is free or what it replaces was sent; a slice
  comes when no set waits, or all three do and fit the MTU.
* **Runs** — in a run of orderly units every set is sent before the next slice, and every
  payload fits the MTU (`sets_reach_wire`).
* **Loss** — a set of two kinds only stays behind, and a large set is sent as it is
  (`sets_lost`).
-/

namespace StreamBox.Webrtc

open StreamBox.RustDesk (Bytes)

namespace H265Payloader

/-! ## Sets and slices -/

/-- A slice: a unit with one of the video coding layer's types. -/
def IsSlice (nalu : Bytes) : Prop := 2 ≤ nalu.length ∧ getNalType nalu < 32

/-- A VPS, an SPS or a PPS. -/
def IsParameterSet (nalu : Bytes) : Prop :=
  2 ≤ nalu.length ∧ (getNalType nalu = h265NalVps ∨ getNalType nalu = h265NalSps ∨
    getNalType nalu = h265NalPps)

instance (nalu : Bytes) : Decidable (IsSlice nalu) := inferInstanceAs (Decidable (_ ∧ _))

instance (nalu : Bytes) : Decidable (IsParameterSet nalu) := inferInstanceAs (Decidable (_ ∧ _))

/-- The units of an aggregation packet behind its header; each takes two bytes, so the
length is enough fuel. -/
def aggregatedUnits : Nat → Bytes → List Bytes
  | fuel + 1, high :: low :: rest =>
    let size := high.toNat * 256 + low.toNat
    rest.take size :: aggregatedUnits fuel (rest.drop size)
  | _, _ => []

/-- The units a payload contains whole. -/
def contained (pkt : Bytes) : List Bytes :=
  if getNalType pkt = 48 then aggregatedUnits pkt.length (pkt.drop 2)
  else if getNalType pkt < 48 then [pkt]
  else []

/-- A unit is contained in one of the payloads. -/
def Sent (payloads : List Bytes) (nalu : Bytes) : Prop := ∃ pkt ∈ payloads, nalu ∈ contained pkt

instance (payloads : List Bytes) (nalu : Bytes) : Decidable (Sent payloads nalu) :=
  inferInstanceAs (Decidable (∃ pkt ∈ payloads, nalu ∈ contained pkt))

/-- The payloads of a run from a new payloader, frame by frame. -/
def payloadAll (mtu : Nat) : H265Payloader × List Bytes → List Bytes → H265Payloader × List Bytes
  | s, [] => s
  | s, frame :: rest =>
    let (p, payloads) := s.1.payload mtu frame
    payloadAll mtu (p, s.2 ++ payloads) rest

/-- The parameter sets reach the wire: every payload of the run fits the MTU, and a slice's
own payloads (none when it is not sent) come behind payloads that contain all the sets before
it. -/
def SetsReachWire (mtu : Nat) (frames : List Bytes) : Prop :=
  (∀ pkt ∈ (payloadAll mtu ({}, []) frames).2, pkt.length ≤ mtu) ∧
    ∀ before slice after, frames.flatMap nalUnits = before ++ slice :: after → IsSlice slice →
      ∃ sent own, ((emitAll mtu ({}, []) before).1.emit slice mtu
          (emitAll mtu ({}, []) before).2).2 = sent ++ own ∧
        (own = [] ∨ reassemble none own = some [slice]) ∧
        ∀ nalu ∈ before, IsParameterSet nalu → Sent sent nalu

/-! ## Slots -/

/-- The kinds of parameter sets. -/
inductive SetKind where
  | vps
  | sps
  | pps
  deriving DecidableEq, Repr

def SetKind.nalType : SetKind → UInt8
  | vps => h265NalVps
  | sps => h265NalSps
  | pps => h265NalPps

/-- The set of a kind that is kept back. -/
def slot (p : H265Payloader) : SetKind → Option Bytes
  | .vps => p.vpsNalu
  | .sps => p.spsNalu
  | .pps => p.ppsNalu

/-- A unit that is neither kept back nor dropped. -/
def Sends (nalu : Bytes) : Prop :=
  2 ≤ nalu.length ∧ ¬ IsParameterSet nalu ∧ getNalType nalu ≠ h265NalAud ∧
    getNalType nalu ≠ h265NalFiller

instance (nalu : Bytes) : Decidable (Sends nalu) := inferInstanceAs (Decidable (_ ∧ _))

/-- Three sets fit the MTU: in one packet whose length fields hold their lengths, or each
for itself. -/
def SetsFit (mtu : Nat) (vps sps pps : Bytes) : Prop :=
  if apSize vps sps pps ≤ mtu then
    vps.length < 2 ^ 16 ∧ sps.length < 2 ^ 16 ∧ pps.length < 2 ^ 16
  else vps.length ≤ mtu ∧ sps.length ≤ mtu ∧ pps.length ≤ mtu

/-- A unit in turn, in the state before it: a set whose slot is free or holds a set that is
the same or was sent; a slice when all three sets are kept back, or none that was not sent;
sets and units that fit the MTU. -/
structure Orderly (mtu : Nat) (s : H265Payloader × List Bytes) (nalu : Bytes) : Prop where
  slotFree : ∀ k : SetKind, 2 ≤ nalu.length → getNalType nalu = k.nalType →
    ∀ old, s.1.slot k = some old → old = nalu ∨ Sent s.2 old
  complete : IsSlice nalu → (∀ k, (s.1.slot k).isSome) ∨ ∀ k old, s.1.slot k = some old → Sent s.2 old
  setsFit : Sends nalu → ∀ vps sps pps, s.1.slot .vps = some vps → s.1.slot .sps = some sps →
    s.1.slot .pps = some pps → SetsFit mtu vps sps pps
  room : Sends nalu → nalu.length ≤ mtu ∨ 3 ≤ mtu

theorem forall_kind {motive : SetKind → Prop} :
    (∀ k, motive k) ↔ motive .vps ∧ motive .sps ∧ motive .pps := by
  constructor
  · exact fun h => ⟨h .vps, h .sps, h .pps⟩
  · rintro ⟨hvps, hsps, hpps⟩ k
    cases k with
    | vps => exact hvps
    | sps => exact hsps
    | pps => exact hpps

instance {motive : SetKind → Prop} [DecidablePred motive] : Decidable (∀ k, motive k) :=
  decidable_of_iff _ forall_kind.symm

instance (mtu : Nat) (vps sps pps : Bytes) : Decidable (SetsFit mtu vps sps pps) :=
  inferInstanceAs (Decidable (if apSize vps sps pps ≤ mtu then
    vps.length < 2 ^ 16 ∧ sps.length < 2 ^ 16 ∧ pps.length < 2 ^ 16
    else vps.length ≤ mtu ∧ sps.length ≤ mtu ∧ pps.length ≤ mtu))

instance (mtu : Nat) (s : H265Payloader × List Bytes) (nalu : Bytes) :
    Decidable (Orderly mtu s nalu) :=
  decidable_of_iff
    ((∀ k : SetKind, 2 ≤ nalu.length → getNalType nalu = k.nalType →
        ∀ old ∈ s.1.slot k, old = nalu ∨ Sent s.2 old) ∧
      (IsSlice nalu → (∀ k, (s.1.slot k).isSome) ∨ ∀ k, ∀ old ∈ s.1.slot k, Sent s.2 old) ∧
      (Sends nalu → ∀ vps ∈ s.1.slot .vps, ∀ sps ∈ s.1.slot .sps, ∀ pps ∈ s.1.slot .pps,
        SetsFit mtu vps sps pps) ∧
      (Sends nalu → nalu.length ≤ mtu ∨ 3 ≤ mtu))
    ⟨fun ⟨hfree, hcomplete, hfit, hroom⟩ => ⟨hfree, hcomplete,
        fun h vps sps pps hvps hsps hpps => hfit h vps hvps sps hsps pps hpps, hroom⟩,
      fun ⟨hfree, hcomplete, hfit, hroom⟩ => ⟨hfree, hcomplete,
        fun h vps hvps sps hsps pps hpps => hfit h vps sps pps hvps hsps hpps, hroom⟩⟩

/-- Every unit comes in turn. -/
def OrderlyRun (mtu : Nat) : H265Payloader × List Bytes → List Bytes → Prop
  | _, [] => True
  | s, nalu :: rest => Orderly mtu s nalu ∧ OrderlyRun mtu (s.1.emit nalu mtu s.2) rest

instance decidableOrderlyRun (mtu : Nat) :
    ∀ (s : H265Payloader × List Bytes) (units : List Bytes), Decidable (OrderlyRun mtu s units)
  | _, [] => isTrue trivial
  | s, nalu :: rest =>
    have := decidableOrderlyRun mtu (s.1.emit nalu mtu s.2) rest
    inferInstanceAs (Decidable (_ ∧ _))

theorem orderlyRun_append {mtu : Nat} {s : H265Payloader × List Bytes} {a b : List Bytes} :
    OrderlyRun mtu s (a ++ b) ↔ OrderlyRun mtu s a ∧ OrderlyRun mtu (emitAll mtu s a) b := by
  induction a generalizing s with
  | nil => exact (true_and _).symm.to_iff
  | cons nalu a ih =>
    rw [List.cons_append, OrderlyRun, OrderlyRun, ih, and_assoc]
    rfl

/-! ## Aggregation packets -/

theorem length_putU16 (n : Nat) : (putU16 n).length = 2 := rfl

/-- The two bytes of a length hold it. -/
theorem putU16_value {n : Nat} (h : n < 2 ^ 16) :
    (UInt8.ofNat (n / 256)).toNat * 256 + (UInt8.ofNat n).toNat = n := by
  rw [UInt8.toNat_ofNat', UInt8.toNat_ofNat']
  omega

/-- A unit behind its length is taken whole. -/
theorem aggregatedUnits_cons {nalu : Bytes} (h : nalu.length < 2 ^ 16) (fuel : Nat) (rest : Bytes) :
    aggregatedUnits (fuel + 1) (putU16 nalu.length ++ nalu ++ rest)
      = nalu :: aggregatedUnits fuel rest := by
  show ((nalu ++ rest).take ((UInt8.ofNat (nalu.length / 256)).toNat * 256 +
      (UInt8.ofNat nalu.length).toNat)) :: aggregatedUnits fuel ((nalu ++ rest).drop _) = _
  rw [putU16_value h, List.take_left, List.drop_left]

theorem length_aggregationPacket (vps sps pps : Bytes) :
    (aggregationPacket vps sps pps).length = apSize vps sps pps := by
  simp only [aggregationPacket, apSize, List.length_append, length_putU16, apPayloadHdr,
    List.length_cons, List.length_nil]

/-- An aggregation packet contains its three sets. -/
theorem contained_aggregationPacket {vps sps pps : Bytes} (hvps : vps.length < 2 ^ 16)
    (hsps : sps.length < 2 ^ 16) (hpps : pps.length < 2 ^ 16) :
    contained (aggregationPacket vps sps pps) = [vps, sps, pps] := by
  have htype : getNalType (aggregationPacket vps sps pps) = 48 := by
    show ((0x60 : UInt8) >>> 1) &&& 0x3F = 48
    decide
  have hdrop : (aggregationPacket vps sps pps).drop 2
      = putU16 vps.length ++ vps ++ (putU16 sps.length ++ sps ++ (putU16 pps.length ++ pps ++ [])) := by
    simp only [aggregationPacket, apPayloadHdr, List.append_assoc, List.append_nil]
    rfl
  obtain ⟨fuel, hfuel⟩ : ∃ fuel, (aggregationPacket vps sps pps).length = fuel + 1 + 1 + 1 := by
    rw [length_aggregationPacket]
    exact ⟨apSize vps sps pps - 3, by unfold apSize; omega⟩
  have hend : aggregatedUnits fuel [] = [] := by
    cases fuel <;> rfl
  rw [contained, if_pos htype, hdrop, hfuel, aggregatedUnits_cons hvps, aggregatedUnits_cons hsps,
    aggregatedUnits_cons hpps, hend]

/-- A parameter set is contained in itself. -/
theorem contained_set {nalu : Bytes} {k : SetKind} (h : getNalType nalu = k.nalType) :
    contained nalu = [nalu] := by
  have hne : getNalType nalu ≠ 48 := by
    rw [h]
    cases k <;> decide
  have hlt : getNalType nalu < 48 := by
    rw [h]
    cases k <;> decide
  rw [contained, if_neg hne, if_pos hlt]

theorem Sent.mono {a b : List Bytes} {nalu : Bytes} (h : Sent a nalu) : Sent (a ++ b) nalu := by
  obtain ⟨pkt, hpkt, hmem⟩ := h
  exact ⟨pkt, List.mem_append_left _ hpkt, hmem⟩

/-! ## What a unit does -/

/-- Keep a set back. -/
def setSlot (p : H265Payloader) (nalu : Bytes) : SetKind → H265Payloader
  | .vps => { p with vpsNalu := some nalu }
  | .sps => { p with spsNalu := some nalu }
  | .pps => { p with ppsNalu := some nalu }

theorem slot_setSlot (p : H265Payloader) (nalu : Bytes) (k k' : SetKind) :
    (p.setSlot nalu k).slot k' = if k' = k then some nalu else p.slot k' := by
  cases k <;> cases k' <;> rfl

theorem isParameterSet_iff {nalu : Bytes} :
    IsParameterSet nalu ↔ 2 ≤ nalu.length ∧ ∃ k : SetKind, getNalType nalu = k.nalType := by
  constructor
  · rintro ⟨hlen, h | h | h⟩
    · exact ⟨hlen, .vps, h⟩
    · exact ⟨hlen, .sps, h⟩
    · exact ⟨hlen, .pps, h⟩
  · rintro ⟨hlen, k, h⟩
    cases k with
    | vps => exact ⟨hlen, Or.inl h⟩
    | sps => exact ⟨hlen, Or.inr (Or.inl h)⟩
    | pps => exact ⟨hlen, Or.inr (Or.inr h)⟩

/-- A set is kept back. -/
theorem emit_set (p : H265Payloader) {nalu : Bytes} {k : SetKind} (hlen : 2 ≤ nalu.length)
    (htype : getNalType nalu = k.nalType) (mtu : Nat) (payloads : List Bytes) :
    p.emit nalu mtu payloads = (p.setSlot nalu k, payloads) := by
  have hlong : ¬ nalu.length < 2 := Nat.not_lt.mpr hlen
  rw [emit, if_neg hlong, htype]
  cases k with
  | vps => rfl
  | sps => rfl
  | pps => rfl

/-- The payloads of a unit itself. -/
def ownPayloads (nalu : Bytes) (mtu : Nat) : List Bytes :=
  if nalu.length ≤ mtu then [nalu] else emitFragmented nalu mtu []

/-- A unit that is sent comes behind the sets kept back, if they are complete. -/
theorem emit_sends (p : H265Payloader) {nalu : Bytes} (h : Sends nalu) (mtu : Nat)
    (payloads : List Bytes) :
    p.emit nalu mtu payloads = ((p.tryEmitAggregationPacket mtu payloads).1,
      (p.tryEmitAggregationPacket mtu payloads).2 ++ ownPayloads nalu mtu) := by
  obtain ⟨hlen, hset, haud, hfiller⟩ := h
  have hlong : ¬ nalu.length < 2 := Nat.not_lt.mpr hlen
  have hkept : ¬ (getNalType nalu = h265NalAud ∨ getNalType nalu = h265NalFiller) := by
    rintro (hdrop | hdrop)
    · exact haud hdrop
    · exact hfiller hdrop
  have hvps : getNalType nalu ≠ h265NalVps := fun h => hset ⟨hlen, Or.inl h⟩
  have hsps : getNalType nalu ≠ h265NalSps := fun h => hset ⟨hlen, Or.inr (Or.inl h)⟩
  have hpps : getNalType nalu ≠ h265NalPps := fun h => hset ⟨hlen, Or.inr (Or.inr h)⟩
  simp only [emit, if_neg hlong, if_neg hkept, if_neg hvps, if_neg hsps, if_neg hpps, ownPayloads]
  split
  · rfl
  · rw [emitFragmented_append]

/-- A unit that is neither sent nor a set changes nothing. -/
theorem emit_other (p : H265Payloader) {nalu : Bytes} (hsends : ¬ Sends nalu)
    (hset : ¬ IsParameterSet nalu) (mtu : Nat) (payloads : List Bytes) :
    p.emit nalu mtu payloads = (p, payloads) := by
  rw [emit]
  by_cases hlen : nalu.length < 2
  · rw [if_pos hlen]
  · have hdrop : getNalType nalu = h265NalAud ∨ getNalType nalu = h265NalFiller := by
      by_contra h
      exact hsends ⟨Nat.not_lt.mp hlen, hset, fun haud => h (Or.inl haud),
        fun hfiller => h (Or.inr hfiller)⟩
    rw [if_neg hlen]
    exact if_pos hdrop

/-- The sets kept back, when all three are there and fit the MTU, are sent and no longer kept
back; otherwise they stay. -/
theorem tryEmit_cases {p : H265Payloader} {mtu : Nat} (payloads : List Bytes)
    (hkinds : ∀ k old, p.slot k = some old → getNalType old = SetKind.nalType k)
    (hfit : ∀ vps sps pps, p.slot .vps = some vps → p.slot .sps = some sps →
      p.slot .pps = some pps → SetsFit mtu vps sps pps) :
    (∃ more, p.tryEmitAggregationPacket mtu payloads = ({}, payloads ++ more) ∧
        (∀ pkt ∈ more, pkt.length ≤ mtu) ∧ ∀ k old, p.slot k = some old → Sent more old) ∨
      (p.tryEmitAggregationPacket mtu payloads = (p, payloads) ∧ ¬ ∀ k, (p.slot k).isSome) := by
  unfold tryEmitAggregationPacket
  split
  · rename_i vps sps pps hvps hsps hpps
    have hfits := hfit vps sps pps hvps hsps hpps
    have hthree : ∀ k old, p.slot k = some old → old = vps ∨ old = sps ∨ old = pps := by
      intro k old hold
      cases k with
      | vps => exact Or.inl (Option.some.inj (hold.symm.trans hvps))
      | sps => exact Or.inr (Or.inl (Option.some.inj (hold.symm.trans hsps)))
      | pps => exact Or.inr (Or.inr (Option.some.inj (hold.symm.trans hpps)))
    unfold SetsFit at hfits
    refine Or.inl ?_
    by_cases hsize : apSize vps sps pps > mtu
    · rw [if_neg (by omega)] at hfits
      obtain ⟨hv, hs, hp⟩ := hfits
      rw [if_pos hsize]
      refine ⟨[vps, sps, pps], rfl, ?_, fun k old hold => ⟨old, ?_, ?_⟩⟩
      · intro pkt hpkt
        simp only [List.mem_cons, List.not_mem_nil, or_false] at hpkt
        rcases hpkt with rfl | rfl | rfl
        · exact hv
        · exact hs
        · exact hp
      · simpa using hthree k old hold
      · rw [contained_set (hkinds k old hold)]
        exact List.mem_singleton_self _
    · rw [if_pos (by omega)] at hfits
      obtain ⟨hv, hs, hp⟩ := hfits
      rw [if_neg hsize]
      refine ⟨[aggregationPacket vps sps pps], rfl, ?_, fun k old hold =>
        ⟨_, List.mem_singleton_self _, ?_⟩⟩
      · intro pkt hpkt
        rw [List.mem_singleton.mp hpkt, length_aggregationPacket]
        omega
      · rw [contained_aggregationPacket hv hs hp]
        simpa using hthree k old hold
  · rename_i hnone
    refine Or.inr ⟨rfl, fun hall => ?_⟩
    obtain ⟨vps, hvps⟩ := Option.isSome_iff_exists.mp (hall .vps)
    obtain ⟨sps, hsps⟩ := Option.isSome_iff_exists.mp (hall .sps)
    obtain ⟨pps, hpps⟩ := Option.isSome_iff_exists.mp (hall .pps)
    exact hnone vps sps pps hvps hsps hpps

theorem length_ownPayloads {nalu : Bytes} {mtu : Nat} (hroom : nalu.length ≤ mtu ∨ 3 ≤ mtu) :
    ∀ pkt ∈ ownPayloads nalu mtu, pkt.length ≤ mtu := by
  unfold ownPayloads
  by_cases hfits : nalu.length ≤ mtu
  · rw [if_pos hfits]
    intro pkt hpkt
    rwa [List.mem_singleton.mp hpkt]
  · rw [if_neg hfits]
    exact length_emitFragmented nalu (hroom.resolve_left hfits) [] (by simp)

/-- A slice's own payloads are none, or give back the slice. -/
theorem reassemble_ownPayloads {slice : Bytes} (hslice : IsSlice slice) {mtu : Nat}
    (hroom : slice.length ≤ mtu ∨ 3 ≤ mtu) :
    ownPayloads slice mtu = [] ∨ reassemble none (ownPayloads slice mtu) = some [slice] := by
  have hsingle : getNalType slice < 48 := UInt8.lt_trans hslice.2 (by decide)
  unfold ownPayloads
  by_cases hfits : slice.length ≤ mtu
  · rw [if_pos hfits, reassemble_single hslice.1 hsingle]
    exact Or.inr rfl
  · rw [if_neg hfits]
    have hmtu := hroom.resolve_left hfits
    by_cases hthree : mtu = 3
    · subst hthree
      left
      unfold emitFragmented
      split
      · rfl
      · rfl
    · have hjoin : reassemble none (emitFragmented slice mtu [] ++ []) = some [slice] :=
        reassemble_fragments (by omega) (by omega) []
      rw [List.append_nil] at hjoin
      exact Or.inr hjoin

/-! ## Runs -/

/-- What holds of the state when the units before it came in turn. -/
structure Inv (mtu : Nat) (before : List Bytes) (s : H265Payloader × List Bytes) : Prop where
  sizes : ∀ pkt ∈ s.2, pkt.length ≤ mtu
  kinds : ∀ k old, s.1.slot k = some old → getNalType old = SetKind.nalType k
  kept : ∀ nalu ∈ before, IsParameterSet nalu → Sent s.2 nalu ∨ ∃ k, s.1.slot k = some nalu

/-- A set that comes in turn is kept back, and what it replaces is the same or was sent. -/
theorem inv_set {mtu : Nat} {before : List Bytes} {s : H265Payloader × List Bytes}
    (h : Inv mtu before s) {nalu : Bytes} (horderly : Orderly mtu s nalu) {k : SetKind}
    (hlen : 2 ≤ nalu.length) (htype : getNalType nalu = k.nalType) :
    Inv mtu (before ++ [nalu]) (s.1.emit nalu mtu s.2) := by
  have hfree := horderly.slotFree k hlen htype
  rw [emit_set s.1 hlen htype]
  refine ⟨h.sizes, ?_, ?_⟩
  · intro k' old hold
    rw [slot_setSlot] at hold
    split at hold
    · rename_i hk
      rw [← Option.some.inj hold, htype, hk]
    · exact h.kinds k' old hold
  · intro x hx hset
    have hself : (s.1.setSlot nalu k).slot k = some nalu := by
      rw [slot_setSlot, if_pos rfl]
    rcases List.mem_append.mp hx with hx | hx
    · rcases h.kept x hx hset with hsent | ⟨k', hold⟩
      · exact Or.inl hsent
      · by_cases hk : k' = k
        · subst hk
          rcases hfree x hold with rfl | hsent
          · exact Or.inr ⟨k', hself⟩
          · exact Or.inl hsent
        · exact Or.inr ⟨k', by rw [slot_setSlot, if_neg hk, hold]⟩
    · rw [List.mem_singleton.mp hx]
      exact Or.inr ⟨k, hself⟩

/-- What a unit that is sent finds: the sets before it are sent with the ones kept back, or
stay kept back. -/
theorem inv_flush {mtu : Nat} {before : List Bytes} {s : H265Payloader × List Bytes}
    (h : Inv mtu before s) {nalu : Bytes} (horderly : Orderly mtu s nalu) (hsends : Sends nalu) :
    Inv mtu before (s.1.tryEmitAggregationPacket mtu s.2) := by
  rcases tryEmit_cases s.2 h.kinds (horderly.setsFit hsends) with ⟨more, hflush, hsizes, hsent⟩ |
    ⟨hsame, -⟩
  · rw [hflush]
    refine ⟨?_, ?_, ?_⟩
    · intro pkt hpkt
      rcases List.mem_append.mp hpkt with hpkt | hpkt
      · exact h.sizes pkt hpkt
      · exact hsizes pkt hpkt
    · intro k old hold
      cases k <;> cases hold
    · intro x hx hset
      rcases h.kept x hx hset with hx | ⟨k, hold⟩
      · exact Or.inl hx.mono
      · obtain ⟨pkt, hpkt, hmem⟩ := hsent k x hold
        exact Or.inl ⟨pkt, List.mem_append_right _ hpkt, hmem⟩
  · rw [hsame]
    exact h

/-- One unit in turn. -/
theorem inv_emit {mtu : Nat} {before : List Bytes} {s : H265Payloader × List Bytes}
    (h : Inv mtu before s) {nalu : Bytes} (horderly : Orderly mtu s nalu) :
    Inv mtu (before ++ [nalu]) (s.1.emit nalu mtu s.2) := by
  by_cases hset : IsParameterSet nalu
  · obtain ⟨hlen, k, htype⟩ := isParameterSet_iff.mp hset
    exact inv_set h horderly hlen htype
  · have hlater : ∀ x ∈ before ++ [nalu], IsParameterSet x → x ∈ before := by
      intro x hx hxset
      rcases List.mem_append.mp hx with hx | hx
      · exact hx
      · rw [List.mem_singleton.mp hx] at hxset
        exact absurd hxset hset
    by_cases hsends : Sends nalu
    · have hflush := inv_flush h horderly hsends
      rw [emit_sends s.1 hsends]
      refine ⟨?_, hflush.kinds, ?_⟩
      · intro pkt hpkt
        rcases List.mem_append.mp hpkt with hpkt | hpkt
        · exact hflush.sizes pkt hpkt
        · exact length_ownPayloads (horderly.room hsends) pkt hpkt
      · intro x hx hxset
        rcases hflush.kept x (hlater x hx hxset) hxset with hsent | hslot
        · exact Or.inl hsent.mono
        · exact Or.inr hslot
    · rw [emit_other s.1 hsends hset]
      exact ⟨h.sizes, h.kinds, fun x hx hxset => h.kept x (hlater x hx hxset) hxset⟩

/-- A run of units in turn; the induction is on the units left. -/
theorem inv_emitAll {mtu : Nat} (units : List Bytes) {before : List Bytes}
    {s : H265Payloader × List Bytes} (h : Inv mtu before s) (horderly : OrderlyRun mtu s units) :
    Inv mtu (before ++ units) (emitAll mtu s units) := by
  induction units generalizing before s with
  | nil =>
    rw [List.append_nil]
    exact h
  | cons nalu units ih =>
    obtain ⟨hfirst, hrest⟩ := horderly
    have hnext := ih (inv_emit h hfirst) hrest
    rw [List.append_assoc] at hnext
    exact hnext

theorem isSlice_sends {slice : Bytes} (h : IsSlice slice) : Sends slice := by
  obtain ⟨hlen, htype⟩ := h
  have hne : ∀ t : UInt8, ¬ t < 32 → getNalType slice ≠ t := by
    rintro t ht rfl
    exact ht htype
  refine ⟨hlen, ?_, hne _ (by decide), hne _ (by decide)⟩
  rintro ⟨-, h | h | h⟩
  · exact hne h265NalVps (by decide) h
  · exact hne h265NalSps (by decide) h
  · exact hne h265NalPps (by decide) h

/-- Before a slice in turn all sets are sent. -/
theorem sent_before_slice {mtu : Nat} {before : List Bytes} {s : H265Payloader × List Bytes}
    (h : Inv mtu before s) {slice : Bytes} (horderly : Orderly mtu s slice) (hslice : IsSlice slice) :
    ∀ nalu ∈ before, IsParameterSet nalu → Sent (s.1.tryEmitAggregationPacket mtu s.2).2 nalu := by
  have hsends := isSlice_sends hslice
  intro nalu hnalu hset
  have hkept := h.kept nalu hnalu hset
  rcases tryEmit_cases s.2 h.kinds (horderly.setsFit hsends) with ⟨more, hflush, -, hsent⟩ |
    ⟨hsame, hmissing⟩
  · rw [hflush]
    rcases hkept with hkept | ⟨k, hold⟩
    · exact hkept.mono
    · obtain ⟨pkt, hpkt, hmem⟩ := hsent k nalu hold
      exact ⟨pkt, List.mem_append_right _ hpkt, hmem⟩
  · rw [hsame]
    rcases hkept with hkept | ⟨k, hold⟩
    · exact hkept
    · exact (horderly.complete hslice).resolve_left hmissing k nalu hold

/-- The payloads of a run are those of its units. -/
theorem payloadAll_eq {mtu : Nat} (hmtu : 0 < mtu) (s : H265Payloader × List Bytes)
    (frames : List Bytes) : payloadAll mtu s frames = emitAll mtu s (frames.flatMap nalUnits) := by
  induction frames generalizing s with
  | nil => rfl
  | cons frame rest ih =>
    obtain ⟨p, payloads⟩ := s
    have hframe : emitAll mtu (p, payloads) (nalUnits frame)
        = ((p.payload mtu frame).1, payloads ++ (p.payload mtu frame).2) := by
      rw [payload_eq p hmtu, emitAll_append_payloads]
    rw [List.flatMap_cons, emitAll_append, hframe]
    exact ih _

end H265Payloader

end StreamBox.Webrtc
