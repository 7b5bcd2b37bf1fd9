import Mathlib.Data.List.GetD
import StreamBox.Audio.Resample

/-!
# The resampling buffer over a stream

`buffered` is the buffer after `n` blocks over a stream, and one lemma says what a push and what a
pop make of it. The prefix that a pop drops is cut short by the samples there are, the position of
the buffer is not: where that happens, the samples pushed next are taken for later ones.
-/

namespace StreamBox.Audio

namespace Opus48kPcmBuffer

/-! ## Positions -/

/-- The input frame that the output frame `k` begins in. -/
def position (rate k : Nat) : Nat := k * rate / outRate

/-- The input frame that the buffer begins with after `n` blocks. -/
def kept (rate n : Nat) : Nat := position rate (960 * n) - 1

/-- The blocks that so many input frames give. -/
def blocksReady (rate frames : Nat) : Nat :=
  ((frames - 1) * outRate + rate - 1) / rate / 960

theorem position_le {rate k l : Nat} (h : k ≤ l) : position rate k ≤ position rate l :=
  Nat.div_le_div_right (Nat.mul_le_mul_right _ h)

theorem kept_le_position {rate n k : Nat} (h : 960 * n ≤ k) : kept rate n ≤ position rate k :=
  Nat.le_trans (Nat.sub_le _ _) (position_le h)

theorem kept_le {rate n m : Nat} (h : n ≤ m) : kept rate n ≤ kept rate m :=
  Nat.sub_le_sub_right (position_le (Nat.mul_le_mul_left _ h)) _

theorem lt_blocksReady {rate frames n : Nat} (hrate : 0 < rate) :
    n < blocksReady rate frames ↔ position rate (960 * n + 959) + 1 < frames := by
  have hle : n < blocksReady rate frames ↔
      (960 * n + 960) * rate ≤ (frames - 1) * outRate + rate - 1 := by
    rw [blocksReady, ← Nat.add_one_le_iff, Nat.le_div_iff_mul_le (by decide),
      Nat.le_div_iff_mul_le hrate]
    rw [show (n + 1) * 960 = 960 * n + 960 by omega]
  have hsplit : (960 * n + 960) * rate = (960 * n + 959) * rate + rate := by
    rw [← Nat.succ_mul]
  have hlt : position rate (960 * n + 959) < frames - 1 ↔
      (960 * n + 959) * rate < (frames - 1) * outRate := by
    rw [position, Nat.div_lt_iff_lt_mul (by decide)]
  rw [hle, hsplit]
  omega

theorem blocksReady_le {rate frames n : Nat} (hrate : 0 < rate) :
    blocksReady rate frames ≤ n ↔ frames ≤ position rate (960 * n + 959) + 1 := by
  have h := @lt_blocksReady rate frames n hrate
  omega

theorem blocksReady_mono {rate frames more : Nat} (h : frames ≤ more) :
    blocksReady rate frames ≤ blocksReady rate more := by
  have hmul : (frames - 1) * outRate ≤ (more - 1) * outRate :=
    Nat.mul_le_mul_right _ (Nat.sub_le_sub_right h 1)
  apply Nat.div_le_div_right
  apply Nat.div_le_div_right
  omega

/-- Where no input frame is passed over, the frames that are kept have arrived. -/
theorem kept_le_frames {rate frames : Nat} (hrate : 0 < rate) (hlow : rate ≤ 144000) :
    kept rate (blocksReady rate frames) ≤ frames := by
  have hblocks : blocksReady rate frames * 960 * rate ≤ (frames - 1) * outRate + rate - 1 := by
    have houter := Nat.div_mul_le_self (((frames - 1) * outRate + rate - 1) / rate) 960
    exact Nat.le_trans (Nat.mul_le_mul_right _ houter) (Nat.div_mul_le_self _ _)
  have hbound : position rate (960 * blocksReady rate frames) ≤ frames - 1 + 2 := by
    rw [position, Nat.mul_comm 960]
    rw [Nat.div_le_iff_le_mul_add_pred (by decide)]
    simp only [outRate] at hblocks ⊢
    omega
  have hnone : frames = 0 → blocksReady rate frames = 0 := by
    intro h
    subst h
    apply Nat.eq_zero_of_le_zero
    exact (blocksReady_le hrate).2 (Nat.zero_le _)
  rw [kept]
  by_cases h : frames = 0
  · rw [hnone h]
    simp [position]
  · omega

/-! ## The stream -/

/-- The left sample of the output frame `k` of a stream. -/
def left (rate ch : Nat) (stream : List Int16) (k : Nat) : Int16 :=
  interpolate (k * rate % outRate) (stream.getD (position rate k * ch) 0)
    (stream.getD ((position rate k + 1) * ch) 0)

def right (rate ch : Nat) (stream : List Int16) (k : Nat) : Int16 :=
  if 2 ≤ ch then
    interpolate (k * rate % outRate) (stream.getD (position rate k * ch + 1) 0)
      (stream.getD ((position rate k + 1) * ch + 1) 0)
  else left rate ch stream k

/-- So many output frames of a stream from `k` on. -/
def framesFrom (rate ch : Nat) (stream : List Int16) (k n : Nat) : List Int16 :=
  (List.range' k n).flatMap fun k => [left rate ch stream k, right rate ch stream k]

/-- The buffer over a stream after `n` blocks. -/
def buffered (rate ch : Nat) (stream : List Int16) (n : Nat) : Opus48kPcmBuffer :=
  { state := .resample rate ch (960 * n) (kept rate n)
    pending := stream.drop (kept rate n * ch) }

/-- A stream with as many samples as the position of the buffer says there were. -/
def filled (rate ch : Nat) (stream : List Int16) (n : Nat) : List Int16 :=
  stream ++ List.replicate (kept rate n * ch - stream.length) 0

variable {rate ch : Nat} {stream data : List Int16} {k n m : Nat}

theorem framesFrom_succ :
    framesFrom rate ch stream k (n + 1) =
      [left rate ch stream k, right rate ch stream k] ++ framesFrom rate ch stream (k + 1) n := by
  simp [framesFrom, List.range'_succ]

theorem framesFrom_add :
    framesFrom rate ch stream k n ++ framesFrom rate ch stream (k + n) m =
      framesFrom rate ch stream k (n + m) := by
  simp only [framesFrom, ← List.flatMap_append]
  rw [← List.range'_append_1]

theorem framesFrom_length : (framesFrom rate ch stream k n).length = 2 * n := by
  induction n generalizing k with
  | zero => simp [framesFrom]
  | succ n ih =>
    rw [framesFrom_succ, List.length_append, ih]
    simp only [List.length_cons, List.length_nil]
    omega

theorem framesFrom_getElem? (hlt : m < n) :
    (framesFrom rate ch stream k n)[2 * m]? = some (left rate ch stream (k + m)) := by
  obtain ⟨rest, rfl⟩ : ∃ rest, n = m + (rest + 1) := ⟨n - m - 1, by omega⟩
  rw [← framesFrom_add, List.getElem?_append_right (Nat.le_of_eq framesFrom_length), framesFrom_length,
    Nat.sub_self, framesFrom_succ]
  rfl

theorem left_append (hin : (position rate k + 2) * ch ≤ stream.length) (hch : 0 < ch) :
    left rate ch (stream ++ data) k = left rate ch stream k := by
  have hnext : (position rate k + 2) * ch = (position rate k + 1) * ch + ch := Nat.succ_mul _ _
  have hthis : (position rate k + 1) * ch = position rate k * ch + ch := Nat.succ_mul _ _
  rw [left, left, List.getD_append _ _ _ _ (by omega), List.getD_append _ _ _ _ (by omega)]

theorem right_append (hin : (position rate k + 2) * ch ≤ stream.length) (hch : 0 < ch) :
    right rate ch (stream ++ data) k = right rate ch stream k := by
  have hnext : (position rate k + 2) * ch = (position rate k + 1) * ch + ch := Nat.succ_mul _ _
  have hthis : (position rate k + 1) * ch = position rate k * ch + ch := Nat.succ_mul _ _
  rw [right, right, left_append hin hch]
  by_cases h : 2 ≤ ch
  · rw [if_pos h, if_pos h, List.getD_append _ _ _ _ (by omega),
      List.getD_append _ _ _ _ (by omega)]
  · rw [if_neg h, if_neg h]

/-- A frame counted in a stream lies in it as a whole. -/
theorem frame_in_stream {frame : Nat} (h : frame + 1 < stream.length / ch) :
    (frame + 2) * ch ≤ stream.length :=
  Nat.le_trans (Nat.mul_le_mul_right _ h) (Nat.div_mul_le_self _ _)

theorem framesFrom_append (hch : 0 < ch)
    (hin : ∀ l < k + n, position rate l + 1 < stream.length / ch) :
    framesFrom rate ch (stream ++ data) k n = framesFrom rate ch stream k n := by
  induction n generalizing k with
  | zero => simp only [framesFrom, List.range'_zero, List.flatMap_nil]
  | succ n ih =>
    have hfirst := frame_in_stream (hin k (by omega))
    rw [framesFrom_succ, framesFrom_succ, left_append hfirst hch, right_append hfirst hch]
    rw [ih (fun l hl => hin l (by omega))]

/-! ## One block -/

theorem sampleAt_eq {pending : List Int16} {i : Nat} (h : i < pending.length) :
    sampleAt pending i = .ok (pending.getD i 0) := by
  rw [sampleAt, List.getElem?_eq_getElem h, List.getD_eq_getElem _ _ h]

theorem getD_drop (i d : Nat) : (stream.drop d).getD i 0 = stream.getD (d + i) 0 := by
  simp only [List.getD_eq_getElem?_getD, List.getElem?_drop]

/-- An output frame of the buffer is that of the stream; there is one if the stream goes on. -/
theorem outputFrame_eq (hch : 0 < ch) (hk : kept rate n ≤ position rate k) :
    outputFrame rate ch (kept rate n) (stream.drop (kept rate n * ch)) k =
      .ok (if position rate k + 1 < stream.length / ch
        then some (left rate ch stream k, right rate ch stream k) else none) := by
  have hframes : (stream.drop (kept rate n * ch)).length / ch =
      stream.length / ch - kept rate n := by
    rw [List.length_drop, Nat.mul_comm, Nat.sub_mul_div]
  by_cases hin : position rate k + 1 < stream.length / ch
  · obtain ⟨ahead, hahead⟩ := Nat.exists_eq_add_of_le hk
    have hend := frame_in_stream hin
    have hpos : position rate k * ch = kept rate n * ch + ahead * ch := by
      rw [hahead, Nat.add_mul]
    have hnext : (position rate k + 2) * ch = (position rate k + 1) * ch + ch := Nat.succ_mul _ _
    have hthis : (position rate k + 1) * ch = position rate k * ch + ch := Nat.succ_mul _ _
    have hrel : (ahead + 1) * ch = ahead * ch + ch := Nat.succ_mul _ _
    have hlength : (stream.drop (kept rate n * ch)).length = stream.length - kept rate n * ch :=
      List.length_drop
    have hsample : ∀ i, i < (ahead + 2) * ch →
        sampleAt (stream.drop (kept rate n * ch)) i =
          .ok (stream.getD (kept rate n * ch + i) 0) := by
      intro i hi
      have hlast : (ahead + 2) * ch = ahead * ch + ch + ch := by
        rw [Nat.succ_mul, hrel]
      rw [sampleAt_eq (by omega), getD_drop]
    have hlast : (ahead + 2) * ch = ahead * ch + ch + ch := by
      rw [Nat.succ_mul, hrel]
    rw [if_pos hin]
    rw [outputFrame]
    simp only [show k * rate / outRate = position rate k from rfl, hframes, hahead,
      Nat.add_sub_cancel_left]
    rw [if_neg (by omega)]
    by_cases hstereo : 2 ≤ ch
    · rw [if_pos hstereo, hsample _ (by omega), hsample _ (by omega), hsample _ (by omega),
        hsample _ (by omega), right, if_pos hstereo, left, hthis, hpos, hrel]
      simp only [Nat.add_assoc]
      rfl
    · rw [if_neg hstereo, hsample _ (by omega), hsample _ (by omega), right, if_neg hstereo, left,
        hthis, hpos, hrel]
      simp only [Nat.add_assoc]
      rfl
  · rw [if_neg hin, outputFrame]
    simp only [show k * rate / outRate = position rate k from rfl, hframes]
    rw [if_pos (by omega)]

theorem blockLoop_full (hch : 0 < ch) (hk : kept rate n ≤ position rate k) {block : List Int16}
    (hin : ∀ l < k + m, position rate l + 1 < stream.length / ch) :
    blockLoop rate ch (kept rate n) (stream.drop (kept rate n * ch)) m k block =
      .ok (some (block ++ framesFrom rate ch stream k m)) := by
  induction m generalizing k block with
  | zero => simp [blockLoop, framesFrom]
  | succ m ih =>
    rw [blockLoop, outputFrame_eq hch hk, if_pos (hin k (by omega))]
    show blockLoop rate ch _ _ m (k + 1) _ = _
    rw [ih (Nat.le_trans hk (position_le (Nat.le_succ k))) (fun l hl => hin l (by omega)),
      framesFrom_succ, List.append_assoc]

theorem blockLoop_short (hch : 0 < ch) (hk : kept rate n ≤ position rate k) {block : List Int16}
    {i : Nat} (hi : i < m) (hend : stream.length / ch ≤ position rate (k + i) + 1) :
    blockLoop rate ch (kept rate n) (stream.drop (kept rate n * ch)) m k block = .ok none := by
  induction m generalizing k block i with
  | zero => exact absurd hi (Nat.not_lt_zero i)
  | succ m ih =>
    rw [blockLoop, outputFrame_eq hch hk]
    by_cases hin : position rate k + 1 < stream.length / ch
    · rw [if_pos hin]
      show blockLoop rate ch _ _ m (k + 1) _ = _
      have hlater : 0 < i := by
        apply Nat.pos_of_ne_zero
        intro h
        subst h
        simp only [Nat.add_zero] at hend
        omega
      apply ih (i := i - 1) (Nat.le_trans hk (position_le (Nat.le_succ k))) (by omega)
      rw [show k + 1 + (i - 1) = k + i by omega]
      exact hend
    · rw [if_neg hin]
      rfl

/-- After a block, the buffer is that over the same stream after one block more. -/
theorem trim_eq (hin : kept rate n < stream.length / ch) (hch : 0 < ch) :
    trimResamplePrefix (stream.drop (kept rate n * ch)) rate (960 * n + 960) (kept rate n) ch =
      (stream.drop (kept rate (n + 1) * ch), kept rate (n + 1)) := by
  have hlength : kept rate n * ch < stream.length := by
    have hframe : (kept rate n + 1) * ch ≤ stream.length :=
      Nat.le_trans (Nat.mul_le_mul_right _ hin) (Nat.div_mul_le_self _ _)
    rw [Nat.succ_mul] at hframe
    omega
  have hne : stream.drop (kept rate n * ch) ≠ [] := by
    intro h
    have := congrArg List.length h
    rw [List.length_drop, List.length_nil] at this
    omega
  have hnext : (960 * n + 960) * rate / outRate - 1 = kept rate (n + 1) := rfl
  have hmono : kept rate n ≤ kept rate (n + 1) := kept_le (Nat.le_succ n)
  rw [trimResamplePrefix]
  simp only [hnext]
  by_cases hsame : kept rate (n + 1) ≤ kept rate n
  · rw [if_pos (Or.inr hsame), Nat.le_antisymm hsame hmono]
  · obtain ⟨ahead, hahead⟩ := Nat.exists_eq_add_of_le hmono
    have hsome : 0 < ahead * ch := Nat.mul_pos (by omega) hch
    rw [if_neg (by simp only [hne, hsame, or_self, not_false_eq_true])]
    simp only [hahead, Nat.add_sub_cancel_left, List.length_drop]
    rw [if_pos (by omega), List.drop_drop]
    congr 1
    rw [Nat.add_mul]
    by_cases hshort : ahead * ch ≤ stream.length - kept rate n * ch
    · rw [Nat.min_eq_left hshort]
    · rw [Nat.min_eq_right (by omega), List.drop_eq_nil_of_le (by omega),
        List.drop_eq_nil_of_le (by omega)]

/-! ## Pops and pushes -/

/-- A run of the loop makes the blocks that the stream has and the output has not. -/
theorem resampleLoop_eq (hrate : 0 < rate) (hch : 0 < ch) {fuel : Nat} {out : List Int16}
    (hfuel : blocksReady rate (stream.length / ch) < n + fuel) :
    resampleLoop rate ch fuel
        ⟨960 * n, kept rate n, stream.drop (kept rate n * ch), out⟩ =
      .ok ⟨960 * max n (blocksReady rate (stream.length / ch)),
        kept rate (max n (blocksReady rate (stream.length / ch))),
        stream.drop (kept rate (max n (blocksReady rate (stream.length / ch))) * ch),
        out ++ framesFrom rate ch stream (960 * n)
          (960 * (blocksReady rate (stream.length / ch) - n))⟩ := by
  induction fuel generalizing n out with
  | zero =>
    rw [Nat.max_eq_left (by omega), Nat.sub_eq_zero_of_le (by omega)]
    simp [resampleLoop, framesFrom]
  | succ fuel ih =>
    have hk : kept rate n ≤ position rate (960 * n) := kept_le_position (Nat.le_refl _)
    by_cases hready : n < blocksReady rate (stream.length / ch)
    · have hlast := (lt_blocksReady hrate).1 hready
      have hin : ∀ l < 960 * n + 960, position rate l + 1 < stream.length / ch := by
        intro l hl
        have := @position_le rate l (960 * n + 959) (by omega)
        omega
      have hkept : kept rate n < stream.length / ch := by
        have := hin (960 * n) (by omega)
        omega
      rw [resampleLoop, blockLoop_full hch hk hin, List.nil_append]
      show resampleLoop rate ch fuel
        ⟨960 * n + 960, (trimResamplePrefix _ rate (960 * n + 960) _ ch).2,
          (trimResamplePrefix _ rate (960 * n + 960) _ ch).1, _⟩ = _
      rw [trim_eq hkept hch]
      show resampleLoop rate ch fuel ⟨960 * (n + 1), _, _, _⟩ = _
      rw [ih (by omega), Nat.max_eq_right hready, Nat.max_eq_right (Nat.le_of_lt hready),
        List.append_assoc]
      rw [show 960 * (n + 1) = 960 * n + 960 by omega, framesFrom_add]
      rw [show 960 + 960 * (blocksReady rate (stream.length / ch) - (n + 1)) =
        960 * (blocksReady rate (stream.length / ch) - n) by omega]
    · have hend := (blocksReady_le hrate).1 (Nat.le_of_not_lt hready)
      rw [resampleLoop, blockLoop_short hch hk (i := 959) (by decide) hend,
        Nat.max_eq_left (by omega), Nat.sub_eq_zero_of_le (by omega)]
      simp [Except.bind, framesFrom]

/-- No input frame is behind `outRate` output frames. -/
theorem blocksReady_le_frames {frames : Nat} (hrate : 0 < rate) :
    blocksReady rate frames ≤ frames * outRate := by
  have hinner : ((frames - 1) * outRate + rate - 1) / rate ≤ frames * outRate := by
    rw [Nat.div_le_iff_le_mul_add_pred hrate]
    have hmono : (frames - 1) * outRate ≤ frames * outRate :=
      Nat.mul_le_mul_right _ (Nat.sub_le _ _)
    have hscale : frames * outRate ≤ rate * (frames * outRate) :=
      Nat.le_mul_of_pos_left _ hrate
    omega
  exact Nat.le_trans (Nat.div_le_self _ _) hinner

/-- **A pop makes every block that the stream has.** -/
theorem pop_eq (hrate : 0 < rate) (hch : 0 < ch) {out : List Int16} :
    (buffered rate ch stream n).popOpusFrames out =
      .ok (buffered rate ch stream (max n (blocksReady rate (stream.length / ch))),
        out ++ framesFrom rate ch stream (960 * n)
          (960 * (blocksReady rate (stream.length / ch) - n))) := by
  have hfuel : blocksReady rate (stream.length / ch) <
      n + ((kept rate n + (stream.drop (kept rate n * ch)).length) * outRate + 1) := by
    have hready := @blocksReady_le_frames rate (stream.length / ch) hrate
    have hframes : stream.length / ch ≤
        kept rate n + (stream.drop (kept rate n * ch)).length := by
      rw [List.length_drop]
      have hle : (stream.length - kept rate n * ch) / ch ≤ stream.length - kept rate n * ch :=
        Nat.div_le_self _ _
      rw [Nat.mul_comm, Nat.sub_mul_div] at hle
      rw [Nat.mul_comm]
      omega
    have := Nat.mul_le_mul_right outRate hframes
    omega
  show Except.map _ (resampleLoop rate ch _
    ⟨960 * n, kept rate n, stream.drop (kept rate n * ch), out⟩) = _
  rw [show (buffered rate ch stream n).pending = stream.drop (kept rate n * ch) from rfl,
    resampleLoop_eq hrate hch hfuel]
  rfl

/-- **A push adds to the stream, filled up to where the buffer believes to be.** -/
theorem push_eq :
    (buffered rate ch stream n).pushInterleaved data =
      buffered rate ch (filled rate ch stream n ++ data) n := by
  simp only [pushInterleaved, buffered, filled, Opus48kPcmBuffer.mk.injEq, true_and]
  by_cases hall : kept rate n * ch ≤ stream.length
  · rw [Nat.sub_eq_zero_of_le hall, List.replicate_zero, List.append_nil,
      List.drop_append_of_le_length hall]
  · have hlength : (stream ++ List.replicate (kept rate n * ch - stream.length) 0).length =
        kept rate n * ch := by
      rw [List.length_append, List.length_replicate]
      omega
    rw [List.drop_eq_nil_of_le (by omega), List.drop_append_of_le_length (by omega),
      List.drop_eq_nil_of_le (by omega)]

theorem filled_of_le (h : kept rate n * ch ≤ stream.length) :
    filled rate ch stream n = stream := by
  rw [filled, Nat.sub_eq_zero_of_le h, List.replicate_zero, List.append_nil]

theorem filled_length :
    (filled rate ch stream n).length = max stream.length (kept rate n * ch) := by
  rw [filled, List.length_append, List.length_replicate]
  omega

/-! ## Passing through -/

theorem roundQuotient_whole (z : Int) : roundQuotient (outRate * z) = z := by
  have hrate : (outRate : Int) = 48000 := rfl
  rw [roundQuotient, hrate]
  by_cases h : 0 ≤ z
  · rw [if_pos (by omega)]
    omega
  · rw [if_neg (by omega)]
    omega

theorem interpolate_zero (x y : Int16) : interpolate 0 x y = x := by
  have hlow := x.le_toInt
  have hhigh := x.toInt_lt
  rw [interpolate, clampToI16]
  simp only [Int.ofNat_zero, Int.zero_mul, Int.add_zero]
  rw [roundQuotient_whole, Int.max_eq_right (by omega), Int.min_eq_right (by omega)]
  exact Int16.ofInt_toInt x

/-- Stereo at the output's rate is its own resampling. -/
theorem framesFrom_passthrough (hin : 2 * (k + n) ≤ stream.length) :
    framesFrom 48000 2 stream k n = (stream.drop (2 * k)).take (2 * n) := by
  have hposition : ∀ k, position 48000 k = k := fun k => Nat.mul_div_cancel k (by decide)
  have hfrac : ∀ k, k * 48000 % outRate = 0 := fun k => Nat.mul_mod_left k 48000
  induction n generalizing k with
  | zero => simp [framesFrom]
  | succ n ih =>
    have hcut : stream.drop (2 * k) =
        stream[2 * k] :: stream[2 * k + 1] :: stream.drop (2 * (k + 1)) := by
      rw [List.drop_eq_getElem_cons (by omega), List.drop_eq_getElem_cons (by omega)]
      rfl
    rw [framesFrom_succ, left, right, if_pos (Nat.le_refl 2), hposition, hfrac, interpolate_zero,
      interpolate_zero, List.getD_eq_getElem _ _ (by omega), List.getD_eq_getElem _ _ (by omega),
      ih (by omega), hcut, show 2 * (n + 1) = 2 * n + 1 + 1 by omega, List.take_succ_cons,
      List.take_succ_cons]
    simp only [Nat.mul_comm k 2, List.cons_append, List.nil_append]

theorem passLoop_eq {fuel : Nat} {pending out : List Int16} (hfuel : pending.length ≤ fuel) :
    passLoop fuel pending out =
      (pending.drop (1920 * (pending.length / 1920)),
        out ++ pending.take (1920 * (pending.length / 1920))) := by
  induction fuel generalizing pending out with
  | zero =>
    have hnil : pending = [] := List.eq_nil_of_length_eq_zero (by omega)
    subst hnil
    simp [passLoop]
  | succ fuel ih =>
    rw [passLoop]
    by_cases hblock : pending.length ≥ opusStereoSamples
    · have hblock' : 1920 ≤ pending.length := hblock
      have hrest : (pending.drop 1920).length / 1920 + 1 = pending.length / 1920 := by
        rw [List.length_drop]
        omega
      have hlength : (pending.drop 1920).length ≤ fuel := by
        rw [List.length_drop]
        omega
      rw [if_pos hblock, show opusStereoSamples = 1920 from rfl, ih hlength, ← hrest,
        List.drop_drop, List.append_assoc, ← List.take_add]
      rw [show 1920 + 1920 * ((pending.drop 1920).length / 1920) =
        1920 * ((pending.drop 1920).length / 1920 + 1) by omega]
    · have hless : pending.length / 1920 = 0 := by
        have : ¬1920 ≤ pending.length := hblock
        omega
      rw [if_neg hblock, hless]
      simp

/-- The buffer that passes samples through, after `n` blocks of a stream. -/
def passing (stream : List Int16) (n : Nat) : Opus48kPcmBuffer :=
  { state := .stereo48kPassthrough, pending := stream.drop (1920 * n) }

theorem pop_passing (hn : n ≤ stream.length / 1920) :
    (passing stream n).popOpusFrames (stream.take (1920 * n)) =
      .ok (passing stream (stream.length / 1920),
        stream.take (1920 * (stream.length / 1920))) := by
  have hblocks : (stream.drop (1920 * n)).length / 1920 = stream.length / 1920 - n := by
    rw [List.length_drop]
    omega
  have hsum : 1920 * n + 1920 * (stream.length / 1920 - n) = 1920 * (stream.length / 1920) := by
    omega
  have hloop := @passLoop_eq _ (stream.drop (1920 * n)) (stream.take (1920 * n)) (Nat.le_refl _)
  rw [hblocks, List.drop_drop, ← List.take_add, hsum] at hloop
  simp only [popOpusFrames, passing, hloop]

theorem push_passing (hn : n ≤ stream.length / 1920) :
    (passing stream n).pushInterleaved data = passing (stream ++ data) n := by
  simp only [pushInterleaved, passing, Opus48kPcmBuffer.mk.injEq, true_and]
  rw [List.drop_append_of_le_length (by omega)]

end Opus48kPcmBuffer

end StreamBox.Audio
