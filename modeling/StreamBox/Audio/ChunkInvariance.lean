import StreamBox.Audio.BufferedStream

/-!
# Resampling does not depend on how the samples arrive

The output of any calls against that of one push of all samples. The two agree, whatever the
samples are, just when at every pop the buffer has the samples that it claims to have dropped or
is not asked for another block. At 144 kHz or less it always has them.
-/

namespace StreamBox.Audio

namespace Opus48kPcmBuffer

variable {rate ch : Nat} {stream data : List Int16} {k n m : Nat}

/-- What a call pushes is all that its place among the calls depends on. -/
def Call.size : Call → Option Nat
  | .push data => some data.length
  | .pop => none

/-- At a pop after `arrived` samples and before `later` ones, either the buffer has all it claims
to have dropped, or what comes gives no further block. -/
def Fits (rate ch arrived later : Nat) : Prop :=
  let n := blocksReady rate (arrived / ch)
  kept rate n * ch ≤ arrived ∨ blocksReady rate ((kept rate n * ch + later) / ch) ≤ n

/-- Every pop of the calls fits, where so many samples have arrived before them. -/
def Aligned (rate ch : Nat) : Nat → List Call → Prop
  | _, [] => True
  | arrived, .push data :: rest => Aligned rate ch (arrived + data.length) rest
  | arrived, .pop :: rest =>
    Fits rate ch arrived (pushed rest).length ∧ Aligned rate ch arrived rest

/-- The calls and a last pop give what one push and one pop give, frame by frame an interpolation
of the input around its position. -/
def ChunkInvariant (inRate inChannels : Nat) (calls : List Call) : Prop :=
  ∃ b b' out n,
    run (new inRate inChannels) [] (calls ++ [.pop]) = .ok (b, out) ∧
    run (new inRate inChannels) [] [.push (pushed calls), .pop] = .ok (b', out) ∧
    out = framesFrom (max inRate 1) (max inChannels 1) (pushed calls) 0 n ∧
    ∀ k < n, (position (max inRate 1) k + 1) * max inChannels 1 ≤ (pushed calls).length ∧
      (k * max inRate 1 % outRate ≠ 0 →
        (position (max inRate 1) k + 2) * max inChannels 1 ≤ (pushed calls).length)

theorem div_length_mono {a b : Nat} (h : a ≤ b) :
    blocksReady rate (a / ch) ≤ blocksReady rate (b / ch) :=
  blocksReady_mono (Nat.div_le_div_right h)

theorem pop_idle (hrate : 0 < rate) (hch : 0 < ch) {out : List Int16}
    (hidle : blocksReady rate (stream.length / ch) ≤ n) :
    (buffered rate ch stream n).popOpusFrames out = .ok (buffered rate ch stream n, out) := by
  rw [pop_eq hrate hch, Nat.max_eq_left hidle, Nat.sub_eq_zero_of_le hidle]
  simp [framesFrom]

/-- From here on the calls give no further block. -/
theorem run_idle (hrate : 0 < rate) (hch : 0 < ch) {calls : List Call} {out : List Int16}
    (hidle : blocksReady rate
      (((filled rate ch stream n).length + (pushed calls).length) / ch) ≤ n) :
    ∃ b, run (buffered rate ch stream n) out (calls ++ [.pop]) = .ok (b, out) := by
  have hnow : blocksReady rate (stream.length / ch) ≤ n := by
    refine Nat.le_trans (div_length_mono ?_) hidle
    rw [filled_length]
    omega
  induction calls generalizing stream with
  | nil =>
    refine ⟨buffered rate ch stream n, ?_⟩
    rw [List.nil_append, run, pop_idle hrate hch hnow]
    rfl
  | cons call rest ih =>
    cases call with
    | push data =>
      have hsame : (filled rate ch (filled rate ch stream n ++ data) n).length =
          (filled rate ch stream n).length + data.length := by
        rw [filled_length, List.length_append, filled_length]
        omega
      rw [pushed, List.length_append, ← Nat.add_assoc] at hidle
      rw [List.cons_append, run, push_eq]
      apply ih
      · rw [hsame]
        exact hidle
      · refine Nat.le_trans (div_length_mono ?_) hidle
        rw [List.length_append]
        omega
    | pop =>
      rw [List.cons_append, run, pop_idle hrate hch hnow]
      exact ih hidle hnow

theorem blocks_in_stream (hrate : 0 < rate) {l : Nat}
    (hl : l < 960 * blocksReady rate (stream.length / ch)) :
    position rate l + 1 < stream.length / ch := by
  have hblock : l / 960 < blocksReady rate (stream.length / ch) := Nat.div_lt_of_lt_mul hl
  have hlast := (lt_blocksReady hrate).1 hblock
  have hmono := @position_le rate l (960 * (l / 960) + 959) (by omega)
  omega

/-- A pop brings the output up to the blocks that the stream has. -/
theorem pop_frames (hrate : 0 < rate) (hch : 0 < ch)
    (hn : n ≤ blocksReady rate (stream.length / ch)) :
    (buffered rate ch stream n).popOpusFrames (framesFrom rate ch stream 0 (960 * n)) =
      .ok (buffered rate ch stream (blocksReady rate (stream.length / ch)),
        framesFrom rate ch stream 0 (960 * blocksReady rate (stream.length / ch))) := by
  have hjoin := @framesFrom_add rate ch stream 0 (960 * n)
    (960 * (blocksReady rate (stream.length / ch) - n))
  rw [Nat.zero_add] at hjoin
  rw [pop_eq hrate hch, Nat.max_eq_right hn, hjoin, ← Nat.mul_add, Nat.add_sub_cancel' hn]

/-- A push leaves the output that there is. -/
theorem framesFrom_push (more : List Int16) (hrate : 0 < rate) (hch : 0 < ch)
    (hn : n ≤ blocksReady rate (stream.length / ch)) :
    framesFrom rate ch (stream ++ more) 0 (960 * n) = framesFrom rate ch stream 0 (960 * n) := by
  apply framesFrom_append hch
  intro l hl
  apply blocks_in_stream hrate
  have := Nat.mul_le_mul_left 960 hn
  omega

/-- **Calls that fit give the frames of the stream.** -/
theorem run_aligned (hrate : 0 < rate) (hch : 0 < ch) {calls : List Call}
    (hall : kept rate n * ch ≤ stream.length) (hn : n ≤ blocksReady rate (stream.length / ch))
    (haligned : Aligned rate ch stream.length calls) :
    ∃ b, run (buffered rate ch stream n) (framesFrom rate ch stream 0 (960 * n))
        (calls ++ [.pop]) =
      .ok (b, framesFrom rate ch (stream ++ pushed calls) 0
        (960 * blocksReady rate ((stream ++ pushed calls).length / ch))) := by
  induction calls generalizing stream n with
  | nil =>
    refine ⟨buffered rate ch stream (blocksReady rate (stream.length / ch)), ?_⟩
    simp only [List.nil_append, pushed, List.append_nil, run]
    rw [pop_frames hrate hch hn]
    rfl
  | cons call rest ih =>
    cases call with
    | push data =>
      rw [List.cons_append, run, push_eq, filled_of_le hall,
        ← framesFrom_push data hrate hch hn, pushed, ← List.append_assoc]
      rw [Aligned, ← List.length_append] at haligned
      have hlonger : stream.length ≤ (stream ++ data).length := by
        rw [List.length_append]
        exact Nat.le_add_right _ _
      exact ih (Nat.le_trans hall hlonger) (Nat.le_trans hn (div_length_mono hlonger)) haligned
    | pop =>
      obtain ⟨hfits, hrest⟩ := haligned
      rw [List.cons_append, run, pop_frames hrate hch hn, pushed]
      by_cases hkept : kept rate (blocksReady rate (stream.length / ch)) * ch ≤ stream.length
      · exact ih hkept (Nat.le_refl _) hrest
      · -- The rest of the calls gives nothing, nor would it over the stream itself.
        have hidle := hfits.resolve_left hkept
        have htotal : blocksReady rate ((stream ++ pushed rest).length / ch) =
            blocksReady rate (stream.length / ch) := by
          apply Nat.le_antisymm
          · refine Nat.le_trans (div_length_mono ?_) hidle
            rw [List.length_append]
            omega
          · apply div_length_mono
            rw [List.length_append]
            exact Nat.le_add_right _ _
        rw [htotal, framesFrom_push _ hrate hch (Nat.le_refl _)]
        apply run_idle hrate hch
        rw [filled_length, Nat.max_eq_right (by omega)]
        exact hidle

theorem run_passing {calls : List Call} (hn : n ≤ stream.length / 1920) :
    ∃ b, run (passing stream n) (stream.take (1920 * n)) (calls ++ [.pop]) =
      .ok (b, (stream ++ pushed calls).take
        (1920 * ((stream ++ pushed calls).length / 1920))) := by
  induction calls generalizing stream n with
  | nil =>
    refine ⟨passing stream (stream.length / 1920), ?_⟩
    simp only [List.nil_append, pushed, List.append_nil, run]
    rw [pop_passing hn]
    rfl
  | cons call rest ih =>
    cases call with
    | push data =>
      have hlonger : stream.length / 1920 ≤ (stream ++ data).length / 1920 := by
        apply Nat.div_le_div_right
        rw [List.length_append]
        exact Nat.le_add_right _ _
      rw [List.cons_append, run, push_passing hn, pushed, ← List.append_assoc,
        ← @List.take_append_of_le_length _ stream data (1920 * n) (by omega)]
      exact ih (Nat.le_trans hn hlonger)
    | pop =>
      rw [List.cons_append, run, pop_passing hn, pushed]
      exact ih (Nat.le_refl _)

/-! ## Taken for later samples -/

/-- What has been popped stays. -/
theorem run_extends (hrate : 0 < rate) (hch : 0 < ch) {calls : List Call}
    {out out' : List Int16} {b : Opus48kPcmBuffer}
    (hrun : run (buffered rate ch stream n) out calls = .ok (b, out')) :
    ∃ more, out' = out ++ more := by
  induction calls generalizing stream n out with
  | nil =>
    cases hrun
    exact ⟨[], (List.append_nil _).symm⟩
  | cons call rest ih =>
    cases call with
    | push data =>
      rw [run, push_eq] at hrun
      exact ih hrun
    | pop =>
      rw [run, pop_eq hrate hch] at hrun
      obtain ⟨more, hmore⟩ := ih hrun
      exact ⟨_, by rw [hmore, List.append_assoc]⟩

/-- A stream that gives a block is as long as the buffer believes. -/
theorem filled_of_ready (hrate : 0 < rate)
    (hready : n < blocksReady rate (stream.length / ch)) : filled rate ch stream n = stream := by
  have hlast := (lt_blocksReady hrate).1 hready
  have hkept : kept rate n ≤ position rate (960 * n + 959) := kept_le_position (by omega)
  apply filled_of_le
  exact Nat.le_trans (Nat.mul_le_mul_right _ (by omega)) (Nat.div_mul_le_self _ ch)

theorem filled_not_ready (hrate : 0 < rate) (hch : 0 < ch)
    (hshort : stream.length < kept rate n * ch) :
    ¬n < blocksReady rate ((filled rate ch stream n).length / ch) := by
  intro h
  rw [filled_length, Nat.max_eq_right (by omega), Nat.mul_div_cancel _ hch] at h
  have hlast := (lt_blocksReady hrate).1 h
  have hkept : kept rate n ≤ position rate (960 * n + 959) := kept_le_position (by omega)
  omega

/-- The next block that the calls give is taken from the stream that the buffer believes in. -/
theorem run_next_block (hrate : 0 < rate) (hch : 0 < ch) {calls : List Call}
    {out out' : List Int16} {b : Opus48kPcmBuffer}
    (hready : n < blocksReady rate
      ((filled rate ch stream n ++ pushed calls).length / ch))
    (hrun : run (buffered rate ch stream n) out (calls ++ [.pop]) = .ok (b, out')) :
    out'[out.length]? =
      some (left rate ch (filled rate ch stream n ++ pushed calls) (960 * n)) := by
  have hnow : ∀ {stream later : List Int16} {rest : List Call},
      n < blocksReady rate (stream.length / ch) →
      run (buffered rate ch stream n) out (.pop :: rest) = .ok (b, out') →
      out'[out.length]? = some (left rate ch (stream ++ later) (960 * n)) := by
    intro stream later rest hready hrun
    rw [run, pop_eq hrate hch] at hrun
    obtain ⟨more, hmore⟩ := run_extends hrate hch hrun
    have hposition : position rate (960 * n) + 1 < stream.length / ch :=
      blocks_in_stream hrate (by omega)
    have hframe := frame_in_stream hposition
    have hfirst : (framesFrom rate ch stream (960 * n)
        (960 * (blocksReady rate (stream.length / ch) - n)))[2 * 0]? =
          some (left rate ch stream (960 * n + 0)) := framesFrom_getElem? (by omega)
    rw [Nat.mul_zero, Nat.add_zero] at hfirst
    rw [hmore, List.append_assoc, List.getElem?_append_right (Nat.le_refl _), Nat.sub_self,
      left_append hframe hch]
    rw [List.getElem?_append_left (by rw [framesFrom_length]; omega)]
    exact hfirst
  induction calls generalizing stream with
  | nil =>
    rw [pushed, List.append_nil] at hready ⊢
    by_cases hall : kept rate n * ch ≤ stream.length
    · rw [filled_of_le hall] at hready ⊢
      have hblock := @hnow stream [] _ hready hrun
      rw [List.append_nil] at hblock
      exact hblock
    · exact absurd hready (filled_not_ready hrate hch (Nat.lt_of_not_le hall))
  | cons call rest ih =>
    cases call with
    | push data =>
      have hlength : kept rate n * ch ≤ (filled rate ch stream n ++ data).length := by
        rw [List.length_append, filled_length]
        omega
      rw [List.cons_append, run, push_eq] at hrun
      rw [pushed, ← List.append_assoc] at hready ⊢
      have hblock := ih (by rw [filled_of_le hlength]; exact hready) hrun
      rw [filled_of_le hlength] at hblock
      exact hblock
    | pop =>
      rw [pushed] at hready ⊢
      by_cases hearly : n < blocksReady rate (stream.length / ch)
      · rw [filled_of_ready hrate hearly]
        exact hnow hearly hrun
      · rw [List.cons_append, run, pop_idle hrate hch (Nat.le_of_not_lt hearly)] at hrun
        exact ih hready hrun

/-- So many samples of a signal, from the one with this number on. -/
def samples (signal : Nat → Int16) (first count : Nat) : List Int16 :=
  (List.range' first count).map signal

/-- The same calls with the samples of a signal. -/
def carrying (signal : Nat → Int16) : Nat → List Call → List Call
  | _, [] => []
  | arrived, .push data :: rest =>
    .push (samples signal arrived data.length) ::
      carrying signal (arrived + data.length) rest
  | arrived, .pop :: rest => .pop :: carrying signal arrived rest

theorem samples_length {signal : Nat → Int16} {first count : Nat} :
    (samples signal first count).length = count := by
  simp [samples]

theorem samples_append {signal : Nat → Int16} {first a b : Nat} :
    samples signal first a ++ samples signal (first + a) b = samples signal first (a + b) := by
  rw [samples, samples, samples, ← List.map_append, List.range'_append_1]

theorem samples_extend {signal : Nat → Int16} {a b : Nat} :
    samples signal 0 a ++ samples signal a b = samples signal 0 (a + b) := by
  have h := @samples_append signal 0 a b
  rw [Nat.zero_add] at h
  exact h

theorem samples_getD {signal : Nat → Int16} {first count i : Nat} (h : i < count) :
    (samples signal first count).getD i 0 = signal (first + i) := by
  rw [List.getD_eq_getElem _ _ (by rw [samples_length]; exact h)]
  simp [samples]

theorem pushed_carrying {signal : Nat → Int16} {arrived : Nat} {calls : List Call} :
    pushed (carrying signal arrived calls) = samples signal arrived (pushed calls).length := by
  induction calls generalizing arrived with
  | nil => simp [carrying, pushed, samples]
  | cons call rest ih =>
    cases call with
    | push data => rw [carrying, pushed, ih, samples_append, pushed, List.length_append]
    | pop => rw [carrying, pushed, ih, pushed]

theorem size_carrying {signal : Nat → Int16} {arrived : Nat} {calls : List Call} :
    (carrying signal arrived calls).map Call.size = calls.map Call.size := by
  induction calls generalizing arrived with
  | nil => rfl
  | cons call rest ih =>
    cases call with
    | push data => simp only [carrying, List.map_cons, ih, Call.size, samples_length]
    | pop => simp only [carrying, List.map_cons, ih, Call.size]

/-- The first frame of a block over samples that are missing is taken from those after them. -/
theorem left_shifted {believed : List Int16} {signal : Nat → Int16} {arrived later block : Nat}
    (hbelieved : believed.length = kept rate block * ch) (hkept : 0 < kept rate block)
    (hlater : (position rate (960 * block) + 2) * ch ≤
      (believed ++ samples signal arrived later).length) (hch : 0 < ch) :
    left rate ch (believed ++ samples signal arrived later) (960 * block) =
      interpolate (960 * block * rate % outRate) (signal (arrived + ch))
        (signal (arrived + 2 * ch)) := by
  have hposition : position rate (960 * block) = kept rate block + 1 := by
    rw [kept] at hkept ⊢
    omega
  have hnext : (kept rate block + 1 + 1) * ch = kept rate block * ch + 2 * ch := by
    rw [Nat.add_assoc, Nat.add_mul]
  have hthis : (kept rate block + 1) * ch = kept rate block * ch + ch := Nat.succ_mul _ _
  rw [hposition, List.length_append, hbelieved, samples_length, Nat.add_assoc, Nat.add_mul]
    at hlater
  rw [left, hposition, hthis, hnext, List.getD_append_right _ _ _ _ (by omega),
    List.getD_append_right _ _ _ _ (by omega), hbelieved, Nat.add_sub_cancel_left,
    Nat.add_sub_cancel_left, samples_getD (by omega), samples_getD (by omega)]

/-- Where nothing more is given, every pop fits. -/
theorem aligned_of_idle {calls : List Call} {arrived : Nat}
    (hn : n ≤ blocksReady rate (arrived / ch))
    (hidle : blocksReady rate ((max arrived (kept rate n * ch) + (pushed calls).length) / ch) ≤ n) :
    Aligned rate ch arrived calls := by
  induction calls generalizing arrived with
  | nil => trivial
  | cons call rest ih =>
    cases call with
    | push data =>
      rw [pushed, List.length_append] at hidle
      rw [Aligned]
      apply ih
      · exact Nat.le_trans hn (div_length_mono (Nat.le_add_right _ _))
      · exact Nat.le_trans (div_length_mono (by omega)) hidle
    | pop =>
      rw [pushed] at hidle
      have hnow : blocksReady rate (arrived / ch) = n := by
        refine Nat.le_antisymm (Nat.le_trans (div_length_mono ?_) hidle) hn
        omega
      refine ⟨Or.inr ?_, ih hn hidle⟩
      rw [hnow]
      exact Nat.le_trans (div_length_mono (by omega)) hidle

/-- **Calls that do not all fit give a frame that lies where its samples arrived, short of where
the input has them.** -/
theorem run_shifted (hrate : 0 < rate) (hch : 0 < ch) {calls : List Call} {arrived : Nat}
    (hall : kept rate n * ch ≤ arrived) (hn : n ≤ blocksReady rate (arrived / ch))
    (hskew : ¬Aligned rate ch arrived calls) :
    ∃ block short, short < kept rate block * ch ∧ ∀ signal b out,
      run (buffered rate ch (samples signal 0 arrived) n)
          (framesFrom rate ch (samples signal 0 arrived) 0 (960 * n))
          (carrying signal arrived calls ++ [.pop]) = .ok (b, out) →
        out[2 * (960 * block)]? = some (interpolate (960 * block * rate % outRate)
          (signal (short + ch)) (signal (short + 2 * ch))) := by
  induction calls generalizing arrived n with
  | nil => exact absurd trivial hskew
  | cons call rest ih =>
    cases call with
    | push data =>
      rw [Aligned] at hskew
      obtain ⟨block, short, hshort, hgiven⟩ :=
        ih (Nat.le_trans hall (Nat.le_add_right _ _))
          (Nat.le_trans hn (div_length_mono (Nat.le_add_right _ _))) hskew
      refine ⟨block, short, hshort, ?_⟩
      intro signal b out hrun
      rw [carrying, List.cons_append, run, push_eq,
        filled_of_le (by rw [samples_length]; exact hall)] at hrun
      rw [← framesFrom_push (samples signal arrived data.length) hrate hch
        (by rw [samples_length]; exact hn), samples_extend] at hrun
      exact hgiven signal b out hrun
    | pop =>
      have hpop : ∀ signal, run (buffered rate ch (samples signal 0 arrived) n)
          (framesFrom rate ch (samples signal 0 arrived) 0 (960 * n))
          (carrying signal arrived (.pop :: rest) ++ [.pop]) =
            run (buffered rate ch (samples signal 0 arrived) (blocksReady rate (arrived / ch)))
              (framesFrom rate ch (samples signal 0 arrived) 0
                (960 * blocksReady rate (arrived / ch)))
              (carrying signal arrived rest ++ [.pop]) := by
        intro signal
        have hpop := @pop_frames rate ch (samples signal 0 arrived) n hrate hch
          (by rw [samples_length]; exact hn)
        rw [samples_length] at hpop
        rw [carrying, List.cons_append, run, hpop]
        rfl
      simp only [hpop]
      by_cases hkept : kept rate (blocksReady rate (arrived / ch)) * ch ≤ arrived
      · apply ih hkept (Nat.le_refl _)
        intro hrest
        exact hskew ⟨Or.inl hkept, hrest⟩
      · refine ⟨blocksReady rate (arrived / ch), arrived, Nat.lt_of_not_le hkept, ?_⟩
        have hlength : ∀ signal, (filled rate ch (samples signal 0 arrived)
            (blocksReady rate (arrived / ch))).length =
              kept rate (blocksReady rate (arrived / ch)) * ch := by
          intro signal
          rw [filled_length, samples_length, Nat.max_eq_right (by omega)]
        have hmore : blocksReady rate (arrived / ch) < blocksReady rate
            ((kept rate (blocksReady rate (arrived / ch)) * ch + (pushed rest).length) / ch) := by
          apply Nat.lt_of_not_le
          intro hidle
          refine hskew ⟨Or.inr hidle, aligned_of_idle (Nat.le_refl _) ?_⟩
          rw [Nat.max_eq_right (by omega)]
          exact hidle
        intro signal b out hrun
        have hready : blocksReady rate (arrived / ch) < blocksReady rate
            ((filled rate ch (samples signal 0 arrived) (blocksReady rate (arrived / ch)) ++
              samples signal arrived (pushed rest).length).length / ch) := by
          rw [List.length_append, hlength, samples_length]
          exact hmore
        have hposition : position rate (960 * blocksReady rate (arrived / ch)) + 1 <
            (filled rate ch (samples signal 0 arrived) (blocksReady rate (arrived / ch)) ++
              samples signal arrived (pushed rest).length).length / ch :=
          blocks_in_stream hrate (by omega)
        have hframe := frame_in_stream hposition
        have hblock := run_next_block hrate hch (by rw [pushed_carrying]; exact hready) hrun
        rw [framesFrom_length, pushed_carrying] at hblock
        have hsome := Nat.pos_of_mul_pos_right (Nat.zero_lt_of_lt (Nat.lt_of_not_le hkept))
        rw [hblock, left_shifted (hlength signal) hsome hframe hch]

/-! ## Rates without a gap -/

/-- **Up to 144 kHz every pop has what it drops.** -/
theorem aligned_of_low (hrate : 0 < rate) (hlow : rate ≤ 144000) {calls : List Call}
    {arrived : Nat} : Aligned rate ch arrived calls := by
  induction calls generalizing arrived with
  | nil => trivial
  | cons call rest ih =>
    cases call with
    | push data => exact ih
    | pop =>
      refine ⟨Or.inl ?_, ih⟩
      exact Nat.le_trans (Nat.mul_le_mul_right _ (kept_le_frames hrate hlow))
        (Nat.div_mul_le_self _ _)

theorem length_pushed_congr {calls calls' : List Call}
    (hsize : calls'.map Call.size = calls.map Call.size) :
    (pushed calls').length = (pushed calls).length := by
  induction calls generalizing calls' with
  | nil => rw [List.map_eq_nil_iff.1 hsize]
  | cons call rest ih =>
    obtain ⟨call', rest', rfl, hcall, hrest⟩ := List.map_eq_cons_iff.1 hsize
    cases call with
    | push data =>
      cases call' with
      | push data' =>
        rw [pushed, pushed, List.length_append, List.length_append, ih hrest,
          Option.some.inj hcall]
      | pop => cases hcall
    | pop =>
      cases call' with
      | push data' => cases hcall
      | pop =>
        rw [pushed, pushed]
        exact ih hrest

theorem aligned_congr {calls calls' : List Call} {arrived : Nat}
    (hsize : calls'.map Call.size = calls.map Call.size)
    (h : Aligned rate ch arrived calls) : Aligned rate ch arrived calls' := by
  induction calls generalizing calls' arrived with
  | nil =>
    rw [List.map_eq_nil_iff.1 hsize]
    trivial
  | cons call rest ih =>
    obtain ⟨call', rest', rfl, hcall, hrest⟩ := List.map_eq_cons_iff.1 hsize
    cases call with
    | push data =>
      cases call' with
      | push data' =>
        rw [Aligned] at h ⊢
        rw [Option.some.inj hcall]
        exact ih hrest h
      | pop => cases hcall
    | pop =>
      cases call' with
      | push data' => cases hcall
      | pop =>
        refine ⟨?_, ih hrest h.2⟩
        rw [length_pushed_congr hrest]
        exact h.1

/-! ## Any chunks -/

theorem new_buffered (hrate : 0 < rate) (hch : 0 < ch) (hdiffers : ¬(rate = 48000 ∧ ch = 2)) :
    new rate ch = buffered rate ch [] 0 := by
  have hkept : kept rate 0 = 0 := by simp [kept, position]
  simp only [new, buffered, Nat.max_eq_left hrate, Nat.max_eq_left hch, if_neg hdiffers, hkept,
    List.drop_nil, Nat.mul_zero]

theorem new_max {inRate inChannels : Nat} :
    new inRate inChannels = new (max inRate 1) (max inChannels 1) := by
  simp only [new, Nat.max_assoc, Nat.max_self]

/-- What one push and one pop give. -/
theorem run_whole (whole : List Int16) (hrate : 0 < rate) (hch : 0 < ch) :
    ∃ b, run (buffered rate ch [] 0) [] [.push whole, .pop] =
      .ok (b, framesFrom rate ch whole 0 (960 * blocksReady rate (whole.length / ch))) := by
  have hnone : kept rate 0 * ch ≤ 0 := by simp [kept, position]
  have h := @run_aligned rate ch [] 0 hrate hch [.push whole] hnone (Nat.zero_le _) trivial
  simp only [pushed, List.append_nil, List.nil_append] at h
  exact h

theorem chunkInvariant_of_aligned (hrate : 0 < rate) (hch : 0 < ch) {calls : List Call}
    (haligned : Aligned rate ch 0 calls) : ChunkInvariant rate ch calls := by
  rw [ChunkInvariant, Nat.max_eq_left hrate, Nat.max_eq_left hch]
  by_cases hsame : rate = 48000 ∧ ch = 2
  · obtain ⟨rfl, rfl⟩ := hsame
    obtain ⟨b, hrun⟩ := @run_passing [] 0 calls (Nat.zero_le _)
    obtain ⟨b', hwhole⟩ :=
      @run_passing [] 0 [.push (pushed calls)] (Nat.zero_le _)
    simp only [pushed, List.append_nil, List.nil_append] at hrun hwhole
    refine ⟨b, b', _, 960 * ((pushed calls).length / 1920), hrun, hwhole, ?_, ?_⟩
    · rw [framesFrom_passthrough (by omega), List.drop_zero]
      rw [show 2 * (960 * ((pushed calls).length / 1920)) =
        1920 * ((pushed calls).length / 1920) by omega]
    · intro k hk
      have hposition : position 48000 k = k := Nat.mul_div_cancel k (by decide)
      have hfrac : k * 48000 % outRate = 0 := Nat.mul_mod_left k 48000
      rw [hposition]
      refine ⟨by omega, ?_⟩
      intro h
      exact absurd hfrac h
  · have hnone : kept rate 0 * ch ≤ 0 := by simp [kept, position]
    obtain ⟨b, hrun⟩ := @run_aligned rate ch [] 0 hrate hch calls hnone (Nat.zero_le _) haligned
    obtain ⟨b', hwhole⟩ := run_whole (pushed calls) hrate hch
    rw [new_buffered hrate hch hsame]
    refine ⟨b, b', _, _, hrun, hwhole, rfl, ?_⟩
    intro k hk
    have hframe := frame_in_stream (blocks_in_stream hrate hk)
    refine ⟨Nat.le_trans (Nat.mul_le_mul_right _ (Nat.le_succ _)) hframe, ?_⟩
    intro hfrac
    exact hframe

/-- Short of the next frame no interpolation away from the lowest sample reaches the highest. -/
theorem interpolate_below {frac : Nat} (hfrac : frac < outRate) (y : Int16) :
    interpolate frac (-32768) y ≠ 32767 := by
  have hlow := y.le_toInt
  have hhigh := y.toInt_lt
  have hstart : (-32768 : Int16).toInt = -32768 := by decide
  have hend : (32767 : Int16).toInt = 32767 := by decide
  have hpart : (frac : Int) * (y.toInt - (-32768)) ≤ 47999 * 65535 := by
    apply Int.mul_le_mul
    · have : (frac : Int) < 48000 := Int.ofNat_lt.2 hfrac
      omega
    · omega
    · omega
    · decide
  have hpos : 0 ≤ (frac : Int) * (y.toInt - (-32768)) :=
    Int.mul_nonneg (Int.natCast_nonneg _) (by omega)
  intro h
  have hvalue := congrArg Int16.toInt h
  rw [hend, interpolate, hstart, clampToI16] at hvalue
  rw [Int16.toInt_ofInt_of_le (by omega) (by omega)] at hvalue
  rw [roundQuotient] at hvalue
  have hrate : (outRate : Int) = 48000 := rfl
  rw [hrate] at hvalue
  generalize (frac : Int) * (y.toInt - (-32768)) = part at *
  split at hvalue <;> omega

/-- A signal that goes from the lowest sample to the highest. -/
def stepAt (edge i : Nat) : Int16 := if i < edge then -32768 else 32767

theorem interpolate_same (frac : Nat) (x : Int16) : interpolate frac x x = x := by
  have h := interpolate_zero x x
  rw [interpolate] at h ⊢
  rw [Int.sub_self, Int.mul_zero] at h ⊢
  exact h

theorem aligned_of_chunkInvariant (hrate : 0 < rate) (hch : 0 < ch) {calls : List Call}
    (h : ∀ calls' : List Call, calls'.map Call.size = calls.map Call.size →
      ChunkInvariant rate ch calls') : Aligned rate ch 0 calls := by
  by_cases hsame : rate = 48000 ∧ ch = 2
  · exact aligned_of_low hrate (by omega)
  · apply Classical.byContradiction
    intro hskew
    have hnone : kept rate 0 * ch ≤ 0 := by simp [kept, position]
    obtain ⟨block, short, hshort, hgiven⟩ := run_shifted hrate hch hnone (Nat.zero_le _) hskew
    have hedge : (kept rate block + 1) * ch = kept rate block * ch + ch := Nat.succ_mul _ _
    have hkept : 0 < kept rate block := Nat.pos_of_mul_pos_right (Nat.zero_lt_of_lt hshort)
    have hposition : position rate (960 * block) = kept rate block + 1 := by
      rw [kept] at hkept ⊢
      omega
    generalize hsignal : stepAt ((kept rate block + 1) * ch) = signal at *
    obtain ⟨b, b', out, n, hrun, hwhole, -, -⟩ := h (carrying signal 0 calls) size_carrying
    rw [new_buffered hrate hch hsame] at hrun hwhole
    have hshifted := hgiven signal b out hrun
    have hbelow : signal (short + ch) = -32768 := by
      rw [← hsignal, stepAt, if_pos (by omega)]
    rw [hbelow] at hshifted
    obtain ⟨b'', hframes⟩ := run_whole (pushed (carrying signal 0 calls)) hrate hch
    rw [hwhole] at hframes
    obtain ⟨-, rfl⟩ := Prod.mk.inj (Except.ok.inj hframes)
    have hindex := (List.getElem?_eq_some_iff.1 hshifted).1
    rw [framesFrom_length] at hindex
    have hin : position rate (960 * block) + 1 < (pushed (carrying signal 0 calls)).length / ch :=
      blocks_in_stream hrate (by omega)
    have hframe := frame_in_stream hin
    rw [framesFrom_getElem? (by omega), Nat.zero_add] at hshifted
    rw [hposition, Nat.add_assoc, Nat.add_mul, pushed_carrying, samples_length] at hframe
    have hnext : (kept rate block + 1 + 1) * ch = kept rate block * ch + 2 * ch := by
      rw [Nat.add_assoc, Nat.add_mul]
    have hlater : ∀ i, (kept rate block + 1) * ch ≤ i → i < (pushed calls).length →
        (pushed (carrying signal 0 calls)).getD i 0 = 32767 := by
      intro i hedge hi
      rw [pushed_carrying, samples_getD hi, Nat.zero_add, ← hsignal, stepAt, if_neg (by omega)]
    rw [left, hposition, hlater _ (Nat.le_refl _) (by omega), hlater _ (by omega) (by omega),
      interpolate_same] at hshifted
    exact interpolate_below (Nat.mod_lt _ (by decide)) _ (Option.some.inj hshifted).symm

theorem chunkInvariant_max {inRate inChannels : Nat} {calls : List Call} :
    ChunkInvariant inRate inChannels calls ↔
      ChunkInvariant (max inRate 1) (max inChannels 1) calls := by
  simp only [ChunkInvariant, Nat.max_assoc, Nat.max_self, ← new_max]

/-- **Calls of given sizes give what one push gives, whatever the samples are, just when every
pop fits.** -/
theorem chunk_invariant_iff (inRate inChannels : Nat) (calls : List Call) :
    (∀ calls' : List Call, calls'.map Call.size = calls.map Call.size →
      ChunkInvariant inRate inChannels calls') ↔
      Aligned (max inRate 1) (max inChannels 1) 0 calls := by
  have hrate : 0 < max inRate 1 := Nat.lt_of_lt_of_le Nat.zero_lt_one (Nat.le_max_right _ _)
  have hch : 0 < max inChannels 1 := Nat.lt_of_lt_of_le Nat.zero_lt_one (Nat.le_max_right _ _)
  simp only [@chunkInvariant_max inRate inChannels]
  constructor
  · exact aligned_of_chunkInvariant hrate hch
  · intro haligned calls' hsize
    exact chunkInvariant_of_aligned hrate hch (aligned_congr hsize haligned)

/-- The first push and the first pop. -/
theorem run_first (first : List Int16) (calls : List Call) (hrate : 0 < rate) (hch : 0 < ch) :
    run (buffered rate ch [] 0) [] (.push first :: .pop :: calls) =
      run (buffered rate ch first (blocksReady rate (first.length / ch)))
        (framesFrom rate ch first 0 (960 * blocksReady rate (first.length / ch))) calls := by
  have hnone : kept rate 0 * ch ≤ ([] : List Int16).length := by simp [kept, position]
  rw [run, push_eq, filled_of_le hnone, List.nil_append, run,
    show ([] : List Int16) = framesFrom rate ch first 0 (960 * 0) from rfl,
    pop_frames hrate hch (Nat.zero_le _)]
  rfl

/-- At 192 kHz a pop that comes one sample early moves the second block by that sample: the signal
is up from the frame 3840 on, and this is where the block begins. -/
theorem second_block_shifted :
    ¬ChunkInvariant 192000 1
      [.push (samples (stepAt 3840) 0 3838), .pop, .push (samples (stepAt 3840) 3838 3842)] := by
  rintro ⟨b, b', out, n, hrun, hwhole, -, -⟩
  have hrate : 0 < 192000 := by decide
  have hbuffer : new 192000 1 = buffered 192000 1 [] 0 :=
    new_buffered hrate Nat.one_pos (by decide)
  have hready : blocksReady 192000 ((samples (stepAt 3840) 0 3838).length / 1) = 1 := by
    rw [samples_length]
    rfl
  have hbelieved : (filled 192000 1 (samples (stepAt 3840) 0 3838) 1).length = 3839 := by
    rw [filled_length, samples_length]
    rfl
  have hpushed : pushed [.push (samples (stepAt 3840) 3838 3842)] =
      samples (stepAt 3840) 3838 3842 := List.append_nil _
  rw [hbuffer, List.cons_append, List.cons_append, run_first _ _ hrate Nat.one_pos, hready] at hrun
  have hchunked := run_next_block hrate Nat.one_pos (by
    rw [hpushed, List.length_append, hbelieved, samples_length]
    decide) hrun
  rw [framesFrom_length, hpushed, left_shifted hbelieved (by decide) (by
    rw [List.length_append, hbelieved, samples_length]
    decide) Nat.one_pos] at hchunked
  have hjoined : pushed [.push (samples (stepAt 3840) 0 3838), .pop,
      .push (samples (stepAt 3840) 3838 3842)] = samples (stepAt 3840) 0 7680 := by
    rw [pushed, pushed, hpushed, samples_extend]
  have htwo : blocksReady 192000 ((samples (stepAt 3840) 0 7680).length / 1) = 2 := by
    rw [samples_length]
    rfl
  rw [hbuffer, hjoined, run_first _ _ hrate Nat.one_pos, htwo, run] at hwhole
  obtain ⟨-, rfl⟩ := Prod.mk.inj (Except.ok.inj hwhole)
  rw [framesFrom_getElem? (by decide), left, samples_getD (by decide), samples_getD (by decide)]
    at hchunked
  revert hchunked
  decide

end Opus48kPcmBuffer

end StreamBox.Audio
