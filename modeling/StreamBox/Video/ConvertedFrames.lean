import StreamBox.Lib.Overwriting
import StreamBox.Video.Convert

/-!
# What the conversions write

The conversions that are loops of the program, on a frame of even width and height: where the
input is long enough the loops overwrite the whole buffer, so that nothing of what it held is
left; where it is too short they panic.
-/

namespace StreamBox.Video.Convert

open StreamBox.Lib

/-! ## Slices -/

theorem index_ok {xs : List UInt8} {i : Nat} (h : i < xs.length) : ∃ x, index xs i = .ok x :=
  ⟨xs[i], by rw [index, List.getElem?_eq_getElem h]⟩

theorem index_bound {xs : List UInt8} {i : Nat} {x : UInt8} (h : index xs i = .ok x) :
    i < xs.length := by
  apply Nat.lt_of_not_le
  intro hout
  rw [index, List.getElem?_eq_none hout] at h
  cases h

theorem slice_ok {xs : List UInt8} {first last : Nat} (h : first ≤ last) (hin : last ≤ xs.length) :
    slice xs first last = .ok ((xs.take last).drop first) := by
  rw [slice, if_pos ⟨h, hin⟩]

theorem slice_length {xs part : List UInt8} {first last : Nat}
    (h : slice xs first last = .ok part) : part.length = last - first ∧ last ≤ xs.length := by
  rw [slice] at h
  split at h
  · rename_i hin
    cases h
    rw [List.length_drop, List.length_take]
    omega
  · cases h

theorem mem_stepBy2 {n x : Nat} : x ∈ stepBy2 n ↔ x % 2 = 0 ∧ x < n := by
  simp only [stepBy2, List.mem_map, List.mem_range]
  constructor
  · rintro ⟨half, hhalf, rfl⟩
    omega
  · rintro ⟨heven, hlt⟩
    exact ⟨x / 2, by omega, by omega⟩

theorem overwrites_assign {n : Nat} {plane : Plane} {i : Nat} (v : UInt8)
    (hi : i < plane.size) : Overwrites n (plane.assign i v) (fun j => j = plane.start + i) := by
  refine ⟨fun _ => some v, ?_⟩
  intro data hlength
  refine ⟨data.set (plane.start + i) v, ?_, ?_, ?_⟩
  · rw [Plane.assign, if_pos hi]
  · rw [List.length_set, hlength]
  · intro j hj
    constructor
    · intro h
      subst h
      rw [List.getElem?_set_self (by omega)]
    · intro h
      rw [List.getElem?_set_ne (Ne.symm h)]

theorem overwrites_copy {n : Nat} {plane : Plane} {src : List UInt8}
    (hplane : plane.start + plane.size ≤ n) (hsrc : src.length = plane.size) :
    Overwrites n (plane.copyFromSlice src)
      (fun j => plane.start ≤ j ∧ j < plane.start + plane.size) := by
  refine ⟨fun j => src[j - plane.start]?, ?_⟩
  intro data hlength
  refine ⟨data.take plane.start ++ src ++ data.drop (plane.start + plane.size), ?_, ?_, ?_⟩
  · rw [Plane.copyFromSlice, if_pos hsrc]
  · simp only [List.length_append, List.length_take, List.length_drop]
    omega
  · intro j hj
    have htake : (data.take plane.start).length = plane.start := by
      rw [List.length_take]
      omega
    constructor
    · rintro ⟨hfirst, hlast⟩
      rw [List.append_assoc, List.getElem?_append_right (by omega), htake,
        List.getElem?_append_left (by omega)]
    · intro hout
      by_cases hbefore : j < plane.start
      · rw [List.append_assoc, List.getElem?_append_left (by omega),
          List.getElem?_take_of_lt hbefore]
      · rw [List.getElem?_append_right (by rw [List.length_append]; omega), List.length_append,
          htake, hsrc, List.getElem?_drop]
        congr 1
        omega

/-- A cell of a grid, numbered row by row. -/
theorem cell_lt {row col width height : Nat} (hrow : row < height) (hcol : col < width) :
    row * width + col < width * height := by
  have h : (row + 1) * width ≤ height * width := Nat.mul_le_mul_right _ hrow
  rw [Nat.succ_mul, Nat.mul_comm height] at h
  omega

theorem frame_area (a b : Nat) : 2 * a * (2 * b) = 4 * (a * b) := Nat.mul_mul_mul_comm _ _ _ _

theorem quarter_area (a b : Nat) : 4 * (a * b) / 4 = a * b :=
  Nat.mul_div_cancel_left _ (by decide)

/-! ## YVYU -/

section Yvyu

variable {yvyu : List UInt8} {a b row col : Nat}

/-- The bytes that a block of two rows and two columns has in the output. -/
def InBlock (a b row col i : Nat) : Prop :=
  i = row * (2 * a) + col ∨ i = row * (2 * a) + col + 1 ∨ i = (row + 1) * (2 * a) + col ∨
    i = (row + 1) * (2 * a) + col + 1 ∨ i = 4 * (a * b) + (row / 2 * a + col / 2) ∨
    i = 5 * (a * b) + (row / 2 * a + col / 2)

theorem overwrites_yvyuBlock (hlength : 8 * (a * b) ≤ yvyu.length)
    (hrow : row % 2 = 0 ∧ row < 2 * b) (hcol : col % 2 = 0 ∧ col < 2 * a) :
    Overwrites (6 * (a * b)) (PixelConverter.yvyuBlock yvyu (2 * a) ⟨0, 4 * (a * b)⟩
      ⟨4 * (a * b), a * b⟩ ⟨5 * (a * b), a * b⟩ row col) (InBlock a b row col) := by
  have hfull := frame_area a b
  have hcell0 : row * (2 * a) + (col + 1) < 4 * (a * b) := by
    rw [← hfull]
    exact cell_lt (by omega) (by omega)
  have hcell1 : (row + 1) * (2 * a) + (col + 1) < 4 * (a * b) := by
    rw [← hfull]
    exact cell_lt (by omega) (by omega)
  have hchroma : row / 2 * a + col / 2 < a * b := cell_lt (by omega) (by omega)
  have hhalf : 2 * a / 2 = a := by omega
  have hread0 : ∀ k ≤ 3, ∃ x, index yvyu (row * (2 * a) * 2 + col * 2 + k) = .ok x := by
    intro k hk
    exact index_ok (by omega)
  have hread1 : ∀ k ≤ 3, ∃ x, index yvyu ((row + 1) * (2 * a) * 2 + col * 2 + k) = .ok x := by
    intro k hk
    exact index_ok (by omega)
  obtain ⟨y0_0, hy0_0⟩ := hread0 0 (by decide)
  obtain ⟨v0, hv0⟩ := hread0 1 (by decide)
  obtain ⟨y0_1, hy0_1⟩ := hread0 2 (by decide)
  obtain ⟨u0, hu0⟩ := hread0 3 (by decide)
  obtain ⟨y1_0, hy1_0⟩ := hread1 0 (by decide)
  obtain ⟨v1, hv1⟩ := hread1 1 (by decide)
  obtain ⟨y1_1, hy1_1⟩ := hread1 2 (by decide)
  obtain ⟨u1, hu1⟩ := hread1 3 (by decide)
  rw [Nat.add_zero] at hy0_0 hy1_0
  have hy : ∀ {i} (x : UInt8), i < 4 * (a * b) →
      Overwrites (6 * (a * b)) (Plane.assign ⟨0, 4 * (a * b)⟩ i x) (fun j => j = 0 + i) :=
    fun x hi => overwrites_assign x hi
  have hu : Overwrites (6 * (a * b))
      (Plane.assign ⟨4 * (a * b), a * b⟩ (row / 2 * a + col / 2) (average u0 u1)) _ :=
    overwrites_assign _ hchroma
  have hv : Overwrites (6 * (a * b))
      (Plane.assign ⟨5 * (a * b), a * b⟩ (row / 2 * a + col / 2) (average v0 v1)) _ :=
    overwrites_assign _ hchroma
  have hwrites := (hy y0_0 (i := row * (2 * a) + col) (by omega)).andThen <|
    (hy y0_1 (i := row * (2 * a) + col + 1) hcell0).andThen <|
    (hy y1_0 (i := (row + 1) * (2 * a) + col) (by omega)).andThen <|
    (hy y1_1 (i := (row + 1) * (2 * a) + col + 1) hcell1).andThen <|
    hu.andThen hv
  have hblock : PixelConverter.yvyuBlock yvyu (2 * a) ⟨0, 4 * (a * b)⟩ ⟨4 * (a * b), a * b⟩
      ⟨5 * (a * b), a * b⟩ row col = fun data =>
        Plane.assign ⟨0, 4 * (a * b)⟩ (row * (2 * a) + col) y0_0 data >>= fun data =>
        Plane.assign ⟨0, 4 * (a * b)⟩ (row * (2 * a) + col + 1) y0_1 data >>= fun data =>
        Plane.assign ⟨0, 4 * (a * b)⟩ ((row + 1) * (2 * a) + col) y1_0 data >>= fun data =>
        Plane.assign ⟨0, 4 * (a * b)⟩ ((row + 1) * (2 * a) + col + 1) y1_1 data >>= fun data =>
        Plane.assign ⟨4 * (a * b), a * b⟩ (row / 2 * a + col / 2) (average u0 u1) data >>=
        Plane.assign ⟨5 * (a * b), a * b⟩ (row / 2 * a + col / 2) (average v0 v1) := by
    funext data
    simp only [PixelConverter.yvyuBlock, hy0_0, hv0, hy0_1, hu0, hy1_0, hv1, hy1_1, hu1, hhalf]
    rfl
  rw [hblock]
  refine hwrites.congr ?_
  intro i hi
  simp only [InBlock, Nat.zero_add]

/-- Every byte of the output is in one of the blocks. -/
theorem exists_inBlock {i : Nat} (hi : i < 6 * (a * b)) :
    ∃ row ∈ stepBy2 (2 * b), ∃ col ∈ stepBy2 (2 * a), InBlock a b row col i := by
  have hfull := frame_area a b
  have ha : 0 < a := by
    apply Nat.pos_of_ne_zero
    rintro rfl
    omega
  simp only [mem_stepBy2]
  by_cases hy : i < 4 * (a * b)
  · have hrow : i / (2 * a) < 2 * b := by
      apply Nat.div_lt_of_lt_mul
      omega
    have hcol : i % (2 * a) < 2 * a := Nat.mod_lt _ (by omega)
    have hsplit : i = i / (2 * a) * (2 * a) + i % (2 * a) := (Nat.div_add_mod' _ _).symm
    generalize i / (2 * a) = r at *
    generalize i % (2 * a) = c at *
    have hround : ∀ n : Nat, 2 * (n / 2) = n ∨ 2 * (n / 2) + 1 = n := by omega
    refine ⟨2 * (r / 2), by omega, 2 * (c / 2), by omega, ?_⟩
    rcases hround r with hr | hr
    · rcases hround c with hc | hc
      · exact Or.inl (by rw [hr, hc]; exact hsplit)
      · exact Or.inr (Or.inl (by rw [hr, Nat.add_assoc, hc]; exact hsplit))
    · rcases hround c with hc | hc
      · exact Or.inr (Or.inr (Or.inl (by rw [hr, hc]; exact hsplit)))
      · exact Or.inr (Or.inr (Or.inr (Or.inl (by rw [hr, Nat.add_assoc, hc]; exact hsplit))))
  · have hcell : ∀ j < a * b, 2 * (j / a) / 2 * a + 2 * (j % a) / 2 = j ∧ 2 * (j / a) < 2 * b ∧
        2 * (j % a) < 2 * a := by
      intro j hj
      have hrow : j / a < b := Nat.div_lt_of_lt_mul hj
      have hcol : j % a < a := Nat.mod_lt _ ha
      refine ⟨?_, by omega, by omega⟩
      rw [Nat.mul_div_cancel_left _ (by decide), Nat.mul_div_cancel_left _ (by decide)]
      exact Nat.div_add_mod' _ _
    by_cases hu : i < 5 * (a * b)
    · obtain ⟨hj, hrow, hcol⟩ := hcell (i - 4 * (a * b)) (by omega)
      refine ⟨_, ⟨Nat.mul_mod_right 2 _, hrow⟩, _, ⟨Nat.mul_mod_right 2 _, hcol⟩, ?_⟩
      refine Or.inr (Or.inr (Or.inr (Or.inr (Or.inl ?_))))
      omega
    · obtain ⟨hj, hrow, hcol⟩ := hcell (i - 5 * (a * b)) (by omega)
      refine ⟨_, ⟨Nat.mul_mod_right 2 _, hrow⟩, _, ⟨Nat.mul_mod_right 2 _, hcol⟩, ?_⟩
      refine Or.inr (Or.inr (Or.inr (Or.inr (Or.inr ?_))))
      omega

theorem overwrites_yvyuLoop (hlength : 8 * (a * b) ≤ yvyu.length) :
    Overwrites (6 * (a * b)) (PixelConverter.yvyuLoop yvyu (2 * a) (2 * b) ⟨0, 4 * (a * b)⟩
      ⟨4 * (a * b), a * b⟩ ⟨5 * (a * b), a * b⟩) (fun _ => True) := by
  have hrows := Overwrites.foldlM (n := 6 * (a * b)) fun row hrow =>
    Overwrites.foldlM fun col hcol =>
      overwrites_yvyuBlock hlength (mem_stepBy2.1 hrow) (mem_stepBy2.1 hcol)
  refine hrows.congr ?_
  intro i hi
  exact ⟨fun _ => trivial, fun _ => exists_inBlock hi⟩

/-- The planes of a buffer of the right size. -/
theorem yuv420p_planes {data : List UInt8} (hdata : data.length = 6 * (a * b)) :
    splitAtMut data (4 * (a * b)) = .ok (data.take (4 * (a * b)), data.drop (4 * (a * b))) ∧
      splitAtMut (data.drop (4 * (a * b))) (a * b) =
        .ok ((data.drop (4 * (a * b))).take (a * b), data.drop (5 * (a * b))) ∧
      (data.drop (5 * (a * b))).length = a * b := by
  rw [splitAtMut, splitAtMut, if_pos (by omega), if_pos (by rw [List.length_drop]; omega),
    List.drop_drop, show 4 * (a * b) + a * b = 5 * (a * b) by omega, List.length_drop]
  exact ⟨rfl, rfl, by omega⟩

theorem convertYvyu_determined (hlength : 8 * (a * b) ≤ yvyu.length) :
    ∃ out : List UInt8, out.length = 6 * (a * b) ∧ ∀ data : List UInt8,
      data.length = 6 * (a * b) →
        PixelConverter.convertYvyuToYuv420pSw yvyu (2 * a) (2 * b) data = .ok out := by
  obtain ⟨out, hout, hloop⟩ := (overwrites_yvyuLoop hlength).determined (fun _ _ => trivial)
    (List.length_replicate (a := (0 : UInt8)))
  refine ⟨out, hout, ?_⟩
  intro data hdata
  obtain ⟨hsplit, hsplit', hv⟩ := yuv420p_planes hdata
  rw [PixelConverter.convertYvyuToYuv420pSw, ← hloop data hdata]
  simp only [ok_bind, frame_area, quarter_area, hsplit, hsplit', hv]
  rw [show 4 * (a * b) + a * b = 5 * (a * b) by omega]

/-- A conversion that succeeds has read the last byte of the frame. -/
theorem convertYvyu_bound (ha : 0 < a) (hb : 0 < b) {data out : List UInt8}
    (h : PixelConverter.convertYvyuToYuv420pSw yvyu (2 * a) (2 * b) data = .ok out) :
    8 * (a * b) ≤ yvyu.length ∧ 4 * (a * b) ≤ data.length := by
  have hfull := frame_area a b
  obtain ⟨planes, hplanes, h⟩ := bind_ok_iff.1 h
  obtain ⟨planes', hplanes', h⟩ := bind_ok_iff.1 h
  constructor
  · obtain ⟨t, t', hrow⟩ := foldlM_ok_mem h
      (mem_stepBy2.2 ⟨Nat.mul_mod_right 2 (b - 1), by omega⟩)
    obtain ⟨t, t', hcol⟩ := foldlM_ok_mem hrow
      (mem_stepBy2.2 ⟨Nat.mul_mod_right 2 (a - 1), by omega⟩)
    obtain ⟨y0_0, -, hcol⟩ := bind_ok_iff.1 hcol
    obtain ⟨v0, -, hcol⟩ := bind_ok_iff.1 hcol
    obtain ⟨y0_1, -, hcol⟩ := bind_ok_iff.1 hcol
    obtain ⟨u0, -, hcol⟩ := bind_ok_iff.1 hcol
    obtain ⟨y1_0, -, hcol⟩ := bind_ok_iff.1 hcol
    obtain ⟨v1, -, hcol⟩ := bind_ok_iff.1 hcol
    obtain ⟨y1_1, -, hcol⟩ := bind_ok_iff.1 hcol
    obtain ⟨u1, hu1, -⟩ := bind_ok_iff.1 hcol
    have hlast := index_bound hu1
    have hrows : (2 * (b - 1) + 1) * (2 * a) + 2 * a = 4 * (a * b) := by
      rw [← Nat.succ_mul, ← hfull, Nat.mul_comm]
      congr 1
      omega
    omega
  · rw [← hfull]
    apply Nat.le_of_not_lt
    intro hshort
    rw [splitAtMut, if_neg (Nat.not_le_of_lt hshort)] at hplanes
    cases hplanes

end Yvyu

/-! ## YVU420 -/

section Yvu420

variable {yvu420 : List UInt8} {a b : Nat}

theorem convertYvu420_determined (hsmall : 6 * (a * b) < 2 ^ 64)
    (hlength : yvu420.length = 6 * (a * b)) :
    ∃ out : List UInt8, out.length = 6 * (a * b) ∧ ∀ data : List UInt8,
      data.length = 6 * (a * b) →
        PixelConverter.convertYvu420ToYuv420pSw yvu420 (2 * a) (2 * b) data = .ok out := by
  obtain ⟨ySrc, hy⟩ : ∃ part, slice yvu420 0 (4 * (a * b)) = .ok part :=
    ⟨_, slice_ok (Nat.zero_le _) (by omega)⟩
  obtain ⟨vSrc, hv⟩ : ∃ part, slice yvu420 (4 * (a * b)) (5 * (a * b)) = .ok part :=
    ⟨_, slice_ok (by omega) (by omega)⟩
  obtain ⟨uSrc, hu⟩ : ∃ part, slice yvu420 (5 * (a * b)) yvu420.length = .ok part :=
    ⟨_, slice_ok (by omega) (Nat.le_refl _)⟩
  obtain ⟨hylen, -⟩ := slice_length hy
  obtain ⟨hvlen, -⟩ := slice_length hv
  obtain ⟨hulen, -⟩ := slice_length hu
  have hcopyY : Overwrites (6 * (a * b)) (Plane.copyFromSlice ⟨0, 4 * (a * b)⟩ ySrc) _ :=
    overwrites_copy (by show 0 + 4 * (a * b) ≤ _; omega) (by show _ = 4 * (a * b); omega)
  have hcopyU : Overwrites (6 * (a * b)) (Plane.copyFromSlice ⟨4 * (a * b), a * b⟩ uSrc) _ :=
    overwrites_copy (by show 4 * (a * b) + a * b ≤ _; omega) (by show _ = a * b; omega)
  have hcopyV : Overwrites (6 * (a * b)) (Plane.copyFromSlice ⟨5 * (a * b), a * b⟩ vSrc) _ :=
    overwrites_copy (by show 5 * (a * b) + a * b ≤ _; omega) (by show _ = a * b; omega)
  obtain ⟨out, hout, hcopies⟩ := (hcopyY.andThen (hcopyU.andThen hcopyV)).determined
    (by
      intro i hi
      show (0 ≤ i ∧ i < 0 + 4 * (a * b)) ∨ (4 * (a * b) ≤ i ∧ i < 4 * (a * b) + a * b) ∨
        (5 * (a * b) ≤ i ∧ i < 5 * (a * b) + a * b)
      omega)
    (List.length_replicate (a := (0 : UInt8)))
  refine ⟨out, hout, ?_⟩
  intro data hdata
  obtain ⟨hsplit, hsplit', hvPlane⟩ := yuv420p_planes hdata
  have hfive : usizeAdd (4 * (a * b)) (a * b) = 5 * (a * b) := by
    rw [usizeAdd, Nat.mod_eq_of_lt (by omega)]
    omega
  rw [PixelConverter.convertYvu420ToYuv420pSw, ← hcopies data hdata]
  simp only [ok_bind, frame_area, quarter_area, hsplit, hsplit', hfive, hy, hv, hu, hvPlane]
  rw [show 4 * (a * b) + a * b = 5 * (a * b) by omega]

/-- The conversion takes no other length. -/
theorem convertYvu420_bound {data out : List UInt8} (hdata : data.length < 2 ^ 63)
    (h : PixelConverter.convertYvu420ToYuv420pSw yvu420 (2 * a) (2 * b) data = .ok out) :
    yvu420.length = 6 * (a * b) ∧ 4 * (a * b) ≤ data.length := by
  have hfull := frame_area a b
  obtain ⟨planes, hplanes, h⟩ := bind_ok_iff.1 h
  have hsize : 4 * (a * b) ≤ data.length := by
    rw [← hfull]
    apply Nat.le_of_not_lt
    intro hshort
    rw [splitAtMut, if_neg (Nat.not_le_of_lt hshort)] at hplanes
    cases hplanes
  refine ⟨?_, hsize⟩
  have hfive : usizeAdd (4 * (a * b)) (a * b) = 5 * (a * b) := by
    rw [usizeAdd, Nat.mod_eq_of_lt (by omega)]
    omega
  simp only [frame_area, quarter_area, hfive] at h
  obtain ⟨planes', -, h⟩ := bind_ok_iff.1 h
  obtain ⟨ySrc, -, h⟩ := bind_ok_iff.1 h
  obtain ⟨data', -, h⟩ := bind_ok_iff.1 h
  obtain ⟨vSrc, hv, h⟩ := bind_ok_iff.1 h
  obtain ⟨uSrc, hu, h⟩ := bind_ok_iff.1 h
  obtain ⟨data'', hcopy, -⟩ := bind_ok_iff.1 h
  obtain ⟨-, hvin⟩ := slice_length hv
  obtain ⟨hulen, -⟩ := slice_length hu
  rw [Plane.copyFromSlice] at hcopy
  by_cases hsame : uSrc.length = a * b
  · omega
  · rw [if_neg hsame] at hcopy
    cases hcopy

end Yvu420

/-! ## Chroma row by row -/

section Rows

variable {a b row : Nat} {srcUv input : List UInt8}

theorem sub_ok {plane : Plane} {first size : Nat} (h : first + size ≤ plane.size) :
    plane.sub first size = .ok ⟨plane.start + first, size⟩ := if_pos h

/-- The bytes of a row of the chroma. -/
def InRow (a b row i : Nat) : Prop :=
  4 * (a * b) + row * (2 * a) ≤ i ∧ i < 4 * (a * b) + row * (2 * a) + 2 * a

theorem row_end (hrow : row < b) : row * (2 * a) + 2 * a ≤ 2 * (a * b) := by
  have h : (row + 1) * (2 * a) ≤ b * (2 * a) := Nat.mul_le_mul_right _ hrow
  have hall : b * (2 * a) = 2 * (a * b) := by
    rw [Nat.mul_left_comm, Nat.mul_comm b]
  rw [Nat.succ_mul, hall] at h
  exact h

theorem overwrites_nv16Row (hsrc : srcUv.length = 4 * (a * b)) (hrow : row < b) :
    Overwrites (6 * (a * b))
      (Nv12Converter.nv16Row srcUv (2 * a) ⟨4 * (a * b), 2 * (a * b)⟩ row) (InRow a b row) := by
  have hend := row_end (a := a) hrow
  have hrow0 : row * 2 * (2 * a) = 2 * (row * (2 * a)) := by
    rw [Nat.mul_assoc, Nat.mul_left_comm]
  have hrow1 : (row * 2 + 1) * (2 * a) = 2 * (row * (2 * a)) + 2 * a := by
    rw [Nat.succ_mul, hrow0]
  obtain ⟨src0, hsrc0⟩ : ∃ part,
      slice srcUv (row * 2 * (2 * a)) (row * 2 * (2 * a) + 2 * a) = .ok part :=
    ⟨_, slice_ok (by omega) (by omega)⟩
  obtain ⟨src1, hsrc1⟩ : ∃ part,
      slice srcUv ((row * 2 + 1) * (2 * a)) ((row * 2 + 1) * (2 * a) + 2 * a) = .ok part :=
    ⟨_, slice_ok (by omega) (by omega)⟩
  have hlen0 := (slice_length hsrc0).1
  have hlen1 := (slice_length hsrc1).1
  have hdst : Plane.sub ⟨4 * (a * b), 2 * (a * b)⟩ (row * (2 * a)) (2 * a) =
      .ok ⟨4 * (a * b) + row * (2 * a), 2 * a⟩ := sub_ok hend
  have hbyte : ∀ i ∈ List.range (2 * a), Overwrites (6 * (a * b))
      (Nv12Converter.nv16Byte src0 src1 ⟨4 * (a * b) + row * (2 * a), 2 * a⟩ i)
      (fun j => j = 4 * (a * b) + row * (2 * a) + i) := by
    intro i hi
    have hlt := List.mem_range.1 hi
    obtain ⟨x, hx⟩ : ∃ x, index src0 i = .ok x := index_ok (by omega)
    obtain ⟨y, hy⟩ : ∃ y, index src1 i = .ok y := index_ok (by omega)
    have hwrite : Nv12Converter.nv16Byte src0 src1 ⟨4 * (a * b) + row * (2 * a), 2 * a⟩ i =
        Plane.assign ⟨4 * (a * b) + row * (2 * a), 2 * a⟩ i (average x y) := by
      funext dst
      simp only [Nv12Converter.nv16Byte, hx, hy, ok_bind]
    rw [hwrite]
    exact overwrites_assign _ hlt
  have hbody : Nv12Converter.nv16Row srcUv (2 * a) ⟨4 * (a * b), 2 * (a * b)⟩ row = fun dst =>
      (List.range (2 * a)).foldlM (fun dst i =>
        Nv12Converter.nv16Byte src0 src1 ⟨4 * (a * b) + row * (2 * a), 2 * a⟩ i dst) dst := by
    funext dst
    simp only [Nv12Converter.nv16Row, hsrc0, hsrc1, hdst, ok_bind]
  rw [hbody]
  refine (Overwrites.foldlM hbyte).congr ?_
  intro j hj
  constructor
  · rintro ⟨i, hi, rfl⟩
    have hlt := List.mem_range.1 hi
    exact ⟨by omega, by omega⟩
  · rintro ⟨hfirst, hlast⟩
    exact ⟨j - (4 * (a * b) + row * (2 * a)), List.mem_range.2 (by omega), by omega⟩

theorem overwrites_nv24Row (hsrc : srcUv.length = 8 * (a * b)) (hrow : row < b) :
    Overwrites (6 * (a * b))
      (Nv12Converter.nv24Row srcUv (2 * a) ⟨4 * (a * b), 2 * (a * b)⟩ row) (InRow a b row) := by
  have hend := row_end (a := a) hrow
  have hrow0 : row * 2 * (2 * a) * 2 = 4 * (row * (2 * a)) := by
    rw [Nat.mul_right_comm row, Nat.mul_assoc, Nat.mul_comm]
  have hrow1 : (row * 2 + 1) * (2 * a) * 2 = 4 * (row * (2 * a)) + 4 * a := by
    rw [Nat.succ_mul, Nat.add_mul, hrow0]
    omega
  obtain ⟨src0, hsrc0⟩ : ∃ part,
      slice srcUv (row * 2 * (2 * a) * 2) (row * 2 * (2 * a) * 2 + 2 * a * 2) = .ok part :=
    ⟨_, slice_ok (by omega) (by omega)⟩
  obtain ⟨src1, hsrc1⟩ : ∃ part,
      slice srcUv ((row * 2 + 1) * (2 * a) * 2) ((row * 2 + 1) * (2 * a) * 2 + 2 * a * 2) =
        .ok part :=
    ⟨_, slice_ok (by omega) (by omega)⟩
  have hlen0 := (slice_length hsrc0).1
  have hlen1 := (slice_length hsrc1).1
  have hdst : Plane.sub ⟨4 * (a * b), 2 * (a * b)⟩ (row * (2 * a)) (2 * a) =
      .ok ⟨4 * (a * b) + row * (2 * a), 2 * a⟩ := sub_ok hend
  have hread : ∀ src : List UInt8, src.length = 4 * a → ∀ pair < a, ∀ k < 4,
      ∃ x, index src (pair * 4 + k) = .ok x := by
    intro src hlen pair hpair k hk
    exact index_ok (by omega)
  have hpair : ∀ pair ∈ List.range (2 * a / 2), Overwrites (6 * (a * b))
      (Nv12Converter.nv24Pair src0 src1 ⟨4 * (a * b) + row * (2 * a), 2 * a⟩ pair)
      (fun j => j = 4 * (a * b) + row * (2 * a) + pair * 2 ∨
        j = 4 * (a * b) + row * (2 * a) + (pair * 2 + 1)) := by
    intro pair hmem
    have hlt : pair < a := by
      have := List.mem_range.1 hmem
      omega
    obtain ⟨u0, hu0⟩ := hread src0 (by omega) pair hlt 0 (by decide)
    obtain ⟨u1, hu1⟩ := hread src0 (by omega) pair hlt 2 (by decide)
    obtain ⟨u2, hu2⟩ := hread src1 (by omega) pair hlt 0 (by decide)
    obtain ⟨u3, hu3⟩ := hread src1 (by omega) pair hlt 2 (by decide)
    obtain ⟨v0, hv0⟩ := hread src0 (by omega) pair hlt 1 (by decide)
    obtain ⟨v1, hv1⟩ := hread src0 (by omega) pair hlt 3 (by decide)
    obtain ⟨v2, hv2⟩ := hread src1 (by omega) pair hlt 1 (by decide)
    obtain ⟨v3, hv3⟩ := hread src1 (by omega) pair hlt 3 (by decide)
    rw [Nat.add_zero] at hu0 hu2
    have hwrites : Nv12Converter.nv24Pair src0 src1 ⟨4 * (a * b) + row * (2 * a), 2 * a⟩ pair =
        fun dst =>
          Plane.assign ⟨4 * (a * b) + row * (2 * a), 2 * a⟩ (pair * 2) (Nv12Converter.average4 u0 u1 u2 u3)
              dst >>=
            Plane.assign ⟨4 * (a * b) + row * (2 * a), 2 * a⟩ (pair * 2 + 1)
              (Nv12Converter.average4 v0 v1 v2 v3) := by
      funext dst
      simp only [Nv12Converter.nv24Pair, Nat.add_assoc, Nat.reduceAdd, hu0, hu1, hu2, hu3, hv0,
        hv1, hv2, hv3, ok_bind]
    rw [hwrites]
    exact (overwrites_assign _ (by show pair * 2 < 2 * a; omega)).andThen
      (overwrites_assign _ (by show pair * 2 + 1 < 2 * a; omega))
  have hbody : Nv12Converter.nv24Row srcUv (2 * a) ⟨4 * (a * b), 2 * (a * b)⟩ row = fun dst =>
      (List.range (2 * a / 2)).foldlM (fun dst pair =>
        Nv12Converter.nv24Pair src0 src1 ⟨4 * (a * b) + row * (2 * a), 2 * a⟩ pair dst) dst := by
    funext dst
    simp only [Nv12Converter.nv24Row, hsrc0, hsrc1, hdst, ok_bind]
  rw [hbody]
  refine (Overwrites.foldlM hpair).congr ?_
  intro j hj
  constructor
  · rintro ⟨pair, hmem, hplace⟩
    have hlt := List.mem_range.1 hmem
    rcases hplace with rfl | rfl <;> exact ⟨by omega, by omega⟩
  · rintro ⟨hfirst, hlast⟩
    exact ⟨(j - (4 * (a * b) + row * (2 * a))) / 2, List.mem_range.2 (by omega), by omega⟩

theorem convertRows_determined {name : String} {uvSize : Nat}
    {convertRow : List UInt8 → Nat → Plane → Nat → List UInt8 → Except Panic (List UInt8)}
    (hconvert : ∀ srcUv : List UInt8, srcUv.length = uvSize → ∀ row < b,
      Overwrites (6 * (a * b)) (convertRow srcUv (2 * a) ⟨4 * (a * b), 2 * (a * b)⟩ row)
        (InRow a b row))
    (hsmall : 4 * (a * b) + uvSize < 2 ^ 64) (hin : 4 * (a * b) + uvSize ≤ input.length) :
    ∃ out : List UInt8, out.length = 6 * (a * b) ∧ ∀ dst : List UInt8,
      dst.length = 6 * (a * b) →
        Nv12Converter.convertRows name uvSize convertRow (2 * a) (2 * b) input dst = .ok out := by
  have hsum : usizeAdd (4 * (a * b)) uvSize = 4 * (a * b) + uvSize := Nat.mod_eq_of_lt hsmall
  have hhalf : 4 * (a * b) / 2 = 2 * (a * b) := by omega
  have hrows : 2 * b / 2 = b := Nat.mul_div_cancel_left _ (by decide)
  obtain ⟨ySrc, hy⟩ : ∃ part, slice input 0 (4 * (a * b)) = .ok part :=
    ⟨_, slice_ok (Nat.zero_le _) (by omega)⟩
  obtain ⟨srcUv, huv⟩ : ∃ part, slice input (4 * (a * b)) (4 * (a * b) + uvSize) = .ok part :=
    ⟨_, slice_ok (by omega) (by omega)⟩
  have hylen := (slice_length hy).1
  have huvlen := (slice_length huv).1
  have hcopy : Overwrites (6 * (a * b)) (Plane.copyFromSlice ⟨0, 4 * (a * b)⟩ ySrc) _ :=
    overwrites_copy (by show 0 + 4 * (a * b) ≤ _; omega) (by show _ = 4 * (a * b); omega)
  have hloop := Overwrites.foldlM fun row (hrow : row ∈ List.range b) =>
    hconvert srcUv (by omega) row (List.mem_range.1 hrow)
  obtain ⟨out, hout, hwrites⟩ := (hcopy.andThen hloop).determined
    (by
      intro i hi
      by_cases hluma : i < 4 * (a * b)
      · exact Or.inl ⟨Nat.zero_le _, by show i < 0 + 4 * (a * b); omega⟩
      · right
        have ha : 0 < 2 * a := by
          apply Nat.pos_of_ne_zero
          intro h
          have : a = 0 := by omega
          subst this
          omega
        have hsplit := Nat.div_add_mod' (i - 4 * (a * b)) (2 * a)
        have hmod := Nat.mod_lt (i - 4 * (a * b)) ha
        have hdiv : (i - 4 * (a * b)) / (2 * a) < b := by
          apply Nat.div_lt_of_lt_mul
          rw [Nat.mul_assoc]
          omega
        exact ⟨_, List.mem_range.2 hdiv, by omega, by omega⟩)
    (List.length_replicate (a := (0 : UInt8)))
  refine ⟨out, hout, ?_⟩
  intro dst hdst
  have hyPlane : Plane.sub ⟨0, dst.length⟩ 0 (4 * (a * b)) = .ok ⟨0, 4 * (a * b)⟩ :=
    sub_ok (by show 0 + 4 * (a * b) ≤ dst.length; omega)
  have huvPlane : Plane.sub ⟨0, dst.length⟩ (4 * (a * b)) (2 * (a * b)) =
      .ok ⟨4 * (a * b), 2 * (a * b)⟩ := by
    rw [sub_ok (by show 4 * (a * b) + 2 * (a * b) ≤ dst.length; omega)]
    simp only [Nat.zero_add]
  rw [Nv12Converter.convertRows]
  simp only [frame_area, hsum, hhalf, hrows]
  rw [if_neg (by omega)]
  simp only [hyPlane, hy, huv, huvPlane, ok_bind]
  exact congrArg panics (hwrites dst hdst)

/-- On a buffer that is too small for the frame, an input that is taken for large enough ends in
a panic. -/
theorem convertRows_overflow {name : String} {uvSize width height : Nat}
    {convertRow : List UInt8 → Nat → Plane → Nat → List UInt8 → Except Panic (List UInt8)}
    {dst : List UInt8} (hdst : dst.length < width * height)
    (hin : usizeAdd (width * height) uvSize ≤ input.length) :
    Nv12Converter.convertRows name uvSize convertRow width height input dst = .error .panic := by
  have hsub : Plane.sub ⟨0, dst.length⟩ 0 (width * height) = .error .outOfBounds :=
    if_neg (by show ¬0 + width * height ≤ dst.length; omega)
  rw [Nv12Converter.convertRows]
  simp only [hsub]
  rw [if_neg (by omega)]
  rfl

end Rows

/-! ## Chroma split into planes -/

section Semiplanar

variable {lib : Libyuv.Library} {name : String} {kernel : Libyuv.PlanarKernel}
  {uvSize chromaPlaneSize uvStride chromaWidth a b : Nat} {input : List UInt8}

theorem splitUvPlane_determined (lib : Libyuv.Library) (uvStride : Nat) (srcUv : List UInt8)
    (hb : 0 < b) (hwidth : 0 < chromaWidth)
    (hchroma : chromaWidth * (2 * b) = chromaPlaneSize)
    (hsrc : uvStride * (2 * b) ≤ srcUv.length) :
    ∃ u v : List UInt8, u.length = chromaPlaneSize ∧ v.length = chromaPlaneSize ∧
      ∀ dstU dstV : List UInt8, dstU.length = chromaPlaneSize → dstV.length = chromaPlaneSize →
        Libyuv.splitUvPlane lib chromaWidth (2 * b) srcUv uvStride dstU dstV = .ok (u, v) := by
  obtain ⟨hu, hv⟩ := lib.splitUVPlane_length uvStride chromaWidth (2 * b) srcUv
  refine ⟨(lib.splitUVPlane uvStride chromaWidth (2 * b) srcUv).1,
    (lib.splitUVPlane uvStride chromaWidth (2 * b) srcUv).2, by omega, by omega, ?_⟩
  intro dstU dstV hdstU hdstV
  rw [Libyuv.splitUvPlane, if_neg (by omega), if_neg (by omega)]
  simp only [List.drop_eq_nil_of_le (show dstU.length ≤ chromaWidth * (2 * b) by omega),
    List.drop_eq_nil_of_le (show dstV.length ≤ chromaWidth * (2 * b) by omega), List.append_nil]

theorem planarToI420_determined (lib : Libyuv.Library) (kernel : Libyuv.PlanarKernel)
    (a b : Nat) (srcY u v : List UInt8) :
    ∃ out : List UInt8, out.length = 6 * (a * b) ∧ ∀ dst : List UInt8,
      dst.length = 6 * (a * b) →
        Libyuv.planarToI420 lib dst (2 * a) (2 * b) kernel srcY u v = .ok out := by
  have hsize : Libyuv.i420Size (2 * a) (2 * b) = 6 * (a * b) := by
    rw [Libyuv.i420Size, frame_area, Nat.mul_div_cancel_left _ (by decide),
      Nat.mul_div_cancel_left _ (by decide)]
    omega
  have hlength := lib.planar_length kernel (2 * a) (2 * b) srcY u v
  refine ⟨lib.planar kernel (2 * a) (2 * b) srcY u v, by omega, ?_⟩
  intro dst hdst
  rw [Libyuv.planarToI420, if_neg (by omega), if_neg (by omega), hsize,
    List.drop_eq_nil_of_le (by omega), List.append_nil]

theorem convertSemiplanar_determined (hb : 0 < b) (hwidth : 0 < chromaWidth)
    (hchroma : chromaWidth * (2 * b) = chromaPlaneSize) (hplane : chromaPlaneSize ≤ 4 * (a * b))
    (hstride : uvStride * (2 * b) ≤ uvSize) (hsmall : 4 * (a * b) + uvSize < 2 ^ 64)
    (hin : 4 * (a * b) + uvSize ≤ input.length) :
    ∃ out : List UInt8, out.length = 6 * (a * b) ∧ ∀ c : PixelConverter,
      c.resolution.width.toNat = 2 * a → c.resolution.height.toNat = 2 * b →
      c.outputBuffer.length = 6 * (a * b) → c.uvSplitBuffer.length = 8 * (a * b) →
        ∃ split : List UInt8, split.length = 8 * (a * b) ∧
          PixelConverter.convertSemiplanar lib name kernel uvSize chromaPlaneSize uvStride
            chromaWidth input c = .ok (out, split) := by
  have hsum : usizeAdd (4 * (a * b)) uvSize = 4 * (a * b) + uvSize := Nat.mod_eq_of_lt hsmall
  obtain ⟨srcUv, huv⟩ : ∃ part, slice input (4 * (a * b)) (4 * (a * b) + uvSize) = .ok part :=
    ⟨_, slice_ok (by omega) (by omega)⟩
  obtain ⟨ySrc, hy⟩ : ∃ part, slice input 0 (4 * (a * b)) = .ok part :=
    ⟨_, slice_ok (Nat.zero_le _) (by omega)⟩
  have huvlen := (slice_length huv).1
  obtain ⟨u, v, hulen, hvlen, hsplit⟩ := splitUvPlane_determined lib uvStride srcUv hb hwidth
    hchroma (by omega)
  obtain ⟨out, hout, hplanar⟩ := planarToI420_determined lib kernel a b ySrc u v
  refine ⟨out, hout, ?_⟩
  intro c hw hh houtput hscratch
  obtain ⟨uPlane, rest, hfirst, huPlane, hrest⟩ : ∃ uPlane rest,
      splitAtMut c.uvSplitBuffer chromaPlaneSize = .ok (uPlane, rest) ∧
        uPlane.length = chromaPlaneSize ∧ rest.length = 8 * (a * b) - chromaPlaneSize := by
    refine ⟨_, _, if_pos (by omega), ?_, ?_⟩
    · rw [List.length_take]
      omega
    · rw [List.length_drop]
      omega
  obtain ⟨vPlane, unused, hsecond, hvPlane, hunused⟩ : ∃ vPlane unused,
      splitAtMut rest chromaPlaneSize = .ok (vPlane, unused) ∧
        vPlane.length = chromaPlaneSize ∧ unused.length = rest.length - chromaPlaneSize := by
    refine ⟨_, _, if_pos (by omega), ?_, ?_⟩
    · rw [List.length_take]
      omega
    · rw [List.length_drop]
  refine ⟨u ++ v ++ unused, ?_, ?_⟩
  · simp only [List.length_append]
    omega
  · rw [PixelConverter.convertSemiplanar]
    simp only [hw, hh, frame_area, hsum]
    rw [if_neg (by omega)]
    simp only [huv, hy, hfirst, hsecond, hsplit uPlane vPlane huPlane hvPlane,
      hplanar _ houtput, panics, failing, Except.mapError, ok_bind]

/-- On a split buffer that is too small, an input that is taken for large enough ends in a
panic. -/
theorem convertSemiplanar_overflow {c : PixelConverter}
    (hscratch : c.uvSplitBuffer.length < 2 * chromaPlaneSize)
    (hin : usizeAdd (c.resolution.width.toNat * c.resolution.height.toNat) uvSize ≤
      input.length) :
    PixelConverter.convertSemiplanar lib name kernel uvSize chromaPlaneSize uvStride
      chromaWidth input c = .error .panic := by
  rw [PixelConverter.convertSemiplanar]
  simp only []
  rw [if_neg (by omega)]
  cases huv : slice input (c.resolution.width.toNat * c.resolution.height.toNat)
      (usizeAdd (c.resolution.width.toNat * c.resolution.height.toNat) uvSize) with
  | error e => rfl
  | ok srcUv =>
    by_cases hfirst : chromaPlaneSize ≤ c.uvSplitBuffer.length
    · have hsecond : ¬chromaPlaneSize ≤ (c.uvSplitBuffer.drop chromaPlaneSize).length := by
        rw [List.length_drop]
        omega
      simp only [splitAtMut, if_pos hfirst, panics, Except.mapError, ok_bind, if_neg hsecond]
      rfl
    · simp only [splitAtMut, if_neg hfirst, panics, Except.mapError, ok_bind]
      rfl

end Semiplanar

end StreamBox.Video.Convert
