import Mathlib.Data.List.Basic

/-!
# Programs that overwrite a buffer

A program on buffers of one size overwrites a set of places if it always succeeds, puts values
there that do not depend on the buffer, and leaves the rest alone. Programs in sequence overwrite
the places of both, and a program that overwrites every place has one result.
-/

namespace StreamBox.Lib

universe u

variable {ε α ι : Type*} {n : Nat}

/-- On buffers of size `n`, `step` succeeds and overwrites just the places of `places`. -/
def Overwrites (n : Nat) (step : List α → Except ε (List α)) (places : Nat → Prop) : Prop :=
  ∃ value : Nat → Option α, ∀ buffer : List α, buffer.length = n →
    ∃ result, step buffer = .ok result ∧ result.length = n ∧
      ∀ i < n, (places i → result[i]? = value i) ∧ (¬places i → result[i]? = buffer[i]?)

theorem Overwrites.none : Overwrites n (fun buffer : List α => (.ok buffer : Except ε _))
    (fun _ => False) := by
  refine ⟨fun _ => .none, ?_⟩
  intro buffer hlength
  refine ⟨buffer, rfl, hlength, ?_⟩
  intro i hi
  exact ⟨fun h => h.elim, fun _ => rfl⟩

theorem Overwrites.andThen {first second : List α → Except ε (List α)} {p q : Nat → Prop}
    (hfirst : Overwrites n first p) (hsecond : Overwrites n second q) :
    Overwrites n (fun buffer => first buffer >>= second) (fun i => p i ∨ q i) := by
  classical
  obtain ⟨v, hv⟩ := hfirst
  obtain ⟨w, hw⟩ := hsecond
  refine ⟨fun i => if q i then w i else v i, ?_⟩
  intro buffer hlength
  obtain ⟨middle, hmiddle, hsize, hvalues⟩ := hv buffer hlength
  obtain ⟨result, hresult, hsize', hvalues'⟩ := hw middle hsize
  refine ⟨result, ?_, hsize', ?_⟩
  · simp only [hmiddle]
    exact hresult
  · intro i hi
    obtain ⟨hin, hout⟩ := hvalues i hi
    obtain ⟨hin', hout'⟩ := hvalues' i hi
    by_cases hq : q i
    · refine ⟨fun _ => ?_, fun h => absurd (Or.inr hq) h⟩
      rw [hin' hq]
      exact (if_pos hq).symm
    · refine ⟨fun h => ?_, fun h => ?_⟩
      · rw [hout' hq, hin (h.resolve_right hq)]
        exact (if_neg hq).symm
      · rw [hout' hq, hout fun hp => h (Or.inl hp)]

theorem Overwrites.congr {step : List α → Except ε (List α)} {p q : Nat → Prop}
    (h : Overwrites n step p) (hsame : ∀ i < n, p i ↔ q i) : Overwrites n step q := by
  obtain ⟨v, hv⟩ := h
  refine ⟨v, ?_⟩
  intro buffer hlength
  obtain ⟨result, hresult, hsize, hvalues⟩ := hv buffer hlength
  refine ⟨result, hresult, hsize, ?_⟩
  intro i hi
  rw [← hsame i hi]
  exact hvalues i hi

/-- A loop overwrites what its rounds overwrite. -/
theorem Overwrites.foldlM {body : ι → List α → Except ε (List α)} {places : ι → Nat → Prop}
    {xs : List ι} (h : ∀ x ∈ xs, Overwrites n (body x) (places x)) :
    Overwrites n (fun buffer => xs.foldlM (fun buffer x => body x buffer) buffer)
      (fun i => ∃ x ∈ xs, places x i) := by
  induction xs with
  | nil =>
    refine Overwrites.none.congr ?_
    intro i hi
    simp
  | cons x rest ih =>
    have hx := h x List.mem_cons_self
    have hrest := ih fun y hy => h y (List.mem_cons_of_mem x hy)
    have hboth := hx.andThen hrest
    refine Overwrites.congr ?_ (p := fun i => places x i ∨ ∃ y ∈ rest, places y i) ?_
    · simp only [List.foldlM_cons]
      exact hboth
    · intro i hi
      simp [List.mem_cons]

/-- Where every place is overwritten, the result is always the same. -/
theorem Overwrites.determined {step : List α → Except ε (List α)} {places : Nat → Prop}
    (h : Overwrites n step places) (hall : ∀ i < n, places i) {start : List α}
    (hstart : start.length = n) :
    ∃ result : List α, result.length = n ∧
      ∀ buffer : List α, buffer.length = n → step buffer = .ok result := by
  obtain ⟨v, hv⟩ := h
  obtain ⟨result, hresult, hsize, hvalues⟩ := hv start hstart
  refine ⟨result, hsize, ?_⟩
  intro buffer hlength
  obtain ⟨result', hresult', hsize', hvalues'⟩ := hv buffer hlength
  rw [hresult']
  congr 1
  apply List.ext_getElem?
  intro i
  by_cases hi : i < n
  · rw [(hvalues i hi).1 (hall i hi), (hvalues' i hi).1 (hall i hi)]
  · rw [List.getElem?_eq_none (by omega), List.getElem?_eq_none (by omega)]

theorem ok_bind {β γ : Type u} (b : β) (f : β → Except ε γ) :
    ((.ok b : Except ε β) >>= f) = f b :=
  rfl

/-- A composition succeeds by way of a value of its first part. -/
theorem bind_ok_iff {β : Type*} {x : Except ε α} {f : α → Except ε β} {b : β} :
    x.bind f = .ok b ↔ ∃ a, x = .ok a ∧ f a = .ok b := by
  cases x with
  | error e =>
    constructor
    · intro h
      cases h
    · rintro ⟨a, h, -⟩
      cases h
  | ok a =>
    constructor
    · intro h
      exact ⟨a, rfl, h⟩
    · rintro ⟨a', h, hf⟩
      cases h
      exact hf

/-- A loop that succeeds has gone through each of its rounds. -/
theorem foldlM_ok_mem {σ : Type*} {body : σ → ι → Except ε σ} {xs : List ι} {s result : σ}
    (h : xs.foldlM body s = .ok result) {x : ι} (hx : x ∈ xs) :
    ∃ t t', body t x = .ok t' := by
  induction xs generalizing s with
  | nil => cases hx
  | cons y rest ih =>
    rw [List.foldlM_cons] at h
    cases hy : body s y with
    | error e =>
      rw [hy] at h
      cases h
    | ok t =>
      rw [hy] at h
      rcases List.mem_cons.1 hx with rfl | hrest
      · exact ⟨s, t, hy⟩
      · exact ih h hrest

end StreamBox.Lib
