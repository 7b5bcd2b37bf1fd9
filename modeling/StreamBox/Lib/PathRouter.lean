import Mathlib.Data.List.Basic
import Mathlib.Data.List.Infix

/-!
# Path routing by segments

A route pattern is a list of segments: a literal, a parameter (one non-empty
segment) or a trailing wildcard (the non-empty rest of the path). `lookup` is
the priority search of a radix-tree router: at each segment the literal
branches are tried first, then the parameters, then the wildcards, with
backtracking.

* **soundness** — a route the search returns has a pattern that matches the
  path (`lookup_sound`);
* **completeness** — when some pattern matches, the search returns a route
  (`lookup_complete`);
* **suffixes** — a slash-free suffix of the path is a suffix of its last
  segment (`suffix_last_seg`), so a pattern that ends in a literal fixes every
  such suffix (`Pattern.last_lit_of_matches`);
* **prefixes** — the leading literals of a matching pattern are the first
  segments of the path (`Pattern.litPrefix_of_matches`).
-/

namespace StreamBox.Lib

/-- One segment of a route pattern. -/
inductive Seg
  | lit (s : String)
  | param (name : String)
  | wild (name : String)
  deriving DecidableEq, Repr

abbrev Pattern := List Seg

/-- The segments of an absolute path. -/
def pathSegs : List Char → Option (List (List Char))
  | '/' :: rest => some (rest.splitOn '/')
  | _ => none

/-- Whether the pattern matches the segments. -/
def Pattern.matches : Pattern → List (List Char) → Bool
  | [], [] => true
  | [.wild _], x :: xs => !(x.isEmpty && xs.isEmpty)
  | .lit s :: ps, x :: xs => s.toList == x && Pattern.matches ps xs
  | .param _ :: ps, x :: xs => !x.isEmpty && Pattern.matches ps xs
  | _, _ => false

/-- The last segment is a literal. -/
def Pattern.lastLit? (p : Pattern) : Option String :=
  match p.getLast? with
  | some (.lit s) => some s
  | _ => none

/-- The literals before the first parameter or wildcard. -/
def Pattern.litPrefix : Pattern → List String
  | .lit s :: ps => s :: Pattern.litPrefix ps
  | _ => []

/-- The segments a pattern matches start with its leading literals. -/
theorem Pattern.litPrefix_of_matches {p : Pattern} {segs : List (List Char)}
    (hm : Pattern.matches p segs = true) : p.litPrefix.map String.toList <+: segs := by
  induction p generalizing segs with
  | nil => exact List.nil_prefix
  | cons a ps ih =>
    cases a with
    | param n => exact List.nil_prefix
    | wild n => exact List.nil_prefix
    | lit s =>
      cases segs with
      | nil => simp [Pattern.matches] at hm
      | cons x xs =>
        have hx : s.toList = x ∧ Pattern.matches ps xs = true := by
          cases ps <;> simpa [Pattern.matches] using hm
        simp only [litPrefix, List.map_cons, hx.1, List.cons_prefix_cons, true_and]
        exact ih hx.2

section Lookup

variable {ρ : Type*}

/-- Descend into the literal branch of segment `x`. -/
def stepLit (x : List Char) : Pattern × ρ → Option (Pattern × ρ)
  | (.lit s :: ps, r) => if s.toList = x then some (ps, r) else none
  | _ => none

/-- Descend into the parameter branch. -/
def stepParam : Pattern × ρ → Option (Pattern × ρ)
  | (.param _ :: ps, r) => some (ps, r)
  | _ => none

/-- The route is a wildcard for the rest of the path. -/
def isWild : Pattern × ρ → Bool
  | ([.wild _], _) => true
  | _ => false

/-- The priority search: literals before parameters before wildcards. -/
def lookup : List (Pattern × ρ) → List (List Char) → Option ρ
  | rs, [] => (rs.find? fun r => r.1.isEmpty).map (·.2)
  | rs, x :: xs =>
      (lookup (rs.filterMap (stepLit x)) xs).or
        ((if x.isEmpty then none else lookup (rs.filterMap stepParam) xs).or
          (if x.isEmpty && xs.isEmpty then none else (rs.find? isWild).map (·.2)))

theorem stepLit_eq_some {x : List Char} {r : Pattern × ρ} {p : Pattern} {a : ρ}
    (h : stepLit x r = some (p, a)) : ∃ s : String, s.toList = x ∧ r = (.lit s :: p, a) := by
  unfold stepLit at h
  split at h
  · split at h
    · rename_i s ps r' hs
      simp only [Option.some.injEq, Prod.mk.injEq] at h
      exact ⟨s, hs, by rw [h.1, h.2]⟩
    · cases h
  · cases h

theorem stepParam_eq_some {r : Pattern × ρ} {p : Pattern} {a : ρ}
    (h : stepParam r = some (p, a)) : ∃ n : String, r = (.param n :: p, a) := by
  unfold stepParam at h
  split at h
  · rename_i n ps r'
    simp only [Option.some.injEq, Prod.mk.injEq] at h
    exact ⟨n, by rw [h.1, h.2]⟩
  · cases h

theorem isWild_eq_true {r : Pattern × ρ} (h : isWild r = true) :
    ∃ n : String, r.1 = [.wild n] := by
  unfold isWild at h
  split at h
  · exact ⟨_, rfl⟩
  · cases h

/-- A route the search returns has a pattern that matches. -/
theorem lookup_sound {rs : List (Pattern × ρ)} {segs : List (List Char)} {a : ρ}
    (h : lookup rs segs = some a) : ∃ p, (p, a) ∈ rs ∧ Pattern.matches p segs = true := by
  induction segs generalizing rs with
  | nil =>
    simp only [lookup, Option.map_eq_some_iff] at h
    obtain ⟨⟨p, b⟩, hfind, rfl⟩ := h
    have hp := List.find?_some hfind
    have hmem := List.mem_of_find?_eq_some hfind
    simp only [List.isEmpty_iff] at hp
    subst hp
    exact ⟨[], hmem, rfl⟩
  | cons x xs ih =>
    simp only [lookup, Option.or_eq_some_iff] at h
    rcases h with hlit | ⟨-, hparam | ⟨-, hwild⟩⟩
    · obtain ⟨p, hp, hm⟩ := ih hlit
      obtain ⟨r, hr, hstep⟩ := List.mem_filterMap.mp hp
      obtain ⟨s, hs, rfl⟩ := stepLit_eq_some hstep
      refine ⟨.lit s :: p, hr, ?_⟩
      cases p <;> simp [Pattern.matches, hs, hm]
    · split at hparam
      · cases hparam
      · rename_i hx
        obtain ⟨p, hp, hm⟩ := ih hparam
        obtain ⟨r, hr, hstep⟩ := List.mem_filterMap.mp hp
        obtain ⟨n, rfl⟩ := stepParam_eq_some hstep
        refine ⟨.param n :: p, hr, ?_⟩
        cases p <;> simp [Pattern.matches, hm] <;> simpa using hx
    · split at hwild
      · cases hwild
      · rename_i hx
        simp only [Option.map_eq_some_iff] at hwild
        obtain ⟨⟨p, b⟩, hfind, rfl⟩ := hwild
        obtain ⟨n, hn⟩ := isWild_eq_true (List.find?_some hfind)
        simp only at hn
        subst hn
        refine ⟨_, List.mem_of_find?_eq_some hfind, ?_⟩
        rw [Bool.not_eq_true] at hx
        simp only [Pattern.matches, hx, Bool.not_false]

/-- When some pattern matches, the search returns a route. -/
theorem lookup_complete {rs : List (Pattern × ρ)} {segs : List (List Char)} {p : Pattern}
    {a : ρ} (hmem : (p, a) ∈ rs) (hm : Pattern.matches p segs = true) :
    ∃ b, lookup rs segs = some b := by
  rw [← Option.isSome_iff_exists]
  induction segs generalizing rs p with
  | nil =>
    have hp : p = [] := by
      cases p with
      | nil => rfl
      | cons s ps => cases s <;> cases ps <;> simp [Pattern.matches] at hm
    subst hp
    simp only [lookup, Option.isSome_map, List.find?_isSome]
    exact ⟨([], a), hmem, rfl⟩
  | cons x xs ih =>
    simp only [lookup, Option.isSome_or, Bool.or_eq_true]
    match p, hmem, hm with
    | .lit s :: ps, hmem, hm =>
      have hs : s.toList = x ∧ Pattern.matches ps xs = true := by
        cases ps <;> simpa [Pattern.matches] using hm
      refine .inl (ih (p := ps) (List.mem_filterMap.mpr ⟨_, hmem, ?_⟩) hs.2)
      simp [stepLit, hs.1]
    | .param n :: ps, hmem, hm =>
      have hx : x.isEmpty = false ∧ Pattern.matches ps xs = true := by
        cases ps <;> simpa [Pattern.matches] using hm
      refine .inr (.inl ?_)
      rw [hx.1]
      exact ih (p := ps) (List.mem_filterMap.mpr ⟨_, hmem, rfl⟩) hx.2
    | [.wild n], hmem, hm =>
      refine .inr (.inr ?_)
      simp only [Pattern.matches, Bool.not_eq_true'] at hm
      rw [hm]
      simp only [Bool.false_eq_true, ite_false, Option.isSome_map, List.find?_isSome]
      exact ⟨_, hmem, rfl⟩

end Lookup

/-! ## Suffixes and the last segment -/

/-- The list is its last segment, after nothing or after a separator. -/
theorem splitOn_last_decomp (c : Char) (l : List Char) :
    ∃ pre last, l = pre ++ last ∧ c ∉ last ∧ (pre = [] ∨ ∃ q, pre = q ++ [c]) ∧
      (l.splitOn c).getLast? = some last := by
  induction l with
  | nil => exact ⟨[], [], rfl, by simp, .inl rfl, by simp⟩
  | cons x xs ih =>
    obtain ⟨pre, last, hxs, hc, hpre, hlast⟩ := ih
    rw [List.splitOn_cons_eq_if_modifyHead]
    by_cases hx : x = c
    · subst hx
      refine ⟨x :: pre, last, by simp [hxs], hc, .inr ?_, ?_⟩
      · rcases hpre with rfl | ⟨q, rfl⟩
        · exact ⟨[], rfl⟩
        · exact ⟨x :: q, rfl⟩
      · simpa [List.getLast?_cons, List.splitOn_ne_nil] using
          (by rw [hlast]; rfl : ((xs.splitOn x).getLast?).getD [] = last)
    · have hne : (x == c) = false := by simpa using hx
      rw [hne]
      simp only [Bool.false_eq_true, ite_false]
      rcases hpre with rfl | ⟨q, rfl⟩
      · -- no separator so far: the whole list is one segment
        have hs : xs.splitOn c = [xs] := List.splitOn_eq_singleton (by simpa [hxs] using hc)
        refine ⟨[], x :: last, by simp [hxs], ?_, .inl rfl, ?_⟩
        · simp only [List.mem_cons, not_or]; exact ⟨fun h => hx h.symm, hc⟩
        · rw [hs]; simp [hxs]
      · refine ⟨x :: (q ++ [c]), last, by simp [hxs], hc, .inr ⟨x :: q, rfl⟩, ?_⟩
        have hs : xs.splitOn c = q.splitOn c ++ last.splitOn c := by
          rw [hxs, List.append_assoc, List.singleton_append, List.splitOn_append_cons_self]
        have hl : last.splitOn c = [last] := List.splitOn_eq_singleton hc
        rw [hs, hl]
        cases hq : q.splitOn c with
        | nil => exact absurd hq (List.splitOn_ne_nil c q)
        | cons y ys =>
          show (((x :: y) :: ys) ++ [last]).getLast? = some last
          simp only [List.getLast?_concat]

/-- A slash-free suffix of the path is a suffix of its last segment. -/
theorem suffix_last_seg {path suf : List Char} {segs : List (List Char)}
    (hsegs : pathSegs path = some segs) (hsuf : suf <:+ path) (hslash : '/' ∉ suf) :
    ∃ last, segs.getLast? = some last ∧ suf <:+ last := by
  unfold pathSegs at hsegs
  split at hsegs
  · rename_i rest
    simp only [Option.some.injEq] at hsegs
    subst hsegs
    obtain ⟨pre, last, hrest, -, hpre, hlast⟩ := splitOn_last_decomp '/' rest
    refine ⟨last, hlast, ?_⟩
    have hpath : '/' :: last <:+ '/' :: rest := by
      rcases hpre with rfl | ⟨q, rfl⟩
      · simp [hrest]
      · exact ⟨'/' :: q, by simp [hrest]⟩
    rcases List.suffix_or_suffix_of_suffix hsuf hpath with h | h
    · rcases List.suffix_cons_iff.mp h with rfl | h
      · exact absurd List.mem_cons_self hslash
      · exact h
    · exact absurd (h.subset List.mem_cons_self) hslash
  · cases hsegs

/-! ## Prefixes and the first segment -/

/-- The list is its first segment, alone or before a separator. -/
theorem splitOn_first_decomp (c : Char) (l : List Char) :
    (c ∉ l ∧ l.splitOn c = [l]) ∨
      ∃ first t, c ∉ first ∧ l = first ++ c :: t ∧ l.splitOn c = first :: t.splitOn c := by
  by_cases hc : c ∈ l
  · obtain ⟨first, t, hl, hfirst⟩ := List.eq_append_cons_of_mem hc
    exact .inr ⟨first, t, hfirst, hl,
      by rw [hl, List.splitOn_append_cons_self_of_not_mem hfirst]⟩
  · exact .inl ⟨hc, List.splitOn_eq_singleton hc⟩

/-- The first of several segments, and the path below it. -/
theorem pathSegs_cons_cons {path a b : List Char} {segs : List (List Char)}
    (h : pathSegs path = some (a :: b :: segs)) :
    ∃ t, path = '/' :: (a ++ '/' :: t) ∧ pathSegs ('/' :: t) = some (b :: segs) := by
  unfold pathSegs at h
  split at h
  · rename_i rest
    simp only [Option.some.injEq] at h
    rcases splitOn_first_decomp '/' rest with ⟨-, hs⟩ | ⟨first, t, -, hrest, hs⟩
    · rw [hs] at h; simp at h
    · rw [hs, List.cons.injEq] at h
      exact ⟨t, by rw [hrest, h.1], by rw [pathSegs, h.2]⟩
  · cases h

/-- A slash-free prefix below the root is a prefix of the first segment. -/
theorem prefix_first_seg {pre t a : List Char} {segs : List (List Char)}
    (hsegs : pathSegs ('/' :: t) = some (a :: segs)) (hpre : pre <+: t) (hslash : '/' ∉ pre) :
    pre <+: a := by
  simp only [pathSegs, Option.some.injEq] at hsegs
  rcases splitOn_first_decomp '/' t with ⟨-, hs⟩ | ⟨first, u, -, ht, hs⟩
  · rw [hs, List.cons.injEq] at hsegs
    rw [← hsegs.1]; exact hpre
  · rw [hs, List.cons.injEq] at hsegs
    rw [← hsegs.1]
    have hfirst : first ++ ['/'] <+: t := ⟨u, by simp [ht]⟩
    rcases List.prefix_or_prefix_of_prefix hpre hfirst with h | h
    · rcases List.prefix_concat_iff.mp h with h | h
      · exact absurd (by simp [h]) hslash
      · exact h
    · exact absurd (h.subset (by simp)) hslash

/-- A pattern that ends in a literal matches only paths that end in it. -/
theorem Pattern.last_lit_of_matches {p : Pattern} {segs : List (List Char)} {s : String}
    (hm : Pattern.matches p segs = true) (hl : p.lastLit? = some s) :
    segs.getLast? = some s.toList := by
  induction segs generalizing p with
  | nil =>
    cases p with
    | nil => simp [lastLit?] at hl
    | cons a ps => cases a <;> cases ps <;> simp [Pattern.matches] at hm
  | cons x xs ih =>
    match p, hm, hl with
    | [.lit t], hm, hl =>
      have ht : t = s := by simpa [lastLit?] using hl
      have hx : t.toList = x ∧ Pattern.matches [] xs = true := by
        simpa [Pattern.matches] using hm
      have hxs : xs = [] := by
        cases xs with
        | nil => rfl
        | cons y ys => simp [Pattern.matches] at hx
      rw [hxs, ← hx.1, ht]
      rfl
    | .lit t :: b :: ps, hm, hl =>
      have hx : t.toList = x ∧ Pattern.matches (b :: ps) xs = true := by
        simpa [Pattern.matches] using hm
      have hlast := ih hx.2 (by simpa [lastLit?] using hl)
      rw [List.getLast?_cons, hlast]
      rfl
    | .param n :: ps, hm, hl =>
      have hx : x.isEmpty = false ∧ Pattern.matches ps xs = true := by
        cases ps <;> simpa [Pattern.matches] using hm
      have hps : Pattern.lastLit? ps = some s := by
        cases ps with
        | nil => simp [lastLit?] at hl
        | cons b ps => simpa [lastLit?] using hl
      rw [List.getLast?_cons, ih hx.2 hps]
      rfl
    | [.wild n], hm, hl => simp [lastLit?] at hl

end StreamBox.Lib
