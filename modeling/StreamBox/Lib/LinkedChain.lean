import Mathlib.Logic.Function.Basic
import Mathlib.Data.List.Basic

/-!
# Chains in a table of links

A table `next` gives every index the index that follows it, and some values are
end marks. A chain is a list of indices each linked to the following one, the
last to an end mark. File allocation tables and free lists are of this kind.

* **Frame** — a chain depends on the links of its own indices only.
* **Writing** — linking a list of distinct indices makes it a chain.
* **Extension** — a chain grows at its end by one link.
* **Paths** — following the links from an index, whatever the table holds: a path to
  an end of some kind is the only one, and repeats nothing.
-/

namespace StreamBox

variable {ι : Type}

/-- `next` links the list, and its last index to a value that is not a link. -/
def Linked (next : ι → ι) (link : ι → Bool) : List ι → Prop
  | [] => True
  | [c] => link (next c) = false
  | c :: c' :: rest => next c = c' ∧ Linked next link (c' :: rest)

namespace Linked

variable {next next' : ι → ι} {link : ι → Bool} {c c' : ι} {l : List ι}

theorem tail (h : Linked next link (c :: l)) : Linked next link l := by
  cases l with
  | nil => trivial
  | cons c' rest => exact h.2

/-- A chain depends on the links of its own indices only. -/
theorem congr (hnext : ∀ c ∈ l, next' c = next c) (h : Linked next link l) :
    Linked next' link l := by
  induction l with
  | nil => trivial
  | cons c l ih =>
    have htail := ih (fun c' hc' => hnext c' (List.mem_cons_of_mem _ hc')) h.tail
    cases l with
    | nil =>
      show link (next' c) = false
      rw [hnext c List.mem_cons_self]
      exact h
    | cons c' rest => exact ⟨(hnext c List.mem_cons_self).trans h.1, htail⟩

/-- Following a link stays on the chain. -/
theorem next_mem (h : Linked next link l) (hc : c ∈ l) (hlink : link (next c) = true) :
    next c ∈ l := by
  induction l with
  | nil => cases hc
  | cons x l ih =>
    rcases List.mem_cons.mp hc with rfl | hc
    · cases l with
      | nil =>
        have hend : link (next c) = false := h
        rw [hend] at hlink
        cases hlink
      | cons y rest => exact List.mem_cons_of_mem _ (h.1 ▸ List.mem_cons_self)
    · exact List.mem_cons_of_mem _ (ih h.tail hc)

/-- What holds of the first index and goes over links inside the chain holds of all of it. -/
theorem induct_mem {P : ι → Prop} {x : ι} (h : Linked next link (x :: l)) (hx : P x)
    (hstep : ∀ y, P y → next y ∈ x :: l → P (next y)) (hc : c ∈ x :: l) : P c := by
  induction l generalizing x with
  | nil => exact List.mem_singleton.mp hc ▸ hx
  | cons y rest ih =>
    have hy : P y := h.1 ▸ hstep x hx (h.1 ▸ List.mem_cons_of_mem _ List.mem_cons_self)
    rcases List.mem_cons.mp hc with rfl | hc
    · exact hx
    · exact ih h.tail hy (fun z hz hmem => hstep z hz (List.mem_cons_of_mem _ hmem)) hc

end Linked

/-! ## Paths -/

/-- Following the links from `c` passes the list and arrives at `v`. -/
def Leads (next : ι → ι) : ι → List ι → ι → Prop
  | c, [], v => c = v
  | c, x :: l, v => c = x ∧ Leads next (next x) l v

namespace Leads

variable {next : ι → ι} {c v v' : ι} {l l' : List ι}

theorem append (h : Leads next c l v) (h' : Leads next v l' v') : Leads next c (l ++ l') v' := by
  induction l generalizing c with
  | nil =>
    obtain rfl : c = v := h
    exact h'
  | cons x l ih => exact ⟨h.1, ih h.2⟩

/-- What remains of a path from one of its indices on. -/
theorem drop {a b : List ι} {x : ι} (h : Leads next c (a ++ x :: b) v) :
    Leads next x (x :: b) v := by
  induction a generalizing c with
  | nil =>
    obtain rfl : c = x := h.1
    exact h
  | cons y a ih => exact ih h.2

/-- The links go one way, so there is one path inside `P` to an index outside. -/
theorem unique {P : ι → Prop} (h : Leads next c l v) (h' : Leads next c l' v')
    (hl : ∀ x ∈ l, P x) (hl' : ∀ x ∈ l', P x) (hv : ¬ P v) (hv' : ¬ P v') : l = l' ∧ v = v' := by
  induction l generalizing c l' with
  | nil =>
    obtain rfl : c = v := h
    cases l' with
    | nil => exact ⟨rfl, h'⟩
    | cons x l' => exact absurd (h'.1 ▸ hl' x List.mem_cons_self) hv
  | cons x l ih =>
    cases l' with
    | nil =>
      obtain rfl : c = v' := h'
      exact absurd (h.1 ▸ hl x List.mem_cons_self) hv'
    | cons y l' =>
      obtain ⟨rfl, hrest⟩ := h
      obtain ⟨rfl, hrest'⟩ := h'
      obtain ⟨rfl, rfl⟩ := ih hrest hrest' (fun z hz => hl z (List.mem_cons_of_mem _ hz))
        fun z hz => hl' z (List.mem_cons_of_mem _ hz)
      exact ⟨rfl, rfl⟩

/-- A path inside `P` to an index outside repeats nothing. -/
theorem nodup {P : ι → Prop} (h : Leads next c l v) (hl : ∀ x ∈ l, P x) (hv : ¬ P v) :
    l.Nodup := by
  induction l generalizing c with
  | nil => exact List.nodup_nil
  | cons x l ih =>
    obtain ⟨rfl, hrest⟩ := h
    have hnodup := ih hrest fun y hy => hl y (List.mem_cons_of_mem _ hy)
    refine List.nodup_cons.mpr ⟨fun hmem => ?_, hnodup⟩
    -- a second visit would start a second, shorter path
    obtain ⟨a, b, rfl⟩ := List.append_of_mem hmem
    have hsecond : Leads next c (c :: b) v := hrest.drop
    have hsame := (unique (l := c :: (a ++ c :: b)) ⟨rfl, hrest⟩ hsecond hl
      (fun y hy => hl y (List.mem_cons_of_mem _ (List.mem_append_right _ hy))) hv hv).1
    have hlength := congrArg List.length hsame
    simp only [List.length_cons, List.length_append] at hlength
    omega

/-- Where every path from `c` stays inside `P` there is one of any length. -/
theorem exists_length {P : ι → Prop} (hin : ∀ l v, Leads next c l v → (∀ x ∈ l, P x) → P v)
    (n : Nat) : ∃ l v, Leads next c l v ∧ (∀ x ∈ l, P x) ∧ l.length = n := by
  induction n with
  | zero => exact ⟨[], c, rfl, by simp, rfl⟩
  | succ n ih =>
    obtain ⟨l, v, hlv, hl, hn⟩ := ih
    refine ⟨l ++ [v], next v, hlv.append ⟨rfl, rfl⟩, fun x hx => ?_, by simp [hn]⟩
    rcases List.mem_append.mp hx with hx | hx
    · exact hl x hx
    · exact List.mem_singleton.mp hx ▸ hin l v hlv hl

end Leads

/-! ## Writing links -/

variable [DecidableEq ι]

/-- Link a list in order, its last index to `stop`. -/
def linkAll (stop : ι) : List ι → (ι → ι) → (ι → ι)
  | [], next => next
  | [c], next => Function.update next c stop
  | c :: c' :: rest, next => linkAll stop (c' :: rest) (Function.update next c c')

/-- Linking a list leaves every other index as it is. -/
theorem linkAll_of_notMem (stop : ι) {l : List ι} {c : ι} (hc : c ∉ l) (next : ι → ι) :
    linkAll stop l next c = next c := by
  induction l generalizing next with
  | nil => rfl
  | cons c' rest ih =>
    have hne : c ≠ c' := fun h => hc (h ▸ List.mem_cons_self)
    have hrest : c ∉ rest := fun h => hc (List.mem_cons_of_mem _ h)
    cases rest with
    | nil => exact Function.update_of_ne hne _ _
    | cons c'' rest =>
      rw [linkAll, ih hrest, Function.update_of_ne hne]

/-- Linking distinct indices makes them a chain. -/
theorem linked_linkAll {link : ι → Bool} {stop : ι} (hstop : link stop = false) {l : List ι}
    (hl : l.Nodup) (next : ι → ι) : Linked (linkAll stop l next) link l := by
  induction l generalizing next with
  | nil => trivial
  | cons c l ih =>
    obtain ⟨hc, hnodup⟩ := List.nodup_cons.mp hl
    cases l with
    | nil =>
      show link (Function.update next c stop c) = false
      rw [Function.update_self]
      exact hstop
    | cons c' rest =>
      refine ⟨?_, ih hnodup _⟩
      rw [linkAll, linkAll_of_notMem stop hc, Function.update_self]

/-- A chain followed by a new last index, once its old last index links to the new one. -/
theorem Linked.snoc {next : ι → ι} {link : ι → Bool} {l : List ι} {last new : ι}
    (h : Linked next link (l ++ [last])) (hl : (l ++ [last]).Nodup) (hnew : new ∉ l ++ [last])
    (hstop : link (next new) = false) :
    Linked (Function.update next last new) link (l ++ [last, new]) := by
  induction l with
  | nil =>
    have hne : new ≠ last := fun heq => hnew (heq ▸ List.mem_cons_self)
    refine ⟨Function.update_self .., ?_⟩
    show link (Function.update next last new new) = false
    rw [Function.update_of_ne hne]
    exact hstop
  | cons c l ih =>
    have hnodup : (l ++ [last]).Nodup := (List.nodup_cons.mp hl).2
    have hlast : c ≠ last := by
      rintro rfl
      exact (List.nodup_cons.mp hl).1 (List.mem_append_right _ List.mem_cons_self)
    have htail := ih h.tail hnodup fun hmem => hnew (List.mem_cons_of_mem _ hmem)
    cases l with
    | nil => exact ⟨(Function.update_of_ne hlast _ _).trans h.1, htail⟩
    | cons c' rest => exact ⟨(Function.update_of_ne hlast _ _).trans h.1, htail⟩

omit [DecidableEq ι] in
/-- Nothing follows the last index of a chain. -/
theorem Linked.last {next : ι → ι} {link : ι → Bool} {l : List ι} {last : ι}
    (h : Linked next link (l ++ [last])) : link (next last) = false := by
  induction l with
  | nil => exact h
  | cons c l ih =>
    cases l with
    | nil => exact h.2
    | cons c' l => exact ih h.2

/-- A chain whose last index is linked to another end mark. -/
theorem Linked.stop_last {next : ι → ι} {link : ι → Bool} {l : List ι} {last stop : ι}
    (h : Linked next link (l ++ [last])) (hl : (l ++ [last]).Nodup) (hstop : link stop = false) :
    Linked (Function.update next last stop) link (l ++ [last]) := by
  induction l with
  | nil =>
    show link (Function.update next last stop last) = false
    rw [Function.update_self]
    exact hstop
  | cons c l ih =>
    obtain ⟨hnot, hnodup⟩ := List.nodup_cons.mp hl
    have hc : c ≠ last := by
      rintro rfl
      exact hnot (List.mem_append_right _ List.mem_cons_self)
    have htail := ih h.tail hnodup
    cases l with
    | nil => exact ⟨(Function.update_of_ne hc _ _).trans h.1, htail⟩
    | cons c' rest => exact ⟨(Function.update_of_ne hc _ _).trans h.1, htail⟩

end StreamBox
