import Mathlib.Data.List.Basic

/-!
# Labelled transition systems

A system is a set of initial states and a labelled step relation. Invariants
are proved from one step (`TSys.invariant`); a property that holds only as long
as every step meets a condition on the state before it is an invariant of the
restricted system (`TSys.restrict`). A concrete run of a step function is a
reachable state (`TSys.ofFn_reachable`).
-/

namespace StreamBox.Lib

structure TSys (σ α : Type*) where
  init : σ → Prop
  step : σ → α → σ → Prop

namespace TSys

variable {σ α : Type*}

/-- The states a run reaches from an initial one. -/
inductive Reachable (T : TSys σ α) : σ → Prop
  | init {s} : T.init s → Reachable T s
  | step {s a t} : Reachable T s → T.step s a t → Reachable T t

/-- What holds initially and is kept by every step holds of every reachable
state. -/
theorem invariant {T : TSys σ α} {I : σ → Prop} (hinit : ∀ s, T.init s → I s)
    (hstep : ∀ s a t, I s → T.step s a t → I t) {s : σ} (h : T.Reachable s) : I s := by
  induction h with
  | init h0 => exact hinit _ h0
  | step _ hs ih => exact hstep _ _ _ ih hs

/-- The runs whose every step meets `G` in the state before it. -/
def restrict (T : TSys σ α) (G : σ → α → Prop) : TSys σ α where
  init := T.init
  step s a t := T.step s a t ∧ G s a

theorem restrict_mono {T : TSys σ α} {G G' : σ → α → Prop} (hG : ∀ s a, G s a → G' s a) {s : σ}
    (h : (T.restrict G).Reachable s) : (T.restrict G').Reachable s := by
  induction h with
  | init h0 => exact .init h0
  | step _ hs ih => exact .step ih ⟨hs.1, hG _ _ hs.2⟩

/-- The system of a partial step function. -/
def ofFn (init : σ → Prop) (f : σ → α → Option σ) : TSys σ α where
  init := init
  step s a t := f s a = some t

/-- A concrete run of the step function. -/
theorem ofFn_reachable {init : σ → Prop} {f : σ → α → Option σ} {s t : σ} {as : List α}
    (h0 : (ofFn init f).Reachable s) (hrun : as.foldlM f s = some t) :
    (ofFn init f).Reachable t := by
  induction as generalizing s with
  | nil =>
    have hst : s = t := by simpa using hrun
    exact hst ▸ h0
  | cons a as ih =>
    rw [List.foldlM_cons] at hrun
    obtain ⟨u, hu, hrest⟩ := Option.bind_eq_some_iff.mp hrun
    exact ih (.step h0 hu) hrest

/-- A concrete run whose steps all meet a decidable condition. -/
theorem ofFn_restrict_reachable {init : σ → Prop} {f : σ → α → Option σ}
    {G : σ → α → Prop} [∀ s a, Decidable (G s a)] {s t : σ} {as : List α}
    (h0 : ((ofFn init f).restrict G).Reachable s)
    (hrun : as.foldlM (fun s a => if G s a then f s a else none) s = some t) :
    ((ofFn init f).restrict G).Reachable t := by
  induction as generalizing s with
  | nil =>
    have hst : s = t := by simpa using hrun
    exact hst ▸ h0
  | cons a as ih =>
    rw [List.foldlM_cons] at hrun
    obtain ⟨u, hu, hrest⟩ := Option.bind_eq_some_iff.mp hrun
    split at hu
    · rename_i hG
      exact ih (.step h0 ⟨hu, hG⟩) hrest
    · cases hu

/-- One step of a run whose steps meet a condition. -/
theorem ofFn_restrict_step {init : σ → Prop} {f : σ → α → Option σ} {G : σ → α → Prop} {s t : σ}
    (h : ((ofFn init f).restrict G).Reachable s) (a : α) (hstep : f s a = some t) (hG : G s a) :
    ((ofFn init f).restrict G).Reachable t :=
  .step h ⟨hstep, hG⟩

/-! ## Traces -/

/-- The steps of a run from an initial state. -/
inductive Trace (T : TSys σ α) : List (σ × α × σ) → σ → Prop
  | init {s} : T.init s → Trace T [] s
  | step {tr s a t} : Trace T tr s → T.step s a t → Trace T (tr ++ [(s, a, t)]) t

theorem Trace.reachable {T : TSys σ α} {tr : List (σ × α × σ)} {s : σ} (h : T.Trace tr s) :
    T.Reachable s := by
  induction h with
  | init h0 => exact .init h0
  | step _ hs ih => exact .step ih hs

theorem ofFn_trace_append {init : σ → Prop} {f : σ → α → Option σ} {s t : σ} {as : List α}
    {tr : List (σ × α × σ)} (h0 : (ofFn init f).Trace tr s)
    (hrun : as.foldlM f s = some t) :
    ∃ more, (ofFn init f).Trace (tr ++ more) t ∧ more.map (·.2.1) = as := by
  induction as generalizing s tr with
  | nil =>
    have hst : s = t := by simpa using hrun
    exact ⟨[], by simpa [hst] using h0, rfl⟩
  | cons a as ih =>
    rw [List.foldlM_cons] at hrun
    obtain ⟨u, hu, hrest⟩ := Option.bind_eq_some_iff.mp hrun
    obtain ⟨more, hmore, hlabels⟩ := ih (.step h0 hu) hrest
    refine ⟨(s, a, u) :: more, ?_, by simp [hlabels]⟩
    rw [← List.singleton_append, ← List.append_assoc]
    exact hmore

/-- A concrete run of the step function is a trace of its labels. -/
theorem ofFn_trace {init : σ → Prop} {f : σ → α → Option σ} {s t : σ} {as : List α}
    (h0 : init s) (hrun : as.foldlM f s = some t) :
    ∃ tr, (ofFn init f).Trace tr t ∧ tr.map (·.2.1) = as :=
  ofFn_trace_append (.init h0) hrun

/-- The steps of a run that checks a condition meet it. -/
theorem ofFn_guarded_trace {init : σ → Prop} {f : σ → α → Option σ} {G : σ → α → Prop}
    [∀ s a, Decidable (G s a)] {tr : List (σ × α × σ)} {s : σ}
    (h : (ofFn init fun s a => if G s a then f s a else none).Trace tr s) :
    (ofFn init f).Trace tr s ∧ ∀ x ∈ tr, G x.1 x.2.1 := by
  induction h with
  | init h0 => exact ⟨.init h0, by simp⟩
  | step htr hs ih =>
    obtain ⟨htrace, hall⟩ := ih
    change (if _ then _ else _) = _ at hs
    split at hs
    · rename_i hG
      refine ⟨.step htrace hs, fun x hx => ?_⟩
      rcases List.mem_append.mp hx with hx | hx
      · exact hall x hx
      · obtain rfl := List.mem_singleton.mp hx
        exact hG
    · cases hs

/-- Every step of a trace is a step from a reachable state. -/
theorem Trace.step_of_mem {T : TSys σ α} {tr : List (σ × α × σ)} {s : σ} (h : T.Trace tr s)
    {x : σ × α × σ} (hx : x ∈ tr) : T.Reachable x.1 ∧ T.step x.1 x.2.1 x.2.2 := by
  induction h with
  | init _ => cases hx
  | step htr hs ih =>
    rcases List.mem_append.mp hx with hx | hx
    · exact ih hx
    · obtain rfl := List.mem_singleton.mp hx
      exact ⟨htr.reachable, hs⟩

/-- Two properties of a step that agree wherever the system can be agree over
whole traces. -/
theorem Trace.forall_iff {T : TSys σ α} {tr : List (σ × α × σ)} {s : σ} (h : T.Trace tr s)
    {P Q : σ × α × σ → Prop}
    (hiff : ∀ x : σ × α × σ, T.Reachable x.1 → T.step x.1 x.2.1 x.2.2 → (P x ↔ Q x)) :
    (∀ x ∈ tr, P x) ↔ ∀ x ∈ tr, Q x :=
  forall₂_congr fun x hx => hiff x (h.step_of_mem hx).1 (h.step_of_mem hx).2

/-- A property of states that a step keeps just when the step meets a condition holds all along
a trace just when all its steps meet the condition. -/
theorem Trace.forall_post_iff {T : TSys σ α} {P : σ → Prop} {G : σ → α → Prop}
    (hinit : ∀ s, T.init s → P s)
    (hstep : ∀ s a t, T.Reachable s → P s → T.step s a t → (P t ↔ G s a))
    {tr : List (σ × α × σ)} {s : σ} (h : T.Trace tr s) :
    (∀ x ∈ tr, P x.2.2) ↔ ∀ x ∈ tr, G x.1 x.2.1 := by
  suffices hboth : ((∀ x ∈ tr, P x.2.2) → P s) ∧
      ((∀ x ∈ tr, P x.2.2) ↔ ∀ x ∈ tr, G x.1 x.2.1) from hboth.2
  induction h with
  | init h0 => exact ⟨fun _ => hinit _ h0, by simp⟩
  | @step tr s a t htr hs ih =>
    obtain ⟨hlast, hiff⟩ := ih
    simp only [List.forall_mem_append, List.forall_mem_singleton]
    refine ⟨fun hall => hall.2, ?_⟩
    constructor
    · rintro ⟨hall, ht⟩
      exact ⟨hiff.mp hall, (hstep s a t htr.reachable (hlast hall) hs).mp ht⟩
    · rintro ⟨hall, hG⟩
      have hpost := hiff.mpr hall
      exact ⟨hpost, (hstep s a t htr.reachable (hlast hpost) hs).mpr hG⟩

end TSys

end StreamBox.Lib
