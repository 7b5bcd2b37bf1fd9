import Mathlib.Data.List.Basic

/-!
# Sequences of edits

An edit is a function on a state; a list of edits is run from the left. A view of the state that
no later edit touches keeps what an edit has put there, and edits that commute with a change
commute with it as a whole.
-/

namespace StreamBox.Lib

variable {σ α : Type*}

def runEdits (edits : List (σ → σ)) (s : σ) : σ := edits.foldl (fun t e => e t) s

theorem runEdits_append (before after : List (σ → σ)) (s : σ) :
    runEdits (before ++ after) s = runEdits after (runEdits before s) :=
  List.foldl_append

theorem runEdits_cons (e : σ → σ) (after : List (σ → σ)) (s : σ) :
    runEdits (e :: after) s = runEdits after (e s) := rfl

/-- Edits that leave a view alone leave it alone together. -/
theorem runEdits_view {view : σ → α} {edits : List (σ → σ)}
    (h : ∀ e ∈ edits, ∀ s, view (e s) = view s) (s : σ) : view (runEdits edits s) = view s := by
  induction edits generalizing s with
  | nil => rfl
  | cons e edits ih =>
    rw [runEdits_cons, ih (fun e' he' => h e' (List.mem_cons_of_mem e he')),
      h e List.mem_cons_self]

/-- What an edit puts into a view stays there until another edit touches it. -/
theorem runEdits_last {view : σ → α} {before after : List (σ → σ)} {e : σ → σ} {v : α}
    (hwrites : ∀ s, view (e s) = v) (hafter : ∀ e' ∈ after, ∀ s, view (e' s) = view s) (s : σ) :
    view (runEdits (before ++ e :: after) s) = v := by
  rw [runEdits_append, runEdits_cons, runEdits_view hafter, hwrites]

/-- Edits that commute with a change commute with it together. -/
theorem runEdits_comm {change : σ → σ} {edits : List (σ → σ)}
    (h : ∀ e ∈ edits, ∀ s, e (change s) = change (e s)) (s : σ) :
    runEdits edits (change s) = change (runEdits edits s) := by
  induction edits generalizing s with
  | nil => rfl
  | cons e edits ih =>
    rw [runEdits_cons, runEdits_cons, h e List.mem_cons_self,
      ih fun e' he' => h e' (List.mem_cons_of_mem e he')]

end StreamBox.Lib
