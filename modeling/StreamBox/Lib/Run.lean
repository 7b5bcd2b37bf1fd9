/-!
# Running stateful fallible programs

Rules for programs in `EStateM ε σ`: a run ends with a value or an error, and in
either case with a state.

* **Returns** — total correctness: the program succeeds and the postcondition holds.
* **Ensures** — partial correctness: if the program succeeds the postcondition holds.
* **Fails** — what a failure leaves: if the program fails the postcondition holds.
* **Keeps** — a part of the state that a program leaves alone, however it ends.
* **Settles** — what holds of the state however a program ends; it preserves an invariant
  if this follows from the invariant.
* **Composition** — one rule for each way of building a program, so that the
  proof of a program follows its text.
-/

namespace StreamBox

variable {ε σ α β : Type}

/-- `op` succeeds from `s`, with a value and a state that satisfy `post`. -/
def Returns (op : EStateM ε σ α) (s : σ) (post : α → σ → Prop) : Prop :=
  ∃ a s', op.run s = .ok a s' ∧ post a s'

/-- If `op` succeeds from `s`, its value and state satisfy `post`. -/
def Ensures (op : EStateM ε σ α) (s : σ) (post : α → σ → Prop) : Prop :=
  ∀ a s', op.run s = .ok a s' → post a s'

/-! ## One run -/

theorem bind_of_ok {x : EStateM ε σ α} {f : α → EStateM ε σ β} {s s' : σ} {a : α}
    (h : x.run s = .ok a s') : (x >>= f).run s = (f a).run s' := by
  unfold EStateM.run at h ⊢
  simp only [bind, EStateM.bind, h]

theorem bind_of_error {x : EStateM ε σ α} {f : α → EStateM ε σ β} {s s' : σ} {e : ε}
    (h : x.run s = .error e s') : (x >>= f).run s = .error e s' := by
  unfold EStateM.run at h ⊢
  simp only [bind, EStateM.bind, h]

/-- First parts that run alike. -/
theorem bind_of_eq {x y : EStateM ε σ α} {f : α → EStateM ε σ β} {s t : σ}
    (h : x.run s = y.run t) : (x >>= f).run s = (y >>= f).run t := by
  unfold EStateM.run at h ⊢
  simp only [bind, EStateM.bind, h]

/-- A composition succeeds by way of a value and a state of its first part. -/
theorem bind_eq_ok {x : EStateM ε σ α} {f : α → EStateM ε σ β} {s s' : σ} {b : β} :
    (x >>= f).run s = .ok b s' ↔ ∃ a t, x.run s = .ok a t ∧ (f a).run t = .ok b s' := by
  constructor
  · intro h
    cases hx : x.run s with
    | ok a t => exact ⟨a, t, rfl, by rwa [bind_of_ok hx] at h⟩
    | error e t =>
      rw [bind_of_error hx] at h
      cases h
  · rintro ⟨a, t, hx, hf⟩
    rwa [bind_of_ok hx]

@[simp] theorem run_pure (a : α) (s : σ) :
    (pure a : EStateM ε σ α).run s = .ok a s := rfl

@[simp] theorem run_throw (e : ε) (s : σ) :
    (throw e : EStateM ε σ α).run s = .error e s := rfl

@[simp] theorem run_modify (f : σ → σ) (s : σ) :
    (modify f : EStateM ε σ PUnit).run s = .ok ⟨⟩ (f s) := rfl

@[simp] theorem run_get_bind (f : σ → EStateM ε σ β) (s : σ) :
    (get >>= f).run s = (f s).run s := by
  rw [bind_of_ok (show (get : EStateM ε σ σ).run s = .ok s s from rfl)]

@[simp] theorem run_modify_bind (g : σ → σ) (f : PUnit → EStateM ε σ β) (s : σ) :
    (modify g >>= f).run s = (f ⟨⟩).run (g s) := by
  rw [bind_of_ok (run_modify g s)]

/-! ## Total correctness -/

namespace Returns

variable {post : α → σ → Prop}

theorem of_eq {op : EStateM ε σ α} {s t : σ} {a : α} (h : op.run s = .ok a t)
    (hpost : post a t) : Returns op s post := ⟨a, t, h, hpost⟩

theorem pure {a : α} {s : σ} (h : post a s) : Returns (ε := ε) (Pure.pure a) s post :=
  ⟨a, s, rfl, h⟩

theorem bind {x : EStateM ε σ α} {f : α → EStateM ε σ β} {s : σ} {post' : β → σ → Prop}
    (hx : Returns x s post) (hf : ∀ a s', post a s' → Returns (f a) s' post') :
    Returns (x >>= f) s post' := by
  obtain ⟨a, t, ha, hpost⟩ := hx
  obtain ⟨b, u, hb, hpost'⟩ := hf a t hpost
  exact ⟨b, u, bind_eq_ok.mpr ⟨a, t, ha, hb⟩, hpost'⟩

theorem mono {op : EStateM ε σ α} {s : σ} {post' : α → σ → Prop} (h : Returns op s post)
    (himp : ∀ a s', post a s' → post' a s') : Returns op s post' := by
  obtain ⟨a, t, ha, hpost⟩ := h
  exact ⟨a, t, ha, himp a t hpost⟩

/-- A first part whose run is known. -/
theorem of_run {x : EStateM ε σ α} {f : α → EStateM ε σ β} {s t : σ} {a : α}
    {post : β → σ → Prop} (hx : x.run s = .ok a t) (h : Returns (f a) t post) :
    Returns (x >>= f) s post := by
  obtain ⟨b, u, hb, hpost⟩ := h
  exact ⟨b, u, bind_eq_ok.mpr ⟨a, t, hx, hb⟩, hpost⟩

/-- A run has one result, so total correctness gives partial correctness. -/
theorem ensures {op : EStateM ε σ α} {s : σ} (h : Returns op s post) : Ensures op s post := by
  obtain ⟨a, t, ha, hpost⟩ := h
  intro b u hb
  rw [ha] at hb
  cases hb
  exact hpost

end Returns

/-! ## Partial correctness -/

namespace Ensures

variable {post : α → σ → Prop}

theorem pure {a : α} {s : σ} (h : post a s) : Ensures (ε := ε) (Pure.pure a) s post := by
  intro b t hb
  cases hb
  exact h

theorem throw {e : ε} {s : σ} : Ensures (throw e : EStateM ε σ α) s post := by
  intro b t hb
  cases hb

theorem bind {x : EStateM ε σ α} {f : α → EStateM ε σ β} {s : σ} {post' : β → σ → Prop}
    (hx : Ensures x s post) (hf : ∀ a s', post a s' → Ensures (f a) s' post') :
    Ensures (x >>= f) s post' := by
  intro b u hb
  obtain ⟨a, t, ha, hrest⟩ := bind_eq_ok.mp hb
  exact hf a t (hx a t ha) b u hrest

theorem mono {op : EStateM ε σ α} {s : σ} {post' : α → σ → Prop} (h : Ensures op s post)
    (himp : ∀ a s', post a s' → post' a s') : Ensures op s post' :=
  fun a t ha => himp a t (h a t ha)

theorem and {op : EStateM ε σ α} {s : σ} {post' : α → σ → Prop} (h : Ensures op s post)
    (h' : Ensures op s post') : Ensures op s fun a s' => post a s' ∧ post' a s' :=
  fun a t ha => ⟨h a t ha, h' a t ha⟩

/-- A first part whose run is known. -/
theorem of_run {x : EStateM ε σ α} {f : α → EStateM ε σ β} {s t : σ} {a : α}
    {post : β → σ → Prop} (hx : x.run s = .ok a t) (h : Ensures (f a) t post) :
    Ensures (x >>= f) s post := by
  intro b u hrun
  rw [bind_of_ok hx] at hrun
  exact h b u hrun

/-- A first part of which nothing need be known. -/
theorem bind_each {x : EStateM ε σ α} {f : α → EStateM ε σ β} {s : σ} {post : β → σ → Prop}
    (h : ∀ a s', Ensures (f a) s' post) : Ensures (x >>= f) s post := by
  intro b u hrun
  obtain ⟨a, t, -, hrest⟩ := bind_eq_ok.mp hrun
  exact h a t b u hrest

end Ensures

/-! ## Failures -/

/-- If `op` fails from `s`, its error and state satisfy `post`. -/
def Fails (op : EStateM ε σ α) (s : σ) (post : ε → σ → Prop) : Prop :=
  ∀ e s', op.run s = .error e s' → post e s'

namespace Fails

variable {post : ε → σ → Prop}

theorem pure {a : α} {s : σ} : Fails (Pure.pure a) s post := by
  intro e t he
  cases he

theorem throw {e : ε} {s : σ} (h : post e s) : Fails (throw e : EStateM ε σ α) s post := by
  intro e' t he
  cases he
  exact h

/-- A program that succeeds does not fail. -/
theorem of_returns {op : EStateM ε σ α} {s : σ} {post' : α → σ → Prop} (h : Returns op s post') :
    Fails op s post := by
  obtain ⟨a, t, ha, -⟩ := h
  intro e u he
  rw [ha] at he
  cases he

theorem mono {op : EStateM ε σ α} {s : σ} {post' : ε → σ → Prop} (h : Fails op s post)
    (himp : ∀ e s', post e s' → post' e s') : Fails op s post' :=
  fun e t he => himp e t (h e t he)

/-- A composition fails in its first part, or behind it. -/
theorem bind {x : EStateM ε σ α} {f : α → EStateM ε σ β} {s : σ} {mid : α → σ → Prop}
    (hx : Fails x s post) (hmid : Ensures x s mid) (hf : ∀ a s', mid a s' → Fails (f a) s' post) :
    Fails (x >>= f) s post := by
  intro e u he
  cases hrun : x.run s with
  | ok a t =>
    rw [bind_of_ok hrun] at he
    exact hf a t (hmid a t hrun) e u he
  | error e' t =>
    rw [bind_of_error hrun] at he
    cases he
    exact hx _ _ hrun

/-- A first part that succeeds. -/
theorem bind_returns {x : EStateM ε σ α} {f : α → EStateM ε σ β} {s : σ} {mid : α → σ → Prop}
    (hx : Returns x s mid) (hf : ∀ a s', mid a s' → Fails (f a) s' post) :
    Fails (x >>= f) s post :=
  bind (of_returns hx) hx.ensures hf

theorem throw_bind {e : ε} {f : α → EStateM ε σ β} {s : σ} (h : post e s) :
    Fails ((MonadExcept.throw e : EStateM ε σ α) >>= f) s post := by
  have hnever : Ensures (MonadExcept.throw e : EStateM ε σ α) s fun _ _ => False := Ensures.throw
  exact bind (throw h) hnever fun _ _ => False.elim

/-- A composition of which each part alone fails as wanted. -/
theorem bind_each {x : EStateM ε σ α} {f : α → EStateM ε σ β} {s : σ} (hx : Fails x s post)
    (hf : ∀ a s', Fails (f a) s' post) : Fails (x >>= f) s post :=
  bind hx (fun _ _ _ => trivial) fun a s' (_ : True) => hf a s'

/-- A first part whose run is known. -/
theorem of_run {x : EStateM ε σ α} {f : α → EStateM ε σ β} {s t : σ} {a : α}
    (hx : x.run s = .ok a t) (h : Fails (f a) t post) : Fails (x >>= f) s post := by
  intro e u he
  rw [bind_of_ok hx] at he
  exact h e u he

end Fails

/-! ## Frames -/

/-- However `op` ends, it leaves this part of the state as it was. -/
structure Keeps {γ : Type} (part : σ → γ) (op : EStateM ε σ α) : Prop where
  ok : ∀ s, Ensures op s fun _ s' => part s' = part s
  error : ∀ s, Fails op s fun _ s' => part s' = part s

namespace Keeps

variable {γ : Type} {part : σ → γ}

/-- A run that succeeds leaves the part alone as well. -/
theorem returns {op : EStateM ε σ α} (h : Keeps part op) {s : σ} {post : α → σ → Prop}
    (hop : Returns op s post) : Returns op s fun a s' => post a s' ∧ part s' = part s := by
  obtain ⟨a, t, ha, hpost⟩ := hop
  exact ⟨a, t, ha, hpost, h.ok s a t ha⟩

end Keeps

/-! ## However a program ends -/

/-- However `op` ends from `s`, the state satisfies `inv`. -/
structure Settles (op : EStateM ε σ α) (s : σ) (inv : σ → Prop) : Prop where
  ok : Ensures op s fun _ s' => inv s'
  error : Fails op s fun _ s' => inv s'

/-- The state a run ends in. -/
def endState : EStateM.Result ε σ α → σ
  | .ok _ s => s
  | .error _ s => s

theorem settles_iff {op : EStateM ε σ α} {s : σ} {inv : σ → Prop} :
    Settles op s inv ↔ inv (endState (op.run s)) := by
  constructor
  · intro h
    cases hrun : op.run s with
    | ok a s' => exact h.ok a s' hrun
    | error e s' => exact h.error e s' hrun
  · intro h
    constructor
    · intro a s' hrun
      rw [hrun] at h
      exact h
    · intro e s' hrun
      rw [hrun] at h
      exact h

/-- However `op` ends, it preserves an invariant. -/
def Preserves (inv : σ → Prop) (op : EStateM ε σ α) : Prop := ∀ s, inv s → Settles op s inv

namespace Settles

variable {inv : σ → Prop}

theorem pure {a : α} {s : σ} (h : inv s) : Settles (ε := ε) (Pure.pure a) s inv :=
  ⟨.pure h, .pure⟩

theorem throw {e : ε} {s : σ} (h : inv s) : Settles (throw e : EStateM ε σ α) s inv :=
  ⟨.throw, .throw h⟩

theorem mono {inv' : σ → Prop} {op : EStateM ε σ α} {s : σ} (h : Settles op s inv)
    (himp : ∀ s', inv s' → inv' s') : Settles op s inv' :=
  ⟨h.ok.mono fun _ => himp, h.error.mono fun _ => himp⟩

theorem of_returns {op : EStateM ε σ α} {s : σ} (h : Returns op s fun _ s' => inv s') :
    Settles op s inv :=
  ⟨h.ensures, .of_returns h⟩

/-- A composition settles where its first part fails, or behind it. -/
theorem bind {x : EStateM ε σ α} {f : α → EStateM ε σ β} {s : σ} {mid : α → σ → Prop}
    (hx : Fails x s fun _ s' => inv s') (hmid : Ensures x s mid)
    (hf : ∀ a s', mid a s' → Settles (f a) s' inv) : Settles (x >>= f) s inv where
  ok := hmid.bind fun a s' h => (hf a s' h).ok
  error := .bind hx hmid fun a s' h => (hf a s' h).error

/-- A first part that succeeds. -/
theorem bind_returns {x : EStateM ε σ α} {f : α → EStateM ε σ β} {s : σ} {mid : α → σ → Prop}
    (hx : Returns x s mid) (hf : ∀ a s', mid a s' → Settles (f a) s' inv) :
    Settles (x >>= f) s inv :=
  bind (.of_returns hx) hx.ensures hf

/-- A first part whose run is known. -/
theorem of_run {x : EStateM ε σ α} {f : α → EStateM ε σ β} {s t : σ} {a : α}
    (hx : x.run s = .ok a t) (h : Settles (f a) t inv) : Settles (x >>= f) s inv :=
  ⟨.of_run hx h.ok, .of_run hx h.error⟩

/-- A first part that is known to fail. -/
theorem of_failed {x : EStateM ε σ α} {f : α → EStateM ε σ β} {s t : σ} {e : ε}
    (hx : x.run s = .error e t) (h : inv t) : Settles (x >>= f) s inv where
  ok := by
    intro b s' hrun
    rw [bind_of_error hx] at hrun
    cases hrun
  error := by
    intro e' s' hrun
    rw [bind_of_error hx] at hrun
    cases hrun
    exact h

end Settles

namespace Preserves

variable {inv : σ → Prop}

theorem pure {a : α} : Preserves (ε := ε) inv (Pure.pure a) := fun _ => .pure

theorem throw {e : ε} : Preserves inv (throw e : EStateM ε σ α) := fun _ => .throw

theorem get : Preserves (ε := ε) inv (get : EStateM ε σ σ) :=
  fun s h => .of_returns (.of_eq (s := s) (t := s) (a := s) rfl h)

theorem bind {x : EStateM ε σ α} {f : α → EStateM ε σ β} (hx : Preserves inv x)
    (hf : ∀ a, Preserves inv (f a)) : Preserves inv (x >>= f) := fun s h =>
  .bind (hx s h).error (hx s h).ok fun a s' h' => hf a s' h'

theorem modify {g : σ → σ} (h : ∀ s, inv s → inv (g s)) :
    Preserves (ε := ε) inv (modify g : EStateM ε σ PUnit) :=
  fun s hs => .of_returns (.of_eq (run_modify g s) (h s hs))

/-- A part of the state is kept when each of its values is. -/
theorem keeps {γ : Type} {part : σ → γ} {op : EStateM ε σ α}
    (h : ∀ v, Preserves (fun s => part s = v) op) : Keeps part op :=
  ⟨fun s => (h (part s) s rfl).ok, fun s => (h (part s) s rfl).error⟩

end Preserves

/-- Running a program over a list keeps an invariant that each step carries on. -/
theorem Returns.forM {γ : Type} {f : γ → EStateM ε σ PUnit} (inv : List γ → σ → Prop)
    (hstep : ∀ c l s, inv (c :: l) s → Returns (f c) s fun _ s' => inv l s') :
    ∀ (l : List γ) (s : σ), inv l s → Returns (l.forM f) s fun _ s' => inv [] s' := by
  intro l
  induction l with
  | nil =>
    intro s h
    exact Returns.pure h
  | cons c l ih =>
    intro s h
    show Returns (f c >>= fun _ => l.forM f) s _
    exact Returns.bind (hstep c l s h) fun _ s' h' => ih s' h'

/-- If a program over a list succeeds, it has kept an invariant of its steps. -/
theorem Ensures.forM {γ : Type} {f : γ → EStateM ε σ PUnit} (inv : σ → Prop) :
    ∀ (l : List γ) (_ : ∀ c ∈ l, ∀ s, inv s → Ensures (f c) s fun _ s' => inv s') (s : σ),
      inv s → Ensures (l.forM f) s fun _ s' => inv s' := by
  intro l
  induction l with
  | nil =>
    intro _ s h
    exact Ensures.pure h
  | cons c l ih =>
    intro hstep s h
    show Ensures (f c >>= fun _ => l.forM f) s _
    exact Ensures.bind (hstep c List.mem_cons_self s h) fun _ s' h' =>
      ih (fun c' hc' => hstep c' (List.mem_cons_of_mem _ hc')) s' h'

/-- A program over a list fails in one of its steps, from a state of the invariant. -/
theorem Fails.forM {γ : Type} {f : γ → EStateM ε σ PUnit} {post : ε → σ → Prop} (inv : σ → Prop) :
    ∀ (l : List γ) (_ : ∀ c ∈ l, ∀ s, inv s → Ensures (f c) s fun _ s' => inv s')
      (_ : ∀ c ∈ l, ∀ s, inv s → Fails (f c) s post) (s : σ), inv s → Fails (l.forM f) s post := by
  intro l
  induction l with
  | nil => exact fun _ _ _ _ => Fails.pure
  | cons c l ih =>
    intro hstep hfails s h
    show Fails (f c >>= fun _ => l.forM f) s post
    exact Fails.bind (hfails c List.mem_cons_self s h) (hstep c List.mem_cons_self s h) fun _ s' h' =>
      ih (fun c' hc' => hstep c' (List.mem_cons_of_mem _ hc'))
        (fun c' hc' => hfails c' (List.mem_cons_of_mem _ hc')) s' h'

end StreamBox
