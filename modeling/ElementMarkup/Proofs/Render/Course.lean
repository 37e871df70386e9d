import ElementMarkup.Proofs.Render.Step

/-!
# Steps that take the same course

Two steps take the same course from a session when they lead to the same session and end with the
same error or with related results. A step may take the course of another under a condition on the
values that are known in the end. As known values are never forgotten, the condition then holds all
the way.
-/

set_option autoImplicit false

namespace ElementMarkup

inductive Agree {ε α β : Type} (R : α → β → Prop) : Except ε α → Except ε β → Prop where
  | error (e : ε) : Agree R (.error e) (.error e)
  | ok {a : α} {b : β} (h : R a b) : Agree R (.ok a) (.ok b)

theorem Agree.map {ε α β γ δ : Type} {R : α → β → Prop} {Q : γ → δ → Prop} {x : Except ε α}
    {y : Except ε β} {f : α → γ} {g : β → δ} (h : Agree R x y)
    (hf : ∀ a b, x = .ok a → R a b → Q (f a) (g b)) : Agree Q (x.map f) (y.map g) := by
  cases h with
  | error e => exact .error e
  | ok hr => exact .ok (hf _ _ rfl hr)

theorem Agree.refl {ε α : Type} (x : Except ε α) : Agree Eq x x := by
  cases x with
  | error e => exact .error e
  | ok a => exact .ok rfl

theorem Agree.eq {ε α : Type} {x y : Except ε α} (h : Agree Eq x y) : x = y := by
  cases h with
  | error e => rfl
  | ok h => rw [h]

theorem Agree.of_error {ε α β : Type} {R : α → β → Prop} {x : Except ε α} {y : Except ε β}
    {e : ε} (h : Agree R x y) (hy : y = .error e) : x = .error e := by
  cases h with
  | error e' => exact congrArg Except.error (Except.error.inj hy)
  | ok => simp at hy

theorem Agree.of_ok {ε α β : Type} {R : α → β → Prop} {x : Except ε α} {y : Except ε β}
    {b : β} (h : Agree R x y) (hy : y = .ok b) : ∃ a, x = .ok a ∧ R a b := by
  cases h with
  | error => simp at hy
  | ok hr =>
    obtain rfl := Except.ok.inj hy
    exact ⟨_, rfl, hr⟩

namespace Step

variable {σ α β γ δ : Type}

theorem bind_congr_from {m : Step σ α} {f g : α → Step σ β} {s : Session σ}
    (h : ∀ a, (m s).result = .ok a → f a (m s).session = g a (m s).session) :
    (m >>= f) s = (m >>= g) s := by
  cases hm : (m s).result with
  | error e => rw [bind_of_error hm, bind_of_error hm]
  | ok a => rw [bind_of_ok hm, bind_of_ok hm, h a hm]

theorem bind_congr_reached {m : Step σ α} {f g : α → Step σ β}
    (h : ∀ s a, (m s).result = .ok a → f a (m s).session = g a (m s).session) :
    (m >>= f) = (m >>= g) := by
  funext s
  exact bind_congr_from (h s)

/-- Unless `m` ends with one of the errors, `k` does the same. -/
def Unless (stops : RenderError → Prop) (m k : Step σ α) : Prop :=
  ∀ s, (∀ e, stops e → (m s).result ≠ .error e) → k s = m s

variable {stops : RenderError → Prop}

theorem unless_refl (stops : RenderError → Prop) (m : Step σ α) : Unless stops m m :=
  fun _ _ => rfl

theorem unless_fail {e : RenderError} (h : stops e) (k : Step σ α) :
    Unless stops (fail e) k := fun _ hs => absurd rfl (hs e h)

theorem Unless.bind {m k : Step σ α} {f g : α → Step σ β} (h : Unless stops m k)
    (hf : ∀ a, Unless stops (f a) (g a)) : Unless stops (m >>= f) (k >>= g) := by
  intro s hs
  cases hm : (m s).result with
  | error e =>
    rw [bind_of_error hm] at hs ⊢
    have hk : k s = m s := h s fun e' he' hr =>
      hs e' he' (congrArg Except.error (Except.error.inj (hm.symm.trans hr)))
    have hke : (k s).result = .error e := hk ▸ hm
    rw [bind_of_error hke, hk]
  | ok a =>
    rw [bind_of_ok hm] at hs ⊢
    have hk : k s = m s := h s fun e' _ hr => by simp [hm] at hr
    have hok : (k s).result = .ok a := hk ▸ hm
    rw [bind_of_ok hok, hk, hf a _ hs]

def Remembers (k : Step σ α) : Prop := ∀ s, ∀ p ∈ s.known, p ∈ (k s).session.known

theorem remembers_pure (a : α) : Remembers (pure a : Step σ α) := fun _ _ hp => hp

theorem remembers_fail (e : RenderError) : Remembers (fail e : Step σ α) := fun _ _ hp => hp

theorem Remembers.bind {k : Step σ α} {g : α → Step σ β} (hk : Remembers k)
    (hg : ∀ a, Remembers (g a)) : Remembers (k >>= g) := by
  intro s p hp
  have hfirst := hk s p hp
  cases hr : (k s).result with
  | error e =>
    rw [bind_of_error hr]
    exact hfirst
  | ok a =>
    rw [bind_of_ok hr]
    exact hg a (k s).session p hfirst

theorem compositional_remembers : Compositional fun {α} (k : Step σ α) => Remembers k :=
  ⟨remembers_pure, Remembers.bind⟩

/-- From a session both steps lead to the same session, with the same error or with related
results. -/
def SameCourse (R : α → β → Prop) (s : Session σ) (m : Step σ α) (k : Step σ β) : Prop :=
  (m s).session = (k s).session ∧ Agree R (m s).result (k s).result

theorem sameCourse_refl {R : α → α → Prop} (hR : ∀ a, R a a) (s : Session σ) (m : Step σ α) :
    SameCourse R s m m := by
  refine ⟨rfl, ?_⟩
  cases (m s).result with
  | error e => exact .error e
  | ok a => exact .ok (hR a)

theorem sameCourse_pure {R : α → β → Prop} {s : Session σ} {a : α} {b : β} (h : R a b) :
    SameCourse R s (pure a : Step σ α) (pure b) := ⟨rfl, .ok h⟩

theorem SameCourse.bind {R : α → β → Prop} {Q : γ → δ → Prop} {s : Session σ} {m : Step σ α}
    {k : Step σ β} {f : α → Step σ γ} {g : β → Step σ δ} (h : SameCourse R s m k)
    (hf : ∀ a b, (k s).result = .ok b → R a b → SameCourse Q (k s).session (f a) (g b)) :
    SameCourse Q s (m >>= f) (k >>= g) := by
  obtain ⟨hsession, hagree⟩ := h
  unfold SameCourse
  cases hk : (k s).result with
  | error e =>
    rw [bind_of_error (hagree.of_error hk), bind_of_error hk]
    exact ⟨hsession, .error e⟩
  | ok b =>
    obtain ⟨a, hm, hr⟩ := hagree.of_ok hk
    rw [bind_of_ok hm, bind_of_ok hk, hsession]
    exact hf a b hk hr

/-- From each session `m` takes the course of `k`, unless `k` ends with the error `stop` or knows a
value without `P` in the end. -/
def Course (stop : RenderError) (P : Value → Prop) (R : α → β → Prop) (m : Step σ α)
    (k : Step σ β) : Prop :=
  ∀ s, (∀ p ∈ (k s).session.known, P p.2) → (k s).result ≠ .error stop →
    (m s).session = (k s).session ∧ Agree R (m s).result (k s).result

variable {stop : RenderError} {P : Value → Prop} {R : α → β → Prop} {Q : γ → δ → Prop}

theorem course_pure {a : α} {b : β} (h : R a b) :
    Course stop P R (pure a : Step σ α) (pure b) := fun _ _ _ => ⟨rfl, .ok h⟩

theorem course_fail (e : RenderError) : Course stop P R (fail e : Step σ α) (fail e) :=
  fun _ _ _ => ⟨rfl, .error e⟩

theorem Course.bind {m : Step σ α} {k : Step σ β} {f : α → Step σ γ} {g : β → Step σ δ}
    (h : Course stop P R m k) (hg : ∀ b, Remembers (g b))
    (hf : ∀ a b, R a b → Course stop P Q (f a) (g b)) :
    Course stop P Q (m >>= f) (k >>= g) := by
  intro s hknown hstop
  -- What is known behind `k` is still known in the end.
  have hbefore : ∀ p ∈ (k s).session.known, P p.2 := by
    intro p hp
    refine hknown p ?_
    cases hk : (k s).result with
    | error e => rwa [bind_of_error hk]
    | ok b =>
      rw [bind_of_ok hk]
      exact hg b _ p hp
  have hgoes : (k s).result ≠ .error stop := by
    intro hk
    rw [bind_of_error hk] at hstop
    exact hstop rfl
  have hfirst : SameCourse R s m k := h s hbefore hgoes
  refine hfirst.bind fun a b hk hr => ?_
  rw [bind_of_ok hk] at hknown hstop
  exact hf a b hr (k s).session hknown hstop

/-- From a session with `I` the step leads to one with `I`, and it fails with `E` or returns what
has `Q`. -/
def Held (I : Session σ → Prop) (E : RenderError → Prop) (Q : α → Prop) (m : Step σ α) : Prop :=
  ∀ s, I s → I (m s).session ∧ (∀ e, (m s).result = .error e → E e) ∧
    ∀ a, (m s).result = .ok a → Q a

section

variable {I : Session σ → Prop} {E : RenderError → Prop}

theorem held_pure {S : α → Prop} {a : α} (h : S a) : Held I E S (pure a : Step σ α) := by
  intro s hs
  refine ⟨hs, by simp [pure_apply], fun b hb => ?_⟩
  obtain rfl : a = b := Except.ok.inj hb
  exact h

theorem held_fail {S : α → Prop} {e : RenderError} (h : E e) :
    Held I E S (fail e : Step σ α) := by
  intro s hs
  refine ⟨hs, fun e' he => ?_, by simp [fail]⟩
  obtain rfl : e = e' := Except.error.inj he
  exact h

theorem Held.bind {S : α → Prop} {T : β → Prop} {m : Step σ α} {f : α → Step σ β}
    (hm : Held I E S m) (hf : ∀ a, S a → Held I E T (f a)) : Held I E T (m >>= f) := by
  intro s hs
  obtain ⟨hheld, herror, hres⟩ := hm s hs
  cases hr : (m s).result with
  | error e =>
    rw [bind_of_error hr]
    exact ⟨hheld, fun e' he => Except.error.inj he ▸ herror e hr, by simp⟩
  | ok a =>
    rw [bind_of_ok hr]
    exact hf a (hres a hr) (m s).session hheld

end

def Fails (m : Step σ α) (E : RenderError → Prop) : Prop := ∀ s e, (m s).result = .error e → E e

theorem fails_pure (a : α) (E : RenderError → Prop) : Fails (pure a : Step σ α) E := by
  intro s e he
  exact absurd he (by simp [pure_apply])

theorem fails_fail {e : RenderError} {E : RenderError → Prop} (h : E e) :
    Fails (fail e : Step σ α) E := by
  intro s e' he
  obtain rfl : e = e' := Except.error.inj he
  exact h

theorem Fails.bind {m : Step σ α} {f : α → Step σ γ} {E : RenderError → Prop} (hm : Fails m E)
    (hf : ∀ a, Fails (f a) E) : Fails (m >>= f) E := by
  intro s e he
  cases hr : (m s).result with
  | error e' =>
    rw [bind_of_error hr] at he
    obtain rfl : e' = e := Except.error.inj he
    exact hm s e' hr
  | ok a =>
    rw [bind_of_ok hr] at he
    exact hf a _ e he

theorem compositional_fails (E : RenderError → Prop) :
    Compositional fun {α} (m : Step σ α) => Fails m E :=
  ⟨fun a => fails_pure a E, Fails.bind⟩

end Step

end ElementMarkup
