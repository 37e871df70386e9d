import ElementMarkup.Render.Element

/-!
# Laws of rendering steps

Steps form a lawful monad. A step prints the results of another step when both take the same
course, through the same sessions to the same error, and what the first writes is the text of the
result of the second. Printing is compositional.
-/

set_option autoImplicit false

namespace ElementMarkup.Step

variable {σ α β γ : Type}

theorem pure_apply (a : α) (s : Session σ) : (pure a : Step σ α) s = ⟨[], s, .ok a⟩ := rfl

theorem bind_of_ok {m : Step σ α} {s : Session σ} {a : α} (h : (m s).result = .ok a)
    (f : α → Step σ β) : (m >>= f) s =
      ⟨(m s).written ++ (f a (m s).session).written, (f a (m s).session).session,
        (f a (m s).session).result⟩ := by
  change Step.bind m f s = _
  unfold Step.bind
  generalize m s = out at h ⊢
  obtain ⟨text, s', r⟩ := out
  obtain rfl : r = .ok a := h
  rfl

theorem bind_of_error {m : Step σ α} {s : Session σ} {e : RenderError}
    (h : (m s).result = .error e) (f : α → Step σ β) :
    (m >>= f) s = ⟨(m s).written, (m s).session, .error e⟩ := by
  change Step.bind m f s = _
  unfold Step.bind
  generalize m s = out at h ⊢
  obtain ⟨text, s', r⟩ := out
  obtain rfl : r = .error e := h
  rfl

theorem bind_result_eq_ok_iff {m : Step σ α} {f : α → Step σ β} {s : Session σ} {b : β} :
    ((m >>= f) s).result = .ok b ↔
      ∃ a, (m s).result = .ok a ∧ (f a (m s).session).result = .ok b := by
  cases hr : (m s).result with
  | error e => simp [bind_of_error hr]
  | ok a => simp [bind_of_ok hr]

theorem bind_apply_congr {m m' : Step σ α} {s : Session σ} (h : m s = m' s) (f : α → Step σ β) :
    (m >>= f) s = (m' >>= f) s := by
  change Step.bind m f s = Step.bind m' f s
  unfold Step.bind
  rw [h]

theorem fail_bind (e : RenderError) (f : α → Step σ β) : (fail e >>= f) = fail e := by
  funext s
  exact bind_of_error rfl f

protected theorem bind_pure (m : Step σ α) : (m >>= pure) = m := by
  funext s
  cases hr : (m s).result with
  | error e =>
    rw [bind_of_error hr, ← hr]
  | ok a =>
    rw [bind_of_ok hr, pure_apply, List.append_nil, ← hr]

protected theorem pure_bind (a : α) (f : α → Step σ β) : (pure a >>= f) = f a := by
  funext s
  exact bind_of_ok (pure_apply a s ▸ rfl) f

protected theorem bind_assoc (m : Step σ α) (f : α → Step σ β) (g : β → Step σ γ) :
    (m >>= f >>= g) = (m >>= fun a => f a >>= g) := by
  funext s
  cases hm : (m s).result with
  | error e =>
    have h : ((m >>= f) s).result = .error e := by rw [bind_of_error hm]
    rw [bind_of_error h, bind_of_error hm, bind_of_error hm]
  | ok a =>
    have hs : (m >>= f) s = ⟨(m s).written ++ (f a (m s).session).written,
      (f a (m s).session).session, (f a (m s).session).result⟩ := bind_of_ok hm f
    rw [bind_of_ok hm]
    cases hf : (f a (m s).session).result with
    | error e =>
      have h : ((m >>= f) s).result = .error e := by rw [hs, hf]
      rw [bind_of_error h, bind_of_error hf, hs]
    | ok b =>
      have h : ((m >>= f) s).result = .ok b := by rw [hs, hf]
      rw [bind_of_ok h, bind_of_ok hf, hs, List.append_assoc]

instance : LawfulMonad (Step σ) :=
  LawfulMonad.mk' _ Step.bind_pure Step.pure_bind Step.bind_assoc

def Returns (m : Step σ α) (P : α → Prop) : Prop := ∀ s a, (m s).result = .ok a → P a

theorem returns_pure {P : α → Prop} {a : α} (h : P a) : Returns (pure a : Step σ α) P := by
  intro s b hb
  obtain rfl : a = b := Except.ok.inj hb
  exact h

theorem returns_fail (e : RenderError) (P : α → Prop) : Returns (fail e : Step σ α) P := by
  intro s a ha
  exact absurd ha (by simp [fail])

theorem Returns.bind {m : Step σ α} {f : α → Step σ β} {P : α → Prop} {Q : β → Prop}
    (hm : Returns m P) (hf : ∀ a, P a → Returns (f a) Q) : Returns (m >>= f) Q := by
  intro s b hb
  obtain ⟨a, ha, hb⟩ := bind_result_eq_ok_iff.1 hb
  exact hf a (hm s a ha) _ b hb

theorem returns_any (m : Step σ α) : Returns m fun _ => True := fun _ _ _ => trivial

def Silent (m : Step σ α) : Prop := ∀ s, (m s).written = []

theorem silent_pure (a : α) : Silent (pure a : Step σ α) := fun _ => rfl

theorem silent_fail (e : RenderError) : Silent (fail e : Step σ α) := fun _ => rfl

theorem Silent.bind {m : Step σ α} {f : α → Step σ β} (hm : Silent m) (hf : ∀ a, Silent (f a)) :
    Silent (m >>= f) := by
  intro s
  cases hr : (m s).result with
  | error e => rw [bind_of_error hr, hm s]
  | ok a =>
    rw [bind_of_ok hr, hm s, hf a]
    rfl

/-- A property that a composition of steps has if its parts have it. -/
structure Compositional (C : {α : Type} → Step σ α → Prop) : Prop where
  pure : ∀ {α : Type} (a : α), C (pure a : Step σ α)
  bind : ∀ {α β : Type} {m : Step σ α} {f : α → Step σ β}, C m → (∀ a, C (f a)) → C (m >>= f)

theorem compositional_silent : Compositional fun {α} (m : Step σ α) => Silent m :=
  ⟨silent_pure, Silent.bind⟩

/-- `m` writes the text that `print` gives to the result of `k`, and ends as `k` does. -/
def Prints (m : Step σ Unit) (k : Step σ α) (print : α → List Char) : Prop :=
  ∀ s, (m s).session = (k s).session ∧ match (k s).result with
    | .ok a => (m s).result = .ok () ∧ (m s).written = print a
    | .error e => (m s).result = .error e

namespace Prints

variable {m m' : Step σ Unit} {k : Step σ α} {k' : Step σ β} {p : α → List Char}
  {p' : β → List Char} {q : γ → List Char}

theorem fail (e : RenderError) : Prints (Step.fail e) (Step.fail e : Step σ α) p :=
  fun _ => ⟨rfl, rfl⟩

theorem write {a : α} {text : List Char} (h : p a = text) :
    Prints (Step.write text) (pure a : Step σ α) p :=
  fun _ => ⟨rfl, rfl, h.symm⟩

theorem congr (h : Prints m k p) {p₁ : α → List Char} (hp : Returns k fun a => p₁ a = p a) :
    Prints m k p₁ := by
  intro s
  obtain ⟨hs, hk⟩ := h s
  refine ⟨hs, ?_⟩
  cases hr : (k s).result with
  | error e =>
    rw [hr] at hk
    exact hk
  | ok a =>
    rw [hr] at hk
    exact ⟨hk.1, hk.2.trans (hp s a hr).symm⟩

theorem after {r : Step σ γ} (hr : Silent r) {f : γ → Step σ Unit} {g : γ → Step σ α}
    (h : ∀ c, Prints (f c) (g c) p) : Prints (r >>= f) (r >>= g) p := by
  intro s
  cases hrs : (r s).result with
  | error e =>
    rw [bind_of_error hrs, bind_of_error hrs]
    exact ⟨rfl, rfl⟩
  | ok c =>
    rw [bind_of_ok hrs, bind_of_ok hrs, hr s, List.nil_append]
    exact h c (r s).session

theorem seq (h : Prints m k p) (h' : Prints m' k' p') {c : α → β → γ}
    (hq : Returns k fun a => ∀ b, q (c a b) = p a ++ p' b) :
    Prints (m >>= fun _ => m') (k >>= fun a => k' >>= fun b => pure (c a b)) q := by
  intro s
  obtain ⟨hs, hk⟩ := h s
  cases hks : (k s).result with
  | error e =>
    rw [hks] at hk
    rw [bind_of_error hk, bind_of_error hks]
    exact ⟨hs, rfl⟩
  | ok a =>
    rw [hks] at hk
    obtain ⟨hm, hw⟩ := hk
    rw [bind_of_ok hm, bind_of_ok hks, hs]
    obtain ⟨hs', hk'⟩ := h' (k s).session
    cases hks' : (k' (k s).session).result with
    | error e =>
      rw [hks'] at hk'
      rw [bind_of_error hks']
      exact ⟨hs', hk'⟩
    | ok b =>
      rw [hks'] at hk'
      rw [bind_of_ok hks']
      exact ⟨hs', hk'.1, by rw [hw, hk'.2, hq s a hks b]⟩

theorem map (h : Prints m k p) {c : α → γ} (hq : ∀ a, q (c a) = p a) :
    Prints m (k >>= fun a => pure (c a)) q := by
  intro s
  obtain ⟨hs, hk⟩ := h s
  cases hks : (k s).result with
  | error e =>
    rw [hks] at hk
    rw [bind_of_error hks]
    exact ⟨hs, hk⟩
  | ok a =>
    rw [hks] at hk
    rw [bind_of_ok hks]
    exact ⟨hs, hk.1, hk.2.trans (hq a).symm⟩

theorem behind (h : Prints m k p) (text : List Char) :
    Prints (Step.write text >>= fun _ => m) k fun a => text ++ p a := by
  have hw : Prints (Step.write text) (pure () : Step σ Unit) fun _ => text := write rfl
  have hs := hw.seq h (c := fun _ a => a) (q := fun a => text ++ p a) fun _ _ _ _ => rfl
  rwa [Step.pure_bind, Step.bind_pure] at hs

theorem before (h : Prints m k p) (text : List Char) :
    Prints (m >>= fun _ => Step.write text) k fun a => p a ++ text := by
  have hw : Prints (Step.write text) (pure () : Step σ Unit) fun _ => text := write rfl
  have hs := h.seq hw (c := fun a _ => a) (q := fun a => p a ++ text) fun _ _ _ _ => rfl
  simpa only [Step.pure_bind, Step.bind_pure] using hs

theorem result_map {δ : Type} (h : Prints m k p) (s : Session σ) (f : List Char → δ) :
    (m s).result.map (fun _ => f (m s).written) = (k s).result.map fun a => f (p a) := by
  obtain ⟨_, hk⟩ := h s
  cases hr : (k s).result with
  | error e =>
    rw [hr] at hk
    rw [hk]
    rfl
  | ok a =>
    rw [hr] at hk
    rw [hk.1, hk.2]
    rfl

end Prints

end ElementMarkup.Step
