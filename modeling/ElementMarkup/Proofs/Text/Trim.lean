import Mathlib.Data.List.TakeWhile
import ElementMarkup.Text.Basic

/-!
# Trimming

A trimmed text is what lies between two margins of dropped characters, and it neither starts nor
ends with a dropped character. These two facts determine it.
-/

set_option autoImplicit false

namespace ElementMarkup.Text

variable {p : Char → Bool}

def Bare (p : Char → Bool) (cs : List Char) : Prop :=
  (∀ c ∈ cs.head?, p c = false) ∧ ∀ c ∈ cs.getLast?, p c = false

theorem Bare.append {a b : List Char} (ha : Bare p a) (hb : Bare p b) (c : List Char)
    (hae : a ≠ []) (hbe : b ≠ []) : Bare p (a ++ (c ++ b)) := by
  constructor
  · obtain ⟨x, a, rfl⟩ := List.exists_cons_of_ne_nil hae
    exact ha.1
  · obtain ⟨y, hy⟩ := Option.isSome_iff_exists.1 (List.getLast?_isSome.2 hbe)
    rw [List.getLast?_append, List.getLast?_append, hy, Option.some_or, Option.some_or, ← hy]
    exact hb.2

theorem dropWhile_head (cs : List Char) : ∀ c ∈ (cs.dropWhile p).head?, p c = false := by
  intro c hc
  have h := List.head?_dropWhile_not p cs
  rw [Option.mem_def.1 hc] at h
  exact h

theorem dropWhile_of_head {cs : List Char} (h : ∀ c ∈ cs.head?, p c = false) :
    cs.dropWhile p = cs := by
  cases cs with
  | nil => rfl
  | cons c cs => simp [h c rfl]

theorem dropTrailing_append (cs : List Char) :
    ∃ b, cs = dropTrailing p cs ++ b ∧ ∀ c ∈ b, p c = true := by
  refine ⟨(cs.reverse.takeWhile p).reverse, ?_, ?_⟩
  · rw [dropTrailing, ← List.reverse_append, List.takeWhile_append_dropWhile, List.reverse_reverse]
  · intro c hc
    exact List.mem_takeWhile_imp (List.mem_reverse.1 hc)

theorem dropTrailing_getLast? (cs : List Char) :
    (dropTrailing p cs).getLast? = cs.reverse.find? fun c => !p c := by
  rw [dropTrailing, List.getLast?_reverse, List.find?_not_eq_head?_dropWhile]

theorem trimBy_append (cs : List Char) : ∃ a b, cs = a ++ (trimBy p cs ++ b) ∧
    (∀ c ∈ a, p c = true) ∧ ∀ c ∈ b, p c = true := by
  obtain ⟨b, hb, hbp⟩ := dropTrailing_append (p := p) (cs.dropWhile p)
  refine ⟨cs.takeWhile p, b, ?_, fun c hc => List.mem_takeWhile_imp hc, hbp⟩
  rw [trimBy, ← hb, List.takeWhile_append_dropWhile]

theorem trimBy_bare (cs : List Char) : Bare p (trimBy p cs) := by
  constructor
  · intro c hc
    obtain ⟨b, hb, _⟩ := dropTrailing_append (p := p) (cs.dropWhile p)
    apply dropWhile_head cs c
    rw [hb, List.head?_append, Option.mem_def, Option.or_eq_some_iff]
    exact .inl hc
  · intro c hc
    rw [trimBy, dropTrailing, List.getLast?_reverse] at hc
    exact dropWhile_head _ c hc

theorem trimBy_eq {a k b : List Char} (ha : ∀ c ∈ a, p c = true) (hk : Bare p k)
    (hb : ∀ c ∈ b, p c = true) : trimBy p (a ++ (k ++ b)) = k := by
  rw [trimBy, List.dropWhile_append_of_pos ha]
  by_cases hn : k = []
  · subst k
    rw [List.nil_append, List.dropWhile_eq_nil_iff.2 hb]
    rfl
  · have hh : ∀ c ∈ (k ++ b).head?, p c = false := by
      obtain ⟨c, k, rfl⟩ := List.exists_cons_of_ne_nil hn
      exact hk.1
    have hl : ∀ c ∈ k.reverse.head?, p c = false := by
      rw [List.head?_reverse]
      exact hk.2
    rw [dropWhile_of_head hh, dropTrailing, List.reverse_append,
      List.dropWhile_append_of_pos fun c hc => hb c (List.mem_reverse.1 hc), dropWhile_of_head hl,
      List.reverse_reverse]

end ElementMarkup.Text
