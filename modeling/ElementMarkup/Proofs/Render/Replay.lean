import ElementMarkup.Proofs.Render.Parts
import ElementMarkup.Render.Renderer

/-!
# Repeated calls of a renderer

The values that a session knows are never dropped and never replaced, whatever becomes of a step.
A step that has succeeded asks for no other values when it is taken again, so it succeeds again
from any later session: with the same result, with the same text, and without an evaluation. For a
renderer this says that a call which has succeeded once writes the same text ever after.
-/

set_option autoImplicit false

namespace ElementMarkup

variable {σ α β : Type}

/-- What is known in `s` is known in `t`, with the same value. -/
def Session.Extends (t s : Session σ) : Prop :=
  ∀ source v, s.known.lookup source = some v → t.known.lookup source = some v

theorem Session.Extends.refl (s : Session σ) : s.Extends s := fun _ _ h => h

theorem Session.Extends.trans {s t u : Session σ} (hu : u.Extends t) (ht : t.Extends s) :
    u.Extends s := fun source v h => hu source v (ht source v h)

namespace Step

/-- The step drops no value, and it does the same again wherever all is known that it has left. -/
structure Settles (m : Step σ α) : Prop where
  extend : ∀ s, (m s).session.Extends s
  again : ∀ s a, (m s).result = .ok a → ∀ t : Session σ, t.Extends (m s).session →
    m t = ⟨(m s).written, t, .ok a⟩

theorem settles_pure (a : α) : Settles (pure a : Step σ α) where
  extend s := .refl s
  again s b hb t _ := by
    obtain rfl : a = b := Except.ok.inj hb
    rfl

theorem settles_fail (e : RenderError) : Settles (fail e : Step σ α) where
  extend s := .refl s
  again s a ha := by simp [fail] at ha

theorem settles_write (text : List Char) : Settles (write text : Step σ Unit) where
  extend s := .refl s
  again _ _ _ _ _ := rfl

theorem Settles.bind {m : Step σ α} {f : α → Step σ β} (hm : Settles m)
    (hf : ∀ a, Settles (f a)) : Settles (m >>= f) where
  extend s := by
    cases hr : (m s).result with
    | error e =>
      rw [bind_of_error hr]
      exact hm.extend s
    | ok a =>
      rw [bind_of_ok hr]
      exact ((hf a).extend _).trans (hm.extend s)
  again s b hb t ht := by
    cases hr : (m s).result with
    | error e =>
      rw [bind_of_error hr] at hb
      simp at hb
    | ok a =>
      rw [bind_of_ok hr] at hb ht ⊢
      -- The later session knows what the first step has left, as the second step drops nothing.
      have hfirst := hm.again s a hr t (ht.trans ((hf a).extend _))
      have hok : (m t).result = .ok a := by rw [hfirst]
      rw [bind_of_ok hok, hfirst, (hf a).again _ b hb t ht]

theorem compositional_settles : Compositional fun {α} (m : Step σ α) => Settles m :=
  ⟨settles_pure, Settles.bind⟩

end Step

theorem resolve_settles (evaluate : Evaluator σ) (i : Item) :
    Step.Settles (resolve evaluate i) := by
  cases i with
  | text | number | word | element => exact Step.settles_pure _
  | expression source =>
    constructor
    · intro s
      rcases resolve_expression evaluate source s with ⟨_, _, hr⟩ | ⟨hn, d, state, v, _, _, hr⟩ |
        ⟨_, _, _, _, _, hr⟩
      · rw [hr]
        exact .refl s
      · rw [hr]
        intro source' v' h
        have hne : source' ≠ source := by
          rintro rfl
          simp [hn] at h
        rw [List.lookup_cons, beq_eq_false_iff_ne.2 hne]
        exact h
      · rw [hr]
        exact .refl s
    · intro s v hv t ht
      have hlater := ht source v (lookup_of_resolve hv)
      rw [resolve_of_lookup hlater, resolve_silent evaluate (.expression source) s]

theorem ofParts_settles (evaluate : Evaluator σ) :
    Step.OfParts evaluate fun {α} (m : Step σ α) => Step.Settles m where
  toCompositional := Step.compositional_settles
  write := Step.settles_write
  fail _ := Step.settles_fail _
  resolve := resolve_settles evaluate

namespace Renderer

variable {r : Renderer σ}

theorem render_settles (r : Renderer σ) (root : Bool) (e : Element) :
    Step.Settles (r.render root e) :=
  renderElement_of (ofParts_settles r.evaluate) r.options r.broken r.depth root e

theorem call_settles (r : Renderer σ) (c : Call) : Step.Settles (r.call c) := by
  have hparts := ofParts_settles r.evaluate
  cases c with
  | render e root => exact r.render_settles root e
  | write tag attributes children root =>
    refine Step.Settles.bind ?_ fun attrs =>
      writeElement_of hparts (r.render_settles false) r.options r.broken root tag attrs children
    unfold givenAttributes
    split
    · exact Step.settles_pure _
    · exact Step.settles_fail _
    · exact Step.settles_fail _
  | check tag => exact checkTag_of hparts r.options tag
  | resolve i => exact (resolve_settles r.evaluate i).bind fun _ => Step.settles_pure _

theorem after_extends (r : Renderer σ) (s : Session σ) (calls : List Call) :
    (r.after s calls).Extends s := by
  induction calls generalizing s with
  | nil => exact .refl s
  | cons c calls ih => exact (ih _).trans ((r.call_settles c).extend s)

theorem after_append (r : Renderer σ) (s : Session σ) (calls calls' : List Call) :
    r.after s (calls ++ calls') = r.after (r.after s calls) calls' := List.foldl_append

/-- In any course of calls, a call that has succeeded once succeeds whenever it is made again: it
writes the same text, and nothing is evaluated for it. -/
theorem call_again (r : Renderer σ) (s : Session σ) (before between : List Call) (c : Call)
    (h : (r.call c (r.after s before)).result = .ok ()) :
    r.call c (r.after s (before ++ c :: between)) =
      ⟨(r.call c (r.after s before)).written, r.after s (before ++ c :: between), .ok ()⟩ := by
  have hlater : (r.after s (before ++ c :: between)).Extends
      (r.call c (r.after s before)).session := by
    rw [after_append]
    exact r.after_extends _ between
  exact (r.call_settles c).again _ () h _ hlater

/-- Gives one mark more at each evaluation, whatever the source is. -/
def tally : Evaluator Nat := fun _ n => (.ok (.text (String.ofList (List.replicate n 'x'))), n + 1)

def tallying : Renderer Nat := ⟨{}, true, tally, 3⟩

def tallied : Call := .render ⟨"p", [.expression "a"]⟩ false

/-- Evaluates another source, and fails behind its opening tag. -/
def talliedWrongly : Call := .render ⟨"div", [.expression "b", .element "no" []]⟩ false

theorem call_again_tallied :
    (tallying.call tallied (Session.start 1)).written = "<p>x</p>\n".toList ∧
      (tallying.call talliedWrongly (tallying.after (Session.start 1) [tallied])).written =
        "<div>\nxx\n".toList ∧
      (tallying.call talliedWrongly (tallying.after (Session.start 1) [tallied])).result =
        .error (.invalidTag "no") ∧
      (tallying.call tallied
        (tallying.after (Session.start 1) ([] ++ tallied :: [talliedWrongly]))).written =
          "<p>x</p>\n".toList := by
  have hfirst : (tallying.call tallied (tallying.after (Session.start 1) [])).result = .ok () := by
    cbv
  have hwritten : (tallying.call tallied (tallying.after (Session.start 1) [])).written =
      "<p>x</p>\n".toList := by cbv
  refine ⟨hwritten, by cbv, by cbv, ?_⟩
  rw [tallying.call_again (Session.start 1) [] [talliedWrongly] tallied hfirst]
  exact hwritten

end Renderer

end ElementMarkup
