import ElementMarkup.Proofs.Render.Head

/-!
# Attributes in shorthand

An attribute is written as its name behind a colon and, if it has a value, by that value as an item
of its own; an id or a class may also be one word. Attributes that are written one after the other
are parsed to themselves, whatever children stand behind them. For any items, parsing stops before
the first one that is no shorthand, and nothing behind that item is looked at.
-/

set_option autoImplicit false

namespace ElementMarkup

variable {σ : Type}

/-- The values that an attribute is written as. -/
inductive Attribute.Noted : Attribute → List Value → Prop where
  | bare {name : String} (h : name ≠ "") : Noted ⟨name, .null⟩ [.word (":" ++ name)]
  | text {name s : String} (h : name ≠ "") : Noted ⟨name, .text s⟩ [.word (":" ++ name), .text s]
  | number {name : String} {n : Number} (h : name ≠ "") :
      Noted ⟨name, .number n⟩ [.word (":" ++ name), .number n]
  | id {s : String} (h : s ≠ "") : Noted ⟨"id", .text s⟩ [.word ("@" ++ s)]
  | class {s : String} (h : s ≠ "") : Noted ⟨"class", .text s⟩ [.word ("." ++ s)]

inductive Noted : List Attribute → List Value → Prop where
  | nil : Noted [] []
  | cons {a : Attribute} {as : List Attribute} {vs ws : List Value} (h : a.Noted vs)
      (hs : Noted as ws) : Noted (a :: as) (vs ++ ws)

structure Attribute.Simple (a : Attribute) : Prop where
  named : a.name ≠ ""
  value : a.value = .null ∨ (∃ s, a.value = .text s) ∨ ∃ n, a.value = .number n

def Attribute.spelled (a : Attribute) : List Value :=
  .word (":" ++ a.name) :: match a.value with
    | .text s => [.text s]
    | .number n => [.number n]
    | _ => []

theorem Attribute.Simple.noted {a : Attribute} (h : a.Simple) : a.Noted a.spelled := by
  obtain ⟨name, d⟩ := a
  obtain ⟨hn, rfl | ⟨s, rfl⟩ | ⟨n, rfl⟩⟩ := h
  · exact .bare hn
  · exact .text hn
  · exact .number hn

theorem noted_spelled {as : List Attribute} (h : ∀ a ∈ as, a.Simple) :
    Noted as (as.flatMap Attribute.spelled) := by
  induction as with
  | nil => exact .nil
  | cons a as ih =>
    rw [List.forall_mem_cons] at h
    exact .cons h.1.noted (ih h.2)

/-- The value is no shorthand, and it is no value for the last attribute if that has none. -/
def Value.Follows (v : Value) (as : List Attribute) : Prop :=
  v.shorthand? = none ∧ ∀ a ∈ as.getLast?, a.value = .null → v.attributeValue? = none

theorem Value.shorthand?_mark {m : Sigil} {name : String} (h : name ≠ "") :
    (Value.word (String.singleton m.char ++ name)).shorthand? = some (m, name) := by
  obtain ⟨c, cs, hc⟩ := List.exists_cons_of_ne_nil (mt String.toList_eq_nil_iff.1 h)
  have hname : String.ofList (c :: cs) = name := by rw [← hc, String.ofList_toList]
  cases m <;> simp [Value.shorthand?, shorthandText?, hc, Sigil.char, Sigil.ofChar?, hname]

theorem Noted.exists_word {a : Attribute} {as : List Attribute} {vs : List Value}
    (h : Noted (a :: as) vs) : ∃ name rest, vs = .word name :: rest := by
  cases h with
  | cons h _ => cases h <;> exact ⟨_, _, rfl⟩

theorem Value.Follows.tail {v : Value} {a : Attribute} {as : List Attribute}
    (h : v.Follows (a :: as)) : v.Follows as := by
  refine ⟨h.1, fun b hb hn => h.2 b ?_ hn⟩
  cases as with
  | nil => simp at hb
  | cons a' as => rwa [List.getLast?_cons_cons]

theorem attributeValue?_behind {name : String} {as : List Attribute} {ws children : List Value}
    {w : Value} {rest : List Value} (h : Noted as ws)
    (hc : ∀ v ∈ children.head?, v.Follows (⟨name, .null⟩ :: as)) (hw : ws ++ children = w :: rest) :
    w.attributeValue? = none := by
  cases as with
  | nil =>
    cases h
    obtain rfl : children = w :: rest := hw
    exact (hc w rfl).2 _ rfl rfl
  | cons b bs =>
    obtain ⟨text, ws', rfl⟩ := h.exists_word
    obtain ⟨rfl, -⟩ := List.cons.inj hw
    rfl

theorem headOf_noted {as : List Attribute} {vs children : List Value} (h : Noted as vs)
    (hc : ∀ v ∈ children.head?, v.Follows as) : headOf (vs ++ children) = ⟨vs.length, as⟩ := by
  induction h with
  | nil =>
    cases children with
    | nil => rfl
    | cons v children => exact headOf_child (hc v rfl).1 children
  | @cons a as vs ws ha hs ih =>
    have hrest : headOf (ws ++ children) = ⟨ws.length, as⟩ := ih fun v hv => (hc v hv).tail
    have hpush : (headOf (ws ++ children)).push vs.length a = ⟨(vs ++ ws).length, a :: as⟩ := by
      rw [hrest, Head.push, List.length_append]
    rw [← hpush, List.append_assoc]
    cases ha with
    | bare hn =>
      have hm := Value.shorthand?_mark (m := .nameMark) hn
      cases hw : ws ++ children with
      | nil => exact headOf_last hm
      | cons w rest => exact headOf_bare hm (attributeValue?_behind hs hc hw) rest
    | text hn => exact headOf_valued (Value.shorthand?_mark (m := .nameMark) hn) rfl _
    | number hn => exact headOf_valued (Value.shorthand?_mark (m := .nameMark) hn) rfl _
    | id hn => exact headOf_id (Value.shorthand?_mark (m := .idMark) hn) _
    | «class» hn => exact headOf_class (Value.shorthand?_mark (m := .classMark) hn) _

section

variable {resolve : Item → Step σ Value} {i : Item} {s : Session σ} {v : Value} {name : String}

theorem parseHead_child (hv : (resolve i s).result = .ok v) (hm : v.shorthand? = none)
    (is : List Item) :
    parseHead resolve (i :: is) s = (resolve i >>= fun _ => pure Head.none) s := by
  rw [parseHead, Step.bind_of_ok hv, Step.bind_of_ok hv]
  simp only [hm]

theorem parseHead_id (hv : (resolve i s).result = .ok v)
    (hm : v.shorthand? = some (.idMark, name)) (is : List Item) :
    parseHead resolve (i :: is) s = (resolve i >>= fun _ => parseHead resolve is >>= fun head =>
      pure (head.push 1 ⟨"id", .text name⟩)) s := by
  rw [parseHead, Step.bind_of_ok hv, Step.bind_of_ok hv]
  simp only [hm]

theorem parseHead_class (hv : (resolve i s).result = .ok v)
    (hm : v.shorthand? = some (.classMark, name)) (is : List Item) :
    parseHead resolve (i :: is) s = (resolve i >>= fun _ => parseHead resolve is >>= fun head =>
      pure (head.push 1 ⟨"class", .text name⟩)) s := by
  rw [parseHead, Step.bind_of_ok hv, Step.bind_of_ok hv]
  simp only [hm]

theorem parseHead_last (hv : (resolve i s).result = .ok v)
    (hm : v.shorthand? = some (.nameMark, name)) : parseHead resolve [i] s =
      (resolve i >>= fun _ => pure (Head.none.push 1 ⟨name, .null⟩)) s := by
  rw [parseHead, Step.bind_of_ok hv, Step.bind_of_ok hv]
  simp only [hm]

variable {next : Item} {w : Value}

theorem parseHead_valued {d : Datum} (hv : (resolve i s).result = .ok v)
    (hm : v.shorthand? = some (.nameMark, name))
    (hw : (resolve next (resolve i s).session).result = .ok w) (hd : w.attributeValue? = some d)
    (after : List Item) : parseHead resolve (i :: next :: after) s =
      (resolve i >>= fun _ => resolve next >>= fun _ => parseHead resolve after >>= fun head =>
        pure (head.push 2 ⟨name, d⟩)) s := by
  rw [parseHead, Step.bind_of_ok hv, Step.bind_of_ok hv]
  simp only [hm]
  rw [Step.bind_of_ok hw, Step.bind_of_ok hw]
  simp only [hd]

theorem parseHead_bare (hv : (resolve i s).result = .ok v)
    (hm : v.shorthand? = some (.nameMark, name))
    (hw : (resolve next (resolve i s).session).result = .ok w) (hd : w.attributeValue? = none)
    (after : List Item) : parseHead resolve (i :: next :: after) s =
      (resolve i >>= fun _ => resolve next >>= fun _ =>
        parseHead resolve (next :: after) >>= fun head => pure (head.push 1 ⟨name, .null⟩)) s := by
  rw [parseHead, Step.bind_of_ok hv, Step.bind_of_ok hv]
  simp only [hm]
  rw [Step.bind_of_ok hw, Step.bind_of_ok hw]
  simp only [hd]

end

theorem parseHead_values {resolve : Item → Step σ Value}
    (h : ∀ v : Value, resolve v.toItem = pure v) (vs : List Value) :
    parseHead resolve (vs.map Value.toItem) = pure (headOf vs) := by
  have hv (v : Value) (s : Session σ) : (resolve v.toItem s).result = .ok v := by
    rw [h]
    rfl
  funext s
  fun_induction headOf vs with
  | case1 => rfl
  | case2 v rest hm =>
    rw [List.map_cons, parseHead_child (hv v s) hm, h]
    rfl
  | case3 v rest name hm ih =>
    rw [List.map_cons, parseHead_id (hv v s) hm, h, pure_bind, Step.bind_apply_congr ih]
    rfl
  | case4 v rest name hm ih =>
    rw [List.map_cons, parseHead_class (hv v s) hm, h, pure_bind, Step.bind_apply_congr ih]
    rfl
  | case5 v name hm =>
    rw [List.map_cons, List.map_nil, parseHead_last (hv v s) hm, h]
    rfl
  | case6 v name hm next after d hd ih =>
    rw [List.map_cons, List.map_cons, parseHead_valued (hv v s) hm (hv next _) hd, h, h, pure_bind,
      pure_bind, Step.bind_apply_congr ih]
    rfl
  | case7 v name hm next after hd ih =>
    rw [List.map_cons] at ih
    rw [List.map_cons, List.map_cons, parseHead_bare (hv v s) hm (hv next _) hd, h, h, pure_bind,
      pure_bind, Step.bind_apply_congr ih]
    rfl

/-- Parsing reads the attribute `a` from the first `n` items: it looks at items and goes on behind
the attribute, and this depends on no item behind the next one. -/
structure Attribute.Read (resolve : Item → Step σ Value) (items : List Item) (s : Session σ)
    (n : Nat) (a : Attribute) (look : Step σ Value) : Prop where
  pos : 0 < n
  le : n ≤ items.length
  looked : ∃ w, (look s).result = .ok w
  run : ∀ tail, tail.head? = (items.drop n).head? → parseHead resolve (items.take n ++ tail) s =
    (look >>= fun _ => parseHead resolve tail >>= fun head => pure (head.push n a)) s

section

variable {resolve : Item → Step σ Value} {items : List Item} {s : Session σ} {h : Head}

/-- What parsing does first: it ends at a child, or it reads an attribute. -/
theorem parseHead_step {i : Item} {is : List Item}
    (hh : (parseHead resolve (i :: is) s).result = .ok h) :
    (∃ v, (resolve i s).result = .ok v ∧ v.shorthand? = none) ∨
      ∃ n a look, Attribute.Read resolve (i :: is) s n a look := by
  rw [parseHead, Step.bind_result_eq_ok_iff] at hh
  obtain ⟨v, hv, hh⟩ := hh
  cases hm : v.shorthand? with
  | none => exact .inl ⟨v, hv, hm⟩
  | some p =>
    refine .inr ?_
    obtain ⟨mark, name⟩ := p
    cases mark with
    | idMark =>
      exact ⟨1, _, resolve i, Nat.one_pos, by simp, ⟨v, hv⟩, fun tail _ => parseHead_id hv hm tail⟩
    | classMark =>
      exact ⟨1, _, resolve i, Nat.one_pos, by simp, ⟨v, hv⟩,
        fun tail _ => parseHead_class hv hm tail⟩
    | nameMark =>
      cases is with
      | nil =>
        refine ⟨1, ⟨name, .null⟩, resolve i, Nat.one_pos, by simp, ⟨v, hv⟩, fun tail ht => ?_⟩
        obtain rfl : tail = [] := List.head?_eq_none_iff.1 ht
        exact parseHead_last hv hm
      | cons next after =>
        simp only [hm] at hh
        rw [Step.bind_result_eq_ok_iff] at hh
        obtain ⟨w, hw, -⟩ := hh
        have hlook : ((resolve i >>= fun _ => resolve next) s).result = .ok w :=
          Step.bind_result_eq_ok_iff.2 ⟨v, hv, hw⟩
        -- Only an attribute without a value has looked at an item that it does not take up.
        cases hd : w.attributeValue? with
        | some d =>
          refine ⟨2, ⟨name, d⟩, resolve i >>= fun _ => resolve next, Nat.two_pos, by simp,
            ⟨w, hlook⟩, fun tail _ => ?_⟩
          rw [bind_assoc]
          exact parseHead_valued hv hm hw hd tail
        | none =>
          refine ⟨1, ⟨name, .null⟩, resolve i >>= fun _ => resolve next, Nat.one_pos, by simp,
            ⟨w, hlook⟩, fun tail ht => ?_⟩
          obtain ⟨other, rfl⟩ := List.head?_eq_some_iff.1 ht
          rw [bind_assoc]
          exact parseHead_bare hv hm hw hd other

theorem head?_take_append {α : Type} {l tail : List α} {n : ℕ}
    (h : tail.head? = (l.drop n).head?) : (l.take n ++ tail).head? = l.head? := by
  cases n with
  | zero => exact h
  | succ n =>
    cases l with
    | nil => exact h
    | cons a l => rfl

/-- `h` ends before the first item that is no shorthand, and no item behind that one matters. -/
structure Head.Stops (resolve : Item → Step σ Value) (items : List Item) (s : Session σ)
    (h : Head) : Prop where
  le : h.consumed ≤ items.length
  child : ∀ i ∈ (items.drop h.consumed).head?, ∃ t v, (resolve i t).result = .ok v ∧
    v.shorthand? = .none ∧ (resolve i t).session = (parseHead resolve items s).session
  run : ∀ tail, tail.head? = (items.drop h.consumed).head? →
    parseHead resolve (items.take h.consumed ++ tail) s = parseHead resolve items s

theorem Attribute.Read.stops {n : Nat} {a : Attribute} {look : Step σ Value}
    (hr : Attribute.Read resolve items s n a look)
    (hh : (parseHead resolve items s).result = .ok h)
    (ih : ∀ h', (parseHead resolve (items.drop n) (look s).session).result = .ok h' →
      Head.Stops resolve (items.drop n) (look s).session h') : Head.Stops resolve items s h := by
  have hrun := hr.run (items.drop n) rfl
  obtain ⟨w, hw⟩ := hr.looked
  rw [List.take_append_drop, Step.bind_of_ok hw] at hrun
  rw [hrun] at hh
  obtain ⟨h', hh', hpush⟩ := Step.bind_result_eq_ok_iff.1 hh
  obtain rfl : h'.push n a = h := Except.ok.inj hpush
  have hs := ih h' hh'
  have hsession : (parseHead resolve items s).session =
      (parseHead resolve (items.drop n) (look s).session).session := by
    rw [hrun, Step.bind_of_ok hh']
    rfl
  have hdrop : items.drop (h'.push n a).consumed = (items.drop n).drop h'.consumed := by
    rw [List.drop_drop]
    rfl
  constructor
  · have hle := hs.le
    rw [List.length_drop] at hle
    have := hr.le
    change n + h'.consumed ≤ _
    omega
  · rw [hdrop, hsession]
    exact hs.child
  · intro tail ht
    rw [hdrop] at ht
    -- The items behind the attribute start as before, so looking ahead gives the same.
    have htail := hr.run _ (head?_take_append ht)
    rw [← List.append_assoc, ← List.take_add, Step.bind_of_ok hw,
      Step.bind_apply_congr (hs.run tail ht)] at htail
    exact htail.trans hrun.symm

theorem parseHead_stops (hh : (parseHead resolve items s).result = .ok h) :
    Head.Stops resolve items s h := by
  induction hn : items.length using Nat.strong_induction_on generalizing items s h with
  | _ n ih =>
    subst hn
    cases items with
    | nil =>
      obtain rfl : Head.none = h := Except.ok.inj hh
      refine ⟨Nat.le_refl _, by simp, fun tail ht => ?_⟩
      obtain rfl : tail = [] := List.head?_eq_none_iff.1 ht
      rfl
    | cons i is =>
      rcases parseHead_step hh with ⟨v, hv, hm⟩ | ⟨n, a, look, hr⟩
      · have hrun (other : List Item) := parseHead_child hv hm other
        rw [hrun is, Step.bind_of_ok hv] at hh
        obtain rfl : Head.none = h := Except.ok.inj hh
        refine ⟨Nat.zero_le _, fun j hj => ?_, fun tail ht => ?_⟩
        · obtain rfl : i = j := Option.some.inj hj
          refine ⟨s, v, hv, hm, ?_⟩
          rw [hrun, Step.bind_of_ok hv]
          rfl
        · obtain ⟨other, rfl⟩ := List.head?_eq_some_iff.1 ht
          exact (hrun other).trans (hrun is).symm
      · have hlt : ((i :: is).drop n).length < (i :: is).length := by
          have := hr.pos
          rw [List.length_drop, List.length_cons]
          omega
        exact hr.stops hh fun h' hh' => ih _ hlt hh' rfl

end

/-- Parsing gives back the attributes that items in shorthand stand for, and takes up these items
alone, if the child behind them is no shorthand and no value for the last attribute. Whatever the
items are and however they are resolved, it stops before the first item that is no shorthand and
does not depend on what is behind that item. -/
theorem parseHead_shorthand :
    (∀ resolve : Item → Step σ Value, (∀ v : Value, resolve v.toItem = pure v) →
      ∀ (as : List Attribute) (vs children : List Value), Noted as vs →
        (∀ v ∈ children.head?, v.Follows as) →
          parseHead resolve ((vs ++ children).map Value.toItem) = pure ⟨vs.length, as⟩) ∧
    ∀ (resolve : Item → Step σ Value) (items : List Item) (s : Session σ) (h : Head),
      (parseHead resolve items s).result = .ok h → Head.Stops resolve items s h := by
  constructor
  · intro resolve hr as vs children hn hc
    rw [parseHead_values hr, headOf_noted hn hc]
  · intro resolve items s h hh
    exact parseHead_stops hh

/-- Attributes without a value stand before words, and a text that looks like a class is a value. -/
def styled : List Attribute :=
  [⟨"hidden", .null⟩, ⟨"id", .text "main"⟩, ⟨"title", .text ".a"⟩, ⟨"class", .text "b"⟩,
    ⟨"checked", .null⟩]

def styledValues : List Value :=
  [.word ":hidden", .word "@main", .word ":title", .text ".a", .word ".b", .word ":checked"]

theorem noted_styled : Noted styled styledValues :=
  .cons (.bare (by decide : "hidden" ≠ "")) (.cons (.id (by decide : "main" ≠ ""))
    (.cons (.text (by decide : "title" ≠ "")) (.cons (.class (by decide : "b" ≠ ""))
      (.cons (.bare (by decide : "checked" ≠ "")) .nil))))

def styleSession : Session Expression.Scope :=
  Session.start (Expression.Scope.ofContext
    [(.text "cls", .text ".wide"), (.text "size", .number (.int 10))])

/-- An expression is a class, another one is a value, and the fourth item is a child. -/
def styledItems : List Item :=
  [.expression "cls", .text ":size", .expression "size", .text "five", .word "@late"]

theorem parseHead_shorthand_styled :
    parseHead (resolve Expression.evaluate)
          ((styledValues ++ [Value.word "five"]).map Value.toItem) = pure ⟨6, styled⟩ ∧
      (parseHead (resolve Expression.evaluate) styledItems styleSession).result =
        .ok ⟨3, [⟨"class", .text "wide"⟩, ⟨"size", .number (.int 10)⟩]⟩ ∧
      parseHead (resolve Expression.evaluate)
          (styledItems.take 3 ++ [.text "five", .expression "no"]) styleSession =
        parseHead (resolve Expression.evaluate) styledItems styleSession := by
  have hparse : (parseHead (resolve Expression.evaluate) styledItems styleSession).result =
      .ok ⟨3, [⟨"class", .text "wide"⟩, ⟨"size", .number (.int 10)⟩]⟩ := by cbv
  have hvalues (v : Value) :
      resolve Expression.evaluate v.toItem = pure v := resolve_of_value? _ v.value?_toItem
  have hfollows : ∀ v ∈ [Value.word "five"].head?, v.Follows styled := by
    intro v hv
    obtain rfl : Value.word "five" = v := Option.some.inj hv
    exact ⟨rfl, fun _ _ _ => rfl⟩
  obtain ⟨hinverse, hstops⟩ := parseHead_shorthand (σ := Expression.Scope)
  exact ⟨hinverse _ hvalues styled styledValues _ noted_styled hfollows, hparse,
    (hstops _ styledItems _ _ hparse).run [.text "five", .expression "no"] rfl⟩

end ElementMarkup
