import ElementMarkup.Proofs.Render.Content
import ElementMarkup.Proofs.Render.Course

/-!
# The head of an element whose items are resolved

Splitting the items of an element into attributes and children looks one item ahead and looks at
the first child again. A value that is known is not evaluated again, so this resolves every item
once and from left to right, and the split is the one that the resolved values have.
-/

set_option autoImplicit false

namespace ElementMarkup

variable {σ α : Type}

/-- The attributes at the head of values, and the number of values that they take up. -/
def headOf : List Value → Head
  | [] => Head.none
  | v :: rest =>
    match v.shorthand? with
    | .none => Head.none
    | some (.idMark, name) => (headOf rest).push 1 ⟨"id", .text name⟩
    | some (.classMark, name) => (headOf rest).push 1 ⟨"class", .text name⟩
    | some (.nameMark, name) =>
      match rest with
      | [] => Head.none.push 1 ⟨name, .null⟩
      | next :: after =>
        match next.attributeValue? with
        | some d => (headOf after).push 2 ⟨name, d⟩
        | .none => (headOf (next :: after)).push 1 ⟨name, .null⟩

def childrenOf (vs : List Value) : List Value := vs.drop (headOf vs).consumed

theorem headOf_child {v : Value} (h : v.shorthand? = none) (vs : List Value) :
    headOf (v :: vs) = Head.none := by
  unfold headOf
  rw [h]

theorem headOf_id {v : Value} {name : String} (h : v.shorthand? = some (.idMark, name))
    (vs : List Value) : headOf (v :: vs) = (headOf vs).push 1 ⟨"id", .text name⟩ := by
  rw [headOf.eq_def]
  dsimp only
  rw [h]

theorem headOf_class {v : Value} {name : String} (h : v.shorthand? = some (.classMark, name))
    (vs : List Value) : headOf (v :: vs) = (headOf vs).push 1 ⟨"class", .text name⟩ := by
  rw [headOf.eq_def]
  dsimp only
  rw [h]

theorem headOf_last {v : Value} {name : String} (h : v.shorthand? = some (.nameMark, name)) :
    headOf [v] = Head.none.push 1 ⟨name, .null⟩ := by
  rw [headOf.eq_def]
  dsimp only
  rw [h]

theorem headOf_valued {v w : Value} {name : String} {d : Datum}
    (h : v.shorthand? = some (.nameMark, name)) (hw : w.attributeValue? = some d)
    (vs : List Value) : headOf (v :: w :: vs) = (headOf vs).push 2 ⟨name, d⟩ := by
  rw [headOf.eq_def]
  dsimp only
  rw [h]
  dsimp only
  rw [hw]

theorem headOf_bare {v w : Value} {name : String} (h : v.shorthand? = some (.nameMark, name))
    (hw : w.attributeValue? = none) (vs : List Value) :
    headOf (v :: w :: vs) = (headOf (w :: vs)).push 1 ⟨name, .null⟩ := by
  rw [headOf.eq_def]
  dsimp only
  rw [h]
  dsimp only
  rw [hw]

/-- The positions among values at which a value is looked for, for the name in front of it. -/
def valuePositions : List Value → List Nat
  | [] => []
  | v :: rest =>
    match v.shorthand? with
    | none => []
    | some (.idMark, _) | some (.classMark, _) => (valuePositions rest).map (· + 1)
    | some (.nameMark, _) =>
      match rest with
      | [] => []
      | next :: after =>
        match next.attributeValue? with
        | some _ => 1 :: (valuePositions after).map (· + 2)
        | none => 1 :: (valuePositions (next :: after)).map (· + 1)

theorem Head.consumed_push (n : Nat) (a : Attribute) (h : Head) :
    (h.push n a).consumed = n + h.consumed := rfl

def BehindName (vs : List Value) (j : Nat) : Prop :=
  ∃ i v name, j = i + 1 ∧ j < vs.length ∧ i < (headOf vs).consumed ∧ vs[i]? = some v ∧
    v.shorthand? = some (.nameMark, name)

theorem BehindName.append (front : List Value) {rest : List Value} {a : Attribute}
    (hhead : headOf (front ++ rest) = (headOf rest).push front.length a) {j : Nat}
    (h : BehindName rest j) : BehindName (front ++ rest) (j + front.length) := by
  obtain ⟨i, v, name, rfl, hlength, hi, hv, hname⟩ := h
  refine ⟨i + front.length, v, name, Nat.add_right_comm _ _ _, ?_, ?_, ?_, hname⟩
  · rw [List.length_append]
    omega
  · rw [hhead, Head.consumed_push]
    omega
  · rw [List.getElem?_append_right (Nat.le_add_left _ _), Nat.add_sub_cancel]
    exact hv

theorem behindName_of_mem_valuePositions {vs : List Value} {j : Nat} (h : j ∈ valuePositions vs) :
    BehindName vs j := by
  fun_induction valuePositions vs generalizing j with
  | case1 | case2 | case5 => cases h
  | case3 v rest name hm ih =>
    obtain ⟨k, hk, rfl⟩ := List.mem_map.1 h
    exact BehindName.append [v] (headOf_id hm rest) (ih hk)
  | case4 v rest name hm ih =>
    obtain ⟨k, hk, rfl⟩ := List.mem_map.1 h
    exact BehindName.append [v] (headOf_class hm rest) (ih hk)
  | case6 v name hm next after d hd ih =>
    have hhead := headOf_valued hm hd after
    rcases List.mem_cons.1 h with rfl | h
    · refine ⟨0, v, name, rfl, by simp, ?_, rfl, hm⟩
      rw [hhead, Head.consumed_push]
      omega
    · obtain ⟨k, hk, rfl⟩ := List.mem_map.1 h
      exact BehindName.append [v, next] hhead (ih hk)
  | case7 v name hm next after hd ih =>
    have hhead := headOf_bare hm hd after
    rcases List.mem_cons.1 h with rfl | h
    · refine ⟨0, v, name, rfl, by simp, ?_, rfl, hm⟩
      rw [hhead, Head.consumed_push]
      omega
    · obtain ⟨k, hk, rfl⟩ := List.mem_map.1 h
      exact BehindName.append [v] hhead (ih hk)

/-- A head is read off from the shorthand of the values, and from their values where one is looked
for. -/
theorem headOf_congr {vs ws : List Value}
    (hm : ws.map Value.shorthand? = vs.map Value.shorthand?)
    (hd : ∀ j ∈ valuePositions vs,
      (ws.map Value.attributeValue?)[j]? = (vs.map Value.attributeValue?)[j]?) :
    headOf ws = headOf vs := by
  fun_induction valuePositions vs generalizing ws with
  | case1 => rw [List.map_eq_nil_iff.1 hm]
  | case2 v rest hv =>
    obtain ⟨w, ws, rfl, hw, -⟩ := List.map_eq_cons_iff.1 hm
    rw [headOf_child (hw.trans hv), headOf_child hv]
  | case3 v rest name hv ih =>
    obtain ⟨w, ws, rfl, hw, hws⟩ := List.map_eq_cons_iff.1 hm
    have hrest := ih hws fun j hj => hd (j + 1) (List.mem_map_of_mem hj)
    rw [headOf_id (hw.trans hv), headOf_id hv, hrest]
  | case4 v rest name hv ih =>
    obtain ⟨w, ws, rfl, hw, hws⟩ := List.map_eq_cons_iff.1 hm
    have hrest := ih hws fun j hj => hd (j + 1) (List.mem_map_of_mem hj)
    rw [headOf_class (hw.trans hv), headOf_class hv, hrest]
  | case5 v name hv =>
    obtain ⟨w, ws, rfl, hw, hws⟩ := List.map_eq_cons_iff.1 hm
    obtain rfl := List.map_eq_nil_iff.1 hws
    rw [headOf_last (hw.trans hv), headOf_last hv]
  | case6 v name hv next after d hnext ih =>
    obtain ⟨w, ws, rfl, hw, hws⟩ := List.map_eq_cons_iff.1 hm
    obtain ⟨w', ws, rfl, -, hafter⟩ := List.map_eq_cons_iff.1 hws
    rw [List.forall_mem_cons] at hd
    have hvalue : w'.attributeValue? = some d := (Option.some.inj hd.1).trans hnext
    have hrest := ih hafter fun j hj => hd.2 (j + 2) (List.mem_map_of_mem hj)
    rw [headOf_valued (hw.trans hv) hvalue, headOf_valued hv hnext, hrest]
  | case7 v name hv next after hnext ih =>
    obtain ⟨w, ws, rfl, hw, hws⟩ := List.map_eq_cons_iff.1 hm
    rw [List.forall_mem_cons] at hd
    -- The value that is looked for and not found is the next to be read.
    have hrest := ih hws fun j hj => hd.2 (j + 1) (List.mem_map_of_mem hj)
    obtain ⟨w', ws, rfl, -, -⟩ := List.map_eq_cons_iff.1 hws
    have hvalue : w'.attributeValue? = none := (Option.some.inj hd.1).trans hnext
    rw [headOf_bare (hw.trans hv) hvalue, headOf_bare hv hnext, hrest]

/-- An item that has been resolved has the same value again, and nothing is evaluated for it. -/
theorem resolve_again {evaluate : Evaluator σ} {i : Item} {s : Session σ} {v : Value}
    (h : (resolve evaluate i s).result = .ok v) :
    resolve evaluate i (resolve evaluate i s).session =
      ⟨[], (resolve evaluate i s).session, .ok v⟩ := by
  cases i with
  | expression source => exact resolve_of_lookup (lookup_of_resolve h)
  | text | number | word | element =>
    obtain rfl := Except.ok.inj h
    rfl

theorem bind_resolve_again {evaluate : Evaluator σ} {i : Item} {s : Session σ} {v : Value}
    (h : (resolve evaluate i s).result = .ok v) (f : Value → Step σ α) :
    (resolve evaluate i >>= f) (resolve evaluate i s).session =
      f v (resolve evaluate i s).session := by
  have hagain := resolve_again h
  have hok : (resolve evaluate i (resolve evaluate i s).session).result = .ok v := by rw [hagain]
  rw [Step.bind_of_ok hok, hagain, List.nil_append]

def splitItems (evaluate : Evaluator σ) (items : List Item) : Step σ (Head × List Value) := do
  let head ← parseHead (resolve evaluate) items
  let children ← resolveAll evaluate (items.drop head.consumed)
  return (head, children)

def splitValues (vs : List Value) : Head × List Value := (headOf vs, childrenOf vs)

theorem splitValues_of_child {v : Value} (h : v.shorthand? = none) (vs : List Value) :
    splitValues (v :: vs) = (Head.none, v :: vs) := by
  rw [splitValues, childrenOf, headOf_child h]
  rfl

theorem splitItems_push {evaluate : Evaluator σ} {rest : List Item}
    (h : splitItems evaluate rest = resolveAll evaluate rest >>= fun vs => pure (splitValues vs))
    (items : List Item) (a : Attribute) :
    ((parseHead (resolve evaluate) rest >>= fun head => pure (head.push items.length a)) >>=
        fun head => resolveAll evaluate ((items ++ rest).drop head.consumed) >>= fun children =>
          pure (head, children)) =
      resolveAll evaluate rest >>= fun vs =>
        pure ((headOf vs).push items.length a, childrenOf vs) := by
  have hpair := congrArg (· >>= fun p => (pure (p.1.push items.length a, p.2) :
    Step σ (Head × List Value))) h
  simp only [splitItems, bind_assoc, pure_bind, splitValues] at hpair
  rw [← hpair, bind_assoc]
  congr 1
  funext head
  rw [pure_bind, Head.push, List.drop_length_add_append]

theorem splitValues_push {values vs : List Value} {n : Nat} {a : Attribute}
    (h : headOf values = (headOf vs).push n a) (hv : values.drop n = vs) :
    splitValues values = ((headOf vs).push n a, childrenOf vs) := by
  rw [splitValues, childrenOf, h, Head.push, ← List.drop_drop, hv]
  rfl

/-- Splitting items resolves each of them once, in order, and splits the values. -/
theorem splitItems_eq (evaluate : Evaluator σ) (items : List Item) :
    splitItems evaluate items =
      resolveAll evaluate items >>= fun vs => pure (splitValues vs) := by
  induction items using parseHead.induct with
  | case1 => rfl
  | case2 i is ih ihs =>
    rw [splitItems, parseHead, resolveAll, bind_assoc, bind_assoc]
    refine Step.bind_congr_reached fun s v hv => ?_
    rw [bind_assoc]
    simp only [pure_bind]
    cases hm : v.shorthand? with
    | none =>
      -- The first child is looked at again.
      dsimp only
      rw [pure_bind, Head.none, List.drop_zero, resolveAll, bind_assoc, bind_resolve_again hv]
      simp only [bind_assoc, pure_bind, splitValues_of_child hm]
      rfl
    | some p =>
      obtain ⟨mark, name⟩ := p
      cases mark with
      | idMark =>
        have hvalues (vs : List Value) := splitValues_push (headOf_id hm vs) rfl
        simp only [hvalues]
        exact congrFun (splitItems_push ih [i] _) _
      | classMark =>
        have hvalues (vs : List Value) := splitValues_push (headOf_class hm vs) rfl
        simp only [hvalues]
        exact congrFun (splitItems_push ih [i] _) _
      | nameMark =>
        cases is with
        | nil =>
          have hvalues : splitValues [v] = (Head.none.push 1 ⟨name, .null⟩, []) := by
            rw [splitValues, childrenOf, headOf_last hm]
            rfl
          dsimp only
          rw [pure_bind, resolveAll, pure_bind, hvalues]
          rfl
        | cons next after =>
          dsimp only
          rw [resolveAll, bind_assoc, bind_assoc]
          refine congrFun (Step.bind_congr_reached fun s' w hw => ?_) _
          rw [bind_assoc]
          simp only [pure_bind]
          cases hd : w.attributeValue? with
          | some d =>
            have hvalues (vs : List Value) := splitValues_push (headOf_valued hm hd vs) rfl
            simp only [hvalues]
            exact congrFun (splitItems_push ihs.1 [i, next] _) _
          | none =>
            -- The item that is no value is looked at again, as the first one behind the name.
            have hvalues (vs : List Value) := splitValues_push (headOf_bare hm hd vs) rfl
            simp only [hvalues]
            have hrest := congrFun (splitItems_push ih [i] ⟨name, .null⟩)
              (resolve evaluate next s').session
            rw [resolveAll, bind_assoc (resolve evaluate next), bind_resolve_again hw,
              bind_assoc (resolveAll evaluate after)] at hrest
            simp only [pure_bind] at hrest
            exact hrest

theorem bind_split (evaluate : Evaluator σ) (items : List Item)
    (f : List Attribute → List Value → Step σ α) :
    (parseHead (resolve evaluate) items >>= fun head =>
        resolveAll evaluate (items.drop head.consumed) >>= fun children =>
          f head.attributes children) =
      resolveAll evaluate items >>= fun vs => f (headOf vs).attributes (childrenOf vs) := by
  have hsplit := congrArg (· >>= fun p : Head × List Value => f p.1.attributes p.2)
    (splitItems_eq evaluate items)
  simpa only [splitItems, splitValues, bind_assoc, pure_bind] using hsplit

theorem expand_succ (o : Options) (evaluate : Evaluator σ) (depth : Nat) (e : Element) :
    expand o evaluate (depth + 1) e = checkTag o e.tag >>= fun _ =>
      resolveAll evaluate e.args >>= fun vs =>
        elementContent o (expand o evaluate depth) e.tag (headOf vs).attributes
          (childrenOf vs) := by
  rw [expand, bind_split evaluate e.args (elementContent o (expand o evaluate depth) e.tag)]

theorem renderElement_succ (o : Options) (broken : Bool) (evaluate : Evaluator σ) (depth : Nat)
    (root : Bool) (e : Element) :
    renderElement o broken evaluate (depth + 1) root e = checkTag o e.tag >>= fun _ =>
      resolveAll evaluate e.args >>= fun vs =>
        writeElement o broken (renderElement o broken evaluate depth false) root e.tag
          (headOf vs).attributes (childrenOf vs) := by
  rw [renderElement, bind_split evaluate e.args
    (writeElement o broken (renderElement o broken evaluate depth false) root e.tag)]

end ElementMarkup
