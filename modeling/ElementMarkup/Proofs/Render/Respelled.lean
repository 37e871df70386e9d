import ElementMarkup.Proofs.Render.Given
import ElementMarkup.Proofs.Render.Head

/-!
# Words for texts, texts for words

A word and a text with the same characters are told apart in one place only: behind the name of an
attribute, where a text is taken for its value. Everywhere else in a tree either may stand for the
other, and the rendering stays as it is, or fails with the same error. A place in a tree is a path:
the positions of the items that lead to it from the root.
-/

set_option autoImplicit false

namespace ElementMarkup

variable {σ α β γ δ : Type}

mutual

/-- The item with words for texts and texts for words at the given places. -/
def Item.respell (places : List Nat → Bool) : Item → Item
  | .text s => if places [] then .word s else .text s
  | .word s => if places [] then .text s else .word s
  | .number n => .number n
  | .expression source => .expression source
  | .element tag args => .element tag (Item.respellAll places 0 args)

def Item.respellAll (places : List Nat → Bool) (i : Nat) : List Item → List Item
  | [] => []
  | item :: rest =>
    item.respell (fun p => places (i :: p)) :: Item.respellAll places (i + 1) rest

end

def Element.respell (places : List Nat → Bool) (e : Element) : Element :=
  ⟨e.tag, Item.respellAll places 0 e.args⟩

/-- `w` is what becomes of the value `v` when items are respelled: the value of an expression stays
as it is, and any other value is respelled with its item. -/
def Value.Respells (places : List Nat → Bool) (w v : Value) : Prop :=
  w = v ∨ w.toItem = v.toItem.respell places

/-- Values that have the same shape and characters, and the same value behind a name unless the
place of the item is among those given. -/
structure Value.ReadAlike (places : List Nat → Bool) (w v : Value) : Prop where
  isElement : w.isElement = v.isElement
  shorthand : w.shorthand? = v.shorthand?
  text : w.text? = v.text?
  value : places [] = false → w.attributeValue? = v.attributeValue?

inductive Value.RespellAll (places : List Nat → Bool) : Nat → List Value → List Value → Prop where
  | nil {i : Nat} : RespellAll places i [] []
  | cons {i : Nat} {w v : Value} {ws vs : List Value} (h : w.Respells (fun p => places (i :: p)) v)
      (hs : RespellAll places (i + 1) ws vs) : RespellAll places i (w :: ws) (v :: vs)

section

variable {places : List Nat → Bool} {i : Nat} {w v : Value} {ws vs : List Value}

theorem Value.ReadAlike.refl (places : List Nat → Bool) (v : Value) : v.ReadAlike places v :=
  ⟨rfl, rfl, rfl, fun _ => rfl⟩

theorem Value.Respells.readAlike (h : w.Respells places v) : w.ReadAlike places v := by
  rcases h with rfl | h
  · exact .refl places w
  · cases v with
    | text t | word t =>
      cases hp : places [] with
      | true =>
        cases w <;> simp [Value.toItem, Element.toItem, Item.respell, hp] at h
        subst h
        exact ⟨rfl, rfl, rfl, by simp [hp]⟩
      | false =>
        cases w <;> simp [Value.toItem, Element.toItem, Item.respell, hp] at h
        subst h
        exact .refl places _
    | number n =>
      cases w <;> simp [Value.toItem, Element.toItem, Item.respell] at h
      subst h
      exact .refl places _
    | element e =>
      cases w <;> simp [Value.toItem, Element.toItem, Item.respell] at h
      exact ⟨rfl, rfl, rfl, fun _ => rfl⟩

theorem Value.Respells.of_element {e : Element} (h : w.Respells places (.element e)) :
    w = .element e ∨ w = .element (e.respell places) := by
  refine h.imp_right fun h => ?_
  cases w with
  | element c =>
    obtain ⟨htag, hargs⟩ : c.tag = e.tag ∧ c.args = Item.respellAll places 0 e.args := by
      simpa [Value.toItem, Element.toItem, Item.respell] using h
    obtain ⟨tag, args⟩ := c
    obtain rfl : tag = e.tag := htag
    obtain rfl : args = Item.respellAll places 0 e.args := hargs
    rfl
  | text | number | word => simp [Value.toItem, Element.toItem, Item.respell] at h

theorem Value.RespellAll.drop (h : Value.RespellAll places i ws vs) (n : Nat) :
    Value.RespellAll places (i + n) (ws.drop n) (vs.drop n) := by
  induction n generalizing i ws vs with
  | zero => exact h
  | succ n ih =>
    cases h with
    | nil => exact .nil
    | cons _ hs =>
      have hrest := ih hs
      rwa [Nat.add_right_comm, Nat.add_assoc] at hrest

theorem Value.RespellAll.map_shorthand (h : Value.RespellAll places i ws vs) :
    ws.map Value.shorthand? = vs.map Value.shorthand? := by
  induction h with
  | nil => rfl
  | cons hv _ ih => rw [List.map_cons, List.map_cons, hv.readAlike.shorthand, ih]

theorem Value.RespellAll.getElem?_value (h : Value.RespellAll places i ws vs) {j : Nat}
    (hp : places [i + j] = false) :
    (ws.map Value.attributeValue?)[j]? = (vs.map Value.attributeValue?)[j]? := by
  induction h generalizing j with
  | nil => rfl
  | cons hv _ ih =>
    cases j with
    | zero => exact congrArg some (hv.readAlike.value hp)
    | succ j =>
      rw [List.map_cons, List.map_cons, List.getElem?_cons_succ, List.getElem?_cons_succ]
      refine ih ?_
      rwa [Nat.add_right_comm, Nat.add_assoc]

theorem Value.RespellAll.isEmpty_eq (h : Value.RespellAll places i ws vs) :
    ws.isEmpty = vs.isEmpty := by
  cases h <;> rfl

end

theorem headOf_respell {places : List Nat → Bool} {vs ws : List Value}
    (h : Value.RespellAll places 0 ws vs)
    (hp : ∀ j ∈ valuePositions vs, places [j] = false) : headOf ws = headOf vs := by
  refine headOf_congr h.map_shorthand fun j hj => h.getElem?_value ?_
  rw [Nat.zero_add]
  exact hp j hj

section

variable {places : List Nat → Bool}

theorem exists_value_respell (places : List Nat → Bool) {i : Item} {v : Value}
    (h : i.value? = some v) : ∃ w, (i.respell places).value? = some w := by
  cases i with
  | expression => simp [Item.value?] at h
  | text t | word t =>
    rw [Item.respell]
    split <;> exact ⟨_, rfl⟩
  | number | element =>
    rw [Item.respell]
    exact ⟨_, rfl⟩

theorem resolve_respell (evaluate : Evaluator σ) (s : Session σ) (i : Item) :
    Step.SameCourse (Value.Respells places) s (resolve evaluate (i.respell places))
      (resolve evaluate i) := by
  cases hi : i.value? with
  | none =>
    cases i with
    | expression source =>
      rw [Item.respell]
      exact Step.sameCourse_refl (fun _ => .inl rfl) s _
    | text | number | word | element => simp [Item.value?] at hi
  | some v =>
    obtain ⟨w, hw⟩ := exists_value_respell places hi
    rw [resolve_of_value? evaluate hw, resolve_of_value? evaluate hi]
    refine Step.sameCourse_pure (.inr ?_)
    rw [Item.toItem_of_value? hw, Item.toItem_of_value? hi]

theorem resolveAll_respell (evaluate : Evaluator σ) (s : Session σ) (i : Nat) (is : List Item) :
    Step.SameCourse (Value.RespellAll places i) s
      (resolveAll evaluate (Item.respellAll places i is)) (resolveAll evaluate is) := by
  induction is generalizing s i with
  | nil => exact Step.sameCourse_pure .nil
  | cons item is ih =>
    rw [Item.respellAll, resolveAll, resolveAll]
    refine (resolve_respell evaluate s item).bind fun w v _ hv => ?_
    exact (ih _ (i + 1)).bind fun ws vs _ hvs => Step.sameCourse_pure (.cons hv hvs)

end

/-- The places below values at which a value is looked for. Each element is visited in the session
that those before it lead to, and none is visited behind an error. -/
def placesBelow (look : Session σ → Element → List (List Nat)) (child : Element → Step σ Content)
    (s : Session σ) (i : Nat) : List Value → List (List Nat)
  | [] => []
  | .element e :: rest =>
    (look s e).map (i :: ·) ++
      match (child e s).result with
      | .ok _ => placesBelow look child (child e s).session (i + 1) rest
      | .error _ => []
  | v :: rest => if v.text?.isSome then placesBelow look child s (i + 1) rest else []

/-- The places in an element, rendered from a session, at which a value is looked for. An element
whose tag is refused or whose items cannot all be resolved is not written, whatever its items are,
and neither are the children of a void element. -/
def valuePlaces (o : Options) (evaluate : Evaluator σ) : Nat → Session σ → Element → List (List Nat)
  | 0, _, _ => []
  | depth + 1, s, e =>
    match (resolveAll evaluate e.args s).result with
    | .error _ => []
    | .ok vs =>
      if o.allows e.tag then
        (valuePositions vs).map (fun i => [i]) ++
          if (shownAttributes? (headOf vs).attributes).isNone ||
              (!o.xml && isVoidTag e.tag && !(childrenOf vs).isEmpty) then []
          else
            placesBelow (valuePlaces o evaluate depth) (expand o evaluate depth)
              (resolveAll evaluate e.args s).session (headOf vs).consumed (childrenOf vs)
      else []

theorem contents_cons {v : Value} (h : v.isElement = false) (child : Element → Step σ Content)
    (vs : List Value) : contents child (v :: vs) = Step.ofText? v.text? >>= fun text =>
      contents child vs >>= fun cs => pure (.text text :: cs) := by
  cases v with
  | element => simp [Value.isElement] at h
  | text | number | word => rfl

theorem placesBelow_cons {v : Value} (h : v.isElement = false)
    (look : Session σ → Element → List (List Nat)) (child : Element → Step σ Content)
    (s : Session σ) (i : Nat) (vs : List Value) : placesBelow look child s i (v :: vs) =
      if v.text?.isSome then placesBelow look child s (i + 1) vs else [] := by
  cases v with
  | element => simp [Value.isElement] at h
  | text | number | word => rfl

theorem ofText?_ok {text? : Option String} {s : Session σ} {text : List Char}
    (h : (Step.ofText? text? s).result = .ok text) :
    text?.isSome = true ∧ (Step.ofText? text? s).session = s := by
  cases text? with
  | none => cases h
  | some t => exact ⟨rfl, rfl⟩

section

variable {places : List Nat → Bool}

theorem contents_respell {look : Session σ → Element → List (List Nat)}
    {child : Element → Step σ Content}
    (hchild : ∀ (s : Session σ) (e : Element) (places : List Nat → Bool),
      (∀ p ∈ look s e, places p = false) →
        Step.SameCourse Eq s (child (e.respell places)) (child e))
    {i : Nat} {ws vs : List Value} (h : Value.RespellAll places i ws vs) (s : Session σ)
    (hp : ∀ p ∈ placesBelow look child s i vs, places p = false) :
    Step.SameCourse Eq s (contents child ws) (contents child vs) := by
  induction h generalizing s with
  | nil => exact Step.sameCourse_pure rfl
  | @cons i w v ws vs hv hs ih =>
    by_cases hve : v.isElement = true
    · cases v with
      | text | number | word => simp [Value.isElement] at hve
      | element e =>
        rw [placesBelow, List.forall_mem_append] at hp
        obtain ⟨hfirst, hrest⟩ := hp
        obtain ⟨c, rfl, hc⟩ : ∃ c, w = .element c ∧ Step.SameCourse Eq s (child c) (child e) := by
          rcases hv.of_element with rfl | rfl
          · exact ⟨e, rfl, Step.sameCourse_refl (fun _ => rfl) s _⟩
          · exact ⟨_, rfl, hchild s e _ fun p hmem => hfirst _ (List.mem_map_of_mem hmem)⟩
        rw [contents, contents]
        refine hc.bind fun d d' hd hdd => ?_
        rw [hd] at hrest
        refine (ih _ hrest).bind fun cs cs' _ hcs => ?_
        rw [hdd, hcs]
        exact Step.sameCourse_pure rfl
    · have hvn : v.isElement = false := by simpa using hve
      have hwn : w.isElement = false := hv.readAlike.isElement.trans hvn
      rw [contents_cons hvn, contents_cons hwn, hv.readAlike.text]
      refine (Step.sameCourse_refl (fun _ => rfl) s _).bind fun t t' ht htt => ?_
      obtain ⟨hsome, hsession⟩ := ofText?_ok ht
      rw [placesBelow_cons hvn, if_pos hsome] at hp
      rw [hsession]
      refine (ih s hp).bind fun cs cs' _ hcs => ?_
      rw [htt, hcs]
      exact Step.sameCourse_pure rfl

theorem elementContent_respell {o : Options} {look : Session σ → Element → List (List Nat)}
    {child : Element → Step σ Content}
    (hchild : ∀ (s : Session σ) (e : Element) (places : List Nat → Bool),
      (∀ p ∈ look s e, places p = false) →
        Step.SameCourse Eq s (child (e.respell places)) (child e))
    {i : Nat} {ws vs : List Value} (h : Value.RespellAll places i ws vs) (s : Session σ)
    (tag : String) (as : List Attribute)
    (hp : (shownAttributes? as).isSome = true → (!o.xml && isVoidTag tag && !vs.isEmpty) = false →
      ∀ p ∈ placesBelow look child s i vs, places p = false) :
    Step.SameCourse Eq s (elementContent o child tag as ws) (elementContent o child tag as vs) := by
  unfold elementContent
  rw [h.isEmpty_eq]
  cases hshown : shownAttributes? as with
  | none => exact Step.sameCourse_refl (fun _ => rfl) s _
  | some shown =>
    rw [Step.orTooManyDigits, pure_bind, pure_bind]
    cases hvoid : !o.xml && isVoidTag tag && !vs.isEmpty with
    | true => exact Step.sameCourse_refl (fun _ => rfl) s _
    | false =>
      have hbelow := hp (by rw [hshown]; rfl) hvoid
      refine (contents_respell hchild h s hbelow).bind fun cs cs' _ hcs => ?_
      rw [hcs]
      exact Step.sameCourse_pure rfl

/-- An element is evaluated to the same content when none of the places is respelled at which a
value is looked for. -/
theorem expand_respell (o : Options) (evaluate : Evaluator σ) (depth : Nat) (s : Session σ)
    (e : Element) (places : List Nat → Bool)
    (hp : ∀ p ∈ valuePlaces o evaluate depth s e, places p = false) :
    Step.SameCourse Eq s (expand o evaluate depth (e.respell places))
      (expand o evaluate depth e) := by
  induction depth generalizing s e places with
  | zero => exact Step.sameCourse_refl (fun _ => rfl) s _
  | succ depth ih =>
    rw [expand_succ, expand_succ]
    refine (Step.sameCourse_refl (fun _ => rfl) s _).bind fun _ _ hu _ => ?_
    rw [checkTag_session]
    refine (resolveAll_respell evaluate s 0 e.args).bind fun ws vs hvs hr => ?_
    have hallows : o.allows e.tag = true := by
      by_contra hno
      change (checkTag o e.tag s).result = _ at hu
      rw [checkTag, if_neg hno] at hu
      cases hu
    rw [valuePlaces, hvs] at hp
    dsimp only at hp
    rw [if_pos hallows, List.forall_mem_append] at hp
    obtain ⟨hhere, hbelow⟩ := hp
    have hhead : headOf ws = headOf vs := by
      exact headOf_respell hr fun j hj => hhere [j] (List.mem_map_of_mem hj)
    have hchildren : Value.RespellAll places (headOf vs).consumed (childrenOf ws)
        (childrenOf vs) := by
      have hdrop := hr.drop (headOf vs).consumed
      rw [Nat.zero_add] at hdrop
      rw [childrenOf, childrenOf, hhead]
      exact hdrop
    rw [hhead]
    refine elementContent_respell ih hchildren _ e.tag _ fun hshown hvoid => ?_
    have hwritten : ((shownAttributes? (headOf vs).attributes).isNone ||
        (!o.xml && isVoidTag e.tag && !(childrenOf vs).isEmpty)) = false := by
      rw [hvoid, Bool.or_false, Option.isNone_eq_false_iff]
      exact hshown
    rw [if_neg (by simp [hwritten])] at hbelow
    exact hbelow

end

/-- Words and texts may be exchanged at any places of a tree at which no value is looked for. The
rendering, flat or in broken lines, gives the same text or fails with the same error. -/
theorem renderTree_respell {o : Options} {xml : Option Bool} {evaluate : Evaluator σ} {depth : Nat}
    {state : σ} {tree tree' : Datum} {places : List Nat → Bool}
    (htree : tree'.toElement = tree.toElement.map (Element.respell places))
    (hp : ∀ e, tree.toElement = .ok e →
      ∀ p ∈ valuePlaces (o.withMode xml) evaluate depth (Session.start state) e, places p = false)
    (broken : Bool) : renderTree o xml broken evaluate depth state tree' =
      renderTree o xml broken evaluate depth state tree := by
  cases he : tree.toElement with
  | error err =>
    rw [he] at htree
    unfold renderTree rootOf
    rw [he, htree]
    rfl
  | ok e =>
    rw [he] at htree
    have hcontent := expand_respell (o.withMode xml) evaluate depth (Session.start state) e places
      (hp e he)
    rw [renderTree_of_toElement htree, renderTree_of_toElement he, renderDocument_eq,
      renderDocument_eq]
    have htag : (e.respell places).tag = e.tag := rfl
    rw [hcontent.2.eq, htag]

def spelledElement : Element :=
  ⟨"p", [.word ":hidden", .word ":title", .text ".x", .word ".big", .text "@", .word "z",
    .element "b" [.word ":on", .expression "n", .word "y"]]⟩

def spelledTree : Datum := .element spelledElement

def respelledPlaces (p : List Nat) : Bool := [[0], [3], [4], [5], [6, 0], [6, 2]].contains p

def respelledTree : Datum :=
  .element ⟨"p", [.text ":hidden", .word ":title", .text ".x", .text ".big", .word "@", .text "z",
    .element "b" [.text ":on", .expression "n", .text "y"]]⟩

def oneForAll : Evaluator Unit := fun _ s => (.ok (.text "1"), s)

theorem renderTree_respell_nested :
    renderTree {} none false oneForAll 2 () respelledTree =
      .ok "<p hidden title=\".x\" class=\"big\">@z<b on=\"1\">y</b></p>".toList := by
  have hspelled : spelledTree.toElement = .ok spelledElement := by cbv
  have hrespelled : respelledTree.toElement =
      spelledTree.toElement.map (Element.respell respelledPlaces) := by
    rw [hspelled]
    rfl
  have hplaces : valuePlaces (({} : Options).withMode none) oneForAll 2 (Session.start ())
      spelledElement = [[1], [2], [6, 1]] := by decide +kernel
  have hfree (e : Element) (he : spelledTree.toElement = .ok e) (p : List Nat)
      (hp : p ∈ valuePlaces (({} : Options).withMode none) oneForAll 2 (Session.start ()) e) :
      respelledPlaces p = false := by
    obtain rfl : spelledElement = e := Except.ok.inj (hspelled.symm.trans he)
    rw [hplaces] at hp
    have hnone : ∀ q ∈ [[1], [2], [6, 1]], respelledPlaces q = false := by decide
    exact hnone p hp
  rw [renderTree_respell hrespelled hfree false]
  cbv

end ElementMarkup
