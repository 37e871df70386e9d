import ElementMarkup.File.Load
import ElementMarkup.Proofs.Failure
import ElementMarkup.Proofs.Tree.Writable
import ElementMarkup.Render.Document

/-!
# Trees that no element is found in

A tree is refused for its shape, or for a reason that stands in it: a leaf or a list in place of a
tag that has no literal form, or lists nested as deep as the limit. A datum below the limit is given
the shape that it has without one.
-/

set_option autoImplicit false

namespace ElementMarkup

section

variable {δ : Type} {v : View δ} {top : δ} {depth level : Nat}

/-- A document with the number of lists of the tree that it stands in. -/
inductive View.Below (v : View δ) (top : δ) : Nat → δ → Prop where
  | top : Below v top 0 top
  | item {level : Nat} {d i : δ} {items : List δ} (h : Below v top level d)
      (hl : v.layer d = .list items) (hi : i ∈ items) : Below v top (level + 1) i

/-- Why a tree that may be nested `depth` deep is refused. -/
inductive View.Unfit (v : View δ) (top : δ) (depth : Nat) : RenderError → Prop where
  | shape {e : ShapeError} (he : e ≠ .tooManyDigits) : Unfit v top depth (.shape e)
  | leaf {level : Nat} {d : δ} {leaf : Datum} (h : v.Below top level d)
      (hl : v.layer d = .leaf leaf) (hw : leaf.writable = false) :
      Unfit v top depth (.shape .tooManyDigits)
  | list {level : Nat} {d : δ} {items : List δ} (h : v.Below top level d)
      (hl : v.layer d = .list items) (hs : v.shown? d = none) :
      Unfit v top depth (.shape .tooManyDigits)
  | depth {d : δ} {items : List δ} (h : v.Below top depth d) (hl : v.layer d = .list items) :
      Unfit v top depth .tooDeep

theorem View.unfit_leaf {α : Type} {d : δ} {leaf : Datum} {P : α → Prop} {x : Except ShapeError α}
    {e : ShapeError} (h : v.Below top level d) (hl : v.layer d = .leaf leaf)
    (hx : leaf.writable = true → Shaped P x) (he : x = .error e) :
    v.Unfit top depth (.shape e) := by
  by_cases hd : e = .tooManyDigits
  · subst hd
    refine .leaf h hl (Bool.eq_false_iff.2 fun hw => ?_)
    have hshaped := hx hw
    rw [he, shaped_error_iff] at hshaped
    exact hshaped rfl
  · exact .shape hd

theorem View.tagName_unfit {d : δ} {e : ShapeError} (h : v.Below top level d)
    (he : v.tagName d = .error e) : v.Unfit top depth (.shape e) := by
  unfold View.tagName at he
  split at he
  · next hl => exact unfit_leaf h hl Datum.tagName_shaped he
  · next hl =>
    split at he
    · cases he
      exact .shape ShapeError.noConfusion
    · next hs =>
      cases he
      exact .list h hl hs

theorem View.element_unfit {item : δ → Except RenderError Item} {items : List δ} {e : RenderError}
    (h : ∀ d ∈ items, v.Below top (level + 1) d)
    (hi : ∀ d ∈ items, ∀ e, item d = .error e → v.Unfit top depth e)
    (he : v.element item items = .error e) : v.Unfit top depth e := by
  cases items with
  | nil =>
    cases he
    exact .shape ShapeError.noConfusion
  | cons head rest =>
    rw [List.forall_mem_cons] at h hi
    rcases bind_eq_error_iff.1 he with he | ⟨tag, -, he⟩
    · obtain ⟨e', ht, rfl⟩ := mapError_eq_error_iff.1 he
      exact tagName_unfit h.1 ht
    · rcases bind_eq_error_iff.1 he with he | ⟨args, -, he⟩
      · obtain ⟨d, hd, he⟩ := exists_of_mapM_error he
        exact hi.2 d hd e he
      · cases he

theorem View.item_unfit {left : Nat} (hl : level + left = depth) {d : δ} {e : RenderError}
    (h : v.Below top level d) (he : v.item left d = .error e) : v.Unfit top depth e := by
  induction left generalizing level d e with
  | zero =>
    obtain rfl : level = depth := hl
    unfold item at he
    split at he
    · next hleaf =>
      obtain ⟨e', hi, rfl⟩ := mapError_eq_error_iff.1 he
      exact unfit_leaf h hleaf Datum.toItem_shaped hi
    · next hlist =>
      cases he
      exact .depth h hlist
  | succ left ih =>
    unfold item at he
    split at he
    · next hleaf =>
      obtain ⟨e', hi, rfl⟩ := mapError_eq_error_iff.1 he
      exact unfit_leaf h hleaf Datum.toItem_shaped hi
    · next hlist =>
      have hbelow := fun d hd => h.item hlist (i := d) hd
      exact element_unfit hbelow (fun d hd e he => ih (by omega) (hbelow d hd) he)
        (map_eq_error_iff.1 he)

theorem View.root_unfit {d : δ} {e : RenderError} (he : v.root depth d = .error e) :
    v.Unfit d depth e := by
  unfold root at he
  split at he
  · next hleaf =>
    obtain ⟨e', hi, rfl⟩ := mapError_eq_error_iff.1 he
    exact unfit_leaf .top hleaf Datum.toElement_shaped hi
  · next hlist =>
    cases depth with
    | zero =>
      cases he
      exact .depth .top hlist
    | succ depth =>
      have hbelow := fun i hi => View.Below.top.item hlist (i := i) hi
      exact element_unfit hbelow (fun d hd e he => item_unfit (by omega) (hbelow d hd) he) he

end

/-- Why a loaded tree is refused. -/
def Documents.Unfit {δ : Type} (docs : Documents δ) (depth : Nat) :
    Loaded δ → RenderError → Prop
  | .datum d => Datum.view.Unfit d depth
  | .document d => docs.view.Unfit d depth

theorem Documents.root_unfit {δ : Type} {docs : Documents δ} {depth : Nat} {tree : Loaded δ}
    {e : RenderError} (h : docs.root depth tree = .error e) : docs.Unfit depth tree e := by
  cases tree with
  | datum d => exact View.root_unfit h
  | document d => exact View.root_unfit h

theorem View.Unfit.eq_tooDeep {δ : Type} {v : View δ} {top : δ} {depth : Nat} {e : RenderError}
    (h : v.Unfit top depth e) (hne : ∀ e', e ≠ .shape e') : e = .tooDeep := by
  cases h with
  | depth => rfl
  | shape | leaf | list => exact absurd rfl (hne _)

theorem Documents.eq_tooDeep_of_unfit {δ : Type} {docs : Documents δ} {depth : Nat}
    {tree : Loaded δ} {e : RenderError} (h : docs.Unfit depth tree e)
    (hne : ∀ e', e ≠ .shape e') : e = .tooDeep := by
  cases tree with
  | datum d => exact View.Unfit.eq_tooDeep h hne
  | document d => exact View.Unfit.eq_tooDeep h hne

theorem Datum.view_tagName (d : Datum) : Datum.view.tagName d = d.tagName := by
  unfold View.tagName
  cases d with
  | list items | tuple items =>
    rw [Datum.tagName, Datum.refuse]
    · rfl
    all_goals simp
  | _ => rfl

theorem Datum.view_items {depth : Nat} (h : ∀ d, Datum.view.item depth d = .error .tooDeep ∨
      Datum.view.item depth d = d.toItem.mapError .shape) (ds : List Datum) :
    ds.mapM (Datum.view.item depth) = .error .tooDeep ∨
      ds.mapM (Datum.view.item depth) = (Datum.toItems ds).mapError .shape := by
  induction ds with
  | nil => exact .inr rfl
  | cons d ds ih =>
    rw [List.mapM_cons, Datum.toItems]
    rcases h d with hd | hd
    · exact .inl (by rw [hd]; rfl)
    rw [hd]
    cases d.toItem with
    | error e => exact .inr rfl
    | ok i =>
      rcases ih with hds | hds
      · exact .inl (by rw [hds]; rfl)
      · rw [hds]
        cases Datum.toItems ds with
        | error e => exact .inr rfl
        | ok is => exact .inr rfl

theorem Datum.view_element {depth : Nat} (h : ∀ d, Datum.view.item depth d = .error .tooDeep ∨
      Datum.view.item depth d = d.toItem.mapError .shape) (ds : List Datum) :
    Datum.view.element (Datum.view.item depth) ds = .error .tooDeep ∨
      Datum.view.element (Datum.view.item depth) ds = (Datum.shape ds).mapError .shape := by
  cases ds with
  | nil => exact .inr rfl
  | cons head rest =>
    rw [View.element, Datum.shape, Datum.view_tagName]
    cases head.tagName with
    | error e => exact .inr rfl
    | ok tag =>
      rcases Datum.view_items h rest with hrest | hrest
      · exact .inl (by rw [hrest]; rfl)
      · refine .inr ?_
        rw [hrest]
        cases Datum.toItems rest with
        | error e => rfl
        | ok args => rfl

theorem Datum.view_item (depth : Nat) (d : Datum) :
    Datum.view.item depth d = .error .tooDeep ∨
      Datum.view.item depth d = d.toItem.mapError .shape := by
  induction depth generalizing d with
  | zero =>
    cases d with
    | list items | tuple items => exact .inl rfl
    | _ => exact .inr rfl
  | succ depth ih =>
    cases d with
    | list items | tuple items =>
      rw [Datum.toItem]
      rcases Datum.view_element ih items with h | h
      · exact .inl (congrArg (Except.map Element.toItem) h)
      · refine .inr ((congrArg (Except.map Element.toItem) h).trans ?_)
        cases Datum.shape items with
        | error e => rfl
        | ok e => rfl
    | _ => exact .inr rfl

/-- A datum is given the shape that it has without a limit, unless it is nested too deeply. -/
theorem Datum.view_root (depth : Nat) (d : Datum) :
    Datum.view.root depth d = .error .tooDeep ∨ Datum.view.root depth d = rootOf d := by
  have hroot : rootOf d = d.toElement.mapError .shape := by
    unfold rootOf
    cases d.toElement with
    | error e => rfl
    | ok e => rfl
  rw [hroot]
  cases d with
  | list items | tuple items =>
    cases depth with
    | zero => exact .inl rfl
    | succ depth => exact Datum.view_element (Datum.view_item depth) items
  | _ => exact .inr rfl

end ElementMarkup
