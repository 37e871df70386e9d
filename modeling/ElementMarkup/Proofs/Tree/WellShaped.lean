import Mathlib.Data.List.Forall2
import ElementMarkup.Proofs.Tree.Writable

/-!
# Well-shaped trees

Which data are trees, and which element such a datum stands for. A datum that is no tree is refused
with an error that shows the first part of it, in reading order, that has no place in a tree.
-/

set_option autoImplicit false

namespace ElementMarkup

def Datum.name? : Datum → Option String
  | .text s | .word s | .escaped s => some s
  | _ => none

def Datum.string? : Datum → Option String
  | .text s | .escaped s => some s
  | _ => none

def Datum.isSequence : Datum → Bool
  | .list _ | .tuple _ => true
  | _ => false

def Datum.isBranch : Datum → Bool
  | .element _ | .item (.element _ _) => true
  | d => d.isSequence

/-- A datum that can be an item of an element. -/
inductive Datum.IsItem : Datum → Prop where
  | string {d : Datum} {s : String} (h : d.string? = some s) : IsItem d
  | word (s : String) : IsItem (.word s)
  | number (n : Number) : IsItem (.number n)
  | item (i : Item) : IsItem (.item i)
  | element (e : Element) : IsItem (.element e)
  | list {head : Datum} {rest : List Datum} {tag : String} (hn : head.name? = some tag)
      (h : ∀ d ∈ rest, IsItem d) : IsItem (.list (head :: rest))
  | tuple {head : Datum} {rest : List Datum} {tag : String} (hn : head.name? = some tag)
      (h : ∀ d ∈ rest, IsItem d) : IsItem (.tuple (head :: rest))

/-- A datum and the item that it stands for. -/
inductive Datum.StandsFor : Datum → Item → Prop where
  | text {d : Datum} {s : String} (hd : d.string? = some s)
      (h : expressionSource? s.toList = none) : StandsFor d (.text s)
  | expression {d : Datum} {s : String} {source : List Char} (hd : d.string? = some s)
      (h : expressionSource? s.toList = some source) :
      StandsFor d (.expression (String.ofList source))
  | word (s : String) : StandsFor (.word s) (.word s)
  | number (n : Number) : StandsFor (.number n) (.number n)
  | item (i : Item) : StandsFor (.item i) i
  | element (e : Element) : StandsFor (.element e) e.toItem
  | list {head : Datum} {rest : List Datum} {tag : String} {args : List Item}
      (hn : head.name? = some tag) (h : List.Forall₂ StandsFor rest args) :
      StandsFor (.list (head :: rest)) (.element tag args)
  | tuple {head : Datum} {rest : List Datum} {tag : String} {args : List Item}
      (hn : head.name? = some tag) (h : List.Forall₂ StandsFor rest args) :
      StandsFor (.tuple (head :: rest)) (.element tag args)

mutual

/-- The error of a datum that can be no item, by the first part of it that has no place. -/
inductive Datum.Misfit : Datum → ShapeError → Prop where
  | unsupported {d : Datum} {shown : String} (hd : d.isSequence = false) (h : ¬ d.IsItem)
      (hs : d.shown? = some shown) : Misfit d (.unsupported shown)
  | list {items : List Datum} {e : ShapeError} (h : ListMisfit items e) : Misfit (.list items) e
  | tuple {items : List Datum} {e : ShapeError} (h : ListMisfit items e) : Misfit (.tuple items) e

inductive Datum.ListMisfit : List Datum → ShapeError → Prop where
  | empty : ListMisfit [] .noTagName
  | head {head : Datum} {rest : List Datum} {shown : String} (hn : head.name? = none)
      (hs : head.shown? = some shown) : ListMisfit (head :: rest) (.badTagName shown)
  | item {head d : Datum} {before after : List Datum} {tag : String} {e : ShapeError}
      (hn : head.name? = some tag) (hb : ∀ b ∈ before, b.IsItem) (h : Misfit d e) :
      ListMisfit (head :: (before ++ d :: after)) e

end

mutual

theorem Datum.Misfit.ne_tooManyDigits : ∀ {d : Datum} {e : ShapeError}, d.Misfit e →
    e ≠ .tooManyDigits
  | _, _, .unsupported _ _ _ => ShapeError.noConfusion
  | _, _, .list h => h.ne_tooManyDigits
  | _, _, .tuple h => h.ne_tooManyDigits

theorem Datum.ListMisfit.ne_tooManyDigits : ∀ {items : List Datum} {e : ShapeError},
    Datum.ListMisfit items e → e ≠ .tooManyDigits
  | _, _, .empty => ShapeError.noConfusion
  | _, _, .head _ _ => ShapeError.noConfusion
  | _, _, .item _ _ h => h.ne_tooManyDigits

end

theorem Datum.writable_of_mem {d : Datum} {ds : List Datum} (h : Datum.allWritable ds = true)
    (hd : d ∈ ds) : d.writable = true := by
  induction ds with
  | nil => simp at hd
  | cons d' ds ih =>
    rw [Datum.allWritable, Bool.and_eq_true] at h
    rcases List.mem_cons.1 hd with rfl | hd
    · exact h.1
    · exact ih h.2 hd

def Datum.ItemRead (d : Datum) : Except ShapeError Item → Prop
  | .ok i => d.IsItem ∧ d.StandsFor i
  | .error e => ¬ d.IsItem ∧ (d.writable = true → d.Misfit e)

def Datum.ListRead (items : List Datum) : Except ShapeError Element → Prop
  | .ok e => ∃ head rest, items = head :: rest ∧ head.name? = some e.tag ∧
      (∀ d ∈ rest, d.IsItem) ∧ List.Forall₂ Datum.StandsFor rest e.args
  | .error e => (∀ head rest tag, items = head :: rest → head.name? = some tag →
      ¬ ∀ d ∈ rest, d.IsItem) ∧ (Datum.allWritable items = true → Datum.ListMisfit items e)

def Datum.ItemsRead (items : List Datum) : Except ShapeError (List Item) → Prop
  | .ok is => (∀ d ∈ items, d.IsItem) ∧ List.Forall₂ Datum.StandsFor items is
  | .error e => ∃ before d after, items = before ++ d :: after ∧ (∀ b ∈ before, b.IsItem) ∧
      ¬ d.IsItem ∧ (d.writable = true → d.Misfit e)

theorem Datum.tagName_eq (d : Datum) : d.tagName =
    match d.name? with
    | some tag => .ok tag
    | none => d.refuse .badTagName := by
  cases d <;> rfl

theorem Datum.not_isItem_of {d : Datum} (hs : d.string? = none) (hl : d.isSequence = false)
    (hw : ∀ s, d ≠ .word s) (hn : ∀ n, d ≠ .number n) (hi : ∀ i, d ≠ .item i)
    (he : ∀ e, d ≠ .element e) : ¬ d.IsItem := by
  intro h
  cases h with
  | string h => simp [hs] at h
  | word s => exact hw s rfl
  | number n => exact hn n rfl
  | item i => exact hi i rfl
  | element e => exact he e rfl
  | list | tuple => simp [Datum.isSequence] at hl

theorem Datum.itemRead_refuse {d : Datum} (hl : d.isSequence = false) (h : ¬ d.IsItem) :
    d.ItemRead (d.refuse .unsupported) := by
  unfold Datum.refuse
  cases hs : d.shown? with
  | some shown => exact ⟨h, fun _ => .unsupported hl h hs⟩
  | none =>
    refine ⟨h, fun hw => ?_⟩
    obtain ⟨shown, hshown⟩ := Datum.exists_shown hw
    simp [hs] at hshown

theorem textItem_standsFor {d : Datum} {s : String} (hd : d.string? = some s) :
    d.StandsFor (textItem s) := by
  unfold textItem
  cases h : expressionSource? s.toList with
  | some source => exact .expression hd h
  | none => exact .text hd h

theorem Datum.itemRead_sequence {d : Datum} {items : List Datum}
    {r : Except ShapeError Element} (hd : d = .list items ∨ d = .tuple items)
    (h : Datum.ListRead items r) : d.ItemRead (r.map Element.toItem) := by
  have hwritable : d.writable = Datum.allWritable items := by
    rcases hd with rfl | rfl <;> rw [Datum.writable]
  cases r with
  | ok e =>
    obtain ⟨head, rest, rfl, hn, hall, hargs⟩ := h
    rcases hd with rfl | rfl
    · exact ⟨.list hn hall, .list hn hargs⟩
    · exact ⟨.tuple hn hall, .tuple hn hargs⟩
  | error err =>
    obtain ⟨hno, hmisfit⟩ := h
    constructor
    · intro hitem
      rcases hd with rfl | rfl
      · cases hitem with
        | string h => simp [Datum.string?] at h
        | list hn hall => exact hno _ _ _ rfl hn hall
      · cases hitem with
        | string h => simp [Datum.string?] at h
        | tuple hn hall => exact hno _ _ _ rfl hn hall
    · intro hw
      rw [hwritable] at hw
      rcases hd with rfl | rfl
      · exact .list (hmisfit hw)
      · exact .tuple (hmisfit hw)

mutual

/-- A datum is read as the item it stands for, or refused by its first misfit. -/
theorem Datum.toItem_read : ∀ d : Datum, d.ItemRead d.toItem
  | .item i => by
    rw [Datum.toItem]
    exact ⟨.item i, .item i⟩
  | .element e => by
    rw [Datum.toItem]
    exact ⟨.element e, .element e⟩
  | .word s => by
    rw [Datum.toItem]
    exact ⟨.word s, .word s⟩
  | .number n => by
    rw [Datum.toItem]
    exact ⟨.number n, .number n⟩
  | .text s => by
    rw [Datum.toItem]
    exact ⟨.string rfl, textItem_standsFor rfl⟩
  | .escaped s => by
    rw [Datum.toItem]
    exact ⟨.string rfl, textItem_standsFor rfl⟩
  | .list items => by
    rw [Datum.toItem]
    exact Datum.itemRead_sequence (.inl rfl) (Datum.shape_read items)
  | .tuple items => by
    rw [Datum.toItem]
    exact Datum.itemRead_sequence (.inr rfl) (Datum.shape_read items)
  | .null | .bool _ | .mapping _ | .counter _ | .other _ _ _ => by
    rw [Datum.toItem]
    exact Datum.itemRead_refuse rfl (Datum.not_isItem_of rfl rfl (by simp) (by simp) (by simp)
      (by simp))

theorem Datum.shape_read : ∀ items : List Datum, Datum.ListRead items (Datum.shape items)
  | [] => by
    rw [Datum.shape]
    exact ⟨by simp, fun _ => .empty⟩
  | head :: rest => by
    rw [Datum.shape, Datum.tagName_eq]
    cases hn : head.name? with
    | none =>
      have hno : ∀ head' rest' tag, head :: rest = head' :: rest' → head'.name? = some tag →
          ¬ ∀ d ∈ rest', d.IsItem := by
        intro head' rest' tag h hn'
        obtain ⟨rfl, -⟩ := List.cons.inj h
        simp [hn] at hn'
      dsimp only
      unfold Datum.refuse
      cases hs : head.shown? with
      | some shown => exact ⟨hno, fun _ => .head hn hs⟩
      | none =>
        refine ⟨hno, fun hw => ?_⟩
        rw [Datum.allWritable, Bool.and_eq_true] at hw
        obtain ⟨shown, hshown⟩ := Datum.exists_shown hw.1
        simp [hs] at hshown
    | some tag =>
      have hrest := Datum.toItems_read rest
      dsimp only
      cases hr : Datum.toItems rest with
      | ok is =>
        rw [hr] at hrest
        exact ⟨head, rest, rfl, hn, hrest.1, hrest.2⟩
      | error e =>
        rw [hr] at hrest
        obtain ⟨before, d, after, rfl, hb, hd, hmisfit⟩ := hrest
        constructor
        · intro head' rest' tag' h _ hall
          obtain ⟨-, rfl⟩ := List.cons.inj h
          exact hd (hall d (by simp))
        · intro hw
          exact .item hn hb (hmisfit (Datum.writable_of_mem hw (by simp)))

theorem Datum.toItems_read : ∀ items : List Datum, Datum.ItemsRead items (Datum.toItems items)
  | [] => by
    rw [Datum.toItems]
    exact ⟨by simp, .nil⟩
  | d :: ds => by
    have hd := Datum.toItem_read d
    rw [Datum.toItems]
    cases hr : d.toItem with
    | error e =>
      rw [hr] at hd
      exact ⟨[], d, ds, rfl, by simp, hd⟩
    | ok i =>
      rw [hr] at hd
      have hds := Datum.toItems_read ds
      dsimp only
      cases hrs : Datum.toItems ds with
      | ok is =>
        rw [hrs] at hds
        exact ⟨List.forall_mem_cons.2 ⟨hd.1, hds.1⟩, .cons hd.2 hds.2⟩
      | error e =>
        rw [hrs] at hds
        obtain ⟨before, d', after, rfl, hb, hd'⟩ := hds
        exact ⟨d :: before, d', after, rfl, List.forall_mem_cons.2 ⟨hd.1, hb⟩, hd'⟩

end

/-- A datum that stands for an element: an element, or a list or tuple with a tag name in front and
items behind it. -/
structure Datum.IsTree (d : Datum) : Prop where
  branch : d.isBranch = true
  item : d.IsItem

theorem Datum.toElement_of_not_isBranch {d : Datum} (h : d.isBranch = false) :
    d.toElement = .error (.notAList d.kind) := by
  cases d with
  | item i =>
    cases i with
    | element => simp [Datum.isBranch] at h
    | text | number | word | expression => rfl
  | list | tuple | element => simp [Datum.isBranch, Datum.isSequence] at h
  | _ => rfl

theorem Datum.toItem_of_isBranch {d : Datum} (h : d.isBranch = true) :
    d.toItem = d.toElement.map Element.toItem := by
  cases d with
  | item i =>
    cases i with
    | element =>
      rw [Datum.toItem]
      rfl
    | text | number | word | expression => simp [Datum.isBranch, Datum.isSequence] at h
  | element e =>
    rw [Datum.toItem]
    rfl
  | list | tuple => rw [Datum.toItem, Datum.toElement]
  | _ => simp [Datum.isBranch, Datum.isSequence] at h

/-- An element is read from a datum exactly if the datum is a tree, and it is the one that the tree
stands for. Any other datum is refused with an error of shape: for its kind if nothing is read from
such data, and otherwise for its first misfit. Reading the element again changes nothing. -/
theorem Datum.toElement_wellShaped (d : Datum) :
    ((∃ e, d.toElement = .ok e) ↔ d.IsTree) ∧
      (d.writable = true → ¬ d.IsTree → ∃ err, d.toElement = .error err ∧ err ≠ .tooManyDigits ∧
        if d.isBranch then d.Misfit err else err = .notAList d.kind) ∧
      ∀ e, d.toElement = .ok e → d.StandsFor e.toItem ∧
        (Datum.element e).toElement = .ok e ∧ (Datum.item e.toItem).toElement = .ok e := by
  have hread := d.toItem_read
  by_cases hb : d.isBranch = true
  · rw [Datum.toItem_of_isBranch hb] at hread
    cases hr : d.toElement with
    | ok e =>
      rw [hr] at hread
      have htree : d.IsTree := ⟨hb, hread.1⟩
      refine ⟨⟨fun _ => htree, fun _ => ⟨e, rfl⟩⟩, fun _ hno => absurd htree hno, ?_⟩
      intro e' he
      obtain rfl := Except.ok.inj he
      exact ⟨hread.2, rfl, rfl⟩
    | error err =>
      rw [hr] at hread
      have hno : ¬ d.IsTree := fun h => hread.1 h.item
      refine ⟨⟨by simp, fun h => absurd h hno⟩, fun hw _ => ?_, by simp⟩
      have hmisfit := hread.2 hw
      refine ⟨err, rfl, hmisfit.ne_tooManyDigits, ?_⟩
      rw [if_pos hb]
      exact hmisfit
  · have hr := Datum.toElement_of_not_isBranch (d := d) (by simpa using hb)
    have hno : ¬ d.IsTree := fun h => hb h.branch
    rw [hr]
    refine ⟨⟨by simp, fun h => absurd h hno⟩, fun _ _ => ?_, by simp⟩
    exact ⟨_, rfl, ShapeError.noConfusion, by rw [if_neg hb]⟩

def sectionTree : Datum :=
  .list [.word "div", .text ":id",
    .tuple [.text "p", .text "\x7b\x7b n \x7d\x7d", .item (.word ".a")], .element ⟨"br", []⟩]

def sectionElement : Element :=
  ⟨"div", [.text ":id", .element "p" [.expression "n", .word ".a"], .element "br" []]⟩

/-- A truth value stands where a tag name belongs, two lists down. -/
def faultySection : Datum :=
  .list [.word "div", .text ":id", .tuple [.text "p", .list [.bool true, .text "x"]], .null]

theorem Datum.toElement_wellShaped_section :
    sectionTree.IsTree ∧ sectionTree.StandsFor sectionElement.toItem ∧
      ¬ faultySection.IsTree ∧ faultySection.Misfit (.badTagName "True") := by
  have hsection : sectionTree.toElement = .ok sectionElement := by cbv
  have hfaulty : faultySection.toElement = .error (.badTagName "True") := by cbv
  obtain ⟨htree, -, hstands⟩ := sectionTree.toElement_wellShaped
  obtain ⟨hiff, herror, -⟩ := faultySection.toElement_wellShaped
  have hno : ¬ faultySection.IsTree := by
    intro h
    obtain ⟨e, he⟩ := hiff.2 h
    simp [hfaulty] at he
  obtain ⟨err, he, -, hmisfit⟩ := herror (by cbv) hno
  obtain rfl : ShapeError.badTagName "True" = err := Except.error.inj (hfaulty.symm.trans he)
  exact ⟨htree.1 ⟨_, hsection⟩, (hstands _ hsection).1, hno, hmisfit⟩

end ElementMarkup
