import ElementMarkup.Proofs.Markup.Indent
import ElementMarkup.Proofs.Markup.Segment

/-!
# Nested elements in markup

Tokens are balanced when every opening tag has its closing tag, of the same name and behind
balanced tokens, and no other tag closes anything. They spell a forest then, in which every line has
its place: below the elements around it. Indentation puts a line as deep as its place is, and the
counter of the open elements is zero again behind the last line.
-/

set_option autoImplicit false

namespace ElementMarkup.Markup

/-- Every opening tag is closed by a later tag of its name with balanced tokens in between, and
every closing tag closes one. -/
inductive Balanced : List Token → Prop where
  | nil : Balanced []
  | single {t : Token} {ts : List Token} (ho : t.kind ≠ .opening) (hc : t.kind ≠ .closing)
      (hts : Balanced ts) : Balanced (t :: ts)
  | element {o c : Token} {inner ts : List Token} (ho : o.kind = .opening) (hc : c.kind = .closing)
      (hn : c.name = o.name) (hinner : Balanced inner) (hts : Balanced ts) :
      Balanced (o :: (inner ++ c :: ts))

/-- A token that stands for itself, or an element with its opening and its closing tag. -/
inductive Node where
  | single (t : Token) (ho : t.kind ≠ .opening) (hc : t.kind ≠ .closing)
  | element (o c : Token) (ho : o.kind = .opening) (hc : c.kind = .closing) (hn : c.name = o.name)
      (children : List Node)

def Node.isText : Node → Bool
  | .single t _ _ => t.kind == .text
  | .element .. => false

mutual

def Node.spell : Node → List Token
  | .single t _ _ => [t]
  | .element o c _ _ _ children => o :: (Node.spellAll children ++ [c])

def Node.spellAll : List Node → List Token
  | [] => []
  | n :: ns => n.spell ++ Node.spellAll ns

end

/-- A line and the opening tags of the elements around it, the innermost first. -/
structure Placed where
  around : List Token
  line : Line

def Placed.indented (width : Nat) (p : Placed) : List Char :=
  List.replicate (width * p.around.length) ' ' ++ p.line.text

def Token.alone (t : Token) : List Line :=
  if t.kind = .text then textLine t.text else [⟨.whole, t.text⟩]

mutual

/-- The lines of a node with the elements around them. An element that holds nothing but text is one
line; the tags of any other element stand around its children but not around each other. -/
def Node.placed (around : List Token) : Node → List Placed
  | .single t _ _ => t.alone.map (Placed.mk around)
  | .element o c ho hc hn children =>
    if children.all Node.isText then
      [⟨around, .whole, joined (Node.element o c ho hc hn children).spell⟩]
    else
      ⟨around, .opening, o.text⟩ ::
        (Node.placedAll (o :: around) children ++ [⟨around, .closing, c.text⟩])

def Node.placedAll (around : List Token) : List Node → List Placed
  | [] => []
  | n :: ns => n.placed around ++ Node.placedAll around ns

end

theorem Balanced.append {ts us : List Token} (h : Balanced ts) (hu : Balanced us) :
    Balanced (ts ++ us) := by
  induction h with
  | nil => exact hu
  | single ho hc _ ih => exact .single ho hc ih
  | element ho hc hn hinner _ _ ih =>
    rw [List.cons_append, List.append_assoc]
    exact .element ho hc hn hinner ih

mutual

theorem Node.balanced_spell : ∀ n : Node, Balanced n.spell
  | .single t ho hc => by
    rw [Node.spell]
    exact .single ho hc .nil
  | .element o c ho hc hn children => by
    rw [Node.spell]
    exact .element ho hc hn (Node.balanced_spellAll children) .nil

theorem Node.balanced_spellAll : ∀ ns : List Node, Balanced (Node.spellAll ns)
  | [] => by
    rw [Node.spellAll]
    exact .nil
  | n :: ns => by
    rw [Node.spellAll]
    exact n.balanced_spell.append (Node.balanced_spellAll ns)

end

theorem balanced_iff {ts : List Token} : Balanced ts ↔ ∃ ns, Node.spellAll ns = ts := by
  constructor
  · intro h
    induction h with
    | nil => exact ⟨[], by rw [Node.spellAll]⟩
    | @single t ts ho hc _ ih =>
      obtain ⟨ns, hns⟩ := ih
      exact ⟨.single t ho hc :: ns, by rw [Node.spellAll, Node.spell, hns, List.singleton_append]⟩
    | @element o c inner ts ho hc hn _ _ ihinner ih =>
      obtain ⟨children, hchildren⟩ := ihinner
      obtain ⟨ns, hns⟩ := ih
      refine ⟨.element o c ho hc hn children :: ns, ?_⟩
      rw [Node.spellAll, Node.spell, hchildren, hns]
      simp
  · rintro ⟨ns, rfl⟩
    exact Node.balanced_spellAll ns

theorem spellAll_text {ns : List Node} (h : ns.all Node.isText = true) :
    ∀ t ∈ Node.spellAll ns, t.kind = .text := by
  induction ns with
  | nil => simp [Node.spellAll]
  | cons n ns ih =>
    rw [List.all_cons, Bool.and_eq_true] at h
    rw [Node.spellAll, List.forall_mem_append]
    refine ⟨?_, ih h.2⟩
    cases n with
    | single t => simpa [Node.spell, Node.isText] using h.1
    | element => simp [Node.isText] at h

theorem head?_markupOf_spellAll {ns : List Node} (h : ns.all Node.isText = false)
    (rest : List Token) : ∀ t ∈ (markupOf (Node.spellAll ns ++ rest)).head?, t.kind ≠ .closing := by
  induction ns with
  | nil => simp at h
  | cons n ns ih =>
    rw [Node.spellAll, List.append_assoc]
    cases n with
    | single t ho hc =>
      by_cases ht : t.kind = .text
      · have hns : ns.all Node.isText = false := by simpa [Node.isText, ht] using h
        simpa [Node.spell, markupOf, Token.isMarkup, ht] using ih hns
      · simpa [Node.spell, markupOf, Token.isMarkup, ht] using hc
    | element o c ho hc hn children => simp [Node.spell, markupOf, Token.isMarkup, ho]

theorem layout_single {t : Token} (ho : t.kind ≠ .opening) (hc : t.kind ≠ .closing)
    (rest : List Token) : layout (t :: rest) = t.alone ++ layout rest := by
  unfold Token.alone
  split
  · rename_i ht
    exact layout_text ht rest
  · rename_i ht
    have hkind : t.kind.lineKind = .whole := by
      revert ho hc
      cases t.kind <;> simp [TokenKind.lineKind]
    rw [layout_alone ht (fun h => absurd h ho), hkind, List.singleton_append]

mutual

/-- The lines of a node are laid out as they are placed, whatever stands around and behind it. -/
theorem Node.layout_spell : ∀ (n : Node) (around rest : List Token),
    layout (n.spell ++ rest) = (n.placed around).map Placed.line ++ layout rest
  | .single t ho hc, around, rest => by
    rw [Node.spell, Node.placed, List.singleton_append, layout_single ho hc, List.map_map]
    simp [Function.comp_def]
  | .element o c ho hc hn children, around, rest => by
    rw [Node.placed, Node.spell]
    by_cases htext : children.all Node.isText = true
    · have hleaf : Segment (o :: (Node.spellAll children ++ [c])) _ rest :=
        .leaf ho (spellAll_text htext) hc hn
      rw [if_pos htext, hleaf.layout_append]
      rfl
    · have hnone : leafText? o.name (Node.spellAll children ++ c :: rest) = none :=
        leafText?_eq_none_iff.2 fun t ht hclosing =>
          absurd hclosing (head?_markupOf_spellAll (Bool.eq_false_iff.2 htext) _ t ht)
      have hchildren := Node.layout_spellAll children (o :: around) (c :: rest)
      have hc' : c.kind ≠ .opening := by simp [hc]
      rw [if_neg htext, List.cons_append, List.append_assoc, List.singleton_append,
        layout_alone (by simp [ho]) fun _ => hnone, hchildren,
        layout_alone (by simp [hc]) fun h => absurd h hc', ho, hc]
      simp [TokenKind.lineKind]

theorem Node.layout_spellAll : ∀ (ns : List Node) (around rest : List Token),
    layout (Node.spellAll ns ++ rest) =
      (Node.placedAll around ns).map Placed.line ++ layout rest
  | [], around, rest => by simp [Node.spellAll, Node.placedAll]
  | n :: ns, around, rest => by
    rw [Node.spellAll, Node.placedAll, List.append_assoc, Node.layout_spell n around,
      Node.layout_spellAll ns around, List.map_append, List.append_assoc]

end

/-- From the depth of their place on, the lines are indented as they are placed, and the depth is
what it was behind them. -/
def Leveled (width : Nat) (around : List Token) (ps : List Placed) : Prop :=
  indentFrom width around.length (ps.map Placed.line) =
    (ps.map (Placed.indented width), around.length)

section

variable {width : Nat} {around : List Token}

theorem Leveled.append {ps qs : List Placed} (hp : Leveled width around ps)
    (hq : Leveled width around qs) : Leveled width around (ps ++ qs) := by
  unfold Leveled at hp hq ⊢
  rw [List.map_append, indentFrom_append, hp, hq, List.map_append]

theorem leveled_whole (text : List Char) : Leveled width around [⟨around, .whole, text⟩] := by
  simp [Leveled, indentFrom_whole, indentFrom, Placed.indented, margin_natCast]

theorem leveled_alone (t : Token) : Leveled width around (t.alone.map (Placed.mk around)) := by
  unfold Token.alone
  split
  · unfold textLine
    dsimp only
    split
    · rfl
    · exact leveled_whole _
  · exact leveled_whole _

theorem Leveled.between {o : Token} {ps : List Placed} (h : Leveled width (o :: around) ps)
    (before after : List Char) :
    Leveled width around
      (⟨around, .opening, before⟩ :: (ps ++ [⟨around, .closing, after⟩])) := by
  unfold Leveled at h ⊢
  rw [List.length_cons] at h
  rw [List.map_cons, indentFrom_opening, List.map_append, indentFrom_append, h, List.map_singleton,
    indentFrom_closing]
  simp [indentFrom, Placed.indented, margin_natCast]

mutual

theorem Node.leveled_placed : ∀ (n : Node) (around : List Token),
    Leveled width around (n.placed around)
  | .single t _ _, around => by
    rw [Node.placed]
    exact leveled_alone t
  | .element o c ho hc hn children, around => by
    rw [Node.placed]
    split
    · exact leveled_whole _
    · exact (Node.leveled_placedAll children (o :: around)).between _ _

theorem Node.leveled_placedAll : ∀ (ns : List Node) (around : List Token),
    Leveled width around (Node.placedAll around ns)
  | [], around => by
    rw [Node.placedAll]
    rfl
  | n :: ns, around => by
    rw [Node.placedAll]
    exact (n.leveled_placed around).append (Node.leveled_placedAll ns around)

end

end

/-- Markup with balanced tokens spells a forest, and its lines are those of the forest. Indented,
each stands behind `width` spaces for each element around it, and behind the last line no element
is open. A width that is not positive indents no markup at all. -/
theorem indent_nested (xml : Bool) (markup : List Char) :
    (Balanced (tokens xml markup) → ∃ ns, Node.spellAll ns = tokens xml markup) ∧
      (∀ ns, Node.spellAll ns = tokens xml markup →
        lines xml markup = (Node.placedAll [] ns).map Placed.line ∧
          ∀ width : Nat,
            indent xml width markup =
              joinLines ((Node.placedAll [] ns).map (Placed.indented width)) ∧
            (indentFrom width 0 (lines xml markup)).2 = 0) ∧
      ∀ width ≤ 0, indent xml width markup = reformat xml markup := by
  refine ⟨balanced_iff.1, fun ns hns => ?_, fun width h => indent_of_nonpos h xml markup⟩
  have hlines : lines xml markup = (Node.placedAll [] ns).map Placed.line := by
    have hlayout := Node.layout_spellAll ns [] []
    rwa [List.append_nil, layout_nil, List.append_nil, hns] at hlayout
  refine ⟨hlines, fun width => ?_⟩
  have hleveled : indentFrom width 0 (lines xml markup) =
      ((Node.placedAll [] ns).map (Placed.indented width), 0) :=
    hlines ▸ Node.leveled_placedAll ns []
  exact ⟨by rw [indent, hleveled], by rw [hleveled]⟩

def nestedMarkup : List Char := "<div><div>a</div><p><!--b--></p><br>c</div>".toList

def nestedForest : List Node :=
  [.element ⟨.opening, "<div>".toList, "div".toList⟩ ⟨.closing, "</div>".toList, "div".toList⟩
    rfl rfl rfl
    [.element ⟨.opening, "<div>".toList, "div".toList⟩ ⟨.closing, "</div>".toList, "div".toList⟩
      rfl rfl rfl [.single ⟨.text, ['a'], []⟩ nofun nofun],
    .element ⟨.opening, "<p>".toList, ['p']⟩ ⟨.closing, "</p>".toList, ['p']⟩
      rfl rfl rfl [.single ⟨.declaration, "<!--b-->".toList, []⟩ nofun nofun],
    .single ⟨.empty, "<br>".toList, "br".toList⟩ nofun nofun,
    .single ⟨.text, ['c'], []⟩ nofun nofun]]

theorem indent_nested_divs :
    Balanced (tokens false nestedMarkup) ∧
      (∃ ns, Node.spellAll ns = tokens false nestedMarkup) ∧
      Node.spellAll nestedForest = tokens false nestedMarkup ∧
      indent false 3 nestedMarkup =
        "<div>\n   <div>a</div>\n   <p>\n      <!--b-->\n   </p>\n   <br>\n   c\n</div>".toList ∧
      indent false (-1) nestedMarkup = reformat false nestedMarkup := by
  obtain ⟨hexists, hforest, hnone⟩ := indent_nested false nestedMarkup
  have hspell : Node.spellAll nestedForest = tokens false nestedMarkup := by cbv
  have hbalanced : Balanced (tokens false nestedMarkup) := balanced_iff.2 ⟨nestedForest, hspell⟩
  refine ⟨hbalanced, hexists hbalanced, hspell, ?_, hnone (-1) (by decide)⟩
  exact ((hforest nestedForest hspell).2 3).1.trans (by cbv)

end ElementMarkup.Markup
