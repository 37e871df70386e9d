import ElementMarkup.Markup.Layout

/-!
# Margins

Indenting goes down the lines with a counter of the open elements. An opening line raises the
counter for the lines behind it, a closing line lowers it for itself, and no other line changes it.
A width that is not positive gives no margins, whatever the counter is.
-/

set_option autoImplicit false

namespace ElementMarkup.Markup

theorem margin_natCast (width depth : Nat) :
    margin width depth = List.replicate (width * depth) ' ' := by
  rw [margin, ← Int.natCast_mul, Int.toNat_natCast]

theorem margin_of_nonpos {width : Int} (h : width ≤ 0) (depth : Nat) : margin width depth = [] := by
  have hle : width * depth ≤ 0 := Int.mul_nonpos_of_nonpos_of_nonneg h (Int.natCast_nonneg depth)
  rw [margin, Int.toNat_of_nonpos hle]
  rfl

variable (width : Int) (depth : Nat) (text : List Char) (ls : List Line)

theorem indentFrom_whole : indentFrom width depth (⟨.whole, text⟩ :: ls) =
    ((margin width depth ++ text) :: (indentFrom width depth ls).1,
      (indentFrom width depth ls).2) := rfl

theorem indentFrom_opening : indentFrom width depth (⟨.opening, text⟩ :: ls) =
    ((margin width depth ++ text) :: (indentFrom width (depth + 1) ls).1,
      (indentFrom width (depth + 1) ls).2) := rfl

theorem indentFrom_closing : indentFrom width (depth + 1) (⟨.closing, text⟩ :: ls) =
    ((margin width depth ++ text) :: (indentFrom width depth ls).1,
      (indentFrom width depth ls).2) := rfl

theorem indentFrom_textLine : indentFrom width depth (textLine text ++ ls) =
    ((textLine text).map (fun l => margin width depth ++ l.text) ++ (indentFrom width depth ls).1,
      (indentFrom width depth ls).2) := by
  unfold textLine
  dsimp only
  split
  · rfl
  · exact indentFrom_whole width depth _ ls

theorem indentFrom_append (ms : List Line) : indentFrom width depth (ls ++ ms) =
    ((indentFrom width depth ls).1 ++ (indentFrom width (indentFrom width depth ls).2 ms).1,
      (indentFrom width (indentFrom width depth ls).2 ms).2) := by
  induction ls generalizing depth with
  | nil => rfl
  | cons l ls ih => rw [List.cons_append, indentFrom, ih, indentFrom, List.cons_append]

variable {width}

theorem indentFrom_of_nonpos (h : width ≤ 0) :
    (indentFrom width depth ls).1 = ls.map Line.text := by
  induction ls generalizing depth with
  | nil => rfl
  | cons l ls ih => rw [indentFrom, ih, margin_of_nonpos h, List.nil_append, List.map_cons]

theorem indent_of_nonpos (h : width ≤ 0) (xml : Bool) (markup : List Char) :
    indent xml width markup = reformat xml markup := by
  rw [indent, indentFrom_of_nonpos _ _ h, reformat]

end ElementMarkup.Markup
