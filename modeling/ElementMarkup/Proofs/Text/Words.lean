import ElementMarkup.Proofs.Text.Trim
import ElementMarkup.Text.Search

/-!
# Words

Without a limit the words of a text are the pieces between its blanks that are not empty. So texts
that are joined by blanks have their words in order.
-/

set_option autoImplicit false

namespace ElementMarkup.Text

/-- The pieces between blanks that are not empty. -/
def pieces (cs : List Char) : List (List Char) := (cs.splitOnP isBlank).filter (!·.isEmpty)

theorem pieces_nil : pieces [] = [] := by simp [pieces]

theorem pieces_append_blank {c : Char} (h : isBlank c = true) (cs ds : List Char) :
    pieces (cs ++ c :: ds) = pieces cs ++ pieces ds := by
  rw [pieces, List.splitOnP_append_cons cs ds h, List.filter_append, pieces, pieces]

theorem pieces_dropWhile (cs : List Char) : pieces (cs.dropWhile isBlank) = pieces cs := by
  induction cs with
  | nil => rfl
  | cons c cs ih =>
    rw [List.dropWhile_cons]
    split
    · rename_i hc
      rw [ih, ← List.nil_append (c :: cs), pieces_append_blank hc, pieces_nil, List.nil_append]
    · rfl

theorem pieces_word {w : List Char} (hne : w ≠ []) (hw : ∀ c ∈ w, isBlank c = false) :
    pieces w = [w] := by
  have hsingle : w.splitOnP isBlank = [w] := List.splitOnP_eq_singleton hw
  rw [pieces, hsingle]
  simp [hne]

theorem pieces_word_append {w rest : List Char} (hne : w ≠ []) (hw : ∀ c ∈ w, isBlank c = false)
    (hrest : ∀ c ∈ rest.head?, isBlank c = true) : pieces (w ++ rest) = w :: pieces rest := by
  cases rest with
  | nil => rw [List.append_nil, pieces_word hne hw, pieces_nil]
  | cons c rest =>
    have hc := hrest c rfl
    rw [pieces_append_blank hc, pieces_word hne hw, ← List.nil_append (c :: rest),
      pieces_append_blank hc, pieces_nil]
    rfl

theorem wordsFrom_eq_pieces {limit : Int} {fuel : Nat} {cs : List Char} (hl : limit < 0)
    (hf : cs.length < fuel) : wordsFrom limit fuel cs = pieces cs := by
  induction fuel generalizing limit cs with
  | zero => exact absurd hf (Nat.not_lt_zero _)
  | succ fuel ih =>
    rw [wordsFrom, ← pieces_dropWhile cs]
    have hlength := (List.dropWhile_suffix (l := cs) isBlank).length_le
    have hhead := dropWhile_head (p := isBlank) cs
    cases hd : cs.dropWhile isBlank with
    | nil => rw [pieces_nil]
    | cons c rest =>
      rw [hd] at hlength hhead
      have hc : (!isBlank c) = true := by simpa using hhead c rfl
      have hword : (c :: rest).takeWhile (!isBlank ·) = c :: rest.takeWhile (!isBlank ·) :=
        List.takeWhile_cons_of_pos hc
      have hbehind : (c :: rest).dropWhile (!isBlank ·) = rest.dropWhile (!isBlank ·) :=
        List.dropWhile_cons_of_pos hc
      have hless := (List.dropWhile_suffix (l := rest) (!isBlank ·)).length_le
      have hmore : (rest.dropWhile (!isBlank ·)).length < fuel := by
        rw [List.length_cons] at hlength
        omega
      have hsplit : pieces ((c :: rest).takeWhile (!isBlank ·) ++
          (c :: rest).dropWhile (!isBlank ·)) = _ :=
        pieces_word_append (by simp [hword])
          (fun d hd => by simpa using List.mem_takeWhile_imp hd)
          (fun d hd => by simpa using dropWhile_head (p := (!isBlank ·)) _ d hd)
      rw [List.takeWhile_append_dropWhile] at hsplit
      dsimp only
      rw [if_neg (by omega), hsplit, hbehind, ih (by omega) hmore]

theorem words_eq_pieces (cs : List Char) : words (-1) cs = pieces cs :=
  wordsFrom_eq_pieces (by decide) (Nat.lt_succ_self _)

theorem pieces_intercalate {c : Char} (h : isBlank c = true) (texts : List (List Char)) :
    pieces (List.intercalate [c] texts) = texts.flatMap pieces := by
  induction texts with
  | nil => exact pieces_nil
  | cons t texts ih =>
    cases texts with
    | nil => simp [List.intercalate]
    | cons u texts =>
      rw [List.intercalate_cons_cons, List.append_assoc, List.singleton_append,
        pieces_append_blank h, ih, List.flatMap_cons (x := t)]

theorem words_intercalate {c : Char} (h : isBlank c = true) (texts : List (List Char)) :
    words (-1) (List.intercalate [c] texts) = texts.flatMap (words (-1)) := by
  rw [words_eq_pieces, pieces_intercalate h]
  congr 1
  funext t
  exact (words_eq_pieces t).symm

end ElementMarkup.Text
