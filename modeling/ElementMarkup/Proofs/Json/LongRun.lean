import ElementMarkup.Json.Read
import ElementMarkup.Proofs.Failure
import ElementMarkup.Proofs.Number.Literal

/-!
# JSON texts without a datum

Every reader leaves an end of the text that it starts at, so the text has the run of digits that a
number is refused for, or the escape that spells a half of a surrogate pair. If lists and mappings
are nested too deeply, then more of them are opened than the limit says.
-/

set_option autoImplicit false

namespace ElementMarkup.Json

theorem isDigit_of_isAsciiDigit {c : Char} (h : isAsciiDigit c = true) : Text.isDigit c = true := by
  simp only [isAsciiDigit, Bool.and_eq_true, decide_eq_true_eq] at h
  have hlow : 48 ≤ c.toNat := h.1
  have hhigh : c.toNat ≤ 57 := h.2
  have hvalue : Text.digitValue? c = some (c.toNat - 48) := by
    unfold Text.digitValue?
    rw [if_pos (by omega), if_pos ⟨hlow, hhigh⟩]
  rw [Text.isDigit, hvalue, Option.isSome_some]

theorem wholePart_isPrefix (cs : List Char) : Digits (wholePart cs) ∧ wholePart cs <+: cs := by
  unfold wholePart
  split
  · exact ⟨List.forall_mem_singleton.2 (by decide), by simp⟩
  · exact ⟨fun c hc => isDigit_of_isAsciiDigit (List.mem_takeWhile_imp hc), List.takeWhile_prefix _⟩

theorem numberAt?_hasLongRun {cs : List Char} {l : NumberLiteral} {length digits : Nat}
    (h : numberAt? cs = some (l, length)) (hv : l.value = .error digits) :
    HasLongRun cs digits := by
  obtain ⟨-, -, hlength, hlimit⟩ := NumberLiteral.value_eq_error_iff.1 hv
  simp only [numberAt?, Option.ite_none_left_eq_some, Option.some.injEq, Prod.mk.injEq] at h
  obtain ⟨-, rfl, -⟩ := h
  obtain ⟨hd, hp⟩ := wholePart_isPrefix (cs.drop (if cs.head? == some '-' then 1 else 0))
  exact ⟨_, hp.isInfix.trans (List.drop_suffix _ cs).isInfix, hd, hlength, hlimit⟩

/-- An escape of the text spells a half of a surrogate pair. -/
def SpellsHalf (cs : List Char) (unit : Nat) : Prop :=
  (isHighHalf unit || isLowHalf unit) = true ∧
    ∃ digits, '\\' :: 'u' :: digits <:+ cs ∧ fourDigits? digits = some unit

def openings (cs : List Char) : Nat := cs.countP fun c => c == '[' || c == '{'

theorem openings_mono {cs ds : List Char} (h : ds <:+ cs) : openings ds ≤ openings cs :=
  h.sublist.countP_le

/-- What a reader stops at stands in a text. -/
def Stop.StandsIn (depth : Nat) (cs : List Char) : Stop → Prop
  | .tooManyDigits digits => HasLongRun cs digits
  | .loneSurrogate unit => SpellsHalf cs unit
  | .tooDeep => depth < openings cs
  | .fault _ _ => True

theorem Stop.StandsIn.mono {depth : Nat} {cs ds : List Char} {e : Stop} (h : e.StandsIn depth ds)
    (hs : ds <:+ cs) : e.StandsIn depth cs := by
  cases e with
  | fault => trivial
  | tooManyDigits => exact HasLongRun.mono h hs.isInfix
  | loneSurrogate =>
    obtain ⟨hhalf, digits, hd, hunit⟩ := h
    exact ⟨hhalf, digits, hd.trans hs, hunit⟩
  | tooDeep => exact Nat.lt_of_lt_of_le h (openings_mono hs)

/-- A reader that started at a text leaves an end of it, or stops at what stands in the text. -/
def Within {α : Type} (depth : Nat) (cs : List Char) : Except Stop (α × Rest) → Prop
  | .ok (_, r) => r.chars <:+ cs
  | .error e => e.StandsIn depth cs

section

variable {α β : Type} {depth : Nat} {cs ds : List Char} {x : Except Stop (α × Rest)}

theorem Within.mono (h : Within depth ds x) (hs : ds <:+ cs) : Within depth cs x := by
  cases x with
  | ok => exact List.IsSuffix.trans h hs
  | error => exact Stop.StandsIn.mono h hs

theorem Within.opened {c : Char} (h : Within depth ds x) (hs : ds <:+ cs)
    (hc : (c == '[' || c == '{') = true) : Within (depth + 1) (c :: cs) x := by
  cases x with
  | ok => exact (List.IsSuffix.trans h hs).trans (List.suffix_cons c cs)
  | error e =>
    cases e with
    | tooDeep =>
      have hdepth : depth < openings cs := Nat.lt_of_lt_of_le h (openings_mono hs)
      have hcons : openings (c :: cs) = openings cs + 1 := List.countP_cons_of_pos hc
      change depth + 1 < openings (c :: cs)
      omega
    | fault | tooManyDigits | loneSurrogate =>
      exact Within.mono (α := α) (x := .error _) h (hs.trans (List.suffix_cons c cs))

theorem Within.bind {f : α × Rest → Except Stop (β × Rest)} (h : Within depth cs x)
    (hf : ∀ a r, r.chars <:+ cs → Within depth cs (f (a, r))) : Within depth cs (x >>= f) := by
  cases x with
  | ok p => exact hf p.1 p.2 h
  | error => exact h

theorem Within.map {f : α → β} (h : Within depth cs x) :
    Within depth cs (x.map fun (a, r) => (f a, r)) := by
  cases x <;> exact h

end

section

variable {depth : Nat}

theorem Rest.drop_suffix (r : Rest) (n : Nat) : (r.drop n).chars <:+ r.chars :=
  List.drop_suffix n r.chars

theorem Rest.skipSpace_suffix (r : Rest) : r.skipSpace.chars <:+ r.chars :=
  r.drop_suffix _

theorem number_within (r : Rest) : Within depth r.chars (number r) := by
  unfold number
  split
  · trivial
  · next l length hl =>
    split
    · exact r.drop_suffix length
    · next hv => exact numberAt?_hasLongRun hl hv

theorem singleUnit_within {r after : Rest} {digits : List Char} {unit : Nat}
    (hr : r.chars = '\\' :: 'u' :: digits) (hd : fourDigits? digits = some unit)
    (ha : after.chars <:+ r.chars) : Within depth r.chars (singleUnit unit after) := by
  unfold singleUnit
  split
  · next hhalf => exact ⟨hhalf, digits, hr ▸ List.suffix_rfl, hd⟩
  · exact ha

theorem unicodeEscape_within {r : Rest} {digits : List Char}
    (hr : r.chars = '\\' :: 'u' :: digits) : Within depth r.chars (unicodeEscape r) := by
  have hdigits : (r.drop 2).chars = digits := congrArg (List.drop 2) hr
  have hfour : ((r.drop 2).drop 4).chars <:+ r.chars :=
    ((r.drop 2).drop_suffix 4).trans (r.drop_suffix 2)
  have hten : (((r.drop 2).drop 4).drop 6).chars <:+ r.chars :=
    (Rest.drop_suffix _ 6).trans hfour
  unfold unicodeEscape
  dsimp only
  split
  · trivial
  split
  · trivial
  next unit hunit =>
  have hsingle : Within depth r.chars (singleUnit unit ((r.drop 2).drop 4)) :=
    singleUnit_within hr (hdigits ▸ hunit) hfour
  -- behind one group of four digits, behind two, or a fault
  split
  · split
    · split
      · trivial
      · split
        · exact hten
        · exact hsingle
    · exact hsingle
  · exact hsingle

theorem stringBody_within (start fuel : Nat) (r : Rest) :
    Within depth r.chars (stringBody start fuel r) := by
  induction fuel generalizing r with
  | zero => trivial
  | succ fuel ih =>
    have goOn {next : Rest} (h : next.chars <:+ r.chars) :
        Within depth r.chars (stringBody start fuel next) :=
      (ih next).mono h
    unfold stringBody
    dsimp only
    split
    · trivial
    · exact r.drop_suffix 1
    · next hr =>
      split
      · trivial
      · have hescape : Within depth r.chars (unicodeEscape r) := unicodeEscape_within hr
        split
        · next h =>
          rw [h] at hescape
          exact (goOn hescape).map
        · next h =>
          rw [h] at hescape
          exact hescape
      · split
        · exact (goOn (r.drop_suffix 2)).map
        · trivial
    · split
      · trivial
      · exact (goOn (r.drop_suffix 1)).map

theorem string_within (r : Rest) : Within depth r.chars (string r) :=
  (stringBody_within _ _ r).map

end

theorem value_within (fuel : Nat) : ∀ depth,
    (∀ r, Within depth r.chars (value fuel depth r)) ∧
      (∀ r, Within depth r.chars (members fuel depth r)) ∧
      ∀ before r, Within depth r.chars (properties fuel depth before r) := by
  induction fuel with
  | zero => exact fun _ => ⟨fun _ => trivial, fun _ => trivial, fun _ _ => trivial⟩
  | succ fuel ih =>
    intro depth
    obtain ⟨hvalue, hmembers, hproperties⟩ := ih depth
    have hnext (r : Rest) : (r.drop 1).skipSpace.chars <:+ r.chars :=
      (Rest.skipSpace_suffix _).trans (r.drop_suffix 1)
    -- behind an opening bracket the limit is lower by one
    have hinner {r : Rest} {c : Char} {tail : List Char} (hr : r.chars = c :: tail) :
        (r.drop 1).skipSpace.chars <:+ tail := by
      have htail : (r.drop 1).chars = tail := congrArg (List.drop 1) hr
      exact htail ▸ Rest.skipSpace_suffix _
    refine ⟨fun r => ?_, fun r => ?_, fun before r => ?_⟩
    · unfold value
      split
      · exact ((string_within _).mono (r.drop_suffix 1)).map
      · next tail hr =>
        cases depth with
        | zero => simp [Within, Stop.StandsIn, openings, hr]
        | succ depth =>
          dsimp only
          split
          · exact (Rest.drop_suffix _ 1).trans (hnext r)
          · rw [hr]
            exact (((ih depth).2.1 _).opened (c := '[') (hinner hr) rfl).map
      · next tail hr =>
        cases depth with
        | zero => simp [Within, Stop.StandsIn, openings, hr]
        | succ depth =>
          dsimp only
          split
          · exact (Rest.drop_suffix _ 1).trans (hnext r)
          · rw [hr]
            exact (((ih depth).2.2 _ _).opened (c := '{') (hinner hr) rfl).map
      · split
        · exact r.drop_suffix _
        · exact number_within r
    · unfold members
      refine (hvalue r).bind fun d rest hrest => ?_
      have hrest := (Rest.skipSpace_suffix rest).trans hrest
      dsimp only
      split
      · exact (Rest.drop_suffix _ 1).trans hrest
      · exact ((hmembers _).mono ((hnext _).trans hrest)).bind fun _ _ h => h
      · trivial
    · unfold properties
      split
      · trivial
      refine ((string_within _).mono (r.drop_suffix 1)).bind fun key rest hrest => ?_
      have hrest := (Rest.skipSpace_suffix rest).trans hrest
      dsimp only
      split
      · trivial
      refine ((hvalue _).mono ((hnext _).trans hrest)).bind fun d rest hrest => ?_
      have hrest := (Rest.skipSpace_suffix rest).trans hrest
      dsimp only
      split
      · exact (Rest.drop_suffix _ 1).trans hrest
      · exact (hproperties _ _).mono ((hnext _).trans hrest)
      · trivial

theorem document_within {depth : Nat} {cs : List Char} {e : Stop}
    (h : document depth cs = .error e) : e.StandsIn depth cs := by
  have hvalue := ((value_within (2 * cs.length + 2) depth).1 (Rest.skipSpace ⟨0, cs⟩)).mono
    (Rest.skipSpace_suffix ⟨0, cs⟩)
  unfold document at h
  split at h
  · cases h
    trivial
  split at h
  · next hv =>
    rw [hv, Except.error.inj h] at hvalue
    exact hvalue
  · dsimp only at h
    split at h <;> cases h
    trivial

def ReadError.StandsIn (depth : Nat) (cs : List Char) : ReadError → Prop
  | .located .. => True
  | .tooManyDigits digits => HasLongRun cs digits
  | .loneSurrogate unit => SpellsHalf cs unit
  | .tooDeep => depth < openings cs

/-- A JSON text is refused for the digits of a number only if it has so many digits in a row, for a
character only if one of its escapes spells a half of one, and for its depth only if it opens more
lists and mappings than may be nested in each other. -/
theorem read_standsIn {depth : Nat} {cs : List Char} {e : ReadError}
    (h : read depth cs = .error e) : e.StandsIn depth cs := by
  unfold read at h
  split at h
  · cases h
  · next hd =>
    cases h
    exact document_within hd
  · next hd =>
    cases h
    exact document_within hd
  · next hd =>
    cases h
    exact document_within hd
  · cases h
    trivial

end ElementMarkup.Json
