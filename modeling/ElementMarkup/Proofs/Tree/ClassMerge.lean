import ElementMarkup.Proofs.Text.Words
import ElementMarkup.Proofs.Tree.Writable
import ElementMarkup.Tree.Attribute
import ElementMarkup.Tree.Key

/-!
# Merging classes

A list of pairs and a list of names and values in turns give the same attributes. Merging leaves one
class among them, in the place of the first one, and loses nothing: the other attributes stay as
they are, and the words of the merged class are those of all classes in order. Merged again, the
attributes do not change.
-/

set_option autoImplicit false

namespace ElementMarkup

def Attribute.pair (a : Attribute) : Datum := .tuple [.text a.name, a.value]

def Attribute.named (a : Attribute) : Datum × Datum := (.text a.name, a.value)

/-- The attribute that a name and a value give, if the name is a text of some kind. -/
def Attribute.ofNamed? (p : Datum × Datum) : Option Attribute :=
  p.1.keyText?.map fun name => ⟨name, p.2⟩

def pairedData (ps : List (Datum × Datum)) : List Datum := ps.map fun p => .tuple [p.1, p.2]

def flatData (ps : List (Datum × Datum)) : List Datum := ps.flatMap fun p => [p.1, p.2]

theorem plain?_of_keyText? {d : Datum} {s : String} (h : d.keyText? = some s) :
    d.plain? = some s := by
  cases d with
  | text | word | escaped => exact h
  | _ => simp [Datum.keyText?] at h

theorem exists_shown_of_keyText? {d : Datum} {s : String} (h : d.keyText? = some s) :
    ∃ shown, d.shown? = some shown := by
  cases d with
  | text | word | escaped => exact ⟨_, by rw [Datum.shown?]⟩
  | _ => simp [Datum.keyText?] at h

theorem pairs?_pairedData (ps : List (Datum × Datum)) : pairs? (pairedData ps) = some ps := by
  induction ps with
  | nil => rfl
  | cons p ps ih =>
    rw [pairedData, List.map_cons, pairs?, ← pairedData, ih]
    rfl

theorem pairs?_of_keyText? {k : Datum} {name : String} (h : k.keyText? = some name)
    (ds : List Datum) : pairs? (k :: ds) = none := by
  cases k with
  | text | word | escaped => rfl
  | _ => simp [Datum.keyText?] at h

theorem alternating?_flatData (ps : List (Datum × Datum)) (ds : List Datum) :
    alternating? (flatData ps ++ ds) = (alternating? ds).map (ps ++ ·) := by
  induction ps with
  | nil => simp [flatData]
  | cons p ps ih =>
    rw [flatData, List.flatMap_cons, ← flatData, List.append_assoc]
    change (alternating? (flatData ps ++ ds)).map _ = _
    rw [ih, Option.map_map]
    rfl

theorem namedPairs_eq {ps : List (Datum × Datum)} {as : List Attribute}
    (h : ps.mapM Attribute.ofNamed? = some as) : namedPairs ps = .ok as := by
  induction ps generalizing as with
  | nil =>
    obtain rfl : [] = as := Option.some.inj h
    rfl
  | cons p ps ih =>
    obtain ⟨a, ha, bs, hbs, rfl⟩ := by simpa [List.mapM_cons, Option.bind_eq_some_iff] using h
    obtain ⟨name, hname, rfl⟩ := Option.map_eq_some_iff.1 ha
    rw [namedPairs, plain?_of_keyText? hname, ih hbs]
    rfl

theorem keyText?_of_mapM {p : Datum × Datum} {ps : List (Datum × Datum)} {as : List Attribute}
    (h : (p :: ps).mapM Attribute.ofNamed? = some as) : ∃ name, p.1.keyText? = some name := by
  obtain ⟨a, ha, -⟩ := by simpa [List.mapM_cons, Option.bind_eq_some_iff] using h
  obtain ⟨name, hname, -⟩ := Option.map_eq_some_iff.1 ha
  exact ⟨name, hname⟩

theorem attributesOf_pairedData {ps : List (Datum × Datum)} {as : List Attribute}
    (h : ps.mapM Attribute.ofNamed? = some as) : attributesOf (pairedData ps) = .ok as := by
  rw [attributesOf, pairs?_pairedData]
  exact namedPairs_eq h

theorem attributesOf_flatData {ps : List (Datum × Datum)} {as : List Attribute}
    (h : ps.mapM Attribute.ofNamed? = some as) : attributesOf (flatData ps) = .ok as := by
  cases ps with
  | nil => exact namedPairs_eq h
  | cons p ps =>
    obtain ⟨name, hname⟩ := keyText?_of_mapM h
    have hpairs : pairs? (flatData (p :: ps)) = none := pairs?_of_keyText? hname _
    have hflat := alternating?_flatData (p :: ps) []
    rw [List.append_nil, alternating?, Option.map_some, List.append_nil] at hflat
    rw [attributesOf, hpairs, hflat]
    exact namedPairs_eq h

theorem attributesOf_odd {ps : List (Datum × Datum)} {as : List Attribute}
    (h : ps.mapM Attribute.ofNamed? = some as) {k : Datum} {name : String}
    (hk : k.keyText? = some name) : ∃ shown, k.shown? = some shown ∧
      attributesOf (flatData ps ++ [k]) = .error (.oddLength (2 * ps.length + 1) shown) := by
  obtain ⟨shown, hshown⟩ := exists_shown_of_keyText? hk
  have hpairs : pairs? (flatData ps ++ [k]) = none := by
    cases ps with
    | nil => exact pairs?_of_keyText? hk []
    | cons p ps =>
      obtain ⟨name', hname'⟩ := keyText?_of_mapM h
      exact pairs?_of_keyText? hname' _
  have hlength : (flatData ps ++ [k]).length = 2 * ps.length + 1 := by
    simp [flatData, List.length_flatMap, List.map_const', Nat.mul_comm]
  refine ⟨shown, hshown, ?_⟩
  rw [attributesOf, hpairs, alternating?_flatData, alternating?]
  simp only [Option.map_none]
  rw [List.getLast?_concat, Option.getD_some, hshown, hlength]

theorem mapM_ofNamed_named (as : List Attribute) :
    (as.map Attribute.named).mapM Attribute.ofNamed? = some as := by
  induction as with
  | nil => rfl
  | cons a as ih =>
    rw [List.map_cons, List.mapM_cons, ih]
    rfl

theorem attributesOf_pair (as : List Attribute) :
    attributesOf (as.map Attribute.pair) = .ok as := by
  have hpaired : as.map Attribute.pair = pairedData (as.map Attribute.named) := by
    rw [pairedData, List.map_map]
    rfl
  rw [hpaired, attributesOf_pairedData (mapM_ofNamed_named as)]

def Datum.classNames (d : Datum) : List (List Char) :=
  if d.isNull then [] else d.plain?.elim [] fun t => Text.words (-1) t.toList

def classValues (as : List Attribute) : List Datum :=
  (as.filter Attribute.isClass).map Attribute.value

/-- The values of the classes before and after merging: a single one is kept, several without any
value become one without a value, and otherwise the texts of the values are joined by spaces. -/
inductive MergedValues : List Datum → List Datum → Prop where
  | none : MergedValues [] []
  | single (d : Datum) : MergedValues [d] [d]
  | bare {ds : List Datum} (hlen : 2 ≤ ds.length) (hds : ∀ d ∈ ds, d = .null) :
      MergedValues ds [.null]
  | joined {ds : List Datum} {texts : List String} (hlen : 2 ≤ ds.length)
      (htexts : (ds.filter (!·.isNull)).mapM Datum.plain? = some texts) (hne : texts ≠ []) :
      MergedValues ds [.text (" ".intercalate texts)]

/-- The attributes `bs` are those of `as` with the classes merged. -/
structure Merged (as bs : List Attribute) : Prop where
  others : bs.filter (!·.isClass) = as.filter (!·.isClass)
  place : bs.findIdx? Attribute.isClass = as.findIdx? Attribute.isClass
  values : MergedValues (classValues as) (classValues bs)
  names : (classValues bs).flatMap Datum.classNames = (classValues as).flatMap Datum.classNames

def mergedAttributes (items : List Datum) : Except AttributeError (List Attribute) :=
  (attributesOf items).bind fun as =>
    match mergeClasses? as with
    | some merged => .ok merged
    | none => .error .tooManyDigits

/-- There is nothing to join, or every value that is joined has a text. -/
def Mergeable (as : List Attribute) : Prop :=
  (classValues as).length < 2 ∨ ∀ d ∈ classValues as, d.writable = true

theorem mergedAttributes_of {items : List Datum} {as : List Attribute}
    (h : attributesOf items = .ok as) : mergedAttributes items = match mergeClasses? as with
      | some merged => .ok merged
      | none => .error .tooManyDigits := by
  rw [mergedAttributes, h]
  rfl

theorem presentTexts?_cons {d : Datum} (h : d.isNull = false) (ds : List Datum) :
    presentTexts? (d :: ds) = do
      let t ← d.plain?
      let ts ← presentTexts? ds
      return t :: ts := by
  cases d with
  | null => simp [Datum.isNull] at h
  | _ => rfl

theorem eq_null_of_isNull {d : Datum} (h : d.isNull = true) : d = .null := by
  cases d with
  | null => rfl
  | _ => simp [Datum.isNull] at h

theorem presentTexts?_eq (ds : List Datum) :
    presentTexts? ds = (ds.filter (!·.isNull)).mapM Datum.plain? := by
  induction ds with
  | nil => rfl
  | cons d ds ih =>
    cases hd : d.isNull with
    | true =>
      obtain rfl := eq_null_of_isNull hd
      exact ih
    | false =>
      rw [presentTexts?_cons hd, ih, List.filter_cons_of_pos (by simp [hd]), List.mapM_cons]

theorem isSome_presentTexts (ds : List Datum) :
    (presentTexts? ds).isSome = ds.all Datum.writable := by
  induction ds with
  | nil => rfl
  | cons d ds ih =>
    rw [List.all_cons, ← ih]
    cases hd : d.isNull with
    | true =>
      obtain rfl := eq_null_of_isNull hd
      rw [Datum.writable, Bool.true_and]
      rfl
    | false =>
      rw [presentTexts?_cons hd, ← Datum.isSome_plain]
      cases d.plain? <;> cases presentTexts? ds <;> rfl

theorem classNames_present {ds : List Datum} {texts : List String}
    (h : presentTexts? ds = some texts) :
    ds.flatMap Datum.classNames = texts.flatMap fun t => Text.words (-1) t.toList := by
  induction ds generalizing texts with
  | nil =>
    obtain rfl := Option.some.inj h
    rfl
  | cons d ds ih =>
    cases hd : d.isNull with
    | true =>
      obtain rfl := eq_null_of_isNull hd
      exact ih h
    | false =>
      rw [presentTexts?_cons hd] at h
      obtain ⟨t, ht, ts, hts, rfl⟩ := by simpa [Option.bind_eq_some_iff] using h
      rw [List.flatMap_cons, List.flatMap_cons, ih hts, Datum.classNames, ht, hd]
      rfl

theorem classNames_mergedValue (texts : List String) :
    (mergedValue texts).classNames = texts.flatMap fun t => Text.words (-1) t.toList := by
  unfold mergedValue
  cases texts with
  | nil => rfl
  | cons t texts =>
    have hjoin : Text.words (-1) (" ".intercalate (t :: texts)).toList =
        (t :: texts).flatMap fun t => Text.words (-1) t.toList := by
      rw [String.toList_intercalate]
      exact (Text.words_intercalate rfl _).trans (List.flatMap_map _ _ _)
    exact hjoin

theorem eq_null_of_presentTexts {ds : List Datum} (h : presentTexts? ds = some []) :
    ∀ d ∈ ds, d = .null := by
  induction ds with
  | nil => simp
  | cons d ds ih =>
    cases hd : d.isNull with
    | true =>
      obtain rfl := eq_null_of_isNull hd
      exact List.forall_mem_cons.2 ⟨rfl, ih h⟩
    | false =>
      rw [presentTexts?_cons hd] at h
      simp [Option.bind_eq_some_iff] at h

theorem mergedValues_present {ds : List Datum} {texts : List String} (hlen : 2 ≤ ds.length)
    (h : presentTexts? ds = some texts) : MergedValues ds [mergedValue texts] := by
  cases texts with
  | nil => exact .bare hlen (eq_null_of_presentTexts h)
  | cons t texts => exact .joined hlen (presentTexts?_eq ds ▸ h) (List.cons_ne_nil _ _)

theorem mergedValues_few {ds : List Datum} (h : ds.length < 2) : MergedValues ds ds := by
  match ds, h with
  | [], _ => exact .none
  | [d], _ => exact .single d

theorem MergedValues.length_lt {ds es : List Datum} (h : MergedValues ds es) : es.length < 2 := by
  cases h <;> simp

theorem length_classValues (as : List Attribute) :
    (classValues as).length = (as.filter Attribute.isClass).length := List.length_map _

theorem mergeClasses?_few {as : List Attribute} (h : (classValues as).length < 2) :
    mergeClasses? as = some as := by
  rw [length_classValues] at h
  exact if_pos h

theorem mergeClasses?_several {as : List Attribute} (h : ¬ (classValues as).length < 2) :
    mergeClasses? as = (presentTexts? (classValues as)).map fun texts =>
      keepFirstClass (mergedValue texts) as := by
  rw [length_classValues] at h
  exact if_neg h

theorem keepFirstClass_append {before : List Attribute} (hb : ∀ a ∈ before, a.isClass = false)
    {c : Attribute} (hc : c.isClass = true) (after : List Attribute) (merged : Datum) :
    keepFirstClass merged (before ++ c :: after) =
      before ++ ⟨"class", merged⟩ :: after.filter (!·.isClass) := by
  induction before with
  | nil => rw [List.nil_append, keepFirstClass, if_pos hc, List.nil_append]
  | cons a before ih =>
    rw [List.forall_mem_cons] at hb
    rw [List.cons_append, keepFirstClass, if_neg (by simp [hb.1]), ih hb.2, List.cons_append]

theorem merged_keepFirstClass {as : List Attribute} {texts : List String}
    (hlen : 2 ≤ (classValues as).length) (h : presentTexts? (classValues as) = some texts) :
    Merged as (keepFirstClass (mergedValue texts) as) := by
  have hclasses : as.filter Attribute.isClass ≠ [] := by
    rw [length_classValues] at hlen
    exact List.ne_nil_of_length_pos (by omega)
  obtain ⟨c, cs, hcs⟩ := List.exists_cons_of_ne_nil hclasses
  obtain ⟨before, after, rfl, hb, hc, -⟩ := List.filter_eq_cons_iff.1 hcs
  have hbefore : ∀ a ∈ before, a.isClass = false := fun a ha => by simpa using hb a ha
  have hkeep := keepFirstClass_append hbefore hc after (mergedValue texts)
  have hmerged : Attribute.isClass ⟨"class", mergedValue texts⟩ = true := rfl
  have hnone : before.filter Attribute.isClass = [] := List.filter_eq_nil_iff.2 hb
  have hfirst : before.findIdx? Attribute.isClass = none := List.findIdx?_eq_none_iff.2 hbefore
  have hvalues : classValues (before ++ ⟨"class", mergedValue texts⟩ ::
      after.filter (!·.isClass)) = [mergedValue texts] := by
    rw [classValues, List.filter_append, hnone, List.filter_cons_of_pos hmerged, List.filter_filter]
    simp
  rw [hkeep]
  refine ⟨?_, ?_, ?_, ?_⟩
  · rw [List.filter_append, List.filter_append, List.filter_cons_of_neg (by simp [hmerged]),
      List.filter_cons_of_neg (by simp [hc]), List.filter_filter]
    simp
  · rw [List.findIdx?_append, List.findIdx?_append, hfirst, List.findIdx?_cons, List.findIdx?_cons,
      if_pos hmerged, if_pos hc]
  · rw [hvalues]
    exact mergedValues_present hlen h
  · rw [hvalues, List.flatMap_singleton, classNames_mergedValue, classNames_present h]

theorem merged_few {as : List Attribute} (h : (classValues as).length < 2) : Merged as as :=
  ⟨rfl, rfl, mergedValues_few h, rfl⟩

theorem exists_merged {as : List Attribute} (h : Mergeable as) :
    ∃ bs, mergeClasses? as = some bs ∧ Merged as bs := by
  by_cases hlen : (classValues as).length < 2
  · exact ⟨as, mergeClasses?_few hlen, merged_few hlen⟩
  · have hall : (classValues as).all Datum.writable = true :=
      List.all_eq_true.2 (h.resolve_left hlen)
    obtain ⟨texts, htexts⟩ := Option.isSome_iff_exists.1 ((isSome_presentTexts _).trans hall)
    exact ⟨_, by rw [mergeClasses?_several hlen, htexts, Option.map_some],
      merged_keepFirstClass (Nat.not_lt.1 hlen) htexts⟩

theorem Merged.mergeClasses?_eq {as bs : List Attribute} (h : Merged as bs) :
    mergeClasses? bs = some bs := mergeClasses?_few h.values.length_lt

theorem mergeClasses?_eq_none {as : List Attribute} (h : ¬ Mergeable as) :
    mergeClasses? as = none := by
  rw [Mergeable, not_or] at h
  have hnone : presentTexts? (classValues as) = none := by
    rw [← Option.not_isSome_iff_eq_none, isSome_presentTexts, List.all_eq_true]
    exact h.2
  rw [mergeClasses?_several h.1, hnone, Option.map_none]

theorem not_mergeable_pair {i : Int} (h : isWritable i = false) (d : Datum) :
    ¬ Mergeable [⟨"class", .number (.int i)⟩, ⟨"class", d⟩] := by
  rintro (hfew | hall)
  · exact absurd hfew (Nat.lt_irrefl 2)
  · have hlong := hall (.number (.int i)) List.mem_cons_self
    rw [Datum.writable, Number.writable, h] at hlong
    cases hlong

def longClasses : List Attribute :=
  [⟨"class", .number (.int (Int.ofNat (Nat.pow 10 digitLimit)))⟩, ⟨"class", .text "a"⟩]

theorem not_mergeable_longClasses : ¬ Mergeable longClasses := by
  have hwritable (n : Nat) (h : ¬ n < Nat.pow 10 digitLimit) : isWritable (Int.ofNat n) = false :=
    decide_eq_false h
  exact not_mergeable_pair (hwritable _ (Nat.lt_irrefl _)) _

theorem mergedAttributes_longClasses :
    ¬ ∃ bs, mergedAttributes (longClasses.map Attribute.pair) = .ok bs ∧ Merged longClasses bs := by
  rintro ⟨bs, hbs, -⟩
  rw [mergedAttributes_of (attributesOf_pair _), mergeClasses?_eq_none not_mergeable_longClasses]
    at hbs
  cases hbs

/-- For names that are texts, data in pairs and in turns give the same attributes, and a name
without a value behind them is an error. If the attributes can be merged, the result has one class
in the place of the first one, the other attributes as they were, and the class names of all classes
in order; merging it again changes nothing. They can be merged unless there are several classes and
an integer in one of them has too many digits. -/
theorem mergedAttributes_normal {ps : List (Datum × Datum)} {as : List Attribute}
    (h : ps.mapM Attribute.ofNamed? = some as) :
    mergedAttributes (flatData ps) = mergedAttributes (pairedData ps) ∧
      (∀ k name, k.keyText? = some name → ∃ shown, k.shown? = some shown ∧
        mergedAttributes (flatData ps ++ [k]) = .error (.oddLength (2 * ps.length + 1) shown)) ∧
      (Mergeable as → ∃ bs, mergedAttributes (pairedData ps) = .ok bs ∧ Merged as bs ∧
        mergedAttributes (bs.map Attribute.pair) = .ok bs) ∧
      (¬ Mergeable as → mergedAttributes (pairedData ps) = .error .tooManyDigits) := by
  have hpaired := mergedAttributes_of (attributesOf_pairedData h)
  refine ⟨?_, fun k name hk => ?_, fun hm => ?_, fun hm => ?_⟩
  · rw [hpaired, mergedAttributes_of (attributesOf_flatData h)]
  · obtain ⟨shown, hshown, hodd⟩ := attributesOf_odd h hk
    refine ⟨shown, hshown, ?_⟩
    rw [mergedAttributes, hodd]
    rfl
  · obtain ⟨bs, hbs, hmerged⟩ := exists_merged hm
    refine ⟨bs, by rw [hpaired, hbs], hmerged, ?_⟩
    rw [mergedAttributes_of (attributesOf_pair bs), hmerged.mergeClasses?_eq]
  · rw [hpaired, mergeClasses?_eq_none hm]

def mixedNames : List (Datum × Datum) :=
  [(.text "id", .text "m"), (.word "class", .bool true), (.text "hidden", .null),
    (.text "class", .null), (.text "class", .text "a b")]

def mixedAttributes : List Attribute :=
  [⟨"id", .text "m"⟩, ⟨"class", .bool true⟩, ⟨"hidden", .null⟩, ⟨"class", .null⟩,
    ⟨"class", .text "a b"⟩]

theorem mergedAttributes_normal_mixed :
    mergedAttributes (flatData mixedNames) =
        .ok [⟨"id", .text "m"⟩, ⟨"class", .text "True a b"⟩, ⟨"hidden", .null⟩] ∧
      (∃ shown, (Datum.text "lang").shown? = some shown ∧
        mergedAttributes (flatData mixedNames ++ [.text "lang"]) = .error (.oddLength 11 shown)) ∧
      (∃ bs, mergedAttributes (pairedData mixedNames) = .ok bs ∧ Merged mixedAttributes bs ∧
        mergedAttributes (bs.map Attribute.pair) = .ok bs) ∧
      mergedAttributes (pairedData (longClasses.map Attribute.named)) = .error .tooManyDigits := by
  have hnamed : mixedNames.mapM Attribute.ofNamed? = some mixedAttributes := rfl
  have hmergeable : Mergeable mixedAttributes := .inr (by
    have hvalues : classValues mixedAttributes = [.bool true, .null, .text "a b"] := rfl
    simp [hvalues, Datum.writable])
  have hpaired : mergedAttributes (pairedData mixedNames) =
      .ok [⟨"id", .text "m"⟩, ⟨"class", .text "True a b"⟩, ⟨"hidden", .null⟩] := rfl
  obtain ⟨hflat, hodd, hmerged, -⟩ := mergedAttributes_normal hnamed
  obtain ⟨-, -, -, hlong⟩ := mergedAttributes_normal (mapM_ofNamed_named longClasses)
  exact ⟨hflat.trans hpaired, hodd (.text "lang") "lang" rfl, hmerged hmergeable,
    hlong not_mergeable_longClasses⟩

end ElementMarkup
