import ElementMarkup.Proofs.Failure
import ElementMarkup.Yaml.Read

/-!
# Scalars without a value

A YAML text is refused for a scalar only if its document has this scalar. Mappings that are merged
in bring no scalar that does not stand somewhere, but for a mark that becomes a text.
-/

set_option autoImplicit false

namespace ElementMarkup.Yaml

variable {fault : ScalarFault}

/-- A scalar with the fault stands in the node. -/
inductive Node.Faulty (fault : ScalarFault) : Node → Prop where
  | scalar {tag : Tag} {text : String} (h : tag.read? text = some (.error fault)) :
      Faulty fault (.scalar tag text)
  | item {tag : Tag} {items : List Node} {n : Node} (hn : n ∈ items) (h : Faulty fault n) :
      Faulty fault (.sequence tag items)
  | key {tag : Tag} {entries : List (Node × Node)} {e : Node × Node} (he : e ∈ entries)
      (h : Faulty fault e.1) : Faulty fault (.mapping tag entries)
  | value {tag : Tag} {entries : List (Node × Node)} {e : Node × Node} (he : e ∈ entries)
      (h : Faulty fault e.2) : Faulty fault (.mapping tag entries)

def FaultyEntries (fault : ScalarFault) (entries : List (Node × Node)) : Prop :=
  ∃ e ∈ entries, e.1.Faulty fault ∨ e.2.Faulty fault

theorem FaultyEntries.faulty {entries : List (Node × Node)} (h : FaultyEntries fault entries)
    (tag : Tag) : (Node.mapping tag entries).Faulty fault := by
  obtain ⟨e, he, h | h⟩ := h
  · exact .key he h
  · exact .value he h

theorem faultyEntries_append {as bs : List (Node × Node)} :
    FaultyEntries fault (as ++ bs) ↔ FaultyEntries fault as ∨ FaultyEntries fault bs := by
  simp only [FaultyEntries, List.mem_append, or_and_right, exists_or]

theorem faultyEntries_cons {e : Node × Node} {entries : List (Node × Node)} :
    FaultyEntries fault (e :: entries) ↔
      (e.1.Faulty fault ∨ e.2.Faulty fault) ∨ FaultyEntries fault entries := by
  simp [FaultyEntries]

mutual

theorem splitMerges_faulty : ∀ {entries merged own : List (Node × Node)},
    splitMerges? entries = some (merged, own) → FaultyEntries fault (merged ++ own) →
      FaultyEntries fault entries
  | [], merged, own, hs, hf => by
    rw [splitMerges?] at hs
    cases hs
    exact hf
  | (k, v) :: rest, merged, own, hs, hf => by
    rw [splitMerges?] at hs
    simp only [bind, Option.bind_eq_some_iff] at hs
    obtain ⟨⟨m, o⟩, hrest, hs⟩ := hs
    have ih : FaultyEntries fault (m ++ o) → FaultyEntries fault rest := splitMerges_faulty hrest
    rw [faultyEntries_append] at ih
    rw [faultyEntries_cons]
    dsimp only at hs
    -- a mapping that is merged in, the mark of a value, which becomes a text, or an entry as it is
    split at hs
    · simp only [Option.bind_eq_some_iff] at hs
      obtain ⟨v', hv, hs⟩ := hs
      cases hs
      rw [faultyEntries_append, faultyEntries_append] at hf
      rcases hf with (hf | hf) | hf
      · exact .inl (.inr (mergedBy_faulty hv hf))
      · exact .inr (ih (.inl hf))
      · exact .inr (ih (.inr hf))
    · cases hs
      rw [faultyEntries_append, faultyEntries_cons] at hf
      rcases hf with hf | (hf | hf) | hf
      · exact .inr (ih (.inl hf))
      · cases hf with
        | scalar h => cases h
      · exact .inl (.inr hf)
      · exact .inr (ih (.inr hf))
    · cases hs
      rw [faultyEntries_append, faultyEntries_cons] at hf
      rcases hf with hf | hf | hf
      · exact .inr (ih (.inl hf))
      · exact .inl hf
      · exact .inr (ih (.inr hf))

theorem mergedBy_faulty : ∀ {n : Node} {merged : List (Node × Node)},
    mergedBy? n = some merged → FaultyEntries fault merged → n.Faulty fault
  | .mapping tag entries, merged, hm, hf => by
    rw [mergedBy?] at hm
    simp only [bind, Option.bind_eq_some_iff] at hm
    obtain ⟨⟨m, o⟩, hs, hm⟩ := hm
    cases hm
    exact (splitMerges_faulty hs hf).faulty tag
  | .sequence tag items, merged, hm, hf => by
    rw [mergedBy?] at hm
    obtain ⟨n, hn, h⟩ := mergedByAll_faulty hm hf
    exact .item hn h
  | .scalar _ _, merged, hm, hf => by
    rw [mergedBy?] at hm
    cases hm

theorem mergedByAll_faulty : ∀ {items : List Node} {merged : List (Node × Node)},
    mergedByAll? items = some merged → FaultyEntries fault merged → ∃ n ∈ items, n.Faulty fault
  | [], merged, hm, hf => by
    rw [mergedByAll?] at hm
    cases hm
    simp [FaultyEntries] at hf
  | .mapping tag entries :: rest, merged, hm, hf => by
    rw [mergedByAll?] at hm
    simp only [bind, Option.bind_eq_some_iff] at hm
    obtain ⟨⟨m, o⟩, hs, all, hall, hm⟩ := hm
    cases hm
    rw [faultyEntries_append] at hf
    rcases hf with hf | hf
    · obtain ⟨n, hn, h⟩ := mergedByAll_faulty hall hf
      exact ⟨n, List.mem_cons_of_mem _ hn, h⟩
    · exact ⟨_, List.mem_cons_self, (splitMerges_faulty hs hf).faulty tag⟩
  | .scalar _ _ :: _, merged, hm, hf | .sequence _ _ :: _, merged, hm, hf => by
    simp [mergedByAll?] at hm

end

theorem flattened_faulty {entries flat : List (Node × Node)} (h : flattened? entries = some flat)
    (hf : FaultyEntries fault flat) : FaultyEntries fault entries := by
  rw [flattened?] at h
  simp only [bind, Option.bind_eq_some_iff] at h
  obtain ⟨⟨merged, own⟩, hs, h⟩ := h
  cases h
  exact splitMerges_faulty hs hf

theorem toDatum_faulty (depth : Nat) :
    (∀ n : Node, n.toDatum depth = .error (.scalar fault) → n.Faulty fault) ∧
    (∀ items, Node.toData depth items = .error (.scalar fault) → ∃ n ∈ items, n.Faulty fault) ∧
      ∀ before entries, Node.toEntries depth before entries = .error (.scalar fault) →
        FaultyEntries fault entries := by
  induction depth with
  | zero =>
    refine ⟨fun n h => ?_, fun items h => ?_, fun before entries h => ?_⟩
    · rw [Node.toDatum] at h
      cases h
    · rw [Node.toData] at h
      cases h
    · rw [Node.toEntries] at h
      cases h
  | succ depth ih =>
    obtain ⟨hdatum, hdata, hentries⟩ := ih
    refine ⟨fun n h => ?_, fun items h => ?_, fun before entries h => ?_⟩
    · unfold Node.toDatum at h
      split at h
      · split at h
        · cases h
        · next hr =>
          cases h
          exact .scalar hr
        · cases h
      · obtain ⟨n, hn, hf⟩ := hdata _ (map_eq_error_iff.1 h)
        exact .item hn hf
      · split at h
        · cases h
        · next hflat =>
          exact (flattened_faulty hflat (hentries _ _ (map_eq_error_iff.1 h))).faulty _
      · cases h
    · rw [Node.toData] at h
      obtain ⟨n, hn, hf⟩ := exists_of_mapM_error h
      exact ⟨n, hn, hdatum n hf⟩
    · rw [Node.toEntries] at h
      obtain ⟨e, he, known, hf⟩ := exists_of_foldlM_error h
      refine ⟨e, he, ?_⟩
      rcases bind_eq_error_iff.1 hf with hf | ⟨key, -, hf⟩
      · exact .inl (hdatum e.1 hf)
      · dsimp only at hf
        split at hf
        · cases hf
        · rcases bind_eq_error_iff.1 hf with hf | ⟨_, -, hf⟩
          · exact .inr (hdatum e.2 hf)
          · cases hf

def HasFaultyScalar (cs : List Char) (fault : ScalarFault) : Prop :=
  ∃ n, compose? cs = some (some n) ∧ n.Faulty fault

/-- A YAML text is refused for a scalar only if its document has a scalar that is not what its tag
or its form says. -/
theorem read_faulty {cs : List Char} (h : read cs = .error (.scalar fault)) :
    HasFaultyScalar cs fault := by
  unfold read at h
  split at h
  · cases h
  · cases h
  · next n hn => exact ⟨n, hn, (toDatum_faulty _).1 n h⟩

end ElementMarkup.Yaml
