import Mathlib
import ElementMarkup.File.Load
import ElementMarkup.Proofs.File.Folder
import ElementMarkup.Proofs.Text.Utf8

/-!
# Options from a file

An options file is read in stages: its bytes, their text, the document of the text, and the options
that the document gives. Each stage ends in options or in an error that names the file, but for a
few files that no stage foresees: among them are documents that are no mapping and still count as
empty. Of the library that reads documents and validates options only a few laws are asked.
-/

set_option autoImplicit false

namespace ElementMarkup

/-- The text of a file, with its line ends unified; the bytes of the file are those of a text. -/
def Disk.HasText (disk : Disk) (p : Path) (cs : List Char) : Prop :=
  ∃ raw, disk.read p = .ok (Text.encodeUtf8 raw) ∧ cs = Text.unifyLineEnds raw

theorem Disk.readText_eq_ok_iff {disk : Disk} {p : Path} {cs : List Char} :
    disk.readText p = .ok cs ↔ disk.HasText p cs := by
  unfold readText HasText
  constructor
  · intro h
    split at h
    · cases h
    next bytes hr =>
    split at h
    · cases h
    next raw hd =>
    rw [Text.decodeUtf8_eq_ok_iff] at hd
    exact ⟨raw, hd ▸ hr, (Except.ok.inj h).symm⟩
  · rintro ⟨raw, hr, rfl⟩
    rw [hr]
    dsimp only
    rw [Text.decodeUtf8_encodeUtf8]

theorem Disk.HasText.unique {disk : Disk} {p : Path} {cs ds : List Char} (h : disk.HasText p cs)
    (h' : disk.HasText p ds) : cs = ds := by
  rw [← readText_eq_ok_iff] at h h'
  exact Except.ok.inj (h.symm.trans h')

theorem readOptionsText_eq_ok_iff {disk : Disk} {p : Path} {cs : List Char} :
    readOptionsText disk p = .ok cs ↔ disk.readText p = .ok cs := by
  unfold readOptionsText
  split
  · next he => simp [he]
  · rfl

theorem Disk.read_null {disk : Disk} {p : Path} (h : p.hasNull = true) :
    disk.read p = .error ⟨.nullCharacter, p⟩ := by
  rw [read, locate, if_pos h]
  rfl

namespace Documents

variable {δ : Type} {docs : Documents δ} {disk : Disk} {p : Path}

/-- Null is blank, and a blank mapping gives the default options. -/
structure Lawful (docs : Documents δ) : Prop where
  isBlank_of_isNull : ∀ d, docs.isNull d = true → docs.isBlank d = true
  isMapping_noEntries : docs.isMapping docs.noEntries = true
  isBlank_noEntries : docs.isBlank docs.noEntries = true
  options_of_isBlank :
    ∀ d, docs.isMapping d = true → docs.isBlank d = true → docs.options d = .ok {}

def HasDocument (docs : Documents δ) (disk : Disk) (p : Path) (d : δ) : Prop :=
  ∃ cs, disk.HasText p cs ∧ docs.read cs = .ok d

/-- The options that a file gives, or the error of the first stage that fails: defaults without a
document, the options of a valid mapping, and nothing else but errors of the options file. -/
inductive Configures (docs : Documents δ) (disk : Disk) (p : Path) :
    Except LoadError Options → Prop where
  | defaults {d : δ} (h : docs.HasDocument disk p d) (hn : docs.isNull d = true) :
      Configures docs disk p (.ok {})
  | given {d : δ} {o : Options} (h : docs.HasDocument disk p d) (hm : docs.isMapping d = true)
      (ho : docs.options d = .ok o) : Configures docs disk p (.ok o)
  | unreadable {e : FileError} (h : disk.read p = .error e) :
      Configures docs disk p (.error (.optionsFile p e))
  | noYaml {cs : List Char} (ht : disk.HasText p cs) (h : docs.read cs = .error .malformed) :
      Configures docs disk p (.error (.optionsText p))
  | noMapping {d : δ} (h : docs.HasDocument disk p d) (hn : docs.isNull d = false)
      (hm : docs.isMapping d = false) : Configures docs disk p (.error (.optionsNoMapping p))
  | invalid {d : δ} {complaints : List Complaint} (h : docs.HasDocument disk p d)
      (hm : docs.isMapping d = true) (hc : docs.options d = .error complaints) :
      Configures docs disk p (.error (.optionsInvalid p complaints))

/-- What no stage foresees: a path or bytes that are not read as a file and a text, a text that the
library refuses with another error than its own, and a document that counts as empty although it is
one, and no mapping. -/
inductive Unforeseen (docs : Documents δ) (disk : Disk) (p : Path) : Prop where
  | nullCharacter (h : p.hasNull = true)
  | encoding {bytes : List UInt8} (h : disk.read p = .ok bytes)
      (hne : ∀ cs, Text.encodeUtf8 cs ≠ bytes)
  | scalar {cs : List Char} {fault : Yaml.ScalarFault} (ht : disk.HasText p cs)
      (h : docs.read cs = .error (.scalar fault))
  | blank {d : δ} (h : docs.HasDocument disk p d) (hb : docs.isBlank d = true)
      (hn : docs.isNull d = false) (hm : docs.isMapping d = false)

theorem HasDocument.unique {d d' : δ} (h : docs.HasDocument disk p d)
    (h' : docs.HasDocument disk p d') : d = d' := by
  obtain ⟨cs, ht, hd⟩ := h
  obtain ⟨cs', ht', hd'⟩ := h'
  obtain rfl := ht.unique ht'
  exact Except.ok.inj (hd.symm.trans hd')

theorem loadOptions_of_text {cs : List Char} (h : disk.HasText p cs) :
    docs.loadOptions disk p = docs.readOptionsDocument p cs >>= docs.optionsOf p := by
  rw [loadOptions, readOptionsText_eq_ok_iff.2 (Disk.readText_eq_ok_iff.2 h)]
  rfl

theorem loadOptions_of_document {d : δ} (h : docs.HasDocument disk p d) :
    docs.loadOptions disk p = docs.optionsOf p d := by
  obtain ⟨cs, ht, hd⟩ := h
  rw [loadOptions_of_text ht, readOptionsDocument, readYaml, hd]
  rfl

theorem loadOptions_of_malformed {cs : List Char} (ht : disk.HasText p cs)
    (h : docs.read cs = .error .malformed) :
    docs.loadOptions disk p = .error (.optionsText p) := by
  rw [loadOptions_of_text ht, readOptionsDocument, readYaml, h]
  rfl

theorem loadOptions_of_scalar {cs : List Char} {fault : Yaml.ScalarFault} (ht : disk.HasText p cs)
    (h : docs.read cs = .error (.scalar fault)) :
    docs.loadOptions disk p = .error (.yaml (.scalar fault)) := by
  rw [loadOptions_of_text ht, readOptionsDocument, readYaml, h]
  rfl

theorem loadOptions_of_unreadable {e : FileError} (h : disk.read p = .error e) :
    docs.loadOptions disk p =
      .error (if e.fault = .nullCharacter then .file e else .optionsFile p e) := by
  rw [loadOptions, readOptionsText, Disk.readText, h]
  rfl

theorem loadOptions_of_undecodable {bytes : List UInt8} {e : Text.Utf8Error}
    (h : disk.read p = .ok bytes) (hd : Text.decodeUtf8 bytes = .error e) :
    docs.loadOptions disk p = .error (.encoding e) := by
  rw [loadOptions, readOptionsText, Disk.readText, h]
  dsimp only
  rw [hd]
  rfl

theorem optionsOf_of_blank (hd : docs.Lawful) {d : δ} (h : docs.isBlank d = true) :
    docs.optionsOf p d = .ok {} := by
  have hempty := hd.options_of_isBlank _ hd.isMapping_noEntries hd.isBlank_noEntries
  rw [optionsOf, orNoEntries, if_pos h, if_pos hd.isMapping_noEntries, hempty]
  rfl

theorem optionsOf_mapping (hd : docs.Lawful) {d : δ} (h : docs.isMapping d = true) :
    docs.optionsOf p d = (docs.options d).mapError (.optionsInvalid p) := by
  by_cases hb : docs.isBlank d = true
  · rw [optionsOf_of_blank hd hb, hd.options_of_isBlank d h hb]
    rfl
  · rw [optionsOf, orNoEntries, if_neg hb, if_pos h]

theorem optionsOf_other {d : δ} (hb : docs.isBlank d = false) (hm : docs.isMapping d = false) :
    docs.optionsOf p d = .error (.optionsNoMapping p) := by
  simp only [optionsOf, orNoEntries, hb, hm, Bool.false_eq_true, if_false]

theorem configures_document (hd : docs.Lawful) {d : δ} (h : docs.HasDocument disk p d)
    (hu : ¬ docs.Unforeseen disk p) : docs.Configures disk p (docs.optionsOf p d) := by
  cases hm : docs.isMapping d with
  | true =>
    rw [optionsOf_mapping hd hm]
    cases hc : docs.options d with
    | ok o => exact .given h hm hc
    | error complaints => exact .invalid h hm hc
  | false =>
    cases hn : docs.isNull d with
    | true =>
      rw [optionsOf_of_blank hd (hd.isBlank_of_isNull d hn)]
      exact .defaults h hn
    | false =>
      have hb : docs.isBlank d = false := Bool.eq_false_iff.2 fun hb => hu (.blank h hb hn hm)
      rw [optionsOf_other hb hm]
      exact .noMapping h hn hm

theorem Unforeseen.not_configures (hd : docs.Lawful) (hu : docs.Unforeseen disk p) :
    ¬ docs.Configures disk p (docs.loadOptions disk p) := by
  intro h
  cases hu with
  | nullCharacter hn =>
    rw [loadOptions_of_unreadable (Disk.read_null hn), if_pos rfl] at h
    cases h
  | encoding hr hne =>
    cases hd : Text.decodeUtf8 _ with
    | ok cs => exact hne cs (Text.decodeUtf8_eq_ok_iff.1 hd)
    | error e =>
      rw [loadOptions_of_undecodable hr hd] at h
      cases h
  | scalar ht hs =>
    rw [loadOptions_of_scalar ht hs] at h
    cases h
  | blank hdoc hb hn hm =>
    rw [loadOptions_of_document hdoc, optionsOf_of_blank hd hb] at h
    cases h with
    | defaults h hnull =>
      rw [← hdoc.unique h, hn] at hnull
      cases hnull
    | given h hmapping =>
      rw [← hdoc.unique h, hm] at hmapping
      cases hmapping

theorem configures_text (hd : docs.Lawful) {cs : List Char} (ht : disk.HasText p cs)
    (hu : ¬ docs.Unforeseen disk p) : docs.Configures disk p (docs.loadOptions disk p) := by
  cases hy : docs.read cs with
  | ok d =>
    have hdoc : docs.HasDocument disk p d := ⟨cs, ht, hy⟩
    rw [loadOptions_of_document hdoc]
    exact configures_document hd hdoc hu
  | error e =>
    cases e with
    | malformed =>
      rw [loadOptions_of_malformed ht hy]
      exact .noYaml ht hy
    | scalar fault => exact absurd (.scalar ht hy) hu

theorem configures_loadOptions (hd : docs.Lawful) (hu : ¬ docs.Unforeseen disk p) :
    docs.Configures disk p (docs.loadOptions disk p) := by
  cases hr : disk.read p with
  | error e =>
    have hn : e.fault ≠ .nullCharacter := fun hf =>
      hu (.nullCharacter (Disk.read_blames hr hf).2)
    rw [loadOptions_of_unreadable hr, if_neg hn]
    exact .unreadable hr
  | ok bytes =>
    cases hd' : Text.decodeUtf8 bytes with
    | error e => exact absurd (.encoding hr (Text.encodeUtf8_ne_of_error hd')) hu
    | ok raw =>
      rw [Text.decodeUtf8_eq_ok_iff] at hd'
      exact configures_text hd ⟨raw, hd' ▸ hr, rfl⟩ hu

/-- Loading options gives options without a document or for a valid mapping only, and otherwise an
error of the options file, exactly if there is nothing that no stage foresees. -/
theorem loadOptions_configures_iff (hd : docs.Lawful) (disk : Disk) (p : Path) :
    docs.Configures disk p (docs.loadOptions disk p) ↔ ¬ docs.Unforeseen disk p := by
  constructor
  · exact fun h hu => hu.not_configures hd h
  · exact configures_loadOptions hd

end Documents

theorem Datum.documents_lawful : Datum.documents.Lawful where
  isBlank_of_isNull d h := by
    cases d with
    | null => rfl
    | _ => cases h
  isMapping_noEntries := rfl
  isBlank_noEntries := rfl
  options_of_isBlank d hm hb := by
    cases d with
    | mapping entries =>
      cases entries with
      | nil => rfl
      | cons => cases hb
    | _ => cases hm

def optionsFolder (bytes : List UInt8) : Folder := ⟨[(Path.ofString "o.yaml", bytes)], []⟩

theorem loadOptions_configures_xml :
    let folder := optionsFolder "\x7b\"xml\": \"true\"\x7d\n".toUTF8.toList
    Datum.documents.Lawful ∧ loadOptions folder (Path.ofString "o.yaml") = .ok { xml := true } ∧
      ¬ Datum.documents.Unforeseen folder.disk (Path.ofString "o.yaml") := by
  intro folder
  have htext : folder.disk.HasText (Path.ofString "o.yaml")
      "\x7b\"xml\": \"true\"\x7d\n".toList :=
    ⟨"\x7b\"xml\": \"true\"\x7d\n".toList, by decide +kernel, by decide⟩
  have hyaml : Yaml.read "\x7b\"xml\": \"true\"\x7d\n".toList =
      .ok (.mapping [(.text "xml", .text "true")]) := by cbv
  have hdoc : Datum.documents.HasDocument folder.disk (Path.ofString "o.yaml")
      (.mapping [(.text "xml", .text "true")]) := ⟨_, htext, hyaml⟩
  have ho : Datum.documents.options (.mapping [(.text "xml", .text "true")]) =
      .ok { xml := true } := by cbv
  have hload : Datum.documents.loadOptions folder.disk (Path.ofString "o.yaml") =
      .ok { xml := true } := by
    rw [Documents.loadOptions_of_document hdoc,
      Documents.optionsOf_mapping Datum.documents_lawful rfl, ho]
    rfl
  refine ⟨Datum.documents_lawful, hload, ?_⟩
  rw [← Documents.loadOptions_configures_iff Datum.documents_lawful, hload]
  exact .given hdoc rfl ho

/-- An empty list is a document and gives the defaults; a byte that starts no character is an error,
but none of the options file. -/
theorem loadOptions_emptyList_invalidStart :
    Datum.documents.HasDocument (optionsFolder [0x5b, 0x5d, 0x0a]).disk (Path.ofString "o.yaml")
        (.list []) ∧
      loadOptions (optionsFolder [0x5b, 0x5d, 0x0a]) (Path.ofString "o.yaml") = .ok {} ∧
      loadOptions (optionsFolder [0xff]) (Path.ofString "o.yaml") =
        .error (.encoding ⟨.invalidStart, 0xff, 0, 1⟩) := by
  have hdoc : Datum.documents.HasDocument (optionsFolder [0x5b, 0x5d, 0x0a]).disk
      (Path.ofString "o.yaml") (.list []) := by
    refine ⟨['[', ']', '\n'], ⟨['[', ']', '\n'], ?_, ?_⟩, ?_⟩
    · decide +kernel
    · decide
    · cbv
  have hread : (optionsFolder [0xff]).disk.read (Path.ofString "o.yaml") = .ok [0xff] := by
    decide +kernel
  exact ⟨hdoc, (Documents.loadOptions_of_document hdoc).trans
      (Documents.optionsOf_of_blank Datum.documents_lawful rfl),
    Documents.loadOptions_of_undecodable hread rfl⟩

end ElementMarkup
