import ElementMarkup.Proofs.Command.Perform
import ElementMarkup.Proofs.File.Options
import ElementMarkup.Proofs.Json.LongRun
import ElementMarkup.Proofs.Render.Guard
import ElementMarkup.Proofs.Render.Root
import ElementMarkup.Proofs.Sexp.LongRun
import ElementMarkup.Proofs.Yaml.Fault

/-!
# Failures that are not expected

A failure that is passed on instead of reported has one of a few causes, which stand in the input:
the null character in a path, bytes that are no text, integers with too many digits, halves of
characters, a text on which the library for documents raises another error than its own, a tree that
is nested too deeply, or an expression on which the library for expressions raises what is not
caught.
-/

set_option autoImplicit false

namespace ElementMarkup.Command

variable {δ ρ τ : Type}

/-- What a text can hold that its reader does not expect. -/
inductive UnexpectedText (docs : Documents δ) (cs : List Char) : LoadError → Prop where
  | form {digits : Nat} (h : HasLongRun cs digits) :
      UnexpectedText docs cs (.form (.tooManyDigits digits))
  | json {digits : Nat} (h : HasLongRun cs digits) :
      UnexpectedText docs cs (.json (.tooManyDigits digits))
  | half {unit : Nat} (hr : Json.read docs.jsonDepth cs = .error (.loneSurrogate unit))
      (h : Json.SpellsHalf cs unit) : UnexpectedText docs cs (.json (.loneSurrogate unit))
  | nesting (hr : Json.read docs.jsonDepth cs = .error .tooDeep)
      (h : docs.jsonDepth < Json.openings cs) : UnexpectedText docs cs (.json .tooDeep)
  | library {fault : Yaml.ScalarFault} (h : docs.read cs = .error (.scalar fault)) :
      UnexpectedText docs cs (.yaml (.scalar fault))

/-- What a file can be that its reader does not expect. -/
inductive UnexpectedFile (docs : Documents δ) (disk : Disk) (p : Path) : LoadError → Prop where
  | nullCharacter (h : p.hasNull = true) : UnexpectedFile docs disk p (.file ⟨.nullCharacter, p⟩)
  | encoding {bytes : List UInt8} {e : Text.Utf8Error} (hr : disk.read p = .ok bytes)
      (h : ∀ cs, Text.encodeUtf8 cs ≠ bytes) : UnexpectedFile docs disk p (.encoding e)
  | text {cs : List Char} {e : LoadError} (hr : disk.readText p = .ok cs)
      (h : UnexpectedText docs cs e) : UnexpectedFile docs disk p e

/-- What rendering does not expect in the elements that it passes by. -/
inductive System.UnexpectedRender (S : System δ ρ τ) (start : S.State) (root : Element) :
    RenderError → Prop where
  | number {level : Nat} {e : Element} (h : S.evaluate.Passes start root (.element level e))
      (hw : Item.allWritable e.args = false) : UnexpectedRender S start root .tooManyDigits
  | value {source : String} {w : S.State} {d : Datum} (h : S.evaluate.Asked start root source w)
      (hd : (S.evaluate source w).1 = .ok d) (hw : d.writable = false) :
      UnexpectedRender S start root .tooManyDigits
  | depth {e : Element} (h : S.evaluate.Passes start root (.element S.renderDepth e)) :
      UnexpectedRender S start root .tooDeep
  | evaluation {source : String} {w : S.State} {fault : Expression.Fault}
      (h : S.evaluate.Asked start root source w) (he : S.expressions.Escapes source w fault) :
      UnexpectedRender S start root (.evaluation source (.unguarded fault))

def Request.sources (r : Request) : List Path :=
  ([r.input].filter (· ≠ "-") ++ r.config.toList ++ r.context.toList).map Path.ofString

/-- Why a request fails without a report. -/
inductive System.Unexpected (S : System δ ρ τ) (r : Request) (stdin : List Char)
    (before : Progress) : Failure → Prop where
  | input {e : LoadError} (hi : r.input = "-") (h : UnexpectedText S.documents stdin e) :
      Unexpected S r stdin before (.load e)
  | file {p : Path} {e : LoadError} (hp : p ∈ r.sources)
      (h : UnexpectedFile S.documents before.disk p e) : Unexpected S r stdin before (.load e)
  | shape {tree : Loaded δ} (ht : S.readTree r before.disk stdin = .ok tree)
      (h : S.documents.Unfit S.shapeDepth tree (.shape .tooManyDigits)) :
      Unexpected S r stdin before (.shape .tooManyDigits)
  | nesting {tree : Loaded δ} (ht : S.readTree r before.disk stdin = .ok tree)
      (h : S.documents.Unfit S.shapeDepth tree .tooDeep) :
      Unexpected S r stdin before (.render .tooDeep)
  | render {o : Options} {start : S.State} {root : Element} {e : RenderError}
      (hp : S.Page r stdin before o start root) (h : S.UnexpectedRender start root e) :
      Unexpected S r stdin before (.render e)
  | write {name : String} {e : FileError} (ho : r.output = some name)
      (h : (Path.ofString name).hasNull = true) : Unexpected S r stdin before (.write e)

section

variable {docs : Documents δ} {cs : List Char} {e : LoadError}

theorem readForm_unexpected (h : readForm cs = .error e)
    (hu : (Failure.load e).isUnexpected = true) : UnexpectedText docs cs e := by
  obtain ⟨fe, hr, rfl⟩ := mapError_eq_error_iff.1 h
  cases fe with
  | located => cases hu
  | tooManyDigits => exact .form (Sexp.read_tooManyDigits hr)

theorem readJson_unexpected (h : readJson docs.jsonDepth cs = .error e)
    (hu : (Failure.load e).isUnexpected = true) : UnexpectedText docs cs e := by
  obtain ⟨je, hr, rfl⟩ := mapError_eq_error_iff.1 h
  cases je with
  | located => cases hu
  | tooManyDigits => exact .json (Json.read_standsIn hr)
  | loneSurrogate => exact .half hr (Json.read_standsIn hr)
  | tooDeep => exact .nesting hr (Json.read_standsIn hr)

theorem readYaml_unexpected (h : docs.readYaml cs = .error e)
    (hu : (Failure.load e).isUnexpected = true) : UnexpectedText docs cs e := by
  obtain ⟨ye, hr, rfl⟩ := mapError_eq_error_iff.1 h
  cases ye with
  | malformed => cases hu
  | scalar => exact .library hr

/-- In a text that is read as data, a scalar that is not what it says is the only such cause. -/
theorem UnexpectedText.faulty {fault : Yaml.ScalarFault}
    (h : UnexpectedText Datum.documents cs (.yaml (.scalar fault))) :
    Yaml.HasFaultyScalar cs fault := by
  cases h with
  | library h => exact Yaml.read_faulty h

end

section

variable {docs : Documents δ} {disk : Disk} {p : Path} {e : LoadError}

theorem readText_unexpected (h : disk.readText p = .error e)
    (hu : (Failure.load e).isUnexpected = true) : UnexpectedFile docs disk p e := by
  unfold Disk.readText at h
  split at h
  · next fe hr =>
    cases h
    have hnull : fe.fault = .nullCharacter := by simpa [Failure.isUnexpected] using hu
    obtain ⟨hp, hn⟩ := Disk.read_blames hr hnull
    obtain ⟨fault, path⟩ := fe
    subst hnull hp
    exact .nullCharacter hn
  · next bytes hr =>
    split at h
    · next hd =>
      cases h
      exact .encoding hr (Text.encodeUtf8_ne_of_error hd)
    · cases h

theorem loadTree_unexpected (h : docs.loadTree disk p = .error e)
    (hu : (Failure.load e).isUnexpected = true) : UnexpectedFile docs disk p e := by
  rcases bind_eq_error_iff.1 h with h | ⟨cs, hr, h⟩
  · exact readText_unexpected h hu
  refine .text hr ?_
  split at h
  · rcases bind_eq_error_iff.1 h with h | ⟨d, -, h⟩
    · exact readJson_unexpected h hu
    · cases h
  split at h
  · rcases bind_eq_error_iff.1 h with h | ⟨d, -, h⟩
    · exact readYaml_unexpected h hu
    · split at h
      · cases h
        cases hu
      · cases h
  · rcases bind_eq_error_iff.1 h with h | ⟨d, -, h⟩
    · exact readForm_unexpected h hu
    · cases h

theorem readOptionsText_unexpected (h : readOptionsText disk p = .error e)
    (hu : (Failure.load e).isUnexpected = true) : UnexpectedFile docs disk p e := by
  unfold readOptionsText at h
  split at h
  · next hr =>
    split at h
    · cases h
      exact readText_unexpected hr hu
    · cases h
      cases hu
  · exact readText_unexpected h hu

theorem loadOptions_unexpected (h : docs.loadOptions disk p = .error e)
    (hu : (Failure.load e).isUnexpected = true) : UnexpectedFile docs disk p e := by
  rcases bind_eq_error_iff.1 h with h | ⟨cs, hr, h⟩
  · exact readOptionsText_unexpected h hu
  refine .text (readOptionsText_eq_ok_iff.1 hr) ?_
  rcases bind_eq_error_iff.1 h with h | ⟨d, -, h⟩
  · unfold Documents.readOptionsDocument at h
    split at h
    · cases h
      cases hu
    · exact readYaml_unexpected h hu
  · unfold Documents.optionsOf at h
    split at h
    · obtain ⟨_, -, rfl⟩ := mapError_eq_error_iff.1 h
      cases hu
    · cases h
      cases hu

theorem loadContext_unexpected (h : docs.loadContext disk p = .error e)
    (hu : (Failure.load e).isUnexpected = true) : UnexpectedFile docs disk p e := by
  rcases bind_eq_error_iff.1 h with h | ⟨cs, hr, h⟩
  · exact readText_unexpected h hu
  refine .text hr ?_
  split at h
  · rcases bind_eq_error_iff.1 h with h | ⟨d, -, h⟩
    · exact readJson_unexpected h hu
    · split at h
      · cases h
      · cases h
        cases hu
  · rcases bind_eq_error_iff.1 h with h | ⟨d, -, h⟩
    · exact readYaml_unexpected h hu
    · dsimp only at h
      split at h
      · cases h
      · cases h
        cases hu

end

section

variable {S : System δ ρ τ} {r : Request} {stdin : List Char} {before : Progress}

theorem input_mem_sources (h : r.input ≠ "-") : Path.ofString r.input ∈ r.sources := by
  simp [Request.sources, h]

theorem config_mem_sources {name : String} (h : r.config = some name) :
    Path.ofString name ∈ r.sources := by
  simp [Request.sources, h]

theorem context_mem_sources {name : String} (h : r.context = some name) :
    Path.ofString name ∈ r.sources := by
  simp [Request.sources, h]

theorem readTree_unexpected {e : LoadError} (h : S.readTree r before.disk stdin = .error e)
    (hu : (Failure.load e).isUnexpected = true) : S.Unexpected r stdin before (.load e) := by
  unfold System.readTree at h
  split at h
  · next hi => exact .input hi (readForm_unexpected (map_eq_error_iff.1 h) hu)
  · next hi => exact .file (input_mem_sources hi) (loadTree_unexpected h hu)

theorem readMarkup_unexpected {e : LoadError} (h : r.readMarkup before.disk stdin = .error e)
    (hu : (Failure.load e).isUnexpected = true) : S.Unexpected r stdin before (.load e) := by
  unfold Request.readMarkup at h
  split at h
  · cases h
  · next hi => exact .file (input_mem_sources hi) (readText_unexpected h hu)

theorem readOptions_unexpected {e : LoadError} (h : S.readOptions r before.disk = .error e)
    (hu : (Failure.load e).isUnexpected = true) : S.Unexpected r stdin before (.load e) := by
  unfold System.readOptions at h
  split at h
  · cases h
  · next hc =>
    exact .file (config_mem_sources hc) (loadOptions_unexpected (map_eq_error_iff.1 h) hu)

theorem readContext_unexpected {e : LoadError} (h : S.readContext r before.disk = .error e)
    (hu : (Failure.load e).isUnexpected = true) : S.Unexpected r stdin before (.load e) := by
  unfold System.readContext at h
  split at h
  · cases h
  · next hc => exact .file (context_mem_sources hc) (loadContext_unexpected h hu)

theorem cause_unexpected {o : Options} {start : S.State} {root : Element} {e : RenderError}
    (h : e.Cause o S.evaluate start root S.renderDepth)
    (hu : (Failure.render e).isUnexpected = true) : S.UnexpectedRender start root e := by
  cases h with
  | tag | void | shape => cases hu
  | number h hw => exact .number h hw
  | value h hd hw => exact .value h hd hw
  | depth h => exact .depth h
  | @failure source w f h hf =>
    cases f with
    | unguarded fault => exact .evaluation h (Expression.Library.evaluate_unguarded_iff.1 hf)
    | malformed | fault | undefinedResult | shape => cases hu

theorem System.Origin.unexpected {f : Failure} (h : S.Origin r stdin before f)
    (hu : f.isUnexpected = true) : S.Unexpected r stdin before f := by
  cases h with
  | tree h => exact readTree_unexpected h hu
  | options h => exact readOptions_unexpected h hu
  | context h => exact readContext_unexpected h hu
  | markup h => exact readMarkup_unexpected h hu
  | @shape tree e ht he =>
    cases e with
    | tooManyDigits => exact .shape ht (Documents.root_unfit he)
    | unsupported | notAList | noTagName | badTagName | nestedExpression | emptyDocument => cases hu
  | @unshaped tree e ht he hne =>
    have hunfit := Documents.root_unfit he
    obtain rfl := Documents.eq_tooDeep_of_unfit hunfit hne
    exact .nesting ht hunfit
  | render hp he => exact .render hp (cause_unexpected he hu)
  | write ho he =>
    have hnull := by simpa [Failure.isUnexpected] using hu
    exact .write ho (Disk.write_null he hnull)

end

end ElementMarkup.Command
