import Mathlib
import ElementMarkup.Proofs.Command.Perform
import ElementMarkup.Proofs.File.Options
import ElementMarkup.Proofs.Render.Attempts

/-!
# Failed runs

A run that fails leaves no text on the output and every file as it was. It may have made folders
that the file to be written was to stand in, and these are empty. What evaluating an expression
changes stays; the expression language is evaluated on the disk that the command has come to and
changes nothing else of the progress.
-/

set_option autoImplicit false

namespace ElementMarkup.Command

open Std.Do

variable {δ ρ τ : Type}

theorem Work.failure_of_triple {α : Type} {x : Work α} {p₀ p : Progress} {f : Failure}
    {Q : α → Progress → Prop} {E : Failure → Progress → Prop}
    (h : ⦃fun p => ⌜p = p₀⌝⦄ x ⦃post⟨fun a p => ⌜Q a p⌝, fun f p => ⌜E f p⌝⟩⦄)
    (hx : x.run.run p₀ = (.error f, p)) : E f p := by
  have reached := h p₀ rfl
  simpa [wp, hx, Id.run] using reached

theorem System.perform_failure {S : System δ ρ τ} {verbose : Bool} {stdin : List Char} {r : Request}
    {before after : Progress} {f : Failure}
    (h : (S.perform verbose stdin r).run.run before = (.error f, after)) :
    (∃ p, S.Undelivered r stdin before p ∧ p.Unfinished r.output after) ∧
      S.Origin r stdin before f :=
  Work.failure_of_triple (S.perform_spec verbose stdin r before) h

/-- Evaluating an expression of the page of a request neither prints nor touches a file. -/
def System.Quiet (S : System δ ρ τ) (r : Request) (stdin : List Char) (before : Progress) : Prop :=
  ∀ o start root, S.Page r stdin before o start root →
    ∀ source w, S.evaluate.Asked start root source w →
      (S.evaluate source w).2.state.1.output = w.state.1.output ∧
        (S.evaluate source w).2.state.1.disk.folder = w.state.1.disk.folder

theorem System.Undelivered.quiet {S : System δ ρ τ} {r : Request} {stdin : List Char}
    {before p : Progress} (h : S.Undelivered r stdin before p) (hq : S.Quiet r stdin before) :
    p.output = before.output ∧ p.disk.folder = before.disk.folder := by
  cases h with
  | unchanged => exact ⟨rfl, rfl⟩
  | @rendered o start w root hpage hw log =>
    have hstart : start.state.1 = before := by
      cases hpage
      rfl
    refine hw.invariant (I := fun w => w.state.1.output = before.output ∧
      w.state.1.disk.folder = before.disk.folder) (by simp [hstart]) fun source w hasked hw => ?_
    obtain ⟨houtput, hfolder⟩ := hq o start root hpage source w hasked
    exact ⟨houtput.trans hw.1, hfolder.trans hw.2⟩

/-- A run that fails prints nothing, keeps every file, and makes at most empty folders on the way
to the file that it was to write, unless an expression of its page prints or touches a file. -/
theorem System.run_failed (S : System δ ρ τ) {args : List String} {disk : Disk} {stdin : String}
    (hq : ∀ verbose r, readLine args = .request verbose r →
      S.Quiet r (Text.unifyLineEnds stdin.toList) ⟨"", "", disk⟩)
    (h : (S.run args disk stdin).ending ≠ .done) :
    (S.run args disk stdin).output = "" ∧
      ((S.run args disk stdin).folder = disk.folder ∨
        ∃ verbose r name, readLine args = .request verbose r ∧ r.output = some name ∧
          Folder.OnlyParents (Path.ofString name) disk.folder (S.run args disk stdin).folder) := by
  unfold run at h ⊢
  split
  · next hl => simp [hl] at h
  · exact ⟨rfl, .inl rfl⟩
  · next verbose r hl =>
    simp only [hl, runRequest] at h ⊢
    cases hp : (S.perform verbose (Text.unifyLineEnds stdin.toList) r).run.run ⟨"", "", disk⟩ with
    | mk result p =>
      simp only [hp] at h ⊢
      cases result with
      | ok => exact absurd rfl h
      | error f =>
        obtain ⟨p', hp', hout, hfolder⟩ := (perform_failure hp).1
        obtain ⟨hout', hfolder'⟩ := hp'.quiet (hq verbose r hl)
        rw [hfolder'] at hfolder
        refine ⟨hout.trans hout', ?_⟩
        rcases hfolder with hfolder | ⟨name, hname, hmade⟩
        · exact .inl hfolder
        · exact .inr ⟨verbose, r, name, rfl, hname, hmade⟩

/-- The scope of a state, on the disk that the command has come to. -/
def scopeOf (w : Prepared (Progress × Expression.Scope) Expression.Term) : Expression.Scope :=
  { w.state.2 with store := { w.state.2.store with disk := w.state.1.disk } }

/-- Evaluating a source in a command gives what the expression language gives on its disk. -/
theorem expressions_evaluate {w : Prepared (Progress × Expression.Scope) Expression.Term}
    (h : w.Compiled) (source : String) :
    (expressions.stages.evaluate source w).1 = (Expression.evaluate source (scopeOf w)).1 ∧
      (expressions.stages.evaluate source w).2.state.1 =
        { w.state.1 with disk := (Expression.evaluate source (scopeOf w)).2.store.disk } ∧
      (expressions.stages.evaluate source w).2.Compiled := by
  rcases expressions.stages.evaluate_cases source w with ⟨t, ht, he⟩ | ⟨_, f, hf, he⟩ |
    ⟨_, t, ht, he⟩
  · rw [he, evaluate_of_compile (h source t ht)]
    exact ⟨rfl, rfl, h⟩
  · have hc : Expression.compile source = .error f := hf
    rw [he, evaluate_of_refused hc]
    exact ⟨rfl, rfl, h⟩
  · have hc : Expression.compile source = .ok t := ht
    rw [he, evaluate_of_compile hc]
    exact ⟨rfl, rfl, h.cons hc _⟩

/-- What is ready when an expression of a page is evaluated has been compiled. -/
theorem compiled_of_passes {r : Request} {stdin : List Char} {before : Progress} {o : Options}
    {start w : standardSystem.State} {root : Element}
    (h : standardSystem.Page r stdin before o start root)
    (hw : standardSystem.evaluate.Passes start root (.state w)) : w.Compiled := by
  have hstart : start.Compiled := by
    cases h
    intro _ _ hlookup
    cases hlookup
  exact hw.invariant hstart fun source w _ hw => (expressions_evaluate hw source).2.2

/-- A request is quiet if the expression language evaluates the expressions of its page without
touching a file. -/
theorem quiet_of_evaluate {r : Request} {stdin : List Char} {before : Progress}
    (h : ∀ o start root, standardSystem.Page r stdin before o start root →
      ∀ source w, standardSystem.evaluate.Asked start root source w → w.Compiled → ∀ scope,
        (Expression.evaluate source scope).2.store.disk.folder = scope.store.disk.folder) :
    standardSystem.Quiet r stdin before := by
  intro o start root hpage source w hasked
  have hcompiled := compiled_of_passes hpage hasked.state
  have hw := (expressions_evaluate hcompiled source).2.1
  have hfolder := h o start root hpage source w hasked hcompiled (scopeOf w)
  exact ⟨(congrArg Progress.output hw).trans rfl,
    (congrArg (fun p => p.disk.folder) hw).trans hfolder⟩

def joinForm : String := "(br \"\x7b\x7b 'a' ~ 'b' \x7d\x7d\")"

theorem compile_join : Expression.compile "'a' ~ 'b'" = .ok (.constant (.text "ab")) := by
  cbv

theorem run_joined (scope : Expression.Scope) :
    ((Expression.Term.constant (.text "ab")).run scope).2 = scope ∧
      ∀ r, ((Expression.Term.constant (.text "ab")).run scope).1 = .ok r →
        r = .datum (.text "ab") := by
  have hvalue (entries : List (String × Expression.Operand)) (store : Expression.Store) :
      ((Expression.Term.constant (.text "ab")).value entries).run store =
        .ok (.text "ab") store := by
    have hw : Expression.unwritable? (.text "ab") = none := rfl
    rw [Expression.Term.value, Expression.constantValue, hw]
    dsimp only
    rw [Expression.Operand.ofDatum]
    rfl
  unfold Expression.Term.run
  split
  · exact ⟨rfl, fun r h => by cases h⟩
  · rw [hvalue]
    exact ⟨rfl, fun r h => (Except.ok.inj h).symm⟩

theorem evaluate_join (scope : Expression.Scope) :
    (Expression.evaluate "'a' ~ 'b'" scope).2 = scope ∧
      ∀ d, (Expression.evaluate "'a' ~ 'b'" scope).1 = .ok d → d = .text "ab" := by
  obtain ⟨hscope, hresult⟩ := run_joined scope
  rw [evaluate_of_compile compile_join]
  refine ⟨hscope, fun d hd => ?_⟩
  have hd : Expression.caught ((Expression.Term.constant (.text "ab")).run scope).1 = .ok d := hd
  cases hr : ((Expression.Term.constant (.text "ab")).run scope).1 with
  | error e =>
    rw [hr] at hd
    cases hd
  | ok r =>
    rw [hr, hresult r hr] at hd
    exact (Except.ok.inj hd).symm

theorem loadTree_of_form {docs : Documents δ} {disk : Disk} {p : Path} {cs : List Char}
    (ht : disk.readText p = .ok cs) (hj : p.suffix ≠ ".json")
    (hy : ¬ (p.suffix = ".yaml" ∨ p.suffix = ".yml")) :
    docs.loadTree disk p = (readForm cs).map .datum := by
  rw [Documents.loadTree, ht]
  simp only [if_neg hj, if_neg hy]
  change (readForm cs >>= fun d => pure (Loaded.datum d)) = _
  cases readForm cs with
  | error e => rfl
  | ok d => rfl

def joinPage : Path × List UInt8 := (Path.ofString "page.sexp", joinForm.toUTF8.toList)

theorem readTree_joinPage {r : Request} (hr : r.input = "page.sexp") (stdin : List Char) :
    standardSystem.readTree r (⟨[joinPage], []⟩ : Folder).disk stdin =
      .ok (.datum (.list [.word "br", .text "\x7b\x7b 'a' ~ 'b' \x7d\x7d"])) := by
  have htext : (⟨[joinPage], []⟩ : Folder).disk.readText (Path.ofString "page.sexp") =
      .ok joinForm.toList :=
    Disk.readText_eq_ok_iff.2 ⟨joinForm.toList, by decide +kernel, by decide⟩
  have hform : readForm joinForm.toList =
      .ok (.list [.word "br", .text "\x7b\x7b 'a' ~ 'b' \x7d\x7d"]) := by cbv
  have hsuffix : (Path.ofString "page.sexp").suffix = ".sexp" := by decide +kernel
  rw [System.readTree, hr, if_neg (by decide),
    loadTree_of_form htext (by simp [hsuffix]) (by simp [hsuffix]), hform]
  rfl

theorem quiet_joinPage {r : Request} (hr : r.input = "page.sexp") (stdin : List Char) :
    standardSystem.Quiet r stdin ⟨"", "", (⟨[joinPage], []⟩ : Folder).disk⟩ := by
  refine quiet_of_evaluate fun o start root hpage source w hasked _ scope => ?_
  have hroot : root = ⟨"br", [.expression "'a' ~ 'b'"]⟩ := by
    cases hpage with
    | loaded ha ht ho hc hroot =>
      rw [readTree_joinPage hr] at ht
      obtain rfl := Except.ok.inj ht
      exact (Except.ok.inj hroot).symm
  subst hroot
  obtain ⟨level, e, he, hi⟩ := hasked.element
  have heq : e = ⟨"br", [.expression "'a' ~ 'b'"]⟩ := by
    refine he.eq_root (by simp) fun source s d v hi hs hd hv => ?_
    obtain rfl : source = "'a' ~ 'b'" := by simpa using hi
    have hcompiled := compiled_of_passes hpage hs
    obtain rfl := (evaluate_join (scopeOf s)).2 d
      ((expressions_evaluate hcompiled "'a' ~ 'b'").1.symm.trans hd)
    cases hv
  subst heq
  obtain rfl : source = "'a' ~ 'b'" := by simpa using hi
  rw [(evaluate_join scope).1]

theorem quiet_overwriting (verbose : Bool) (r : Request)
    (hr : readLine ["render", "page.sexp", "--out", "page.sexp"] = .request verbose r) :
    standardSystem.Quiet r (Text.unifyLineEnds "".toList)
      ⟨"", "", (⟨[joinPage], []⟩ : Folder).disk⟩ := by
  have hline : readLine ["render", "page.sexp", "--out", "page.sexp"] =
      .request false ⟨.render, "page.sexp", false, none, none, [], [], some "page.sexp"⟩ := by
    decide +kernel
  rw [hline] at hr
  obtain ⟨-, rfl⟩ := Line.request.inj hr
  exact quiet_joinPage rfl _

/-- A page that is refused after an evaluation is not overwritten, although it is the file to be
written. -/
theorem run_failed_overwriting :
    let folder : Folder := ⟨[joinPage], []⟩
    let args := ["render", "page.sexp", "--out", "page.sexp"]
    (∀ verbose r, readLine args = .request verbose r →
      standardSystem.Quiet r (Text.unifyLineEnds "".toList) ⟨"", "", folder.disk⟩) ∧
    let r := standardSystem.run args folder.disk ""
    r.ending ≠ .done ∧ r.output = "" ∧ r.folder.files = [joinPage] := by
  intro folder args
  refine ⟨quiet_overwriting, ?_⟩
  intro r
  have hcode : r.ending.code = 1 := by decide +kernel
  have hne : r.ending ≠ .done := fun h => by simp [h, Ending.code] at hcode
  obtain ⟨hout, hfolder⟩ := standardSystem.run_failed quiet_overwriting hne
  refine ⟨hne, hout, ?_⟩
  rcases hfolder with hfolder | ⟨_, _, _, _, _, hmade⟩
  · exact congrArg Folder.files hfolder
  · exact hmade.files

/-- An expression can open a file: a page whose rendering fails has left one behind. -/
theorem run_leavesFile :
    let page : Path × List UInt8 := (Path.ofString "page.sexp",
      "(p \"\x7b\x7b lipsum.__globals__.os.open('left.txt', 65) \x7d\x7d\" (no))".toUTF8.toList)
    (run ["render", "page.sexp"] ⟨[page], []⟩ "").ending ≠ .done ∧
      (run ["render", "page.sexp"] ⟨[page], []⟩ "").folder.files =
        [(Path.ofString "left.txt", []), page] := by
  intro page
  have hcode : (run ["render", "page.sexp"] ⟨[page], []⟩ "").ending.code = 1 := by decide +kernel
  refine ⟨fun h => by simp [h, Ending.code] at hcode, ?_⟩
  decide +kernel

end ElementMarkup.Command
