import Mathlib
import ElementMarkup.Command.Run
import ElementMarkup.Proofs.File.Folder
import ElementMarkup.Proofs.Render.Passes

/-!
# What a request does before it fails

The stages of a request by triples: what they leave of the progress, and where a failure of theirs
comes from. Only the last stage prints or writes, after everything else has gone well; before it,
the progress changes by evaluating expressions alone.
-/

set_option autoImplicit false
set_option mvcgen.warning false

namespace ElementMarkup.Command

open Std.Do

variable {δ ρ τ : Type}

/-- The page that a request renders: the options, the state in which rendering starts, and the
root. -/
inductive System.Page (S : System δ ρ τ) (r : Request) (stdin : List Char) (before : Progress) :
    Options → S.State → Element → Prop where
  | loaded {tree context : Loaded δ} {o : Options} {root : Element} (ha : r.action ≠ .reformat)
      (ht : S.readTree r before.disk stdin = .ok tree) (ho : S.readOptions r before.disk = .ok o)
      (hc : S.readContext r before.disk = .ok context)
      (hr : S.documents.root S.shapeDepth tree = .ok root) :
      Page S r stdin before o ⟨(before, S.scope context), []⟩ root

inductive System.Origin (S : System δ ρ τ) (r : Request) (stdin : List Char) (before : Progress) :
    Failure → Prop where
  | tree {e : LoadError} (h : S.readTree r before.disk stdin = .error e) :
      Origin S r stdin before (.load e)
  | options {e : LoadError} (h : S.readOptions r before.disk = .error e) :
      Origin S r stdin before (.load e)
  | context {e : LoadError} (h : S.readContext r before.disk = .error e) :
      Origin S r stdin before (.load e)
  | markup {e : LoadError} (h : r.readMarkup before.disk stdin = .error e) :
      Origin S r stdin before (.load e)
  | shape {tree : Loaded δ} {e : ShapeError} (ht : S.readTree r before.disk stdin = .ok tree)
      (h : S.documents.root S.shapeDepth tree = .error (.shape e)) :
      Origin S r stdin before (.shape e)
  | unshaped {tree : Loaded δ} {e : RenderError} (ht : S.readTree r before.disk stdin = .ok tree)
      (h : S.documents.root S.shapeDepth tree = .error e) (he : ∀ e', e ≠ .shape e') :
      Origin S r stdin before (.render e)
  | render {o : Options} {start : S.State} {root : Element} {e : RenderError}
      (h : S.Page r stdin before o start root)
      (he : e.Cause o S.evaluate start root S.renderDepth) : Origin S r stdin before (.render e)
  | write {name : String} {disk : Disk} {bytes : List UInt8} {e : FileError}
      (ho : r.output = some name) (h : (disk.write (Path.ofString name) bytes).1 = .error e) :
      Origin S r stdin before (.write e)

/-- The progress before anything is printed or written: evaluating expressions of the page has led
to it, if anything has. -/
inductive System.Undelivered (S : System δ ρ τ) (r : Request) (stdin : List Char)
    (before : Progress) : Progress → Prop where
  | unchanged : Undelivered S r stdin before before
  | rendered {o : Options} {start w : S.State} {root : Element}
      (h : S.Page r stdin before o start root) (hw : S.evaluate.Passes start root (.state w))
      (log : String) :
      Undelivered S r stdin before { w.state.1 with log }

/-- Nothing has been printed since, and of a file to be written only the folders may have been
made. -/
def Progress.Unfinished (output : Option String) (before after : Progress) : Prop :=
  after.output = before.output ∧ (after.disk.folder = before.disk.folder ∨
    ∃ name, output = some name ∧
      Folder.OnlyParents (Path.ofString name) before.disk.folder after.disk.folder)

@[spec]
theorem fromLoad_spec {α : Type} (p₀ : Progress) (x : Except LoadError α) :
    ⦃fun p => ⌜p = p₀⌝⦄ fromLoad x
    ⦃post⟨fun a p => ⌜x = .ok a ∧ p = p₀⌝,
      fun f p => ⌜p = p₀ ∧ ∃ e, x = .error e ∧ f = .load e⌝⟩⦄ := by
  unfold fromLoad
  mvcgen
  next h => exact ⟨h, _, rfl, rfl⟩

@[spec]
theorem deliver_spec (output : Option String) (text : List Char) (p₀ : Progress) :
    ⦃fun p => ⌜p = p₀⌝⦄ deliver output text
    ⦃post⟨fun _ _ => ⌜True⌝, fun f p => ⌜p₀.Unfinished output p ∧ ∃ name bytes e,
      output = some name ∧ (p₀.disk.write (Path.ofString name) bytes).1 = .error e ∧
        f = .write e⌝⟩⦄ := by
  unfold deliver print
  mvcgen
  next name _ _ hp _ h =>
    subst hp
    exact ⟨⟨rfl, .inr ⟨name, rfl, Disk.write_onlyParents h⟩⟩, name, _, _, rfl, h, rfl⟩

namespace System

variable (S : System δ ρ τ)

@[spec]
theorem shaped_spec (tree : Loaded δ) (p₀ : Progress) :
    ⦃fun p => ⌜p = p₀⌝⦄ S.shaped tree
    ⦃post⟨fun e p => ⌜S.documents.root S.shapeDepth tree = .ok e ∧ p = p₀⌝,
      fun f p => ⌜p = p₀ ∧ ∃ e, S.documents.root S.shapeDepth tree = .error e ∧
        ((∃ e', e = .shape e' ∧ f = .shape e') ∨ (∀ e', e ≠ .shape e') ∧ f = .render e)⌝⟩⦄ := by
  unfold shaped
  mvcgen
  case vc2.h_2 hr _ hp => exact ⟨hp, _, hr, .inl ⟨_, rfl, rfl⟩⟩
  case vc3.h_3 hn hr _ hp => exact ⟨hp, _, hr, .inr ⟨hn, rfl⟩⟩

@[spec]
theorem rendered_spec (o : Options) (scope : ρ) (e : Element) (p₀ : Progress) :
    ⦃fun p => ⌜p = p₀⌝⦄ S.rendered o scope e
    ⦃post⟨fun _ p => ⌜∃ w : S.State, S.evaluate.Passes ⟨(p₀, scope), []⟩ e (.state w) ∧
        p = w.state.1⌝,
      fun f p => ⌜(∃ w : S.State, S.evaluate.Passes ⟨(p₀, scope), []⟩ e (.state w) ∧
        p = w.state.1) ∧ ∃ err : RenderError, f = .render err ∧
          err.Cause o S.evaluate ⟨(p₀, scope), []⟩ e S.renderDepth⌝⟩⦄ := by
  have hpasses := renderElement_passes o true S.evaluate S.renderDepth ⟨(p₀, scope), []⟩ e
  unfold rendered
  mvcgen
  case vc1.h_1 hp _ _ _ =>
    subst hp
    exact ⟨_, hpasses.1, rfl⟩
  case vc2.h_2 hp _ err herr =>
    subst hp
    exact ⟨⟨_, hpasses.1, rfl⟩, err, rfl, hpasses.2 err herr⟩

@[spec]
theorem compiled_spec (verbose : Bool) (stdin : List Char) (r : Request)
    (ha : r.action ≠ .reformat) (p₀ : Progress) :
    ⦃fun p => ⌜p = p₀⌝⦄ S.compiled verbose stdin r
    ⦃post⟨fun _ p => ⌜S.Undelivered r stdin p₀ p⌝,
      fun f p => ⌜S.Undelivered r stdin p₀ p ∧ S.Origin r stdin p₀ f⌝⟩⦄ := by
  unfold compiled log
  mvcgen
  all_goals subst_vars
  -- every stage before the rendering leaves the progress as it was
  case vc1 htree _ _ hoptions _ _ hcontext _ _ hroot _ _ _ hw _
    | vc2 htree _ _ hoptions _ _ hcontext _ _ hroot _ _ _ _ hw =>
    obtain ⟨htree, rfl⟩ := htree
    obtain ⟨hoptions, rfl⟩ := hoptions
    obtain ⟨hcontext, rfl⟩ := hcontext
    obtain ⟨hroot, rfl⟩ := hroot
    obtain ⟨w, hw, rfl⟩ := hw
    exact .rendered (.loaded ha htree hoptions hcontext hroot) hw _
  case vc3 htree _ _ hoptions _ _ hcontext _ _ hroot _ _ =>
    obtain ⟨htree, rfl⟩ := htree
    obtain ⟨hoptions, rfl⟩ := hoptions
    obtain ⟨hcontext, rfl⟩ := hcontext
    obtain ⟨hroot, rfl⟩ := hroot
    have hpage := System.Page.loaded ha htree hoptions hcontext hroot
    rintro ⟨w, hw, rfl⟩ ⟨e, rfl, he⟩
    exact ⟨.rendered hpage hw _, .render hpage he⟩
  case vc4 htree _ _ hoptions _ _ hcontext _ _ =>
    obtain ⟨htree, rfl⟩ := htree
    obtain ⟨hoptions, rfl⟩ := hoptions
    obtain ⟨hcontext, rfl⟩ := hcontext
    rintro rfl ⟨_, hroot, ⟨e, rfl, rfl⟩ | ⟨hne, rfl⟩⟩
    · exact ⟨.unchanged, .shape htree hroot⟩
    · exact ⟨.unchanged, .unshaped htree hroot hne⟩
  case vc5 htree _ _ hoptions _ _ =>
    obtain ⟨htree, rfl⟩ := htree
    obtain ⟨hoptions, rfl⟩ := hoptions
    rintro rfl ⟨e, hcontext, rfl⟩
    exact ⟨.unchanged, .context hcontext⟩
  case vc6 htree _ _ =>
    obtain ⟨htree, rfl⟩ := htree
    rintro rfl ⟨e, hoptions, rfl⟩
    exact ⟨.unchanged, .options hoptions⟩
  case vc7 =>
    rintro rfl ⟨e, htree, rfl⟩
    exact ⟨.unchanged, .tree htree⟩

/-- A request fails for one of the reasons that it can fail for, and leaves what evaluating its page
has led to, but for folders around the file to be written. -/
theorem perform_spec (verbose : Bool) (stdin : List Char) (r : Request) (p₀ : Progress) :
    ⦃fun p => ⌜p = p₀⌝⦄ S.perform verbose stdin r
    ⦃post⟨fun _ _ => ⌜True⌝,
      fun f p => ⌜(∃ p', S.Undelivered r stdin p₀ p' ∧ p'.Unfinished r.output p) ∧
        S.Origin r stdin p₀ f⌝⟩⦄ := by
  unfold perform
  mvcgen
  -- for each action the failure to deliver, and then the failure before it
  case vc1.ha ha _ _ | vc8.ha ha _ _ => simp [ha]
  case vc3 hp _ p' hq _ _ =>
    subst hp
    rintro hu ⟨name, bytes, e, hname, hw, rfl⟩
    exact ⟨⟨p', hq, hu⟩, .write hname hw⟩
  case vc4 hp _ p' =>
    subst hp
    exact fun hq ho => ⟨⟨p', hq, rfl, .inl rfl⟩, ho⟩
  case vc6 hp _ p' hq _ _ =>
    obtain ⟨_, rfl⟩ := hq
    subst hp
    rintro hu ⟨name, bytes, e, hname, hw, rfl⟩
    exact ⟨⟨p', .unchanged, hu⟩, .write hname hw⟩
  case vc7 p hp _ _ =>
    subst hp
    rintro rfl ⟨e, hm, rfl⟩
    exact ⟨⟨_, .unchanged, rfl, .inl rfl⟩, .markup hm⟩
  case vc10 =>
    -- a preview is printed, so nothing is written for it
    rintro _ ⟨_, _, _, hname, _⟩
    cases hname
  case vc11 hp _ p' =>
    subst hp
    exact fun hq ho => ⟨⟨p', hq, rfl, .inl rfl⟩, ho⟩

end System

end ElementMarkup.Command
