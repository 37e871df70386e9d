/-!
# Usage and help

The texts that explain the program and its commands: the usage is shown with errors, and the help
goes on behind it.
-/

set_option autoImplicit false

namespace ElementMarkup.Command

inductive Action where
  | render
  | reformat
  | preview
  deriving DecidableEq, Repr

def Action.name : Action → String
  | .render => "render"
  | .reformat => "reformat"
  | .preview => "preview"

def Action.all : List Action := [.render, .reformat, .preview]

def Action.ofName? (name : String) : Option Action := Action.all.find? fun c => c.name = name

def programName : String := "treemark"

def commandChoice : String := "\x7brender,reformat,preview\x7d"

def textOfLines (lines : List String) : String := String.join (lines.map (· ++ "\n"))

def usage : Option Action → String
  | none => textOfLines ["usage: treemark [-h] [-v] " ++ commandChoice ++ " ..."]
  | some .render => textOfLines [
      "usage: treemark render [-h] [--xml] [--config CONFIG] [--context CONTEXT]",
      "                       [--doctype DOCTYPE [DOCTYPE ...]]",
      "                       [--extension-tag EXTENSION_TAGS] [--out OUTPUT]",
      "                       input"]
  | some .reformat => textOfLines ["usage: treemark reformat [-h] [--xml] [--out OUTPUT] input"]
  | some .preview => textOfLines [
      "usage: treemark preview [-h] [--xml] [--config CONFIG] [--context CONTEXT]",
      "                        input"]

def explanation : Option Action → List String
  | none => [
      "Compile element trees into HTML or XML markup.",
      "",
      "positional arguments:",
      "  " ++ commandChoice,
      "    render              Compile a tree into line-broken markup.",
      "    reformat            Break existing markup into lines by element structure.",
      "    preview             Compile a tree and print it indented.",
      "",
      "options:",
      "  -h, --help            show this help message and exit",
      "  -v, --verbose         Log debug messages to stderr."]
  | some .render => [
      "Render a tree file into HTML (default) or XML markup.",
      "",
      "positional arguments:",
      "  input                 Tree file (.sexp, .json, .yaml) or - to read",
      "                        s-expression text from stdin.",
      "",
      "options:",
      "  -h, --help            show this help message and exit",
      "  --xml                 Render XML: paired tags and an XML declaration line.",
      "  --config CONFIG       YAML file with render options (xml, doctypeParams,",
      "                        extensionTags, xmlHeader).",
      "  --context CONTEXT     JSON or YAML mapping of names used by \x7b\x7b expression \x7d\x7d",
      "                        items.",
      "  --doctype DOCTYPE [DOCTYPE ...]",
      "                        Words written after DOCTYPE for an html root (default:",
      "                        html).",
      "  --extension-tag EXTENSION_TAGS",
      "                        Allow an extra tag name; may be repeated.",
      "  --out OUTPUT          File to write; defaults to stdout."]
  | some .reformat => [
      "Reformat rendered HTML or XML text.",
      "",
      "positional arguments:",
      "  input         Markup file or - for stdin.",
      "",
      "options:",
      "  -h, --help    show this help message and exit",
      "  --xml         Treat input as XML (only tags ending in /> are empty).",
      "  --out OUTPUT  File to write; defaults to stdout."]
  | some .preview => [
      "Render a tree and show it with indentation.",
      "",
      "positional arguments:",
      "  input              Tree file (.sexp, .json, .yaml) or - to read s-expression",
      "                     text from stdin.",
      "",
      "options:",
      "  -h, --help         show this help message and exit",
      "  --xml              Render XML: paired tags and an XML declaration line.",
      "  --config CONFIG    YAML file with render options (xml, doctypeParams,",
      "                     extensionTags, xmlHeader).",
      "  --context CONTEXT  JSON or YAML mapping of names used by \x7b\x7b expression \x7d\x7d",
      "                     items."]

def helpText (c : Option Action) : String :=
  usage c ++ "\n" ++ textOfLines (explanation c)

def fullName : Option Action → String
  | none => programName
  | some c => programName ++ " " ++ c.name

def errorText (c : Option Action) (message : String) : String :=
  usage c ++ fullName c ++ ": error: " ++ message ++ "\n"

end ElementMarkup.Command
