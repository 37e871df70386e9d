/-!
# Tag names

The standard tags, the tags among them that never have content, and the extension tags that are
always allowed. Names are compared with their case.
-/

set_option autoImplicit false

namespace ElementMarkup

def standardTags : List String := [
  "a", "abbr", "address", "area", "article", "aside", "audio", "b", "base", "bdi", "bdo",
  "blockquote", "body", "br", "button", "canvas", "caption", "cite", "code", "col", "colgroup",
  "data", "datalist", "dd", "del", "details", "dfn", "dialog", "div", "dl", "dt", "em", "embed",
  "fieldset", "figcaption", "figure", "footer", "form", "h1", "h2", "h3", "h4", "h5", "h6",
  "head", "header", "hgroup", "hr", "html", "i", "iframe", "img", "input", "ins", "kbd", "label",
  "legend", "li", "link", "main", "map", "mark", "menu", "meta", "meter", "nav", "noscript",
  "object", "ol", "optgroup", "option", "output", "p", "param", "picture", "pre", "progress", "q",
  "rp", "rt", "ruby", "s", "samp", "script", "search", "section", "select", "slot", "small",
  "source", "span", "strong", "style", "sub", "summary", "sup", "table", "tbody", "td",
  "template", "textarea", "tfoot", "th", "thead", "time", "title", "tr", "track", "u", "ul",
  "var", "video", "wbr"]

def voidTags : List String := [
  "area", "base", "br", "col", "embed", "hr", "img", "input", "link", "meta", "param", "source",
  "track", "wbr"]

def defaultExtensions : List String := [
  "svg", "g", "defs", "use", "symbol", "path", "circle", "ellipse", "line", "polyline", "polygon",
  "rect", "text", "tspan", "linearGradient", "radialGradient", "stop", "clipPath", "mask", "math",
  "mi", "mn", "mo", "mrow", "msup", "msub", "mfrac", "msqrt"]

def isKnownTag (extensions : List String) (tag : String) : Bool :=
  standardTags.contains tag || extensions.contains tag

def isVoidTag (tag : String) : Bool := voidTags.contains tag

end ElementMarkup
