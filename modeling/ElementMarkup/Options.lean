import ElementMarkup.Tree.Tag

/-!
# Render options
-/

set_option autoImplicit false

namespace ElementMarkup

def defaultXmlHeader : String := "<?xml version=\"1.0\" encoding=\"UTF-8\"?>"

structure Options where
  xml : Bool := false
  /-- The words after `DOCTYPE` when the root is `html`. -/
  doctype : List String := ["html"]
  /-- The tags that are allowed beside the standard ones. -/
  extensions : List String := defaultExtensions
  xmlHeader : String := defaultXmlHeader

def Options.allows (o : Options) (tag : String) : Bool := isKnownTag o.extensions tag

def Options.doctypeLine (o : Options) : String :=
  "<!DOCTYPE " ++ " ".intercalate o.doctype ++ ">"

def Options.withMode (o : Options) (xml : Option Bool) : Options := { o with xml := xml.getD o.xml }

/-- The members of `new` that are not in `base`, each once, behind `base`. -/
def unionTags (base new : List String) : List String :=
  new.foldl (fun tags t => if tags.contains t then tags else tags ++ [t]) base

def Options.allowing (o : Options) (tags : List String) : Options :=
  { o with extensions := unionTags o.extensions tags }

def Options.allowedTags (o : Options) : List String := unionTags standardTags o.extensions

end ElementMarkup
