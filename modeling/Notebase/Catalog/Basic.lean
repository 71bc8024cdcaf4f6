import Notebase.Catalog.Keywords

/-!
Catalogs of ready documents. A template is picked by its description, word for word; other
documents are reached by keywords alone.
-/

namespace Notebase

structure Template where
  label : Text
  description : Text
  document : Text
deriving DecidableEq, Repr

/-- Templates by their id, further documents by theirs, and the keywords that lead to both. -/
structure Catalog where
  templates : Dict Text Template
  extras : Dict Text Text
  keywords : KeywordTable

namespace Catalog

def document? (c : Catalog) (id : Text) : Option Text :=
  match c.templates.get? id with
  | some template => some template.document
  | none => c.extras.get? id

def idOfDescription? (c : Catalog) (t : Text) : Option Text :=
  (c.templates.find? fun (_, template) => template.description == t).map (·.1)

end Catalog

end Notebase
