import ReferencePage.Document.Link
import ReferencePage.Document.Members

/-! A document is made from a source in a fixed order: the declaration, the properties, the methods,
and then the links, so that a comment can mention a member that is declared after it. -/
namespace ReferencePage

open Text

def Declaration.ofHead? (head : Head) : Option Declaration :=
  (TypeKeyword.ofText? head.keyword.text).map fun keyword =>
    ⟨head.name.text, keyword, head.comment⟩

/-- The first declaration in a source, with the comment in front of it. -/
def Declaration.ofSource? (source : Text) : Option Declaration :=
  (Head.declarations source).head?.bind ofHead?

namespace Document

def empty (declaration : Declaration) : Document := ⟨declaration, [], []⟩

def collectProperties (source : Text) (d : Document) : Document :=
  { d with properties := Property.shape.collect source d.properties }

def collectMethods (source : Text) (d : Document) : Document :=
  { d with methods := Method.shape.collect source d.methods }

def unlinked (source : Text) (declaration : Declaration) : Document :=
  collectMethods source (collectProperties source (empty declaration))

def ofSource? (source : Text) : Option Document :=
  (Declaration.ofSource? source).map fun declaration => (unlinked source declaration).linked

/-- What is reported while the document is made; nothing, where there is no declaration. -/
def events (source : Text) : List Event :=
  match Declaration.ofSource? source with
  | none => []
  | some declaration =>
    let d := unlinked source declaration
    [.located declaration.keyword declaration.name declaration.comment.isSome]
      ++ Property.shape.events source []
      ++ Method.shape.events source []
      ++ [.built declaration.name declaration.keyword d.properties.length d.methods.length]
      ++ d.sharedAnchors.map Event.shared

end Document
end ReferencePage
