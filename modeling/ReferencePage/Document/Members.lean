import ReferencePage.Document.Anchor
import ReferencePage.Document.Event

/-! Members are collected from a source in two passes, the documented ones first.  A name that is
listed already is not listed again, so a documented member beats a bare one wherever the two
stand. -/
namespace ReferencePage

open Text

/-- How members of one kind are read.  `complete?` adds what the form alone does not say, and fails
where the source does not go on as the kind demands. -/
structure Shape (α : Type) where
  kind : MemberKind
  form? : Text → Option Form
  complete? : Head → Member → Option α
  dropped : Head → List Text
  name : α → Text

def Property.shape : Shape Property where
  kind := .property
  form? := Form.property?
  complete? := fun head member => some ⟨member, trim (head.type.elim [] Passage.text)⟩
  dropped := fun _ => []
  name := fun p => p.name

def Method.shape : Shape Method where
  kind := .method
  form? := Form.method?
  complete? := fun head member =>
    (Signature.at? head.rest).map fun signature =>
      ⟨member, Parameter.listed signature.parameters, signature.returnType.getD voidType⟩
  dropped := fun head =>
    (Signature.at? head.rest).elim [] fun signature => Parameter.dropped signature.parameters
  name := fun m => m.name

def Head.comment (h : Head) : Option Text := h.doc.bind fun doc => plainText? doc.text

namespace Shape

variable {α : Type} (shape : Shape α)

def lists (members : List α) (name : Text) : Bool :=
  members.any fun member => shape.name member == name

def entry? (head : Head) : Option α :=
  shape.complete? head (.of shape.kind head.name.text head.comment)

def add (members : List α) (head : Head) : List α :=
  if shape.lists members head.name.text then members else members ++ (shape.entry? head).toList

def documentedHeads (source : Text) : List Head := Head.documentedIn shape.form? source

def bareHeads (source : Text) : List Head := Head.bareIn shape.form? source

def collectDocumented (source : Text) (members : List α) : List α :=
  (shape.documentedHeads source).foldl shape.add members

/-- All members of a source, behind those that are listed already. -/
def collect (source : Text) (members : List α) : List α :=
  (shape.bareHeads source).foldl shape.add (shape.collectDocumented source members)

/- What is reported for one head.  That a bare head is passed over needs no word. -/
def remarks (members : List α) (head : Head) : List Event :=
  if shape.lists members head.name.text then
    if head.doc.isSome then [.duplicate shape.kind head.name.text] else []
  else
    (shape.dropped head).map Event.dropped
      ++ if (shape.entry? head).isNone then [.incomplete shape.kind] else []

def remarksOver (members : List α) : List Head → List Event
  | [] => []
  | head :: heads => shape.remarks members head ++ remarksOver (shape.add members head) heads

def events (source : Text) (members : List α) : List Event :=
  let documented := shape.collectDocumented source members
  shape.remarksOver members (shape.documentedHeads source)
    ++ shape.remarksOver documented (shape.bareHeads source)
    ++ [.collected shape.kind (documented.length - members.length)
        ((shape.collect source members).length - documented.length)]

end Shape
end ReferencePage
