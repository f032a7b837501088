import ReferencePage.Source.Signature

/-! A document names one declared type, its properties and its methods.  Every member has an anchor
that links can lead to, and perhaps a comment. -/
namespace ReferencePage

inductive TypeKeyword where
  | actorType
  | classType
  | enumType
  | protocolType
  | structType
  deriving DecidableEq, Repr

namespace TypeKeyword

def text : TypeKeyword → Text
  | .actorType => "actor".toList
  | .classType => "class".toList
  | .enumType => "enum".toList
  | .protocolType => "protocol".toList
  | .structType => "struct".toList

def all : List TypeKeyword := [.actorType, .classType, .enumType, .protocolType, .structType]

def ofText? (word : Text) : Option TypeKeyword := all.find? fun keyword => keyword.text = word

theorem text_of_ofText? {word : Text} {keyword : TypeKeyword}
    (found : ofText? word = some keyword) : keyword.text = word := by
  simpa using List.find?_some found

end TypeKeyword

/-- Stands for what has no comment, or one that says nothing. -/
def missingDescription : Text := "No description provided.".toList

/- A comment here is what it says on one line; there is none when it says nothing. -/
structure Declaration where
  name : Text
  keyword : TypeKeyword
  comment : Option Text
  deriving DecidableEq, Repr

inductive MemberKind where
  | property
  | method
  deriving DecidableEq, Repr

structure Member where
  name : Text
  anchor : Text
  comment : Option Text
  deriving DecidableEq, Repr

def Declaration.description (d : Declaration) : Text := d.comment.getD missingDescription

def Member.description (m : Member) : Text := m.comment.getD missingDescription

structure Property extends Member where
  type : Text
  deriving DecidableEq, Repr

structure Method extends Member where
  parameters : List Parameter
  returnType : Text
  deriving DecidableEq, Repr

/-- The return type of a method that names none. -/
def voidType : Text := "Void".toList

def Method.returnsValue (m : Method) : Bool := m.returnType != voidType

structure Document where
  declaration : Declaration
  properties : List Property
  methods : List Method
  deriving DecidableEq, Repr

/-- Properties come before methods. -/
def Document.members (d : Document) : List Member :=
  d.properties.map Property.toMember ++ d.methods.map Method.toMember

end ReferencePage
