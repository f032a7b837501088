import ReferencePage.Document.Basic
import ReferencePage.Text.Case

/-! Anchors of members.  Names that differ by case alone can share one, and then a link leads to the
first of the members that have it. -/
namespace ReferencePage

open Text

namespace MemberKind

def word : MemberKind → Text
  | .property => "property".toList
  | .method => "method".toList

def anchor (kind : MemberKind) (name : Text) : Text := kind.word ++ '-' :: lower name

end MemberKind

def Member.of (kind : MemberKind) (name : Text) (comment : Option Text) : Member :=
  ⟨name, kind.anchor name, comment⟩

/- Each text that occurs more than once, at the place where it occurs again.  `once` holds the texts
that came before, `again` those that were found already. -/
def repeatedFrom (once again : List Text) : List Text → List Text
  | [] => []
  | t :: rest =>
    if t ∈ again then repeatedFrom once again rest
    else if t ∈ once then t :: repeatedFrom once (t :: again) rest
    else repeatedFrom (t :: once) again rest

def repeated (texts : List Text) : List Text := repeatedFrom [] [] texts

namespace Document

def anchors (d : Document) : List Text := d.members.map Member.anchor

/-- Anchors that more than one member has. -/
def sharedAnchors (d : Document) : List Text := repeated d.anchors

end Document
end ReferencePage
