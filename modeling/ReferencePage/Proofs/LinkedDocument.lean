import Mathlib.Data.List.Forall2
import ReferencePage.Document.Assembly
import ReferencePage.Proofs.Headings
import ReferencePage.Proofs.Pieces

/-! What linking does to a whole document.  It changes descriptions and nothing else, and each link
that it puts in leads to a heading on the page. -/
namespace ReferencePage

open Text

structure Note where
  documented : Bool
  description : Text

def Declaration.note (d : Declaration) : Note := ⟨d.comment.isSome, d.description⟩

def Member.note (m : Member) : Note := ⟨m.comment.isSome, m.description⟩

/- What stands for a missing comment is not linked. -/
def Note.linked (link : Text → Text) (n : Note) : Note :=
  ⟨n.documented, if n.documented then link n.description else missingDescription⟩

structure Declaration.LinkedTo (link : Text → Text) (before after : Declaration) : Prop where
  name : after.name = before.name
  keyword : after.keyword = before.keyword
  note : after.note = before.note.linked link

structure Member.LinkedTo (link : Text → Text) (before after : Member) : Prop where
  name : after.name = before.name
  anchor : after.anchor = before.anchor
  note : after.note = before.note.linked link

structure Property.LinkedTo (link : Text → Text) (before after : Property) : Prop where
  member : before.toMember.LinkedTo link after.toMember
  type : after.type = before.type

structure Method.LinkedTo (link : Text → Text) (before after : Method) : Prop where
  member : before.toMember.LinkedTo link after.toMember
  parameters : after.parameters = before.parameters
  returnType : after.returnType = before.returnType

namespace Document

/-- The document has the members that were collected from the source, in their order, and every
description is linked to all of them. -/
structure LinkedFrom (source : Text) (declaration : Declaration) (d : Document) : Prop where
  declaration : declaration.LinkedTo (linkText d.targets) d.declaration
  properties : List.Forall₂ (Property.LinkedTo (linkText d.targets))
    (Property.shape.collect source []) d.properties
  methods : List.Forall₂ (Method.LinkedTo (linkText d.targets))
    (Method.shape.collect source []) d.methods

/-- Linking keeps a text but for mentions of members.  The link in the place of a mention leads to a
member that bears the name, and to its heading on the page. -/
structure LeadsToHeadings (d : Document) (text : Text) : Prop where
  source : (pieces d.targets text).flatMap Piece.source = text
  result : (pieces d.targets text).flatMap Piece.result = linkText d.targets text
  leads : ∀ mention target, .linked mention target ∈ pieces d.targets text →
    mention.map fold = target.name.map fold ∧
      ∃ m ∈ d.members, m.name = target.name ∧ m.anchor = target.anchor ∧
        ∀ setting, HasLine (d.page setting) m.headingLine

theorem targets_linked (d : Document) : d.linked.targets = d.targets := by
  simp only [targets, members, linked, List.map_append, List.map_map]
  rfl

variable (link : Text → Text)

theorem note_map (comment : Option Text) :
    (⟨(comment.map link).isSome, (comment.map link).getD missingDescription⟩ : Note) =
      Note.linked link ⟨comment.isSome, comment.getD missingDescription⟩ := by
  cases comment with
  | none => rfl
  | some comment => rfl

theorem declaration_linkedTo (d : Declaration) :
    d.LinkedTo link { d with comment := d.comment.map link } :=
  ⟨rfl, rfl, note_map link d.comment⟩

theorem property_linkedTo (p : Property) :
    p.LinkedTo link { p with comment := p.comment.map link } :=
  ⟨⟨rfl, rfl, note_map link p.comment⟩, rfl⟩

theorem method_linkedTo (m : Method) :
    m.LinkedTo link { m with comment := m.comment.map link } :=
  ⟨⟨rfl, rfl, note_map link m.comment⟩, rfl, rfl⟩

theorem linkedFrom_linked (source : Text) (declaration : Declaration) :
    (unlinked source declaration).linked.LinkedFrom source declaration := by
  constructor
  · rw [targets_linked]
    exact declaration_linkedTo _ declaration
  · rw [targets_linked]
    exact List.forall₂_map_right_iff.mpr (List.forall₂_same.mpr fun p _ => property_linkedTo _ p)
  · rw [targets_linked]
    exact List.forall₂_map_right_iff.mpr (List.forall₂_same.mpr fun m _ => method_linkedTo _ m)

theorem leadsToHeadings (d : Document) (text : Text) : d.LeadsToHeadings text := by
  refine ⟨flatMap_source_pieces, flatMap_result_pieces, ?_⟩
  intro mention target put
  obtain ⟨known, names⟩ := target_of_linked_mem_pieces put
  obtain ⟨m, member, rfl⟩ := List.mem_map.mp known
  exact ⟨names, m, member, rfl, rfl, hasLine_headingLine member⟩

/-- Of every document that is made from a source. -/
theorem linking_sound {source : Text} {d : Document} (made : ofSource? source = some d) :
    (∃ declaration, Declaration.ofSource? source = some declaration ∧
      d.LinkedFrom source declaration) ∧ ∀ text, d.LeadsToHeadings text := by
  obtain ⟨declaration, found, rfl⟩ := Option.map_eq_some_iff.mp made
  exact ⟨⟨declaration, found, linkedFrom_linked source declaration⟩, leadsToHeadings _⟩

/-- A class with two members, each mentioned in the comment of the other. -/
def counterSource : Text :=
  ("class Counter \x7b\n  /** What Add counts. */\n  var value: Int\n" ++
    "  /** Adds to value. */\n  func add()\n\x7d").toList

def counter : Document where
  declaration := ⟨"Counter".toList, .classType, none⟩
  properties :=
    [⟨.of .property "value".toList (some "What [add](#method-add) counts.".toList), "Int".toList⟩]
  methods :=
    [⟨.of .method "add".toList (some "Adds to [value](#property-value).".toList), [], voidType⟩]

theorem ofSource?_counterSource : ofSource? counterSource = some counter := by
  have found : Declaration.ofSource? counterSource = some counter.declaration := by decide +kernel
  have targets : (unlinked counterSource counter.declaration).targets = counter.targets := by
    decide +kernel
  -- Sorting does not reduce in the kernel, so it is taken out before the rest is evaluated.
  have sorted : byLength counter.targets = counter.targets :=
    List.mergeSort_of_pairwise (by decide +kernel)
  have link : linkText counter.targets = fun t =>
      replace ((counter.targets.flatMap (Target.mentions t)).foldl accept []) 0 0 t := by
    funext t
    rw [linkText, accepted, sorted]
  have linked : (unlinked counterSource counter.declaration).linked = counter := by
    simp only [linked, targets, link]
    decide +kernel
  rw [ofSource?, found, Option.map_some, linked]

theorem linking_sound_counterSource : ofSource? counterSource = some counter ∧
    (∃ declaration, Declaration.ofSource? counterSource = some declaration ∧
      counter.LinkedFrom counterSource declaration) ∧ ∀ text, counter.LeadsToHeadings text :=
  ⟨ofSource?_counterSource, linking_sound ofSource?_counterSource⟩

end Document
end ReferencePage
