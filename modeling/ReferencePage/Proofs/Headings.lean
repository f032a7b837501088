import Mathlib.Data.List.Basic
import ReferencePage.Document.Page

/-! The headings on a page.  Every member has one, on a line of its own: all that a page holds in
front of an entry ends a line, and the entry opens with its heading. -/
namespace ReferencePage

namespace Text

def HasLine (t line : Text) : Prop :=
  ∃ above below, t = above ++ '\n' :: line ++ '\n' :: below

def EndsLine (t : Text) : Prop := t.getLast? = some '\n'

variable {s t line : Text}

theorem HasLine.append_left (has : HasLine t line) (s : Text) : HasLine (s ++ t) line := by
  obtain ⟨above, below, rfl⟩ := has
  exact ⟨s ++ above, below, by simp⟩

theorem HasLine.append_right (has : HasLine s line) (t : Text) : HasLine (s ++ t) line := by
  obtain ⟨above, below, rfl⟩ := has
  exact ⟨above, below ++ t, by simp⟩

theorem EndsLine.append_left (ends : EndsLine t) (s : Text) : EndsLine (s ++ t) := by
  unfold EndsLine at *
  rw [List.getLast?_append, ends, Option.some_or]

theorem EndsLine.append_flatMap {α : Type} {f : α → Text} (ends : EndsLine s)
    (each : ∀ a, EndsLine (f a)) (l : List α) : EndsLine (s ++ l.flatMap f) := by
  induction l generalizing s with
  | nil => simpa using ends
  | cons a l ih =>
    rw [List.flatMap_cons, ← List.append_assoc]
    exact ih ((each a).append_left s)

theorem hasLine_of_endsLine (ends : EndsLine s) (line rest : Text) :
    HasLine (s ++ (line ++ '\n' :: rest)) line := by
  obtain ⟨above, rfl⟩ := List.getLast?_eq_some_iff.mp ends
  exact ⟨above, rest, by simp⟩

theorem endsLine_endOfLine : EndsLine endOfLine := rfl

theorem endsLine_endOfParagraph : EndsLine endOfParagraph := rfl

end Text

open Text

/-- The heading of a member, without the paragraph break behind it. -/
def Member.headingLine (m : Member) : Text :=
  "### <a id='".toList ++ m.anchor ++ "'>".toList ++ m.name ++ "</a>".toList

theorem Member.heading_eq (m : Member) : m.heading = m.headingLine ++ endOfParagraph := rfl

theorem Property.entry_opens (p : Property) : ∃ rest, p.entry = p.headingLine ++ '\n' :: rest := by
  simp only [Property.entry, Member.heading_eq, List.append_assoc]
  exact ⟨_, rfl⟩

theorem Property.endsLine_entry (p : Property) : EndsLine p.entry :=
  endsLine_endOfParagraph.append_left _

theorem Method.entry_opens (fenceLanguage : Text) (m : Method) :
    ∃ rest, m.entry fenceLanguage = m.headingLine ++ '\n' :: rest := by
  simp only [Method.entry, Member.heading_eq, List.append_assoc]
  exact ⟨_, rfl⟩

theorem Method.endsLine_entry (fenceLanguage : Text) (m : Method) :
    EndsLine (m.entry fenceLanguage) := by
  unfold Method.entry
  cases m.returnsValue with
  | true =>
    have returns : EndsLine "`\n\n".toList := rfl
    exact (returns.append_left _).append_left _
  | false =>
    rw [if_neg Bool.false_ne_true, List.append_nil]
    split
    · rw [List.append_nil]
      exact endsLine_endOfParagraph.append_left _
    · exact (endsLine_endOfLine.append_left _).append_left _

theorem hasLine_titled {α : Type} {entry : α → Text} {line : Text} (title : String)
    (ends : ∀ a, EndsLine (entry a)) {a : α} (opens : ∃ rest, entry a = line ++ '\n' :: rest)
    {members : List α} (member : a ∈ members) : HasLine (titled title entry members) line := by
  obtain ⟨earlier, later, rfl⟩ := List.append_of_mem member
  obtain ⟨rest, opens⟩ := opens
  have front : EndsLine ("## ".toList ++ title.toList ++ endOfParagraph ++
      earlier.flatMap entry) :=
    (endsLine_endOfParagraph.append_left _).append_flatMap ends earlier
  have here := (hasLine_of_endsLine front line rest).append_right (later.flatMap entry)
  simpa [titled, opens] using here

/-- Whatever the setting, the heading of every member is a line of the page. -/
theorem Document.hasLine_headingLine {d : Document} {m : Member} (member : m ∈ d.members)
    (setting : Setting) : HasLine (d.page setting) m.headingLine := by
  unfold Document.page
  rcases List.mem_append.mp member with property | method
  · obtain ⟨p, listed, rfl⟩ := List.mem_map.mp property
    have section_has := hasLine_titled "Properties" Property.endsLine_entry p.entry_opens listed
    exact (section_has.append_left _).append_right _
  · obtain ⟨o, listed, rfl⟩ := List.mem_map.mp method
    have section_has := hasLine_titled "Methods" (Method.endsLine_entry setting.fenceLanguage)
      (o.entry_opens _) listed
    exact section_has.append_left _

end ReferencePage
