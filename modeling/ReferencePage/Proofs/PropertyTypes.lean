import ReferencePage.Proofs.AttachedHeads
import ReferencePage.Proofs.OneLine
import ReferencePage.Proofs.PropertyHeads

/-! The types of properties, as they are recorded.  A type is what stands behind the colon, up to a
block, a value or the end of the line; it is empty where one of these is all that follows. -/
namespace ReferencePage

open Text

def typeText (t : Text) : Text := t.takeWhile fun c => !Form.endsType c && c != '\n'

theorem trim_eq_nil {t : Text} : trim t = [] ↔ ∀ c ∈ t, isBlank c = true := by
  constructor
  · intro empty
    apply trimStart_eq_nil.mp
    have all := trimEnd_eq_nil.mp empty
    cases cut : trimStart t with
    | nil => rfl
    | cons c u =>
      have solid := isBlank_head?_trimStart t c (by simp [cut])
      simp [cut, solid] at all
  · intro blank
    simp [trim, trimStart_eq_nil.mpr blank, trimEnd]

theorem trim_typeText_ne_nil {rest : Text} :
    trim (typeText (trimStart rest)) ≠ [] ↔ TypeFollows rest := by
  unfold TypeFollows
  cases cut : trimStart rest with
  | nil => simp [typeText, trim, trimStart, trimEnd]
  | cons c t =>
    have solid := isBlank_head?_trimStart rest c (by simp [cut])
    have line : c ≠ '\n' := by
      rintro rfl
      contradiction
    have starts : typeText (c :: t) ≠ [] ↔ c ≠ '\x7b' ∧ c ≠ '=' := by
      simp [typeText, Form.endsType, line]
    have keeps : trim (typeText (c :: t)) ≠ [] ↔ typeText (c :: t) ≠ [] := by
      rw [Ne, trim_eq_nil]
      constructor
      · rintro something empty
        simp [empty] at something
      · intro nonempty all
        have first : c ∈ typeText (c :: t) := by
          obtain ⟨noBody, noValue⟩ := starts.mp nonempty
          simp [typeText, Form.endsType, line, noBody, noValue]
        simp [all c first] at solid
    simpa [keeps] using starts

namespace Shape

variable {α : Type} {shape : Shape α} {source : Text} {head : Head}

theorem exists_place_of_mem_documentedHeads (known : head ∈ shape.documentedHeads source) :
    ∃ (comment : WrittenComment) (front before t : Text), source = front ++ head.start ∧
      DirectlyBefore front comment.text before ∧ source = before ++ t ∧
        wordMayStart before.getLast? = true ∧ shape.form? t = some head.toForm := by
  obtain ⟨front, rest, here⟩ := succeeds_of_mem_scan known
  obtain ⟨rfl, content, behind, made⟩ := Head.exists_madeOf here.found
  obtain ⟨between, cut⟩ := Between.exists_cut behind
  obtain ⟨comment, text, -⟩ := WrittenComment.exists_of_content made.inside
  refine ⟨comment, front, front ++ (commentOf content ++ between.text),
    afterModifiers (trimStart behind), here.cut, text ▸ ⟨between, rfl⟩, ?_,
    DirectlyBefore.wordMayStart ⟨between, rfl⟩, made.form⟩
  rw [here.cut, made.start]
  simp only [List.append_assoc]
  rw [← cut]

theorem exists_place_of_mem_bareHeads (known : head ∈ shape.bareHeads source) :
    ∃ before, source = before ++ head.start ∧ wordMayStart before.getLast? = true ∧
      shape.form? head.start = some head.toForm := by
  obtain ⟨before, t, here⟩ := succeeds_of_mem_scan known
  have found := here.found
  unfold Head.bare? at found
  split at found
  · rename_i starts
    obtain ⟨form, read, rfl⟩ := Option.map_eq_some_iff.mp found
    exact ⟨before, here.cut, starts, read⟩
  · contradiction

theorem exists_place_of_mem_heads (known : head ∈ shape.heads source) :
    ∃ before t, source = before ++ t ∧ wordMayStart before.getLast? = true ∧
      shape.form? t = some head.toForm := by
  rcases List.mem_append.mp known with known | known
  · obtain ⟨-, -, before, t, -, -, cut, starts, read⟩ := exists_place_of_mem_documentedHeads known
    exact ⟨before, t, cut, starts, read⟩
  · obtain ⟨before, cut, starts, read⟩ := exists_place_of_mem_bareHeads known
    exact ⟨before, head.start, cut, starts, read⟩

end Shape

namespace Property

/-- No blank stands at either end of the type, and it passes no block, no value and no line. -/
structure TypeClean (p : Property) : Prop where
  opens : ∀ c ∈ p.type.head?, isBlank c = false
  closes : ∀ c ∈ p.type.getLast?, isBlank c = false
  inside : ∀ c ∈ p.type, c ≠ '\x7b' ∧ c ≠ '=' ∧ c ≠ '\n'

/-- The property was read from this head, and its type from what follows the colon. -/
structure ReadFrom (p : Property) (head : PropertyHead) (rest : Text) : Prop where
  name : p.name = head.name
  type : p.type = trim (typeText (trimStart rest))
  follows : p.type ≠ [] ↔ TypeFollows rest

theorem ReadFrom.typeClean {p : Property} {head : PropertyHead} {rest : Text}
    (read : p.ReadFrom head rest) : p.TypeClean := by
  have opens := isBlank_head?_trim (typeText (trimStart rest))
  have closes := isBlank_getLast?_trim (typeText (trimStart rest))
  rw [← read.type] at opens closes
  refine ⟨opens, closes, ?_⟩
  intro c member
  have taken : c ∈ typeText (trimStart rest) := trim_subset _ (read.type ▸ member)
  simpa [Form.endsType, and_assoc] using List.all_eq_true.mp List.all_takeWhile c taken

/-- Whatever is added to a list of properties has a type without blanks around it, and one that is
not empty wherever a type follows the colon. -/
theorem types_collected (source : Text) (members : List Property) :
    ∃ added, Property.shape.collect source members = members ++ added ∧
      ∀ p ∈ added, p.TypeClean ∧ ∃ head before rest,
        PropertyHead.StandsIn head source before rest ∧ p.ReadFrom head rest := by
  obtain ⟨added, collected, origin⟩ :=
    Shape.exists_added Property.shape_namesEntries source members
  refine ⟨added, collected, fun p known => ?_⟩
  obtain ⟨found, listed, made⟩ := origin p known
  obtain ⟨before, t, cut, starts, read⟩ := Shape.exists_place_of_mem_heads listed
  obtain ⟨head, rest, type, rfl, line, form⟩ := Form.property?_eq_some.mp read
  cases Option.some.inj made
  have recorded : trim (found.type.elim [] Passage.text) = trim (typeText (trimStart rest)) := by
    rw [form]
    exact trim_lineUpTo line
  have readFrom : ReadFrom ⟨.of .property found.name.text found.comment,
      trim (found.type.elim [] Passage.text)⟩ head rest := by
    refine ⟨?_, recorded, ?_⟩
    · rw [form]
      rfl
    · rw [← trim_typeText_ne_nil, ← recorded]
  exact ⟨readFrom.typeClean, head, before, rest, ⟨cut, starts⟩, readFrom⟩

/- A type behind a line feed, and a value with blanks in front of it where a type is looked for. -/
def valueSource : Text := "/** A. */ var a:\n [T] \x7b\nlet b: = 1".toList

theorem types_collected_valueSource : ∃ a ∈ Property.shape.collect valueSource [],
    ∃ b ∈ Property.shape.collect valueSource [], a.type = "[T]".toList ∧ b.type = [] ∧
      a.TypeClean ∧ ∃ head before rest, PropertyHead.StandsIn head valueSource before rest ∧
        b.name = head.name ∧ ¬TypeFollows rest := by
  obtain ⟨added, collected, each⟩ := types_collected valueSource []
  have recorded : (Property.shape.collect valueSource []).map Property.type =
      ["[T]".toList, []] := by decide +kernel
  obtain ⟨a, b, both, type_a, type_b⟩ : ∃ a b, Property.shape.collect valueSource [] = [a, b] ∧
      a.type = "[T]".toList ∧ b.type = [] := by
    simpa [List.map_eq_cons_iff] using recorded
  rw [List.nil_append] at collected
  have known_a : a ∈ Property.shape.collect valueSource [] := by simp [both]
  have known_b : b ∈ Property.shape.collect valueSource [] := by simp [both]
  obtain ⟨-, head, before, rest, stands, read⟩ := each b (collected ▸ known_b)
  refine ⟨a, known_a, b, known_b, type_a, type_b, (each a (collected ▸ known_a)).1, head, before,
    rest, stands, read.name, ?_⟩
  exact fun follows => read.follows.mpr follows type_b

/-- A value can stand where a type is looked for, and then the type is empty. -/
theorem not_types_collected :
    ¬∀ (source : Text), ∀ p ∈ Property.shape.collect source [], p.type ≠ [] := by
  intro claim
  exact claim "let a: = 1".toList ⟨.of .property ['a'] none, []⟩ (by decide +kernel) rfl

end Property
end ReferencePage
