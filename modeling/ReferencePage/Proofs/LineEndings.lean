import Mathlib.Data.List.Basic
import Mathlib.Data.List.DropRight
import ReferencePage.Proofs.OneLine
import ReferencePage.Proofs.Stops

/-! A carriage return before every line feed.  Readers that treat the two alike read the same, with
the line endings of what they pass over and of what is left changed as those of the whole text. -/
namespace ReferencePage

namespace Text

/-- The text with its line feeds made carriage returns and line feeds. -/
def withReturns (t : Text) : Text := t.flatMap fun c => if c = '\n' then ['\r', '\n'] else [c]

@[simp] theorem withReturns_nil : withReturns [] = [] := rfl

@[simp] theorem withReturns_lineFeed (t : Text) :
    withReturns ('\n' :: t) = '\r' :: '\n' :: withReturns t := rfl

theorem withReturns_cons {c : Char} (other : c ≠ '\n') (t : Text) :
    withReturns (c :: t) = c :: withReturns t := by
  simp [withReturns, other]

@[simp] theorem withReturns_append (s t : Text) :
    withReturns (s ++ t) = withReturns s ++ withReturns t :=
  List.flatMap_append

/-- Along a text, a line feed or any other character at a time. -/
theorem lineFeed_induction {motive : Text → Prop} (nil : motive [])
    (lineFeed : ∀ t, motive t → motive ('\n' :: t))
    (cons : ∀ c t, c ≠ '\n' → motive t → motive (c :: t)) (t : Text) : motive t := by
  induction t with
  | nil => exact nil
  | cons c t ih =>
    by_cases same : c = '\n'
    · exact same ▸ lineFeed t ih
    · exact cons c t same ih

theorem withReturns_oneLine {t : Text} (line : OneLine t) : withReturns t = t := by
  induction t using lineFeed_induction with
  | nil => rfl
  | lineFeed t ih => exact absurd List.mem_cons_self line
  | cons c t other ih => rw [withReturns_cons other, ih (line.subset (List.subset_cons_self c t))]

theorem getLast?_withReturns (t : Text) : (withReturns t).getLast? = t.getLast? := by
  rcases List.eq_nil_or_concat t with rfl | ⟨s, c, rfl⟩
  · rfl
  · by_cases same : c = '\n'
    · simp [same]
    · simp [withReturns_cons same]

theorem withReturns_eq_nil {t : Text} : withReturns t = [] ↔ t = [] := by
  cases t with
  | nil => simp
  | cons c t => by_cases same : c = '\n' <;> simp [same, withReturns_cons]

/- Classes of characters that hold both line endings, or neither. -/
section Class

variable {p : Char → Bool} (alike : p '\r' = p '\n') (t : Text)
include alike

theorem any_head?_withReturns : (withReturns t).head?.any p = t.head?.any p := by
  cases t with
  | nil => rfl
  | cons c t => by_cases same : c = '\n' <;> simp [same, withReturns_cons, alike]

theorem dropWhile_withReturns : (withReturns t).dropWhile p = withReturns (t.dropWhile p) := by
  induction t using lineFeed_induction with
  | nil => rfl
  | lineFeed t ih => cases blank : p '\n' <;> simp [alike, blank, ih]
  | cons c t other ih =>
    rw [withReturns_cons other, List.dropWhile_cons, List.dropWhile_cons, ih]
    split
    · rfl
    · exact (withReturns_cons other t).symm

theorem takeWhile_withReturns : (withReturns t).takeWhile p = withReturns (t.takeWhile p) := by
  induction t using lineFeed_induction with
  | nil => rfl
  | lineFeed t ih => cases blank : p '\n' <;> simp [alike, blank, ih]
  | cons c t other ih =>
    rw [withReturns_cons other, List.takeWhile_cons, List.takeWhile_cons, ih]
    split
    · exact (withReturns_cons other _).symm
    · rfl

theorem rdropWhile_withReturns : (withReturns t).rdropWhile p = withReturns (t.rdropWhile p) := by
  induction t using List.reverseRecOn with
  | nil => rfl
  | append_singleton s c ih =>
    by_cases same : c = '\n'
    · subst same
      rw [withReturns_append, withReturns_lineFeed, withReturns_nil,
        show ['\r', '\n'] = ['\r'] ++ ['\n'] from rfl, ← List.append_assoc,
        List.rdropWhile_concat, List.rdropWhile_concat, List.rdropWhile_concat, alike, ih]
      split <;> simp
    · rw [withReturns_append, withReturns_cons same, withReturns_nil, List.rdropWhile_concat,
        List.rdropWhile_concat, ih]
      split <;> simp [withReturns_cons same]

end Class

/- Readers of blanks. -/
section Blank

theorem isBlank_return : isBlank '\r' = isBlank '\n' := by decide

theorem trimStart_withReturns (t : Text) : trimStart (withReturns t) = withReturns (trimStart t) :=
  dropWhile_withReturns isBlank_return t

/- The first character behind blanks is no line ending. -/
theorem head?_withReturns_trimStart (t : Text) :
    (withReturns (trimStart t)).head? = (trimStart t).head? := by
  cases cut : trimStart t with
  | nil => rfl
  | cons c u =>
    have solid := isBlank_head?_trimStart t c (by simp [cut])
    have other : c ≠ '\n' := by
      rintro rfl
      contradiction
    rw [withReturns_cons other]
    rfl

theorem trimEnd_withReturns (t : Text) : trimEnd (withReturns t) = withReturns (trimEnd t) :=
  rdropWhile_withReturns isBlank_return t

theorem trim_withReturns (t : Text) : trim (withReturns t) = withReturns (trim t) := by
  rw [trim, trimStart_withReturns, trimEnd_withReturns, trim]

theorem afterBlanks?_withReturns (t : Text) :
    afterBlanks? (withReturns t) = (afterBlanks? t).map withReturns := by
  cases t with
  | nil => rfl
  | cons c t =>
    have trimmed := trimStart_withReturns (c :: t)
    by_cases same : c = '\n'
    · subst same
      rw [withReturns_lineFeed] at trimmed ⊢
      simp [afterBlanks?, isBlank_return, isBlank_lineFeed, trimmed]
    · rw [withReturns_cons same] at trimmed ⊢
      rw [afterBlanks?, afterBlanks?, trimmed]
      split <;> rfl

theorem words_withReturns (t : Text) : words (withReturns t) = words t := by
  induction t using blank_induction with
  | solid w solid => rw [withReturns_oneLine solid.oneLine]
  | blank w c t solid blank ih =>
    rw [withReturns_append, withReturns_oneLine solid.oneLine, words_append_blank blank, ← ih]
    by_cases same : c = '\n'
    · subst same
      rw [withReturns_lineFeed, words_append_blank (isBlank_return.trans blank),
        words_cons_blank blank]
    · rw [withReturns_cons same, words_append_blank blank]

theorem collapse_withReturns (t : Text) : collapse (withReturns t) = collapse t := by
  rw [collapse, words_withReturns, collapse]

end Blank

/- Readers of words and marks. -/
section Mark

def Unbroken (t : Text) : Prop := '\r' ∉ t ∧ '\n' ∉ t

instance (t : Text) : Decidable (Unbroken t) := inferInstanceAs (Decidable (_ ∧ _))

theorem Unbroken.of_cons {c : Char} {t : Text} (unbroken : Unbroken (c :: t)) :
    (c ≠ '\r' ∧ c ≠ '\n') ∧ Unbroken t := by
  simp only [Unbroken, List.mem_cons, not_or] at unbroken ⊢
  exact ⟨⟨Ne.symm unbroken.1.1, Ne.symm unbroken.2.1⟩, unbroken.1.2, unbroken.2.2⟩

theorem isWord_return : isWord '\r' = isWord '\n' := by decide

theorem OneWord.unbroken {t : Text} (word : OneWord t) : Unbroken t := by
  refine ⟨fun member => ?_, word.oneLine⟩
  have other := isBlank_of_isWord (word.2 '\r' member)
  rw [isBlank_return, isBlank_lineFeed] at other
  contradiction

theorem after?_withReturns {word : Text} (unbroken : Unbroken word) (t : Text) :
    after? word (withReturns t) = (after? word t).map withReturns := by
  induction word generalizing t with
  | nil => rfl
  | cons a word ih =>
    obtain ⟨⟨noReturn, noLineFeed⟩, unbroken⟩ := unbroken.of_cons
    cases t with
    | nil => rfl
    | cons c t =>
      by_cases same : c = '\n'
      · subst same
        rw [withReturns_lineFeed, after?_cons, after?_cons, if_neg noReturn, if_neg noLineFeed,
          Option.map_none]
      · rw [withReturns_cons same, after?_cons, after?_cons, ih unbroken]
        split <;> rfl

end Mark

end Text

open Text

def Passage.withReturns (p : Passage) : Passage :=
  ⟨Text.withReturns p.text, Text.withReturns p.rest⟩

/- Readers of heads. -/
section Head

theorem word?_withReturns (t : Text) :
    word? (withReturns t) = (word? t).map Passage.withReturns := by
  unfold word?
  rw [takeWhile_withReturns isWord_return, dropWhile_withReturns isWord_return]
  cases taken : t.takeWhile isWord with
  | nil => rfl
  | cons c w =>
    have nonempty : withReturns (c :: w) ≠ [] := by simp [withReturns_eq_nil]
    split
    · contradiction
    · rfl

theorem afterSetterMark_withReturns (t : Text) :
    afterSetterMark (withReturns t) = withReturns (afterSetterMark t) := by
  unfold afterSetterMark
  rw [after?_withReturns (by decide)]
  cases after? "(set)".toList t <;> rfl

theorem afterModifier?_withReturns (t : Text) :
    afterModifier? (withReturns t) = (afterModifier? t).map withReturns := by
  unfold afterModifier?
  apply findSome?_eq_map
  intro word member
  rw [after?_withReturns (oneWord_of_mem_modifierWords word member).unbroken]
  cases after? word t with
  | none => rfl
  | some u =>
    rw [Option.map_some, Option.bind_some, Option.bind_some, afterSetterMark_withReturns,
      afterBlanks?_withReturns]

theorem afterModifiers_withReturns (t : Text) :
    afterModifiers (withReturns t) = withReturns (afterModifiers t) := by
  induction t using afterModifiers.induct with
  | case1 t u found _ ih =>
    have found' := afterModifier?_withReturns t
    rw [found, Option.map_some] at found'
    rw [afterModifiers_of_some found', afterModifiers_of_some found, ih]
  | case2 t none =>
    have none' := afterModifier?_withReturns t
    rw [none, Option.map_none] at none'
    rw [afterModifiers_of_none none', afterModifiers_of_none none]

def Form.withReturns (form : Form) : Form :=
  ⟨form.keyword.withReturns, form.name.withReturns, form.type.map Passage.withReturns,
    Text.withReturns form.rest⟩

theorem named?_withReturns {keywords : List Text} (words : ∀ word ∈ keywords, OneWord word)
    (t : Text) : named? keywords (withReturns t) = (named? keywords t).map Form.withReturns := by
  unfold named?
  apply findSome?_eq_map
  intro keyword member
  have word := words keyword member
  rw [after?_withReturns word.unbroken]
  cases after? keyword t with
  | none => rfl
  | some u =>
    rw [Option.map_some, Option.bind_some, Option.bind_some, afterBlanks?_withReturns]
    cases afterBlanks? u with
    | none => rfl
    | some v =>
      rw [Option.map_some, Option.bind_some, Option.bind_some, word?_withReturns]
      cases word? v with
      | none => rfl
      | some name =>
        simp [Form.withReturns, Passage.withReturns, withReturns_oneLine word.oneLine]

end Head
end ReferencePage
