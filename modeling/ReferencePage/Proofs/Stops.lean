import Mathlib.Data.List.Basic
import ReferencePage.Proofs.Folding
import ReferencePage.Proofs.Spacing
import ReferencePage.Proofs.Words
import ReferencePage.Source.Form

/-! Characters that no reader of names goes over.  What is read in front of one is read as if the
text ended there, and all that follows is handed on as it is. -/
namespace ReferencePage

open Text

/-- Neither a blank, nor part of a word, nor part of the mark of a setter. -/
structure Stops (c : Char) : Prop where
  blank : isBlank c = false
  word : isWord c = false
  mark : c ∉ "(set)".toList

theorem stops_star : Stops '*' := ⟨by decide, by decide, by decide⟩

theorem stops_slash : Stops '/' := ⟨by decide, by decide, by decide⟩

theorem Stops.not_mem_word {c : Char} (stops : Stops c) {word : Text} (one : OneWord word) :
    c ∉ word := by
  intro member
  have other := one.2 c member
  rw [stops.word] at other
  contradiction

def Passage.extend (p : Passage) (more : Text) : Passage := ⟨p.text, p.rest ++ more⟩

/-- The same form in a text that goes on. -/
def Form.extend (form : Form) (more : Text) : Form :=
  ⟨form.keyword.extend more, form.name.extend more, form.type.map fun p => p.extend more,
    form.rest ++ more⟩

theorem oneWord_of_mem_modifierWords : ∀ word ∈ modifierWords, OneWord word := by decide

theorem findSome?_eq_map {α β γ : Type} {f : α → Option γ} {g : α → Option β} {h : β → γ}
    {l : List α} (each : ∀ a ∈ l, f a = (g a).map h) : l.findSome? f = (l.findSome? g).map h := by
  rw [List.map_findSome?]
  induction l with
  | nil => rfl
  | cons a l ih =>
    obtain ⟨first, others⟩ := List.forall_mem_cons.mp each
    rw [List.findSome?_cons, List.findSome?_cons, first, ih others]
    rfl

theorem afterModifiers_of_some {t rest : Text} (found : afterModifier? t = some rest) :
    afterModifiers t = afterModifiers rest := by
  rw [afterModifiers]
  split
  · rename_i other here
    rw [found] at here
    cases here
    rfl
  · rename_i none
    rw [found] at none
    contradiction

theorem afterModifiers_of_none {t : Text} (none : afterModifier? t = none) :
    afterModifiers t = t := by
  rw [afterModifiers]
  split
  · rename_i other here
    rw [none] at here
    contradiction
  · rfl

/- Reading in front of a character that stops it. -/
section Reading

variable {stop : Char}

theorem after?_append_stop {word : Text} (outside : stop ∉ word) (t rest : Text) :
    after? word (t ++ stop :: rest) = (after? word t).map (· ++ stop :: rest) := by
  induction word generalizing t with
  | nil => rfl
  | cons a word ih =>
    rw [List.mem_cons, not_or] at outside
    cases t with
    | nil => simp [after?_nil, after?_cons, Ne.symm outside.1]
    | cons c t =>
      rw [List.cons_append, after?_cons, after?_cons, ih outside.2]
      split <;> rfl

variable (stops : Stops stop) (t rest : Text)
include stops

theorem trimStart_append_stop : trimStart (t ++ stop :: rest) = trimStart t ++ stop :: rest := by
  unfold trimStart
  induction t with
  | nil => exact List.dropWhile_cons_of_neg (by simp [stops.blank])
  | cons c t ih =>
    rw [List.cons_append, List.dropWhile_cons, List.dropWhile_cons, ih]
    split <;> rfl

theorem afterBlanks?_append_stop :
    afterBlanks? (t ++ stop :: rest) = (afterBlanks? t).map (· ++ stop :: rest) := by
  cases t with
  | nil => simp [afterBlanks?, stops.blank]
  | cons c t =>
    have trimmed := trimStart_append_stop stops (c :: t) rest
    rw [List.cons_append] at trimmed
    rw [List.cons_append, afterBlanks?, afterBlanks?, trimmed]
    split <;> rfl

theorem afterSetterMark_append_stop :
    afterSetterMark (t ++ stop :: rest) = afterSetterMark t ++ stop :: rest := by
  unfold afterSetterMark
  rw [after?_append_stop stops.mark]
  cases after? "(set)".toList t <;> rfl

theorem afterModifier?_append_stop :
    afterModifier? (t ++ stop :: rest) = (afterModifier? t).map (· ++ stop :: rest) := by
  unfold afterModifier?
  apply findSome?_eq_map
  intro word member
  rw [after?_append_stop (stops.not_mem_word (oneWord_of_mem_modifierWords word member))]
  cases after? word t with
  | none => rfl
  | some u =>
    rw [Option.map_some, Option.bind_some, Option.bind_some, afterSetterMark_append_stop stops,
      afterBlanks?_append_stop stops]

theorem afterModifiers_append_stop :
    afterModifiers (t ++ stop :: rest) = afterModifiers t ++ stop :: rest := by
  have step := afterModifier?_append_stop stops
  induction t using afterModifiers.induct with
  | case1 t u found _ ih =>
    have found' := step t rest
    rw [found, Option.map_some] at found'
    rw [afterModifiers_of_some found', afterModifiers_of_some found, ih]
  | case2 t none =>
    have none' := step t rest
    rw [none, Option.map_none] at none'
    rw [afterModifiers_of_none none', afterModifiers_of_none none]

theorem word?_append_stop :
    word? (t ++ stop :: rest) = (word? t).map fun p => p.extend (stop :: rest) := by
  have taken : (t ++ stop :: rest).takeWhile isWord = t.takeWhile isWord := by
    induction t with
    | nil => exact List.takeWhile_cons_of_neg (by simp [stops.word])
    | cons c t ih =>
      rw [List.cons_append, List.takeWhile_cons, List.takeWhile_cons, ih]
  have dropped : (t ++ stop :: rest).dropWhile isWord = t.dropWhile isWord ++ stop :: rest := by
    clear taken
    induction t with
    | nil => exact List.dropWhile_cons_of_neg (by simp [stops.word])
    | cons c t ih =>
      rw [List.cons_append, List.dropWhile_cons, List.dropWhile_cons, ih]
      split <;> rfl
  unfold word?
  rw [taken, dropped]
  cases t.takeWhile isWord <;> rfl

theorem named?_append_stop {keywords : List Text} (words : ∀ word ∈ keywords, OneWord word) :
    named? keywords (t ++ stop :: rest) =
      (named? keywords t).map fun form => form.extend (stop :: rest) := by
  unfold named?
  apply findSome?_eq_map
  intro keyword member
  rw [after?_append_stop (stops.not_mem_word (words keyword member))]
  cases after? keyword t with
  | none => rfl
  | some u =>
    rw [Option.map_some, Option.bind_some, Option.bind_some, afterBlanks?_append_stop stops]
    cases afterBlanks? u with
    | none => rfl
    | some v =>
      rw [Option.map_some, Option.bind_some, Option.bind_some, word?_append_stop stops]
      cases word? v <;> rfl

end Reading

/- Whatever is read as modifiers ends with a blank. -/
section Modifiers

variable {t rest : Text}

theorem afterBlanks?_cut (found : afterBlanks? t = some rest) :
    ∃ blanks, t = blanks ++ rest ∧ blanks ≠ [] ∧ ∀ c ∈ blanks, isBlank c = true := by
  obtain ⟨blanks, cut, all⟩ := trimStart_cut t
  unfold afterBlanks? at found
  split at found
  · rename_i c u
    split at found
    · rename_i blank
      cases Option.some.inj found
      refine ⟨blanks, cut, ?_, all⟩
      rintro rfl
      rw [List.nil_append] at cut
      have solid := isBlank_head?_trimStart (c :: u) c (by rw [← cut]; rfl)
      simp [blank] at solid
    · cases found
  · cases found

theorem afterSetterMark_cut (t : Text) :
    ∃ mark, t = mark ++ afterSetterMark t ∧ ∀ c ∈ mark.head?, isWord c = false := by
  unfold afterSetterMark
  cases found : after? "(set)".toList t with
  | none => exact ⟨[], rfl, by simp⟩
  | some rest =>
    have outside : isWord '(' = false := by decide
    exact ⟨_, after?_eq_some.mp found, by simpa using outside⟩

theorem afterModifier?_cut (found : afterModifier? t = some rest) :
    ∃ read, t = read ++ rest ∧ ∃ c, read.getLast? = some c ∧ isBlank c = true := by
  obtain ⟨word, -, found⟩ := List.exists_of_findSome?_eq_some found
  obtain ⟨u, begins, found⟩ := Option.bind_eq_some_iff.mp found
  obtain ⟨mark, mark_cut, -⟩ := afterSetterMark_cut u
  obtain ⟨blanks, blanks_cut, nonempty, all⟩ := afterBlanks?_cut found
  refine ⟨word ++ mark ++ blanks, ?_, blanks.getLast nonempty, ?_, all _ (List.getLast_mem _)⟩
  · rw [after?_eq_some.mp begins, mark_cut, blanks_cut]
    simp
  · rw [List.getLast?_append, List.getLast?_eq_some_getLast nonempty, Option.some_or]

theorem afterModifiers_cut (t : Text) :
    ∃ read, t = read ++ afterModifiers t ∧ ∀ c ∈ read.getLast?, isBlank c = true := by
  induction t using afterModifiers.induct with
  | case1 t u found _ ih =>
    obtain ⟨first, cut, c, last, blank⟩ := afterModifier?_cut found
    obtain ⟨read, later_cut, all⟩ := ih
    rw [afterModifiers_of_some found]
    refine ⟨first ++ read, by rw [List.append_assoc, ← later_cut, cut], ?_⟩
    intro d member
    rw [List.getLast?_append, last] at member
    cases later : read.getLast? with
    | none =>
      rw [later] at member
      cases Option.some.inj member
      exact blank
    | some e =>
      rw [later] at member
      cases Option.some.inj member
      exact all d later
  | case2 t none =>
    rw [afterModifiers_of_none none]
    exact ⟨[], rfl, by simp⟩

end Modifiers
end ReferencePage
