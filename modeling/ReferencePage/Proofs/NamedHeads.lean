import ReferencePage.Proofs.Stops
import ReferencePage.Proofs.Words

/-! Heads and modifiers as they are written: a keyword, blanks and a name, and in front of them
words that each have blanks behind them.  The readers take such texts apart and find them again. -/
namespace ReferencePage

open Text

theorem findSome?_eq_some_of_unique {α β : Type} {f : α → Option β} {l : List α} {a : α} {b : β}
    (member : a ∈ l) (found : f a = some b) (unique : ∀ a' ∈ l, ∀ b', f a' = some b' → b' = b) :
    l.findSome? f = some b := by
  cases first : l.findSome? f with
  | none =>
    rw [List.findSome?_eq_none_iff.mp first a member] at found
    contradiction
  | some b' =>
    obtain ⟨a', known, found'⟩ := List.exists_of_findSome?_eq_some first
    rw [unique a' known b' found']

/-- What is read in front of the rest is not empty. -/
def Advances (t rest : Text) : Prop := ∃ read, read ≠ [] ∧ t = read ++ rest

theorem Advances.suffix {t u rest : Text} (advances : Advances t u) (behind : rest <:+ u) :
    Advances t rest := by
  obtain ⟨read, nonempty, rfl⟩ := advances
  obtain ⟨more, rfl⟩ := behind
  exact ⟨read ++ more, by simp [nonempty], by simp⟩

theorem Advances.length_lt {t rest : Text} (advances : Advances t rest) :
    rest.length < t.length := by
  obtain ⟨read, nonempty, rfl⟩ := advances
  have := List.length_pos_iff.mpr nonempty
  rw [List.length_append]
  omega

theorem Advances.of_suffix {t u rest : Text} (behind : u <:+ t) (advances : Advances u rest) :
    Advances t rest := by
  obtain ⟨read, nonempty, rfl⟩ := advances
  obtain ⟨more, rfl⟩ := behind
  exact ⟨more ++ read, by simp [nonempty], by simp⟩

section Words

variable {w v s t rest : Text}

theorem oneWord_append_inj (first : OneWord w) (second : OneWord v)
    (ends : ∀ c ∈ s.head?, isWord c = false) (ends' : ∀ c ∈ t.head?, isWord c = false)
    (same : w ++ s = v ++ t) : w = v ∧ s = t := by
  have read := word?_append first ends
  rw [same, word?_append second ends'] at read
  cases Option.some.inj read
  exact ⟨rfl, rfl⟩

theorem isWord_head?_of_word? {p : Passage} (found : word? t = some p) :
    ∀ c ∈ p.rest.head?, isWord c = false := by
  unfold word? at found
  split at found
  · contradiction
  · cases Option.some.inj found
    intro c first
    have stops := List.head?_dropWhile_not isWord t
    rw [Option.mem_def.mp first] at stops
    exact stops

theorem isWord_head?_of_blanks {blanks : Text} (nonempty : blanks ≠ [])
    (blank : ∀ c ∈ blanks, isBlank c = true) (t : Text) :
    ∀ c ∈ (blanks ++ t).head?, isWord c = false := by
  obtain ⟨d, blanks, rfl⟩ := List.exists_cons_of_ne_nil nonempty
  rintro c ⟨⟩
  exact isWord_of_isBlank (blank d List.mem_cons_self)

theorem isBlank_head?_of_oneWord (one : OneWord w) (t : Text) :
    ∀ c ∈ (w ++ t).head?, isBlank c = false := by
  intro c first
  obtain ⟨d, read, word⟩ := one.exists_head? t
  rw [read] at first
  cases first
  exact isBlank_of_isWord word

theorem afterBlanks?_append {blanks : Text} (nonempty : blanks ≠ [])
    (blank : ∀ c ∈ blanks, isBlank c = true) (first : ∀ c ∈ t.head?, isBlank c = false) :
    afterBlanks? (blanks ++ t) = some t := by
  have trimmed := trimStart_blanks_append blank first
  obtain ⟨c, blanks, rfl⟩ := List.exists_cons_of_ne_nil nonempty
  rw [List.cons_append] at trimmed ⊢
  rw [afterBlanks?, if_pos (blank c List.mem_cons_self), trimmed]

theorem isWord_head?_of_afterBlanks? (found : afterBlanks? t = some rest) :
    ∀ c ∈ t.head?, isWord c = false := by
  obtain ⟨blanks, rfl, nonempty, blank⟩ := afterBlanks?_cut found
  exact isWord_head?_of_blanks nonempty blank rest

theorem isWord_head?_of_afterSetterMark (found : afterBlanks? (afterSetterMark t) = some rest) :
    ∀ c ∈ t.head?, isWord c = false := by
  obtain ⟨mark, cut, outside⟩ := afterSetterMark_cut t
  cases mark with
  | nil =>
    rw [List.nil_append] at cut
    exact cut ▸ isWord_head?_of_afterBlanks? found
  | cons d mark =>
    rw [cut]
    exact outside

theorem wordMayStart_append {s blanks : Text} (starts : wordMayStart s.getLast? = true)
    (last : ∀ c ∈ blanks.getLast?, isBlank c = true) :
    wordMayStart (s ++ blanks).getLast? = true := by
  cases ends : blanks.getLast? with
  | none => rwa [List.getLast?_eq_none_iff.mp ends, List.append_nil]
  | some c =>
    rw [List.getLast?_append, ends, Option.some_or, wordMayStart, Option.any_some,
      isWord_of_isBlank (last c ends)]
    rfl

end Words

/-- A modifier with the blanks behind it, and perhaps with the mark of one for the setter. -/
structure Modifier where
  word : Text
  mark : Text
  blanks : Text
  known : word ∈ modifierWords
  marked : mark = [] ∨ mark = "(set)".toList
  nonempty : blanks ≠ []
  blank : ∀ c ∈ blanks, isBlank c = true

namespace Modifier

def text (m : Modifier) : Text := m.word ++ (m.mark ++ m.blanks)

variable (m : Modifier) {t rest : Text}

theorem oneWord : OneWord m.word := oneWord_of_mem_modifierWords m.word m.known

theorem isWord_head?_mark (t : Text) :
    ∀ c ∈ (m.mark ++ (m.blanks ++ t)).head?, isWord c = false := by
  rcases m.marked with none | marked
  · rw [none]
    exact isWord_head?_of_blanks m.nonempty m.blank t
  · have outside : isWord '(' = false := by decide
    rw [marked]
    simpa using outside

theorem isBlank_head?_text (t : Text) : ∀ c ∈ (m.text ++ t).head?, isBlank c = false := by
  rw [text, List.append_assoc]
  exact isBlank_head?_of_oneWord m.oneWord _

theorem afterSetterMark_mark (t : Text) :
    afterSetterMark (m.mark ++ (m.blanks ++ t)) = m.blanks ++ t := by
  rcases m.marked with none | marked
  · obtain ⟨d, blanks, cut⟩ := List.exists_cons_of_ne_nil m.nonempty
    have blank : isBlank d = true := m.blank d (cut ▸ List.mem_cons_self)
    have other : '(' ≠ d := by
      rintro rfl
      contradiction
    rw [none, cut, List.nil_append, afterSetterMark]
    simp [after?_cons, other]
  · rw [marked, afterSetterMark, after?_eq_some.mpr rfl, Option.getD_some]

theorem afterModifier?_text (first : ∀ c ∈ t.head?, isBlank c = false) :
    afterModifier? (m.text ++ t) = some t := by
  have cut : m.text ++ t = m.word ++ (m.mark ++ (m.blanks ++ t)) := by simp [text]
  rw [cut]
  refine findSome?_eq_some_of_unique m.known ?found ?unique
  case found =>
    rw [after?_eq_some.mpr rfl, Option.bind_some, afterSetterMark_mark,
      afterBlanks?_append m.nonempty m.blank first]
  case unique =>
    -- Another word that succeeds is the maximal word at the start too.
    intro word known rest found
    obtain ⟨u, begins, found⟩ := Option.bind_eq_some_iff.mp found
    obtain ⟨-, rfl⟩ := oneWord_append_inj m.oneWord (oneWord_of_mem_modifierWords word known)
      (m.isWord_head?_mark t) (isWord_head?_of_afterSetterMark found) (after?_eq_some.mp begins)
    rw [afterSetterMark_mark, afterBlanks?_append m.nonempty m.blank first] at found
    exact (Option.some.inj found).symm

variable (t)

theorem exists_mark (t : Text) : ∃ mark, t = mark ++ afterSetterMark t ∧
    (mark = [] ∨ mark = "(set)".toList) := by
  unfold afterSetterMark
  cases found : after? "(set)".toList t with
  | none => exact ⟨[], rfl, .inl rfl⟩
  | some rest => exact ⟨_, after?_eq_some.mp found, .inr rfl⟩

variable {t}

theorem exists_of_afterModifier? (found : afterModifier? t = some rest) :
    ∃ m : Modifier, t = m.text ++ rest := by
  obtain ⟨word, known, found⟩ := List.exists_of_findSome?_eq_some found
  obtain ⟨u, begins, found⟩ := Option.bind_eq_some_iff.mp found
  obtain ⟨mark, mark_cut, marked⟩ := exists_mark u
  obtain ⟨blanks, blanks_cut, nonempty, blank⟩ := afterBlanks?_cut found
  refine ⟨⟨word, mark, blanks, known, marked, nonempty, blank⟩, ?_⟩
  rw [after?_eq_some.mp begins, mark_cut, blanks_cut]
  simp [text]

def texts (ms : List Modifier) : Text := ms.flatMap text

theorem afterModifiers_texts (ms : List Modifier) (none : afterModifier? t = none)
    (first : ∀ c ∈ t.head?, isBlank c = false) : afterModifiers (texts ms ++ t) = t := by
  induction ms with
  | nil => exact afterModifiers_of_none none
  | cons m ms ih =>
    have behind : ∀ c ∈ (texts ms ++ t).head?, isBlank c = false := by
      cases ms with
      | nil => exact first
      | cons m' ms =>
        rw [texts, List.flatMap_cons, List.append_assoc]
        exact m'.isBlank_head?_text _
    rw [texts, List.flatMap_cons, List.append_assoc]
    exact (afterModifiers_of_some (m.afterModifier?_text behind)).trans ih

theorem exists_texts (t : Text) : ∃ ms, t = texts ms ++ afterModifiers t := by
  induction t using afterModifiers.induct with
  | case1 t rest found _ ih =>
    obtain ⟨m, cut⟩ := exists_of_afterModifier? found
    obtain ⟨ms, further⟩ := ih
    refine ⟨m :: ms, ?_⟩
    rw [afterModifiers_of_some found, texts, List.flatMap_cons, List.append_assoc]
    exact cut.trans (congrArg (m.text ++ ·) further)
  | case2 t none =>
    rw [afterModifiers_of_none none]
    exact ⟨[], rfl⟩

end Modifier

/-- A keyword, blanks and a name. -/
structure NamedHead (keywords : List Text) where
  keyword : Text
  blanks : Text
  name : Text
  known : keyword ∈ keywords
  nonempty : blanks ≠ []
  blank : ∀ c ∈ blanks, isBlank c = true
  word : OneWord name

namespace NamedHead

variable {keywords : List Text}

def text (head : NamedHead keywords) : Text := head.keyword ++ (head.blanks ++ head.name)

/-- The form that is read, with `after` behind the name. -/
def form (head : NamedHead keywords) (after : Text) : Form :=
  ⟨⟨head.keyword, head.blanks ++ (head.name ++ after)⟩, ⟨head.name, after⟩, none, after⟩

theorem text_append (head : NamedHead keywords) (after : Text) :
    head.text ++ after = head.keyword ++ (head.blanks ++ (head.name ++ after)) := by
  simp [text]

theorem text_ne_nil (head : NamedHead keywords) : head.text ≠ [] := by
  simp [text, head.nonempty]

variable (words : ∀ word ∈ keywords, OneWord word)
include words

theorem word?_text (head : NamedHead keywords) (after : Text) :
    word? (head.text ++ after) = some ⟨head.keyword, head.blanks ++ (head.name ++ after)⟩ := by
  rw [text_append]
  exact word?_append (words _ head.known) (isWord_head?_of_blanks head.nonempty head.blank _)

theorem named?_text (head : NamedHead keywords) {after : Text}
    (ends : ∀ c ∈ after.head?, isWord c = false) :
    named? keywords (head.text ++ after) = some (head.form after) := by
  have behind := afterBlanks?_append head.nonempty head.blank
    (isBlank_head?_of_oneWord head.word after)
  rw [text_append]
  refine findSome?_eq_some_of_unique head.known ?found ?unique
  case found =>
    rw [after?_eq_some.mpr rfl, Option.bind_some, behind, Option.bind_some,
      word?_append head.word ends, Option.map_some]
    rfl
  case unique =>
    intro keyword known other found
    obtain ⟨u, begins, found⟩ := Option.bind_eq_some_iff.mp found
    obtain ⟨v, blanks, found⟩ := Option.bind_eq_some_iff.mp found
    obtain ⟨rfl, rfl⟩ := oneWord_append_inj (words _ head.known) (words keyword known)
      (isWord_head?_of_blanks head.nonempty head.blank _) (isWord_head?_of_afterBlanks? blanks)
      (after?_eq_some.mp begins)
    rw [behind] at blanks
    cases Option.some.inj blanks
    rw [word?_append head.word ends] at found
    exact (Option.some.inj found).symm

omit words in
theorem exists_of_named? {t : Text} {form : Form} (found : named? keywords t = some form) :
    ∃ head : NamedHead keywords, ∃ after, t = head.text ++ after ∧
      (∀ c ∈ after.head?, isWord c = false) ∧ form = head.form after := by
  obtain ⟨keyword, known, found⟩ := List.exists_of_findSome?_eq_some found
  obtain ⟨rest, begins, found⟩ := Option.bind_eq_some_iff.mp found
  obtain ⟨u, behind, found⟩ := Option.bind_eq_some_iff.mp found
  obtain ⟨name, read, rfl⟩ := Option.map_eq_some_iff.mp found
  obtain ⟨blanks, cut, nonempty, blank⟩ := afterBlanks?_cut behind
  obtain ⟨word, whole⟩ := oneWord_of_word? read
  have rest_cut : rest = blanks ++ (name.text ++ name.rest) := by
    rw [cut, ← whole, Passage.whole]
  refine ⟨⟨keyword, blanks, name.text, known, nonempty, blank, word⟩, name.rest, ?_,
    isWord_head?_of_word? read, ?_⟩
  · rw [text_append, ← rest_cut]
    exact after?_eq_some.mp begins
  · rw [rest_cut]
    rfl

/-- A head has no modifier in front of its keyword any more. -/
theorem afterModifier?_text (apart : ∀ word ∈ keywords, word ∉ modifierWords)
    (head : NamedHead keywords) (after : Text) : afterModifier? (head.text ++ after) = none := by
  rw [Option.eq_none_iff_forall_ne_some]
  intro rest found
  obtain ⟨m, cut⟩ := Modifier.exists_of_afterModifier? found
  have read := word?_text words head after
  rw [cut, Modifier.text, List.append_assoc, List.append_assoc,
    word?_append m.oneWord (m.isWord_head?_mark rest)] at read
  obtain ⟨same, -⟩ := Passage.mk.inj (Option.some.inj read)
  exact apart _ head.known (same ▸ m.known)

theorem isBlank_head?_text (head : NamedHead keywords) (after : Text) :
    ∀ c ∈ (head.text ++ after).head?, isBlank c = false := by
  rw [text_append]
  exact isBlank_head?_of_oneWord (words _ head.known) _

end NamedHead

theorem advances_of_named? {keywords : List Text} {t : Text} {form : Form}
    (found : named? keywords t = some form) : Advances t form.rest := by
  obtain ⟨head, after, cut, -, rfl⟩ := NamedHead.exists_of_named? found
  exact ⟨head.text, head.text_ne_nil, cut⟩

end ReferencePage
