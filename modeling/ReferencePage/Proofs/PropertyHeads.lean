import Mathlib.Data.List.Infix
import ReferencePage.Proofs.Gathered
import ReferencePage.Proofs.MarkedText
import ReferencePage.Proofs.NamedHeads
import ReferencePage.Proofs.ParameterLists

/-! The heads of forms, cut at their words.  A form begins with a keyword, blanks and a name; that
of a property goes on to a colon, behind which its type is looked for. -/
namespace ReferencePage

open Text

structure Form.Named (form : Form) (keywords : List Text) (t blanks : Text) : Prop where
  cut : t = form.keyword.text ++ (blanks ++ (form.name.text ++ form.rest))
  keyword : form.keyword.text ∈ keywords
  nonempty : blanks ≠ []
  blank : ∀ c ∈ blanks, isBlank c = true
  word : OneWord form.name.text
  untyped : form.type = none

theorem named_of_named? {keywords : List Text} {t : Text} {form : Form}
    (found : named? keywords t = some form) : ∃ blanks, form.Named keywords t blanks := by
  obtain ⟨head, after, rfl, -, rfl⟩ := NamedHead.exists_of_named? found
  exact ⟨head.blanks, head.text_append after, head.known, head.nonempty, head.blank, head.word, rfl⟩

theorem Form.property?_advances {t : Text} {form : Form} (found : property? t = some form) :
    Advances t form.rest := by
  obtain ⟨front, read, found⟩ := Option.bind_eq_some_iff.mp found
  obtain ⟨rest, colon, found⟩ := Option.bind_eq_some_iff.mp found
  obtain ⟨type, line, rfl⟩ := Option.map_eq_some_iff.mp found
  have behind : rest <:+ front.rest :=
    (after?_eq_some.mp colon ▸ List.suffix_append [':'] rest).trans (List.dropWhile_suffix isBlank)
  exact (advances_of_named? read).suffix ((suffix_lineUpTo line).trans behind)

namespace Form

def propertyKeywords : List Text := ["let".toList, "var".toList]

def behindColon? (t : Text) : Option Text :=
  (named? propertyKeywords t).bind fun form => after? [':'] (trimStart form.rest)

end Form

/-- The front of a property, from the keyword to the colon. -/
structure PropertyHead where
  keyword : Text
  blanks : Text
  name : Text
  gap : Text
  known : keyword ∈ Form.propertyKeywords
  nonempty : blanks ≠ []
  blank : ∀ c ∈ blanks, isBlank c = true
  word : OneWord name
  gapBlank : ∀ c ∈ gap, isBlank c = true

namespace PropertyHead

def text (head : PropertyHead) : Text :=
  head.keyword ++ (head.blanks ++ (head.name ++ (head.gap ++ [':'])))

theorem text_ne_nil (head : PropertyHead) : head.text ≠ [] := by
  simp [text]

theorem isWord_head?_gap (head : PropertyHead) (rest : Text) :
    ∀ c ∈ (head.gap ++ ':' :: rest).head?, isWord c = false := by
  cases gap : head.gap with
  | nil => simp [Parameter.isWord_colon]
  | cons d gap' =>
    rintro _ ⟨⟩
    exact isWord_of_isBlank (head.gapBlank d (gap ▸ List.mem_cons_self))

def front (head : PropertyHead) : NamedHead Form.propertyKeywords :=
  ⟨head.keyword, head.blanks, head.name, head.known, head.nonempty, head.blank, head.word⟩

theorem text_append (head : PropertyHead) (rest : Text) :
    head.text ++ rest = head.front.text ++ (head.gap ++ ':' :: rest) := by
  simp [text, front, NamedHead.text]

theorem named?_text (head : PropertyHead) (rest : Text) :
    named? Form.propertyKeywords (head.text ++ rest) =
      some ⟨⟨head.keyword, head.blanks ++ (head.name ++ (head.gap ++ ':' :: rest))⟩,
        ⟨head.name, head.gap ++ ':' :: rest⟩, none, head.gap ++ ':' :: rest⟩ := by
  rw [text_append, head.front.named?_text (by decide) (head.isWord_head?_gap rest)]
  rfl

end PropertyHead

theorem Form.behindColon?_eq_some {t rest : Text} :
    behindColon? t = some rest ↔ ∃ head : PropertyHead, t = head.text ++ rest := by
  constructor
  · intro found
    obtain ⟨form, read, colon⟩ := Option.bind_eq_some_iff.mp found
    obtain ⟨blanks, named⟩ := named_of_named? read
    obtain ⟨gap, gap_cut, gap_blank⟩ := trimStart_cut form.rest
    rw [after?_eq_some.mp colon] at gap_cut
    refine ⟨⟨form.keyword.text, blanks, form.name.text, gap, named.keyword, named.nonempty,
      named.blank, named.word, gap_blank⟩, named.cut.trans ?_⟩
    rw [gap_cut]
    simp [PropertyHead.text]
  · rintro ⟨head, rfl⟩
    have colon : trimStart (head.gap ++ ':' :: rest) = [':'] ++ rest :=
      trimStart_blanks_append head.gapBlank (by simp [Parameter.isBlank_colon])
    rw [behindColon?, head.named?_text, Option.bind_some, colon]
    exact after?_eq_some.mpr rfl

def PropertyHead.form (head : PropertyHead) (rest : Text) (type : Passage) : Form :=
  ⟨⟨head.keyword, head.blanks ++ (head.name ++ (head.gap ++ ':' :: rest))⟩,
    ⟨head.name, head.gap ++ ':' :: rest⟩, some type, type.rest⟩

theorem PropertyHead.property?_text (head : PropertyHead) (rest : Text) :
    Form.property? (head.text ++ rest) =
      (lineUpTo Form.endsType rest).map (head.form rest) := by
  have colon : trimStart (head.gap ++ ':' :: rest) = [':'] ++ rest :=
    trimStart_blanks_append head.gapBlank (by simp [Parameter.isBlank_colon])
  change (named? Form.propertyKeywords (head.text ++ rest)).bind _ = _
  rw [head.named?_text, Option.bind_some, colon, after?_eq_some.mpr rfl, Option.bind_some]
  rfl

theorem Form.property?_eq_some {t : Text} {form : Form} :
    property? t = some form ↔ ∃ (head : PropertyHead) (rest : Text) (type : Passage),
      t = head.text ++ rest ∧ lineUpTo endsType rest = some type ∧ form = head.form rest type := by
  constructor
  · intro found
    obtain ⟨front, read, onward⟩ := Option.bind_eq_some_iff.mp found
    obtain ⟨rest, colon, -⟩ := Option.bind_eq_some_iff.mp onward
    have behind : behindColon? t = some rest := Option.bind_eq_some_iff.mpr ⟨front, read, colon⟩
    obtain ⟨head, rfl⟩ := behindColon?_eq_some.mp behind
    rw [head.property?_text] at found
    obtain ⟨type, line, rfl⟩ := Option.map_eq_some_iff.mp found
    exact ⟨head, rest, type, rfl, line, rfl⟩
  · rintro ⟨head, rest, type, rfl, line, rfl⟩
    rw [head.property?_text, line, Option.map_some]

/-- Behind the colon a type follows: neither a block, nor a value, nor the end. -/
def TypeFollows (rest : Text) : Prop :=
  ∃ c, (trimStart rest).head? = some c ∧ c ≠ '\x7b' ∧ c ≠ '='

/-- The head stands in the source where a word may start, and `rest` follows its colon. -/
structure PropertyHead.StandsIn (head : PropertyHead) (source before rest : Text) : Prop where
  cut : source = before ++ (head.text ++ rest)
  starts : wordMayStart before.getLast? = true

/-- Behind the colon of every property a type follows. -/
def TypesFollow (source : Text) : Prop :=
  ∀ before (head : PropertyHead) rest, head.StandsIn source before rest → TypeFollows rest

theorem typesFollow_of_tails {source : Text} (each : ∀ t ∈ source.tails,
    (Form.behindColon? t).all fun rest =>
      (trimStart rest).head?.any fun c => c != '\x7b' && c != '=') : TypesFollow source := by
  intro before head rest stands
  have member : head.text ++ rest ∈ source.tails :=
    (List.mem_tails _ _).mpr (stands.cut ▸ List.suffix_append before _)
  have follows := each _ member
  rw [Form.behindColon?_eq_some.mpr ⟨head, rfl⟩, Option.all_some] at follows
  obtain ⟨c, first, other⟩ := (Option.any_eq_true _ _).mp follows
  exact ⟨c, first, by simpa using other⟩

theorem TypesFollow.endsType {source before t rest : Text} (follow : TypesFollow source)
    (cut : source = before ++ t) (starts : wordMayStart before.getLast? = true)
    (found : Form.behindColon? t = some rest) :
    ∃ c, (trimStart rest).head? = some c ∧ Form.endsType c = false := by
  obtain ⟨head, rfl⟩ := Form.behindColon?_eq_some.mp found
  obtain ⟨c, first, other⟩ := follow before head rest ⟨cut, starts⟩
  exact ⟨c, first, by simpa [Form.endsType] using other⟩

end ReferencePage
