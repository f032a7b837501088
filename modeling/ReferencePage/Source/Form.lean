import ReferencePage.Text.Scan
import ReferencePage.Text.Word
import ReferencePage.Source.Comment

/-! Forms are the pieces of source text that declare a name.  Each begins with a keyword; modifiers
may come before it, and a doc comment before those. -/
namespace ReferencePage

open Text

def modifierWords : List Text :=
  ["public".toList, "private".toList, "internal".toList, "fileprivate".toList, "open".toList,
    "final".toList, "static".toList, "override".toList, "lazy".toList, "weak".toList,
    "mutating".toList, "nonmutating".toList, "dynamic".toList, "required".toList,
    "convenience".toList]

def afterSetterMark (t : Text) : Text := (after? "(set)".toList t).getD t

def afterModifier? (t : Text) : Option Text :=
  modifierWords.findSome? fun word =>
    (after? word t).bind fun rest => afterBlanks? (afterSetterMark rest)

theorem length_after? {word t rest : Text} (found : after? word t = some rest) :
    t.length = word.length + rest.length := by
  simp [after?_eq_some.mp found]

theorem length_afterSetterMark_le (t : Text) : (afterSetterMark t).length ≤ t.length := by
  unfold afterSetterMark
  cases found : after? "(set)".toList t with
  | none => simp
  | some rest => simp [length_after? found]

theorem length_afterModifier? {t rest : Text} (found : afterModifier? t = some rest) :
    rest.length < t.length := by
  obtain ⟨word, _, found⟩ := List.exists_of_findSome?_eq_some found
  obtain ⟨u, word_found, blanks⟩ := Option.bind_eq_some_iff.mp found
  have shorter := length_afterBlanks? blanks
  have mark := length_afterSetterMark_le u
  have := length_after? word_found
  omega

def afterModifiers (t : Text) : Text :=
  match found : afterModifier? t with
  | some rest =>
    have := length_afterModifier? found
    afterModifiers rest
  | none => t
termination_by t.length

structure Form where
  keyword : Passage
  name : Passage
  type : Option Passage
  rest : Text

def named? (keywords : List Text) (t : Text) : Option Form :=
  keywords.findSome? fun keyword =>
    (after? keyword t).bind fun rest =>
      (afterBlanks? rest).bind fun u =>
        (word? u).map fun name => ⟨⟨keyword, rest⟩, name, none, name.rest⟩

/-- The text after a mark, up to a stop or to the end of its line.  Blanks in front of it are left
out; where nothing but blanks comes before the stop, the last of them that is no line feed
stands for the text. -/
def lineUpTo (isStop : Char → Bool) (t : Text) : Option Passage :=
  let u := trimStart t
  match u.takeWhile fun c => !isStop c && c != '\n' with
  | [] =>
    match ((t.takeWhile isBlank).reverse.dropWhile (· == '\n')) with
    | [] => none
    | blank :: before => some ⟨[blank], t.drop (before.length + 1)⟩
  | text => some ⟨text, u.drop text.length⟩

namespace Form

def declarationKeywords : List Text :=
  ["class".toList, "struct".toList, "enum".toList, "protocol".toList, "actor".toList]

def declaration? (t : Text) : Option Form := named? declarationKeywords t

def method? (t : Text) : Option Form := named? ["func".toList] t

/-- The type of a property ends at an accessor block, at an initial value, or with its line. -/
def endsType (c : Char) : Bool := c == '\x7b' || c == '='

def property? (t : Text) : Option Form :=
  (named? ["let".toList, "var".toList] t).bind fun form =>
    (after? [':'] (trimStart form.rest)).bind fun rest =>
      (lineUpTo endsType rest).map fun type =>
        { form with type := some type, rest := type.rest }

end Form

/-- A form where it stands in the source, with what stands in front of it. -/
structure Head extends Form where
  start : Text
  doc : Option Passage

namespace Head

def passage (h : Head) : Passage := .between h.start h.rest

def size (h : Head) : Nat := h.start.length - h.rest.length

def bare? (form? : Text → Option Form) : Recogniser Head := fun before t =>
  if wordMayStart before then (form? t).map fun form => ⟨form, t, none⟩ else none

/-- The form, or its first modifier. -/
def modified? (form? : Text → Option Form) : Recogniser Head := fun before t =>
  if wordMayStart before then (form? (afterModifiers t)).map fun form => ⟨form, t, none⟩ else none

/-- A doc comment, modifiers and the form.  The slash or the blanks before a modifier are no part of
a word. -/
def documented? (form? : Text → Option Form) : Recogniser Head := fun _ t =>
  (DocComment.at? t).bind fun comment =>
    (form? (afterModifiers comment.rest)).map fun form => ⟨form, t, some comment.body⟩

/-- With the doc comment where there is one. -/
def attached? (form? : Text → Option Form) : Recogniser Head := fun before t =>
  (documented? form? before t).orElse fun _ => modified? form? before t

section Readers

variable {form? : Text → Option Form} {before : Option Char} {t : Text} {head : Head}

theorem exists_form_of_bare? (found : bare? form? before t = some head) :
    ∃ form, form? t = some form ∧ head = ⟨form, t, none⟩ := by
  unfold bare? at found
  split at found
  · obtain ⟨form, read, rfl⟩ := Option.map_eq_some_iff.mp found
    exact ⟨form, read, rfl⟩
  · contradiction

theorem exists_form_of_modified? (found : modified? form? before t = some head) :
    wordMayStart before = true ∧
      ∃ form, form? (afterModifiers t) = some form ∧ head = ⟨form, t, none⟩ := by
  unfold modified? at found
  split at found
  · rename_i starts
    obtain ⟨form, read, rfl⟩ := Option.map_eq_some_iff.mp found
    exact ⟨starts, form, read, rfl⟩
  · contradiction

theorem documented_or_modified (found : attached? form? before t = some head) :
    documented? form? before t = some head ∨ modified? form? before t = some head := by
  rw [attached?, Option.orElse_eq_or] at found
  rcases Option.or_eq_some_iff.mp found with first | ⟨-, second⟩
  · exact .inl first
  · exact .inr second

end Readers

def declarations (source : Text) : List Head := scan (attached? Form.declaration?) size source

def documentedIn (form? : Text → Option Form) (source : Text) : List Head :=
  scan (documented? form?) size source

def bareIn (form? : Text → Option Form) (source : Text) : List Head :=
  scan (bare? form?) size source

end Head
end ReferencePage
