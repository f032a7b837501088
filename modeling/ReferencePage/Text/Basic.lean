/-! Text is a list of characters.  Places in it are counted in the bytes of its UTF-8 form, and a
passage of it is known by what it says and by what follows it. -/
namespace ReferencePage

abbrev Text := List Char

/-- A part of a text, with all that follows it there. -/
structure Passage where
  text : Text
  rest : Text
  deriving DecidableEq, Repr

namespace Text

def byteLength : Text → Nat
  | [] => 0
  | c :: t => c.utf8Size + byteLength t

theorem byteLength_append (s t : Text) :
    byteLength (s ++ t) = byteLength s + byteLength t := by
  induction s with
  | nil => simp [byteLength]
  | cons c s ih => simp [byteLength, ih, Nat.add_assoc]

def upTo (t rest : Text) : Text := t.take (t.length - rest.length)

theorem upTo_append (s rest : Text) : upTo (s ++ rest) rest = s := by
  simp [upTo]

/-- What follows a word, when the text starts with that word. -/
def after? (word t : Text) : Option Text := word.isPrefixOf? t

theorem after?_nil {c : Char} {word : Text} : after? (c :: word) [] = none := rfl

theorem after?_cons {a c : Char} {word t : Text} :
    after? (a :: word) (c :: t) = if a = c then after? word t else none := by
  have tested : after? (a :: word) (c :: t) = if a == c then after? word t else none := rfl
  simpa only [beq_iff_eq] using tested

theorem after?_eq_some {word t rest : Text} : after? word t = some rest ↔ t = word ++ rest := by
  induction word generalizing t with
  | nil => exact Option.some_inj
  | cons a word ih =>
    cases t with
    | nil => simp [after?_nil]
    | cons c t =>
      by_cases same : a = c
      · simp [after?_cons, same, ih]
      · simp [after?_cons, same, Ne.symm same]

def join (separator : Text) (parts : List Text) : Text := separator.intercalate parts

end Text

namespace Passage

def whole (p : Passage) : Text := p.text ++ p.rest

/-- The passage from `start` to the place where `rest` begins. -/
def between (start rest : Text) : Passage := ⟨start.upTo rest, rest⟩

/- Byte offsets in a source of which `whole` is a tail. -/
def startByte (source : Text) (p : Passage) : Nat := source.byteLength - p.whole.byteLength
def stopByte (source : Text) (p : Passage) : Nat := source.byteLength - p.rest.byteLength

def start (source : Text) (p : Passage) : Nat := source.length - p.whole.length
def stop (source : Text) (p : Passage) : Nat := source.length - p.rest.length

end Passage
end ReferencePage
