import ReferencePage.Toml.Moment
import ReferencePage.Toml.Number
import ReferencePage.Toml.Table

/-! The grammar of TOML.  A source is read into statements, and values inside values are read to a
bounded depth. -/
namespace ReferencePage.Toml

open Text

/- Keys with so many parts, and values inside so many arrays and braces, are refused. -/
def depthLimit : Nat := 80

def isBareKeyChar (c : Char) : Bool :=
  ('a' ≤ c && c ≤ 'z') || ('A' ≤ c && c ≤ 'Z') || isDigit c || c == '-' || c == '_'

def key? (t : Text) : Option (Key × Text) :=
  match shortString? t with
  | some (name, rest) => some (⟨name, .between t rest⟩, rest)
  | none =>
    match t.takeWhile isBareKeyChar with
    | [] => none
    | name => some (⟨name, .between t (t.dropWhile isBareKeyChar)⟩, t.dropWhile isBareKeyChar)

/- The parts of a dotted key, with spaces around each; at most `bound` of them. -/
def keysWithin? : (bound : Nat) → Text → Option (List Key × Text)
  | 0, _ => none
  | bound + 1, t =>
    (key? (afterSpaces t)).bind fun (key, rest) =>
      match afterSpaces rest with
      | '.' :: rest => (keysWithin? bound rest).map fun (keys, rest) => (key :: keys, rest)
      | rest => some ([key], rest)

def keys? (t : Text) : Option (List Key × Text) := keysWithin? (depthLimit - 1) t

abbrev ValueReader := Text → Option (Value × Text)

/- The rest of an array behind its bracket or a comma.  Each item takes a character at least, so
`bound` can be the length of the text. -/
def items? (value? : ValueReader) : (bound : Nat) → Text → Option (List Value × Text)
  | 0, _ => none
  | bound + 1, t =>
    (afterGap? false t).bind fun t =>
      match t with
      | ']' :: rest => some ([], rest)
      | _ =>
        (value? t).bind fun (item, rest) =>
          (afterGap? false rest).bind fun rest =>
            match rest with
            | ']' :: rest => some ([item], rest)
            | ',' :: rest =>
              (items? value? bound rest).map fun (items, rest) => (item :: items, rest)
            | _ => none

def pair? (value? : ValueReader) (t : Text) : Option (List Key × Item × Text) :=
  (keys? t).bind fun (keys, rest) =>
    (after? ['='] rest).bind fun rest =>
      let start := afterSpaces rest
      (value? start).map fun (value, rest) => (keys, .value value (.between start rest), rest)

/- The rest of an inline table, which holds the pairs read so far.  No comma stands before its
brace. -/
def fields? (value? : ValueReader) : (bound : Nat) → Table → Text → Option (Table × Text)
  | 0, _, _ => none
  | bound + 1, table, t =>
    (pair? value? t).bind fun (keys, item, rest) =>
      (table.assign keys item).bind fun table =>
        match afterSpaces rest with
        | '\x7d' :: rest => some (table, rest)
        | ',' :: rest => fields? value? bound table rest
        | _ => none

def braced? (value? : ValueReader) (t : Text) : Option (Table × Text) :=
  match afterSpaces t with
  | '\x7d' :: rest => some (.empty .own, rest)
  | _ => fields? value? t.length (.empty .own) t

def number? (t : Text) : Option (Value × Text) :=
  ((afterMoment? t).map fun rest => (Value.moment, rest)).orElse fun _ =>
    ((float? t).map fun (number, rest) => (Value.float number, rest)).orElse fun _ =>
      (integer? t).map fun (number, rest) => (Value.integer number, rest)

def word? (t : Text) : Option (Value × Text) :=
  ((after? "true".toList t).map fun rest => (Value.boolean true, rest)).orElse fun _ =>
    (after? "false".toList t).map fun rest => (Value.boolean false, rest)

def value? : (depth : Nat) → ValueReader
  | 0, '[' :: _ => none
  | 0, '\x7b' :: _ => none
  | depth + 1, '[' :: t =>
    (items? (value? depth) (t.length + 1) t).map fun (items, rest) => (.array items, rest)
  | depth + 1, '\x7b' :: t =>
    (braced? (value? depth) t).map fun (table, rest) => (.table table, rest)
  | _, t =>
    ((string? t).map fun (text, rest) => (Value.string text, rest)).orElse fun _ =>
      (word? t).orElse fun _ => number? t

inductive Statement where
  | assignment (keys : List Key) (item : Item)
  | header (keys : List Key) (passage : Passage)
  | repeated (keys : List Key) (passage : Passage)

def headerBetween? (opening closing : Text) (t : Text) : Option (List Key × Text) :=
  (after? opening t).bind fun rest =>
    (keys? rest).bind fun (keys, rest) => (after? closing rest).map fun rest => (keys, rest)

def statement? (t : Text) : Option (Statement × Text) :=
  if (after? "[[".toList t).isSome then
    (headerBetween? "[[".toList "]]".toList t).map fun (keys, rest) =>
      (.repeated keys (.between t rest), rest)
  else if (after? "[".toList t).isSome then
    (headerBetween? "[".toList "]".toList t).map fun (keys, rest) =>
      (.header keys (.between t rest), rest)
  else
    (pair? (value? (depthLimit - 1)) t).map fun (keys, item, rest) =>
      (.assignment keys item, rest)

/- Every line takes a character at least. -/
def statementsWithin? : (bound : Nat) → Text → Option (List Statement)
  | 0, _ => none
  | bound + 1, t =>
    match afterSpaces t with
    | [] => some []
    | '#' :: t => (afterLine? ('#' :: t)).bind (statementsWithin? bound)
    | '\n' :: t => statementsWithin? bound t
    | '\r' :: '\n' :: t => statementsWithin? bound t
    | t =>
      (statement? t).bind fun (statement, rest) =>
        (afterLine? rest).bind fun rest =>
          (statementsWithin? bound rest).map (statement :: ·)

def statements? (source : Text) : Option (List Statement) :=
  statementsWithin? (source.length + 1) ((after? ['\ufeff'] source).getD source)

end ReferencePage.Toml
