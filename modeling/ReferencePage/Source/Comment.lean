import ReferencePage.Text.Blank

/-! Doc comments.  One opens with a slash and two stars and ends with the first star and slash after
that; the stars that stand directly before its end are no part of what it says. -/
namespace ReferencePage

open Text

def upToClosing : Text → Option Passage
  | [] => none
  | '*' :: '/' :: t => some ⟨[], t⟩
  | c :: t => (upToClosing t).map fun p => ⟨c :: p.text, p.rest⟩

def dropTrailingStars (t : Text) : Text := (t.reverse.dropWhile (· == '*')).reverse

structure DocComment where
  body : Passage
  rest : Text

def DocComment.at? : Text → Option DocComment
  | '/' :: '*' :: '*' :: t =>
    (upToClosing t).map fun inner =>
      let body := dropTrailingStars inner.text
      ⟨⟨body, t.drop body.length⟩, trimStart inner.rest⟩
  | _ => none

/-- A line without its indentation, without one star that marks it as part of a comment, and without
the blanks around what remains. -/
def undecorated (line : Text) : Text :=
  match trimStart line with
  | '*' :: t => trim t
  | t => trim t

/-- What a comment says, on one line; none when it says nothing. -/
def plainText? (body : Text) : Option Text :=
  match ((lines body).map undecorated).filter (· ≠ []) with
  | [] => none
  | parts => some (join [' '] parts)

end ReferencePage
