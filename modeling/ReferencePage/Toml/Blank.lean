import ReferencePage.Text.Basic

/-! The blanks, line ends and comments of TOML.  A reader takes what it reads from the start of a
text and returns what follows. -/
namespace ReferencePage.Toml

open Text

def isSpace (c : Char) : Bool := c == ' ' || c == '\t'

def afterSpaces (t : Text) : Text := t.dropWhile isSpace

/-- Control characters other than the tab stand nowhere. -/
def isPlain (c : Char) : Bool := c == '\t' || (0x20 ≤ c.toNat && c.toNat ≠ 0x7F)

def afterNewline? : Text → Option Text
  | '\n' :: t => some t
  | '\r' :: '\n' :: t => some t
  | _ => none

def afterComment : Text → Text
  | '#' :: t => t.dropWhile isPlain
  | t => t

def afterLineEnd? : Text → Option Text
  | [] => some []
  | t => afterNewline? t

/-- What may stand behind a statement: spaces, a comment, and the end of the line. -/
def afterLine? (t : Text) : Option Text := afterLineEnd? (afterComment (afterSpaces t))

def afterGap? (inComment : Bool) : Text → Option Text
  | [] => if inComment then none else some []
  | '\n' :: t => afterGap? false t
  | '\r' :: '\n' :: t => afterGap? false t
  | c :: t =>
    if inComment then if isPlain c then afterGap? true t else none
    else if isSpace c then afterGap? false t
    else if c = '#' then afterGap? true t
    else some (c :: t)

end ReferencePage.Toml
