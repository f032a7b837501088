import ReferencePage.Toml.Blank

/-! The four kinds of strings in TOML: in double quotes, where a backslash begins an escape, or in
single quotes, where everything stands for itself; on one line, or on many between three quotes. -/
namespace ReferencePage.Toml

open Text

def hexValue? (c : Char) : Option Nat :=
  if '0' ≤ c && c ≤ '9' then some (c.toNat - '0'.toNat)
  else if 'a' ≤ c && c ≤ 'f' then some (c.toNat - 'a'.toNat + 10)
  else if 'A' ≤ c && c ≤ 'F' then some (c.toNat - 'A'.toNat + 10)
  else none

def hexNumber? (t : Text) : Option Nat :=
  t.foldl (fun n? c => n?.bind fun n => (hexValue? c).map fun d => 16 * n + d) (some 0)

def scalar? (t : Text) : Option Char :=
  (hexNumber? t).bind fun n => if n.isValidChar then some (Char.ofNat n) else none

def escaped? : Char → Option Char
  | 'b' => some '\x08'
  | 't' => some '\t'
  | 'n' => some '\n'
  | 'f' => some '\x0c'
  | 'r' => some '\r'
  | '"' => some '"'
  | '\\' => some '\\'
  | _ => none

def escape? : Text → Option (Char × Text)
  | [] => none
  | 'u' :: a :: b :: c :: d :: t => (scalar? [a, b, c, d]).map fun x => (x, t)
  | 'U' :: a :: b :: c :: d :: e :: f :: g :: h :: t =>
    (scalar? [a, b, c, d, e, f, g, h]).map fun x => (x, t)
  | c :: t => (escaped? c).map fun x => (x, t)

theorem length_escape? {t rest : Text} {c : Char} (found : escape? t = some (c, rest)) :
    rest.length < t.length := by
  unfold escape? at found
  split at found
  · contradiction
  all_goals
    obtain ⟨_, _, same⟩ := Option.map_eq_some_iff.mp found
    cases same
    simp only [List.length_cons]
    omega

def grow (c : Char) (string : Text × Text) : Text × Text := (c :: string.1, string.2)

def basic? (t : Text) : Option (Text × Text) :=
  match t with
  | [] => none
  | '"' :: t => some ([], t)
  | '\\' :: u =>
    match found : escape? u with
    | none => none
    | some (c, rest) =>
      have := length_escape? found
      (basic? rest).map (grow c)
  | c :: u => if isPlain c then (basic? u).map (grow c) else none
termination_by t.length

def literal? : Text → Option (Text × Text)
  | [] => none
  | '\'' :: t => some ([], t)
  | c :: t => if isPlain c then (literal? t).map (grow c) else none

/- Behind three closing quotes, up to two more belong to the content. -/
def closingQuotes (quote : Char) : Text → Text × Text
  | [] => ([], [])
  | [c] => if c = quote then ([quote], []) else ([], [c])
  | c :: d :: t =>
    if c = quote then if d = quote then ([quote, quote], t) else ([quote], d :: t)
    else ([], c :: d :: t)

/-- A backslash at the end of a line joins it to the next text. -/
def joinsLines (t : Text) : Bool := (afterNewline? (afterSpaces t)).isSome

/- The rest of a string between three double quotes.  `joining` holds behind a backslash that joins
lines, until anything but spaces and newlines comes. -/
def longBasic? (joining : Bool) (t : Text) : Option (Text × Text) :=
  match t with
  | [] => none
  | '"' :: '"' :: '"' :: u => some (closingQuotes '"' u)
  | '\n' :: u => if joining then longBasic? true u else (longBasic? false u).map (grow '\n')
  | '\r' :: '\n' :: u => if joining then longBasic? true u else (longBasic? false u).map (grow '\n')
  | '\\' :: u =>
    if joinsLines u then longBasic? true u
    else
      match found : escape? u with
      | none => none
      | some (c, rest) =>
        have := length_escape? found
        (longBasic? false rest).map (grow c)
  | c :: u =>
    if joining && isSpace c then longBasic? true u
    else if isPlain c then (longBasic? false u).map (grow c)
    else none
termination_by t.length

def longLiteral? : Text → Option (Text × Text)
  | [] => none
  | '\'' :: '\'' :: '\'' :: t => some (closingQuotes '\'' t)
  | '\r' :: '\n' :: t => (longLiteral? t).map (grow '\n')
  | c :: t => if c = '\n' || isPlain c then (longLiteral? t).map (grow c) else none

/-- A newline directly behind the opening quotes is no part of the content. -/
def withoutFirstNewline (t : Text) : Text := (afterNewline? t).getD t

def shortString? : Text → Option (Text × Text)
  | '"' :: t => basic? t
  | '\'' :: t => literal? t
  | _ => none

def string? : Text → Option (Text × Text)
  | '"' :: '"' :: '"' :: t => longBasic? false (withoutFirstNewline t)
  | '\'' :: '\'' :: '\'' :: t => longLiteral? (withoutFirstNewline t)
  | t => shortString? t

end ReferencePage.Toml
