import ReferencePage.Source.Bracket
import ReferencePage.Source.Form

/-! What follows the name of a method: a generic clause, the parameters in parentheses, effects and
a return type. -/
namespace ReferencePage

open Text

/-- The pieces of one parameter where they stand: a label for the caller, the name used inside, and
the type, which goes on to the end. -/
structure ParameterForm where
  external : Option Passage
  internal : Passage
  type : Passage

/-- All that follows a colon and its blanks.  Where only blanks follow, the last one stands for the
type. -/
def afterColon? (t : Text) : Option Passage :=
  match trimStart t with
  | [] => t.getLast?.map fun blank => ⟨[blank], []⟩
  | type => some ⟨type, []⟩

def labelledType? (external : Option Passage) (t : Text) : Option ParameterForm :=
  (word? t).bind fun name =>
    (after? [':'] (trimStart name.rest)).bind fun rest =>
      (afterColon? rest).map fun type => ⟨external, name, type⟩

def ParameterForm.at? (t : Text) : Option ParameterForm :=
  let twoNames :=
    (word? t).bind fun label =>
      (afterBlanks? label.rest).bind fun rest => labelledType? (some label) rest
  twoNames.orElse fun _ => labelledType? none t

structure Parameter where
  name : Text
  type : Text
  deriving DecidableEq, Repr

def ParameterForm.parameter (p : ParameterForm) : Parameter where
  name := (p.external.elim [] fun label => label.text ++ [' ']) ++ p.internal.text
  type := collapse p.type.text

def Parameter.ofSegment? (segment : Text) : Option Parameter :=
  (ParameterForm.at? segment).map ParameterForm.parameter

/-- The parameters that a text lists.  A segment without a parameter's form is dropped alone. -/
def Parameter.listed (t : Text) : List Parameter := (segments t).filterMap ofSegment?

def Parameter.dropped (t : Text) : List Text :=
  (segments t).filter fun segment => (ofSegment? segment).isNone

def effectWords : List Text := ["async".toList, "rethrows".toList, "throws".toList]

def afterEffect? (t : Text) : Option Text :=
  effectWords.findSome? fun word =>
    (after? word (trimStart t)).filter fun rest => !rest.head?.any isWord

theorem length_afterEffect? {t rest : Text} (found : afterEffect? t = some rest) :
    rest.length < t.length := by
  obtain ⟨word, member, found⟩ := List.exists_of_findSome?_eq_some found
  have shorter := length_after? (Option.filter_eq_some_iff.mp found).1
  have trimmed := length_trimStart_le t
  have nonempty : 0 < word.length := by
    simp only [effectWords, List.mem_cons, List.not_mem_nil, or_false] at member
    rcases member with rfl | rfl | rfl <;> decide
  omega

def afterEffects (t : Text) : Text :=
  match found : afterEffect? t with
  | some rest =>
    have := length_afterEffect? found
    afterEffects rest
  | none => t
termination_by t.length

def endsReturnType (c : Char) : Bool := c == '\x7b'

def returnForm? (t : Text) : Option Passage :=
  (after? "->".toList (trimStart (afterEffects t))).bind (lineUpTo endsReturnType)

def returnPassage (t : Text) : Passage :=
  .between t ((returnForm? t).elim (afterEffects t) Passage.rest)

def returnType? (t : Text) : Option Text :=
  ((returnForm? t).map fun p => trim p.text).filter (· ≠ [])

/-- What follows a generic clause, or the text itself where there is none. -/
def afterGenerics? (t : Text) : Option Text :=
  match trimStart t with
  | '<' :: u => (closing? '<' '>' 0 none u).map fun p => trimStart p.rest
  | u => some u

/-- The text between parentheses.  Where nothing balances the first one, it ends at the first that
closes. -/
def parameterText? : Text → Option Passage
  | '(' :: t => (closing? '(' ')' 0 none t).orElse fun _ => upToFirst? ')' t
  | _ => none

structure Signature where
  parameters : Text
  returnType : Option Text

def Signature.at? (t : Text) : Option Signature :=
  (afterGenerics? t).bind fun u =>
    (parameterText? u).map fun p => ⟨p.text, returnType? p.rest⟩

end ReferencePage
