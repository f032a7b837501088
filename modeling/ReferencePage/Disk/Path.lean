import ReferencePage.Text.Basic

/-! Paths are texts cut at slashes.  A step stays where it is, goes up, or goes down to a name; the
parts of a path are its steps without those that stay, except one at its start. -/
namespace ReferencePage

inductive Step where
  | stay
  | up
  | down (name : Text)
  deriving DecidableEq, Repr

namespace Step

/-- Nothing stands between two slashes, and so nothing is a step there. -/
def ofSegment? (segment : Text) : Option Step :=
  if segment = [] then none
  else if segment = ['.'] then some .stay
  else if segment = ['.', '.'] then some .up
  else some (.down segment)

def text : Step → Text
  | .stay => ['.']
  | .up => ['.', '.']
  | .down name => name

def name? : Step → Option Text
  | .down name => some name
  | _ => none

end Step

structure Path where
  text : Text
  deriving DecidableEq, Repr

namespace Path

def isAbsolute (p : Path) : Bool := p.text.head? = some '/'

def endsWithSlash (p : Path) : Bool := p.text.getLast? = some '/'

def steps (p : Path) : List Step := (p.text.splitOn '/').filterMap Step.ofSegment?

def isStay : Step → Bool
  | .stay => true
  | _ => false

def parts (p : Path) : List Step :=
  let moves := p.steps.filter fun s => !isStay s
  if !p.isAbsolute && p.steps.head?.any isStay then .stay :: moves else moves

def ofParts (absolute : Bool) (parts : List Step) : Path :=
  ⟨(if absolute then ['/'] else []) ++ Text.join ['/'] (parts.map Step.text)⟩

def fileName? (p : Path) : Option Text := p.parts.getLast?.bind Step.name?

def parent? (p : Path) : Option Path :=
  if p.parts = [] then none else some (ofParts p.isAbsolute p.parts.dropLast)

/-- A path below `p`; an absolute one stays as it is. -/
def join (p q : Path) : Path :=
  if q.isAbsolute || p.text = [] then q
  else if p.endsWithSlash then ⟨p.text ++ q.text⟩
  else ⟨p.text ++ '/' :: q.text⟩

/-- The path with another last name; below the path, where its last part is no name. -/
def withFileName (p : Path) (name : Text) : Path :=
  match p.fileName?, p.parent? with
  | some _, some parent => parent.join ⟨name⟩
  | _, _ => p.join ⟨name⟩

/- The part of a name in front of its last dot, unless that is empty or there is no dot. -/
def stem (name : Text) : Text :=
  match name.reverse.dropWhile (· ≠ '.') with
  | [] => name
  | _ :: before => if before = [] then name else before.reverse

def fileStem? (p : Path) : Option Text := p.fileName?.map stem

end Path
end ReferencePage
