import ReferencePage.Document.Basic
import ReferencePage.Text.Case
import ReferencePage.Text.Scan

/-! Mentions of members become links.  All of them are found in the text as it was, so no link is
ever made inside another.  A longer name takes its mentions before a shorter one. -/
namespace ReferencePage

open Text

structure Target where
  name : Text
  anchor : Text
  deriving DecidableEq, Repr

def Target.link (target : Target) : Text :=
  '[' :: target.name ++ "](#".toList ++ target.anchor ++ [')']

def folded? : Text → Text → Option Passage
  | [], t => some ⟨[], t⟩
  | _ :: _, [] => none
  | a :: name, c :: t =>
    if fold a = fold c then (folded? name t).map fun p => ⟨c :: p.text, p.rest⟩ else none

/-- The name with a border at both its ends. -/
def mention? (name : Text) : Recogniser Passage := fun before t =>
  if border before t.head? then
    (folded? name t).filter fun p => border (p.text.getLast?.or before) p.rest.head?
  else none

structure Mention where
  start : Nat
  stop : Nat
  target : Target

def Mention.overlaps (m n : Mention) : Bool := m.start < n.stop && n.start < m.stop

def Target.mentions (text : Text) (target : Target) : List Mention :=
  (scan (mention? target.name) (fun p => p.text.length) text).map fun p =>
    ⟨p.start text, p.stop text, target⟩

def accept (taken : List Mention) (m : Mention) : List Mention :=
  if taken.any m.overlaps then taken else taken ++ [m]

/-- Longer names first; names of one length in the order of the members. -/
def byLength (targets : List Target) : List Target :=
  (targets.filter fun t => t.name ≠ []).mergeSort fun s t => t.name.length ≤ s.name.length

def accepted (targets : List Target) (text : Text) : List Mention :=
  ((byLength targets).flatMap (Target.mentions text)).foldl accept []

/- `skip` counts the characters that still belong to the last link. -/
def replace (taken : List Mention) : (place skip : Nat) → Text → Text
  | _, _, [] => []
  | place, skip + 1, _ :: t => replace taken (place + 1) skip t
  | place, 0, c :: t =>
    match taken.find? fun m => m.start = place with
    | some m => m.target.link ++ replace taken (place + 1) (m.stop - m.start - 1) t
    | none => c :: replace taken (place + 1) 0 t

def linkText (targets : List Target) (text : Text) : Text :=
  replace (accepted targets text) 0 0 text

def Member.target (m : Member) : Target := ⟨m.name, m.anchor⟩

namespace Document

def targets (d : Document) : List Target := d.members.map Member.target

/-- Every comment with its mentions of members made links, each member's own among them. -/
def linked (d : Document) : Document :=
  let link := linkText d.targets
  { declaration := { d.declaration with comment := d.declaration.comment.map link }
    properties := d.properties.map fun p => { p with comment := p.comment.map link }
    methods := d.methods.map fun o => { o with comment := o.comment.map link } }

end Document
end ReferencePage
