import ReferencePage.Document.Event
import ReferencePage.Run.CommandLine

/-! Which events are logged.  A filter is a list of directives, each with a least severity and
perhaps the start of the names it holds for; the one with the longest start decides. -/
namespace ReferencePage

open Text

/- The least severity to show; none shows nothing. -/
abbrev Threshold := Option Severity

def Threshold.shows (threshold : Threshold) (e : Event) : Bool :=
  threshold.any fun least => least.rank ≤ e.severity.rank

structure Directive where
  start : Text
  threshold : Threshold
  deriving DecidableEq, Repr

namespace Directive

def thresholds : List (Text × Threshold) :=
  [("trace".toList, some .trace), ("debug".toList, some .debug), ("info".toList, some .info),
    ("warn".toList, some .warn), ("error".toList, some .error), ("off".toList, none),
    ("5".toList, some .trace), ("4".toList, some .debug), ("3".toList, some .info),
    ("2".toList, some .warn), ("1".toList, some .error), ("0".toList, none)]

def threshold? (t : Text) : Option Threshold := thresholds.lookup (t.map Char.toLower)

def isNameChar (c : Char) : Bool := c.isAlphanum || c = '_' || c = ':' || c = '-'

/-- A level, a name, or both with an equals sign between; a name alone shows everything. -/
def ofText? (t : Text) : Option Directive :=
  match t.splitOn '=' with
  | [word] =>
    match threshold? word with
    | some threshold => some ⟨[], threshold⟩
    | none => if word ≠ [] && word.all isNameChar then some ⟨word, some .trace⟩ else none
  | [name, level] =>
    if name.all isNameChar then (threshold? level).map fun threshold => ⟨name, threshold⟩ else none
  | _ => none

end Directive

namespace Log

def fallback : List Directive := [⟨[], some .warn⟩]

/-- Directives with commas between them.  A text that holds none shows errors only, and one that is
no list of directives is not used. -/
def directives (filter : Option Text) : List Directive :=
  match filter with
  | none => fallback
  | some t =>
    match (t.splitOn ',').filter (· ≠ []) with
    | [] => [⟨[], some .error⟩]
    | parts => (parts.mapM Directive.ofText?).getD fallback

def deciding? (directives : List Directive) : Option Directive :=
  (directives.filter fun d => d.start.isPrefixOf programName).foldl
    (fun best? d =>
      match best? with
      | none => some d
      | some best => some (if best.start.length ≤ d.start.length then d else best))
    none

def threshold (filter : Option Text) : Threshold :=
  (deciding? (directives filter)).bind Directive.threshold

def shown (filter : Option Text) (events : List Event) : List Event :=
  events.filter (threshold filter).shows

end Log
end ReferencePage
