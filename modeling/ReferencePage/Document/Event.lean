import ReferencePage.Document.Basic
import ReferencePage.Text.Decimal
import ReferencePage.Text.Quoted

/-! What there is to report while a document is made, and the line that reports it. -/
namespace ReferencePage

open Text

inductive Event where
  | located (keyword : TypeKeyword) (name : Text) (documented : Bool)
  | duplicate (kind : MemberKind) (name : Text)
  | incomplete (kind : MemberKind)
  | dropped (segment : Text)
  | collected (kind : MemberKind) (documented bare : Nat)
  | built (name : Text) (keyword : TypeKeyword) (properties methods : Nat)
  | shared (anchor : Text)
  deriving DecidableEq, Repr

inductive Severity where
  | trace
  | debug
  | info
  | warn
  | error
  deriving DecidableEq, Repr

namespace Severity

def rank : Severity → Nat
  | .trace => 0
  | .debug => 1
  | .info => 2
  | .warn => 3
  | .error => 4

def label : Severity → Text
  | .trace => "TRACE".toList
  | .debug => "DEBUG".toList
  | .info => "INFO".toList
  | .warn => "WARN".toList
  | .error => "ERROR".toList

end Severity

namespace Event

/-- Only an anchor that leads to one of several members is worth a warning. -/
def severity : Event → Severity
  | .shared _ => .warn
  | _ => .debug

def field (name : String) (value : Text) : Text := ' ' :: name.toList ++ '=' :: value

def truth (b : Bool) : Text := if b then "true".toList else "false".toList

def kindName : MemberKind → Text
  | .property => "Property".toList
  | .method => "Operation".toList

def text : Event → Text
  | .located keyword name documented =>
    "located declaration".toList ++ field "keyword" (quoted keyword.text)
      ++ field "name" (quoted name) ++ field "documented" (truth documented)
  | .duplicate kind name =>
    "discarding duplicate documented member".toList ++ field "kind" (kindName kind)
      ++ field "name" (quoted name)
  | .incomplete kind => "skipping incomplete member".toList ++ field "kind" (kindName kind)
  | .dropped segment =>
    "dropping unrecognized parameter".toList ++ field "segment" (quoted segment)
  | .collected kind documented bare =>
    "extracted members".toList ++ field "kind" (kindName kind)
      ++ field "documented" (digits documented) ++ field "bare" (digits bare)
  | .built name keyword properties methods =>
    "built document".toList ++ field "declaration" name ++ field "keyword" (quoted keyword.text)
      ++ field "properties" (digits properties) ++ field "operations" (digits methods)
  | .shared anchor =>
    "several members share this anchor; mentions link to the first".toList
      ++ field "link_id" anchor

/- The line without the time in front of it and without its line feed. -/
def line (e : Event) : Text := e.severity.label ++ ' ' :: e.text

end Event
end ReferencePage
