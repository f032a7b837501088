import ReferencePage.Document.Assembly
import ReferencePage.Document.Page
import ReferencePage.Instant
import ReferencePage.Run.Files
import ReferencePage.Run.Log

/-! One run of the program: settings, source, document and page, in this order.  Nothing is written
unless all of it succeeds before. -/
namespace ReferencePage

/-- What a run is given besides the file system.  `clock` is the local time, for a run that no
instant is pinned for. -/
structure Invocation where
  arguments : List Text
  pinned : Option Text
  logFilter : Option Text
  clock : Text

structure Outcome where
  exitCode : Nat
  output : Text
  complaint : Text
  log : List Event

namespace Invocation

def time (i : Invocation) : Text := ((i.pinned.bind Moment.pinned?).map Moment.text).getD i.clock

def document (path : Path) (source : Text) : Except Failure Document :=
  match Document.ofSource? source with
  | some d => .ok d
  | none => .error (.noDeclaration path)

def setting (i : Invocation) (settings : Settings) (source : Path) : Setting where
  fenceLanguage := settings.fenceLanguage
  fileName := source.fileName?.getD []
  generatedAt := i.time

def pagePath (settings : Settings) (source : Path) : Path :=
  settings.outputDirectory.join ⟨source.pageName⟩

variable {m : Type → Type} [Monad m] [Storage m]

def writeDocument (i : Invocation) (settings : Settings) (source : Path) (d : Document) :
    m (Except Failure Path) := do
  let path := pagePath settings source
  match ← writePage path (d.page (i.setting settings source)) with
  | .ok () => return .ok path
  | .error failure => return .error failure

/-- The path of the page, with all that there is to report about the source. -/
def generate (i : Invocation) (path : Path) : m (List Event × Except Failure Path) := do
  match ← Settings.load ⟨['.']⟩ with
  | .error failure => return ([], .error failure)
  | .ok settings =>
    match ← sourceText path with
    | .error failure => return ([], .error failure)
    | .ok source =>
      match document path source with
      | .error failure => return (Document.events source, .error failure)
      | .ok d => return (Document.events source, ← i.writeDocument settings path d)

def line (t : Text) : Text := t ++ ['\n']

def report (i : Invocation) : List Event × Except Failure Path → Outcome
  | (events, .ok path) =>
    ⟨0, line ("Documentation generated successfully: ".toList ++ path.text), [],
      Log.shown i.logFilter events⟩
  | (events, .error failure) =>
    ⟨1, line ("Error: ".toList ++ failure.message), [], Log.shown i.logFilter events⟩

def run (i : Invocation) : m Outcome := do
  match CommandLine.read i.arguments with
  | .error misuse => return ⟨2, [], misuse.message, []⟩
  | .ok .usage => return ⟨0, line CommandLine.usage, [], []⟩
  | .ok (.answer flag) => return ⟨0, line (CommandLine.answerText flag), [], []⟩
  | .ok (.generate path) => return i.report (← i.generate path)

end Invocation
end ReferencePage
