import ReferencePage.Run.Failure

/-! The files of a run: the source, the settings beside it, and the page. -/
namespace ReferencePage

variable {m : Type → Type} [Monad m] [Storage m]

def sourceText (path : Path) : m (Except Failure Text) := do
  match ← readText path with
  | .ok source => return .ok source
  | .error .missing => return .error (.fileNotFound path)
  | .error fault => return .error (.unreadable path fault)

def Settings.read (path : Path) (source : Text) : Except Failure Settings :=
  match Settings.parse source with
  | .ok settings => .ok settings
  | .error malformation => .error (.settingsMalformed path malformation)

/-- The settings in a directory.  Only a file that is missing means the default ones. -/
def Settings.load (directory : Path) : m (Except Failure Settings) := do
  let path := directory.join ⟨Settings.fileName⟩
  match ← readText path with
  | .ok source => return Settings.read path source
  | .error .missing => return .ok .default
  | .error fault => return .error (.settingsUnreadable path fault)

def writePage (path : Path) (page : Text) : m (Except Failure Unit) := do
  match ← replaceFile path page with
  | .ok () => return .ok ()
  | .error fault => return .error (.unwritable path fault)

def Path.pageName (source : Path) : Text :=
  source.fileStem?.getD [] ++ "_documentation.md".toList

end ReferencePage
