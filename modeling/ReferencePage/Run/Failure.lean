import ReferencePage.Settings

/-! What can go wrong in a run, and the sentence that says so. -/
namespace ReferencePage

inductive Failure where
  | noDeclaration (path : Path)
  | fileNotFound (path : Path)
  | unreadable (path : Path) (fault : Fault)
  | unwritable (path : Path) (fault : Fault)
  | settingsUnreadable (path : Path) (fault : Fault)
  | settingsMalformed (path : Path) (malformation : Settings.Malformation)

def Failure.message : Failure → Text
  | .noDeclaration path => "No class declaration found in '".toList ++ path.text ++ "'.".toList
  | .fileNotFound path => "File '".toList ++ path.text ++ "' not found.".toList
  | .unreadable path fault =>
    "reading file ".toList ++ path.text ++ ": ".toList ++ fault.message
  | .unwritable path fault =>
    "writing documentation file ".toList ++ path.text ++ ": ".toList ++ fault.message
  | .settingsUnreadable path fault =>
    "reading config ".toList ++ path.text ++ ": ".toList ++ fault.message
  | .settingsMalformed path malformation =>
    "invalid config ".toList ++ path.text ++ ": ".toList ++ malformation.message

end ReferencePage
