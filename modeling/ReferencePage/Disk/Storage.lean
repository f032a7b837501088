import ReferencePage.Disk.Tree

/-! What the program asks of a file system.  A file tree answers as a state that the requests
change; a request that is refused changes nothing. -/
namespace ReferencePage

class Storage (m : Type → Type) where
  read : Path → m (Except Fault ByteArray)
  makeDirectory : Path → m (Except Fault Unit)
  write : Path → ByteArray → m (Except Fault Unit)
  move : Path → Path → m (Except Fault Unit)
  remove : Path → m (Except Fault Unit)

namespace Tree

abbrev Steps := StateM Tree

def settle (change : Tree → Except Fault Tree) : Steps (Except Fault Unit) := fun tree =>
  match change tree with
  | .ok changed => (.ok (), changed)
  | .error fault => (.error fault, tree)

instance : Storage Steps where
  read path := fun tree => (tree.read path, tree)
  makeDirectory path := settle fun tree => tree.makeDirectory path
  write path content := settle fun tree => tree.write path content
  move source destination := settle fun tree => tree.move source destination
  remove path := settle fun tree => tree.remove path

end Tree

variable {m : Type → Type} [Monad m] [Storage m]

def readText (path : Path) : m (Except Fault Text) := do
  match ← Storage.read path with
  | .error fault => return .error fault
  | .ok content =>
    match content.utf8Decode? with
    | none => return .error .notText
    | some chars => return .ok chars.toList

/-- Only a directory is refused to a reader as one. -/
def isDirectory (path : Path) : m Bool := do
  match ← Storage.read path with
  | .error .isDirectory => return true
  | _ => return false

/- Directories down to the last of the given parts, which come last part first.  That a directory
stands there already is no fault. -/
def makeDirectories (absolute : Bool) : List Step → m (Except Fault Unit)
  | [] => return .ok ()
  | part :: above => do
    let path := Path.ofParts absolute (part :: above).reverse
    let make : m (Except Fault Unit) := do
      match ← Storage.makeDirectory path with
      | .error .occupied =>
        if ← isDirectory path then return .ok () else return .error .occupied
      | answer => return answer
    match ← make with
    | .error .missing =>
      match ← makeDirectories absolute above with
      | .error fault => return .error fault
      | .ok () => make
    | answer => return answer

def makeParents (path : Path) : m (Except Fault Unit) :=
  makeDirectories path.isAbsolute path.parts.dropLast.reverse

def draftName (name : Text) : Text := name ++ ".tmp".toList

def draftPath (path : Path) : Path := path.withFileName (draftName (path.fileName?.getD []))

/-- A file's content is written beside it and moved there when it is complete.  Where that fails,
nothing is left beside it. -/
def replaceFile (path : Path) (content : Text) : m (Except Fault Unit) := do
  match ← makeParents path with
  | .error fault => return .error fault
  | .ok () =>
    let draft := draftPath path
    let placed : Except Fault Unit ← do
      match ← Storage.write draft (String.ofList content).toUTF8 with
      | .error fault => pure (.error fault)
      | .ok () => Storage.move draft path
    match placed with
    | .ok () => return .ok ()
    | .error fault =>
      let _ ← Storage.remove draft
      return .error fault

end ReferencePage
