import ReferencePage.Disk.Path

/-! A file tree without links or permissions, and the operations on it.  An entry is known by the
names that lead to it from the root; the root is a directory that has no entry of its own. -/
namespace ReferencePage

inductive Fault where
  | missing
  | occupied
  | notDirectory
  | isDirectory
  | nameTooLong
  | busy
  | notText
  | holdsNul
  | other (text : Text)
  deriving DecidableEq, Repr

def Fault.message : Fault → Text
  | .missing => "No such file or directory (os error 2)".toList
  | .occupied => "File exists (os error 17)".toList
  | .notDirectory => "Not a directory (os error 20)".toList
  | .isDirectory => "Is a directory (os error 21)".toList
  | .nameTooLong => "File name too long (os error 36)".toList
  | .busy => "Device or resource busy (os error 16)".toList
  | .notText => "stream did not contain valid UTF-8".toList
  | .holdsNul => "file name contained an unexpected NUL byte".toList
  | .other text => text

inductive Entry where
  | directory
  | file (content : ByteArray)

def Entry.isDirectory : Entry → Bool
  | .directory => true
  | .file _ => false

abbrev Location := List Text

/-- `here` is the directory that relative paths start from. -/
structure Tree where
  here : Location
  entries : List (Location × Entry)

namespace Tree

def entry? (tree : Tree) (place : Location) : Option Entry :=
  if place = [] then some .directory else tree.entries.lookup place

def put (tree : Tree) (place : Location) (entry : Entry) : Tree :=
  if (tree.entries.lookup place).isSome then
    { tree with entries :=
        tree.entries.map fun e => if e.1 = place then (place, entry) else e }
  else { tree with entries := tree.entries ++ [(place, entry)] }

def erase (tree : Tree) (place : Location) : Tree :=
  { tree with entries := tree.entries.filter fun e => e.1 ≠ place }

/- The lengths that the file system allows, in bytes; a path needs one more for its end. -/
def nameLimit : Nat := 255
def pathLimit : Nat := 4096

def nameTooLong (name : Text) : Bool := nameLimit < name.byteLength

/-- The entry of a name in a directory; none when the name is free. -/
def child? (tree : Tree) (place : Location) (name : Text) : Except Fault (Option Entry) :=
  if nameTooLong name then .error .nameTooLong else .ok (tree.entry? (place ++ [name]))

def follow (tree : Tree) (place : Location) : List Step → Except Fault Location
  | [] => .ok place
  | .stay :: steps => tree.follow place steps
  | .up :: steps => tree.follow place.dropLast steps
  | .down name :: steps =>
    match tree.child? place name with
    | .error fault => .error fault
    | .ok none => .error .missing
    | .ok (some (.file _)) => .error .notDirectory
    | .ok (some .directory) => tree.follow (place ++ [name]) steps

/-- Where a path leads: the directory that all steps but the last lead to, and the last one. -/
structure Goal where
  place : Location
  last : Step

/-- A path that is only slashes stays at the root. -/
def goal (tree : Tree) (path : Path) : Except Fault Goal :=
  if '\x00' ∈ path.text then .error .holdsNul
  else if path.text = [] then .error .missing
  else if pathLimit ≤ path.text.byteLength then .error .nameTooLong
  else
    (tree.follow (if path.isAbsolute then [] else tree.here) path.steps.dropLast).map fun place =>
      ⟨place, path.steps.getLast?.getD .stay⟩

/-- What stands at the end of a path.  A slash at its end asks for a directory. -/
def find (tree : Tree) (path : Path) : Except Fault Entry :=
  match tree.goal path with
  | .error fault => .error fault
  | .ok ⟨place, .down name⟩ =>
    match tree.child? place name with
    | .error fault => .error fault
    | .ok none => .error .missing
    | .ok (some .directory) => .ok .directory
    | .ok (some (.file content)) =>
      if path.endsWithSlash then .error .notDirectory else .ok (.file content)
  | .ok _ => .ok .directory

def read (tree : Tree) (path : Path) : Except Fault ByteArray :=
  match tree.find path with
  | .error fault => .error fault
  | .ok .directory => .error .isDirectory
  | .ok (.file content) => .ok content

def makeDirectory (tree : Tree) (path : Path) : Except Fault Tree :=
  match tree.goal path with
  | .error fault => .error fault
  | .ok ⟨place, .down name⟩ =>
    match tree.child? place name with
    | .error fault => .error fault
    | .ok (some _) => .error .occupied
    | .ok none => .ok (tree.put (place ++ [name]) .directory)
  | .ok _ => .error .occupied

def write (tree : Tree) (path : Path) (content : ByteArray) : Except Fault Tree :=
  match tree.goal path with
  | .error fault => .error fault
  | .ok ⟨place, .down name⟩ =>
    match tree.child? place name with
    | .error fault => .error fault
    | .ok (some .directory) => .error .isDirectory
    | .ok _ =>
      if path.endsWithSlash then .error .isDirectory
      else .ok (tree.put (place ++ [name]) (.file content))
  | .ok _ => .error .isDirectory

def move (tree : Tree) (source destination : Path) : Except Fault Tree :=
  match tree.goal source with
  | .error fault => .error fault
  | .ok origin =>
    match tree.goal destination with
    | .error fault => .error fault
    | .ok aim =>
      match origin.last, aim.last with
      | .down oldName, .down newName =>
        match tree.child? origin.place oldName with
        | .error fault => .error fault
        | .ok none => .error .missing
        | .ok (some .directory) => .error .isDirectory
        | .ok (some (.file content)) =>
          match tree.child? aim.place newName with
          | .error fault => .error fault
          | .ok entry =>
            if source.endsWithSlash || destination.endsWithSlash then .error .notDirectory
            else if entry.any Entry.isDirectory then .error .isDirectory
            else if origin.place ++ [oldName] = aim.place ++ [newName] then .ok tree
            else
              .ok ((tree.erase (origin.place ++ [oldName])).put (aim.place ++ [newName])
                (.file content))
      | _, _ => .error .busy

def remove (tree : Tree) (path : Path) : Except Fault Tree :=
  match tree.goal path with
  | .error fault => .error fault
  | .ok ⟨place, .down name⟩ =>
    match tree.child? place name with
    | .error fault => .error fault
    | .ok none => .error .missing
    | .ok (some .directory) => .error .isDirectory
    | .ok (some (.file _)) =>
      if path.endsWithSlash then .error .notDirectory else .ok (tree.erase (place ++ [name]))
  | .ok _ => .error .isDirectory

end Tree
end ReferencePage
