import ReferencePage.Disk.Storage
import ReferencePage.Toml.Document

/-! The settings of a run, which a file in TOML may give.  A key that is not known and a value that
is no string are refused; a key that is not given has its own default. -/
namespace ReferencePage

open Text

structure Settings where
  fenceLanguage : Text
  outputDirectory : Path
  deriving DecidableEq, Repr

namespace Settings

def default : Settings := ⟨"swift".toList, ⟨['.']⟩⟩

def fileName : Text := ".swiftdoc.toml".toList

inductive Field where
  | fenceLanguage
  | outputDirectory
  deriving DecidableEq, Repr

namespace Field

def key : Field → Text
  | .fenceLanguage => "fence_language".toList
  | .outputDirectory => "output_dir".toList

def all : List Field := [.fenceLanguage, .outputDirectory]

def ofKey? (name : Text) : Option Field := all.find? fun field => field.key = name

def expected : Field → Text
  | .fenceLanguage => "a string".toList
  | .outputDirectory => "path string".toList

end Field

inductive Problem where
  | unknownKey (name : Text)
  | wrongType (field : Field) (item : Toml.Item)

structure Refusal where
  problem : Problem
  passage : Passage

inductive Malformation where
  | syntactic
  | refused (source : Text) (refusal : Refusal)

def string? : Toml.Item → Option Text
  | .value (.string text) _ => some text
  | _ => none

/- From the start of the first header to the end of what stands below the last. -/
def spanned? (tables : List Toml.Table) : Option Passage :=
  match tables.head?.bind Toml.Table.header, tables.getLast?.bind Toml.Table.header with
  | some first, some last => some (.between first.whole last.rest)
  | _, _ => none

/-- A value points at itself, and a table at its header; where a table has none, its key is
pointed at. -/
def passage (key : Toml.Key) : Toml.Item → Passage
  | .value _ passage => passage
  | .table table => table.header.getD key.passage
  | .tables tables => (spanned? tables).getD key.passage

def refusal? (entry : Toml.Key × Toml.Item) : Option Refusal :=
  match Field.ofKey? entry.1.name with
  | none => some ⟨.unknownKey entry.1.name, entry.1.passage⟩
  | some field =>
    if (string? entry.2).isSome then none
    else some ⟨.wrongType field entry.2, passage entry.1 entry.2⟩

def field? (table : Toml.Table) (field : Field) : Option Text :=
  (table.item? field.key).bind string?

/- The settings that a table gives, whatever else it holds. -/
def ofTable (table : Toml.Table) : Settings where
  fenceLanguage := (field? table .fenceLanguage).getD default.fenceLanguage
  outputDirectory := ((field? table .outputDirectory).map Path.mk).getD default.outputDirectory

/-- The first entry that is refused decides. -/
def parse (source : Text) : Except Malformation Settings :=
  match Toml.parse? source with
  | none => .error .syntactic
  | some table =>
    match table.entries.findSome? refusal? with
    | some refusal => .error (.refused source refusal)
    | none => .ok (ofTable table)

def code (t : Text) : Text := '`' :: t ++ ['`']

def typeName : Toml.Item → Text
  | .value (.string text) _ => "string ".toList ++ code text
  | .value (.integer number) _ => "integer ".toList ++ code (signed number)
  | .value (.float number) _ => "floating point ".toList ++ code number.text
  | .value (.boolean truth) _ =>
    "boolean ".toList ++ code (if truth then "true".toList else "false".toList)
  | .value (.array _) _ => "sequence".toList
  | .tables _ => "sequence".toList
  | _ => "map".toList

def Problem.message : Problem → Text
  | .unknownKey name =>
    "unknown field ".toList ++ code name ++ ", expected ".toList
      ++ join " or ".toList (Field.all.map fun field => code field.key)
  | .wrongType field item =>
    "invalid type: ".toList ++ typeName item ++ ", expected ".toList ++ field.expected

/- The numbers of lines and columns start at one; a line ends before its line feed. -/
structure Place where
  line : Nat
  column : Nat
  content : Text

def place (source : Text) (passage : Passage) : Place :=
  let before := (source.take (passage.start source)).splitOn '\n'
  let line := before.length
  let column := (before.getLast?.getD []).length + 1
  ⟨line, column, ((source.splitOn '\n')[line - 1]?).getD []⟩

/-- One mark for each byte of the passage, at least one, and none behind the bytes of the line. -/
def marks (place : Place) (passage : Passage) : Nat :=
  max 1 (min passage.text.byteLength (place.content.byteLength - (place.column - 1)))

/-- The line with the passage marked below it, and what is wrong there. -/
def Refusal.message (source : Text) (refusal : Refusal) : Text :=
  let place := place source refusal.passage
  let number := digits place.line
  let gutter := List.replicate (number.length + 1) ' '
  "TOML parse error at line ".toList ++ number ++ ", column ".toList ++ digits place.column
    ++ ['\n'] ++ gutter ++ ['|', '\n']
    ++ number ++ " | ".toList ++ place.content
    ++ ['\n'] ++ gutter ++ ['|'] ++ List.replicate place.column ' '
    ++ List.replicate (marks place refusal.passage) '^'
    ++ ['\n'] ++ refusal.problem.message ++ ['\n']

/-- What is wrong with a source.  For one that is not TOML this text only stands in for a parser's
own, which goes on to say where the source breaks off and what is expected there. -/
def Malformation.message : Malformation → Text
  | .syntactic => "TOML parse error\n".toList
  | .refused source refusal => refusal.message source

end Settings
end ReferencePage
