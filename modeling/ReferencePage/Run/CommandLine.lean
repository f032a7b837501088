import ReferencePage.Disk.Path
import ReferencePage.Text.Similarity

/-! The arguments of the program: one file, or a question about the program itself.  Two hyphens end
the options, and a single hyphen is a file's name. -/
namespace ReferencePage

open Text

def programName : Text := "swiftdoc".toList

def programVersion : Text := "0.1.0".toList

inductive Flag where
  | help
  | version
  deriving DecidableEq, Repr

namespace Flag

def all : List Flag := [.help, .version]

def name : Flag → Text
  | .help => "help".toList
  | .version => "version".toList

def letter : Flag → Char
  | .help => 'h'
  | .version => 'V'

def long (flag : Flag) : Text := "--".toList ++ flag.name

def ofName? (name : Text) : Option Flag := all.find? fun flag => flag.name = name

def ofLetter? (letter : Char) : Option Flag := all.find? fun flag => flag.letter = letter

/-- The flag whose name is most like a text, where one is like it enough; of two, the later. -/
def similarTo? (name : Text) : Option Flag :=
  (all.filter fun flag => isSimilar name flag.name).foldl
    (fun best? flag =>
      match best? with
      | none => some flag
      | some best =>
        let (a, b) := similarity name flag.name
        let (c, d) := similarity name best.name
        some (if c * b ≤ a * d then flag else best))
    none

end Flag

inductive Request where
  | usage
  | answer (flag : Flag)
  | generate (source : Path)
  deriving DecidableEq, Repr

/-- What is wrong with the arguments.  `afterFile` tells whether a file came before an option. -/
inductive Misuse where
  | emptyFile
  | secondFile (argument : Text)
  | unknownLetter (letter : Char)
  | unknownName (name : Text) (afterFile : Bool)
  | needlessValue (flag : Flag) (value : Text)
  deriving DecidableEq, Repr

namespace CommandLine

inductive Argument where
  | endOfOptions
  | named (name : Text) (value : Option Text)
  | lettered (letter : Char)
  | plain (text : Text)
  deriving DecidableEq, Repr

/-- A name ends at an equals sign, behind which its value stands. -/
def namedArgument (t : Text) : Argument :=
  match t.dropWhile (· ≠ '=') with
  | [] => .named t none
  | _ :: value => .named (t.takeWhile (· ≠ '=')) (some value)

/- Of letters that stand together only the first is ever answered. -/
def argument (t : Text) : Argument :=
  match t with
  | ['-', '-'] => .endOfOptions
  | '-' :: '-' :: rest => namedArgument rest
  | '-' :: letter :: _ => .lettered letter
  | _ => .plain t

/- A file's name is looked at when something is done with it: an argument that is not understood
comes first. -/
def answer (file : Option Text) (flag : Flag) : Except Misuse Request :=
  if file = some [] then .error .emptyFile else .ok (.answer flag)

def finish : Option Text → Except Misuse Request
  | none => .ok .usage
  | some [] => .error .emptyFile
  | some file => .ok (.generate ⟨file⟩)

def readFrom (file : Option Text) (optionsEnded : Bool) : List Text → Except Misuse Request
  | [] => finish file
  | t :: rest =>
    match if optionsEnded then .plain t else argument t with
    | .endOfOptions => readFrom file true rest
    | .plain text =>
      if file.isSome then .error (.secondFile text) else readFrom (some text) optionsEnded rest
    | .lettered letter =>
      match Flag.ofLetter? letter with
      | some flag => answer file flag
      | none => .error (.unknownLetter letter)
    | .named name value =>
      match Flag.ofName? name, value with
      | some flag, none => answer file flag
      | some flag, some value => .error (.needlessValue flag value)
      | none, _ => .error (.unknownName name file.isSome)

def read (arguments : List Text) : Except Misuse Request := readFrom none false arguments

def usageWith (parts : List Text) : Text :=
  "Usage: ".toList ++ join [' '] (programName :: parts)

def optionalFile : Text := "[FILE]".toList

def givenFile (given : Bool) : Text := if given then "<FILE>".toList else optionalFile

def usage : Text := usageWith [optionalFile]

def help : Text := join ['\n'] [
  "Generate cross-linked markdown documentation from a Swift source file".toList,
  [],
  usage,
  [],
  "Arguments:".toList,
  "  [FILE]  Swift source file containing one class-like declaration".toList,
  [],
  "Options:".toList,
  "  -h, --help     Print help".toList,
  "  -V, --version  Print version".toList]

def version : Text := programName ++ ' ' :: programVersion

def answerText : Flag → Text
  | .help => help
  | .version => version

end CommandLine

namespace Misuse

open CommandLine

def inQuotes (t : Text) : Text := '\'' :: t ++ ['\'']

def unexpected (argument : Text) : Text :=
  "error: unexpected argument ".toList ++ inQuotes argument ++ " found".toList

def passAsValue (argument : Text) : Text :=
  "  tip: to pass ".toList ++ inQuotes argument ++ " as a value, use ".toList
    ++ inQuotes ("-- ".toList ++ argument)

def similarExists (flag : Flag) : Text :=
  "  tip: a similar argument exists: ".toList ++ inQuotes flag.long

def paragraphs : Misuse → List Text
  | .emptyFile =>
    ["error: a value is required for ".toList ++ inQuotes optionalFile
      ++ " but none was supplied".toList]
  | .secondFile argument => [unexpected argument, usage]
  | .unknownLetter letter => [unexpected ['-', letter], passAsValue ['-', letter], usage]
  | .unknownName name afterFile =>
    let argument := "--".toList ++ name
    match Flag.similarTo? name with
    | some flag =>
      [unexpected argument, similarExists flag, usageWith [flag.long, givenFile afterFile]]
    | none => [unexpected argument, passAsValue argument, usageWith [givenFile afterFile]]
  | .needlessValue flag value =>
    ["error: unexpected value ".toList ++ inQuotes value ++ " for ".toList ++ inQuotes flag.long
      ++ " found; no more were expected".toList, usageWith [flag.long, optionalFile]]

/-- Paragraphs with an empty line between two. -/
def message (m : Misuse) : Text :=
  join "\n\n".toList (m.paragraphs ++ ["For more information, try '--help'.".toList]) ++ ['\n']

end Misuse
end ReferencePage
