import ReferencePage.Run.Program
import Std.Time.Zoned

/-! The program: it hands its arguments, its environment and the file system to a run, and prints
what the run answers. -/
namespace ReferencePage

open Text

/- Some requests report a system's error number with its sign turned. -/
def Fault.ofNumber (number : UInt32) (details : String) : Fault :=
  let n := if number < 0x80000000 then number else 0 - number
  if n = 2 then .missing
  else if n = 16 then .busy
  else if n = 17 then .occupied
  else if n = 20 then .notDirectory
  else if n = 21 then .isDirectory
  else if n = 36 then .nameTooLong
  else .other (details.toList ++ " (os error ".toList ++ digits n.toNat ++ [')'])

def Fault.ofError : IO.Error → Fault
  | .noFileOrDirectory _ number details => ofNumber number details
  | .interrupted _ number details => ofNumber number details
  | .alreadyExists _ number details => ofNumber number details
  | .invalidArgument _ number details => ofNumber number details
  | .permissionDenied _ number details => ofNumber number details
  | .resourceExhausted _ number details => ofNumber number details
  | .inappropriateType _ number details => ofNumber number details
  | .noSuchThing _ number details => ofNumber number details
  | .otherError number details => ofNumber number details
  | .resourceBusy number details => ofNumber number details
  | .resourceVanished number details => ofNumber number details
  | .unsupportedOperation number details => ofNumber number details
  | .hardwareFault number details => ofNumber number details
  | .unsatisfiedConstraints number details => ofNumber number details
  | .illegalOperation number details => ofNumber number details
  | .protocolError number details => ofNumber number details
  | .timeExpired number details => ofNumber number details
  | .unexpectedEof => .other "unexpected end of file".toList
  | .userError details => .other details.toList

def Path.string (path : Path) : String := String.ofList path.text

/- A request to the file system, which no path with a NUL reaches. -/
def request {α : Type} (paths : List Path) (action : IO α) : IO (Except Fault α) := do
  if paths.any fun path => path.text.contains '\x00' then return .error .holdsNul
  try
    return .ok (← action)
  catch error => return .error (.ofError error)

instance : Storage IO where
  read path := request [path] (IO.FS.readBinFile ⟨path.string⟩)
  makeDirectory path := request [path] (IO.FS.createDir ⟨path.string⟩)
  write path content := request [path] (IO.FS.writeBinFile ⟨path.string⟩ content)
  move source destination :=
    request [source, destination] (IO.FS.rename ⟨source.string⟩ ⟨destination.string⟩)
  remove path := request [path] (IO.FS.removeFile ⟨path.string⟩)

def environment (name : String) : IO (Option Text) := do
  return (← IO.getEnv name).map String.toList

def localTime : IO Text := do
  let now ← Std.Time.PlainDateTime.now
  let date : Date := ⟨now.date.year.toInt, now.date.month.val.toNat, now.date.day.val.toNat⟩
  let moment : Moment :=
    ⟨date, now.time.hour.val.toNat, now.time.minute.val.toNat, now.time.second.val.toNat⟩
  return moment.text

def logTime : IO Text := do
  let nanoseconds := (← Std.Time.Timestamp.now).toNanosecondsSinceUnixEpoch.val
  let moment := Moment.ofSeconds (nanoseconds / 1000000000)
  let clock := (moment.text.drop (moment.date.text.length + 1))
  return moment.date.text ++ 'T' :: clock ++ '.' :: padded 6 (nanoseconds / 1000 % 1000000).toNat
    ++ ['Z']

def padding (e : Event) : Text := List.replicate (6 - e.severity.label.length) ' '

def printLog (events : List Event) : IO Unit := do
  for e in events do
    IO.eprintln (String.ofList ((← logTime) ++ padding e ++ e.line))

def program (arguments : List String) : IO UInt32 := do
  let invocation : Invocation :=
    { arguments := arguments.map String.toList
      pinned := ← environment "SOURCE_DATE_EPOCH"
      logFilter := ← environment "SWIFTDOC_LOG"
      clock := ← localTime }
  let outcome ← invocation.run
  printLog outcome.log
  IO.eprint (String.ofList outcome.complaint)
  IO.print (String.ofList outcome.output)
  return outcome.exitCode.toUInt32

end ReferencePage

def main (arguments : List String) : IO UInt32 := ReferencePage.program arguments
