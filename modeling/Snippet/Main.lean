import Std.Time.Zoned
import Snippet.Program

/-! The program on the system it is started on. Everything it decides is decided in
`Snippet.Program`; here files, streams and the clock are connected to it. No other
program is started, so no clipboard tool is ever available. -/

set_option autoImplicit false

namespace Snippet.Console

def fileError : IO.Error → FileError
  | .noFileOrDirectory _ _ _ => .notFound
  | .alreadyExists _ _ _ => .alreadyExists
  | .inappropriateType _ code details =>
    if code = 20 then .notDirectory
    else if code = 21 then .isDirectory
    else .other (details ++ " (os error " ++ toString code ++ ")").toList
  | .permissionDenied _ code details | .resourceExhausted _ code details
  | .invalidArgument _ code details =>
    .other (details ++ " (os error " ++ toString code ++ ")").toList
  | e => .other (toString e).toList

def attempt {α : Type} (action : IO α) : IO (Except FileError α) :=
  try
    return .ok (← action)
  catch e => return .error (fileError e)

def decode (bytes : ByteArray) : Except FileError Text :=
  match String.fromUTF8? bytes with
  | some s => .ok s.toList
  | none => .error .notText

def readFile (path : Text) : IO (Except FileError Text) := do
  match ← attempt (IO.FS.readBinFile (String.ofList path)) with
  | .ok bytes => return decode bytes
  | .error e => return .error e

/-- Opening something that exists fails at most for want of permission. -/
def pathExists (path : Text) : IO Bool := do
  try
    let _ ← IO.FS.Handle.mk (String.ofList path) .read
    return true
  catch
    | .permissionDenied _ _ _ => return true
    | _ => return false

def createDirectories (path : Text) : IO (Except FileError Unit) :=
  if path.isEmpty then return .ok () else attempt (IO.FS.createDirAll (String.ofList path))

partial def readAll (stream : IO.FS.Stream) (bytes : ByteArray) : IO ByteArray := do
  let more ← stream.read 65536
  if more.isEmpty then return bytes else readAll stream (bytes ++ more)

def readInput : IO (Except FileError Text) := do
  match ← attempt (do readAll (← IO.getStdin) .empty) with
  | .ok bytes => return decode bytes
  | .error e => return .error e

def write (stream : IO.FS.Stream) (text : Text) : IO Unit := do
  stream.putStr (String.ofList text)
  stream.flush

def now : IO Moment := do
  let t ← Std.Time.PlainDateTime.now
  return ⟨t.year.toInt, t.month.val.toNat, t.day.val.toNat, t.hour.val.toNat, t.minute.val.toNat,
    t.second.val.toNat⟩

def host : Host IO where
  pathExists
  readFile
  writeFile path text := attempt (IO.FS.writeFile (String.ofList path) (String.ofList text))
  createDirectories
  readInput
  writeOutput text := do write (← IO.getStdout) text
  writeError text := do write (← IO.getStderr) text
  now
  clipboard := []

def variableNamed (name : String) : IO (Option Text) :=
  return (← IO.getEnv name).map String.toList

/-- Settings are kept below an absolute directory that a variable names, else in the
usual place in the home directory. -/
def settingsDirectory : IO (Option Text) := do
  let named := (← variableNamed "XDG_CONFIG_HOME").filter fun path => path.head? == some '/'
  let home := (← variableNamed "HOME").filter (!·.isEmpty)
  return named.or (home.map (joinPath · ".config".toList))

/-- Colours are for terminals, and only where they are not refused. -/
def theme : IO Theme := do
  let refused := (← variableNamed "NO_COLOR").any (!·.isEmpty)
  if refused || !(← (← IO.getStderr).isTty) then return .plain else return .standard

def environment : IO Environment := do
  return {
    settingsVariable := ← variableNamed "CODEKIT_CONFIG"
    settingsDirectory := ← settingsDirectory
    theme := ← theme }

def usage : String :=
  "Usage: codekit [OPTIONS] <COMMAND>\n\nCommands: " ++
    ", ".intercalate (CommandLine.CommandName.all.map fun name => String.ofList name.text) ++
    "\n\nOptions: --config <FILE>, -v, --log-level <LEVEL>, --copy, -h, -V\n"

def explain : CommandLine.Stop → IO Unit
  | .usage => do write (← IO.getStderr) usage.toList
  | .help => do write (← IO.getStdout) usage.toList
  | .version => do write (← IO.getStdout) "codekit 0.2.0\n".toList

end Snippet.Console

open Snippet in
def main (arguments : List String) : IO UInt32 := do
  let environment ← Console.environment
  let arguments := arguments.map String.toList
  match CommandLine.read environment.settingsVariable arguments with
  | .error stop => Console.explain stop
  | .ok _ => pure ()
  return UInt32.ofNat (← Program.main Console.host environment arguments)
