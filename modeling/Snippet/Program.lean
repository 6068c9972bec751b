import Snippet.CommandLine.Reading
import Snippet.Json
import Snippet.Layout
import Snippet.Page
import Snippet.Program.Host
import Snippet.Repair
import Snippet.Settings.Reading
import Snippet.Settings.Writing

/-! The program: each command reads its input, works on it and hands the result on. -/

set_option autoImplicit false

namespace Snippet

inductive Failure where
  | readFile (path : Text) (cause : FileError)
  | readInput (cause : FileError)
  | blankInput (verb : Text)
  | writeFile (path : Text) (cause : FileError)
  | createDirectory (path : Text) (cause : FileError)
  | readSettings (path : Text) (cause : FileError)
  | parseSettings (path : Text) (cause : SettingsError)
  | writeSettings (path : Text) (cause : FileError)
  | noSettingsDirectory
  | fileName (cause : FileNameError)
  | copy (cause : CopyError)
  deriving DecidableEq, Repr

def SettingsError.message : SettingsError → Text
  | document => "not a valid document".toList
  | value => "a setting has a value of the wrong type".toList
  | category e => e.message

namespace Failure

def sentence : Failure → Text
  | readFile path cause => "Failed to read ".toList ++ path ++ ": ".toList ++ cause.message
  | readInput cause => "Failed to read stdin: ".toList ++ cause.message
  | blankInput verb => "Please provide code to ".toList ++ verb
  | writeFile path _ => "Failed to write ".toList ++ path
  | createDirectory path _ => "Failed to create ".toList ++ path
  | readSettings path cause => "Failed to read ".toList ++ path ++ ": ".toList ++ cause.message
  | parseSettings path cause =>
    "Invalid config in ".toList ++ path ++ ": TOML parse error: ".toList ++ cause.message
  | writeSettings path cause => "Failed to write ".toList ++ path ++ ": ".toList ++ cause.message
  | noSettingsDirectory => "Could not determine config directory".toList
  | fileName _ => "Invalid [split] file name in config".toList
  | copy cause => cause.message

/-- What lies behind a failure, if it is told once more behind the sentence. -/
def cause? : Failure → Option Text
  | readFile _ cause | readInput cause | writeFile _ cause | createDirectory _ cause
  | readSettings _ cause | writeSettings _ cause => some cause.message
  | parseSettings _ cause => some ("TOML parse error: ".toList ++ cause.message)
  | fileName cause => some cause.message
  | blankInput _ | noSettingsDirectory | copy _ => none

def message (failure : Failure) : Text :=
  match failure.cause? with
  | some cause => failure.sentence ++ ": ".toList ++ cause
  | none => failure.sentence

end Failure

def requireCode (verb code : Text) : Except Failure Text :=
  if Text.allBlank code then .error (.blankInput verb) else .ok code

namespace Program

variable {m : Type → Type} [Monad m]

abbrev Run (m : Type → Type) := ExceptT Failure m

def perform {α : Type} (step : m α) : Run m α := ExceptT.lift step

def attempt {α ε : Type} (failure : ε → Failure) (step : m (Except ε α)) : Run m α :=
  ExceptT.mk do
    match ← step with
    | .ok a => return .ok a
    | .error e => return .error (failure e)

structure Context (m : Type → Type) where
  host : Host m
  theme : Theme
  settings : Settings
  copy : Bool

def settingsFile : Text := "codekit/config.toml".toList

/-- The path that was asked for, else the usual one if there is a place for it. -/
def settingsPath? (environment : Environment) (asked : Option Text) : Option Text :=
  asked.or (environment.settingsDirectory.map (joinPath · settingsFile))

def loadSettings (host : Host m) (path? : Option Text) : Run m Settings := do
  match path? with
  | none => return .default
  | some path =>
    if ← perform (host.pathExists path) then
      let document ← attempt (.readSettings path) (host.readFile path)
      match Settings.parse document with
      | .ok settings => return settings
      | .error e => throw (.parseSettings path e)
    else return .default

/-- The text of a file, or of the standard input for none and for `-`. -/
def readSource (host : Host m) (path? : Option Text) : Run m Text :=
  match path?.filter (!isHyphen ·) with
  | some path => attempt (.readFile path) (host.readFile path)
  | none => attempt .readInput host.readInput

def readCode (host : Host m) (path? : Option Text) (verb : Text) : Run m Text := do
  let code ← readSource host path?
  ExceptT.mk (pure (requireCode verb code))

def notify (context : Context m) (role : Role) (message : Text) : Run m Unit :=
  perform (context.host.writeError (context.theme.paint role message ++ ['\n']))

def print (context : Context m) (text : Text) : Run m Unit :=
  perform (context.host.writeOutput text)

def copyText (context : Context m) (text what : Text) : Run m Unit := do
  let report ← attempt .copy (Clipboard.copy context.host.clipboard text)
  notify context .success (report.message what)

/-- Write a result to a file or the standard output, and copy it if that was asked for. -/
def emit (context : Context m) (text : Text) (output : Option Text) (what : Text) : Run m Unit := do
  match output with
  | some path =>
    attempt (.writeFile path) (context.host.writeFile path text)
    notify context .secondary ("Wrote ".toList ++ what ++ " to ".toList ++ path)
  | none => print context (text ++ ['\n'])
  if context.copy then copyText context text what

def detectionReport (detection : Detection) : Json :=
  .object
    [ ("category".toList, .string detection.category.name),
      ("label".toList, .string detection.category.label),
      ("scores".toList, .object
        [ ("html".toList, .number detection.scores.html),
          ("javascript".toList, .number detection.scores.javascript),
          ("css".toList, .number detection.scores.css) ]) ]

def splitReport (split : SplitPage) : Json :=
  .object
    [ ("html".toList, .string split.html), ("css".toList, .string split.css),
      ("js".toList, .string split.js) ]

def detectCommand (context : Context m) (input : Option Text) (json : Bool) : Run m Unit := do
  let code ← readSource context.host input
  let detection := detect code
  let text := if json then (detectionReport detection).render 0 else detection.category.name
  emit context text none "detected type".toList

def passesFor (settings : Settings) (chosen : PassOptions) (all : Bool) (category : Category) :
    PassOptions :=
  if all then .all else if chosen.isNone then settings.passes.optionsFor category else chosen

def obfuscateCommand (context : Context m) (input output : Option Text) (chosen : PassOptions)
    (all stats : Bool) : Run m Unit := do
  let code ← readCode context.host input "obfuscate".toList
  let category := Category.of code
  let result := obfuscateAs (passesFor context.settings chosen all category) category code
  if stats then notify context .secondary (Savings.of code result).summary
  emit context result output "obfuscated code".toList

def formatCommand (context : Context m) (input output : Option Text) (target : Option Target) :
    Run m Unit := do
  let code ← readCode context.host input "format".toList
  emit context (layOut (target.getD context.settings.target) code) output "formatted code".toList

def fixCommand (context : Context m) (input output : Option Text) : Run m Unit := do
  let code ← readCode context.host input "fix".toList
  emit context (repair code) output "fixed code".toList

def writeParts (host : Host m) (directory : Text) (names : PartNames) :
    List (Part × Text) → Run m (List Text)
  | [] => return []
  | (part, text) :: others => do
    let path := joinPath directory (names.get part)
    attempt (.writeFile path) (host.writeFile path text)
    let paths ← writeParts host directory names others
    return path :: paths

def splitCommand (context : Context m) (input : Option Text) (directory : Text) (json : Bool) :
    Run m Unit := do
  let code ← readCode context.host input "split".toList
  let split := splitPage code
  if json then emit context ((splitReport split).render 0) none "split result".toList
  else if split.isEmpty then
    notify context .secondary "Nothing to split: input is not HTML".toList
  else
    match context.settings.names.resolve with
    | .error e => throw (.fileName e)
    | .ok names =>
      attempt (.createDirectory directory) (context.host.createDirectories directory)
      let paths ← writeParts context.host directory names (split.relink names.css names.js).files
      print context (paths.flatMap (· ++ ['\n']))
      if context.copy then
        notify context .secondary "--copy ignored: split writes several files".toList

def commentCommand (context : Context m) (input output : Option Text)
    (style : Option CommentStyle) : Run m Unit := do
  let code ← readCode context.host input "comment".toList
  let now ← perform context.host.now
  let text := annotate (style.getD context.settings.style) context.settings.title now code
  emit context text output "commented code".toList

def promptCommand (context : Context m) (kind : PromptKind) (code existing : Option Text) :
    Run m Unit := do
  let existing ←
    match existing with
    | some path => readSource context.host (some path)
    | none => pure []
  let code ←
    match code with
    | some path => some <$> readSource context.host (some path)
    | none => pure none
  emit context (Prompt.build (Text.dropTrailingBlanks existing) kind code) none "prompt".toList

def initSettings (context : Context m) (path : Text) : Run m Unit := do
  if ← perform (context.host.pathExists path) then
    notify context .secondary
      ("Config already exists at ".toList ++ path ++ ", leaving it alone".toList)
  else
    match parentPath? path with
    | some parent => attempt (.writeSettings path) (context.host.createDirectories parent)
    | none => pure ()
    attempt (.writeSettings path) (context.host.writeFile path Settings.default.toToml)
    notify context .success ("Created ".toList ++ path)

def requirePath (path? : Option Text) : Run m Text :=
  match path? with
  | some path => return path
  | none => throw .noSettingsDirectory

def settingsCommand (context : Context m) (path? : Option Text) : SettingsAction → Run m Unit
  | .print => print context (Text.dropTrailingBlanks context.settings.toToml ++ ['\n'])
  | .path => do
    let path ← requirePath path?
    print context (path ++ ['\n'])
  | .init => do
    let path ← requirePath path?
    initSettings context path

def runCommand (context : Context m) (path? : Option Text) : Command → Run m Unit
  | .detect input json => detectCommand context input json
  | .obfuscate input output chosen all stats =>
    obfuscateCommand context input output chosen all stats
  | .format input output target => formatCommand context input output target
  | .fix input output => fixCommand context input output
  | .split input directory json => splitCommand context input directory json
  | .comment input output style => commentCommand context input output style
  | .prompt kind code existing => promptCommand context kind code existing
  | .sample sample => emit context sample.text none "example".toList
  | .settings action => settingsCommand context path? action
  | .completions _ => pure ()

/-- Settings are loaded before a command looks at its input; completions need none. -/
def runInvocation (host : Host m) (environment : Environment) (invocation : Invocation) :
    Run m Unit :=
  match invocation.command with
  | .completions _ => pure ()
  | command => do
    let path? := settingsPath? environment invocation.settingsPath
    let settings ← loadSettings host path?
    runCommand ⟨host, environment.theme, settings, invocation.copy⟩ path? command

def exitCode (host : Host m) (theme : Theme) (run : Run m Unit) : m Nat := do
  match ← run.run with
  | .ok () => return 0
  | .error failure =>
    host.writeError (theme.paint .error ("Error: ".toList ++ failure.message) ++ ['\n'])
    return 1

/-- What the arguments of a run ask for, carried out. Arguments that ask for nothing
that can be done give the exit code 2. -/
def main (host : Host m) (environment : Environment) (arguments : List Text) : m Nat :=
  match CommandLine.read environment.settingsVariable arguments with
  | .ok invocation =>
    exitCode host environment.theme (runInvocation host environment invocation)
  | .error .usage => return 2
  | .error .help | .error .version => return 0

end Program

end Snippet
