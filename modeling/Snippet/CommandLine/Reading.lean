import Snippet.CommandLine
import Snippet.CommandLine.Scan

/-! From arguments to a command. -/

set_option autoImplicit false

namespace Snippet.CommandLine

inductive CommandName where
  | detect
  | obfuscate
  | format
  | fix
  | split
  | comment
  | prompt
  | sample
  | config
  | completions
  deriving DecidableEq, Repr

namespace CommandName

def all : List CommandName :=
  [detect, obfuscate, format, fix, split, comment, prompt, sample, config, completions]

def text : CommandName → Text
  | detect => "detect".toList
  | obfuscate => "obfuscate".toList
  | format => "format".toList
  | fix => "fix".toList
  | split => "split".toList
  | comment => "comment".toList
  | prompt => "prompt".toList
  | sample => "example".toList
  | config => "config".toList
  | completions => "completions".toList

def ofText? (text : Text) : Option CommandName := all.find? (·.text = text)

end CommandName

/-- The options that stand before or behind the name of any command. -/
def commonSwitches : List Switch := [.config, .verbose, .logLevel, .copy, .help, .version]

def isPath (value : Text) : Bool := !value.isEmpty

/-- Paths are not empty; other values are names of something. -/
def acceptsValue : Switch → Text → Bool
  | .logLevel, value => (LogLevel.ofName? value).isSome
  | .style, value => (CommentStyle.ofName? value).isSome
  | .type, value => (Target.parse value).toOption.isSome
  | _, value => isPath value

def helpName : Text := "help".toList

def level (switches : List Switch) (operands : List (Text → Bool)) : Level :=
  ⟨switches ++ commonSwitches, operands, acceptsValue, []⟩

def rootLevel : Level :=
  { level [] [] with commands := helpName :: CommandName.all.map CommandName.text }

def CommandName.level : CommandName → Level
  | detect => CommandLine.level [.json] [isPath]
  | obfuscate =>
    CommandLine.level
      [ .output, .removeComments, .compressWhitespace, .renameVariables, .encodeStrings, .all,
        .stats ] [isPath]
  | format => CommandLine.level [.output, .type] [isPath]
  | fix => CommandLine.level [.output] [isPath]
  | split => CommandLine.level [.outDir, .json] [isPath]
  | comment => CommandLine.level [.output, .style] [isPath]
  | prompt => CommandLine.level [.context, .existing] [fun value => (PromptKind.ofName? value).isSome]
  | sample => CommandLine.level [] [fun value => (Sample.ofName? value).isSome]
  | config =>
    { CommandLine.level [] [] with
      commands := helpName :: SettingsAction.all.map SettingsAction.name }
  | completions => CommandLine.level [] [fun value => (Shell.ofName? value).isSome]

def help (isCommandPath : List Text → Bool) (arguments : List Text) : Stop :=
  if isCommandPath arguments then .help else .usage

def isCommandPath : List Text → Bool
  | [] => true
  | [name] => rootLevel.commands.contains name
  | [name, action] => name = CommandName.config.text && CommandName.config.level.commands.contains action
  | _ => false

def isSettingsPath : List Text → Bool
  | [] => true
  | [action] => CommandName.config.level.commands.contains action
  | _ => false

def Level.finish (level : Level) (scanned : Scanned) : Except Stop Found :=
  level.takePending scanned.found scanned.pending

def CommandName.command (name : CommandName) (found : Found) : Except Stop Command :=
  let operand? := found.operands.head?
  let required {α : Type} (value : Option α) : Except Stop α :=
    match value with
    | some a => .ok a
    | none => .error .usage
  match name with
  | detect => .ok (.detect operand? (found.has .json))
  | obfuscate =>
    let chosen : PassOptions :=
      ⟨found.has .removeComments, found.has .compressWhitespace, found.has .renameVariables,
        found.has .encodeStrings⟩
    if found.has .all && !chosen.isNone then .error .usage
    else .ok (.obfuscate operand? (found.value? .output) chosen (found.has .all) (found.has .stats))
  | format =>
    .ok (.format operand? (found.value? .output)
      ((found.value? .type).bind fun value => (Target.parse value).toOption))
  | fix => .ok (.fix operand? (found.value? .output))
  | split => .ok (.split operand? ((found.value? .outDir).getD ['.']) (found.has .json))
  | comment =>
    .ok (.comment operand? (found.value? .output) ((found.value? .style).bind CommentStyle.ofName?))
  | prompt => do
    let kind ← required (operand?.bind PromptKind.ofName?)
    return .prompt kind (found.value? .context) (found.value? .existing)
  | sample => .ok (.sample ((operand?.bind Sample.ofName?).getD .mixed))
  | config => .error .usage
  | completions => do
    let shell ← required (operand?.bind Shell.ofName?)
    return .completions shell

/-- A command under `config`, with what was found at both levels, the lower one first. -/
def readSettingsCommand (arguments : List Text) : Except Stop (Command × List Found) := do
  let upper := CommandName.config.level
  let scanned ← upper.scan .empty .nothing arguments
  match scanned.command with
  | none => throw .usage
  | some (name, rest) =>
    if name = helpName then throw (help isSettingsPath rest)
    else
      match SettingsAction.ofName? name with
      | none => throw .usage
      | some action =>
        let lower := level [] []
        let below ← lower.scan .empty .nothing rest
        let below ← lower.finish below
        let found ← upper.finish scanned
        return (.settings action, [below, found])

/-- A command with what was found at its level and those below, the lowest first. -/
def CommandName.read (name : CommandName) (arguments : List Text) :
    Except Stop (Command × List Found) :=
  if name = .config then readSettingsCommand arguments
  else do
    let scanned ← name.level.scan .empty .nothing arguments
    let found ← name.level.finish scanned
    let command ← name.command found
    return (command, [found])

/-- The invocation that arguments ask for. Of options that stand at several levels the
lowest counts; `fallback` stands in for a path to the settings that is given nowhere. -/
def read (fallback : Option Text) (arguments : List Text) : Except Stop Invocation := do
  let scanned ← rootLevel.scan .empty .nothing arguments
  match scanned.command with
  | none =>
    let _ ← rootLevel.finish scanned
    throw .usage
  | some (word, rest) =>
    if word = helpName then throw (help isCommandPath rest)
    else
      match CommandName.ofText? word with
      | none => throw .usage
      | some name =>
        let (command, below) ← name.read rest
        let levels := below ++ [← rootLevel.finish scanned]
        return {
          settingsPath := (levels.findSome? (·.value? .config)).or fallback
          verbose := levels.any (·.has .verbose)
          logLevel := (levels.findSome? (·.value? .logLevel)).bind LogLevel.ofName?
          copy := levels.any (·.has .copy)
          command }

end Snippet.CommandLine
