import Snippet.Text.Basic

/-! Scanning the arguments of one command: options, operands, and the name of a
command below it.

An option or an operand is taken up only when the next one appears or the scan is
over, so that a request for help can come before a complaint about a value. -/

set_option autoImplicit false

namespace Snippet.CommandLine

inductive Stop where
  | usage
  | help
  | version
  deriving DecidableEq, Repr

inductive Switch where
  | config
  | verbose
  | logLevel
  | copy
  | help
  | version
  | json
  | output
  | removeComments
  | compressWhitespace
  | renameVariables
  | encodeStrings
  | all
  | stats
  | type
  | outDir
  | style
  | context
  | existing
  deriving DecidableEq, Repr

namespace Switch

def long : Switch → Text
  | config => "config".toList
  | verbose => "verbose".toList
  | logLevel => "log-level".toList
  | copy => "copy".toList
  | help => "help".toList
  | version => "version".toList
  | json => "json".toList
  | output => "output".toList
  | removeComments => "remove-comments".toList
  | compressWhitespace => "compress-whitespace".toList
  | renameVariables => "rename-variables".toList
  | encodeStrings => "encode-strings".toList
  | all => "all".toList
  | stats => "stats".toList
  | type => "type".toList
  | outDir => "out-dir".toList
  | style => "style".toList
  | context => "context".toList
  | existing => "existing".toList

def short : Switch → Option Char
  | verbose => some 'v'
  | help => some 'h'
  | version => some 'V'
  | output => some 'o'
  | _ => none

def takesValue : Switch → Bool
  | config | logLevel | output | type | outDir | style | context | existing => true
  | _ => false

end Switch

structure Level where
  switches : List Switch
  /-- For each operand, which values it can have. -/
  operands : List (Text → Bool)
  /-- Which values an option can have. -/
  accepts : Switch → Text → Bool
  /-- The names of the commands below. -/
  commands : List Text

namespace Level

def ofLong? (level : Level) (name : Text) : Option Switch :=
  level.switches.find? (·.long = name)

def ofShort? (level : Level) (letter : Char) : Option Switch :=
  level.switches.find? (·.short = some letter)

end Level

structure Found where
  options : List (Switch × Text)
  operands : List Text
  deriving DecidableEq, Repr

namespace Found

def empty : Found := ⟨[], []⟩

def has (found : Found) (switch : Switch) : Bool := found.options.any (·.1 == switch)

def value? (found : Found) (switch : Switch) : Option Text :=
  (found.options.find? (·.1 == switch)).map (·.2)

end Found

/-- What has been read but not taken up: an option, perhaps without its value, or an
operand. -/
inductive Pending where
  | nothing
  | option (switch : Switch) (value : Option Text)
  | operand (value : Text)
  deriving DecidableEq, Repr

/-- Take up an option. None may be given twice, and help and version end the scan. -/
def Level.take (level : Level) (found : Found) (switch : Switch) (value : Text) :
    Except Stop Found :=
  if switch = .help then .error .help
  else if switch = .version then .error .version
  else if found.has switch then .error .usage
  else if switch.takesValue && !level.accepts switch value then .error .usage
  else .ok { found with options := found.options ++ [(switch, value)] }

def Level.takePending (level : Level) (found : Found) : Pending → Except Stop Found
  | .nothing => .ok found
  | .option _ none => .error .usage
  | .option switch (some value) => level.take found switch value
  | .operand value =>
    match level.operands[found.operands.length]? with
    | some accepts =>
      if accepts value then .ok { found with operands := found.operands ++ [value] }
      else .error .usage
    | none => .error .usage

def Level.hasRoom (level : Level) (found : Found) : Bool :=
  found.operands.length < level.operands.length

def Level.readOperand (level : Level) (found : Found) (pending : Pending) (value : Text) :
    Except Stop (Found × Pending) := do
  let found ← level.takePending found pending
  if level.hasRoom found then return (found, .operand value) else throw .usage

/-- Letters behind one hyphen. The first option that takes a value takes the rest of
the letters, without an equals sign in front. -/
def Level.readLetters (level : Level) (found : Found) (pending : Pending) : Text →
    Except Stop (Found × Pending)
  | [] => .ok (found, pending)
  | letter :: rest =>
    match level.ofShort? letter with
    | none => .error .usage
    | some switch => do
      let found ← level.takePending found pending
      if switch.takesValue then
        match rest with
        | [] => return (found, .option switch none)
        | '=' :: value | value => return (← level.take found switch value, .nothing)
      else level.readLetters (← level.take found switch []) .nothing rest

def Level.readLong (level : Level) (found : Found) (pending : Pending) (argument : Text) :
    Except Stop (Found × Pending) :=
  let (name, value?) :=
    match Text.cut? ['='] argument with
    | some (name, value) => (name, some value)
    | none => (argument, none)
  match level.ofLong? name with
  | none => .error .usage
  | some switch =>
    if switch.takesValue then do
      let found ← level.takePending found pending
      match value? with
      | some value => return (← level.take found switch value, .nothing)
      | none => return (found, .option switch none)
    else if value?.isSome then .error .usage
    else do
      let found ← level.takePending found pending
      return (← level.take found switch [], .nothing)

/-- Where a scan ended: at the end of the arguments, or at the name of a command below,
with its arguments. -/
structure Scanned where
  found : Found
  pending : Pending
  command : Option (Text × List Text)

def Level.scanOperands (level : Level) (found : Found) (pending : Pending) : List Text →
    Except Stop Scanned
  | [] => .ok ⟨found, pending, none⟩
  | argument :: rest => do
    let (found, pending) ← level.readOperand found pending argument
    level.scanOperands found pending rest

def Pending.awaitsValue : Pending → Bool
  | .option _ none => true
  | _ => false

/-- The arguments of a command, up to the name of a command below. After two hyphens
only operands follow; one hyphen alone is an operand or a value. -/
def Level.scan (level : Level) (found : Found) (pending : Pending) : List Text →
    Except Stop Scanned
  | [] => .ok ⟨found, pending, none⟩
  | argument :: rest =>
    if !pending.awaitsValue && level.commands.contains argument then
      .ok ⟨found, pending, some (argument, rest)⟩
    else
      match argument with
      | ['-', '-'] => level.scanOperands found pending rest
      | '-' :: '-' :: name => do
        let (found, pending) ← level.readLong found pending name
        level.scan found pending rest
      | '-' :: letter :: letters => do
        let (found, pending) ← level.readLetters found pending (letter :: letters)
        level.scan found pending rest
      | value =>
        match pending with
        | .option switch none => level.scan found (.option switch (some value)) rest
        | pending => do
          let (found, pending) ← level.readOperand found pending value
          level.scan found pending rest

end Snippet.CommandLine
