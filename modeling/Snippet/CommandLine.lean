import Snippet.Annotation
import Snippet.Category
import Snippet.Obfuscation
import Snippet.Prompt
import Snippet.Sample

/-! What can be asked of the program on its command line. -/

set_option autoImplicit false

namespace Snippet

inductive LogLevel where
  | off
  | error
  | warn
  | info
  | debug
  | trace
  deriving DecidableEq, Repr

namespace LogLevel

def all : List LogLevel := [off, error, warn, info, debug, trace]

def name : LogLevel → Text
  | off => "off".toList
  | error => "error".toList
  | warn => "warn".toList
  | info => "info".toList
  | debug => "debug".toList
  | trace => "trace".toList

def ofName? (name : Text) : Option LogLevel := all.find? (·.name = name)

end LogLevel

inductive Shell where
  | bash
  | elvish
  | fish
  | powershell
  | zsh
  deriving DecidableEq, Repr

namespace Shell

def all : List Shell := [bash, elvish, fish, powershell, zsh]

def name : Shell → Text
  | bash => "bash".toList
  | elvish => "elvish".toList
  | fish => "fish".toList
  | powershell => "powershell".toList
  | zsh => "zsh".toList

def ofName? (name : Text) : Option Shell := all.find? (·.name = name)

end Shell

inductive SettingsAction where
  | print
  | path
  | init
  deriving DecidableEq, Repr

namespace SettingsAction

def all : List SettingsAction := [print, path, init]

def name : SettingsAction → Text
  | print => "show".toList
  | path => "path".toList
  | init => "init".toList

def ofName? (name : Text) : Option SettingsAction := all.find? (·.name = name)

end SettingsAction

/-- A command with its own options. A missing input file, or one named `-`, is the
standard input; a missing output file is the standard output. -/
inductive Command where
  | detect (input : Option Text) (json : Bool)
  | obfuscate (input output : Option Text) (chosen : PassOptions) (all stats : Bool)
  | format (input output : Option Text) (target : Option Target)
  | fix (input output : Option Text)
  | split (input : Option Text) (directory : Text) (json : Bool)
  | comment (input output : Option Text) (style : Option CommentStyle)
  | prompt (kind : PromptKind) (context existing : Option Text)
  | sample (sample : Sample)
  | settings (action : SettingsAction)
  | completions (shell : Shell)
  deriving DecidableEq, Repr

structure Invocation where
  settingsPath : Option Text
  verbose : Bool
  logLevel : Option LogLevel
  copy : Bool
  command : Command
  deriving DecidableEq, Repr

/-- The level of logging that was asked for; a level asked for by name wins. -/
def Invocation.level (invocation : Invocation) : Option LogLevel :=
  invocation.logLevel.or (if invocation.verbose then some .debug else none)

end Snippet
