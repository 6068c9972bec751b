import Snippet.Annotation
import Snippet.Clipboard
import Snippet.Theme

/-! What the program needs from the system it runs on. -/

set_option autoImplicit false

namespace Snippet

inductive FileError where
  | notFound
  | alreadyExists
  | notDirectory
  | isDirectory
  | nameTooLong
  /-- The bytes are not valid UTF-8. -/
  | notText
  /-- Anything else, in the words of the system. -/
  | other (message : Text)
  deriving DecidableEq, Repr

def FileError.message : FileError → Text
  | notFound => "No such file or directory (os error 2)".toList
  | alreadyExists => "File exists (os error 17)".toList
  | notDirectory => "Not a directory (os error 20)".toList
  | isDirectory => "Is a directory (os error 21)".toList
  | nameTooLong => "File name too long (os error 36)".toList
  | notText => "stream did not contain valid UTF-8".toList
  | other message => message

structure Host (m : Type → Type) where
  /-- Whether something is there, and can be told to be there. -/
  pathExists : Text → m Bool
  readFile : Text → m (Except FileError Text)
  writeFile : Text → Text → m (Except FileError Unit)
  /-- A directory with all those above it; one that exists is no error. -/
  createDirectories : Text → m (Except FileError Unit)
  /-- The rest of the standard input. -/
  readInput : m (Except FileError Text)
  writeOutput : Text → m Unit
  writeError : Text → m Unit
  now : m Moment
  clipboard : List (Clipboard.Access m)

structure Environment where
  /-- A path to the settings that overrides the usual one. -/
  settingsVariable : Option Text
  /-- The directory in which programs keep their settings. -/
  settingsDirectory : Option Text
  theme : Theme

def joinPath (directory name : Text) : Text :=
  if directory.isEmpty || directory.getLast? == some '/' then directory ++ name
  else directory ++ '/' :: name

/-- The parts of a path between its slashes that mean something: neither empty parts nor,
behind the first, single dots do. -/
def pathParts (path : Text) : List Text :=
  match Text.splitOn '/' path with
  | [] => []
  | first :: others => (first :: others.filter (· != ['.'])).filter (!·.isEmpty)

/-- A path that stands for the standard input: a lone hyphen. Slashes and dots behind it
mean nothing. -/
def isHyphen (path : Text) : Bool := path.head? == some '-' && pathParts path == [['-']]

/-- The path above; empty for a single name, nothing for the root. -/
def parentPath? (path : Text) : Option Text :=
  let root := if path.head? == some '/' then ['/'] else []
  match pathParts path with
  | [] => none
  | parts => some (root ++ Text.join ['/'] parts.dropLast)

end Snippet
