import Snippet.Program
import Snippet.Program.FileTree

/-! The program run on a machine that is a value. -/

set_option autoImplicit false

namespace Snippet

structure Machine where
  tree : FileTree
  /-- The directory in which the program runs. -/
  directory : FileTree.Place
  /-- What is left of the standard input. -/
  input : Content
  output : Text
  error : Text
  now : Moment
  /-- The clipboard tools that exist, each with its exit status. -/
  tools : List (ClipboardTool × Nat)
  /-- What the tools were given, in order. -/
  copied : List (ClipboardTool × Text)

namespace Machine

def copy (tool : ClipboardTool) (text : Text) : StateM Machine CopyAnswer := do
  match (← get).tools.find? (·.1 == tool) with
  | none => return .notFound
  | some (_, status) =>
    modify fun machine => { machine with copied := machine.copied ++ [(tool, text)] }
    if status = 0 then return .done
    else
      return .failed (tool.name ++ " failed (exit status: ".toList ++ Text.ofNat status ++ [')'])

def changeTree (change : Machine → Except FileError FileTree) :
    StateM Machine (Except FileError Unit) := do
  match change (← get) with
  | .ok tree =>
    modify fun machine => { machine with tree := tree }
    return .ok ()
  | .error e => return .error e

def host : Host (StateM Machine) where
  pathExists path := return (← get).tree.pathExists (← get).directory path
  readFile path := return (← get).tree.read (← get).directory path
  writeFile path text := changeTree fun machine => machine.tree.write machine.directory path text
  createDirectories path :=
    changeTree fun machine => machine.tree.createDirectories machine.directory path
  readInput := do
    match (← get).input with
    | .bytes => return .error .notText
    | .text text =>
      modify fun machine => { machine with input := .text [] }
      return .ok text
  writeOutput text := modify fun machine => { machine with output := machine.output ++ text }
  writeError text := modify fun machine => { machine with error := machine.error ++ text }
  now := return (← get).now
  clipboard := ClipboardTool.onLinux.map fun tool =>
    { tool
      isAvailable := return (← get).tools.any (·.1 == tool)
      copy := copy tool }

def run (machine : Machine) (environment : Environment) (arguments : List Text) : Nat × Machine :=
  (Program.main host environment arguments).run machine

end Machine

end Snippet
