import Snippet.Number.Size
import Snippet.Text.Units

/-! Copying text to the clipboard by the first tool that takes it. -/

set_option autoImplicit false

namespace Snippet

inductive ClipboardTool where
  | pbcopy
  | xclip
  | xsel
  | wlCopy
  deriving DecidableEq, Repr

namespace ClipboardTool

def all : List ClipboardTool := [pbcopy, xclip, xsel, wlCopy]

def name : ClipboardTool → Text
  | pbcopy => "pbcopy".toList
  | xclip => "xclip".toList
  | xsel => "xsel".toList
  | wlCopy => "wl-copy".toList

def ofName? (name : Text) : Option ClipboardTool := all.find? (·.name = name)

def arguments : ClipboardTool → List Text
  | pbcopy => []
  | xclip => ["-selection".toList, "clipboard".toList]
  | xsel => ["--clipboard".toList, "--input".toList]
  | wlCopy => []

/-- The tools for Linux, in the order in which they are tried. -/
def onLinux : List ClipboardTool := [xclip, xsel, wlCopy]

end ClipboardTool

inductive CopyAnswer where
  | done
  | notFound
  | failed (message : Text)
  deriving DecidableEq, Repr

structure CopyReport where
  tool : ClipboardTool
  bytes : Nat
  deriving DecidableEq, Repr

def CopyReport.message (report : CopyReport) (what : Text) : Text :=
  "Copied ".toList ++ what ++ " to clipboard (".toList ++ Size.text report.bytes ++
    ", via ".toList ++ report.tool.name ++ ")".toList

inductive CopyError where
  | emptyText
  | noTool
  | toolFailed (tool : ClipboardTool) (message : Text)
  deriving DecidableEq, Repr

def CopyError.message : CopyError → Text
  | emptyText => "Nothing to copy".toList
  | noTool =>
    "No clipboard tool available. On Linux, install xclip, xsel, or wl-copy.".toList
  | toolFailed tool message =>
    "Clipboard tool '".toList ++ tool.name ++ "' failed: ".toList ++ message

namespace Clipboard

structure Access (m : Type → Type) where
  tool : ClipboardTool
  isAvailable : m Bool
  copy : Text → m CopyAnswer

variable {m : Type → Type} [Monad m]

/-- Try tools in order. A tool that is not available or not found is passed over; of
those that fail the last one is reported if none succeeds. -/
def copyWith (text : Text) : (failure : CopyError) → List (Access m) →
    m (Except CopyError CopyReport)
  | failure, [] => return .error failure
  | failure, access :: others => do
    if ← access.isAvailable then
      match ← access.copy text with
      | .done => return .ok ⟨access.tool, Text.bytes text⟩
      | .notFound => copyWith text failure others
      | .failed message => copyWith text (.toolFailed access.tool message) others
    else copyWith text failure others

def copy (tools : List (Access m)) (text : Text) : m (Except CopyError CopyReport) :=
  if text.isEmpty then return .error .emptyText else copyWith text .noTool tools

inductive Call where
  | probe (tool : ClipboardTool)
  | copy (tool : ClipboardTool) (text : Text)
  deriving DecidableEq, Repr

/-- A tool whose answers are known beforehand. -/
structure Scripted where
  tool : ClipboardTool
  available : Bool
  answer : CopyAnswer
  deriving DecidableEq, Repr

def Scripted.access (scripted : Scripted) : Access (StateM (List Call)) where
  tool := scripted.tool
  isAvailable := do
    modify (· ++ [.probe scripted.tool])
    return scripted.available
  copy text := do
    modify (· ++ [.copy scripted.tool text])
    return scripted.answer

def copyScripted (tools : List Scripted) (text : Text) :
    Except CopyError CopyReport × List Call :=
  (copy (tools.map Scripted.access) text).run []

end Clipboard

end Snippet
