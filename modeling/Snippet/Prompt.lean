import Snippet.Text.Blank

/-! Instructions for an assistant, put together from fixed texts. -/

set_option autoImplicit false

namespace Snippet

inductive PromptKind where
  | replace
  | decompose
  | globalVariables
  | optimize
  deriving DecidableEq, Repr

namespace PromptKind

def all : List PromptKind := [replace, decompose, globalVariables, optimize]

def name : PromptKind → Text
  | replace => "replace".toList
  | decompose => "decompose".toList
  | globalVariables => "global-variables".toList
  | optimize => "optimize".toList

def ofName? (name : Text) : Option PromptKind := all.find? (·.name = name)

def instruction : PromptKind → Text
  | replace => "Tell me how to change it using find-and-replace steps:".toList
  | decompose => "Take this code apart and separate it into modules by feature".toList
  | globalVariables => "Add global variables so that functions can share data".toList
  | optimize => "Optimize this code for performance and readability".toList

end PromptKind

namespace Prompt

/-- An addition to a prompt, with an empty line between them unless the prompt is empty. -/
def append (existing addition : Text) : Text :=
  if existing.isEmpty then addition else existing ++ "\n\n".toList ++ addition

def addition (kind : PromptKind) (context : Option Text) : Text :=
  match context.filter (!Text.allBlank ·) with
  | some code => kind.instruction ++ "\n\nCode context:\n".toList ++ code
  | none => kind.instruction

def build (existing : Text) (kind : PromptKind) (context : Option Text) : Text :=
  append existing (addition kind context)

end Prompt

end Snippet
