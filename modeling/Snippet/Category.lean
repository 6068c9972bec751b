import Snippet.Text.Blank

/-! The kinds of snippet that the detector tells apart, and their names. -/

set_option autoImplicit false

namespace Snippet

inductive Category where
  | html
  | javascript
  | css
  | mixed
  | unknown
  | empty
  deriving DecidableEq, Repr

namespace Category

def all : List Category := [.html, .javascript, .css, .mixed, .unknown, .empty]

theorem mem_all (category : Category) : category ∈ all := by
  cases category <;> decide

def name : Category → Text
  | html => "html".toList
  | javascript => "javascript".toList
  | css => "css".toList
  | mixed => "mixed".toList
  | unknown => "unknown".toList
  | empty => "empty".toList

def label : Category → Text
  | html => "HTML".toList
  | javascript => "JavaScript".toList
  | css => "CSS".toList
  | mixed => "Mixed".toList
  | unknown => "Unknown".toList
  | empty => "Detecting...".toList

def hasScript : Category → Bool
  | javascript | mixed => true
  | _ => false

def isMarkup : Category → Bool
  | html | mixed => true
  | _ => false

/-- The category of a name in small letters; `js` is short for `javascript`. -/
def ofName? (name : Text) : Option Category :=
  if name = "js".toList then some javascript else all.find? (·.name = name)

theorem ofName?_name (category : Category) : ofName? category.name = some category := by
  cases category <;> decide

end Category

structure UnknownCategory where
  given : Text
  deriving DecidableEq, Repr

def UnknownCategory.message (e : UnknownCategory) : Text :=
  "Unknown code type '".toList ++ e.given ++
    "' (expected html, javascript, css, mixed, unknown or empty)".toList

/-- Names are read in any ASCII case and with blanks around them. -/
def Category.parse (given : Text) : Except UnknownCategory Category :=
  match ofName? given.trim.lower with
  | some category => .ok category
  | none => .error ⟨given⟩

inductive Target where
  | auto
  | fixed : Category → Target
  deriving DecidableEq, Repr

namespace Target

def name : Target → Text
  | auto => "auto".toList
  | fixed category => category.name

def parse (given : Text) : Except UnknownCategory Target :=
  if given.trim.lower = "auto".toList then .ok auto else (Category.parse given).map fixed

end Target

end Snippet
