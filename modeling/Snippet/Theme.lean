import Snippet.Text.Basic

/-! Colours of status lines on a terminal. -/

set_option autoImplicit false

namespace Snippet

inductive Colour where
  | red
  | green
  | yellow
  | cyan
  | gray
  | darkGray
  | white
  deriving DecidableEq, Repr

namespace Colour

def all : List Colour := [red, green, yellow, cyan, gray, darkGray, white]

def name : Colour → Text
  | red => "red".toList
  | green => "green".toList
  | yellow => "yellow".toList
  | cyan => "cyan".toList
  | gray => "gray".toList
  | darkGray => "dark_gray".toList
  | white => "white".toList

def ofName? (name : Text) : Option Colour := all.find? (·.name = name)

def code : Colour → Nat
  | red => 31
  | green => 32
  | yellow => 33
  | cyan => 36
  | gray => 37
  | darkGray => 90
  | white => 97

end Colour

inductive Role where
  | primary
  | secondary
  | accent
  | error
  | success
  deriving DecidableEq, Repr

structure Theme where
  colour : Role → Colour
  enabled : Bool

namespace Theme

def standard : Theme where
  colour
    | .primary => .gray
    | .secondary => .darkGray
    | .accent => .green
    | .error => .red
    | .success => .green
  enabled := true

def plain : Theme := { standard with enabled := false }

def withColour (theme : Theme) (role : Role) (colour : Colour) : Theme :=
  { theme with colour := fun r => if r = role then colour else theme.colour r }

/-- A control sequence that sets a graphic rendition. -/
def select (code : Nat) : Text := '\x1b' :: '[' :: Text.ofNat code ++ ['m']

def paint (theme : Theme) (role : Role) (s : Text) : Text :=
  if theme.enabled then select (theme.colour role).code ++ s ++ select 0 else s

end Theme

end Snippet
