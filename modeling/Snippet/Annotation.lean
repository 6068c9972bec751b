import Snippet.Text.Blank

/-! Comments added to a snippet. -/

set_option autoImplicit false

namespace Snippet

inductive CommentStyle where
  | line
  | block
  deriving DecidableEq, Repr

namespace CommentStyle

def all : List CommentStyle := [line, block]

def name : CommentStyle → Text
  | line => "line".toList
  | block => "block".toList

def ofName? (name : Text) : Option CommentStyle := all.find? (·.name = name)

end CommentStyle

structure Moment where
  year : Int
  month : Nat
  day : Nat
  hour : Nat
  minute : Nat
  second : Nat
  deriving DecidableEq, Repr

namespace Moment

/-- At least four digits, with a sign outside the years 0 to 9999. -/
def yearText (year : Int) : Text :=
  let digits := Text.ofNatPadded 4 year.natAbs
  if year < 0 then '-' :: digits else if 9999 < year then '+' :: digits else digits

def text (moment : Moment) : Text :=
  yearText moment.year ++ '-' :: Text.ofNatPadded 2 moment.month ++ '-' ::
    Text.ofNatPadded 2 moment.day ++ ' ' :: Text.ofNatPadded 2 moment.hour ++ ':' ::
    Text.ofNatPadded 2 moment.minute ++ ':' :: Text.ofNatPadded 2 moment.second

end Moment

namespace Annotation

/-- Two slashes in front of a line that is not blank and does not begin with them. -/
def line (s : Text) : Text :=
  let trimmed := s.trim
  if trimmed.isEmpty || (Text.after? "//".toList trimmed).isSome then s else "// ".toList ++ s

def header (title : Text) (time : Moment) : Text :=
  "/*\n * ".toList ++ title ++ "\n * Generated: ".toList ++ time.text ++ "\n */".toList

end Annotation

def annotate (style : CommentStyle) (title : Text) (time : Moment) (code : Text) : Text :=
  match style with
  | .line => Text.join ['\n'] ((Text.splitOn '\n' code).map Annotation.line)
  | .block => Annotation.header title time ++ "\n\n".toList ++ code

end Snippet
