import Snippet.Text.Blank
import Snippet.Text.Word

/-! Signals: the small marks in a text that speak for one of the languages.

A signal either occurs in a text or does not; how often does not matter. Words
are ASCII words, so a letter outside ASCII ends one like any other character. -/

set_option autoImplicit false

namespace Snippet

inductive Signal where
  /-- A `<` and the name of a tag in any ASCII case; the name ends there. -/
  | tag : Text → Signal
  /-- A text, wherever it stands. -/
  | anywhere : Text → Signal
  /-- A whole word. -/
  | word : Text → Signal
  /-- A text, then perhaps blanks, then the character. -/
  | before : Text → Char → Signal
  /-- The same, where the text begins a word. -/
  | wordBefore : Text → Char → Signal
  /-- A text with a blank behind it. -/
  | beforeBlank : Text → Signal
  /-- An opening brace, a name of ASCII letters and hyphens, and a colon, perhaps
  with blanks between them. -/
  | property : Signal
  deriving DecidableEq, Repr

namespace Signal

def isPropertyChar (c : Char) : Bool := c.isAlpha || c == '-'

def blanksThen (c : Char) (s : Text) : Bool := s.dropBlanks.head? == some c

def wordBegins (previous : Option Char) : Bool := !previous.any isWord

/-- Whether an occurrence begins at the front of a text, given the character before it. -/
def startsAt (previous : Option Char) (s : Text) : Signal → Bool
  | tag name =>
    match s with
    | '<' :: r => (Text.afterName? name r).any Text.wordEnds
    | _ => false
  | anywhere text => (Text.after? text s).isSome
  | word keyword => wordBegins previous && (Text.after? keyword s).any Text.wordEnds
  | before text c => (Text.after? text s).any (blanksThen c)
  | wordBefore keyword c =>
    wordBegins previous && (Text.after? keyword s).any (blanksThen c)
  | beforeBlank text => (Text.after? text s).any fun rest => rest.head?.any isBlank
  | property =>
    match s with
    | '{' :: r =>
      let inner := Text.dropBlanks r
      inner.head?.any isPropertyChar && blanksThen ':' (inner.dropWhile isPropertyChar)
    | _ => false

/-- Whether an occurrence begins in a text or at its end, given the character before it. -/
def occursFrom (signal : Signal) (previous : Option Char) : Text → Bool
  | [] => signal.startsAt previous []
  | c :: r => signal.startsAt previous (c :: r) || signal.occursFrom (some c) r

def occursIn (signal : Signal) (s : Text) : Bool := signal.occursFrom none s

def ofHtml : List Signal :=
  [ tag "html".toList, tag "body".toList, tag "div".toList, tag "span".toList, tag "p".toList,
    tag "script".toList, tag "style".toList, tag "link".toList, tag "meta".toList ]

def ofJavascript : List Signal :=
  [ before "function".toList '(',
    word "var".toList, word "let".toList, word "const".toList,
    anywhere "=>".toList,
    wordBefore "if".toList '(', wordBefore "for".toList '(', wordBefore "while".toList '(',
    anywhere "console.log".toList, anywhere "document.".toList, anywhere "window.".toList,
    anywhere "addEventListener".toList ]

def ofCss : List Signal :=
  [ property,
    wordBefore "color".toList ':', wordBefore "width".toList ':', wordBefore "height".toList ':',
    wordBefore "margin".toList ':', wordBefore "padding".toList ':',
    beforeBlank "@media".toList,
    wordBefore "class".toList '\x7b' ]

end Signal

end Snippet
