import Snippet.Detection
import Snippet.Page.Embedded

/-! Splitting a page: its embedded styles and scripts move to files of their own and
leave references to these files behind. -/

set_option autoImplicit false

namespace Snippet

inductive Part where
  | html
  | css
  | js
  deriving DecidableEq, Repr

namespace Part

def all : List Part := [html, css, js]

def defaultName : Part → Text
  | html => "index.html".toList
  | css => "styles.css".toList
  | js => "script.js".toList

/-- The part of a default name; any other name stands for the page. -/
def ofDefaultName (name : Text) : Part :=
  if name = css.defaultName then css else if name = js.defaultName then js else html

end Part

namespace Embedded

def reference (kind : Embedded) (file : Text) : Text :=
  match kind with
  | style => "<link rel=\"stylesheet\" href=\"".toList ++ file ++ "\">".toList
  | script => "<script src=\"".toList ++ file ++ "\"></script>".toList

def part : Embedded → Part
  | style => .css
  | script => .js

def defaultReference (kind : Embedded) : Text := kind.reference kind.part.defaultName

def extracted (kind : Embedded) (block : Block) : Text :=
  kind.tag.erase block.text ++ ['\n']

def extract (kind : Embedded) (page : Text) : Text :=
  (kind.block.findAll page).flatMap kind.extracted

def substitute (kind : Embedded) (inserted page : Text) : Text :=
  kind.block.replace (fun _ => inserted) page

end Embedded

structure SplitPage where
  html : Text
  css : Text
  js : Text
  deriving DecidableEq, Repr

namespace SplitPage

def empty : SplitPage := ⟨[], [], []⟩

def isEmpty (split : SplitPage) : Bool :=
  split.html.isEmpty && split.css.isEmpty && split.js.isEmpty

def content (split : SplitPage) : Part → Text
  | .html => split.html
  | .css => split.css
  | .js => split.js

def files (split : SplitPage) : List (Part × Text) :=
  (Part.all.map fun part => (part, split.content part)).filter fun (_, text) => !Text.allBlank text

def relink (split : SplitPage) (cssFile jsFile : Text) : SplitPage :=
  let styled := Text.replaceAll Embedded.style.defaultReference (Embedded.style.reference cssFile) split.html
  { split with
    html := Text.replaceAll Embedded.script.defaultReference (Embedded.script.reference jsFile) styled }

end SplitPage

/-- Only markup is split. Both kinds of block are extracted from the page as given;
in the page the styles are replaced first. -/
def splitPage (code : Text) : SplitPage :=
  if (Category.of code).isMarkup then
    { css := Embedded.style.extract code
      js := Embedded.script.extract code
      html := Embedded.script.substitute Embedded.script.defaultReference
        (Embedded.style.substitute Embedded.style.defaultReference code) }
  else .empty

end Snippet
