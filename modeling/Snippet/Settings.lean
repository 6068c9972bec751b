import Snippet.Annotation
import Snippet.FileName
import Snippet.Obfuscation
import Snippet.Page

/-! Settings of the program, with a default for each. -/

set_option autoImplicit false

namespace Snippet

/-- Passes switched on or off; a pass without a switch follows the suggestion. -/
structure PassSwitches where
  removeComments : Option Bool
  compressWhitespace : Option Bool
  renameVariables : Option Bool
  encodeStrings : Option Bool
  deriving DecidableEq, Repr

namespace PassSwitches

def unset : PassSwitches := ⟨none, none, none, none⟩

def get (switches : PassSwitches) : Pass → Option Bool
  | .removeComments => switches.removeComments
  | .compressWhitespace => switches.compressWhitespace
  | .renameVariables => switches.renameVariables
  | .encodeStrings => switches.encodeStrings

def set (switches : PassSwitches) (value : Bool) : Pass → PassSwitches
  | .removeComments => { switches with removeComments := some value }
  | .compressWhitespace => { switches with compressWhitespace := some value }
  | .renameVariables => { switches with renameVariables := some value }
  | .encodeStrings => { switches with encodeStrings := some value }

def optionsFor (switches : PassSwitches) (category : Category) : PassOptions :=
  .ofFunction fun pass => (switches.get pass).getD ((PassOptions.suggestedFor category).has pass)

end PassSwitches

structure PartNames where
  html : Text
  css : Text
  js : Text
  deriving DecidableEq, Repr

namespace PartNames

def default : PartNames :=
  ⟨Part.html.defaultName, Part.css.defaultName, Part.js.defaultName⟩

def get (names : PartNames) : Part → Text
  | .html => names.html
  | .css => names.css
  | .js => names.js

def resolve (names : PartNames) : Except FileNameError PartNames := do
  let html ← FileName.resolve names.html Part.html.defaultName
  let css ← FileName.resolve names.css Part.css.defaultName
  let js ← FileName.resolve names.js Part.js.defaultName
  return ⟨html, css, js⟩

end PartNames

structure Settings where
  passes : PassSwitches
  target : Target
  names : PartNames
  style : CommentStyle
  title : Text
  deriving DecidableEq, Repr

def Settings.default : Settings where
  passes := .unset
  target := .auto
  names := .default
  style := .line
  title := "Code file".toList

end Snippet
