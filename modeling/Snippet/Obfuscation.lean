import Snippet.Comment
import Snippet.Detection
import Snippet.Obfuscation.Compression
import Snippet.Obfuscation.Renaming
import Snippet.Obfuscation.Quoted
import Snippet.Obfuscation.Savings

/-! Obfuscation: up to four passes over a snippet, in a fixed order. -/

set_option autoImplicit false

namespace Snippet

inductive Pass where
  | removeComments
  | compressWhitespace
  | renameVariables
  | encodeStrings
  deriving DecidableEq, Repr

namespace Pass

/-- The order in which passes run. -/
def all : List Pass := [removeComments, compressWhitespace, renameVariables, encodeStrings]

def name : Pass → Text
  | removeComments => "remove_comments".toList
  | compressWhitespace => "compress_whitespace".toList
  | renameVariables => "rename_variables".toList
  | encodeStrings => "encode_strings".toList

def apply (category : Category) : Pass → Text → Text
  | removeComments => Snippet.removeComments category
  | compressWhitespace => compress
  | renameVariables => Snippet.renameVariables
  | encodeStrings => Snippet.encodeStrings

def run (category : Category) (passes : List Pass) (code : Text) : Text :=
  passes.foldl (fun text pass => pass.apply category text) code

end Pass

structure PassOptions where
  removeComments : Bool
  compressWhitespace : Bool
  renameVariables : Bool
  encodeStrings : Bool
  deriving DecidableEq, Repr

namespace PassOptions

def none : PassOptions := ⟨false, false, false, false⟩

def all : PassOptions := ⟨true, true, true, true⟩

def has (options : PassOptions) : Pass → Bool
  | .removeComments => options.removeComments
  | .compressWhitespace => options.compressWhitespace
  | .renameVariables => options.renameVariables
  | .encodeStrings => options.encodeStrings

def ofFunction (has : Pass → Bool) : PassOptions :=
  ⟨has .removeComments, has .compressWhitespace, has .renameVariables, has .encodeStrings⟩

def passes (options : PassOptions) : List Pass := Pass.all.filter options.has

def isNone (options : PassOptions) : Bool := options == none

def suggestedFor : Category → PassOptions
  | .empty => none
  | category => ⟨true, true, category.hasScript, category.hasScript⟩

end PassOptions

def obfuscateAs (options : PassOptions) (category : Category) (code : Text) : Text :=
  Pass.run category options.passes code

def obfuscate (options : PassOptions) (code : Text) : Text :=
  obfuscateAs options (Category.of code) code

end Snippet
