import Snippet.Category
import Snippet.Comment.Script
import Snippet.Comment.Markup

/-! Removal of the comments that a category can hold. -/

set_option autoImplicit false

namespace Snippet

/-- Scripts lose line comments and then block comments, styles block comments,
markup its own comments; a mixed snippet loses all of them in this order. -/
def removeComments (category : Category) (code : Text) : Text :=
  match category with
  | .javascript => Comment.block.erase (Comment.line.erase code)
  | .css => Comment.block.erase code
  | .html => Comment.eraseMarkup code
  | .mixed =>
    Comment.eraseMarkup (Comment.block.erase (Comment.block.erase (Comment.line.erase code)))
  | .unknown | .empty => code

end Snippet
