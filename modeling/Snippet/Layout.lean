import Snippet.Detection
import Snippet.Layout.Lines
import Snippet.Layout.Markup

/-! Layout of a snippet by its category. -/

set_option autoImplicit false

namespace Snippet

def layOutAs (category : Category) (code : Text) : Text :=
  match category with
  | .javascript => layOutScript code
  | .css => layOutStyle code
  | .html | .mixed | .unknown | .empty => layOutMarkup code

def layOut (target : Target) (code : Text) : Text := layOutAs (target.resolve code) code

end Snippet
