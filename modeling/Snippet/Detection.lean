import Snippet.Category
import Snippet.Detection.Signal

/-! Detection of the category of a snippet from the signals in it. -/

set_option autoImplicit false

namespace Snippet

structure Scores where
  html : Nat
  javascript : Nat
  css : Nat
  deriving DecidableEq, Repr

namespace Scores

def zero : Scores := ⟨0, 0, 0⟩

def of (s : Text) : Scores where
  html := Signal.ofHtml.countP (·.occursIn s)
  javascript := Signal.ofJavascript.countP (·.occursIn s)
  css := Signal.ofCss.countP (·.occursIn s)

def max (scores : Scores) : Nat := Nat.max (Nat.max scores.html scores.javascript) scores.css

/-- Markup together with a script or a style is mixed, whatever the scores.
Otherwise the highest score decides, the earlier language in a tie. -/
def classify (scores : Scores) : Category :=
  if scores.max = 0 then .unknown
  else if 0 < scores.html ∧ (0 < scores.javascript ∨ 0 < scores.css) then .mixed
  else if scores.html = scores.max then .html
  else if scores.javascript = scores.max then .javascript
  else .css

end Scores

structure Detection where
  category : Category
  scores : Scores
  deriving DecidableEq, Repr

/-- Blanks around a snippet do not count, and a blank snippet is empty. -/
def detect (code : Text) : Detection :=
  let trimmed := code.trim
  if trimmed.isEmpty then ⟨.empty, .zero⟩
  else
    let scores := Scores.of trimmed
    ⟨scores.classify, scores⟩

def Category.of (code : Text) : Category := (detect code).category

def Target.resolve (code : Text) : Target → Category
  | .auto => Category.of code
  | .fixed category => category

end Snippet
