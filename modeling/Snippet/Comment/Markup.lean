import Snippet.Text.Blank
import Snippet.Text.Units

/-! Comments of markup.

The markers of conditional comments are no comments; the search goes on one
byte behind their beginning. The scan knows places by their offsets in bytes of
UTF-8, and what it keeps are the parts of the text between two of them. -/

set_option autoImplicit false

namespace Snippet.Comment

def opener : Text := "<!--".toList

def closer : Text := "-->".toList

/-- Whether what stands behind an opener makes it the marker of a conditional comment. -/
def isConditional (body : Text) : Bool :=
  (Text.after? "<![endif]".toList body).isSome ||
  (Text.after? "[if".toList body).any fun rest => rest.head?.any isBlank

/-- How far a scan has come: the search goes on at one offset, and what stands in front of
another one is removed or copied to `result`. -/
structure Scan where
  searchFrom : Nat
  copiedTo : Nat
  result : Text
  deriving DecidableEq, Repr

inductive Turn where
  | again (scan : Scan)
  | ended
  deriving DecidableEq, Repr

namespace Scan

def start : Scan := ⟨0, 0, []⟩

/-- One turn of the search, which fails at an offset outside the text or inside a character.
An opener without a closer ends the search, since no later one can have a closer either. -/
def turn? (s : Text) (scan : Scan) : Option Turn := do
  let sought ← Text.dropBytes? scan.searchFrom s
  match Text.cut? opener sought with
  | none => return .ended
  | some (before, _) =>
    let start := scan.searchFrom + Text.bytes before
    let inner := start + Text.bytes opener
    let body ← Text.dropBytes? inner s
    if isConditional body then return .again { scan with searchFrom := start + 1 }
    else
      match Text.cut? closer body with
      | none => return .ended
      | some (inside, _) =>
        let stop := inner + Text.bytes inside + Text.bytes closer
        let kept ← Text.slice? s scan.copiedTo start
        return .again ⟨stop, stop, scan.result ++ kept⟩

theorem searchFrom_lt_of_turn? {s : Text} {scan next : Scan}
    (turned : scan.turn? s = some (.again next)) :
    scan.searchFrom < next.searchFrom ∧ next.searchFrom ≤ Text.bytes s := by
  have some_byte : Text.bytes opener = 4 := by decide
  simp only [turn?, Option.bind_eq_bind, Option.bind_eq_some_iff] at turned
  obtain ⟨sought, behind, turned⟩ := turned
  obtain ⟨front, rfl, size⟩ := Text.dropBytes?_eq_some.mp behind
  split at turned
  · cases turned
  · next before _ found =>
    have whole := Text.eq_append_of_cut? found
    simp only [Option.bind_eq_some_iff] at turned
    obtain ⟨body, inner, turned⟩ := turned
    obtain ⟨open_front, same, opened⟩ := Text.dropBytes?_eq_some.mp inner
    have bounded : Text.bytes (front ++ sought) = Text.bytes open_front + Text.bytes body := by
      rw [same, Text.bytes_append]
    split at turned
    · cases turned
      simp only
      omega
    · split at turned
      · cases turned
      · next inside rest closed =>
        have comment := Text.eq_append_of_cut? closed
        rw [comment, Text.bytes_append (inside ++ closer), Text.bytes_append inside] at bounded
        simp only [Option.bind_eq_some_iff] at turned
        obtain ⟨kept, -, turned⟩ := turned
        cases turned
        simp only
        omega

def run? (s : Text) (scan : Scan) : Option Text :=
  match _turned : scan.turn? s with
  | none => none
  | some .ended => (Text.dropBytes? scan.copiedTo s).map (scan.result ++ ·)
  | some (.again next) => next.run? s
  termination_by Text.bytes s - scan.searchFrom
  decreasing_by
    have forward := searchFrom_lt_of_turn? _turned
    omega

theorem run?_ended {s : Text} {scan : Scan} (turned : scan.turn? s = some .ended) :
    scan.run? s = (Text.dropBytes? scan.copiedTo s).map (scan.result ++ ·) := by
  rw [run?]
  split <;> simp_all

theorem run?_again {s : Text} {scan next : Scan} (turned : scan.turn? s = some (.again next)) :
    scan.run? s = next.run? s := by
  rw [run?]
  split <;> simp_all

end Scan

def eraseMarkup (s : Text) : Text := (Scan.start.run? s).getD s

end Snippet.Comment
