import Snippet.Text.Basic

/-! Sizes and code units of text in the encodings UTF-8 and UTF-16. -/

set_option autoImplicit false

namespace Snippet

/-- The UTF-16 code units of a character: one, or a high and a low surrogate. -/
def units16 (c : Char) : List Nat :=
  let n := c.toNat
  if n < 0x10000 then [n]
  else [0xD800 + (n - 0x10000) / 0x400, 0xDC00 + (n - 0x10000) % 0x400]

namespace Text

/-- The size in bytes of UTF-8. -/
def bytes (s : Text) : Nat := s.foldr (fun c size => c.utf8Size + size) 0

theorem bytes_nil : bytes [] = 0 := rfl

theorem bytes_cons (c : Char) (s : Text) : bytes (c :: s) = c.utf8Size + bytes s := rfl

theorem bytes_append (s t : Text) : bytes (s ++ t) = bytes s + bytes t := by
  induction s with
  | nil => simp [bytes_nil]
  | cons c s ih => rw [List.cons_append, bytes_cons, ih, bytes_cons, Nat.add_assoc]

theorem bytes_eq_utf8ByteSize (s : Text) : bytes s = (String.ofList s).utf8ByteSize := by
  induction s with
  | nil => rfl
  | cons c s ih =>
    have parts : String.ofList (c :: s) = String.singleton c ++ String.ofList s := by
      rw [← String.toList_inj]
      simp
    rw [bytes_cons, ih, parts, String.utf8ByteSize_append, String.utf8ByteSize_singleton]

/-- The text behind the first `n` bytes of UTF-8; nothing if they are too few or end
inside a character. -/
def dropBytes? : Nat → Text → Option Text
  | 0, s => some s
  | _ + 1, [] => none
  | n + 1, c :: r => if c.utf8Size ≤ n + 1 then dropBytes? (n + 1 - c.utf8Size) r else none

/-- The text of the first `n` bytes of UTF-8, under the same conditions. -/
def takeBytes? : Nat → Text → Option Text
  | 0, _ => some []
  | _ + 1, [] => none
  | n + 1, c :: r =>
    if c.utf8Size ≤ n + 1 then (takeBytes? (n + 1 - c.utf8Size) r).map (c :: ·) else none

def slice? (s : Text) (start stop : Nat) : Option Text :=
  if start ≤ stop then (dropBytes? start s).bind (takeBytes? (stop - start)) else none

theorem exists_bytes_cons (c : Char) (s : Text) :
    ∃ n, bytes (c :: s) = n + 1 ∧ c.utf8Size ≤ n + 1 ∧ n + 1 - c.utf8Size = bytes s := by
  have size := bytes_cons c s
  have some_byte := c.utf8Size_pos
  exact ⟨bytes (c :: s) - 1, by omega, by omega, by omega⟩

theorem dropBytes?_append (s t : Text) : dropBytes? (bytes s) (s ++ t) = some t := by
  induction s with
  | nil => simp [bytes_nil, dropBytes?]
  | cons c s ih =>
    obtain ⟨n, size, fits, rest⟩ := exists_bytes_cons c s
    rw [size, List.cons_append, dropBytes?, if_pos fits, rest, ih]

theorem dropBytes?_eq_some {n : Nat} {s rest : Text} :
    dropBytes? n s = some rest ↔ ∃ front, s = front ++ rest ∧ bytes front = n := by
  constructor
  · intro found
    induction s generalizing n with
    | nil =>
      cases n with
      | zero =>
        cases found
        exact ⟨[], rfl, rfl⟩
      | succ n => cases found
    | cons c r ih =>
      cases n with
      | zero =>
        cases found
        exact ⟨[], rfl, rfl⟩
      | succ n =>
        rw [dropBytes?] at found
        split at found
        · next fits =>
          obtain ⟨front, rfl, size⟩ := ih found
          refine ⟨c :: front, rfl, ?_⟩
          rw [bytes_cons, size]
          omega
        · cases found
  · rintro ⟨front, rfl, rfl⟩
    exact dropBytes?_append front rest

theorem takeBytes?_append (s t : Text) : takeBytes? (bytes s) (s ++ t) = some s := by
  induction s with
  | nil => simp [bytes_nil, takeBytes?]
  | cons c s ih =>
    obtain ⟨n, size, fits, rest⟩ := exists_bytes_cons c s
    rw [size, List.cons_append, takeBytes?, if_pos fits, rest, ih]
    rfl

theorem slice?_append (before part behind : Text) :
    slice? (before ++ (part ++ behind)) (bytes before) (bytes before + bytes part) = some part := by
  rw [slice?, if_pos (Nat.le_add_right _ _), dropBytes?_append, Option.bind_some,
    Nat.add_sub_cancel_left, takeBytes?_append]

/-- The size in code units of UTF-16. -/
def units (s : Text) : Nat := s.foldr (fun c size => (units16 c).length + size) 0

end Text

end Snippet
