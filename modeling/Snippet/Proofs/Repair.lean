import Snippet.Proofs.Layout
import Snippet.Repair

/-! What repair adds.

Repair closes what is left open and, in a style, ends the last declaration in front of
each closing brace. So the braces of a text are only added to, every visible character
keeps its place, and in a repaired style a closing brace stands behind a semicolon or
another brace.
-/

set_option autoImplicit false

namespace Snippet

variable {s rest front before after : Text} {c : Char}

namespace Repair

/-! ## Closing braces -/

theorem count_opening_closeBraces (code : Text) :
    (closeBraces code).count '{' = code.count '{' := by
  simp [closeBraces, List.count_replicate]

theorem count_closing_closeBraces (code : Text) :
    (closeBraces code).count '}' = max (code.count '{') (code.count '}') := by
  rw [closeBraces, List.count_append, List.count_replicate_self]
  omega

theorem closeBraces_eq_self (closed : s.count '{' ≤ s.count '}') : closeBraces s = s := by
  rw [closeBraces, Nat.sub_eq_zero_of_le closed, List.replicate_zero, List.append_nil]

theorem closeBraces_closeBraces (code : Text) :
    closeBraces (closeBraces code) = closeBraces code := by
  apply closeBraces_eq_self
  rw [count_opening_closeBraces, count_closing_closeBraces]
  omega

/-! ## Semicolons -/

theorem unterminated_read_eq_some : unterminated.read s = some (c, rest) ↔
    ∃ gap, s = c :: (gap ++ '}' :: rest) ∧ (∀ d ∈ gap, isBlank d) ∧ c ≠ ';' ∧ c ≠ '{' := by
  constructor
  · intro found
    simp only [unterminated] at found
    split at found
    · next d r =>
      split at found
      · cases found
      · next other =>
        split at found
        · next behind =>
          cases found
          refine ⟨Text.leadingBlanks r, ?_, fun d => Text.isBlank_of_mem_leadingBlanks, ?_⟩
          · rw [← behind, Text.leadingBlanks_append_dropBlanks]
          · exact not_or.mp other
        · cases found
    · cases found
  · rintro ⟨gap, rfl, blank, semicolon, opening⟩
    have behind : Text.dropBlanks (gap ++ '}' :: rest) = '}' :: rest :=
      Text.dropBlanks_gap blank (by decide) rest
    simp [unterminated, semicolon, opening, behind]

theorem terminate_nil : terminate [] = [] := unterminated.replace_nil _

theorem terminate_none {r : Text} (kept : unterminated.read (c :: r) = none) :
    terminate (c :: r) = c :: terminate r :=
  unterminated.replace_none _ kept

theorem terminate_some (taken : unterminated.read s = some (c, rest)) :
    terminate s = [c, ';', ' ', '}'] ++ terminate rest :=
  unterminated.replace_some _ taken

/-- A closing brace gets a semicolon directly in front of it. -/
def SemicolonAdded (old new : Text) : Prop := old = ['}'] ∧ new = [';', '}']

theorem semicolonAdded_terminate (s : Text) :
    Rewriting SemicolonAdded s.visible (terminate s).visible := by
  induction s using unterminated.scan_induction with
  | done =>
    rw [terminate_nil]
    exact .done
  | keep c r kept ih =>
    rw [terminate_none kept, Text.visible_cons, Text.visible_cons c (terminate r)]
    exact ih.append_front _
  | take s c rest taken ih =>
    rw [terminate_some taken]
    obtain ⟨gap, rfl, blank, -, -⟩ := unterminated_read_eq_some.mp taken
    have old : Text.visible (c :: (gap ++ '}' :: rest)) =
        Text.visible [c] ++ (['}'] ++ rest.visible) := by
      rw [Text.visible_cons, Text.visible_append, Text.visible_of_blank blank, List.nil_append]
      rfl
    have new : Text.visible ([c, ';', ' ', '}'] ++ terminate rest) =
        Text.visible [c] ++ ([';', '}'] ++ (terminate rest).visible) := by
      rw [Text.visible_append, Text.visible_cons, List.append_assoc]
      rfl
    rw [old, new]
    exact (Rewriting.write ⟨rfl, rfl⟩ ih).append_front _

theorem count_terminate {brace : Char} (isBrace : brace = '{' ∨ brace = '}') (s : Text) :
    (terminate s).count brace = s.count brace := by
  have visible : isBlank brace = false := by rcases isBrace with rfl | rfl <;> decide
  have counted (t : Text) : t.visible.count brace = t.count brace :=
    List.count_filter (by simp [visible])
  rw [← counted s, ← counted (terminate s)]
  apply (semicolonAdded_terminate s).count_eq
  rintro _ _ ⟨rfl, rfl⟩
  rcases isBrace with rfl | rfl <;> decide

/-! ## What stands in front of a closing brace -/

/-- The last visible character, if there is one, is a semicolon or a brace. -/
def EndsSettled (s : Text) : Prop := ∀ c ∈ s.visible.getLast?, c = ';' ∨ c = '{' ∨ c = '}'

theorem endsSettled_concat (settled : c = ';' ∨ c = '{' ∨ c = '}') (s : Text) :
    EndsSettled (s ++ [c]) := by
  have visible : Text.visible [c] = [c] := by rcases settled with rfl | rfl | rfl <;> rfl
  intro d last
  rw [Text.visible_append, visible, List.getLast?_concat] at last
  cases last
  exact settled

theorem endsSettled_blank (blank : isBlank c) (settled : EndsSettled s) : EndsSettled (s ++ [c]) := by
  have dropped : Text.visible [c] = [] := Text.visible_of_blank (by simpa using blank)
  rwa [EndsSettled, Text.visible_append, dropped, List.append_nil]

/-- Behind `front`, each closing brace of the text has a settled end in front of it. -/
def ClosersSettled (front : Text) : Text → Prop
  | [] => True
  | c :: r => (c = '}' → EndsSettled front) ∧ ClosersSettled (front ++ [c]) r

theorem ClosersSettled.before_brace (settled : ClosersSettled front s)
    (whole : s = before ++ '}' :: after) : EndsSettled (front ++ before) := by
  induction before generalizing front s with
  | nil =>
    subst whole
    rw [List.append_nil]
    exact settled.1 rfl
  | cons c before ih =>
    subst whole
    rw [← List.singleton_append, ← List.append_assoc]
    exact ih settled.2 rfl

/-- A brace at the front of what is scanned is kept, and so has to be settled already. -/
theorem closersSettled_terminate (ready : ∀ r, s = '}' :: r → EndsSettled front) :
    ClosersSettled front (terminate s) := by
  induction s using unterminated.scan_induction generalizing front with
  | done =>
    rw [terminate_nil]
    trivial
  | keep c r kept ih =>
    rw [terminate_none kept]
    refine ⟨fun closing => ready r (by rw [closing]), ih ?_⟩
    -- What is kept directly in front of a closing brace is a semicolon or an opening brace.
    rintro rest rfl
    apply endsSettled_concat
    by_contra unsettled
    obtain ⟨semicolon, opening, -⟩ : c ≠ ';' ∧ c ≠ '{' ∧ c ≠ '}' := by simpa using unsettled
    have taken : unterminated.read (c :: '}' :: rest) = some (c, rest) :=
      unterminated_read_eq_some.mpr ⟨[], rfl, by simp, semicolon, opening⟩
    rw [taken] at kept
    cases kept
  | take s c rest taken ih =>
    rw [terminate_some taken]
    obtain ⟨gap, rfl, -⟩ := unterminated_read_eq_some.mp taken
    have semicolon : EndsSettled (front ++ [c] ++ [';']) := endsSettled_concat (.inl rfl) _
    have space : EndsSettled (front ++ [c] ++ [';'] ++ [' ']) :=
      endsSettled_blank (by decide) semicolon
    refine ⟨fun closing => ready _ (by rw [closing]), fun other => absurd other (by decide),
      fun other => absurd other (by decide), fun _ => space, ih ?_⟩
    exact fun _ _ => endsSettled_concat (.inr (.inr rfl)) _

end Repair

open Repair

/-- Repair adds the braces that are missing at the end, and in a style at most one semicolon
in front of each closing brace, so that none follows a declaration that is not ended. -/
theorem repair_balances (code : Text) :
    let closed := code ++ List.replicate (code.count '{' - code.count '}') '}'
    (repair code).count '{' = code.count '{' ∧
    (repair code).count '}' = max (code.count '{') (code.count '}') ∧
    (Category.of code ≠ .css → repair code = closed) ∧
    (Category.of code = .css → Rewriting SemicolonAdded closed.visible (repair code).visible ∧
      ∀ before after, repair code = before ++ '}' :: after → EndsSettled before) := by
  intro closed
  by_cases style : Category.of code = .css
  · have repaired : repair code = terminate (closeBraces code) := by simp [repair, style]
    rw [repaired]
    refine ⟨?_, ?_, fun other => absurd style other, fun _ => ⟨?_, fun before after whole => ?_⟩⟩
    · rw [count_terminate (.inl rfl), count_opening_closeBraces]
    · rw [count_terminate (.inr rfl), count_closing_closeBraces]
    · exact semicolonAdded_terminate (closeBraces code)
    · have settled : ClosersSettled [] (terminate (closeBraces code)) :=
        closersSettled_terminate fun _ _ c last => by cases last
      exact settled.before_brace whole
  · have repaired : repair code = closeBraces code := by simp [repair, style]
    rw [repaired]
    exact ⟨count_opening_closeBraces code, count_closing_closeBraces code, fun _ => rfl,
      fun isStyle => absurd isStyle style⟩

theorem repair_balances_cases :
    let style := "p\x7bcolor:red\x7d\x7d a\x7bb: \x7b c".toList
    let script := "var a = \x7bb: \x7b c".toList
    (Category.of style = .css ∧ repair style = "p\x7bcolor:red; \x7d\x7d a\x7bb: \x7b c; \x7d".toList ∧
      ∀ before after, repair style = before ++ '}' :: after → EndsSettled before) ∧
    Category.of script ≠ .css ∧ repair script = script ++ "\x7d\x7d".toList := by
  intro style script
  have isStyle : Category.of style = .css := by decide +kernel
  have isScript : Category.of script ≠ .css := by decide +kernel
  refine ⟨⟨isStyle, by decide +kernel, ?_⟩, isScript, ?_⟩
  · exact ((repair_balances style).2.2.2 isStyle).2
  · exact (repair_balances script).2.2.1 isScript

end Snippet
