import Snippet.Proofs.Detection.Endings
import Snippet.Proofs.Repair

/-! When a second repair changes nothing.

A repaired text is balanced, so a second repair adds no brace, and outside styles it would
have nothing else to do. But the repaired text is detected anew, and the braces keep blanks
at the end of the snippet from being trimmed. So a text whose last word is an `@media` may
have turned into a style, and then it is changed once more.
-/

set_option autoImplicit false

namespace Snippet

variable {code : Text}

namespace Repair

theorem trim_ne_nil (opened : code.count '}' < code.count '{') : code.trim ≠ [] := by
  intro none
  have counted : code.visible.count '{' = code.count '{' := List.count_filter (by decide)
  rw [← Text.visible_trim, none, Text.visible, List.filter_nil, List.count_nil] at counted
  omega

/-- The texts that the missing braces turn into styles. -/
theorem category_closeBraces_eq_css (other : Category.of code ≠ .css) :
    Category.of (closeBraces code) = .css ↔ code.count '}' < code.count '{' ∧
      (detect code).scores.html = 0 ∧
      (detect code).scores.javascript = (detect code).scores.css ∧ EndsInSpacedMedia code := by
  by_cases opened : code.count '}' < code.count '{'
  · have missing : List.replicate (code.count '{' - code.count '}') '}' ≠ [] := by
      rw [Ne, List.replicate_eq_nil_iff]
      omega
    obtain ⟨html, javascript, css⟩ := detect_append_braces
      (fun c member => (List.mem_replicate.mp member).2) missing (trim_ne_nil opened)
    rw [Ne, category_eq_css] at other
    rw [category_eq_css, closeBraces, html, javascript, css]
    by_cases media : EndsInSpacedMedia code
    · simp only [opened, media, if_true, true_and, and_true]
      omega
    · simp only [opened, media, if_false, and_false, iff_false]
      exact other
  · rw [closeBraces_eq_self (Nat.le_of_not_lt opened)]
    exact iff_of_false other fun turned => opened turned.1

theorem terminate_closeBraces_ne (opened : code.count '}' < code.count '{')
    (media : EndsInSpacedMedia code) : terminate (closeBraces code) ≠ closeBraces code := by
  intro same
  obtain ⟨n, missing⟩ := Nat.exists_eq_add_of_lt opened
  have whole : terminate (closeBraces code) = code ++ '}' :: List.replicate n '}' := by
    rw [same, closeBraces, missing, ← List.replicate_succ]
    congr 2
    omega
  have settled : ClosersSettled [] (terminate (closeBraces code)) :=
    closersSettled_terminate fun _ _ c last => by cases last
  obtain ⟨⟨⟨before, ends⟩, -⟩, -⟩ := media
  have last : code.visible.getLast? = some 'a' := by
    rw [← Text.visible_trim, ← ends, Text.visible_append]
    simp [Text.visible, isBlank]
  exact absurd (settled.before_brace whole 'a' last) (by decide)

end Repair

open Repair

/-- Outside styles a repaired text is changed no more, unless the missing braces end a snippet
whose last word is an `@media` and that has as many signals of a script as of a style. -/
theorem repair_repair_eq_iff (other : Category.of code ≠ .css) :
    repair (repair code) = repair code ↔ ¬ (code.count '}' < code.count '{' ∧
      (detect code).scores.html = 0 ∧
      (detect code).scores.javascript = (detect code).scores.css ∧ EndsInSpacedMedia code) := by
  have once : repair code = closeBraces code := by simp [repair, other]
  rw [once, ← category_closeBraces_eq_css other]
  by_cases style : Category.of (closeBraces code) = .css
  · obtain ⟨opened, -, -, media⟩ := (category_closeBraces_eq_css other).mp style
    have twice : repair (closeBraces code) = terminate (closeBraces code) := by
      simp [repair, style, closeBraces_closeBraces]
    rw [twice]
    exact iff_of_false (terminate_closeBraces_ne opened media) (not_not_intro style)
  · have twice : repair (closeBraces code) = closeBraces code := by
      simp [repair, style, closeBraces_closeBraces]
    exact iff_of_true (by rw [twice]) style

theorem repair_repair_eq_iff_script :
    let code := "let a = \x7b @media ".toList
    Category.of code ≠ .css ∧ repair (repair code) = repair code := by
  intro code
  have other : Category.of code ≠ .css := by decide +kernel
  have scores : (detect code).scores.javascript ≠ (detect code).scores.css := by decide +kernel
  exact ⟨other, (repair_repair_eq_iff other).mpr fun turned => scores turned.2.2.1⟩

/-- A rule that is not begun is no style before it is closed. -/
theorem repair_repair_ne_media :
    let code := "\x7b @media ".toList
    Category.of code ≠ .css ∧ repair (repair code) ≠ repair code ∧
      repair code = "\x7b @media \x7d".toList ∧
      repair (repair code) = "\x7b @media; \x7d".toList := by
  decide +kernel

end Snippet
