import Snippet.Program
import Snippet.Proofs.Toml.Document

/-! Settings that are written are read back as they were.

A switch that is not set is left out of the document, and reading leaves it unset; every
other setting is written, and takes the place of its default.
-/

set_option autoImplicit false

namespace Snippet

theorem Target.parse_name (target : Target) : Target.parse target.name = .ok target := by
  cases target with
  | auto => decide
  | fixed category => cases category <;> decide

namespace Settings

open Toml (EndsLine Group IsBare IsRead IsWritten Statement Value)

variable {key written rest : Text} {value : Value} {statements : List Statement}

/-! ## The document -/

def switchPairs (switches : PassSwitches) (passes : List Pass) : List (Text × Value) :=
  passes.filterMap fun pass => (switches.get pass).map fun value => (pass.name, .boolean value)

def groups (settings : Settings) : List Group :=
  [ ⟨"obfuscate".toList, switchPairs settings.passes Pass.all⟩,
    ⟨"format".toList, [("default_type".toList, .string settings.target.name)]⟩,
    ⟨"split".toList,
      [ ("html_file".toList, .string settings.names.html),
        ("css_file".toList, .string settings.names.css),
        ("js_file".toList, .string settings.names.js) ]⟩,
    ⟨"comments".toList,
      [ ("style".toList, .string settings.style.name),
        ("header_title".toList, .string settings.title) ]⟩ ]

theorem isBare_name (pass : Pass) : IsBare pass.name := by
  cases pass <;> exact ⟨by decide, by decide⟩

theorem isWritten_boolean (value : Bool) : IsWritten (boolean value) (.boolean value) := by
  cases value
  · exact Toml.isWritten_false
  · exact Toml.isWritten_true

theorem isRead_line (isBare : IsBare key) (isWritten : IsWritten written value)
    (behind : IsRead rest statements) :
    IsRead (line key written ++ rest) (.pair [key] value :: statements) := by
  have read := IsRead.pair isBare isWritten (.broken rest) behind
  simpa only [line, List.append_assoc, List.cons_append, List.nil_append] using read

theorem isRead_switches (switches : PassSwitches) (passes : List Pass)
    (behind : IsRead rest statements) :
    IsRead
      (passes.flatMap (fun pass =>
        match switches.get pass with
        | some value => line pass.name (boolean value)
        | none => []) ++ rest)
      ((switchPairs switches passes).map (fun pair => .pair [pair.1] pair.2) ++ statements) := by
  induction passes with
  | nil => exact behind
  | cons pass passes ih =>
    rw [List.flatMap_cons, switchPairs, List.filterMap_cons]
    cases set : switches.get pass with
    | none => exact ih
    | some value =>
      rw [List.append_assoc]
      exact isRead_line (isBare_name pass) (isWritten_boolean value) ih

theorem endsVisible_writeString (s : Text) : Text.EndsVisible (Toml.writeString s) := by
  have lines {quote : Char} (visible : isBlank quote = false) (front : Text) :
      Text.EndsVisible (front ++ Toml.tripled quote) :=
    Text.endsVisible_append (Text.endsVisible_concat visible [quote, quote])
      (List.cons_ne_nil quote [quote, quote]) front
  unfold Toml.writeString
  cases Toml.StringForm.ofText s with
  | basic => exact Text.endsVisible_concat (by decide) _
  | literal => exact Text.endsVisible_concat (by decide) _
  | basicLines => exact lines (by decide) _
  | literalLines => exact lines (by decide) _

theorem writeString_ne_nil (s : Text) : Toml.writeString s ≠ [] := by
  obtain ⟨t, first | first⟩ := Toml.writeString_cons s <;> simp [first]

theorem isRead_section {name : Text} (isBare : IsBare name) (behind : IsRead rest statements) :
    IsRead ('\n' :: '[' :: (name ++ ']' :: '\n' :: rest)) (.header [name] :: statements) :=
  (IsRead.header isBare (.broken rest) behind).emptyLine

/-- All that is written but the end of its last line, which may be there or not. -/
theorem exists_isRead (settings : Settings) :
    ∃ s, settings.toToml = s ++ ['\n'] ∧ Text.EndsVisible s ∧
      ∀ {tail}, EndsLine tail [] →
        Toml.dropMark (s ++ tail) = s ++ tail ∧
          IsRead (s ++ tail) (settings.groups.flatMap Group.lines) := by
  refine ⟨_, (List.append_assoc _ _ _).symm, ?_, fun {tail} ends => ⟨rfl, ?_⟩⟩
  · have some_text := writeString_ne_nil settings.title
    have title := Text.endsVisible_append (endsVisible_writeString settings.title) some_text
      ("header_title".toList ++ " = ".toList)
    exact Text.endsVisible_append title (List.append_ne_nil_of_right_ne_nil _ some_text) _
  · -- From the last line upward, as each is read in front of those behind it.
    have title := IsRead.pair (⟨by decide, by decide⟩ : IsBare "header_title".toList)
      (Toml.isWritten_string settings.title) ends Toml.isRead_nil
    have style := isRead_line (⟨by decide, by decide⟩ : IsBare "style".toList)
      (Toml.isWritten_string settings.style.name) title
    have comments := isRead_section (⟨by decide, by decide⟩ : IsBare "comments".toList) style
    have js := isRead_line (⟨by decide, by decide⟩ : IsBare "js_file".toList)
      (Toml.isWritten_string settings.names.js) comments
    have css := isRead_line (⟨by decide, by decide⟩ : IsBare "css_file".toList)
      (Toml.isWritten_string settings.names.css) js
    have html := isRead_line (⟨by decide, by decide⟩ : IsBare "html_file".toList)
      (Toml.isWritten_string settings.names.html) css
    have split := isRead_section (⟨by decide, by decide⟩ : IsBare "split".toList) html
    have target := isRead_line (⟨by decide, by decide⟩ : IsBare "default_type".toList)
      (Toml.isWritten_string settings.target.name) split
    have format := isRead_section (⟨by decide, by decide⟩ : IsBare "format".toList) target
    have switches := isRead_switches settings.passes Pass.all format
    have whole := IsRead.header (⟨by decide, by decide⟩ : IsBare "obfuscate".toList)
      (.broken _) switches
    simp only [List.append_assoc]
    exact whole

/-! ## The settings -/

section

variable {α : Type} {known : List (Field α)} {field : Field α} {a b : α}
  {entries : List (Text × Value)}

theorem storeFields_cons (found : known.find? (·.key == key) = some field)
    (stored : field.store value a = .ok b) :
    storeFields known (.table ((key, value) :: entries)) a =
      storeFields known (.table entries) b := by
  simp only [storeFields, List.foldlM_cons, found, stored]
  rfl

theorem storeFields_nil : storeFields known (.table []) a = .ok a := rfl

end

theorem storeFields_passes (switches : PassSwitches) :
    storeFields passFields (.table (switchPairs switches Pass.all)) .unset = .ok switches := by
  obtain ⟨comments, blanks, names, strings⟩ := switches
  cases comments <;> cases blanks <;> cases names <;> cases strings <;> rfl

theorem readTarget_name (target : Target) : readTarget (.string target.name) = .ok target := by
  simp only [readTarget, readString, bind, Except.bind, Target.parse_name]

theorem readStyle_name (style : CommentStyle) : readStyle (.string style.name) = .ok style := by
  cases style <;> rfl

theorem storeFields_format (target : Target) (settings : Settings) :
    storeFields formatFields (.table [("default_type".toList, .string target.name)]) settings =
      .ok { settings with target := target } := by
  refine (storeFields_cons rfl ?_).trans storeFields_nil
  simp only [bind, Except.bind, readTarget_name]
  rfl

theorem storeFields_comments (style : CommentStyle) (title : Text) (settings : Settings) :
    storeFields commentFields
        (.table [("style".toList, .string style.name), ("header_title".toList, .string title)])
        settings =
      .ok { settings with style := style, title := title } := by
  refine (storeFields_cons (b := { settings with style := style }) rfl ?_).trans rfl
  simp only [bind, Except.bind, readStyle_name]
  rfl

theorem storeFields_groups (settings : Settings) :
    storeFields fields (.table (settings.groups.map Group.entry)) .default = .ok settings := by
  -- The settings after the first section, the second and the third.
  let passes : Settings := { Settings.default with passes := settings.passes }
  let target : Settings := { passes with target := settings.target }
  let names : Settings := { target with names := settings.names }
  refine (storeFields_cons (b := passes) rfl ?_).trans <|
    (storeFields_cons (b := target) rfl ?_).trans <|
    (storeFields_cons (b := names) rfl ?_).trans <|
    (storeFields_cons (b := settings) rfl ?_).trans storeFields_nil
  · have stored := storeFields_passes settings.passes
    simp only [bind, Except.bind, Settings.default, stored]
    rfl
  · exact storeFields_format settings.target passes
  · rfl
  · exact storeFields_comments settings.style settings.title names

theorem nodup_names (settings : Settings) : (settings.groups.map Group.name).Nodup := by
  have fixed : ["obfuscate".toList, "format".toList, "split".toList, "comments".toList].Nodup := by
    decide
  exact fixed

theorem switchPairs_sublist (switches : PassSwitches) (passes : List Pass) :
    ((switchPairs switches passes).map (·.1)).Sublist (passes.map Pass.name) := by
  induction passes with
  | nil => exact List.Sublist.slnil
  | cons pass passes ih =>
    rw [switchPairs, List.filterMap_cons]
    cases switches.get pass with
    | none => exact ih.cons _
    | some value => exact ih.cons_cons _

theorem nodup_keys (settings : Settings) :
    ∀ group ∈ settings.groups, (group.pairs.map (·.1)).Nodup := by
  have names : (Pass.all.map Pass.name).Nodup := by decide
  simp only [groups, List.forall_mem_cons, List.map_cons, List.map_nil]
  exact ⟨names.sublist (switchPairs_sublist _ _), by decide, by decide, by decide, by simp⟩

/-- Settings written as a document are read back as they were, whatever their texts are,
and so is what the program prints of them. -/
theorem parse_toToml (settings : Settings) :
    parse settings.toToml = .ok settings ∧
      parse (Text.dropTrailingBlanks settings.toToml) = .ok settings ∧
      parse (Text.dropTrailingBlanks settings.toToml ++ ['\n']) = .ok settings ∧
      ∀ {m : Type → Type} [Monad m] (host : Host m) (theme : Theme) (copy : Bool)
        (path? : Option Text),
        Program.settingsCommand ⟨host, theme, settings, copy⟩ path? .print =
          Program.print ⟨host, theme, settings, copy⟩
            (Text.dropTrailingBlanks settings.toToml ++ ['\n']) := by
  obtain ⟨s, written, ends, read⟩ := exists_isRead settings
  have trimmed : Text.dropTrailingBlanks settings.toToml = s := by
    rw [written, Text.dropTrailingBlanks_append ends, show Text.dropTrailingBlanks ['\n'] = [] from rfl,
      List.append_nil]
  have parsed {tail : Text} (ending : EndsLine tail []) : parse (s ++ tail) = .ok settings := by
    obtain ⟨noMark, isRead⟩ := read ending
    rw [parse, Toml.read?_groups noMark isRead (nodup_names settings) (nodup_keys settings)]
    exact storeFields_groups settings
  have whole : parse (s ++ ['\n']) = .ok settings := parsed (.broken [])
  have bare : parse s = .ok settings := by
    have bare := parsed .last
    rwa [List.append_nil] at bare
  refine ⟨written ▸ whole, trimmed.symm ▸ bare, trimmed.symm ▸ whole, ?_⟩
  intro m _ host theme copy path?
  rw [Program.settingsCommand]

end Settings

end Snippet
