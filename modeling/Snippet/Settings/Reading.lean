import Snippet.Settings
import Snippet.Toml.Reading

/-! Settings read from a TOML document. Keys that mean nothing here are passed over;
what a document leaves out keeps its default. -/

set_option autoImplicit false

namespace Snippet

inductive SettingsError where
  /-- The text is no TOML document. -/
  | document
  /-- A setting has a value of the wrong type. -/
  | value
  | category : UnknownCategory → SettingsError
  deriving DecidableEq, Repr

namespace Settings

structure Field (α : Type) where
  key : Text
  store : Toml.Value → α → Except SettingsError α

/-- The fields of a group: a table gives them by key, an array in order. -/
def storeFields {α : Type} (fields : List (Field α)) : Toml.Value → α → Except SettingsError α
  | .table entries, group =>
    entries.foldlM (fun group (key, value) =>
      match fields.find? (·.key == key) with
      | some field => field.store value group
      | none => .ok group) group
  | .array values, group =>
    (fields.zip values).foldlM (fun group (field, value) => field.store value group) group
  | _, _ => .error .value

def readBoolean : Toml.Value → Except SettingsError Bool
  | .boolean value => .ok value
  | _ => .error .value

def readString : Toml.Value → Except SettingsError Text
  | .string value => .ok value
  | _ => .error .value

def readTarget (value : Toml.Value) : Except SettingsError Target := do
  match Target.parse (← readString value) with
  | .ok target => .ok target
  | .error e => .error (.category e)

/-- A style is given by its name, or as a table that holds something empty under it. -/
def readStyle (value : Toml.Value) : Except SettingsError CommentStyle :=
  let name? :=
    match value with
    | .string name => some name
    | .table [(name, .table [])] => some name
    | .table [(name, .array [])] => some name
    | _ => none
  match name?.bind CommentStyle.ofName? with
  | some style => .ok style
  | none => .error .value

def passFields : List (Field PassSwitches) :=
  Pass.all.map fun pass =>
    ⟨pass.name, fun value switches => do return switches.set (← readBoolean value) pass⟩

def nameFields : List (Field PartNames) :=
  [ ⟨"html_file".toList, fun value names => do return { names with html := ← readString value }⟩,
    ⟨"css_file".toList, fun value names => do return { names with css := ← readString value }⟩,
    ⟨"js_file".toList, fun value names => do return { names with js := ← readString value }⟩ ]

def formatFields : List (Field Settings) :=
  [ ⟨"default_type".toList, fun value settings => do
      return { settings with target := ← readTarget value }⟩ ]

def commentFields : List (Field Settings) :=
  [ ⟨"style".toList, fun value settings => do return { settings with style := ← readStyle value }⟩,
    ⟨"header_title".toList, fun value settings => do
      return { settings with title := ← readString value }⟩ ]

def fields : List (Field Settings) :=
  [ ⟨"obfuscate".toList, fun value settings => do
      return { settings with passes := ← storeFields passFields value settings.passes }⟩,
    ⟨"format".toList, storeFields formatFields⟩,
    ⟨"split".toList, fun value settings => do
      return { settings with names := ← storeFields nameFields value settings.names }⟩,
    ⟨"comments".toList, storeFields commentFields⟩ ]

def parse (document : Text) : Except SettingsError Settings :=
  match Toml.read? document with
  | some entries => storeFields fields (.table entries) .default
  | none => .error .document

end Settings

end Snippet
