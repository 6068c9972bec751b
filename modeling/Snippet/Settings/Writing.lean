import Snippet.Settings
import Snippet.Toml.StringForm

/-! Settings written as a TOML document. -/

set_option autoImplicit false

namespace Snippet.Settings

def line (key value : Text) : Text := key ++ " = ".toList ++ value ++ ['\n']

def boolean (value : Bool) : Text := if value then "true".toList else "false".toList

def passLines (switches : PassSwitches) : Text :=
  Pass.all.flatMap fun pass =>
    match switches.get pass with
    | some value => line pass.name (boolean value)
    | none => []

def toToml (settings : Settings) : Text :=
  "[obfuscate]\n".toList ++ passLines settings.passes ++
  "\n[format]\n".toList ++
  line "default_type".toList (Toml.writeString settings.target.name) ++
  "\n[split]\n".toList ++
  line "html_file".toList (Toml.writeString settings.names.html) ++
  line "css_file".toList (Toml.writeString settings.names.css) ++
  line "js_file".toList (Toml.writeString settings.names.js) ++
  "\n[comments]\n".toList ++
  line "style".toList (Toml.writeString settings.style.name) ++
  line "header_title".toList (Toml.writeString settings.title)

end Snippet.Settings
