import ChatMemory.Format.Toml.Document
import ChatMemory.Settings.Document
import ChatMemory.Settings.Environment

/-!
Settings from a TOML file and the environment.
-/

namespace ChatMemory.Settings

def ofToml (document : String) : Except Failure Settings :=
  match (Toml.ofText? document).bind (read? : Toml → Option Settings) with
  | none => .error SettingsFault.unreadable.failure
  | some settings => settings.validate.map fun _ => settings

def ofEnvironment (environment : Environment) : Except Failure Settings :=
  let (settings, outcome) := ({} : Settings).applyEnvironment environment
  outcome.map fun _ => settings

def ofFile (content : Except FileFault ByteArray) (environment : Environment) :
    Except Failure Settings := do
  let bytes ← content.mapError FileFault.failure
  match String.fromUTF8? bytes with
  | none => .error FileFault.notText.failure
  | some document =>
    let settings ← ofToml document
    let (settings, outcome) := settings.applyEnvironment environment
    outcome.map fun _ => settings

example : (ofToml "[title]\nmax_words = 4").toOption.map (·.title.maxWords) = some 4 := by
  decide

example : ofToml "[title]\nmax_words = true" matches .error ⟨.settings, "TOML parse error"⟩ := by
  decide

end ChatMemory.Settings
