import ChatMemory.Format.Decimal
import ChatMemory.Settings
import ChatMemory.Text.Quoted

/-!
Environment variables that take the place of some settings.
-/

namespace ChatMemory

structure Environment where
  values : List (String × String)
  deriving Repr, DecidableEq

namespace Environment

def empty : Environment := ⟨[]⟩

def get? (environment : Environment) (name : String) : Option String :=
  environment.values.lookup name

end Environment

def parseCount? (text : String) : Option Nat :=
  let digits :=
    match Unicode.trimBlanks text.toList with
    | '+' :: rest => rest
    | rest => rest
  if digits.isEmpty || !digits.all Char.isDigit then none
  else
    let value := digitsValue digits
    if value < countLimit then some value else none

def parseSwitch? (text : String) : Option Bool :=
  let word := Unicode.trim text
  if word = "true" then some true else if word = "false" then some false else none

def Environment.override {α : Type} (environment : Environment) (name : String)
    (parse? : String → Option α) (put : α → Settings → Settings) (settings : Settings) :
    Except SettingsFault Settings :=
  match environment.get? name with
  | none => .ok settings
  | some raw =>
    match parse? raw with
    | some value => .ok (put value settings)
    | none => .error (.unreadableVariable name (Text.quoted raw))

namespace Settings

def withMaxMessages (count : Nat) (settings : Settings) : Settings :=
  { settings with condensing := { settings.condensing with maxMessages := count } }

def withMaxTokens (count : Nat) (settings : Settings) : Settings :=
  { settings with condensing := { settings.condensing with maxTokens := some count } }

def withRecentMessages (count : Nat) (settings : Settings) : Settings :=
  { settings with condensing := { settings.condensing with recentMessages := count } }

def withCrossSession (enabled : Bool) (settings : Settings) : Settings :=
  { settings with search := { settings.search with crossSession := enabled } }

def withDataDirectory (path : String) (settings : Settings) : Settings :=
  { settings with storage := { settings.storage with dataDirectory := some path } }

def overrides (environment : Environment) : List (Settings → Except SettingsFault Settings) :=
  [environment.override "OI_MAX_MESSAGES" parseCount? withMaxMessages,
    environment.override "OI_MAX_TOKENS" parseCount? withMaxTokens,
    environment.override "OI_RECENT_MESSAGES" parseCount? withRecentMessages,
    environment.override "OI_CROSS_SESSION_SEARCH" parseSwitch? withCrossSession,
    environment.override "OI_DATA_DIR" some withDataDirectory]

def applyInOrder (settings : Settings) :
    List (Settings → Except SettingsFault Settings) → Settings × Option SettingsFault
  | [] => (settings, none)
  | change :: rest =>
    match change settings with
    | .ok changed => applyInOrder changed rest
    | .error fault => (settings, some fault)

/-- Takes over the environment. When a variable cannot be read or the outcome cannot be worked with,
the settings are left with the changes made so far. -/
def applyEnvironment (settings : Settings) (environment : Environment) :
    Settings × Except Failure Unit :=
  match settings.applyInOrder (overrides environment) with
  | (settings, some fault) => (settings, .error fault.failure)
  | (settings, none) => (settings, settings.validate)

end Settings

end ChatMemory
