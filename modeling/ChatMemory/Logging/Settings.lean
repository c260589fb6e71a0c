import ChatMemory.Format.Structured
import ChatMemory.Logging.Filter
import ChatMemory.Settings.Environment

/-!
How a program logs what it does.
-/

namespace ChatMemory

structure LoggingSettings where
  /-- Whether events are written as JSON. -/
  json : Bool := false
  /-- The filter that holds where the environment gives no other. -/
  level : String := "info"
  /-- Whether events tell from where in the program they come. -/
  withLocation : Bool := false
  deriving Repr, DecidableEq

namespace LoggingSettings

open Structured

def read? {δ : Type} [Structured δ] (value : δ) : Option LoggingSettings :=
  let default : LoggingSettings := {}
  match fields? ["json", "level", "with_location"] value with
  | some [json, level, withLocation] => do
    some
      { json := ← field? bool? default.json json
        level := ← field? text? default.level level
        withLocation := ← field? bool? default.withLocation withLocation }
  | _ => none

def isOn (text : String) : Bool :=
  ["1", "true", "yes"].contains ((Unicode.trim text).map Char.toLower)

def ofEnvironment (environment : Environment) : LoggingSettings :=
  let default : LoggingSettings := {}
  let level := Unicode.trim ((environment.get? "OI_LOG_LEVEL").getD "")
  { default with
    json := ((environment.get? "OI_LOG_JSON").map isOn).getD default.json
    level := if level.isEmpty then default.level else level }

/-- The filter in force: that of the environment, unless it is blank. -/
def filter (settings : LoggingSettings) (environment : Environment) : String :=
  let given := (environment.get? "RUST_LOG").getD ""
  if Unicode.isAllBlank given then settings.level else given

def checkFilter (settings : LoggingSettings) (environment : Environment) :
    Except LogFilterFault Unit :=
  LogFilter.check (settings.filter environment)

end LoggingSettings

end ChatMemory
