import DocQuery.Config.Overrides
import DocQuery.Environment.File
import DocQuery.Toml.Parser

/-!
# Configuration files

A configuration is loaded from a TOML file and an environment file, both of which may be missing,
and is saved as a TOML file.
-/

namespace DocQuery

/-- Why a configuration cannot be loaded or saved. -/
inductive ConfigError where
  /-- The text is no TOML document, or a setting in it has the wrong type. -/
  | invalidText
  /-- No operation could ever run. -/
  | noOperations
  /-- A number is too large for a TOML integer. -/
  | numberTooLarge
deriving DecidableEq, Repr

/-- The wording of an error. -/
def ConfigError.message : ConfigError → String
  | .invalidText => "Configuration error: TOML parse error"
  | .noOperations => "Configuration error: max_in_flight must be at least 1"
  | .numberTooLarge => "Configuration error: out-of-range value for u64 type"

namespace Config

/-- The name of the configuration file. -/
def fileName : String := "docpipe.toml"

/-- The name of the environment file. -/
def environmentFileName : String := ".env"

/-! ## Loading -/

/-- The setting of a name, or a default where it is not written. -/
def setting? {α : Type} (fields : TomlFields) (name : String) (default : α)
    (read : Toml → Option α) : Option α :=
  match fields.lookup name with
  | none => some default
  | some value => read value

/-- The truth value of a TOML value. -/
def boolOfToml? : Toml → Option Bool
  | .boolean value => some value
  | _ => none

/-- The integer from zero to a largest one of a TOML value. -/
def natOfToml? (largest : Nat) : Toml → Option Nat
  | .integer n => if 0 ≤ n ∧ n.toNat ≤ largest then some n.toNat else none
  | _ => none

/-- The unsigned 32-bit integer of a TOML value. -/
def uint32OfToml? (value : Toml) : Option UInt32 :=
  (natOfToml? (UInt32.size - 1) value).map UInt32.ofNat

/-- The unsigned 64-bit integer of a TOML value. -/
def uint64OfToml? (value : Toml) : Option UInt64 :=
  (natOfToml? (UInt64.size - 1) value).map UInt64.ofNat

/-- The settings of a TOML document; those that are not written hold as in `standard`. -/
def ofToml? (fields : TomlFields) : Option Config := do
  return {
    maxInFlight := ← setting? fields "max_in_flight" standard.maxInFlight uint64OfToml?
    allowDiskUse := ← setting? fields "allow_disk_use" false boolOfToml?
    batchSize := ← setting? fields "batch_size" none fun value => (uint32OfToml? value).map some
    maxTimeMs := ← setting? fields "max_time_ms" none fun value => (uint64OfToml? value).map some
    humanReadableBinds := ← setting? fields "human_readable_binds" false boolOfToml? }

/-- The settings of a configuration file, or the standard ones where there is none. -/
def ofFile (text : Option String) : Except ConfigError Config :=
  match text with
  | none => .ok standard
  | some text =>
      match (Toml.parse? text).bind ofToml? with
      | some config => .ok config
      | none => .error .invalidText

/-- Settings under which operations can run. -/
def validated (config : Config) : Except ConfigError Config :=
  if config.maxInFlight = 0 then .error .noOperations else .ok config

/-- The settings of a configuration file and an environment file in an environment. -/
def load (file environmentFile : Option String) (environment : Environment) :
    Except ConfigError Config := do
  let environment := environmentFile.elim environment environment.addFile
  let config ← ofFile file
  (config.override environment.get?).validated

/-! ## Saving -/

/-- A line that sets a name. -/
def settingLine (name value : String) : String := name ++ " = " ++ value ++ "\n"

/-- The line of a number. -/
def numberLine (name : String) (n : Nat) : Except ConfigError String :=
  if n < Nat.pow 2 63 then .ok (settingLine name (toString n)) else .error .numberTooLarge

/-- The line of a truth value. -/
def flagLine (name : String) (value : Bool) : String :=
  settingLine name (if value then "true" else "false")

/-- The lines of an optional number. -/
def optionalLine (name : String) (n : Option Nat) : Except ConfigError String :=
  match n with
  | none => .ok ""
  | some n => numberLine name n

/-- The text of the configuration file. -/
def fileText (config : Config) : Except ConfigError String := do
  return (← numberLine "max_in_flight" config.maxInFlight.toNat) ++
    flagLine "allow_disk_use" config.allowDiskUse ++
    (← optionalLine "batch_size" (config.batchSize.map UInt32.toNat)) ++
    (← optionalLine "max_time_ms" (config.maxTimeMs.map UInt64.toNat)) ++
    flagLine "human_readable_binds" config.humanReadableBinds

end Config

end DocQuery
