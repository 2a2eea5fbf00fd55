/-!
# Errors of settings
-/

namespace GridSql

inductive InvalidSetting where
  | emptySeparator
  | noGeneratedColumns
  | emptyChildCountName
  | noTable
deriving DecidableEq, Repr

namespace InvalidSetting

def message : InvalidSetting → String
  | emptySeparator => "pivot.separator must not be empty"
  | noGeneratedColumns => "pivot.max_generated_columns must be at least 1"
  | emptyChildCountName => "grid.child_count_field_name must not be empty"
  | noTable => "no source table configured"

end InvalidSetting

inductive SettingsError where
  | fileNotFound (path : String)
  /-- The file cannot be read, with the system's reason. -/
  | unreadable (reason : String)
  /-- The file is no TOML document with the settings' form. -/
  | malformed
  | missingVariable (name : String)
  | invalid (setting : InvalidSetting)
deriving DecidableEq, Repr

namespace SettingsError

def message : SettingsError → String
  | fileNotFound path => s!"no config file at {path}"
  | unreadable reason => s!"could not read config: {reason}"
  | malformed => "malformed config"
  | missingVariable name => s!"environment variable {name} is not set"
  | invalid setting => s!"invalid setting: {setting.message}"

end SettingsError

end GridSql
