import VcpuPinning.Settings
import VcpuPinning.Text.Utf8
import VcpuPinning.Toml.Reader

/-!
# Settings files

Settings are kept in a TOML file. A file is refused if it is no text, if the text is not TOML of
the expected form, or if the settings do not pass `Settings.validate`.
-/

namespace VcpuPinning

/-- Why settings were not loaded. -/
inductive LoadError where
  /-- The file could not be read as text. -/
  | io (detail : String)
  /-- The text is not TOML of the expected form. -/
  | form
  /-- The settings do not pass. -/
  | settings (e : SettingsError)
  deriving DecidableEq, Repr

/-- The message of a load error. -/
def LoadError.message : LoadError → String
  | .io detail => detail
  | .form => "the settings are not TOML of the expected form"
  | .settings e => e.message

namespace Settings

/-- The settings that a text denotes. -/
def ofToml? (text : String) : Option Settings :=
  (Toml.parse? text).bind (ofJson? Toml.dialect)

/-- The settings in the octets of a file. -/
def load (octets : List UInt8) : Except LoadError Settings :=
  match Text.Utf8.decode? octets with
  | none => .error (.io "stream did not contain valid UTF-8")
  | some text =>
    match ofToml? text with
    | none => .error .form
    | some s =>
      match s.validate with
      | .error e => .error (.settings e)
      | .ok _ => .ok s

/-- Loaded settings pass. -/
theorem validate_of_load {octets : List UInt8} {s : Settings} (h : load octets = .ok s) :
    s.validate = .ok () := by
  simp only [load] at h
  split at h
  · exact absurd h (by simp)
  · split at h
    · exact absurd h (by simp)
    · split at h
      · exact absurd h (by simp)
      · rename_i hv
        cases h
        exact hv

end Settings

end VcpuPinning
