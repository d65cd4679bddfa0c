/-
Why a configuration is refused.
-/
import RequestMeter.Time.Written
import RequestMeter.Text.Quoted

namespace RequestMeter

/-- The variables a server reads its settings from. -/
inductive Setting where
  | bind
  | retention
deriving DecidableEq

/-- What a variable is called. -/
def Setting.name : Setting → String
  | .bind => "BENCHMARKS_BIND"
  | .retention => "BENCHMARKS_RETENTION_SECS"

/-- Why a configuration is refused. -/
inductive ConfigError where
  /-- Buckets are a second wide, so nothing would be kept. -/
  | retentionTooShort (retention : Duration)
  /-- The value of a variable cannot be read. -/
  | invalidVariable (setting : Setting) (value : String)
deriving DecidableEq

namespace ConfigError

/-- What the error says.  The value is quoted as it was given, so the text stays on one line. -/
def message : ConfigError → String
  | retentionTooShort d =>
    "Retention must be at least one second, got " ++ String.ofList d.written
  | invalidVariable setting value =>
    "Invalid value for " ++ setting.name ++ ": " ++ String.ofList (Text.quoted value.toList)

end ConfigError

end RequestMeter
