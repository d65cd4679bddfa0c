/-
The settings of a server and how it starts.

Both settings come from variables.  A variable that is not set, or whose bytes are no text,
leaves the default in place.  Any text will do to bind to; the retention has to be a number of
seconds, which may have white space around it.
-/
import RequestMeter.Config.Error
import RequestMeter.Meter.Basic
import RequestMeter.Number.Numeral
import RequestMeter.Text.Blank
import RequestMeter.Text.Terminal

namespace RequestMeter

/-- The values of the variables, as bytes. -/
structure Variables where
  bind : Option ByteArray
  retention : Option ByteArray

/-- The settings of a server. -/
structure ServerConfig where
  /-- The address to listen at. -/
  bind : String
  /-- How long requests are remembered. -/
  retention : Duration
deriving DecidableEq

/-- A meter of that retention, unless it is too short. -/
def Meter.configured (retention : Duration) : Except ConfigError Meter :=
  match Meter.new? retention with
  | some m => .ok m
  | none => .error (.retentionTooShort retention)

namespace ServerConfig

/-- Where a server listens unless it is told otherwise. -/
def defaultBind : String := "127.0.0.1:8080"

/-- Reads a retention in seconds. -/
def readRetention (value : String) : Except ConfigError Duration :=
  match Numeral.readUnsigned (Text.trim value.toList) with
  | .ok seconds => .ok (.ofSeconds seconds)
  | .error _ => .error (.invalidVariable .retention value)

/-- The settings that two texts stand for, where they are given. -/
def ofTexts (bind retention : Option String) : Except ConfigError ServerConfig :=
  let bind := bind.getD defaultBind
  match retention with
  | none => .ok ⟨bind, Meter.defaultRetention⟩
  | some value => (readRetention value).map fun d => ⟨bind, d⟩

/-- The settings that the variables stand for. -/
def ofVariables (v : Variables) : Except ConfigError ServerConfig :=
  ofTexts (v.bind.bind String.fromUTF8?) (v.retention.bind String.fromUTF8?)

/-- The meter that a server of these settings keeps. -/
def meter (c : ServerConfig) : Except ConfigError Meter := Meter.configured c.retention

end ServerConfig

/-- How the start of a server goes. -/
inductive Launch where
  /-- It listens, with an empty meter. -/
  | listening (config : ServerConfig) (meter : Meter)
  /-- It gives up. -/
  | refused (reason : ConfigError)

namespace Launch

/-- Starts a server with the settings of the variables. -/
def ofVariables (v : Variables) : Launch :=
  match ServerConfig.ofVariables v with
  | .error e => .refused e
  | .ok config =>
    match config.meter with
    | .error e => .refused e
    | .ok m => .listening config m

/-- How serious what it logs first is. -/
def level : Launch → String
  | listening .. => "INFO"
  | refused _ => "ERROR"

/-- What it logs first. -/
def entry : Launch → String
  | listening config _ => "Listening on " ++ config.bind
  | refused reason => reason.message

/-- The first line of the log, as it is written: what a terminal might act on is escaped, and a
line break in the entry ends the line. -/
def log (l : Launch) : String :=
  String.ofList (Text.firstLine (Text.terminalText l.entry.toList))

/-- The code that a server which gives up leaves behind. -/
def exitCode : Launch → Option Nat
  | listening .. => none
  | refused _ => some 1

end Launch

end RequestMeter
