/-
The command line: takes the settings from the environment and says how the start goes.
-/
import RequestMeter.Config.Server

namespace RequestMeter

/-- The bytes of a variable of the environment. -/
def readVariable (s : Setting) : IO (Option ByteArray) :=
  return (← IO.getEnv s.name).map String.toUTF8

end RequestMeter

/-- Prints the first line of the log. -/
def main : IO UInt32 := do
  let bind ← RequestMeter.readVariable .bind
  let retention ← RequestMeter.readVariable .retention
  let launch := RequestMeter.Launch.ofVariables ⟨bind, retention⟩
  IO.println (launch.level ++ " " ++ launch.log)
  return UInt32.ofNat (launch.exitCode.getD 0)
