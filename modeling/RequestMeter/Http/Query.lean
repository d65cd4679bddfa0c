/-
The query of a report: which window it is to cover.

A query is a list of names and values.  It is read from left to right for the name `window`, and
the first thing that is wrong decides: a window that is no number, or a second window.  A window
that is not positive is no window at all; without one the report covers a minute.
-/
import RequestMeter.Time.Duration
import RequestMeter.Number.Numeral
import RequestMeter.Text.Percent

namespace RequestMeter.Http

/-- A name and a value of a query. -/
structure Field where
  name : List Char
  value : List Char
deriving DecidableEq

/-- Why a query is refused. -/
inductive QueryError where
  /-- There is a second window. -/
  | duplicateWindow
  /-- A window is no number. -/
  | invalidWindow (reason : NumeralError)
deriving DecidableEq

/-- What the error says. -/
def QueryError.message : QueryError → String
  | duplicateWindow => "Query deserialize error: duplicate field \x60window\x60"
  | invalidWindow reason => "Query deserialize error: " ++ reason.message

namespace Query

/-- The text that a name or value stands for: a plus is a space, and escapes are decoded. -/
def decode (s : List Char) : List Char :=
  Text.Percent.decodeAll (s.map fun c => if c = '+' then ' ' else c)

/-- A piece between ampersands: the name ends at the first equals sign. -/
def field (piece : List Char) : Field :=
  ⟨decode (piece.takeWhile (· != '=')), decode ((piece.dropWhile (· != '=')).drop 1)⟩

/-- The fields of a query.  Pieces without a character do not count. -/
def fields (query : List Char) : List Field :=
  ((query.splitOn '&').filter fun piece => !piece.isEmpty).map field

/-- The name of the field that is read. -/
def windowName : List Char := ['w', 'i', 'n', 'd', 'o', 'w']

/-- Reads fields from left to right, given the window found so far. -/
def readFields : Option Int → List Field → Except QueryError (Option Int)
  | found, [] => .ok found
  | found, f :: rest =>
    if f.name = windowName then
      match found with
      | some _ => .error .duplicateWindow
      | none =>
        match Numeral.readSigned f.value with
        | .error reason => .error (.invalidWindow reason)
        | .ok n => readFields (some n) rest
    else readFields found rest

/-- The window of a report without one in its query. -/
def defaultWindow : Duration := .ofSeconds 60

/-- The window of that many seconds. -/
def windowOfSeconds (n : Int) : Duration := if 0 < n then .ofSeconds n.toNat else .zero

/-- The window that a query asks for. -/
def window (query : List Char) : Except QueryError Duration :=
  (readFields none (fields query)).map fun
    | some n => windowOfSeconds n
    | none => defaultWindow

end Query

end RequestMeter.Http
