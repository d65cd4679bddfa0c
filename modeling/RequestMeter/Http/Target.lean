/-
What a request asks for: a path and a query.

A fragment at the end of a target is for the client and is cut off.  The path is decoded once
before it is compared with the routes; the escapes of the percent sign, the slash and the plus
stay as they are, so that no decoded character can be taken for one with a meaning.

Only targets in origin form are meant, which begin with the path.  A target in absolute form, as
it is sent to a proxy, begins with a scheme and an authority; a server that takes them off would
see its path, but here they are part of the path, and no route begins like them.
-/
import RequestMeter.Text.Percent

namespace RequestMeter.Http

/-- A path and a query, as they were written. -/
structure Target where
  path : List Char
  query : List Char
deriving DecidableEq

namespace Target

/-- Takes a target in origin form apart. -/
def parse (s : String) : Target :=
  let shown := s.toList.takeWhile (· != '#')
  ⟨shown.takeWhile (· != '?'), (shown.dropWhile (· != '?')).drop 1⟩

/-- The bytes whose escapes stay as they are in a path: `%`, `+` and `/`. -/
def keepsEscape (b : UInt8) : Bool := b == 0x25 || b == 0x2b || b == 0x2f

/-- The path as the routes see it. -/
def decodedPath (t : Target) : List Char := Text.Percent.decode keepsEscape t.path

end Target

end RequestMeter.Http
