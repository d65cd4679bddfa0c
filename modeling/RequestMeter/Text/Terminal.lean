/-
Text that does nothing to a terminal.

The controls that a terminal may act on are written as their code points: the bell, the backspace,
the form feed, the escape, the delete, and all controls beyond ASCII.  Everything else stays,
line breaks too.
-/
import RequestMeter.Text.CodePoint

namespace RequestMeter.Text

/-- The ASCII controls that a terminal may act on. -/
def terminalControls : List Char := ['\x07', '\x08', '\x0c', '\x1b', '\x7f']

/-- Is a character one of the controls beyond ASCII? -/
def isLatinControl (c : Char) : Bool := decide (0x80 ≤ c.toNat) && decide (c.toNat ≤ 0x9f)

/-- A character as a terminal gets to see it. -/
def onTerminal (c : Char) : List Char :=
  if terminalControls.contains c then twoDigitCode c
  else if isLatinControl c then bracedCode c
  else [c]

/-- A text as a terminal gets to see it. -/
def terminalText (s : List Char) : List Char := s.flatMap onTerminal

/-- The first line of a text.  Only a line feed ends a line. -/
def firstLine (s : List Char) : List Char := s.takeWhile (· != '\n')

example : terminalText "\x1b[1m\u009b\t".toList = "\\x1b[1m\\u\x7b9b\x7d\t".toList := by decide

example : firstLine "one\r\ntwo".toList = "one\r".toList := by decide

end RequestMeter.Text
