/-
Quoted text: a text on one line, between double quotes.

A quote, a backslash and four controls have short escapes.  A character is written as its code
point if it cannot be printed, if it would join the one before it, or if it is a letter that shows
nothing.  All others stand for themselves.
-/
import RequestMeter.Text.CodePoint
import RequestMeter.Text.GraphemeExtend
import RequestMeter.Text.Printable

namespace RequestMeter.Text

/-- The letters that show nothing: the fillers for missing parts of a syllable. -/
def fillers : List Char := ['\u115f', '\u1160', '\u3164', '\uffa0']

/-- The halfwidth sound marks.  They extend a grapheme, but they are written in a place of their
own. -/
def halfwidthMarks : List Char := ['\uff9e', '\uff9f']

/-- Would a character join the one before it? -/
def isJoining (c : Char) : Bool := isGraphemeExtend c && !halfwidthMarks.contains c

/-- Does a character show by itself what it is? -/
def standsForItself (c : Char) : Bool := isPrintable c && !isJoining c && !fillers.contains c

/-- A character as it stands between quotes. -/
def escape (c : Char) : List Char :=
  if c = '\x00' then ['\\', '0']
  else if c = '\t' then ['\\', 't']
  else if c = '\r' then ['\\', 'r']
  else if c = '\n' then ['\\', 'n']
  else if c = '"' then ['\\', '"']
  else if c = '\\' then ['\\', '\\']
  else if standsForItself c then [c]
  else bracedCode c

/-- A text between quotes. -/
def quoted (s : List Char) : List Char := '"' :: (s.flatMap escape ++ ['"'])

example : quoted "it's \"so\"\n".toList = "\"it's \\\"so\\\"\\n\"".toList := by decide +kernel

example : quoted "e\u0301\uff9e\u3164".toList =
    "\"e\\u\x7b301\x7d\uff9e\\u\x7b3164\x7d\"".toList := by
  decide +kernel

end RequestMeter.Text
