import Constituency.Text.DefaultIgnorable
import Constituency.Text.GraphemeExtend
import Constituency.Text.Unprintable

/-!
Quoted form of a token inside a message: double quotes around it, and an escape for each character
that could not be told apart on a screen.
-/

namespace Constituency.Text

/-- The halfwidth katakana sound marks, the only letters that extend a grapheme. They take up a
cell of their own. -/
def halfwidthSoundMarks : List Char := ['\uff9e', '\uff9f']

def combines (c : Char) : Bool :=
  graphemeExtendRanges.holds c && !halfwidthSoundMarks.contains c

def isInvisible (c : Char) : Bool :=
  unprintableRanges.holds c || defaultIgnorableRanges.holds c

def isPlain (c : Char) : Bool :=
  if 0x20 ≤ c.toNat ∧ c.toNat ≤ 0x7e then true
  else !combines c && !isInvisible c

def quoteChar (c : Char) : List Char :=
  if c = '\x00' then ['\\', '0']
  else if c = '\t' then ['\\', 't']
  else if c = '\r' then ['\\', 'r']
  else if c = '\n' then ['\\', 'n']
  else if c = '"' then ['\\', '"']
  else if c = '\\' then ['\\', '\\']
  else if isPlain c then [c]
  else ['\\', 'u', '\x7b'] ++ Nat.toDigits 16 c.toNat ++ ['\x7d']

def quoted (token : String) : String :=
  String.ofList ('"' :: token.toList.flatMap quoteChar ++ ['"'])

end Constituency.Text
