import Constituency.Text.Blank

/-!
Text to tokens. White space separates tokens and is dropped. A punctuation mark is a token of its
own; three dots, two hyphens and a run of stars each make one token. What is left between these is
a word.
-/

namespace Constituency.Token

/-- Characters that never join with a neighbour, save dots and hyphens in their fixed groups. -/
def marks : List Char :=
  ['"', '.', '-', ',', '?', '!', ';', ':', '(', ')', '[', ']', '\x7b', '\x7d', '<', '>']

def isMark (c : Char) : Bool :=
  marks.contains c

def isWordChar (c : Char) : Bool :=
  !Text.isBlank c && !isMark c && c != '*'

def joins (c next : Char) : Bool :=
  (c == '*' && next == '*') || (isWordChar c && isWordChar next)

def extend (c : Char) : List (List Char) → List (List Char)
  | [] => [[c]]
  | token :: tokens => (c :: token) :: tokens

def scan : List Char → List (List Char)
  | [] => []
  | '.' :: '.' :: '.' :: rest => ['.', '.', '.'] :: scan rest
  | '-' :: '-' :: rest => ['-', '-'] :: scan rest
  | c :: rest =>
    if Text.isBlank c then scan rest
    else if rest.head?.any (joins c) then extend c (scan rest)
    else [c] :: scan rest

def ofText (text : String) : List String :=
  (scan text.toList).map String.ofList

end Constituency.Token
