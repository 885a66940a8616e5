namespace Constituency.Text

/-- A word with its ASCII capitals made small; all other characters stay. -/
def foldAscii (word : String) : List Char :=
  word.toList.map Char.toLower

def sameWord (left right : String) : Bool :=
  foldAscii left == foldAscii right

theorem sameWord_iff (left right : String) :
    sameWord left right = true ↔ foldAscii left = foldAscii right := by
  simp [sameWord]

end Constituency.Text
