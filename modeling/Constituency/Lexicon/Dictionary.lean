import Constituency.Lexicon.WordClass
import Constituency.Text.Lower

namespace Constituency

/-- Lower-case words with their classes, no word twice. -/
structure Dictionary where
  entries : List (String × WordClass)
  deriving DecidableEq, Repr

namespace Dictionary

def empty : Dictionary := ⟨[]⟩

def addKey (added : WordClass) (key : String) :
    List (String × WordClass) → List (String × WordClass)
  | [] => [(key, WordClass.empty.union added)]
  | (word, known) :: entries =>
    if word = key then (word, known.union added) :: entries
    else (word, known) :: addKey added key entries

def insert (dictionary : Dictionary) (added : WordClass) (word : String) : Dictionary :=
  ⟨addKey added (Text.lower word) dictionary.entries⟩

def insertAll (dictionary : Dictionary) (added : WordClass) (words : List String) : Dictionary :=
  words.foldl (fun known word => known.insert added word) dictionary

def size (dictionary : Dictionary) : Nat :=
  dictionary.entries.length

def isEmpty (dictionary : Dictionary) : Bool :=
  dictionary.entries.isEmpty

def classify (dictionary : Dictionary) (word : String) : WordClass :=
  (dictionary.entries.lookup (Text.lower word)).getD WordClass.empty

def lexicon (dictionary : Dictionary) : Lexicon := ⟨dictionary.classify⟩

end Dictionary

end Constituency
