namespace Constituency

inductive PartOfSpeech
  | singularNoun
  | pluralNoun
  | adjective
  | preposition
  /-- A single word standing for a whole adjectival phrase, such as "outside". -/
  | prepPhrase
  | transitiveVerb
  deriving DecidableEq, Repr

namespace PartOfSpeech

def all : List PartOfSpeech :=
  [singularNoun, pluralNoun, adjective, preposition, prepPhrase, transitiveVerb]

def bit : PartOfSpeech → UInt8
  | singularNoun => 1
  | pluralNoun => 2
  | adjective => 4
  | preposition => 8
  | prepPhrase => 16
  | transitiveVerb => 32

def name : PartOfSpeech → String
  | singularNoun => "SINGULAR_NOUN"
  | pluralNoun => "PLURAL_NOUN"
  | adjective => "ADJECTIVE"
  | preposition => "PREPOSITION"
  | prepPhrase => "PREP_PHRASE"
  | transitiveVerb => "TRANSITIVE_VERB"

def label : PartOfSpeech → String
  | singularNoun => "singular noun"
  | pluralNoun => "plural noun"
  | adjective => "adjective"
  | preposition => "preposition"
  | prepPhrase => "prep phrase"
  | transitiveVerb => "transitive verb"

def ofName? (name : String) : Option PartOfSpeech :=
  all.find? fun part => part.name == name

end PartOfSpeech

/-- A set of parts of speech. The two highest bits stand for none and are kept as they are. -/
structure WordClass where
  bits : UInt8
  deriving DecidableEq, Repr

namespace WordClass

def empty : WordClass := ⟨0⟩

def single (part : PartOfSpeech) : WordClass := ⟨part.bit⟩

def union (left right : WordClass) : WordClass := ⟨left.bits ||| right.bits⟩

def ofParts (parts : List PartOfSpeech) : WordClass :=
  parts.foldl (fun found part => found.union (single part)) empty

def isEmpty (wordClass : WordClass) : Bool :=
  wordClass.bits == 0

def has (wordClass : WordClass) (part : PartOfSpeech) : Bool :=
  wordClass.bits &&& part.bit == part.bit

def parts (wordClass : WordClass) : List PartOfSpeech :=
  PartOfSpeech.all.filter wordClass.has

/-- The labels joined by slashes; a class of nothing at all is `unknown`. -/
def describe (wordClass : WordClass) : String :=
  if wordClass.isEmpty then "unknown"
  else "/".intercalate (wordClass.parts.map PartOfSpeech.label)

end WordClass

structure Lexicon where
  /-- All classes of a token; empty for one that is not known. -/
  classify : String → WordClass

end Constituency
