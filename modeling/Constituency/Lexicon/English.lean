import Constituency.Lexicon.Dictionary

namespace Constituency.Lexicon

def singularNouns : List String :=
  ["ball", "beach", "block", "box", "boy", "cat", "center", "city", "corner", "dog", "girl",
   "house", "reed", "sandwich", "table", "tower"]

def pluralNouns : List String :=
  ["balls", "beaches", "blocks", "boxes", "boys", "cats", "cities", "corners", "dogs", "girls",
   "houses", "reeds", "sandwiches", "tables", "towers"]

def adjectives : List String :=
  ["beautiful", "big", "blue", "green", "happy", "little", "new", "old", "quiet", "red", "small",
   "tall"]

def prepositions : List String :=
  ["among", "at", "behind", "beside", "by", "in", "inside", "near", "of", "on", "outside", "over",
   "under", "with"]

def prepPhrases : List String :=
  ["downstairs", "inside", "nearby", "outside", "upstairs"]

def transitiveVerbs : List String :=
  ["eat", "eats", "find", "finds", "kick", "kicks", "like", "likes", "put", "puts", "see", "sees",
   "throw", "throws"]

def englishWords : PartOfSpeech → List String
  | .singularNoun => singularNouns
  | .pluralNoun => pluralNouns
  | .adjective => adjectives
  | .preposition => prepositions
  | .prepPhrase => prepPhrases
  | .transitiveVerb => transitiveVerbs

def englishDictionary : Dictionary :=
  PartOfSpeech.all.foldl
    (fun known part => known.insertAll (.single part) (englishWords part)) Dictionary.empty

def english : Lexicon := englishDictionary.lexicon

end Constituency.Lexicon
