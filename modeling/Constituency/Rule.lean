namespace Constituency

inductive Rule
  | dummy
  | adjective
  | singularNoun
  | pluralNoun
  | preposition
  /-- One word standing for a whole adjectival phrase, such as "outside". -/
  | prepWord
  | transitiveVerb
  | compoundAnd
  | compoundOr
  /-- A list of the item rule with any conjunction, or a single item. -/
  | compound
  | nounClause
  | noun
  | prepAdjectivalPhrase
  | prepNounClause
  | sentence
  | statement
  | subjectClause
  | objectClause
  | verbObjectClause
  | transitiveVerbObjectClause
  | question
  | command
  | pronounClause
  | gerundClause
  | prepNounPhrase
  | intransitiveVerbObjectClause
  deriving DecidableEq, Repr

namespace Rule

def all : List Rule :=
  [dummy, adjective, singularNoun, pluralNoun, preposition, prepWord, transitiveVerb, compoundAnd,
   compoundOr, compound, nounClause, noun, prepAdjectivalPhrase, prepNounClause, sentence,
   statement, subjectClause, objectClause, verbObjectClause, transitiveVerbObjectClause, question,
   command, pronounClause, gerundClause, prepNounPhrase, intransitiveVerbObjectClause]

def name : Rule → String
  | dummy => "Dummy"
  | adjective => "Adjective"
  | singularNoun => "SingularNoun"
  | pluralNoun => "PluralNoun"
  | preposition => "Preposition"
  | prepWord => "PrepWord"
  | transitiveVerb => "TransitiveVerb"
  | compoundAnd => "CompoundAnd"
  | compoundOr => "CompoundOr"
  | compound => "Compound"
  | nounClause => "NounClause"
  | noun => "Noun"
  | prepAdjectivalPhrase => "PrepAdjectivalPhrase"
  | prepNounClause => "PrepNounClause"
  | sentence => "Sentence"
  | statement => "Statement"
  | subjectClause => "SubjectClause"
  | objectClause => "ObjectClause"
  | verbObjectClause => "VerbObjectClause"
  | transitiveVerbObjectClause => "TransitiveVerbObjectClause"
  | question => "Question"
  | command => "Command"
  | pronounClause => "PronounClause"
  | gerundClause => "GerundClause"
  | prepNounPhrase => "PrepNounPhrase"
  | intransitiveVerbObjectClause => "IntransitiveVerbObjectClause"

def ofName? (name : String) : Option Rule :=
  all.find? fun rule => rule.name == name

def index (rule : Rule) : Nat :=
  all.idxOf rule

/-- Rules that are known by name only and never match. -/
def unimplemented : List Rule :=
  [question, command, pronounClause, gerundClause, prepNounPhrase, intransitiveVerbObjectClause]

def isImplemented (rule : Rule) : Bool :=
  !unimplemented.contains rule

def isList : Rule → Bool
  | compoundAnd | compoundOr | compound => true
  | _ => false

end Rule

end Constituency
