import Constituency.Machine
import Constituency.Rule

/-!
Noun clauses: after "the", a noun of either number; after "a" or "an", a singular noun; with no
determiner, a plural noun. Adjectives may stand before the noun and phrases after it, and each of
these may be a list.
-/

namespace Constituency.NounClause

inductive Determiner
  | definite
  | indefinite
  deriving DecidableEq, Repr

/-- What the determiner, or the lack of one, says of the noun. -/
inductive Kind
  | definite
  | singular
  | plural
  deriving DecidableEq, Repr

def Kind.nounRule : Kind → Rule
  | definite => .noun
  | singular => .singularNoun
  | plural => .pluralNoun

def Determiner.kind : Determiner → Kind
  | definite => .definite
  | indefinite => .singular

inductive State
  | start
  | adjectives (determiner : Determiner)
  | noun (kind : Kind)
  | phrases (kind : Kind)
  | succeeded
  | failed
  deriving DecidableEq, Repr

def State.name : State → String
  | start => "Start"
  | adjectives .definite => "DefAdj"
  | adjectives .indefinite => "IndefSAdj"
  | noun .definite => "DefNoun"
  | noun .singular => "IndefSNoun"
  | noun .plural => "IndefPNoun"
  | phrases .definite => "DefAdjPhr"
  | phrases .singular => "IndefSAdjPhr"
  | phrases .plural => "IndefPAdjPhr"
  | succeeded => "Succeeded"
  | failed => "Failed"

inductive Slot
  | noun
  | adjectives
  | phrases
  deriving DecidableEq, Repr

structure Parts where
  nouns : List Tree
  adjectives : List Tree
  phrases : List Tree
  /-- What the last constituent has given, until it is merged into a slot. -/
  output : List Tree

namespace Parts

def initial : Parts := ⟨[], [], [], []⟩

def push (parts : Parts) (tree : Tree) : Parts :=
  { parts with output := parts.output ++ [tree] }

def mergeInto (parts : Parts) : Slot → Parts
  | .noun => { parts with nouns := parts.nouns ++ parts.output, output := [] }
  | .adjectives => { parts with adjectives := parts.adjectives ++ parts.output, output := [] }
  | .phrases => { parts with phrases := parts.phrases ++ parts.output, output := [] }

def toTree (parts : Parts) : Tree :=
  .nounClause parts.nouns.head? parts.adjectives parts.phrases

end Parts

abbrev Step := Tape → Parts → Run (Stage State Parts)

/-- Reads a constituent by a rule, alone or as a list. -/
abbrev Reader := Rule → Tape → Run Outcome

def determiner? (tape : Tape) : Option Determiner :=
  if tape.isWord "the" then some .definite
  else if tape.isWord "a" || tape.isWord "an" then some .indefinite
  else none

def readInto (reader : Reader) (rule : Rule) (slot : Slot) (found missing : State) : Step :=
  fun tape parts => do
    match ← reader rule tape with
    | .matched rest tree => pure ⟨found, rest, (parts.push tree).mergeInto slot⟩
    | .missed _ _ => pure ⟨missing, tape, parts⟩

def readAdjectives (reader : Reader) (kind : Kind) : Step :=
  readInto reader .adjective .adjectives (.noun kind) (.noun kind)

def readNoun (reader : Reader) (kind : Kind) : Step :=
  readInto reader kind.nounRule .noun (.phrases kind) .failed

def readPhrases (reader : Reader) (kind : Kind) : Step :=
  readInto reader .prepAdjectivalPhrase .phrases (.phrases kind) .succeeded

def begin (reader : Reader) : Step := fun tape parts =>
  match determiner? tape with
  | none => readAdjectives reader .plural tape parts
  | some determiner =>
    match tape.forward with
    | .ok rest => pure ⟨.adjectives determiner, rest, parts⟩
    | .error _ => pure ⟨.failed, tape, parts⟩

def handler (reader : Reader) : State → Option Step
  | .start => some (begin reader)
  | .adjectives determiner => some (readAdjectives reader determiner.kind)
  | .noun kind => some (readNoun reader kind)
  | .phrases kind => some (readPhrases reader kind)
  | .succeeded | .failed => none

def machine (reader : Reader) : Machine State Parts where
  name := "NounClause"
  start := .start
  accepting := [.succeeded]
  rejecting := [.failed]
  handler := handler reader
  finish := fun _ parts => parts.toTree
  stateName := State.name

/-- Reads a noun clause. Every stage but the last two and the one after missing adjectives begins
further on than the one before it. -/
def read (reader : Reader) (tape : Tape) : Run Outcome :=
  (machine reader).run (tape.remaining.length + 4) tape .initial

end Constituency.NounClause
