import Constituency.Coordination
import Constituency.NounClause
import Constituency.Recognizer
import Constituency.Text.Quoted

/-!
The grammar: what each rule accepts, given a way to call the rules it is made of. Rules call each
other, so they are run with a bound on the depth of calls. A rule comes back to itself only after a
token has been read, so a bound that grows with the rest of the tape is never met.
-/

namespace Constituency

abbrev Caller := Rule → Config → Tape → Run Outcome

namespace Grammar

def anyToken (tape : Tape) : Outcome :=
  match tape.read with
  | .ok (token, rest) => .matched rest (.token token)
  | .error cause => .missed ("Dummy: " ++ cause.message) tape

def wordOf (name : String) (part : PartOfSpeech) (config : Config) (tape : Tape) : Outcome :=
  match tape.read with
  | .error _ => .missed (name ++ ": end of tape") tape
  | .ok (token, rest) =>
    let found := config.lexicon.classify token
    if found.has part then .matched rest (.word (.single part) token)
    else .missed (name ++ ": " ++ Text.quoted token ++ " is " ++ found.describe) tape

def choice (call : Caller) (rules : List Rule) (config : Config) (tape : Tape) : Run Outcome :=
  Recognizer.firstOf (rules.map fun rule => ⟨rule.name, call rule⟩) config tape

def pair (call : Caller) (first second : Rule) (join : Tree → Tree → Tree) (config : Config)
    (tape : Tape) : Run Outcome := do
  let steps : List Recognizer := [⟨first.name, call first⟩, ⟨second.name, call second⟩]
  let outcome ← Recognizer.inOrder steps config tape
  pure (outcome.mapTree fun
    | .sequence [left, right] => join left right
    | other => other)

def list (call : Caller) (caller : Rule) (conjunction : Option Conjunction)
    (requireList fallback : Bool) (config : Config) (tape : Tape) : Run Outcome := do
  let item ← config.itemRuleFor caller.name
  let style : Coordination.Style :=
    { requireList, fallback, spaceDelimiters := config.flags.spaceDelimiters,
      commasOnly := config.flags.commasOnly }
  Coordination.read style conjunction (call item config.forItems) tape

def body (call : Caller) : Caller
  | .dummy, _, tape => pure (anyToken tape)
  | .adjective, config, tape => pure (wordOf Rule.adjective.name .adjective config tape)
  | .singularNoun, config, tape => pure (wordOf Rule.singularNoun.name .singularNoun config tape)
  | .pluralNoun, config, tape => pure (wordOf Rule.pluralNoun.name .pluralNoun config tape)
  | .preposition, config, tape => pure (wordOf Rule.preposition.name .preposition config tape)
  | .prepWord, config, tape => pure (wordOf Rule.prepWord.name .prepPhrase config tape)
  | .transitiveVerb, config, tape =>
    pure (wordOf Rule.transitiveVerb.name .transitiveVerb config tape)
  | .compoundAnd, config, tape =>
    list call .compoundAnd (some .and) config.flags.requireList false config tape
  | .compoundOr, config, tape =>
    list call .compoundOr (some .or) config.flags.requireList false config tape
  | .compound, config, tape => list call .compound none false true config tape
  | .nounClause, config, tape =>
    NounClause.read (fun item => call .compound (config.withItemRule item)) tape
  | .noun, config, tape => choice call [.singularNoun, .pluralNoun] config tape
  | .prepAdjectivalPhrase, config, tape => choice call [.prepNounClause, .prepWord] config tape
  | .prepNounClause, config, tape => pair call .preposition .nounClause .prepPhrase config tape
  | .sentence, config, tape => choice call [.statement, .question, .command] config tape
  | .statement, config, tape =>
    pair call .subjectClause .verbObjectClause .statement config tape
  | .subjectClause, config, tape =>
    choice call [.nounClause, .pronounClause, .gerundClause, .prepNounPhrase] config tape
  | .objectClause, config, tape =>
    choice call [.compound, .pronounClause] (config.withItemRule .nounClause) tape
  | .verbObjectClause, config, tape =>
    choice call [.transitiveVerbObjectClause, .intransitiveVerbObjectClause] config tape
  | .transitiveVerbObjectClause, config, tape =>
    pair call .transitiveVerb .objectClause .verbObject config tape
  | .question, _, tape => pure (.unimplemented Rule.question.name tape)
  | .command, _, tape => pure (.unimplemented Rule.command.name tape)
  | .pronounClause, _, tape => pure (.unimplemented Rule.pronounClause.name tape)
  | .gerundClause, _, tape => pure (.unimplemented Rule.gerundClause.name tape)
  | .prepNounPhrase, _, tape => pure (.unimplemented Rule.prepNounPhrase.name tape)
  | .intransitiveVerbObjectClause, _, tape =>
    pure (.unimplemented Rule.intransitiveVerbObjectClause.name tape)

/-- Runs a rule with calls at most `depth` deep, and records how it ended. -/
def run : Nat → Caller
  | 0, _, _, _ => .fault .exhausted
  | depth + 1, rule, config, tape => do
    let outcome ← body (run depth) rule config tape
    Run.emit (.finished rule tape.position outcome.tape.position outcome.succeeded)
    pure outcome

/-- A depth of calls that no rule needs more of, unless lists are items of lists. -/
def depthFor (tape : Tape) : Nat :=
  4 * (tape.remaining.length + 4)

end Grammar

def Rule.recognize (rule : Rule) (config : Config) (tape : Tape) : Run Outcome :=
  Grammar.run (Grammar.depthFor tape) rule config tape

def Rule.recognizer (rule : Rule) : Recognizer := ⟨rule.name, rule.recognize⟩

end Constituency
