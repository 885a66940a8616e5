import Constituency.Grammar

namespace Constituency

structure Parse where
  text : String
  rule : Rule
  start : Tape
  outcome : Outcome

namespace Parse

def tokens (parse : Parse) : List String := parse.start.tokens

def success (parse : Parse) : Bool := parse.outcome.succeeded

def consumed (parse : Parse) : Nat := parse.outcome.tape.position

def remaining (parse : Parse) : List String := parse.outcome.tape.remaining

def complete (parse : Parse) : Bool := parse.success && parse.remaining.isEmpty

def tree? (parse : Parse) : Option Tree := parse.outcome.tree?

def reason? (parse : Parse) : Option String := parse.outcome.reason?

end Parse

def parseTape (text : String) (rule : Rule) (options : Options) (tape : Tape) : Run Parse := do
  let outcome ← rule.recognize options.config tape
  Run.emit (.parsed rule outcome.succeeded outcome.tape.position)
  pure ⟨text, rule, tape, outcome⟩

/-- Parses a text by a rule; a text with no tokens is refused before the rule is run. -/
def parseWith (text : String) (rule : Rule) (options : Options) :
    Except Tape.Error (Run Parse) :=
  (Tape.ofText text).map (parseTape text rule options)

def parse (text : String) : Except Tape.Error (Run Parse) :=
  parseWith text .sentence .initial

end Constituency
