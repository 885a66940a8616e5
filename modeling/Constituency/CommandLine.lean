import Constituency.Arguments
import Constituency.Report

/-!
The command line as a function from arguments and standard input to what is printed. The exit code
is 0 for a match, 1 for a miss, and 2 if there is nothing to parse.
-/

namespace Constituency.CommandLine

structure Reply where
  exit : UInt8
  output : String
  errors : String
  deriving DecidableEq, Repr

inductive InputError
  | notText
  | blank
  deriving DecidableEq, Repr

def InputError.message : InputError → String
  | notText => "error: failed to read stdin: stream did not contain valid UTF-8"
  | blank => "error: no input provided (pass text as arguments, --input, or stdin)"

def versionText : String := "syntagma 0.1.0\n"

def usageText : String :=
  "Usage: syntagma [OPTIONS] [WORDS]...\n\n"
    ++ "Parses English text and prints the tree. Reads standard input when no text is given.\n\n"
    ++ "  -i, --input <TEXT>    text to parse, as one argument\n"
    ++ "      --rule <RULE>     grammar rule to run [default: sentence]\n"
    ++ "      --item <RULE>     item rule for the list rules [default: noun-clause]\n"
    ++ "      --commas-only     accept \"A, B, C\" without a conjunction\n"
    ++ "      --space-delimiters  accept \"A B C\" with nothing between\n"
    ++ "      --json            print JSON instead of a report\n"
    ++ "      --color, --no-color  force or disable colour\n"
    ++ "  -h, --help            print this text\n"
    ++ "  -V, --version         print the version\n\n"
    ++ "Rules: " ++ ", ".intercalate (ruleChoices.map Prod.fst) ++ "\n"

def refuse (message : String) : Reply := ⟨2, "", message ++ "\n"⟩

/-- The text in the arguments; without one it is read from standard input. -/
def givenText (arguments : Arguments) : Option String :=
  match arguments.input, arguments.words with
  | some text, _ => some text
  | none, [] => none
  | none, words => some (" ".intercalate words)

def inputText (arguments : Arguments) (standardInput : ByteArray) : Except InputError String := do
  let text ←
    match givenText arguments with
    | some text => pure text
    | none =>
      match String.fromUTF8? standardInput with
      | some text => pure text
      | none => throw .notText
  if Text.allBlank text then throw .blank else pure text

def ruleOf (arguments : Arguments) : Rule :=
  arguments.rule.getD .sentence

def optionsOf (arguments : Arguments) : Options where
  flags := ⟨arguments.commasOnly, arguments.spaceDelimiters, false⟩
  lexicon := none
  itemRule :=
    if (ruleOf arguments).isList then some (arguments.item.getD .nounClause) else none

/-- Colour is as asked for, or on when the output is a terminal. -/
def usesColour (arguments : Arguments) (terminal : Bool) : Bool :=
  arguments.colour.getD terminal

def present (arguments : Arguments) (terminal : Bool) (parse : Parse) : Reply where
  exit := if parse.success then 0 else 1
  output :=
    if arguments.json then (Report.toJson parse).render ++ "\n"
    else Report.render (usesColour arguments terminal) parse
  errors := ""

def respond (arguments : Arguments) (standardInput : ByteArray) (terminal : Bool) : Reply :=
  match inputText arguments standardInput with
  | .error cause => refuse cause.message
  | .ok text =>
    match parseWith text (ruleOf arguments) (optionsOf arguments) with
    | .error cause => refuse ("error: " ++ cause.message)
    | .ok (.fault cause) => refuse ("error: " ++ cause.message)
    | .ok (.done parse _) => present arguments terminal parse

def answer (request : Request) (standardInput : ByteArray) (terminal : Bool) : Reply :=
  match request with
  | .help => ⟨0, usageText, ""⟩
  | .version => ⟨0, versionText, ""⟩
  | .parse arguments => respond arguments standardInput terminal

def needsStandardInput : Request → Bool
  | .parse arguments => (givenText arguments).isNone
  | _ => false

end Constituency.CommandLine
