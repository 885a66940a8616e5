import Constituency.Rule

/-!
Command-line arguments. They are read from left to right, options and words in any order; the first
one that is wrong decides.
-/

namespace Constituency

inductive ValueOption
  | input
  | rule
  | item
  deriving DecidableEq, Repr

inductive FlagOption
  | commasOnly
  | spaceDelimiters
  | json
  | colour (on : Bool)
  deriving DecidableEq, Repr

inductive UsageError
  | unknownOption (argument : String)
  | missingValue (option : ValueOption)
  | unwantedValue (argument : String)
  | repeated (name : String)
  | unknownRule (option : ValueOption) (value : String)
  | inputAndWords
  deriving DecidableEq, Repr

def ValueOption.name : ValueOption → String
  | input => "--input"
  | rule => "--rule"
  | item => "--item"

def FlagOption.name : FlagOption → String
  | commasOnly => "--commas-only"
  | spaceDelimiters => "--space-delimiters"
  | json => "--json"
  | colour true => "--color"
  | colour false => "--no-color"

def UsageError.message : UsageError → String
  | unknownOption argument => "unexpected argument '" ++ argument ++ "'"
  | missingValue option => "a value is required for '" ++ option.name ++ "'"
  | unwantedValue argument => "no value is allowed in '" ++ argument ++ "'"
  | repeated name => "'" ++ name ++ "' cannot be used more than once"
  | unknownRule option value => "invalid value '" ++ value ++ "' for '" ++ option.name ++ "'"
  | inputAndWords => "'--input' cannot be used together with words"

def ruleChoices : List (String × Rule) :=
  [("sentence", .sentence), ("statement", .statement), ("noun-clause", .nounClause),
   ("object-clause", .objectClause), ("compound", .compound), ("compound-and", .compoundAnd),
   ("compound-or", .compoundOr), ("adjective", .adjective), ("noun", .noun),
   ("prep-adjectival-phrase", .prepAdjectivalPhrase), ("dummy", .dummy)]

structure Arguments where
  words : List String
  input : Option String
  rule : Option Rule
  item : Option Rule
  commasOnly : Bool
  spaceDelimiters : Bool
  json : Bool
  colour : Option Bool
  deriving DecidableEq, Repr

inductive Request
  | help
  | version
  | parse (arguments : Arguments)
  deriving DecidableEq, Repr

namespace Arguments

def initial : Arguments :=
  { words := [], input := none, rule := none, item := none, commasOnly := false,
    spaceDelimiters := false, json := false, colour := none }

def addWord (arguments : Arguments) (word : String) : Arguments :=
  { arguments with words := arguments.words ++ [word] }

def readRule (option : ValueOption) (known : Option Rule) (value : String) :
    Except UsageError (Option Rule) :=
  if known.isSome then .error (.repeated option.name)
  else
    match ruleChoices.lookup value with
    | some rule => .ok (some rule)
    | none => .error (.unknownRule option value)

def setValue (arguments : Arguments) (option : ValueOption) (value : String) :
    Except UsageError Arguments :=
  match option with
  | .input =>
    if arguments.input.isSome then .error (.repeated option.name)
    else .ok { arguments with input := some value }
  | .rule => (readRule option arguments.rule value).map fun rule => { arguments with rule }
  | .item => (readRule option arguments.item value).map fun item => { arguments with item }

/-- Sets a flag. The two colour flags undo each other; otherwise no flag may be given twice. -/
def setFlag (arguments : Arguments) (flag : FlagOption) : Except UsageError Arguments :=
  match flag with
  | .commasOnly =>
    if arguments.commasOnly then .error (.repeated flag.name)
    else .ok { arguments with commasOnly := true }
  | .spaceDelimiters =>
    if arguments.spaceDelimiters then .error (.repeated flag.name)
    else .ok { arguments with spaceDelimiters := true }
  | .json =>
    if arguments.json then .error (.repeated flag.name) else .ok { arguments with json := true }
  | .colour on =>
    if arguments.colour = some on then .error (.repeated flag.name)
    else .ok { arguments with colour := some on }

inductive Item
  | word
  | flag (flag : FlagOption)
  | option (option : ValueOption) (attached : Option String)
  | help
  | version
  | wrong (cause : UsageError)
  deriving DecidableEq, Repr

def cutAtEquals : List Char → List Char × Option (List Char)
  | [] => ([], none)
  | c :: rest =>
    if c = '=' then ([], some rest)
    else
      let (name, value) := cutAtEquals rest
      (c :: name, value)

def longItem (argument : String) (body : List Char) : Item :=
  let (name, attached) := cutAtEquals body
  let alone (item : Item) : Item :=
    if attached.isSome then .wrong (.unwantedValue argument) else item
  match String.ofList name with
  | "input" => .option .input (attached.map String.ofList)
  | "rule" => .option .rule (attached.map String.ofList)
  | "item" => .option .item (attached.map String.ofList)
  | "commas-only" => alone (.flag .commasOnly)
  | "space-delimiters" => alone (.flag .spaceDelimiters)
  | "json" => alone (.flag .json)
  | "color" => alone (.flag (.colour true))
  | "no-color" => alone (.flag (.colour false))
  | "help" => alone .help
  | "version" => alone .version
  | _ => .wrong (.unknownOption argument)

def shortValue : List Char → Option String
  | [] => none
  | '=' :: value => some (String.ofList value)
  | value => some (String.ofList value)

/-- An argument after its one hyphen; `help` and `version` take effect at once. -/
def shortItem (argument : String) : List Char → Item
  | 'i' :: rest => .option .input (shortValue rest)
  | 'h' :: _ => .help
  | 'V' :: _ => .version
  | _ => .wrong (.unknownOption argument)

def itemOf (argument : String) : Item :=
  match argument.toList with
  | '-' :: '-' :: body => longItem argument body
  | ['-'] => .word
  | '-' :: body => shortItem argument body
  | _ => .word

def isValue (argument : String) : Bool :=
  itemOf argument == .word

def readFrom (arguments : Arguments) : List String → Except UsageError Request
  | [] =>
    if arguments.input.isSome && !arguments.words.isEmpty then .error .inputAndWords
    else .ok (.parse arguments)
  | "--" :: words =>
    if arguments.input.isSome && !(arguments.words ++ words).isEmpty then .error .inputAndWords
    else .ok (.parse { arguments with words := arguments.words ++ words })
  | argument :: rest =>
    match itemOf argument with
    | .word => readFrom (arguments.addWord argument) rest
    | .wrong cause => .error cause
    | .help => .ok .help
    | .version => .ok .version
    | .flag flag => do readFrom (← arguments.setFlag flag) rest
    | .option option (some value) => do readFrom (← arguments.setValue option value) rest
    | .option option none =>
      match rest with
      | [] => .error (.missingValue option)
      | value :: others =>
        if isValue value then do readFrom (← arguments.setValue option value) others
        else .error (.missingValue option)

def read (arguments : List String) : Except UsageError Request :=
  readFrom initial arguments

end Arguments

end Constituency
