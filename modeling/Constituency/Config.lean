import Constituency.Lexicon.English
import Constituency.Trace

namespace Constituency

structure ListFlags where
  /-- Accept `A, B, C`, with commas and no conjunction. -/
  commasOnly : Bool
  /-- Accept `A B C`, with nothing between the items. -/
  spaceDelimiters : Bool
  /-- Refuse a lone item. -/
  requireList : Bool
  deriving DecidableEq, Repr

namespace ListFlags

def none : ListFlags := ⟨false, false, false⟩

def includes (flags wanted : ListFlags) : Bool :=
  (!wanted.commasOnly || flags.commasOnly) && (!wanted.spaceDelimiters || flags.spaceDelimiters)
    && (!wanted.requireList || flags.requireList)

def union (left right : ListFlags) : ListFlags :=
  ⟨left.commasOnly || right.commasOnly, left.spaceDelimiters || right.spaceDelimiters,
   left.requireList || right.requireList⟩

def names (flags : ListFlags) : List String :=
  (if flags.commasOnly then ["ALLOW_COMMAS_ONLY"] else [])
    ++ (if flags.spaceDelimiters then ["ALLOW_SPACE_DELIMITERS"] else [])
    ++ (if flags.requireList then ["REQUIRE_LIST"] else [])

def ofName? (name : String) : Option ListFlags :=
  [⟨true, false, false⟩, ⟨false, true, false⟩, ⟨false, false, true⟩].find? fun flags =>
    flags.names == [name]

def describe (flags : ListFlags) : String :=
  match flags.names with
  | [] => "ListFlags(0x0)"
  | names => "ListFlags(" ++ " | ".intercalate names ++ ")"

end ListFlags

def describeOption {α : Type} (describe : α → String) : Option α → String
  | none => "None"
  | some value => "Some(" ++ describe value ++ ")"

structure Config where
  itemRule : Option Rule
  flags : ListFlags
  lexicon : Lexicon

namespace Config

def initial : Config := ⟨none, .none, Lexicon.english⟩

def withItemRule (config : Config) (rule : Rule) : Config :=
  { config with itemRule := some rule }

def withFlags (config : Config) (flags : ListFlags) : Config :=
  { config with flags := flags }

def withLexicon (config : Config) (lexicon : Lexicon) : Config :=
  { config with lexicon := lexicon }

def itemRuleFor (config : Config) (caller : String) : Run Rule :=
  match config.itemRule with
  | some rule => pure rule
  | none => .fault (.missingItemRule caller)

def allows (config : Config) (flags : ListFlags) : Bool :=
  config.flags.includes flags

/-- The settings for the items of a list, which need not be lists themselves. -/
def forItems (config : Config) : Config :=
  config.withFlags { config.flags with requireList := false }

def describe (config : Config) : String :=
  "Config \x7b subclass: " ++ describeOption Rule.name config.itemRule
    ++ ", flags: " ++ config.flags.describe ++ ", lexicon: \"<lexicon>\" \x7d"

end Config

structure Options where
  flags : ListFlags
  /-- The English lexicon is used if none is given. -/
  lexicon : Option Lexicon
  itemRule : Option Rule

namespace Options

def initial : Options := ⟨.none, none, none⟩

def config (options : Options) : Config :=
  ⟨options.itemRule, options.flags, options.lexicon.getD Lexicon.english⟩

def describe (options : Options) : String :=
  "Options \x7b flags: " ++ options.flags.describe
    ++ ", lexicon: " ++ describeOption (fun _ => "\"<lexicon>\"") options.lexicon
    ++ ", subclass: " ++ describeOption Rule.name options.itemRule ++ " \x7d"

end Options

end Constituency
