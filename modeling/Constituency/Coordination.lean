import Constituency.Machine

/-!
Lists of items: `A`, `A and B`, `A, B and C`, `A, B, and C`.

A machine reads the first item and then looks for a comma or a conjunction. After a conjunction
comes the last item. After a comma comes another item, and from the second item on a conjunction may
stand right after a comma. What an item is, is up to the caller.
-/

namespace Constituency.Coordination

inductive State
  | firstItem
  | firstDelimiter
  | secondItem
  | laterDelimiter
  | laterItem
  | lastItem
  | spacedItem
  | single
  | joined
  | failed
  deriving DecidableEq, Repr

def State.name : State → String
  | firstItem => "Item1"
  | firstDelimiter => "Delimiter1"
  | secondItem => "Item2"
  | laterDelimiter => "DelimiterN"
  | laterItem => "ItemN"
  | lastItem => "ItemL"
  | spacedItem => "ItemSpacedN"
  | single => "SuccessNotCompound"
  | joined => "SuccessCompound"
  | failed => "Failed"

structure Style where
  requireList : Bool
  /-- A list that breaks off leaves its first item. -/
  fallback : Bool
  spaceDelimiters : Bool
  /-- The conjunction may be left out after two or more items with commas. -/
  commasOnly : Bool
  deriving DecidableEq, Repr

structure Progress where
  /-- The conjunction that may be used; either one as long as there is none. -/
  conjunction : Option Conjunction
  /-- The tape after the first item, for a list that may fall back to it. -/
  afterFirst : Option Tape
  items : List Tree

def Progress.initial (conjunction : Option Conjunction) : Progress := ⟨conjunction, none, []⟩

inductive Delimiter
  | comma
  | conjunction (found : Conjunction)
  deriving DecidableEq, Repr

def delimiter? (allowed : Option Conjunction) (tape : Tape) : Option Delimiter :=
  if tape.isToken "," then some .comma
  else
    (Conjunction.all.find? fun candidate =>
      allowed.all (· = candidate) && tape.isWord candidate.word).map .conjunction

abbrev Step := Tape → Progress → Run (Stage State Progress)

def takeItem (item : Tape → Run Outcome) (tape : Tape) (progress : Progress) :
    Run (Option (Tape × Progress)) := do
  match ← item tape with
  | .matched rest tree => pure (some (rest, { progress with items := progress.items ++ [tree] }))
  | .missed _ _ => pure none

/-- The list breaks off: it fails, or its first item is what is left of it. -/
def stop (tape : Tape) (progress : Progress) : Stage State Progress :=
  match progress.afterFirst with
  | some rest =>
    ⟨.single, rest, { progress with afterFirst := none, items := progress.items.take 1 }⟩
  | none => ⟨.failed, tape, progress⟩

def skipTo (state : State) (tape : Tape) (progress : Progress) : Stage State Progress :=
  match tape.forward with
  | .ok rest => ⟨state, rest, progress⟩
  | .error _ => stop tape progress

def skipConjunction (found : Conjunction) (tape : Tape) (progress : Progress) :
    Stage State Progress :=
  skipTo .lastItem tape { progress with conjunction := some found }

def requireItem (item : Tape → Run Outcome) (state : State) : Step := fun tape progress => do
  match ← takeItem item tape progress with
  | some (rest, longer) => pure ⟨state, rest, longer⟩
  | none => pure (stop tape progress)

def readFirstItem (style : Style) (item : Tape → Run Outcome) : Step := fun tape progress => do
  match ← takeItem item tape progress with
  | some (rest, longer) =>
    let saved := if style.fallback then some rest else longer.afterFirst
    pure ⟨.firstDelimiter, rest, { longer with afterFirst := saved }⟩
  | none => pure ⟨.failed, tape, progress⟩

def readFirstDelimiter (style : Style) (tape : Tape) (progress : Progress) :
    Stage State Progress :=
  match delimiter? progress.conjunction tape with
  | some .comma => skipTo .secondItem tape progress
  | some (.conjunction found) => skipConjunction found tape progress
  | none => if style.requireList then stop tape progress else ⟨.single, tape, progress⟩

def afterFirstItem (style : Style) (item : Tape → Run Outcome) : Step := fun tape progress => do
  if style.spaceDelimiters then
    match ← takeItem item tape progress with
    | some (rest, longer) => pure ⟨.spacedItem, rest, longer⟩
    | none => pure (readFirstDelimiter style tape progress)
  else
    pure (readFirstDelimiter style tape progress)

def afterLaterItem (style : Style) (tape : Tape) (progress : Progress) : Stage State Progress :=
  match delimiter? progress.conjunction tape with
  | some .comma => skipTo .laterItem tape progress
  | some (.conjunction found) => skipConjunction found tape progress
  | none => if style.commasOnly then ⟨.joined, tape, progress⟩ else stop tape progress

def readLaterItem (item : Tape → Run Outcome) : Step := fun tape progress =>
  match delimiter? progress.conjunction tape with
  | some (.conjunction found) => pure (skipConjunction found tape progress)
  | _ => requireItem item .laterDelimiter tape progress

/-- After a conjunction: an item, which may not begin with that conjunction again. -/
def readLastItem (item : Tape → Run Outcome) : Step := fun tape progress =>
  match delimiter? progress.conjunction tape with
  | some (.conjunction _) => pure (stop tape progress)
  | _ => requireItem item .joined tape progress

def readSpacedItem (item : Tape → Run Outcome) : Step := fun tape progress => do
  match ← takeItem item tape progress with
  | some (rest, longer) => pure ⟨.spacedItem, rest, longer⟩
  | none => pure ⟨.joined, tape, progress⟩

def handler (style : Style) (item : Tape → Run Outcome) : State → Option Step
  | .firstItem => some (readFirstItem style item)
  | .firstDelimiter => some (afterFirstItem style item)
  | .secondItem => some (requireItem item .laterDelimiter)
  | .laterDelimiter => some fun tape progress => pure (afterLaterItem style tape progress)
  | .laterItem => some (readLaterItem item)
  | .lastItem => some (readLastItem item)
  | .spacedItem => some (readSpacedItem item)
  | .single | .joined | .failed => none

/-- A lone item stands for itself; a list without a conjunction counts as joined by "and". -/
def finish (state : State) (progress : Progress) : Tree :=
  match state, progress.items with
  | .single, [item] => item
  | _, items => .coordination (progress.conjunction.getD .and) items

def machine (style : Style) (item : Tape → Run Outcome) : Machine State Progress where
  name := "CompoundList"
  start := .firstItem
  accepting := [.single, .joined]
  rejecting := [.failed]
  handler := handler style item
  finish := finish
  stateName := State.name

/-- Reads a list. Every stage but the last two begins further on than the one before it, if every
item reads something. -/
def read (style : Style) (conjunction : Option Conjunction) (item : Tape → Run Outcome)
    (tape : Tape) : Run Outcome :=
  (machine style item).run (tape.remaining.length + 3) tape (.initial conjunction)

end Constituency.Coordination
