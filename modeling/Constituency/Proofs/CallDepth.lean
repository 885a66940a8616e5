import Constituency.Grammar
import Constituency.Proofs.ClauseProgress
import Constituency.Proofs.ListProgress

/-!
Nested calls of the grammar. Every call has a rank, made of the tokens that remain and the height of
its rule, and a rule calls others only at lower ranks. So the protocol of recognizers holds of every
rule, by induction on the rank, and a bound on the depth of calls is never met.
-/

namespace Constituency

/-- A list rule needs an item rule, which must not be a list rule itself. -/
def Config.suits (config : Config) (rule : Rule) : Bool :=
  !rule.isList || config.itemRule.any fun item => !item.isList

theorem Config.suits_of_plain (config : Config) {rule : Rule} (plain : rule.isList = false) :
    config.suits rule = true := by
  simp [suits, plain]

theorem Config.suits_of_item {config : Config} {item : Rule} (given : config.itemRule = some item)
    (plain : item.isList = false) (rule : Rule) : config.suits rule = true := by
  simp [suits, given, plain]

theorem Config.item_of_suits {config : Config} {rule : Rule} (list : rule.isList = true)
    (suits : config.suits rule = true) :
    ∃ item, config.itemRule = some item ∧ item.isList = false := by
  simpa [Config.suits, list, Option.any_eq_true] using suits

/-- How deep calls go below a rule before a token is read; for a list rule, below its items. -/
def Rule.height : Rule → Nat
  | .noun | .prepNounClause => 2
  | .prepAdjectivalPhrase => 3
  | .transitiveVerbObjectClause => 4
  | .nounClause | .verbObjectClause => 5
  | .subjectClause => 6
  | .objectClause | .statement => 7
  | .sentence => 8
  | _ => 1

namespace Grammar

def height (rule : Rule) (item : Option Rule) : Nat :=
  if rule.isList then item.elim 1 fun item => item.height + 1 else rule.height

def rank (rule : Rule) (config : Config) (tape : Tape) : Nat :=
  4 * tape.remaining.length + height rule config.itemRule

theorem height_of_plain {rule : Rule} (plain : rule.isList = false) (item : Option Rule) :
    height rule item = rule.height := by
  simp [height, plain]

theorem rule_height_le (rule : Rule) : 1 ≤ rule.height ∧ rule.height ≤ 8 := by
  cases rule <;> decide

theorem height_le (rule : Rule) (item : Option Rule) :
    1 ≤ height rule item ∧ height rule item ≤ 9 := by
  have bounds := rule_height_le rule
  unfold height
  split
  · cases item with
    | none => decide
    | some item =>
        have itemBounds := rule_height_le item
        simp only [Option.elim_some]
        omega
  · omega

theorem rank_le_depthFor (rule : Rule) (config : Config) (tape : Tape) :
    rank rule config tape ≤ depthFor tape := by
  have bound := (height_le rule config.itemRule).2
  simp only [rank, depthFor]
  omega

/-- Every call of lower rank on the same tokens keeps the protocol. -/
def Settled (call : Caller) (rule : Rule) (config : Config) (tape : Tape) : Prop :=
  ∀ inner settings later, settings.suits inner = true → later.tokens = tape.tokens →
    rank inner settings later < rank rule config tape →
    (call inner settings later).Ends (Outcome.Kept later)

variable {call : Caller} {rule : Rule} {config : Config} {tape : Tape}

theorem Settled.within (settled : Settled call rule config tape) {inner : Rule}
    {settings : Config} {later : Tape} (suits : settings.suits inner = true)
    (within : tape.Within later)
    (lower : height inner settings.itemRule < height rule config.itemRule) :
    (call inner settings later).Ends (Outcome.Kept later) := by
  apply settled inner settings later suits within.tokens
  have shorter := within.remaining_le
  simp only [rank]
  omega

/-- A token has been read, so the inner rule may stand somewhat higher. -/
theorem Settled.ahead (settled : Settled call rule config tape) {inner : Rule}
    {settings : Config} {later : Tape} (suits : settings.suits inner = true)
    (ahead : tape.Ahead later)
    (lower : height inner settings.itemRule < height rule config.itemRule + 4) :
    (call inner settings later).Ends (Outcome.Kept later) := by
  apply settled inner settings later suits ahead.tokens
  have shorter := ahead.remaining_lt
  simp only [rank]
  omega

theorem anyToken_kept (tape : Tape) : (anyToken tape).Kept tape := by
  unfold anyToken
  split
  next taken => exact Tape.read_ahead taken
  next => rfl

theorem wordOf_kept (name : String) (part : PartOfSpeech) (config : Config) (tape : Tape) :
    (wordOf name part config tape).Kept tape := by
  unfold wordOf
  split
  next => rfl
  next taken =>
    simp only
    split
    · exact Tape.read_ahead taken
    · rfl

theorem choice_keeps {rules : List Rule} (settled : Settled call rule config tape)
    (plain : rule.isList = false)
    (lower : ∀ inner ∈ rules, inner.isList = false ∧ inner.height < rule.height) :
    (choice call rules config tape).Ends (Outcome.Kept tape) := by
  apply Recognizer.firstOf_keeps
  intro candidate member
  obtain ⟨inner, listed, rfl⟩ := List.mem_map.mp member
  obtain ⟨innerPlain, below⟩ := lower inner listed
  apply settled.within (config.suits_of_plain innerPlain) (.refl tape)
  rw [height_of_plain innerPlain, height_of_plain plain]
  exact below

theorem pair_keeps {first second : Rule} (join : Tree → Tree → Tree)
    (settled : Settled call rule config tape) (plain : rule.isList = false)
    (firstLower : first.isList = false ∧ first.height < rule.height)
    (secondLower : second.isList = false ∧ second.height < rule.height + 4) :
    (pair call first second join config tape).Ends (Outcome.Kept tape) := by
  have begins : (call first config tape).Ends (Outcome.Kept tape) := by
    apply settled.within (config.suits_of_plain firstLower.1) (.refl tape)
    rw [height_of_plain firstLower.1, height_of_plain plain]
    exact firstLower.2
  have follows : ∀ later, tape.Ahead later →
      (call second config later).Ends (Outcome.Kept later) := by
    intro later ahead
    apply settled.ahead (config.suits_of_plain secondLower.1) ahead
    rw [height_of_plain secondLower.1, height_of_plain plain]
    exact secondLower.2
  apply Run.Ends.bind (Recognizer.inOrder_keeps begins ?_)
  · intro outcome kept
    exact Run.ends_pure (kept.mapTree _)
  · intro step member later ahead
    rw [List.mem_singleton] at member
    subst step
    exact follows later ahead

def listStyle (config : Config) (requireList fallback : Bool) : Coordination.Style :=
  { requireList, fallback, spaceDelimiters := config.flags.spaceDelimiters,
    commasOnly := config.flags.commasOnly }

theorem list_eq {item : Rule} (given : config.itemRule = some item) (call : Caller)
    (caller : Rule) (conjunction : Option Conjunction) (requireList fallback : Bool)
    (tape : Tape) :
    list call caller conjunction requireList fallback config tape =
      Coordination.read (listStyle config requireList fallback) conjunction
        (call item config.forItems) tape := by
  simp only [list, Config.itemRuleFor, given, pure_bind, listStyle]

theorem list_keeps (settled : Settled call rule config tape) (listed : rule.isList = true)
    (suits : config.suits rule = true) (caller : Rule) (conjunction : Option Conjunction)
    (requireList fallback : Bool) :
    (list call caller conjunction requireList fallback config tape).Ends (Outcome.Kept tape) := by
  obtain ⟨item, given, plain⟩ := Config.item_of_suits listed suits
  rw [list_eq given]
  apply Coordination.read_keeps
  intro later within
  apply settled.within (Config.suits_of_plain _ plain) within
  rw [height_of_plain plain, given]
  simp [height, listed]

theorem clause_keeps (settled : Settled call .nounClause config tape) :
    (NounClause.read (fun item => call .compound (config.withItemRule item)) tape).Ends
      (Outcome.Kept tape) := by
  apply NounClause.read_keeps
  intro inner member later within
  have lower : inner.isList = false ∧ inner.height + 1 < Rule.nounClause.height := by
    revert inner
    decide
  exact settled.within (Config.suits_of_item rfl lower.1 _) within lower.2

theorem objects_keep (settled : Settled call .objectClause config tape) :
    (choice call [.compound, .pronounClause] (config.withItemRule .nounClause) tape).Ends
      (Outcome.Kept tape) := by
  apply Recognizer.firstOf_keeps
  intro candidate member
  obtain ⟨inner, listed, rfl⟩ := List.mem_map.mp member
  have suits : (config.withItemRule .nounClause).suits inner = true :=
    Config.suits_of_item rfl rfl inner
  apply settled.within suits (.refl tape)
  simp only [List.mem_cons, List.not_mem_nil, or_false] at listed
  rcases listed with rfl | rfl
  · exact (by decide : 6 < 7)
  · exact (by decide : 1 < 7)

theorem body_keeps (suits : config.suits rule = true) (settled : Settled call rule config tape) :
    (body call rule config tape).Ends (Outcome.Kept tape) := by
  cases rule with
  | dummy => exact Run.ends_pure (anyToken_kept tape)
  | adjective | singularNoun | pluralNoun | preposition | prepWord | transitiveVerb =>
      exact Run.ends_pure (wordOf_kept _ _ config tape)
  | compoundAnd | compoundOr | compound => exact list_keeps settled rfl suits _ _ _ _
  | nounClause => exact clause_keeps settled
  -- What is tried in place of a rule stands lower than it; what follows in a pair may stand higher,
  -- since the first of the pair has read a token.
  | noun | prepAdjectivalPhrase | sentence | subjectClause | verbObjectClause =>
      exact choice_keeps settled rfl (by decide)
  | prepNounClause | statement | transitiveVerbObjectClause =>
      exact pair_keeps _ settled rfl (by decide) (by decide)
  | objectClause => exact objects_keep settled
  | question | command | pronounClause | gerundClause | prepNounPhrase
  | intransitiveVerbObjectClause => exact Run.ends_pure rfl

end Grammar

end Constituency
