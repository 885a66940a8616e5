import Mathlib.Data.Option.Basic
import Constituency.Proofs.Recursion
import Constituency.Proofs.Respelling

/-!
Rules on tapes that are alike. Nothing in the grammar looks behind the head, and a spelling that the
lexicon is indifferent to is seen nowhere else. So a rule does the same on both tapes: it faults in
the same way, or misses on both, or matches on both with trees and rests that are alike.
-/

namespace Constituency

/-- Both runs stop at the same fault, or both are done and their results agree. -/
inductive Run.Agree {α β : Type} (agree : α → β → Prop) : Run α → Run β → Prop
  | fault (cause : Fault) : Agree agree (.fault cause) (.fault cause)
  | done {left : α} {right : β} (early late : List Event) (results : agree left right) :
      Agree agree (.done left early) (.done right late)

namespace Run.Agree

variable {α β γ δ : Type} {agree : α → β → Prop} {after : γ → δ → Prop}

theorem pure {left : α} {right : β} (results : agree left right) :
    Agree agree (Pure.pure left : Run α) (Pure.pure right : Run β) :=
  .done [] [] results

theorem bind {left : Run α} {right : Run β} {next : α → Run γ} {then_ : β → Run δ}
    (first : Agree agree left right)
    (second : ∀ value other, agree value other → Agree after (next value) (then_ other)) :
    Agree after (left >>= next) (right >>= then_) := by
  cases first with
  | fault cause => exact .fault cause
  | @done value other early late results =>
      have follows := second value other results
      simp only [Run.bind_eq, Run.andThen]
      generalize next value = run at follows ⊢
      generalize then_ other = run' at follows ⊢
      cases follows with
      | fault cause => exact .fault cause
      | done early' late' results' => exact .done _ _ results'

theorem emit_bind {event other : Event} {next : Unit → Run γ} {then_ : Unit → Run δ}
    (follows : Agree after (next ()) (then_ ())) :
    Agree after (Run.emit event >>= next) (Run.emit other >>= then_) := by
  have emitted : Agree (fun _ _ => True) (Run.emit event) (Run.emit other) := .done _ _ trivial
  exact emitted.bind fun _ _ _ => follows

theorem imp {closer : α → β → Prop} {left : Run α} {right : Run β}
    (agrees : Agree agree left right)
    (each : ∀ value early other late, left = .done value early → right = .done other late →
      agree value other → closer value other) : Agree closer left right := by
  cases agrees with
  | fault cause => exact .fault cause
  | done early late results => exact .done early late (each _ early _ late rfl rfl results)

end Run.Agree

inductive Outcome.Alike (spell : String → String) : Outcome → Outcome → Prop
  | matched {rest after : Tape} {tree other : Tree} (rests : rest.Alike spell after)
      (trees : tree.respell spell = other.respell spell) :
      Alike spell (.matched rest tree) (.matched after other)
  | missed {tape home : Tape} (reason excuse : String) (tapes : tape.Alike spell home) :
      Alike spell (.missed reason tape) (.missed excuse home)

namespace Outcome.Alike

variable {spell : String → String} {left right : Outcome}

theorem succeeded (alike : left.Alike spell right) : left.succeeded = right.succeeded := by
  cases alike <;> rfl

theorem tape (alike : left.Alike spell right) : left.tape.Alike spell right.tape := by
  cases alike with
  | matched rests trees => exact rests
  | missed reason excuse tapes => exact tapes

theorem tree (alike : left.Alike spell right) :
    left.tree?.map (Tree.respell spell) = right.tree?.map (Tree.respell spell) := by
  cases alike with
  | matched rests trees => exact congrArg some trees
  | missed reason excuse tapes => rfl

end Outcome.Alike

/-- The recognizer does the same on all tapes that are alike. -/
def Uniform (spell : String → String) (item : Tape → Run Outcome) : Prop :=
  ∀ left right, left.Alike spell right →
    Run.Agree (Outcome.Alike spell) (item left) (item right)

namespace Machine

variable {σ α : Type} {spell : String → String} {gathers : α → α → Prop}

structure Alike (spell : String → String) (gathers : α → α → Prop) (left right : Stage σ α) :
    Prop where
  state : left.state = right.state
  tape : left.tape.Alike spell right.tape
  gathered : gathers left.gathered right.gathered

variable [DecidableEq σ]

theorem drive_agrees {machine : Machine σ α}
    (handlers : ∀ state step, machine.handler state = some step →
      ∀ left right known found, left.Alike spell right → gathers known found →
        Run.Agree (Alike spell gathers) (step left known) (step right found))
    (finishes : ∀ state known found, gathers known found →
      (machine.finish state known).respell spell = (machine.finish state found).respell spell)
    {home back : Tape} (homes : home.Alike spell back) (budget : Nat) {left right : Stage σ α}
    (stages : Alike spell gathers left right) :
    Run.Agree (Outcome.Alike spell) (machine.drive home budget left)
      (machine.drive back budget right) := by
  induction budget generalizing left right with
  | zero => exact .fault _
  | succ budget ih =>
      obtain ⟨state, tape, known⟩ := left
      obtain ⟨_, place, found⟩ := right
      obtain ⟨same, tapes, gathered⟩ := stages
      cases same
      simp only [drive]
      split
      · exact .emit_bind (.pure (.matched tapes (finishes state known found gathered)))
      · split
        · exact .emit_bind (.pure (.missed _ _ homes))
        · split
          · exact .fault _
          next step handled =>
            apply (handlers state step handled tape place known found tapes gathered).bind
            intro next other stepped
            exact .emit_bind (ih stepped)

theorem run_agrees {machine : Machine σ α}
    (handlers : ∀ state step, machine.handler state = some step →
      ∀ left right known found, left.Alike spell right → gathers known found →
        Run.Agree (Alike spell gathers) (step left known) (step right found))
    (finishes : ∀ state known found, gathers known found →
      (machine.finish state known).respell spell = (machine.finish state found).respell spell)
    {left right : Tape} (alike : left.Alike spell right) (budget : Nat) {initial : α}
    (begins : gathers initial initial) :
    Run.Agree (Outcome.Alike spell) (machine.run budget left initial)
      (machine.run budget right initial) :=
  drive_agrees handlers finishes alike budget ⟨rfl, alike, begins⟩

end Machine

namespace Coordination

variable {spell : String → String} {lexicon : Lexicon}

structure Progress.Alike (spell : String → String) (left right : Progress) : Prop where
  conjunction : left.conjunction = right.conjunction
  afterFirst : Option.Rel (Tape.Alike spell) left.afterFirst right.afterFirst
  items : Tree.respellList spell left.items = Tree.respellList spell right.items

theorem finish_respell (spell : String → String) (state : State) (progress : Progress) :
    (finish state progress).respell spell =
      finish state { progress with items := Tree.respellList spell progress.items } := by
  obtain ⟨conjunction, afterFirst, items⟩ := progress
  rcases items with _ | ⟨item, _ | ⟨next, others⟩⟩ <;> cases state <;>
    simp [finish, Tree.respell, Tree.respellList]

theorem finish_alike {state : State} {left right : Progress} (alike : left.Alike spell right) :
    (finish state left).respell spell = (finish state right).respell spell := by
  rw [finish_respell, finish_respell]
  simp only [finish, alike.conjunction, alike.items]

theorem delimiter_alike {left right : Tape} (alike : left.Alike spell right)
    (indifferent : lexicon.Indifferent spell) (allowed : Option Conjunction) :
    delimiter? allowed left = delimiter? allowed right := by
  simp only [delimiter?, alike.isToken_comma indifferent, alike.isWord indifferent]

section Steps

variable {left right : Tape} {known found : Progress}

theorem stop_alike (tapes : left.Alike spell right) (progress : known.Alike spell found) :
    Machine.Alike spell (Progress.Alike spell) (stop left known) (stop right found) := by
  obtain ⟨conjunction, saved, items⟩ := known
  obtain ⟨conjunction', saved', items'⟩ := found
  obtain ⟨same, kept, trees⟩ := progress
  cases kept with
  | none => exact ⟨rfl, tapes, same, .none, trees⟩
  | some rests =>
      refine ⟨rfl, rests, same, .none, ?_⟩
      simp only [Tree.respellList_eq_map] at trees
      simp only [stop, Tree.respellList_eq_map, List.map_take, trees]

theorem skipTo_alike (state : State) (tapes : left.Alike spell right)
    (progress : known.Alike spell found) :
    Machine.Alike spell (Progress.Alike spell) (skipTo state left known)
      (skipTo state right found) := by
  rcases tapes.forward with ⟨rest, after, moved, passed, rests⟩ | ⟨stuck, halted⟩
  · simp only [skipTo, moved, passed]
    exact ⟨rfl, rests, progress⟩
  · simp only [skipTo, stuck, halted]
    exact stop_alike tapes progress

theorem skipConjunction_alike (joint : Conjunction) (tapes : left.Alike spell right)
    (progress : known.Alike spell found) :
    Machine.Alike spell (Progress.Alike spell) (skipConjunction joint left known)
      (skipConjunction joint right found) :=
  skipTo_alike .lastItem tapes ⟨rfl, progress.afterFirst, progress.items⟩

theorem progress_delimiter_alike (indifferent : lexicon.Indifferent spell)
    (tapes : left.Alike spell right) (progress : known.Alike spell found) :
    delimiter? known.conjunction left = delimiter? found.conjunction right := by
  rw [progress.conjunction]
  exact delimiter_alike tapes indifferent _

theorem readFirstDelimiter_alike (style : Style) (indifferent : lexicon.Indifferent spell)
    (tapes : left.Alike spell right) (progress : known.Alike spell found) :
    Machine.Alike spell (Progress.Alike spell) (readFirstDelimiter style left known)
      (readFirstDelimiter style right found) := by
  simp only [readFirstDelimiter, progress_delimiter_alike indifferent tapes progress]
  split
  · exact skipTo_alike _ tapes progress
  · exact skipConjunction_alike _ tapes progress
  · split
    · exact stop_alike tapes progress
    · exact ⟨rfl, tapes, progress⟩

theorem afterLaterItem_alike (style : Style) (indifferent : lexicon.Indifferent spell)
    (tapes : left.Alike spell right) (progress : known.Alike spell found) :
    Machine.Alike spell (Progress.Alike spell) (afterLaterItem style left known)
      (afterLaterItem style right found) := by
  simp only [afterLaterItem, progress_delimiter_alike indifferent tapes progress]
  split
  · exact skipTo_alike _ tapes progress
  · exact skipConjunction_alike _ tapes progress
  · split
    · exact ⟨rfl, tapes, progress⟩
    · exact stop_alike tapes progress

variable {item : Tape → Run Outcome} (uniform : Uniform spell item)

include uniform

theorem takeItem_agrees (tapes : left.Alike spell right) (progress : known.Alike spell found) :
    Run.Agree
      (Option.Rel fun taken other =>
        taken.1.Alike spell other.1 ∧ Progress.Alike spell taken.2 other.2)
      (takeItem item left known) (takeItem item right found) := by
  apply (uniform left right tapes).bind
  intro outcome other alike
  cases alike with
  | missed reason excuse tapes => exact .pure .none
  | matched rests trees =>
      exact .pure (.some ⟨rests, progress.conjunction, progress.afterFirst,
        Tree.respellList_concat progress.items trees⟩)

theorem requireItem_agrees (state : State) (tapes : left.Alike spell right)
    (progress : known.Alike spell found) :
    Run.Agree (Machine.Alike spell (Progress.Alike spell)) (requireItem item state left known)
      (requireItem item state right found) := by
  apply (takeItem_agrees uniform tapes progress).bind
  intro taken other alike
  cases alike with
  | none => exact .pure (stop_alike tapes progress)
  | some both => exact .pure ⟨rfl, both.1, both.2⟩

end Steps

section Reading

variable {style : Style} {item : Tape → Run Outcome}

theorem handler_agrees (uniform : Uniform spell item) (indifferent : lexicon.Indifferent spell)
    (state : State) (step : Step) (handled : handler style item state = some step)
    (left right : Tape) (known found : Progress) (tapes : left.Alike spell right)
    (progress : known.Alike spell found) :
    Run.Agree (Machine.Alike spell (Progress.Alike spell)) (step left known)
      (step right found) := by
  have delimiters := progress_delimiter_alike indifferent tapes progress
  have firstDelimiter := readFirstDelimiter_alike style indifferent tapes progress
  cases state with
  | firstItem =>
      cases handled
      apply (takeItem_agrees uniform tapes progress).bind
      intro taken other alike
      cases alike with
      | none => exact .pure ⟨rfl, tapes, progress⟩
      | some both =>
          refine .pure ⟨rfl, both.1, both.2.conjunction, ?_, both.2.items⟩
          dsimp only
          split
          · exact .some both.1
          · exact both.2.afterFirst
  | firstDelimiter =>
      cases handled
      simp only [afterFirstItem]
      split
      · apply (takeItem_agrees uniform tapes progress).bind
        intro taken other alike
        cases alike with
        | none => exact .pure firstDelimiter
        | some both => exact .pure ⟨rfl, both.1, both.2⟩
      · exact .pure firstDelimiter
  | secondItem =>
      cases handled
      exact requireItem_agrees uniform _ tapes progress
  | laterDelimiter =>
      cases handled
      exact .pure (afterLaterItem_alike style indifferent tapes progress)
  | laterItem =>
      cases handled
      simp only [readLaterItem, delimiters]
      split
      · exact .pure (skipConjunction_alike _ tapes progress)
      · exact requireItem_agrees uniform _ tapes progress
  | lastItem =>
      cases handled
      simp only [readLastItem, delimiters]
      split
      · exact .pure (stop_alike tapes progress)
      · exact requireItem_agrees uniform _ tapes progress
  | spacedItem =>
      cases handled
      apply (takeItem_agrees uniform tapes progress).bind
      intro taken other alike
      cases alike with
      | none => exact .pure ⟨rfl, tapes, progress⟩
      | some both => exact .pure ⟨rfl, both.1, both.2⟩
  | single => cases handled
  | joined => cases handled
  | failed => cases handled

theorem read_uniform (uniform : Uniform spell item) (indifferent : lexicon.Indifferent spell)
    (conjunction : Option Conjunction) : Uniform spell (read style conjunction item) := by
  intro left right alike
  simp only [read, alike.remaining_length]
  exact Machine.run_agrees (handler_agrees uniform indifferent) (fun _ _ _ => finish_alike) alike
    _ ⟨rfl, .none, rfl⟩

end Reading

end Coordination

namespace NounClause

variable {spell : String → String} {lexicon : Lexicon} {reader : Reader}

structure Parts.Alike (spell : String → String) (left right : Parts) : Prop where
  nouns : Tree.respellList spell left.nouns = Tree.respellList spell right.nouns
  adjectives : Tree.respellList spell left.adjectives = Tree.respellList spell right.adjectives
  phrases : Tree.respellList spell left.phrases = Tree.respellList spell right.phrases
  output : Tree.respellList spell left.output = Tree.respellList spell right.output

section Gathering

variable {left right : Parts}

theorem push_alike (alike : left.Alike spell right) {tree other : Tree}
    (trees : tree.respell spell = other.respell spell) :
    (left.push tree).Alike spell (right.push other) :=
  { alike with output := Tree.respellList_concat alike.output trees }

theorem mergeInto_alike (alike : left.Alike spell right) (slot : Slot) :
    (left.mergeInto slot).Alike spell (right.mergeInto slot) := by
  cases slot with
  | noun => exact { alike with
      nouns := Tree.respellList_append alike.nouns alike.output, output := rfl }
  | adjectives => exact { alike with
      adjectives := Tree.respellList_append alike.adjectives alike.output, output := rfl }
  | phrases => exact { alike with
      phrases := Tree.respellList_append alike.phrases alike.output, output := rfl }

theorem toTree_alike (alike : left.Alike spell right) :
    left.toTree.respell spell = right.toTree.respell spell := by
  have nouns := Tree.respellOption_head? alike.nouns
  simp only [Parts.toTree, Tree.respell, nouns, alike.adjectives, alike.phrases]

end Gathering

theorem determiner_alike {left right : Tape} (alike : left.Alike spell right)
    (indifferent : lexicon.Indifferent spell) : determiner? left = determiner? right := by
  simp only [determiner?, alike.isWord indifferent]

theorem readInto_agrees (uniform : ∀ rule, Uniform spell (reader rule)) (rule : Rule)
    (slot : Slot) (found missing : State) {left right : Tape} {known other : Parts}
    (tapes : left.Alike spell right) (parts : known.Alike spell other) :
    Run.Agree (Machine.Alike spell (Parts.Alike spell))
      (readInto reader rule slot found missing left known)
      (readInto reader rule slot found missing right other) := by
  apply (uniform rule left right tapes).bind
  intro outcome result alike
  cases alike with
  | missed reason excuse homes => exact .pure ⟨rfl, tapes, parts⟩
  | matched rests trees => exact .pure ⟨rfl, rests, mergeInto_alike (push_alike parts trees) slot⟩

theorem handler_agrees (uniform : ∀ rule, Uniform spell (reader rule))
    (indifferent : lexicon.Indifferent spell) (state : State) (step : Step)
    (handled : handler reader state = some step) (left right : Tape) (known found : Parts)
    (tapes : left.Alike spell right) (parts : known.Alike spell found) :
    Run.Agree (Machine.Alike spell (Parts.Alike spell)) (step left known) (step right found) := by
  cases state with
  | start =>
      cases handled
      simp only [begin, determiner_alike tapes indifferent]
      split
      · exact readInto_agrees uniform _ _ _ _ tapes parts
      · rcases tapes.forward with ⟨rest, after, moved, passed, rests⟩ | ⟨stuck, halted⟩
        · simp only [moved, passed]
          exact .pure ⟨rfl, rests, parts⟩
        · simp only [stuck, halted]
          exact .pure ⟨rfl, tapes, parts⟩
  | adjectives determiner | noun kind | phrases kind =>
      cases handled
      exact readInto_agrees uniform _ _ _ _ tapes parts
  | succeeded => cases handled
  | failed => cases handled

theorem read_uniform (uniform : ∀ rule, Uniform spell (reader rule))
    (indifferent : lexicon.Indifferent spell) : Uniform spell (read reader) := by
  intro left right alike
  simp only [read, alike.remaining_length]
  exact Machine.run_agrees (handler_agrees uniform indifferent) (fun _ _ _ => toTree_alike) alike
    _ ⟨rfl, rfl, rfl, rfl⟩

end NounClause

namespace Recognizer

variable {spell : String → String} {config : Config}

inductive FoundAlike {ε β : Type} (spell : String → String) (respelled : β → β) :
    Except ε (Tape × β) → Except ε (Tape × β) → Prop
  | ok {rest after : Tape} {result other : β} (rests : rest.Alike spell after)
      (results : respelled result = respelled other) :
      FoundAlike spell respelled (.ok (rest, result)) (.ok (after, other))
  | error (reason excuse : ε) : FoundAlike spell respelled (.error reason) (.error excuse)

theorem search_agrees {candidates : List Recognizer}
    (uniform : ∀ candidate ∈ candidates, Uniform spell (candidate.recognize config))
    {left right : Tape} (alike : left.Alike spell right) :
    Run.Agree (FoundAlike spell (Tree.respell spell)) (search config left candidates)
      (search config right candidates) := by
  induction candidates with
  | nil => exact .pure (.error _ _)
  | cons candidate others ih =>
      apply (uniform candidate List.mem_cons_self left right alike).bind
      intro outcome other outcomes
      cases outcomes with
      | matched rests trees => exact .pure (.ok rests trees)
      | missed reason excuse homes =>
          apply Run.Agree.emit_bind
          apply (ih fun later member => uniform later (List.mem_cons_of_mem _ member)).bind
          intro found other results
          cases results with
          | ok rests trees => exact .pure (.ok rests trees)
          | error reasons excuses => exact .pure (.error _ _)

theorem firstOf_uniform {candidates : List Recognizer}
    (uniform : ∀ candidate ∈ candidates, Uniform spell (candidate.recognize config)) :
    Uniform spell (firstOf candidates config) := by
  intro left right alike
  apply (search_agrees uniform alike).bind
  intro found other results
  cases results with
  | ok rests trees => exact .pure (.matched rests trees)
  | error reasons excuses => exact .pure (.missed _ _ alike)

theorem chain_agrees {steps : List Recognizer}
    (uniform : ∀ step ∈ steps, Uniform spell (step.recognize config))
    {left right : Tape} (alike : left.Alike spell right) :
    Run.Agree (FoundAlike spell (Tree.respellList spell)) (chain config steps left)
      (chain config steps right) := by
  induction steps generalizing left right with
  | nil => exact .pure (.ok alike rfl)
  | cons step others ih =>
      apply (uniform step List.mem_cons_self left right alike).bind
      intro outcome other outcomes
      cases outcomes with
      | missed reason excuse homes => exact .pure (.error _ _)
      | matched rests trees =>
          apply (ih (fun later member => uniform later (List.mem_cons_of_mem _ member)) rests).bind
          intro found other results
          cases results with
          | error reason excuse => exact .pure (.error _ _)
          | ok ends lists =>
              refine .pure (.ok ends ?_)
              simp only [Tree.respellList, trees, lists]

theorem inOrder_uniform {steps : List Recognizer}
    (uniform : ∀ step ∈ steps, Uniform spell (step.recognize config)) :
    Uniform spell (inOrder steps config) := by
  intro left right alike
  apply (chain_agrees uniform alike).bind
  intro found other results
  cases results with
  | error reason excuse => exact .pure (.missed _ _ alike)
  | ok rests lists =>
      refine .pure (.matched rests ?_)
      simp only [Tree.respell, lists]

end Recognizer

namespace Grammar

variable {spell : String → String} {config : Config}

theorem anyToken_uniform : Uniform spell fun tape => pure (anyToken tape) := by
  intro left right alike
  apply Run.Agree.pure
  rcases alike.read with ⟨token, rest, other, after, read, read', same, rests⟩ | ⟨ends, ends'⟩
  · simp only [anyToken, read, read']
    refine .matched rests ?_
    simp only [Tree.respell, same]
  · simp only [anyToken, ends, ends']
    exact .missed _ _ alike

theorem wordOf_uniform (indifferent : config.lexicon.Indifferent spell) (name : String)
    (part : PartOfSpeech) : Uniform spell fun tape => pure (wordOf name part config tape) := by
  intro left right alike
  apply Run.Agree.pure
  rcases alike.read with ⟨token, rest, other, after, read, read', same, rests⟩ | ⟨ends, ends'⟩
  · have classes := indifferent.classify token other same
    simp only [wordOf, read, read', classes]
    split
    · refine .matched rests ?_
      simp only [Tree.respell, same]
    · exact .missed _ _ alike
  · simp only [wordOf, ends, ends']
    exact .missed _ _ alike

/-- What a pair of rules makes of the sequence of their trees. -/
def joinParts (join : Tree → Tree → Tree) : Tree → Tree
  | .sequence [left, right] => join left right
  | other => other

theorem joinParts_respell {join : Tree → Tree → Tree}
    (joins : ∀ left right,
      (join left right).respell spell = join (left.respell spell) (right.respell spell))
    (tree : Tree) : (joinParts join tree).respell spell = joinParts join (tree.respell spell) := by
  cases tree with
  | sequence parts =>
      rcases parts with _ | ⟨first, _ | ⟨second, _ | ⟨third, others⟩⟩⟩ <;>
        simp [joinParts, Tree.respell, Tree.respellList, joins]
  | _ => simp only [joinParts, Tree.respell]

section Calls

variable {call : Caller}
  (calls : ∀ rule config, config.lexicon.Indifferent spell → Uniform spell (call rule config))
  (indifferent : config.lexicon.Indifferent spell)

include calls indifferent

theorem choice_uniform (rules : List Rule) : Uniform spell (choice call rules config) := by
  apply Recognizer.firstOf_uniform
  intro candidate member
  obtain ⟨rule, _, rfl⟩ := List.mem_map.mp member
  exact calls rule config indifferent

theorem pair_uniform (first second : Rule) {join : Tree → Tree → Tree}
    (joins : ∀ left right,
      (join left right).respell spell = join (left.respell spell) (right.respell spell)) :
    Uniform spell (pair call first second join config) := by
  intro left right alike
  have steps : ∀ step ∈ ([⟨first.name, call first⟩, ⟨second.name, call second⟩] : List Recognizer),
      Uniform spell (step.recognize config) := by
    intro step member
    simp only [List.mem_cons, List.not_mem_nil, or_false] at member
    rcases member with rfl | rfl
    · exact calls first config indifferent
    · exact calls second config indifferent
  apply (Recognizer.inOrder_uniform steps left right alike).bind
  intro outcome other outcomes
  cases outcomes with
  | missed reason excuse homes => exact .pure (.missed _ _ homes)
  | @matched rest after tree result rests trees =>
      have joined : (joinParts join tree).respell spell = (joinParts join result).respell spell := by
        rw [joinParts_respell joins, joinParts_respell joins, trees]
      exact .pure (.matched rests joined)

theorem list_uniform (caller : Rule) (conjunction : Option Conjunction)
    (requireList fallback : Bool) :
    Uniform spell (list call caller conjunction requireList fallback config) := by
  intro left right alike
  cases given : config.itemRule with
  | none =>
      simp only [list, Config.itemRuleFor, given, Run.fault_bind]
      exact .fault _
  | some item =>
      simp only [list, Config.itemRuleFor, given, pure_bind]
      have items : Uniform spell (call item config.forItems) := calls item _ indifferent
      exact Coordination.read_uniform items indifferent conjunction left right alike

theorem body_uniform (rule : Rule) : Uniform spell (body call rule config) := by
  cases rule with
  | dummy => exact anyToken_uniform
  | adjective | singularNoun | pluralNoun | preposition | prepWord | transitiveVerb =>
      exact wordOf_uniform indifferent _ _
  | compoundAnd | compoundOr | compound => exact list_uniform calls indifferent _ _ _ _
  | nounClause =>
      exact NounClause.read_uniform (fun item => calls .compound _ indifferent) indifferent
  | noun | prepAdjectivalPhrase | sentence | subjectClause | verbObjectClause =>
      exact choice_uniform calls indifferent _
  | objectClause =>
      have settings : (config.withItemRule .nounClause).lexicon.Indifferent spell := indifferent
      exact choice_uniform calls settings _
  | prepNounClause | statement | transitiveVerbObjectClause =>
      exact pair_uniform calls indifferent _ _ fun _ _ => by simp only [Tree.respell]
  | question | command | pronounClause | gerundClause | prepNounPhrase
  | intransitiveVerbObjectClause =>
      intro left right alike
      exact .pure (.missed _ _ alike)

end Calls

theorem run_uniform (indifferent : config.lexicon.Indifferent spell) (depth : Nat) (rule : Rule) :
    Uniform spell (run depth rule config) := by
  induction depth generalizing rule config with
  | zero =>
      intro left right alike
      exact .fault _
  | succ depth ih =>
      intro left right alike
      have bodies := body_uniform (fun rule config indifferent => ih indifferent rule)
        indifferent rule
      apply (bodies left right alike).bind
      intro outcome other outcomes
      exact .emit_bind (.pure outcomes)

end Grammar

namespace Rule

variable {spell : String → String} {config : Config} {left right : Tape}

/-- A rule depends only on what remains on its tape, and on that only up to spelling. -/
theorem recognize_uniform (indifferent : config.lexicon.Indifferent spell) (rule : Rule) :
    Uniform spell (rule.recognize config) := by
  intro left right alike
  have depths : Grammar.depthFor left = Grammar.depthFor right := by
    simp only [Grammar.depthFor, alike.remaining_length]
  simp only [Rule.recognize, depths]
  exact Grammar.run_uniform indifferent _ rule left right alike

theorem tokens_of_done {rule : Rule} {tape : Tape} {outcome : Outcome} {events : List Event}
    (done : rule.recognize config tape = .done outcome events) :
    outcome.tape.tokens = tape.tokens :=
  (kept_of_done done).tokens

theorem recognize_alike {rule : Rule} (suits : config.suits rule = true)
    (indifferent : config.lexicon.Indifferent spell) (alike : left.Alike spell right) :
    ∃ first early second late, rule.recognize config left = .done first early ∧
      rule.recognize config right = .done second late ∧ first.Alike spell second ∧
      first.tape.tokens = left.tokens ∧ second.tape.tokens = right.tokens := by
  obtain ⟨first, early, ran, kept⟩ := recognize_keeps suits left
  obtain ⟨second, late, ran', kept'⟩ := recognize_keeps suits right
  have agrees := recognize_uniform indifferent rule left right alike
  rw [ran, ran'] at agrees
  cases agrees with
  | done _ _ outcomes =>
      exact ⟨first, early, second, late, ran, ran', outcomes, kept.tokens, kept'.tokens⟩

end Rule

end Constituency
