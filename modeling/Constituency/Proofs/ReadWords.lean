import Constituency.Proofs.Derivations

namespace Constituency

def functionWords : List String := ["and", "or", "the", "a", "an"]

def omittable (token : String) : Bool :=
  token == "," || functionWords.any fun word => Text.sameWord token word

/-- The words are the tokens, less some of those that need not be kept. -/
inductive Thinned : List String → List String → Prop
  | nil : Thinned [] []
  | keep {tokens words} (token : String) (others : Thinned tokens words) :
      Thinned (token :: tokens) (token :: words)
  | drop {tokens words} {token : String} (dropped : omittable token = true)
      (others : Thinned tokens words) : Thinned (token :: tokens) words

theorem Thinned.append {first second left right : List String} (begins : Thinned first left)
    (follows : Thinned second right) : Thinned (first ++ second) (left ++ right) := by
  induction begins with
  | nil => exact follows
  | keep token others ih => exact .keep token ih
  | drop dropped others ih => exact .drop dropped ih

theorem omittable_of_sameWord {token word : String} (listed : word ∈ functionWords)
    (same : Text.sameWord token word = true) : omittable token = true := by
  have found : (functionWords.any fun word => Text.sameWord token word) = true :=
    List.any_eq_true.mpr ⟨word, listed, same⟩
  rw [omittable, found, Bool.or_true]

namespace Tree

theorem wordsOfList_append (left right : List Tree) :
    wordsOfList (left ++ right) = wordsOfList left ++ wordsOfList right := by
  simp only [wordsOfList_eq_flatMap, List.flatMap_append]

theorem wordsOfList_singleton (tree : Tree) : wordsOfList [tree] = tree.words := by
  simp [wordsOfList]

end Tree

namespace Tape

/-- From the head of `tape` up to the head of `rest` stand these words, with nothing but tokens that
need not be kept between them. -/
structure Spells (tape rest : Tape) (words : List String) : Prop where
  within : tape.Within rest
  thinned : Thinned (tape.tokens.extract tape.position rest.position) words

theorem extract_append {first second third : Tape} (left : first.Within second)
    (right : second.Within third) :
    first.tokens.extract first.position second.position
        ++ second.tokens.extract second.position third.position
      = first.tokens.extract first.position third.position := by
  have early := left.position
  have late := right.position
  have steps : third.position - first.position
      = (second.position - first.position) + (third.position - second.position) := by omega
  have place : first.position + (second.position - first.position) = second.position := by omega
  simp only [List.extract_eq_take_drop, left.tokens]
  rw [steps, List.take_add, List.drop_drop, place]

theorem Spells.append {first second third : Tape} {before after : List String}
    (left : first.Spells second before) (right : second.Spells third after) :
    first.Spells third (before ++ after) := by
  refine ⟨left.within.trans right.within, ?_⟩
  rw [← extract_append left.within right.within]
  exact left.thinned.append right.thinned

theorem Spells.nothing (tape : Tape) : tape.Spells tape [] := by
  refine ⟨.refl tape, ?_⟩
  simp only [List.extract_eq_take_drop, Nat.sub_self, List.take_zero]
  exact .nil

theorem spells_of_forward {tape rest : Tape} {token : String} {words : List String}
    (current : tape.current? = some token) (passed : tape.forward = .ok rest)
    (thinned : Thinned [token] words) : tape.Spells rest words := by
  refine ⟨(forward_ahead passed).within, ?_⟩
  have here : tape.tokens.extract tape.position rest.position = [token] := by
    obtain ⟨bound, same⟩ := List.getElem?_eq_some_iff.mp current
    rw [(forward_eq passed).2, List.extract_eq_take_drop, Nat.add_sub_cancel_left,
      List.drop_eq_getElem_cons bound, same]
    rfl
  rw [here]
  exact thinned

theorem spells_of_read {tape rest : Tape} {token : String}
    (taken : tape.read = .ok (token, rest)) : tape.Spells rest [token] := by
  obtain ⟨current, passed⟩ := read_eq taken
  exact spells_of_forward current passed (.keep token .nil)

theorem spells_of_word {tape rest : Tape} {word : String}
    (listed : word ∈ functionWords) (found : tape.isWord word = true)
    (passed : tape.forward = .ok rest) : tape.Spells rest [] := by
  obtain ⟨token, current, same⟩ := (Option.any_eq_true _ _).mp found
  exact spells_of_forward current passed (.drop (omittable_of_sameWord listed same) .nil)

end Tape

theorem Coordination.Comma.spells {tape rest : Tape} (comma : Comma tape rest) :
    tape.Spells rest [] := by
  have current : tape.current? = some "," := eq_of_beq comma.found
  exact Tape.spells_of_forward current comma.passed (.drop (by decide) .nil)

theorem Coordination.Joint.spells {joint : Conjunction} {tape rest : Tape}
    (found : Joint joint tape rest) : tape.Spells rest [] := by
  apply Tape.spells_of_word _ found.found found.passed
  cases joint <;> decide

theorem Coordination.Strung.spells {item : Tape → Run Outcome} {home tape : Tape}
    {trees : List Tree}
    (each : ∀ tape tree rest, Reads item tape tree rest → tape.Spells rest tree.words)
    (items : Strung item home trees tape) : home.Spells tape (Tree.wordsOfList trees) := by
  induction items with
  | none tape => exact .nothing tape
  | item before reads ih =>
      rw [Tree.wordsOfList_append, Tree.wordsOfList_singleton]
      exact ih.append (each _ _ _ reads)
  | comma before comma ih =>
      rw [← List.append_nil (Tree.wordsOfList _)]
      exact ih.append comma.spells
  | joint before found ih =>
      rw [← List.append_nil (Tree.wordsOfList _)]
      exact ih.append found.spells

namespace NounClause

variable {reader : Reader} {home : Tape}

theorem Determined.spells {kind : Kind} {rest : Tape} (determined : Determined home kind rest) :
    home.Spells rest [] := by
  cases determined with
  | definite the passed => exact Tape.spells_of_word (by decide) the passed
  | singular indefinite passed =>
      rcases indefinite with a | an
      · exact Tape.spells_of_word (by decide) a passed
      · exact Tape.spells_of_word (by decide) an passed
  | plural bare => exact .nothing home

variable (each : ∀ item tape tree rest, Reads (reader item) tape tree rest →
    tape.Spells rest tree.words)

include each

theorem BeforeNoun.spells {kind : Kind} {adjectives : List Tree} {place : Tape}
    (before : BeforeNoun reader home kind adjectives place) :
    home.Spells place (Tree.wordsOfList adjectives) := by
  cases before with
  | described determined reads =>
      rw [Tree.wordsOfList_singleton]
      exact determined.spells.append (each _ _ _ _ reads)
  | plain determined misses => exact determined.spells

/-- The parts of a clause are kept apart, but its words come in the order they were read in. -/
theorem Clause.spells {tree : Tree} {rest : Tape} (clause : Clause reader home tree rest) :
    home.Spells rest tree.words := by
  cases clause with
  | mk before head tail ends =>
      rw [Tree.words, Tree.wordsOfOption]
      exact ((before.spells each).append (each _ _ _ _ head)).append
        (tail.strung.spells (each _))

end NounClause

namespace Grammar

theorem Derives.spells {call : Caller} {rule : Rule} {config : Config} {tape rest : Tape}
    {tree : Tree}
    (each : Ensures call fun _ _ tape tree rest => tape.Spells rest tree.words)
    (derives : Derives call config tape rule tree rest) : tape.Spells rest tree.words := by
  cases derives with
  | token taken => exact Tape.spells_of_read taken
  | word asked taken known => exact Tape.spells_of_read taken
  | alternative listed reads => exact each _ _ _ _ _ reads
  | object listed reads => exact each _ _ _ _ _ reads
  | prepPhrase first second | verbObject first second | statement first second =>
      exact (each _ _ _ _ _ first).append (each _ _ _ _ _ second)
  | several list given usable two items => exact items.spells (each _ _)
  | single list given optional reads => exact each _ _ _ _ _ reads
  | clause clause => exact clause.spells fun item => each .compound (config.withItemRule item)

end Grammar

/-- A rule that matches has read the words of its tree, and between them only tokens that need not
be kept: no word is lost, added, moved or respelled. -/
theorem Rule.recognize_words (rule : Rule) (config : Config) (tape : Tape)
    (suits : config.suits rule = true) :
    ∃ outcome events, rule.recognize config tape = .done outcome events ∧
      ∀ tree rest, outcome = .matched rest tree → rest.tokens = tape.tokens ∧
        Thinned (tape.tokens.extract tape.position rest.position) tree.words := by
  obtain ⟨outcome, events, done, _⟩ := recognize_keeps suits tape
  refine ⟨outcome, events, done, ?_⟩
  intro tree rest matched
  rw [matched] at done
  have spells : tape.Spells rest tree.words :=
    Grammar.recognize_ensures (fun _ each _ _ _ _ _ _ derives => derives.spells each)
      rule config tape tree rest ⟨events, done⟩
  exact ⟨spells.within.tokens, spells.thinned⟩

theorem Rule.recognize_words_clause :
    let config := Config.initial.withLexicon ⟨fun token =>
      if token ∈ ["red", "blue"] then .single .adjective
      else if token = "balls" then .single .pluralNoun else .empty⟩
    let tape : Tape :=
      ⟨["of", "The", "red", "and", "blue", "balls", "too"], 1, by decide, by decide⟩
    let tree : Tree := .nounClause (some (.word (.single .pluralNoun) "balls"))
      [.coordination .and [.word (.single .adjective) "red", .word (.single .adjective) "blue"]] []
    config.suits .nounClause = true ∧
    (∃ events, Rule.nounClause.recognize config tape
      = .done (.matched (tape.seek 6) tree) events) ∧
    Thinned ["The", "red", "and", "blue", "balls"] ["red", "blue", "balls"] := by
  intro config tape tree
  obtain ⟨outcome, events, done, words⟩ := recognize_words .nounClause config tape rfl
  have matched : ∃ events, Rule.nounClause.recognize config tape
      = .done (.matched (tape.seek 6) tree) events := by
    simp only [config, tape, tree]
    exact ⟨_, by rfl⟩
  refine ⟨rfl, matched, ?_⟩
  obtain ⟨_, read⟩ := matched
  cases done.symm.trans read
  exact (words tree _ rfl).2

end Constituency
