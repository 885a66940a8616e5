import Constituency.Proofs.CutClauses
import Constituency.Proofs.ParsedTexts
import Constituency.Proofs.RejoinedTokens

namespace Constituency

open Coordination

def Settled (item : Tape → Run Outcome) (after : List String) (rest : Tape) : Prop :=
  ∀ part tree, Reads item (part.followedBy after) tree (rest.followedBy after) →
    Reads item part tree rest

section Rules

variable {config settings : Config} {after : List String} {rest : Tape} {rule first second : Rule}

theorem Steady.settled {item : Tape → Run Outcome} {dead : Tape → Prop}
    (steady : ∀ part, Steady item after dead part) : Settled item after rest :=
  fun part tree reads => (steady part).down tree rest reads

theorem Settled.sole {others : List Rule}
    (settled : Settled (first.recognize settings) after rest) (plain : rule.isList = false)
    (chooses : ∀ tape, Grammar.body Rule.recognize rule config tape
      = Grammar.choice Rule.recognize (first :: others) settings tape)
    (unimplemented : ∀ other ∈ others, other.isImplemented = false) :
    Settled (rule.recognize config) after rest := by
  intro part tree reads
  rw [Rule.sole_reads_iff plain chooses unimplemented] at reads ⊢
  exact settled part tree reads

theorem Settled.pair {join : Tree → Tree → Tree}
    (begins : ∀ place, Settled (first.recognize config) after place)
    (follows : Settled (second.recognize config) after rest) (plain : rule.isList = false)
    (firstPlain : first.isList = false) (secondPlain : second.isList = false)
    (pairs : ∀ tape, Grammar.body Rule.recognize rule config tape
      = Grammar.pair Rule.recognize first second join config tape) :
    Settled (rule.recognize config) after rest := by
  intro part tree reads
  exact pair_down plain firstPlain secondPlain pairs (fun place => begins place part)
    (fun place tree _ => follows place tree) reads

variable (flags : config.flags = .none) (apart : config.lexicon.Apart)

include flags apart

theorem nounClause_settled : Settled (Rule.nounClause.recognize config) after rest :=
  Steady.settled fun part => (constituents_steady flags apart after part).1

/-- Clauses in a list may be followed by anything, so the end of the tape is what settles a list. -/
theorem clauses_settled (ended : rest.atEnd = true) :
    Settled (Rule.compound.recognize (config.withItemRule .nounClause)) after rest := by
  have plain : Rule.nounClause.isList = false := rfl
  intro part tree reads
  exact compound_down_of_atEnd (Rule.recognize_keeps (config.suits_of_plain plain))
    (fun later _ => (constituents_steady flags apart after later).1) (listStyle_unspaced flags)
    (listStyle_joined flags) (readsCompound_of_plain plain (by rw [flags]; rfl)) ended reads

theorem objectClause_settled (ended : rest.atEnd = true) :
    Settled (Rule.objectClause.recognize config) after rest :=
  (clauses_settled flags apart ended).sole rfl (fun _ => rfl) (by decide)

theorem verbObjectClause_settled (ended : rest.atEnd = true) :
    Settled (Rule.verbObjectClause.recognize config) after rest := by
  have word : ReadsWord (Rule.transitiveVerb.recognize config) fun _ => True :=
    word_readsWord rfl fun _ _ => trivial
  have verb (place : Tape) : Settled (Rule.transitiveVerb.recognize config) after place :=
    Steady.settled word.steady
  have verbObject : Settled (Rule.transitiveVerbObjectClause.recognize config) after rest :=
    .pair verb (objectClause_settled flags apart ended) rfl rfl rfl fun _ => rfl
  exact verbObject.sole rfl (fun _ => rfl) (by decide)

theorem sentence_settled (ended : rest.atEnd = true) :
    Settled (Rule.sentence.recognize config) after rest := by
  have subject (place : Tape) : Settled (Rule.subjectClause.recognize config) after place :=
    (nounClause_settled flags apart).sole rfl (fun _ => rfl) (by decide)
  have statement : Settled (Rule.statement.recognize config) after rest :=
    .pair subject (verbObjectClause_settled flags apart ended) rfl rfl rfl fun _ => rfl
  exact statement.sole rfl (fun _ => rfl) (by decide)

end Rules

namespace Parse

theorem parseWith_rejoined {text : String} {rule : Rule} {options : Options} {part : Tape}
    {outcome : Outcome} {events : List Event}
    (taken : ∀ token ∈ part.tokens, token ∈ Token.ofText text) (begins : part.position = 0)
    (done : rule.recognize options.config part = .done outcome events) :
    ∃ later, parseWith (" ".intercalate part.tokens) rule options
      = .ok (.done ⟨" ".intercalate part.tokens, rule, part, outcome⟩ later) := by
  have retold : Token.ofText (" ".intercalate part.tokens) = part.tokens :=
    Token.ofText_intercalate taken
  have taped : Tape.ofText (" ".intercalate part.tokens) = .ok part := by
    rw [Tape.ofText_eq (retold.trans_ne part.nonempty)]
    exact congrArg Except.ok (Tape.eq_of_position retold begins.symm)
  obtain ⟨later, parsed⟩ := parseTape_of_done (" ".intercalate part.tokens) done
  refine ⟨later, ?_⟩
  rw [parseWith, taped, ← parsed]
  rfl

/-- What a match has read is, on its own, a text that the rule reads to its end as the same tree. -/
theorem parseWith_consumed (text : String) (rule : Rule)
    (chosen : rule = .sentence ∨ rule = .nounClause) {parse : Parse} {events : List Event}
    (parsed : parseWith text rule .initial = .ok (.done parse events))
    (matched : parse.success = true) :
    ∃ tree again later, parse.tree? = some tree ∧
      parseWith (" ".intercalate ((Token.ofText text).take parse.consumed)) rule .initial
        = .ok (.done again later) ∧
      again.success = true ∧ again.complete = true ∧ again.tree? = some tree := by
  have plain : rule.isList = false := by rcases chosen with rfl | rfl <;> rfl
  have present : Token.ofText text ≠ [] := by
    intro blank
    cases (parseWith_of_blank blank).symm.trans parsed
  obtain ⟨tape, outcome, early, _, _, tokens, starts, done, kept, ran⟩ :=
    parseWith_ends (Config.suits_of_plain _ plain) present
  cases ran.symm.trans parsed
  cases outcome with
  | missed => cases matched
  | matched rest tree =>
      obtain ⟨part, last, whole, ends, cut, begins, ended⟩ := Tape.exists_cut kept
      have settled : Settled (rule.recognize Options.initial.config) rest.remaining last := by
        rcases chosen with rfl | rfl
        · exact sentence_settled rfl english_apart ended
        · exact nounClause_settled rfl english_apart
      obtain ⟨late, again⟩ := settled part tree (whole ▸ ends ▸ ⟨early, done⟩)
      have words : part.tokens = (Token.ofText text).take rest.position := by
        calc
          part.tokens = rest.consumed := cut
          _ = tape.tokens.take rest.position := by rw [Tape.consumed, Tape.Ahead.tokens kept]
          _ = (Token.ofText text).take rest.position := by rw [tokens]
      have taken : ∀ token ∈ part.tokens, token ∈ Token.ofText text := by
        intro token member
        exact List.mem_of_mem_take (words ▸ member)
      obtain ⟨later, reparsed⟩ := parseWith_rejoined taken (begins.trans starts) again
      have none : last.remaining = [] := by
        rw [Tape.remaining, eq_of_beq ended, List.drop_length]
      rw [words] at reparsed
      exact ⟨tree, _, later, rfl, reparsed, rfl, List.isEmpty_iff.mpr none, rfl⟩

theorem parseWith_consumed_objects :
    ∃ parse events tree again later,
      parseWith "A boy sees the cat, the dog or" .sentence .initial = .ok (.done parse events) ∧
      parse.success = true ∧
      parse.remaining = [",", "the", "dog", "or"] ∧ parse.tree? = some tree ∧
      parseWith "A boy sees the cat" .sentence .initial = .ok (.done again later) ∧
      again.success = true ∧ again.complete = true ∧ again.tree? = some tree := by
  let tape (position : Nat) (bound : position ≤ 9) : Tape :=
    ⟨["A", "boy", "sees", "the", "cat", ",", "the", "dog", "or"], position, by decide, bound⟩
  let statement : Tree := .statement
    (.nounClause (some (.word (.single .singularNoun) "boy")) [] [])
    (.verbObject (.word (.single .transitiveVerb) "sees")
      (.nounClause (some (.word (.single .singularNoun) "cat")) [] []))
  have words : Token.ofText "A boy sees the cat, the dog or"
      = ["A", "boy", "sees", "the", "cat", ",", "the", "dog", "or"] := by decide
  have begins : Tape.ofText "A boy sees the cat, the dog or" = .ok (tape 0 (by decide)) := by
    simp only [Tape.ofText, words]
    rfl
  obtain ⟨early, done⟩ : ∃ early, Rule.sentence.recognize Options.initial.config
      (tape 0 (by decide)) = .done (.matched (tape 5 (by decide)) statement) early := by
    simp only [tape, statement]
    exact ⟨_, rfl⟩
  let parse : Parse := ⟨"A boy sees the cat, the dog or", .sentence, tape 0 (by decide),
    .matched (tape 5 (by decide)) statement⟩
  obtain ⟨events, ended⟩ := parseTape_of_done "A boy sees the cat, the dog or" done
  have parsed : parseWith "A boy sees the cat, the dog or" .sentence .initial
      = .ok (.done parse events) := by
    rw [parseWith, begins, ← ended]
    rfl
  obtain ⟨tree, again, later, read, reparsed, success, complete, same⟩ :=
    parseWith_consumed _ _ (.inl rfl) parsed rfl
  have shorter : " ".intercalate ((Token.ofText "A boy sees the cat, the dog or").take 5)
      = "A boy sees the cat" := by
    rw [words]
    decide
  exact ⟨parse, events, tree, again, later, parsed, rfl, rfl, read, shorter ▸ reparsed, success,
    complete, same⟩

end Parse

end Constituency
