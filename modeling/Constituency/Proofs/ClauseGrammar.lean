import Constituency.Proofs.ClauseProgress
import Constituency.Proofs.ListGrammar
import Constituency.Proofs.Recursion

/-!
The grammar of noun clauses, over any way to read their constituents, and the machine that reads it.
A run of the machine follows a derivation step by step, and every derivation is followed by some
run. So the machine reads exactly the clauses of the grammar, and where it fails, it fails at the
place where a noun is missing.
-/

namespace Constituency.NounClause

open Coordination (Adjacent)

/-- The kind of noun that the word under the head asks for. A determiner is passed over; any other
word stays where it is. -/
inductive Determined (tape : Tape) : Kind → Tape → Prop
  | definite {rest} (the : tape.isWord "the" = true) (passed : tape.forward = .ok rest) :
      Determined tape .definite rest
  | singular {rest} (indefinite : tape.isWord "a" = true ∨ tape.isWord "an" = true)
      (passed : tape.forward = .ok rest) : Determined tape .singular rest
  | plural (bare : ∀ word ∈ ["the", "a", "an"], tape.isWord word = false) :
      Determined tape .plural tape

/-- All that comes before the noun: a determiner or none, and adjectives if there are any. -/
inductive BeforeNoun (reader : Reader) (home : Tape) (kind : Kind) : List Tree → Tape → Prop
  | described {start place tree} (determined : Determined home kind start)
      (reads : Reads (reader .adjective) start tree place) :
      BeforeNoun reader home kind [tree] place
  | plain {place} (determined : Determined home kind place)
      (misses : Misses (reader .adjective) place) : BeforeNoun reader home kind [] place

inductive Clause (reader : Reader) (home : Tape) : Tree → Tape → Prop
  | mk {kind adjectives place noun after phrases rest}
      (before : BeforeNoun reader home kind adjectives place)
      (head : Reads (reader kind.nounRule) place noun after)
      (tail : Adjacent (reader .prepAdjectivalPhrase) after phrases rest)
      (ends : Misses (reader .prepAdjectivalPhrase) rest) :
      Clause reader home (.nounClause (some noun) adjectives phrases) rest

inductive Nounless (reader : Reader) (home place : Tape) : Prop
  | mk {kind adjectives} (before : BeforeNoun reader home kind adjectives place)
      (misses : Misses (reader kind.nounRule) place)

section Determiners

variable {tape rest : Tape}

theorem determined_of_some {determiner : Determiner}
    (found : determiner? tape = some determiner) (passed : tape.forward = .ok rest) :
    Determined tape determiner.kind rest := by
  unfold determiner? at found
  split at found
  next the =>
    cases found
    exact .definite the passed
  next =>
    split at found
    next indefinite =>
      cases found
      exact .singular (Bool.or_eq_true_iff.mp indefinite) passed
    next => cases found

theorem determined_of_none (missing : determiner? tape = none) : Determined tape .plural tape := by
  apply Determined.plural
  simp only [List.mem_cons, List.not_mem_nil, or_false]
  unfold determiner? at missing
  split at missing
  next => cases missing
  next noThe =>
    split at missing
    next => cases missing
    next noA =>
      rw [Bool.or_eq_true, not_or] at noA
      intro word member
      rcases member with rfl | rfl | rfl
      · exact Bool.eq_false_iff.mpr noThe
      · exact Bool.eq_false_iff.mpr noA.1
      · exact Bool.eq_false_iff.mpr noA.2

theorem Determined.within {kind : Kind} (determined : Determined tape kind rest) :
    tape.Within rest := by
  cases determined with
  | definite the passed => exact (Tape.forward_ahead passed).within
  | singular indefinite passed => exact (Tape.forward_ahead passed).within
  | plural bare => exact .refl tape

theorem isWord_the_of_indefinite
    (indefinite : tape.isWord "a" = true ∨ tape.isWord "an" = true) :
    tape.isWord "the" = false := by
  apply Bool.eq_false_iff.mpr
  intro the
  rcases indefinite with a | an
  · exact absurd (Tape.sameWord_of_isWord the a) (by decide)
  · exact absurd (Tape.sameWord_of_isWord the an) (by decide)

end Determiners

inductive Traced (reader : Reader) (home : Tape) : Stage State Parts → Prop
  | start : Traced reader home ⟨.start, home, .initial⟩
  | determined {determiner place} (determined : Determined home determiner.kind place) :
      Traced reader home ⟨.adjectives determiner, place, .initial⟩
  | noun {kind adjectives place} (before : BeforeNoun reader home kind adjectives place) :
      Traced reader home ⟨.noun kind, place, ⟨[], adjectives, [], []⟩⟩
  | phrases {kind adjectives place noun after phrases tape}
      (before : BeforeNoun reader home kind adjectives place)
      (head : Reads (reader kind.nounRule) place noun after)
      (tail : Adjacent (reader .prepAdjectivalPhrase) after phrases tape) :
      Traced reader home ⟨.phrases kind, tape, ⟨[noun], adjectives, phrases, []⟩⟩
  | succeeded {tape parts} (clause : Clause reader home parts.toTree tape) :
      Traced reader home ⟨.succeeded, tape, parts⟩
  | failed {place parts} (nounless : Nounless reader home place) :
      Traced reader home ⟨.failed, place, parts⟩

variable {reader : Reader} {home : Tape}

theorem Traced.step {stage next : Stage State Parts} (traced : Traced reader home stage)
    (transition : Transition reader stage next) : Traced reader home next := by
  cases transition with
  | determiner found passed =>
      cases traced with
      | start => exact .determined (determined_of_some found passed)
  | adjectives opening reads =>
      cases opening with
      | undetermined missing =>
          cases traced with
          | start => exact .noun (.described (determined_of_none missing) reads)
      | determined determiner =>
          cases traced with
          | determined determined => exact .noun (.described determined reads)
  | noAdjectives opening misses =>
      cases opening with
      | undetermined missing =>
          cases traced with
          | start => exact .noun (.plain (determined_of_none missing) misses)
      | determined determiner =>
          cases traced with
          | determined determined => exact .noun (.plain determined misses)
  | noun reads =>
      cases traced with
      | noun before => exact .phrases before reads (.none _)
  | noNoun misses =>
      cases traced with
      | noun before => exact .failed ⟨before, misses⟩
  | phrase reads =>
      cases traced with
      | phrases before head tail => exact .phrases before head (tail.more reads)
  | noPhrase misses =>
      cases traced with
      | phrases before head tail => exact .succeeded (.mk before head tail misses)

theorem traced_of_reaches {last : Stage State Parts}
    (reaches : (machine reader).Reaches ⟨.start, home, .initial⟩ last) : Traced reader home last :=
  Machine.reaches_keeps (fun _ _ traced steps => traced.step (transition_of_steps steps))
    .start reaches

section Following

variable {kind : Kind} {adjectives phrases : List Tree} {place after tape : Tape} {noun : Tree}

theorem reaches_determined (determined : Determined home kind place) :
    ∃ state, Opening place state kind ∧
      (machine reader).Reaches ⟨.start, home, .initial⟩ ⟨state, place, .initial⟩ := by
  cases determined with
  | definite the passed =>
      have found : determiner? home = some .definite := by simp [determiner?, the]
      exact ⟨_, .determined .definite, .single (steps_of_transition (.determiner found passed))⟩
  | singular indefinite passed =>
      have found : determiner? home = some .indefinite := by
        have noThe := isWord_the_of_indefinite indefinite
        rw [← Bool.or_eq_true_iff] at indefinite
        simp [determiner?, noThe, indefinite]
      exact ⟨_, .determined .indefinite, .single (steps_of_transition (.determiner found passed))⟩
  | plural bare =>
      have missing : determiner? home = none := by
        have noThe := bare "the" (by decide)
        have noA := bare "a" (by decide)
        have noAn := bare "an" (by decide)
        simp [determiner?, noThe, noA, noAn]
      exact ⟨_, .undetermined missing, .refl⟩

theorem reaches_beforeNoun (before : BeforeNoun reader home kind adjectives place) :
    (machine reader).Reaches ⟨.start, home, .initial⟩
      ⟨.noun kind, place, ⟨[], adjectives, [], []⟩⟩ := by
  cases before with
  | described determined reads =>
      obtain ⟨state, opening, reaches⟩ := reaches_determined determined
      exact reaches.tail (steps_of_transition (.adjectives opening reads))
  | plain determined misses =>
      obtain ⟨state, opening, reaches⟩ := reaches_determined determined
      exact reaches.tail (steps_of_transition (.noAdjectives opening misses))

theorem reaches_phrases (before : BeforeNoun reader home kind adjectives place)
    (head : Reads (reader kind.nounRule) place noun after)
    (tail : Adjacent (reader .prepAdjectivalPhrase) after phrases tape) :
    (machine reader).Reaches ⟨.start, home, .initial⟩
      ⟨.phrases kind, tape, ⟨[noun], adjectives, phrases, []⟩⟩ := by
  induction tail with
  | none => exact (reaches_beforeNoun before).tail (steps_of_transition (.noun head))
  | more _ reads ih => exact ih.tail (steps_of_transition (.phrase reads))

end Following

section Concluding

variable {tree : Tree} {rest place : Tape} {last : Stage State Parts}

theorem Clause.concluded (clause : Clause reader home tree rest)
    (reaches : (machine reader).Reaches ⟨.start, home, .initial⟩ last)
    (final : (machine reader).Final last.state) :
    (machine reader).conclude home last = .matched rest tree := by
  cases clause with
  | mk before head tail ends =>
      have arrives := (reaches_phrases before head tail).tail
        (steps_of_transition (.noPhrase ends))
      rw [Machine.reaches_final_unique reaches final arrives (final_iff.mpr (.inl rfl))]
      rfl

def nounlessReason (place : Tape) : String :=
  "NounClause stopped in state Failed at token " ++ toString place.position

theorem Nounless.concluded (nounless : Nounless reader home place)
    (reaches : (machine reader).Reaches ⟨.start, home, .initial⟩ last)
    (final : (machine reader).Final last.state) :
    (machine reader).conclude home last = .missed (nounlessReason place) home := by
  cases nounless with
  | mk before misses =>
      have arrives := (reaches_beforeNoun before).tail (steps_of_transition (.noNoun misses))
      rw [Machine.reaches_final_unique reaches final arrives (final_iff.mpr (.inr rfl))]
      rfl

end Concluding

theorem clause_or_nounless {last : Stage State Parts}
    (reaches : (machine reader).Reaches ⟨.start, home, .initial⟩ last)
    (final : (machine reader).Final last.state) :
    (∃ tree rest, Clause reader home tree rest ∧
        (machine reader).conclude home last = .matched rest tree) ∨
      ∃ place, Nounless reader home place ∧
        (machine reader).conclude home last = .missed (nounlessReason place) home := by
  cases traced_of_reaches reaches with
  | succeeded clause => exact .inl ⟨_, _, clause, clause.concluded reaches final⟩
  | failed nounless => exact .inr ⟨_, nounless, nounless.concluded reaches final⟩
  | _ => simp [final_iff] at final

section Reading

variable {tape : Tape}
  (keeps : ∀ rule ∈ constituents, ∀ later, tape.Within later →
    (reader rule later).Ends (Outcome.Kept later))

include keeps

theorem read_exact :
    (read reader tape).Ends fun outcome =>
      (∀ tree rest, outcome = .matched rest tree ↔ Clause reader tape tree rest) ∧
      ∀ reason left, outcome = .missed reason left ↔
        ∃ place, Nounless reader tape place ∧ reason = nounlessReason place ∧ left = tape := by
  obtain ⟨last, reaches, final, _, ends⟩ := read_ends keeps
  apply ends.mono
  intro outcome concluded
  subst concluded
  constructor
  · intro tree rest
    constructor
    · intro matched
      rcases clause_or_nounless reaches final with
        ⟨tree', rest', clause, same⟩ | ⟨place, nounless, same⟩
      · cases same.symm.trans matched
        exact clause
      · cases same.symm.trans matched
    · intro clause
      exact clause.concluded reaches final
  · intro reason left
    constructor
    · intro missed
      rcases clause_or_nounless reaches final with
        ⟨tree', rest', clause, same⟩ | ⟨place, nounless, same⟩
      · cases same.symm.trans missed
      · cases same.symm.trans missed
        exact ⟨place, nounless, rfl, rfl⟩
    · rintro ⟨place, nounless, rfl, rfl⟩
      exact nounless.concluded reaches final

theorem BeforeNoun.within {kind : Kind} {adjectives : List Tree} {place : Tape}
    (before : BeforeNoun reader tape kind adjectives place) : tape.Within place := by
  cases before with
  | described determined reads =>
      have ahead := reads.ahead (keeps .adjective (by decide) _ determined.within)
      exact determined.within.trans ahead.within
  | plain determined misses => exact determined.within

theorem clause_of_noun {kind : Kind} {adjectives : List Tree} {place after : Tape} {noun : Tree}
    (before : BeforeNoun reader tape kind adjectives place)
    (head : Reads (reader kind.nounRule) place noun after) :
    ∃ phrases rest, Clause reader tape (.nounClause (some noun) adjectives phrases) rest := by
  have within := before.within keeps
  have ahead := head.ahead (keeps _ (nounRule_mem kind) place within)
  have phrasesKeep := fun later (further : after.Within later) =>
    keeps .prepAdjectivalPhrase (by decide) later (within.trans (ahead.within.trans further))
  have nothing : Adjacent (reader .prepAdjectivalPhrase) after [] after := .none after
  obtain ⟨phrases, rest, tail, ends⟩ := nothing.maximal phrasesKeep
  exact ⟨phrases, rest, .mk before head tail ends⟩

end Reading

/-- The constituents of a noun clause: what one rule reads, alone or as a list. -/
def compounds (config : Config) : Reader := fun item =>
  Rule.compound.recognize (config.withItemRule item)

theorem compounds_keep (config : Config) :
    ∀ item ∈ constituents, ∀ later, (compounds config item later).Ends (Outcome.Kept later) := by
  intro item member later
  have plain : item.isList = false := by
    revert item
    decide
  exact Rule.recognize_keeps (Config.suits_of_item rfl plain _) later

/-- A noun clause is read if and only if there is a noun, of the kind that the determiner asks for,
after the determiner and the adjectives. It goes on over phrases until the first miss; without a
noun, the reason given is where the noun is missing. -/
theorem nounClause_exact (config : Config) (tape : Tape) :
    ∃ outcome events, Rule.nounClause.recognize config tape = .done outcome events ∧
      (outcome.succeeded = true ↔ ∃ kind adjectives place noun after,
        BeforeNoun (compounds config) tape kind adjectives place ∧
          Reads (compounds config kind.nounRule) place noun after) ∧
      (∀ tree rest, outcome = .matched rest tree ↔ ∃ kind adjectives place noun after phrases,
        BeforeNoun (compounds config) tape kind adjectives place ∧
          Reads (compounds config kind.nounRule) place noun after ∧
          Adjacent (compounds config .prepAdjectivalPhrase) after phrases rest ∧
          Misses (compounds config .prepAdjectivalPhrase) rest ∧
          tree = .nounClause (some noun) adjectives phrases) ∧
      ∀ reason left, outcome = .missed reason left ↔ ∃ kind adjectives place,
        BeforeNoun (compounds config) tape kind adjectives place ∧
          Misses (compounds config kind.nounRule) place ∧ left = tape ∧
          reason = "NounClause stopped in state Failed at token " ++ toString place.position := by
  have keeps := fun item member later (_ : tape.Within later) =>
    compounds_keep config item member later
  rw [Rule.recognize_eq_once (config.suits_of_plain rfl)]
  apply Grammar.once_ends
  apply Run.Ends.mono (read_exact keeps)
  intro outcome exact
  rcases exact with ⟨clauses, nounless⟩
  refine ⟨?_, ?_, ?_⟩
  · constructor
    · intro succeeded
      cases outcome with
      | matched rest tree =>
          cases (clauses tree rest).mp rfl with
          | mk before head tail ends => exact ⟨_, _, _, _, _, before, head⟩
      | missed reason left => cases succeeded
    · rintro ⟨kind, adjectives, place, noun, after, before, head⟩
      obtain ⟨phrases, rest, clause⟩ := clause_of_noun keeps before head
      rw [(clauses _ _).mpr clause]
      rfl
  · intro tree rest
    rw [clauses]
    constructor
    · intro clause
      cases clause with
      | mk before head tail ends => exact ⟨_, _, _, _, _, _, before, head, tail, ends, rfl⟩
    · rintro ⟨kind, adjectives, place, noun, after, phrases, before, head, tail, ends, rfl⟩
      exact .mk before head tail ends
  · intro reason left
    rw [nounless]
    constructor
    · rintro ⟨place, ⟨before, missing⟩, rfl, rfl⟩
      exact ⟨_, _, place, before, missing, rfl, rfl⟩
    · rintro ⟨kind, adjectives, place, before, missing, rfl, rfl⟩
      exact ⟨place, ⟨before, missing⟩, rfl, rfl⟩

end Constituency.NounClause
