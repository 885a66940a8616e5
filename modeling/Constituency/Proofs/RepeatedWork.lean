import Constituency.Proofs.CutClauses
import Constituency.Proofs.WorkBounds

/-!
Work that is done again. A list that breaks off leaves its first item, and all that stood after that
item is read once more by whatever comes next. Where lists break off inside lists that break off
themselves, every item more may double the number of calls.
-/

namespace Constituency

/-- If the run is done, it is a match up to these tokens, after so many calls at least. -/
def Run.Yields (run : Run Outcome) (others : List String) (cost : Nat) : Prop :=
  run.Logs fun outcome events =>
    outcome.succeeded = true ∧ outcome.tape.remaining = others ∧ cost ≤ work events

section Yielding

variable {item : Tape → Run Outcome} {tape rest : Tape} {tree : Tree} {others : List String}
  {cost : Nat}

theorem Reads.yields (reads : Reads item tape tree rest) :
    (item tape).Yields rest.remaining 0 := by
  obtain ⟨_, matched⟩ := reads
  intro outcome events done
  cases matched.symm.trans done
  exact ⟨rfl, rfl, Nat.zero_le _⟩

theorem Run.Yields.remains (yields : (item tape).Yields others cost)
    (reads : Reads item tape tree rest) : rest.remaining = others := by
  obtain ⟨_, matched⟩ := reads
  exact (yields _ _ matched).2.1

theorem Run.Yields.not_misses (yields : (item tape).Yields others cost) : ¬ Misses item tape := by
  rintro ⟨_, _, _, missed⟩
  cases (yields _ _ missed).1

theorem Run.Yields.mono {less : Nat} {run : Run Outcome} (yields : run.Yields others cost)
    (le : less ≤ cost) : run.Yields others less := by
  intro outcome events done
  obtain ⟨matched, remains, costly⟩ := yields outcome events done
  exact ⟨matched, remains, Nat.le_trans le costly⟩

end Yielding

namespace Grammar

variable {call : Caller} {config : Config} {tape : Tape} {first second : Rule}
  {middle others : List String} {cost : Nat}

theorem choice_yields {rules : List Rule} (yields : (call first config tape).Yields others cost) :
    (choice call (first :: rules) config tape).Yields others cost := by
  intro outcome events chose
  rcases choice_tried chose with ⟨rest, tree, rfl, tried⟩ | ⟨reason, rfl, tried⟩
  · cases tried with
    | found done => exact yields _ _ done
    | missed done next => cases (yields _ _ done).1
  · cases tried with
    | missed done next => cases (yields _ _ done).1

theorem pair_yields {join : Tree → Tree → Tree}
    (begins : (call first config tape).Yields middle 0)
    (follows : ∀ place : Tape, place.remaining = middle →
      (call second config place).Yields others cost) :
    (pair call first second join config tape).Yields others cost := by
  intro outcome events paired
  cases pair_paired paired with
  | first done => cases (begins _ _ done).1
  | second begun done => cases (follows _ (begins _ _ begun).2.1 _ _ done).1
  | both begun done =>
      obtain ⟨_, remains, costly⟩ := follows _ (begins _ _ begun).2.1 _ _ done
      refine ⟨rfl, remains, ?_⟩
      rw [work_append]
      omega

end Grammar

theorem Rule.recognize_yields {rule : Rule} {config : Config} {tape : Tape}
    {others : List String} {cost : Nat} (suits : config.suits rule = true)
    (yields : (Grammar.body Rule.recognize rule config tape).Yields others cost) :
    (rule.recognize config tape).Yields others (cost + 1) := by
  intro outcome events done
  rw [recognize_eq_once suits] at done
  obtain ⟨value, early, late, ran, ended, rfl⟩ := (Run.bind_eq_done_iff _ _ _ _).mp done
  cases ended
  obtain ⟨matched, remains, costly⟩ := yields outcome early ran
  refine ⟨matched, remains, ?_⟩
  simpa using costly

def stalled : Nat → List String
  | 0 => []
  | count + 1 => "in" :: "balls" :: "upstairs" :: "," :: stalled count

theorem Tape.read_of_remaining {tape : Tape} {token : String} {others : List String}
    (remains : tape.remaining = token :: others) :
    tape.current? = some token ∧
      ∃ rest, tape.read = .ok (token, rest) ∧ rest.remaining = others := by
  have current : tape.current? = some token := by rw [current?_eq_head?, remains]; rfl
  obtain ⟨rest, passed, tail⟩ := forward_eq_ok current
  refine ⟨current, rest, by simp only [read, current, passed], ?_⟩
  rw [tail, remains]
  rfl

namespace Coordination

variable {style : Style} {item : Tape → Run Outcome} {count : Nat}

theorem Comma.remains {tape rest : Tape} {others : List String} (comma : Comma tape rest)
    (remains : tape.remaining = "," :: others) : rest.remaining = others := by
  obtain ⟨_, after, taken, same⟩ := Tape.read_of_remaining remains
  cases (Tape.read_eq taken).2.symm.trans comma.passed
  exact same

theorem isToken_of_remaining {tape : Tape} {token : String} {others : List String}
    (remains : tape.remaining = token :: others) : tape.isToken token = true := by
  rw [Tape.isToken, (Tape.read_of_remaining remains).1]
  exact beq_self_eq_true _

theorem noJoint_stalled {tape : Tape} {allowed : Option Conjunction}
    (remains : tape.remaining = stalled count) : NoJoint allowed tape := by
  intro joint _
  rw [Tape.isWord, Tape.current?_eq_head?, remains]
  cases count with
  | zero => rfl
  | succ count =>
      change Text.sameWord "in" joint.word = false
      cases joint <;> decide

/-- A list of phrases that will break off: where it stands, with its log up to there. Every phrase
pays half of what is owed before it. -/
inductive Stalled (count : Nat) : Stage State Progress → List Event → Prop
  | start {tape progress log} (remains : tape.remaining = "upstairs" :: "," :: stalled count) :
      Stalled count ⟨.firstItem, tape, progress⟩ log
  | first {tape progress log} (remains : tape.remaining = "," :: stalled count)
      (saved : progress.afterFirst = some tape) :
      Stalled count ⟨.firstDelimiter, tape, progress⟩ log
  | second {tape place progress log} (remains : tape.remaining = stalled count)
      (saved : progress.afterFirst = some place) (after : place.remaining = "," :: stalled count) :
      Stalled count ⟨.secondItem, tape, progress⟩ log
  | delimiter {tape place progress log left} (remains : tape.remaining = "," :: stalled left)
      (saved : progress.afterFirst = some place) (after : place.remaining = "," :: stalled count)
      (fewer : left ≤ count) (costly : 2 ^ count ≤ work log + 2 ^ left) :
      Stalled count ⟨.laterDelimiter, tape, progress⟩ log
  | later {tape place progress log left} (remains : tape.remaining = stalled left)
      (saved : progress.afterFirst = some place) (after : place.remaining = "," :: stalled count)
      (fewer : left ≤ count) (costly : 2 ^ count ≤ work log + 2 ^ left) :
      Stalled count ⟨.laterItem, tape, progress⟩ log
  | single {tape progress log} (remains : tape.remaining = "," :: stalled count)
      (costly : 2 ^ count ≤ work log + 1) : Stalled count ⟨.single, tape, progress⟩ log

structure Stalls (item : Tape → Run Outcome) (count : Nat) : Prop where
  first : ∀ tape : Tape, tape.remaining = "upstairs" :: "," :: stalled count →
    (item tape).Yields ("," :: stalled count) 0
  later : ∀ left < count, ∀ tape : Tape, tape.remaining = stalled (left + 1) →
    (item tape).Yields ("," :: stalled left) (2 ^ left)
  ends : ∀ tape : Tape, tape.remaining = [] → Misses item tape

theorem Stalled.step {stage next : Stage State Progress} {log events : List Event}
    (stalled : Stalled count stage log) (stalls : Stalls item count)
    (logged : (machine style item).Logged stage next events)
    (unspaced : style.spaceDelimiters = false) (falls : style.fallback = true)
    (machine source target : String) (position : Nat) :
    Stalled count next (log ++ events ++ [.stepped machine source target position]) := by
  have grown := work_onward events log machine source target position
  have costs : ∀ others price, Takes style stage → (item stage.tape).Yields others price →
      price ≤ work events := by
    intro others price takes yields
    rcases logged_item logged with ⟨_, outcome, done⟩ | ⟨idle, _⟩
    · exact (yields outcome events done).2.2
    · exact absurd takes idle
  have transition := transition_of_steps logged.steps
  cases stalled with
  | start remains =>
      cases transition with
      | first reads =>
          have rest := (stalls.first _ remains).remains reads
          exact .first rest (by simp [falls])
      | nothing misses => exact absurd misses (stalls.first _ remains).not_misses
      | stop breaks => cases breaks
  | first remains saved =>
      have here := isToken_of_remaining remains
      cases transition with
      | secondSpaced spaced reads => simp [unspaced] at spaced
      | firstComma _ comma => exact .second (comma.remains remains) saved remains
      | firstJoint _ usable found => cases (isWord_of_comma here _).symm.trans found.found
      | alone _ bare _ => cases here.symm.trans bare.noComma
      | stop breaks =>
          cases breaks with
          | alone _ bare required => cases here.symm.trans bare.noComma
  | @second tape place progress log remains saved after =>
      cases transition with
      | second reads =>
          cases count with
          | zero => exact absurd (stalls.ends _ remains) reads.not_misses
          | succ count =>
              -- The phrase pays one half, and the phrases left after it owe the other.
              have yields := stalls.later count (Nat.lt_succ_self count) _ remains
              have paid := costs _ _ trivial yields
              refine .delimiter (yields.remains reads) saved after (Nat.le_succ count) ?_
              rw [grown, Nat.pow_succ]
              omega
      | stop breaks =>
          cases breaks with
          | second misses =>
              simp only [Coordination.stop, saved]
              cases count with
              | zero => exact .single after (Nat.le_add_left _ _)
              | succ count =>
                  have yields := stalls.later count (Nat.lt_succ_self count) _ remains
                  exact absurd misses yields.not_misses
  | delimiter remains saved after fewer costly =>
      have here := isToken_of_remaining remains
      cases transition with
      | laterComma comma =>
          exact .later (comma.remains remains) saved after fewer (by omega)
      | laterJoint usable found => cases (isWord_of_comma here _).symm.trans found.found
      | unjoined bare _ => cases here.symm.trans bare.noComma
      | stop breaks =>
          cases breaks with
          | unjoined bare _ => cases here.symm.trans bare.noComma
  | @later tape place progress log left remains saved after fewer costly =>
      cases transition with
      | serialJoint usable found =>
          cases (noJoint_stalled remains _ usable).symm.trans found.found
      | later noJoint reads =>
          cases left with
          | zero => exact absurd (stalls.ends _ remains) reads.not_misses
          | succ left =>
              have yields := stalls.later left fewer _ remains
              have paid := costs _ _ noJoint yields
              refine .delimiter (yields.remains reads) saved after (Nat.le_of_lt fewer) ?_
              rw [Nat.pow_succ] at costly
              omega
      | stop breaks =>
          cases breaks with
          | later noJoint misses =>
              -- Only here the list breaks off, with all its phrases read and paid for.
              simp only [Coordination.stop, saved]
              cases left with
              | zero => exact .single after (by rw [Nat.pow_zero] at costly; omega)
              | succ left => exact absurd misses (stalls.later left fewer _ remains).not_misses
  | single remains costly => exact absurd single_final logged.1

theorem read_stalls {tape : Tape} (stalls : Stalls item count)
    (remains : tape.remaining = "upstairs" :: "," :: stalled count)
    (unspaced : style.spaceDelimiters = false) (falls : style.fallback = true)
    (conjunction : Option Conjunction) :
    (read style conjunction item tape).Yields ("," :: stalled count) (2 ^ count - 1) := by
  have begun : Stalled count ⟨.firstItem, tape, .initial conjunction⟩ [] := .start remains
  refine Machine.run_logs (fun stage log next events stalled logged => ?_)
    (fun stage log stalled final => ?_) _ begun
  · exact stalled.step stalls logged unspaced falls _ _ _ _
  · simp only [Machine.conclude, work_append, work_ended, work_nil, Nat.add_zero]
    cases stalled with
    | single remains costly => exact ⟨rfl, remains, Nat.sub_le_of_le_add costly⟩
    | start | first | second | delimiter | later =>
        rcases final_iff.mp final with same | same | same <;> cases same

end Coordination

namespace NounClause

variable {reader : Reader} {count : Nat}

structure Stalls (reader : Reader) (count : Nat) : Prop where
  adjectives : ∀ tape : Tape, tape.remaining = "balls" :: "upstairs" :: "," :: stalled count →
    Misses (reader .adjective) tape
  noun : ∀ tape : Tape, tape.remaining = "balls" :: "upstairs" :: "," :: stalled count →
    (reader .pluralNoun tape).Yields ("upstairs" :: "," :: stalled count) 0
  phrase : ∀ tape : Tape, tape.remaining = "upstairs" :: "," :: stalled count →
    (reader .prepAdjectivalPhrase tape).Yields ("," :: stalled count) (2 ^ count)
  ends : ∀ tape : Tape, tape.remaining = "," :: stalled count →
    Misses (reader .prepAdjectivalPhrase) tape

inductive Stalled (count : Nat) : Stage State Parts → List Event → Prop
  | start {tape parts log}
      (remains : tape.remaining = "balls" :: "upstairs" :: "," :: stalled count) :
      Stalled count ⟨.start, tape, parts⟩ log
  | noun {tape parts log}
      (remains : tape.remaining = "balls" :: "upstairs" :: "," :: stalled count) :
      Stalled count ⟨.noun .plural, tape, parts⟩ log
  | phrase {tape parts log} (remains : tape.remaining = "upstairs" :: "," :: stalled count) :
      Stalled count ⟨.phrases .plural, tape, parts⟩ log
  | phrases {tape parts log} (remains : tape.remaining = "," :: stalled count)
      (costly : 2 ^ count ≤ work log) : Stalled count ⟨.phrases .plural, tape, parts⟩ log
  | succeeded {tape parts log} (remains : tape.remaining = "," :: stalled count)
      (costly : 2 ^ count ≤ work log) : Stalled count ⟨.succeeded, tape, parts⟩ log

theorem determiner_of_balls {tape : Tape} {others : List String}
    (remains : tape.remaining = "balls" :: others) : determiner? tape = none := by
  simp only [determiner?, Tape.isWord, (Tape.read_of_remaining remains).1]
  decide

theorem Stalled.step {stage next : Stage State Parts} {log events : List Event}
    (stalled : Stalled count stage log) (stalls : Stalls reader count)
    (logged : (machine reader).Logged stage next events)
    (machine source target : String) (position : Nat) :
    Stalled count next (log ++ events ++ [.stepped machine source target position]) := by
  have grown := work_onward events log machine source target position
  have transition := transition_of_steps logged.steps
  cases stalled with
  | start remains =>
      cases transition with
      | determiner found passed => cases (determiner_of_balls remains).symm.trans found
      | adjectives opening reads => exact absurd (stalls.adjectives _ remains) reads.not_misses
      | noAdjectives opening misses =>
          cases opening with
          | undetermined none => exact .noun remains
  | noun remains =>
      cases transition with
      | adjectives opening reads => cases opening
      | noAdjectives opening misses => cases opening
      | noun reads => exact .phrase ((stalls.noun _ remains).remains reads)
      | noNoun misses => exact absurd misses (stalls.noun _ remains).not_misses
  | @phrase tape parts log remains =>
      have yields := stalls.phrase _ remains
      cases transition with
      | adjectives opening reads => cases opening
      | noAdjectives opening misses => cases opening
      | phrase reads =>
          rcases logged_constituent logged with ⟨rule, outcome, same, done⟩ | ⟨idle, _⟩
          · cases same
            have costly := (yields outcome events done).2.2
            exact .phrases (yields.remains reads) (by omega)
          · cases idle
      | noPhrase misses => exact absurd misses yields.not_misses
  | phrases remains costly =>
      cases transition with
      | adjectives opening reads => cases opening
      | noAdjectives opening misses => cases opening
      | phrase reads => exact absurd (stalls.ends _ remains) reads.not_misses
      | noPhrase misses => exact .succeeded remains (by omega)
  | succeeded remains costly => exact absurd (final_iff.mpr (.inl rfl)) logged.1

theorem read_stalls {tape : Tape} (stalls : Stalls reader count)
    (remains : tape.remaining = "balls" :: "upstairs" :: "," :: stalled count) :
    (read reader tape).Yields ("," :: stalled count) (2 ^ count) := by
  have begun : Stalled count ⟨.start, tape, .initial⟩ [] := .start remains
  refine Machine.run_logs (fun stage log next events stalled logged => ?_)
    (fun stage log stalled final => ?_) _ begun
  · exact stalled.step stalls logged _ _ _ _
  · simp only [Machine.conclude, work_append, work_ended, work_nil, Nat.add_zero]
    cases stalled with
    | succeeded remains costly => exact ⟨rfl, remains, costly⟩
    | start | noun | phrase | phrases =>
        rcases final_iff.mp final with same | same <;> cases same

end NounClause

namespace Rule

open Coordination Lexicon

theorem english_words : (english.classify "in").has .preposition = true ∧
    (english.classify "balls").has .pluralNoun = true ∧
    (english.classify "balls").has .adjective = false ∧
    (english.classify "upstairs").has .prepPhrase = true ∧
    (english.classify "upstairs").has .preposition = false := by
  decide +kernel

section Words

variable {rule : Rule} {config : Config} {tape : Tape} {part : PartOfSpeech} {token : String}
  {others : List String}

theorem word_reads (asked : rule.part? = some part) (remains : tape.remaining = token :: others)
    (known : (config.lexicon.classify token).has part = true) :
    ∃ rest, Reads (rule.recognize config) tape (.word (.single part) token) rest ∧
      rest.remaining = others := by
  obtain ⟨_, rest, taken, left⟩ := Tape.read_of_remaining remains
  exact ⟨rest, (word_reads_iff asked).mpr ⟨token, taken, known, rfl⟩, left⟩

theorem word_misses (asked : rule.part? = some part) (remains : tape.remaining = token :: others)
    (unknown : (config.lexicon.classify token).has part = false) :
    Misses (rule.recognize config) tape := by
  have plain : rule.isList = false := by cases rule <;> first | rfl | cases asked
  refine misses_of_unread (recognize_keeps (config.suits_of_plain plain) tape) ?_
  intro tree rest reads
  obtain ⟨token', taken, known, _⟩ := (word_reads_iff asked).mp reads
  cases (Tape.read_eq taken).1.symm.trans (Tape.read_of_remaining remains).1
  cases unknown.symm.trans known

theorem compound_misses (flags : config.flags = .none) (listed : rule ∈ NounClause.constituents)
    (misses : Misses (rule.recognize config) tape) :
    Misses (NounClause.compounds config rule) tape := by
  refine misses_of_unread (NounClause.compounds_keep config rule listed tape) ?_
  intro tree rest reads
  obtain ⟨first, after, here⟩ := (NounClause.compounds_read flags listed).first reads
  exact here.not_misses misses

end Words

/-- A phrase with `left` others after it, fewer than `count`, takes at least `2 ^ left` calls. -/
def Doubling (config : Config) (count : Nat) : Prop :=
  ∀ left < count, ∀ tape : Tape, tape.remaining = stalled (left + 1) →
    (prepAdjectivalPhrase.recognize config tape).Yields ("," :: stalled left) (2 ^ left)

section Phrases

variable {config : Config} (flags : config.flags = .none) (lexicon : config.lexicon = english)
  {tape : Tape} {others : List String}

include lexicon

theorem upstairs_reads (remains : tape.remaining = "upstairs" :: others) :
    ∃ tree rest, Reads (prepAdjectivalPhrase.recognize config) tape tree rest ∧
      rest.remaining = others := by
  obtain ⟨_, _, _, phrase, noPreposition⟩ := lexicon ▸ english_words
  have unbegun : Misses (preposition.recognize config) tape :=
    word_misses rfl remains noPreposition
  have plain : prepNounClause.isList = false := rfl
  have skipped : Misses (prepNounClause.recognize config) tape := by
    refine misses_of_unread (recognize_keeps (config.suits_of_plain plain) tape) ?_
    intro tree rest reads
    obtain ⟨_, _, _, first, _⟩ := (pair_reads_iff rfl fun _ => rfl).mp reads
    exact first.not_misses unbegun
  obtain ⟨rest, reads, left⟩ : ∃ rest, Reads (prepWord.recognize config) tape _ rest ∧
      rest.remaining = others := word_reads rfl remains phrase
  exact ⟨_, rest, (choice_reads_iff rfl fun _ => rfl).mpr (.later skipped (.here reads)), left⟩

theorem phrase_misses (comma : ∀ token, tape.remaining.head? = some token → token = ",") :
    Misses (prepAdjectivalPhrase.recognize config) tape := by
  have plain : prepAdjectivalPhrase.isList = false := rfl
  refine misses_of_unread (recognize_keeps (config.suits_of_plain plain) tape) ?_
  intro tree rest reads
  obtain ⟨token, current, opens⟩ := phrase_begins tape tree rest reads
  rw [Tape.current?_eq_head?] at current
  rw [lexicon] at opens
  exact english_apart.delimiter_phrase token (.inl (comma token current)) opens

include flags

theorem phrases_stall {count : Nat} (doubling : Doubling config count)
    (remains : tape.remaining = "upstairs" :: "," :: stalled count) :
    (NounClause.compounds config .prepAdjectivalPhrase tape).Yields ("," :: stalled count)
      (2 ^ count) := by
  have stalls : Coordination.Stalls (prepAdjectivalPhrase.recognize config) count := by
    refine ⟨fun place there => ?_, doubling, fun place none => phrase_misses lexicon ?_⟩
    · obtain ⟨tree, rest, reads, left⟩ := upstairs_reads lexicon there
      rw [← left]
      exact reads.yields
    · intro token found
      rw [none] at found
      cases found
  have optional : config.flags.requireList = false := congrArg ListFlags.requireList flags
  have unspaced : config.flags.spaceDelimiters = false := congrArg ListFlags.spaceDelimiters flags
  rw [← Nat.sub_add_cancel (Nat.two_pow_pos count)]
  refine recognize_yields (Config.suits_of_item rfl rfl _) ?_
  rw [Grammar.body, Grammar.list_eq rfl, recognize_forItems rfl optional]
  exact Coordination.read_stalls stalls remains unspaced rfl none

theorem noun_stalls (remains : tape.remaining = "balls" :: "upstairs" :: others) :
    (NounClause.compounds config .pluralNoun tape).Yields ("upstairs" :: others) 0 := by
  obtain ⟨_, plural, _⟩ := lexicon ▸ english_words
  obtain ⟨rest, reads, left⟩ : ∃ rest, Reads (pluralNoun.recognize config) tape _ rest ∧
      rest.remaining = "upstairs" :: others := word_reads rfl remains plural
  obtain ⟨phrase, last, next, _⟩ := upstairs_reads lexicon left
  have bare : Bare none rest := phrase_begins.bare
    (lexicon ▸ english_apart.delimiter_phrase) rest phrase last next
  have unspaced : Unspaced (Grammar.listStyle config false true) (pluralNoun.recognize config)
      rest := fun spaced => by cases (listStyle_unspaced flags).symm.trans spaced
  have unlisted := unlisted_of_single (reaches_of_lone rfl ⟨⟨reads, unspaced⟩, bare⟩)
  rw [← left]
  exact ((NounClause.compounds_read flags (by decide) _ _ _).mpr (.inr ⟨unlisted, reads⟩)).yields

theorem clause_stalls {count : Nat} (doubling : Doubling config count)
    (remains : tape.remaining = "balls" :: "upstairs" :: "," :: stalled count) :
    (nounClause.recognize config tape).Yields ("," :: stalled count) (2 ^ count) := by
  have stalls : NounClause.Stalls (NounClause.compounds config) count := by
    obtain ⟨_, _, noAdjective, _⟩ := lexicon ▸ english_words
    refine ⟨fun place there => ?_, fun place there => noun_stalls flags lexicon there,
      fun place there => phrases_stall flags lexicon doubling there, fun place there => ?_⟩
    · have listed : adjective ∈ NounClause.constituents := by decide
      exact compound_misses flags listed (word_misses rfl there noAdjective)
    · have listed : prepAdjectivalPhrase ∈ NounClause.constituents := by decide
      refine compound_misses flags listed (phrase_misses lexicon fun token found => ?_)
      rw [there] at found
      exact (Option.some.inj found).symm
  have plain : nounClause.isList = false := rfl
  have yields := recognize_yields (config.suits_of_plain plain)
    (NounClause.read_stalls stalls remains)
  exact yields.mono (Nat.le_succ _)

theorem phrase_stalls {count : Nat} (doubling : Doubling config count)
    (remains : tape.remaining = stalled (count + 1)) :
    (prepAdjectivalPhrase.recognize config tape).Yields ("," :: stalled count) (2 ^ count) := by
  obtain ⟨known, _⟩ := lexicon ▸ english_words
  obtain ⟨rest, begins, left⟩ : ∃ rest, Reads (preposition.recognize config) tape _ rest ∧
      rest.remaining = "balls" :: "upstairs" :: "," :: stalled count := word_reads rfl remains known
  have clause : (prepNounClause.recognize config tape).Yields ("," :: stalled count)
      (2 ^ count + 1) := by
    refine recognize_yields (config.suits_of_plain rfl) (Grammar.pair_yields begins.yields ?_)
    intro place there
    exact clause_stalls flags lexicon doubling (there.trans left)
  have phrase : (prepAdjectivalPhrase.recognize config tape).Yields ("," :: stalled count)
      (2 ^ count + 1 + 1) :=
    recognize_yields (config.suits_of_plain rfl) (Grammar.choice_yields clause)
  exact phrase.mono (Nat.le_add_right_of_le (Nat.le_add_right _ _))

theorem doubling (count : Nat) : Doubling config count := by
  induction count with
  | zero =>
      intro left none
      cases none
  | succ count ih =>
      intro left fewer tape remains
      rcases Nat.lt_succ_iff_lt_or_eq.mp fewer with short | rfl
      · exact ih left short tape remains
      · exact phrase_stalls flags lexicon ih remains

theorem clause_work_ge (count : Nat)
    (remains : tape.remaining = "balls" :: "upstairs" :: "," :: stalled count) :
    ∃ outcome events, nounClause.recognize config tape = .done outcome events ∧
      outcome.succeeded = true ∧ 2 ^ count ≤ work events := by
  have plain : nounClause.isList = false := rfl
  have yields := clause_stalls flags lexicon (doubling flags lexicon count) remains
  obtain ⟨outcome, events, done, matched, _, costly⟩ :=
    Run.logs_of_ends (recognize_keeps (config.suits_of_plain plain) tape) yields
  exact ⟨outcome, events, done, matched, costly⟩

end Phrases

/-- A noun and a phrase, and then more phrases, all of which are tried and given up. -/
def stalledTape (count : Nat) : Tape :=
  ⟨"balls" :: "upstairs" :: "," :: stalled count, 0, List.cons_ne_nil _ _, Nat.zero_le _⟩

theorem stalledTape_length (count : Nat) : (stalledTape count).length = 4 * count + 3 := by
  have phrases : (stalled count).length = 4 * count := by
    induction count with
    | zero => rfl
    | succ count ih => simp only [stalled, List.length_cons, ih]; omega
  simp [Tape.length, stalledTape, phrases]

theorem stalledTape_work (count : Nat) : ∃ outcome events,
    nounClause.recognize Config.initial (stalledTape count) = .done outcome events ∧
      outcome.succeeded = true ∧ 2 ^ count ≤ work events := by
  have flags : Config.initial.flags = .none := rfl
  exact clause_work_ge flags rfl count rfl

/-- No bound on the calls of noun clauses that is linear in the tokens holds for all tapes. -/
theorem clause_work_unbounded (factor : Nat) :
    ∃ tape : Tape, tape.position = 0 ∧ ∃ outcome events,
      nounClause.recognize Config.initial tape = .done outcome events ∧
        factor * (tape.length + 1) < work events := by
  obtain ⟨outcome, events, done, _, costly⟩ := stalledTape_work (16 * factor)
  refine ⟨stalledTape (16 * factor), rfl, outcome, events, done, ?_⟩
  have large : 8 * factor + 1 ≤ 2 ^ (8 * factor) := Nat.lt_two_pow_self
  have halves : 8 * factor + 8 * factor = 16 * factor := by omega
  calc
    factor * ((stalledTape (16 * factor)).length + 1)
      < (8 * factor + 1) * (8 * factor + 1) := by
        rw [stalledTape_length]
        nlinarith
    _ ≤ 2 ^ (8 * factor) * 2 ^ (8 * factor) := Nat.mul_le_mul large large
    _ = 2 ^ (16 * factor) := by rw [← Nat.pow_add, halves]
    _ ≤ work events := costly

theorem clause_work_stalled :
    (stalledTape 13).position = 0 ∧ (stalledTape 13).length = 55 ∧ ∃ outcome events,
      nounClause.recognize Config.initial (stalledTape 13) = .done outcome events ∧
        100 * (55 + 1) < work events := by
  obtain ⟨outcome, events, done, _, costly⟩ := stalledTape_work 13
  exact ⟨rfl, stalledTape_length 13, outcome, events, done, Nat.lt_of_lt_of_le (by decide) costly⟩

end Rule

end Constituency
