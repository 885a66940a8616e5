import Constituency.Proofs.CutLists
import Constituency.Proofs.Vocabulary

/-!
Noun clauses and phrases on a cut tape. Each may end with the other, so they are shown steady
together, from the end of the tape backwards. Where the cut shortens one of them, what follows on
the cut tape begins neither a phrase nor the rest of a list of phrases.
-/

namespace Constituency

open Coordination

section Words

variable {item : Tape → Run Outcome} {opens : String → Prop} {after : List String}
  {part place : Tape} {tree : Tree}

theorem ReadsWord.steady (word : ReadsWord item opens) (part : Tape) :
    Steady item after (fun _ => False) part := by
  obtain ⟨choose, _, exact⟩ := word
  constructor
  · intro tree rest reads
    obtain ⟨token, taken, chosen⟩ := (exact _ _ _).mp reads
    exact (exact _ _ _).mpr ⟨token, Tape.read_followedBy_iff.mp taken, chosen⟩
  · intro tree rest reads
    obtain ⟨token, taken, chosen⟩ := (exact _ _ _).mp reads
    exact .inl ((exact _ _ _).mpr ⟨token, Tape.read_followedBy_iff.mpr taken, chosen⟩)

theorem ReadsWord.cut (word : ReadsWord item opens)
    (reads : Reads item (part.followedBy after) tree place)
    (room : part.position < part.tokens.length) : ∃ rest, Reads item part tree rest := by
  obtain ⟨choose, _, exact⟩ := word
  obtain ⟨token, taken, chosen⟩ := (exact _ _ _).mp reads
  have current := (Tape.current?_followedBy room).symm.trans (Tape.read_eq taken).1
  obtain ⟨rest, passed⟩ := Tape.forward_of_current current
  exact ⟨rest, (exact _ _ _).mpr ⟨token, Tape.read_eq_iff.mpr ⟨current, passed⟩, chosen⟩⟩

theorem ReadsWord.ends_with {other : Tape → Run Outcome} {uses : String → Prop} {rest last : Tape}
    {longer : Tree} (word : ReadsWord item opens) (again : ReadsWord other uses)
    (reads : Reads item part tree rest) (reads' : Reads other part longer last) : rest = last := by
  obtain ⟨choose, _, exact⟩ := word
  obtain ⟨choose', _, exact'⟩ := again
  obtain ⟨token, taken, _⟩ := (exact _ _ _).mp reads
  obtain ⟨token', taken', _⟩ := (exact' _ _ _).mp reads'
  cases taken.symm.trans taken'
  rfl

end Words

namespace Coordination

variable {item : Tape → Run Outcome} {start tape rest : Tape} {trees more : List Tree}

theorem Adjacent.append (before : Adjacent item start trees tape)
    (items : Adjacent item tape more rest) : Adjacent item start (trees ++ more) rest := by
  induction items with
  | none =>
      rw [List.append_nil]
      exact before
  | more _ reads ih =>
      rw [← List.append_assoc]
      exact ih.more reads

theorem Adjacent.cases_head (items : Adjacent item start trees rest) :
    rest = start ∨ ∃ tree place, Reads item start tree place := by
  induction items with
  | none => exact .inl rfl
  | more _ reads ih =>
      rcases ih with rfl | first
      · exact .inr ⟨_, _, reads⟩
      · exact .inr first

section Cutting

variable {after : List String} {dead : Tape → Prop} {home : Tape}
  (keeps : ∀ tape, (item tape).Ends (Outcome.Kept tape))

include keeps

theorem Adjacent.within (items : Adjacent item start trees rest) : start.Within rest := by
  induction items with
  | none => exact .refl _
  | more _ reads ih => exact ih.trans (reads.ahead (keeps _)).within

variable (steady : ∀ later, home.Within later → Steady item after dead later)

include steady

theorem adjacent_down {whole place : Tape} (items : Adjacent item whole trees place)
    (within : home.Within start) (begins : whole = start.followedBy after)
    (ends : place = rest.followedBy after) : Adjacent item start trees rest := by
  induction items generalizing rest with
  | none =>
      have same : rest.followedBy after = start.followedBy after := ends.symm.trans begins
      rw [Tape.followedBy_inj same]
      exact .none start
  | more before reads ih =>
      subst begins ends
      obtain ⟨middle, rfl, later, _⟩ :=
        Tape.cut_between (before.within keeps) (reads.ahead (keeps _)).within
      exact (ih rfl).more ((steady middle (within.trans later)).down _ _ reads)

/-- Items in a row are the same on the whole tape, or the last of them overruns the cut there. -/
theorem adjacent_up (stops : ∀ place, dead place → Misses item place)
    (items : Adjacent item home trees rest) :
    Adjacent item (home.followedBy after) trees (rest.followedBy after) ∨
      (∃ others place, Adjacent item (home.followedBy after) others place ∧
        home.tokens.length < place.position) ∧ dead rest := by
  induction items with
  | none => exact .inl (.none _)
  | @more tape rest trees tree before reads ih =>
      have within := before.within keeps
      rcases ih with same | ⟨_, ended⟩
      · rcases (steady tape within).up tree rest reads with
          next | ⟨⟨_, place, further, behind⟩, ends⟩
        · exact .inl (same.more next)
        · exact .inr ⟨⟨_, place, same.more further, within.tokens ▸ behind⟩, ends⟩
      · exact absurd (stops tape ended) reads.not_misses

end Cutting

end Coordination

namespace NounClause

variable {config : Config} {after : List String} {home place rest : Tape} {kind : Kind}

theorem determined_down
    (determined : Determined (home.followedBy after) kind (place.followedBy after)) :
    Determined home kind place := by
  generalize ends : place.followedBy after = next at determined
  cases determined with
  | definite the passed =>
      subst ends
      have passed := Tape.forward_followedBy_iff.mp passed
      have room := Tape.room_of_ahead (Tape.forward_ahead passed)
      exact .definite (Tape.isWord_followedBy room _ ▸ the) passed
  | singular indefinite passed =>
      subst ends
      have passed := Tape.forward_followedBy_iff.mp passed
      have room := Tape.room_of_ahead (Tape.forward_ahead passed)
      rw [Tape.isWord_followedBy room, Tape.isWord_followedBy room] at indefinite
      exact .singular indefinite passed
  | plural bare =>
      rw [Tape.followedBy_inj ends]
      exact .plural fun word listed => Tape.not_isWord_of_followedBy (bare word listed)

theorem determined_up (room : home.position < home.tokens.length)
    (determined : Determined home kind place) :
    Determined (home.followedBy after) kind (place.followedBy after) := by
  cases determined with
  | definite the passed =>
      exact .definite ((Tape.isWord_followedBy room _).trans the)
        (Tape.forward_followedBy_iff.mpr passed)
  | singular indefinite passed =>
      refine .singular ?_ (Tape.forward_followedBy_iff.mpr passed)
      rw [Tape.isWord_followedBy room, Tape.isWord_followedBy room]
      exact indefinite
  | plural bare =>
      exact .plural fun word listed => (Tape.isWord_followedBy room word).trans (bare word listed)

section Clauses

variable (flags : config.flags = .none) (apart : config.lexicon.Apart)

theorem constituent_plain {item : Rule} (member : item ∈ constituents) : item.isList = false := by
  revert item
  decide

theorem compounds_read (flags : config.flags = .none) {item : Rule} (member : item ∈ constituents) :
    ReadsCompound (Grammar.listStyle config false true) (item.recognize config)
      (compounds config item) :=
  readsCompound_of_plain (constituent_plain member) (by rw [flags]; rfl)

theorem constituent_keeps {item : Rule} (member : item ∈ constituents) (tape : Tape) :
    (item.recognize config tape).Ends (Outcome.Kept tape) :=
  Rule.recognize_keeps (config.suits_of_plain (constituent_plain member)) tape

include apart

/-- The word of a phrase's beginning on the cut tape does not begin a clause on the whole one. -/
theorem phrase_not_word {item : Tape → Run Outcome}
    (begins : BeginsWith item config.lexicon.OpensClause)
    (place : Tape) (tree : Tree) (rest : Tape) (other : Tree) (last : Tape)
    (phrase : Reads (Rule.prepAdjectivalPhrase.recognize config) place tree rest) :
    ¬ Reads item (place.followedBy after) other last := by
  intro reads
  obtain ⟨token, current, opens⟩ := phrase_begins place tree rest phrase
  obtain ⟨word, there, opensClause⟩ := begins _ other last reads
  have same := (Tape.current?_followedBy (Tape.room_of_current current)).symm.trans there
  cases current.symm.trans same
  exact apart.clause_phrase token opensClause opens

include flags

theorem words_steady (after : List String) {item : Rule} (member : item ∈ constituents)
    (word : ReadsWord (item.recognize config) config.lexicon.OpensClause) (part : Tape) :
    Steady (compounds config item) after (Pending (item.recognize config) after) part :=
  compound_steady_of_exact (constituent_keeps member) (listStyle_unspaced flags)
    (listStyle_joined flags) (compounds_read flags member) (word.begins.bare apart.delimiter_clause)
    fun later _ => word.steady later

theorem phrases_steady {part : Tape}
    (steady : ∀ later, part.Within later → Steady (Rule.prepAdjectivalPhrase.recognize config) after
      (Stuck (Rule.prepAdjectivalPhrase.recognize config)) later) :
    Steady (compounds config .prepAdjectivalPhrase) after
      (Stuck (Rule.prepAdjectivalPhrase.recognize config)) part :=
  compound_steady (constituent_keeps (by decide)) (listStyle_unspaced flags)
    (listStyle_joined flags) (compounds_read flags (by decide))
    (phrase_begins.bare apart.delimiter_phrase) steady

omit flags apart in
theorem clause_beyond {whole begun : Tape} {adjectives trees : List Tree} {noun : Tree}
    {count : Nat}
    (before : BeforeNoun (compounds config) whole kind adjectives place)
    (head : Reads (compounds config kind.nounRule) place noun begun)
    (tail : Adjacent (compounds config .prepAdjectivalPhrase) begun trees rest)
    (behind : count < rest.position) :
    ∃ tree last, Clause (compounds config) whole tree last ∧ count < last.position := by
  have keeps := compounds_keep config .prepAdjectivalPhrase (by decide)
  obtain ⟨more, last, others, misses⟩ :=
    (Adjacent.none rest).maximal fun later (_ : rest.Within later) => keeps later
  exact ⟨_, last, .mk before head (tail.append others) misses,
    Nat.lt_of_lt_of_le behind (others.within keeps).position⟩

theorem beforeNoun_up {part begun : Tape} {adjectives : List Tree} {noun : Tree}
    (before : BeforeNoun (compounds config) part kind adjectives place)
    (head : Reads (compounds config kind.nounRule) place noun begun) :
    BeforeNoun (compounds config) (part.followedBy after) kind adjectives
      (place.followedBy after) := by
  have keeps := compounds_keep config
  have within := before.within fun item member later _ => keeps item member later
  have room := head.room (keeps _ (nounRule_mem kind) _)
  have partRoom : part.position < part.tokens.length :=
    Nat.lt_of_le_of_lt within.position (within.tokens ▸ room)
  cases before with
  | @described start _ _ determined reads =>
      rcases (words_steady flags apart after (by decide) adjective_readsWord start).up _ _ reads
        with same | ⟨_, pending⟩
      · exact .described (determined_up partRoom determined) same
      · -- A delimiter would have to stand where the noun begins.
        have nouns := (nounRule_readsWord kind).begins.compound
          (compounds_read flags (nounRule_mem kind))
        exact absurd (nouns.bare apart.delimiter_clause _ _ _ head) (pending.not_bare room)
  | plain determined misses =>
      refine .plain (determined_up partRoom determined) ?_
      apply misses_of_unread (keeps _ (by decide) _)
      intro tree rest reads
      have compounds : ReadsCompound _ _ (compounds config .adjective) :=
        compounds_read flags (by decide)
      obtain ⟨first, next, adjective⟩ := compounds.first reads
      obtain ⟨last, here⟩ := adjective_readsWord.cut adjective room
      obtain ⟨longer, beyond, listed⟩ := compounds.of_item here
      exact listed.not_misses misses

section Steadiness

variable {part : Tape}
  (phrases : ∀ later, part.Ahead later → Steady (Rule.prepAdjectivalPhrase.recognize config) after
    (Stuck (Rule.prepAdjectivalPhrase.recognize config)) later)

theorem beforeNoun_down {adjectives : List Tree}
    (before : BeforeNoun (compounds config) (part.followedBy after) kind adjectives
      (place.followedBy after)) : BeforeNoun (compounds config) part kind adjectives place := by
  have adjective := fun later => words_steady flags apart after (by decide)
    adjective_readsWord later
  generalize ends : place.followedBy after = next at before
  cases before with
  | described determined reads =>
      subst ends
      have further := (reads.ahead (compounds_keep config _ (by decide) _)).within
      obtain ⟨start, rfl, _⟩ := Tape.cut_between determined.within further
      exact .described (determined_down determined) ((adjective start).down _ _ reads)
  | plain determined misses =>
      subst ends
      exact .plain (determined_down determined)
        ((adjective place).misses (compounds_keep config _ (by decide) _) misses)

include phrases

theorem clause_down {tree : Tree}
    (clause : Clause (compounds config) (part.followedBy after) tree (rest.followedBy after)) :
    Clause (compounds config) part tree rest := by
  have keeps := compounds_keep config
  generalize ends : rest.followedBy after = last at clause
  cases clause with
  | @mk kind adjectives place noun begun trees last before head tail misses =>
      subst ends
      have toPlace := before.within fun item member later _ => keeps item member later
      have toBegun := head.ahead (keeps _ (nounRule_mem kind) _)
      have toRest := tail.within (keeps _ (by decide))
      obtain ⟨place, rfl, within, _⟩ := Tape.cut_between toPlace (toBegun.within.trans toRest)
      obtain ⟨begun, rfl, _⟩ := Tape.cut_between toBegun.within toRest
      have ahead := within.trans_ahead (Tape.ahead_followedBy_iff.mp toBegun)
      have noun := words_steady flags apart after (nounRule_mem kind)
        (nounRule_readsWord kind) place
      have lists := fun later (further : begun.Within later) => phrases_steady flags apart
        fun beyond within => phrases beyond (ahead.trans_within (further.trans within))
      have within := Tape.within_followedBy_iff.mp toRest
      exact .mk (beforeNoun_down flags apart before) (noun.down _ _ head)
        (adjacent_down (keeps _ (by decide)) lists tail (.refl _) rfl rfl)
        ((lists rest within).misses (keeps _ (by decide) _) misses)

omit phrases apart in
theorem phrases_miss (stuck : Stuck (Rule.prepAdjectivalPhrase.recognize config) place) :
    Misses (compounds config .prepAdjectivalPhrase) place := by
  apply misses_of_unread (compounds_keep config _ (by decide) _)
  intro tree rest reads
  obtain ⟨first, next, phrase⟩ := (compounds_read flags (by decide)).first reads
  exact phrase.not_misses stuck.misses

omit phrases in
/-- Phrases that begin on the whole tape where none begins on the cut one leave that place stuck. -/
theorem stuck_of_phrases {tree : Tree} {last : Tape}
    (reads : Reads (compounds config .prepAdjectivalPhrase) (place.followedBy after) tree last)
    (misses : Misses (compounds config .prepAdjectivalPhrase) place) :
    Stuck (Rule.prepAdjectivalPhrase.recognize config) place := by
  have compounds : ReadsCompound _ _ (compounds config .prepAdjectivalPhrase) :=
    compounds_read flags (by decide)
  constructor
  · apply misses_of_unread (constituent_keeps (by decide) place)
    intro first next phrase
    obtain ⟨longer, beyond, listed⟩ := compounds.of_item phrase
    exact listed.not_misses misses
  · obtain ⟨first, next, phrase⟩ := compounds.first reads
    exact not_continues_of_bare (phrase_begins.bare apart.delimiter_phrase _ _ _ phrase)

theorem clause_up {tree : Tree} (clause : Clause (compounds config) part tree rest) :
    Clause (compounds config) (part.followedBy after) tree (rest.followedBy after) ∨
      (∃ tree place, Clause (compounds config) (part.followedBy after) tree place ∧
        part.tokens.length < place.position) ∧
        Stuck (Rule.prepAdjectivalPhrase.recognize config) rest := by
  have keeps := compounds_keep config
  have phrasesKeep := keeps .prepAdjectivalPhrase (by decide)
  cases clause with
  | @mk kind adjectives place noun begun trees rest before head tail misses =>
      have toPlace := before.within fun item member later _ => keeps item member later
      have toBegun := head.ahead (keeps _ (nounRule_mem kind) _)
      have ahead := toPlace.trans_ahead toBegun
      have opening : BeforeNoun _ (part.followedBy after) _ _ _ :=
        beforeNoun_up flags apart before head
      have lists := fun later (further : begun.Within later) => phrases_steady flags apart
        fun beyond within => phrases beyond (ahead.trans_within (further.trans within))
      have nouns := words_steady flags apart after (nounRule_mem kind)
        (nounRule_readsWord kind) place
      rcases nouns.up _ _ head with same | ⟨⟨_, last, further, behind⟩, pending⟩
      · rcases adjacent_up phrasesKeep lists (fun _ => phrases_miss flags) tail with
          more | ⟨⟨_, _, more, behind⟩, stuck⟩
        · rcases reads_or_misses (phrasesKeep (rest.followedBy after)) with
            ⟨tree, last, next⟩ | ends
          · have stuck := stuck_of_phrases flags apart next misses
            have toRest := tail.within phrasesKeep
            rcases Tape.cut_or_beyond (next.ahead (phrasesKeep _)) with
              ⟨last, rfl, _⟩ | behind
            · exact absurd misses ((lists rest toRest).down _ _ next).not_misses
            · have tokens := (ahead.trans_within toRest).tokens
              exact .inr ⟨clause_beyond opening same (more.more next) (tokens ▸ behind), stuck⟩
          · exact .inl (.mk opening same more ends)
        · exact .inr ⟨clause_beyond opening same more (ahead.tokens ▸ behind), stuck⟩
      · have nounBegins : BeginsWith (kind.nounRule.recognize config) config.lexicon.OpensClause :=
          (nounRule_readsWord kind).begins
        have stuck : Stuck (Rule.prepAdjectivalPhrase.recognize config) begun :=
          pending.stuck (constituent_keeps (by decide))
            (nounBegins.bare apart.delimiter_clause) (phrase_begins.bare apart.delimiter_phrase)
            (phrase_not_word apart nounBegins)
        -- No phrase follows the noun where the list of nouns is cut short.
        rcases tail.cases_head with rfl | ⟨first, next, phrase⟩
        · exact .inr ⟨clause_beyond opening further (.none last) (toPlace.tokens ▸ behind), stuck⟩
        · exact absurd (phrases_miss flags stuck) phrase.not_misses

end Steadiness

end Clauses

end NounClause

section Phrases

variable {config : Config} {after : List String} {part place rest : Tape} {tree : Tree}

section Pairs

variable {rule first second : Rule} {join : Tree → Tree → Tree} (plain : rule.isList = false)
  (firstPlain : first.isList = false) (secondPlain : second.isList = false)
  (pairs : ∀ tape, Grammar.body Rule.recognize rule config tape
    = Grammar.pair Rule.recognize first second join config tape)

include plain firstPlain secondPlain pairs

theorem pair_down
    (first_down : ∀ place tree, Reads (first.recognize config) (part.followedBy after) tree
      (place.followedBy after) → Reads (first.recognize config) part tree place)
    (second_down : ∀ place tree, part.Ahead place →
      Reads (second.recognize config) (place.followedBy after) tree (rest.followedBy after) →
      Reads (second.recognize config) place tree rest)
    (reads : Reads (rule.recognize config) (part.followedBy after) tree (rest.followedBy after)) :
    Reads (rule.recognize config) part tree rest := by
  obtain ⟨left, place, right, begins, follows, rfl⟩ := (Rule.pair_reads_iff plain pairs).mp reads
  have toPlace := begins.ahead (Rule.recognize_keeps (config.suits_of_plain firstPlain) _)
  have further := follows.ahead (Rule.recognize_keeps (config.suits_of_plain secondPlain) _)
  obtain ⟨place, rfl, _⟩ := Tape.cut_between toPlace.within further.within
  have ahead := Tape.ahead_followedBy_iff.mp toPlace
  exact (Rule.pair_reads_iff plain pairs).mpr
    ⟨left, place, right, first_down _ _ begins, second_down _ _ ahead follows, rfl⟩

theorem pair_steady {opens : String → Prop} {dead : Tape → Prop}
    (word : ReadsWord (first.recognize config) opens)
    (steady : ∀ later, part.Ahead later → Steady (second.recognize config) after dead later) :
    Steady (rule.recognize config) after dead part := by
  constructor
  · intro tree rest
    exact pair_down plain firstPlain secondPlain pairs
      (fun _ _ begins => (word.steady part).down _ _ begins)
      fun place _ ahead follows => (steady place ahead).down _ _ follows
  · intro tree rest reads
    obtain ⟨left, place, right, begins, follows, rfl⟩ := (Rule.pair_reads_iff plain pairs).mp reads
    have ahead := begins.ahead (Rule.recognize_keeps (config.suits_of_plain firstPlain) _)
    rcases (word.steady part).up _ _ begins with same | ⟨_, never⟩
    · rcases (steady place ahead).up _ _ follows with next | ⟨⟨_, beyond, further, behind⟩, ends⟩
      · exact .inl ((Rule.pair_reads_iff plain pairs).mpr ⟨_, _, _, same, next, rfl⟩)
      · exact .inr ⟨⟨_, beyond, (Rule.pair_reads_iff plain pairs).mpr ⟨_, _, _, same, further, rfl⟩,
          ahead.tokens ▸ behind⟩, ends⟩
    · exact never.elim

end Pairs

variable (flags : config.flags = .none) (apart : config.lexicon.Apart)

include flags apart

/-- Where a clause begins on the whole tape, the cut tape has no phrase and no list to go on. -/
theorem stuck_of_clause {last : Tape}
    (clause : Reads (Rule.nounClause.recognize config) (place.followedBy after) tree last) :
    Stuck (Rule.prepAdjectivalPhrase.recognize config) place := by
  have opening : BeginsWith (Rule.nounClause.recognize config) config.lexicon.OpensClause :=
    clause_begins (by rw [flags]; rfl)
  constructor
  · apply misses_of_unread (NounClause.constituent_keeps (by decide) place)
    intro first next phrase
    exact NounClause.phrase_not_word apart opening _ _ _ _ _ phrase clause
  · exact not_continues_of_bare (opening.bare apart.delimiter_clause _ _ _ clause)

theorem phrase_steady
    (clauses : ∀ later, part.Ahead later → Steady (Rule.nounClause.recognize config) after
      (Stuck (Rule.prepAdjectivalPhrase.recognize config)) later) :
    Steady (Rule.prepAdjectivalPhrase.recognize config) after
      (Stuck (Rule.prepAdjectivalPhrase.recognize config)) part := by
  have long : Steady (Rule.prepNounClause.recognize config) after
      (Stuck (Rule.prepAdjectivalPhrase.recognize config)) part :=
    pair_steady rfl rfl rfl (fun _ => rfl) preposition_readsWord clauses
  have short : ReadsWord (Rule.prepWord.recognize config) config.lexicon.OpensPhrase :=
    prepWord_readsWord
  have keeps := fun tape => Rule.recognize_keeps
    (config.suits_of_plain (rfl : Rule.prepNounClause.isList = false)) tape
  have chosen {tape rest : Tape} {tree : Tree} :
      Reads (Rule.prepAdjectivalPhrase.recognize config) tape tree rest ↔ _ :=
    Rule.choice_reads_iff rfl fun _ => rfl
  constructor
  · intro tree rest reads
    rw [chosen] at reads ⊢
    cases reads with
    | here reads => exact .here (long.down _ _ reads)
    | later misses others =>
        cases others with
        | here word =>
            have missing := long.misses (keeps part) misses
            exact .later missing (.here ((short.steady part).down _ _ word))
        | later _ none => cases none
  · intro tree rest reads
    cases chosen.mp reads with
    | here reads =>
        rcases long.up _ _ reads with same | ⟨⟨_, place, further, behind⟩, ends⟩
        · exact .inl (chosen.mpr (.here same))
        · exact .inr ⟨⟨_, place, chosen.mpr (.here further), behind⟩, ends⟩
    | later misses others =>
        cases others with
        | later _ none => cases none
        | here word =>
            rcases (short.steady part).up _ _ word with same | ⟨_, never⟩
            · rcases reads_or_misses (keeps (part.followedBy after)) with
                ⟨tree, place, further⟩ | missing
              · rcases Tape.cut_or_beyond (further.ahead (keeps _)) with ⟨last, rfl, _⟩ | behind
                · exact absurd misses (long.down _ _ further).not_misses
                · -- A clause begins on the whole tape just after the word.
                  obtain ⟨_, middle, _, first, clause, _⟩ :=
                    (Rule.pair_reads_iff rfl fun _ => rfl).mp further
                  cases preposition_readsWord.ends_with short first same
                  exact .inr ⟨⟨tree, place, chosen.mpr (.here further), behind⟩,
                    stuck_of_clause flags apart clause⟩
              · exact .inl (chosen.mpr (.later missing (.here same)))
            · exact never.elim

theorem clause_steady
    (phrases : ∀ later, part.Ahead later → Steady (Rule.prepAdjectivalPhrase.recognize config) after
      (Stuck (Rule.prepAdjectivalPhrase.recognize config)) later) :
    Steady (Rule.nounClause.recognize config) after
      (Stuck (Rule.prepAdjectivalPhrase.recognize config)) part := by
  constructor
  · intro tree rest reads
    rw [Rule.nounClause_reads_iff] at reads ⊢
    exact NounClause.clause_down flags apart phrases reads
  · intro tree rest reads
    rcases NounClause.clause_up flags apart phrases (Rule.nounClause_reads_iff.mp reads) with
      same | ⟨⟨_, place, further, behind⟩, ends⟩
    · exact .inl (Rule.nounClause_reads_iff.mpr same)
    · exact .inr ⟨⟨_, place, Rule.nounClause_reads_iff.mpr further, behind⟩, ends⟩

theorem constituents_steady (after : List String) (part : Tape) :
    Steady (Rule.nounClause.recognize config) after
        (Stuck (Rule.prepAdjectivalPhrase.recognize config)) part ∧
      Steady (Rule.prepAdjectivalPhrase.recognize config) after
        (Stuck (Rule.prepAdjectivalPhrase.recognize config)) part := by
  -- Each calls the other only after a token, so the induction is on the tokens that remain.
  induction size : part.remaining.length using Nat.strongRecOn generalizing part with
  | ind count ih =>
      have later := fun next (ahead : part.Ahead next) => ih _ (size ▸ ahead.remaining_lt) next rfl
      exact ⟨clause_steady flags apart fun next ahead => (later next ahead).2,
        phrase_steady flags apart fun next ahead => (later next ahead).1⟩

end Phrases

end Constituency
