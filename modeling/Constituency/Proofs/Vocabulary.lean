import Constituency.Proofs.LetterCase
import Constituency.Proofs.RuleReadings

/-!
What a constituent can begin with. Noun clauses begin with a determiner, an adjective or a noun, and
phrases with a preposition or a word of their own. In a lexicon that keeps these words apart from
each other and from commas and conjunctions, one token tells which of them can follow.
-/

namespace Constituency

open Coordination

namespace Lexicon

def determiners : List String := ["the", "a", "an"]

def OpensClause (lexicon : Lexicon) (token : String) : Prop :=
  (∃ word ∈ determiners, Text.sameWord token word = true) ∨
    ∃ part ∈ [PartOfSpeech.adjective, .singularNoun, .pluralNoun],
      (lexicon.classify token).has part = true

def OpensPhrase (lexicon : Lexicon) (token : String) : Prop :=
  ∃ part ∈ [PartOfSpeech.preposition, .prepPhrase], (lexicon.classify token).has part = true

def Delimits (token : String) : Prop :=
  token = "," ∨ ∃ joint : Conjunction, Text.sameWord token joint.word = true

/-- No token has two of the three uses. -/
structure Apart (lexicon : Lexicon) : Prop where
  clause_phrase : ∀ token, lexicon.OpensClause token → ¬ lexicon.OpensPhrase token
  delimiter_clause : ∀ token, Delimits token → ¬ lexicon.OpensClause token
  delimiter_phrase : ∀ token, Delimits token → ¬ lexicon.OpensPhrase token

end Lexicon

section English

open Lexicon

theorem Dictionary.mem_of_has {dictionary : Dictionary} {token : String} {part : PartOfSpeech}
    (known : (dictionary.classify token).has part = true) :
    ∃ entry ∈ dictionary.entries, entry.2 = dictionary.classify token := by
  unfold classify at known ⊢
  cases found : dictionary.entries.lookup (Text.lower token) with
  | none =>
      rw [found, Option.getD_none] at known
      cases part <;> exact absurd known (by decide)
  | some wordClass =>
      obtain ⟨before, after, entries, _⟩ := List.lookup_eq_some_iff.mp found
      exact ⟨_, entries ▸ List.mem_append_right _ List.mem_cons_self, rfl⟩

theorem Dictionary.classify_of_sameWord (dictionary : Dictionary) {token word : String}
    (same : Text.sameWord token word = true) :
    dictionary.lexicon.classify token = dictionary.lexicon.classify word :=
  dictionary.indifferent_toLower.classify _ _ ((Text.sameWord_iff_toLower _ _).mp same)

theorem english_parts_apart : ∀ entry ∈ englishDictionary.entries,
    ∀ opening ∈ [PartOfSpeech.adjective, .singularNoun, .pluralNoun],
      ∀ other ∈ [PartOfSpeech.preposition, .prepPhrase],
        (entry.2.has opening && entry.2.has other) = false := by
  decide +kernel

theorem english_unclassed : ∀ word ∈ [",", "and", "or"] ++ determiners,
    english.classify word = .empty := by
  decide +kernel

theorem not_has_of_unclassed {token : String} {part : PartOfSpeech}
    (unclassed : english.classify token = .empty) :
    ¬ (english.classify token).has part = true := by
  rw [unclassed]
  cases part <;> decide

theorem unclassed_of_delimits {token : String} (delimits : Delimits token) :
    english.classify token = .empty := by
  rcases delimits with rfl | ⟨joint, same⟩
  · exact english_unclassed "," (by decide)
  · have sameClass := englishDictionary.classify_of_sameWord same
    refine sameClass.trans (english_unclassed joint.word ?_)
    cases joint <;> decide

theorem not_determiner_of_delimits {token word : String} (delimits : Delimits token)
    (determiner : word ∈ determiners) : ¬ Text.sameWord token word = true := by
  intro same
  rcases delimits with rfl | ⟨joint, joined⟩
  · revert word
    decide
  · have distinct : ∀ word ∈ determiners, Text.foldAscii joint.word ≠ Text.foldAscii word := by
      cases joint <;> decide
    have joinedFolds := (Text.sameWord_iff _ _).mp joined
    exact distinct word determiner (joinedFolds.symm.trans ((Text.sameWord_iff _ _).mp same))

theorem english_apart : english.Apart where
  clause_phrase token opens phrase := by
    obtain ⟨other, listed, known⟩ := phrase
    rcases opens with ⟨word, determiner, same⟩ | ⟨part, opening, has⟩
    · have sameClass := englishDictionary.classify_of_sameWord same
      have unclassed := sameClass.trans
        (english_unclassed word (List.mem_append_right _ determiner))
      exact not_has_of_unclassed unclassed known
    · obtain ⟨entry, member, wordClass⟩ := Dictionary.mem_of_has has
      have apart := english_parts_apart entry member part opening other listed
      rw [wordClass] at apart
      exact Bool.false_ne_true (apart.symm.trans (Bool.and_eq_true_iff.mpr ⟨has, known⟩))
  delimiter_clause token delimits opens := by
    rcases opens with ⟨word, determiner, same⟩ | ⟨part, _, has⟩
    · exact not_determiner_of_delimits delimits determiner same
    · exact not_has_of_unclassed (unclassed_of_delimits delimits) has
  delimiter_phrase token delimits phrase := by
    obtain ⟨part, _, has⟩ := phrase
    exact not_has_of_unclassed (unclassed_of_delimits delimits) has

end English

section Openings

variable {config : Config} {item list : Tape → Run Outcome} {opens : String → Prop}

def BeginsWith (item : Tape → Run Outcome) (opens : String → Prop) : Prop :=
  ∀ tape tree rest, Reads item tape tree rest →
    ∃ token, tape.current? = some token ∧ opens token

theorem BeginsWith.bare (begins : BeginsWith item opens)
    (apart : ∀ token, Lexicon.Delimits token → ¬ opens token) (place : Tape) (tree : Tree)
    (rest : Tape) (reads : Reads item place tree rest) : Bare none place := by
  obtain ⟨token, current, opening⟩ := begins place tree rest reads
  refine ⟨Bool.eq_false_iff.mpr ?_, fun joint _ => Bool.eq_false_iff.mpr ?_⟩
  · intro comma
    cases current.symm.trans (eq_of_beq comma)
    exact apart "," (.inl rfl) opening
  · intro found
    obtain ⟨word, there, same⟩ := (Option.any_eq_true _ _).mp found
    cases current.symm.trans there
    exact apart token (.inr ⟨joint, same⟩) opening

theorem BeginsWith.compound {style : Style} (begins : BeginsWith item opens)
    (compounds : ReadsCompound style item list) : BeginsWith list opens := by
  intro tape tree rest reads
  obtain ⟨first, after, here⟩ := compounds.first reads
  exact begins tape first after here

/-- A single token is read if it has the right use, whatever stands around it. -/
def ReadsWord (item : Tape → Run Outcome) (opens : String → Prop) : Prop :=
  ∃ choose : String → Option Tree, (∀ token tree, choose token = some tree → opens token) ∧
    ∀ tape tree rest, Reads item tape tree rest ↔
      ∃ token, tape.read = .ok (token, rest) ∧ choose token = some tree

theorem ReadsWord.begins (word : ReadsWord item opens) : BeginsWith item opens := by
  obtain ⟨choose, uses, exact⟩ := word
  intro tape tree rest reads
  obtain ⟨token, taken, chosen⟩ := (exact tape tree rest).mp reads
  exact ⟨token, (Tape.read_eq taken).1, uses token tree chosen⟩

def wordTree? (lexicon : Lexicon) (part : PartOfSpeech) (token : String) : Option Tree :=
  if (lexicon.classify token).has part then some (.word (.single part) token) else none

theorem wordTree?_eq_some_iff {lexicon : Lexicon} {part : PartOfSpeech} {token : String}
    {tree : Tree} : wordTree? lexicon part token = some tree ↔
      (lexicon.classify token).has part = true ∧ tree = .word (.single part) token := by
  unfold wordTree?
  split
  next known => simp [known, eq_comm]
  next unknown => simp [unknown]

theorem word_readsWord {rule : Rule} {part : PartOfSpeech} (asked : rule.part? = some part)
    (uses : ∀ token, (config.lexicon.classify token).has part = true → opens token) :
    ReadsWord (rule.recognize config) opens := by
  refine ⟨wordTree? config.lexicon part, ?_, ?_⟩
  · intro token tree chosen
    exact uses token (wordTree?_eq_some_iff.mp chosen).1
  · intro tape tree rest
    simp only [Rule.word_reads_iff asked, wordTree?_eq_some_iff]

/-- A noun of either number is a single word, the singular one where both are possible. -/
theorem noun_readsWord : ReadsWord (Rule.noun.recognize config) config.lexicon.OpensClause := by
  refine ⟨fun token => (wordTree? config.lexicon .singularNoun token).or
    (wordTree? config.lexicon .pluralNoun token), ?_, ?_⟩
  · intro token tree chosen
    rcases Option.or_eq_some_iff.mp chosen with singular | ⟨_, plural⟩
    · exact .inr ⟨_, by decide, (wordTree?_eq_some_iff.mp singular).1⟩
    · exact .inr ⟨_, by decide, (wordTree?_eq_some_iff.mp plural).1⟩
  · intro tape tree rest
    have singular {tree rest} : Reads (Rule.singularNoun.recognize config) tape tree rest ↔ _ :=
      Rule.word_reads_iff rfl
    have plural {tree rest} : Reads (Rule.pluralNoun.recognize config) tape tree rest ↔ _ :=
      Rule.word_reads_iff rfl
    rw [Rule.choice_reads_iff rfl fun _ => rfl]
    constructor
    · intro found
      cases found with
      | here reads =>
          obtain ⟨token, taken, known⟩ := singular.mp reads
          exact ⟨token, taken, by simp [wordTree?_eq_some_iff.mpr known]⟩
      | later misses found =>
          cases found with
          | later _ found => cases found
          | here reads =>
              obtain ⟨token, taken, known⟩ := plural.mp reads
              have noSingular : wordTree? config.lexicon .singularNoun token = none := by
                by_contra other
                obtain ⟨tree, chosen⟩ := Option.ne_none_iff_exists'.mp other
                have reads := singular.mpr ⟨token, taken, wordTree?_eq_some_iff.mp chosen⟩
                exact reads.not_misses misses
              exact ⟨token, taken, by simp [noSingular, wordTree?_eq_some_iff.mpr known]⟩
    · rintro ⟨token, taken, chosen⟩
      rcases Option.or_eq_some_iff.mp chosen with known | ⟨unknown, known⟩
      · exact .here (singular.mpr ⟨token, taken, wordTree?_eq_some_iff.mp known⟩)
      · refine .later ?_ (.here (plural.mpr ⟨token, taken, wordTree?_eq_some_iff.mp known⟩))
        apply misses_of_unread (Rule.recognize_keeps (config.suits_of_plain rfl) tape)
        intro other last reads
        obtain ⟨again, taken', found⟩ := singular.mp reads
        cases taken.symm.trans taken'
        cases unknown.symm.trans (wordTree?_eq_some_iff.mpr found)

theorem nounRule_readsWord (kind : NounClause.Kind) :
    ReadsWord (kind.nounRule.recognize config) config.lexicon.OpensClause := by
  cases kind with
  | definite => exact noun_readsWord
  | singular => exact word_readsWord rfl fun token known => .inr ⟨_, by decide, known⟩
  | plural => exact word_readsWord rfl fun token known => .inr ⟨_, by decide, known⟩

theorem adjective_readsWord :
    ReadsWord (Rule.adjective.recognize config) config.lexicon.OpensClause :=
  word_readsWord rfl fun token known => .inr ⟨_, by decide, known⟩

theorem preposition_readsWord :
    ReadsWord (Rule.preposition.recognize config) config.lexicon.OpensPhrase :=
  word_readsWord rfl fun token known => ⟨_, by decide, known⟩

theorem prepWord_readsWord :
    ReadsWord (Rule.prepWord.recognize config) config.lexicon.OpensPhrase :=
  word_readsWord rfl fun token known => ⟨_, by decide, known⟩

theorem phrase_begins :
    BeginsWith (Rule.prepAdjectivalPhrase.recognize config) config.lexicon.OpensPhrase := by
  intro tape tree rest reads
  have chosen := (Rule.choice_reads_iff rfl fun _ => rfl).mp reads
  cases chosen with
  | here reads =>
      obtain ⟨left, place, right, first, _⟩ := (Rule.pair_reads_iff rfl fun _ => rfl).mp reads
      exact preposition_readsWord.begins tape left place first
  | later _ others =>
      cases others with
      | here reads => exact prepWord_readsWord.begins tape tree rest reads
      | later _ none => cases none

theorem determined_opens {tape place : Tape} {kind : NounClause.Kind}
    (determined : NounClause.Determined tape kind place) (lexicon : Lexicon) :
    place = tape ∨ ∃ token, tape.current? = some token ∧ lexicon.OpensClause token := by
  have opened : ∀ word ∈ Lexicon.determiners, tape.isWord word = true →
      ∃ token, tape.current? = some token ∧ lexicon.OpensClause token := by
    intro word determiner found
    obtain ⟨token, current, same⟩ := (Option.any_eq_true _ _).mp found
    exact ⟨token, current, .inl ⟨word, determiner, same⟩⟩
  cases determined with
  | definite the passed => exact .inr (opened "the" (by decide) the)
  | singular indefinite passed =>
      rcases indefinite with a | an
      · exact .inr (opened "a" (by decide) a)
      · exact .inr (opened "an" (by decide) an)
  | plural bare => exact .inl rfl

theorem clause_begins (optional : config.flags.requireList = false) :
    BeginsWith (Rule.nounClause.recognize config) config.lexicon.OpensClause := by
  intro tape tree rest reads
  have compounds {item : Rule} (plain : item.isList = false) :
      ReadsCompound _ (item.recognize config) (NounClause.compounds config item) :=
    readsCompound_of_plain plain optional
  cases Rule.nounClause_reads_iff.mp reads with
  | @mk kind adjectives place noun begun phrases rest before head tail ends =>
      cases before with
      | described determined adjective =>
          rcases determined_opens determined config.lexicon with rfl | opens
          · exact adjective_readsWord.begins.compound (compounds rfl) _ _ _ adjective
          · exact opens
      | plain determined misses =>
          rcases determined_opens determined config.lexicon with rfl | opens
          · have plain : kind.nounRule.isList = false := by cases kind <;> rfl
            exact (nounRule_readsWord kind).begins.compound (compounds plain) _ _ _ head
          · exact opens

end Openings

end Constituency
