import Constituency.Proofs.Derivations
import Constituency.Proofs.ItemRules
import Constituency.Proofs.OnePassLists

/-!
What a rule reads, exactly: an equation between what the rule reads and what the rules it calls read
or miss. The misses count here, since an alternative has its turn only after those before it.
-/

namespace Constituency

theorem Run.Finds.reads_iff {item : Tape → Run Outcome} {tape rest : Tape} {tree : Tree}
    {found : Tree → Tape → Prop} (finds : (item tape).Finds tape found) :
    Reads item tape tree rest ↔ found tree rest := by
  obtain ⟨outcome, events, done, _, exact⟩ := finds
  rw [← exact]
  constructor
  · intro reads
    rcases reads with ⟨_, matched⟩
    cases done.symm.trans matched
    rfl
  · intro matched
    subst matched
    exact ⟨events, done⟩

theorem misses_of_unread {item : Tape → Run Outcome} {tape : Tape} {good : Outcome → Prop}
    (ends : (item tape).Ends good) (unread : ∀ tree rest, ¬ Reads item tape tree rest) :
    Misses item tape := by
  rcases reads_or_misses ends with ⟨tree, rest, reads⟩ | misses
  · exact absurd reads (unread tree rest)
  · exact misses

namespace Grammar

inductive FirstRead (call : Caller) (config : Config) (tape : Tape) (tree : Tree) (rest : Tape) :
    List Rule → Prop
  | here {rule others} (reads : Reads (call rule config) tape tree rest) :
      FirstRead call config tape tree rest (rule :: others)
  | later {rule others} (misses : Misses (call rule config) tape)
      (found : FirstRead call config tape tree rest others) :
      FirstRead call config tape tree rest (rule :: others)

section Bodies

variable {call : Caller} {config : Config} {tape rest : Tape} {tree : Tree}

theorem search_done_iff {rules : List Rule} :
    (∃ events, Recognizer.search config tape (rules.map fun rule => ⟨rule.name, call rule⟩)
      = .done (.ok (rest, tree)) events) ↔ FirstRead call config tape tree rest rules := by
  induction rules with
  | nil =>
      constructor
      · rintro ⟨_, done⟩
        cases done
      · intro found
        cases found
  | cons rule others ih =>
      constructor
      · rintro ⟨_, done⟩
        rcases reads_or_misses_of_bind done with
          ⟨_, _, _, reads, followed⟩ | ⟨_, _, _, misses, followed⟩
        · cases followed
          exact .here reads
        · obtain ⟨_, _, _, _, searched, _⟩ := (Run.bind_eq_done_iff _ _ _ _).mp followed
          obtain ⟨result, early, _, ran, given, _⟩ := (Run.bind_eq_done_iff _ _ _ _).mp searched
          cases result with
          | error reasons => cases given
          | ok other =>
              cases given
              exact .later misses (ih.mp ⟨early, ran⟩)
      · intro found
        cases found with
        | here reads => exact reads.bind rfl
        | later misses found =>
            obtain ⟨reason, left, events, missed⟩ := misses
            obtain ⟨later, searched⟩ := ih.mpr found
            refine ⟨events ++ ([.missed rule.name tape.position] ++ (later ++ [])), ?_⟩
            refine (Run.bind_eq_done_iff _ _ _ _).mpr ⟨_, events, _, missed, ?_, rfl⟩
            refine (Run.bind_eq_done_iff _ _ _ _).mpr ⟨(), _, _, rfl, ?_, rfl⟩
            exact (Run.bind_eq_done_iff _ _ _ _).mpr ⟨_, later, [], searched, rfl, rfl⟩

theorem choice_reads_iff {rules : List Rule} :
    Reads (choice call rules config) tape tree rest
      ↔ FirstRead call config tape tree rest rules := by
  rw [← search_done_iff]
  constructor
  · rintro ⟨_, done⟩
    obtain ⟨result, early, _, searched, given, _⟩ := (Run.bind_eq_done_iff _ _ _ _).mp done
    cases result with
    | error reasons => cases given
    | ok found =>
        cases given
        exact ⟨early, searched⟩
  · rintro ⟨events, searched⟩
    exact ⟨events ++ [], (Run.bind_eq_done_iff _ _ _ _).mpr ⟨_, events, [], searched, rfl, rfl⟩⟩

theorem pair_reads_iff {first second : Rule} {join : Tree → Tree → Tree} :
    Reads (pair call first second join config) tape tree rest ↔
      ∃ left place right, Reads (call first config) tape left place ∧
        Reads (call second config) place right rest ∧ tree = join left right := by
  constructor
  · exact pair_reads
  · rintro ⟨left, place, right, begins, follows, rfl⟩
    obtain ⟨late, ended⟩ : ∃ late, Recognizer.chain config [⟨second.name, call second⟩] place
        = .done (.ok (rest, [right])) late := follows.bind rfl
    obtain ⟨early, began⟩ := begins
    have chained : Recognizer.chain config [⟨first.name, call first⟩, ⟨second.name, call second⟩]
        tape = .done (.ok (rest, [left, right])) (early ++ (late ++ [])) := by
      refine (Run.bind_eq_done_iff _ _ _ _).mpr ⟨_, early, _, began, ?_, rfl⟩
      exact (Run.bind_eq_done_iff _ _ _ _).mpr ⟨_, late, [], ended, rfl, rfl⟩
    have ordered : Recognizer.inOrder [⟨first.name, call first⟩, ⟨second.name, call second⟩]
        config tape = .done (.matched rest (.sequence [left, right]))
          (early ++ (late ++ []) ++ []) :=
      (Run.bind_eq_done_iff _ _ _ _).mpr ⟨_, _, [], chained, rfl, rfl⟩
    exact ⟨_, (Run.bind_eq_done_iff _ _ _ _).mpr ⟨_, _, [], ordered, rfl, rfl⟩⟩

theorem wordOf_eq_matched_iff {name : String} {part : PartOfSpeech} :
    wordOf name part config tape = .matched rest tree ↔
      ∃ token, tape.read = .ok (token, rest) ∧ (config.lexicon.classify token).has part = true ∧
        tree = .word (.single part) token := by
  constructor
  · exact wordOf_matched
  · rintro ⟨token, taken, known, rfl⟩
    simp only [wordOf, taken, known, if_true]

theorem once_reads_iff {rule : Rule} :
    Reads (once call rule config) tape tree rest ↔
      Reads (body call rule config) tape tree rest := by
  constructor
  · exact once_reads
  · rintro ⟨events, matched⟩
    refine ⟨events ++ ([.finished rule tape.position rest.position true] ++ []), ?_⟩
    refine (Run.bind_eq_done_iff _ _ _ _).mpr ⟨_, events, _, matched, ?_, rfl⟩
    exact (Run.bind_eq_done_iff _ _ _ _).mpr ⟨(), _, [], rfl, rfl, rfl⟩

end Bodies

end Grammar

namespace Rule

open Grammar

variable {rule : Rule} {config : Config} {tape rest : Tape} {tree : Tree}

theorem recognize_reads_iff (suits : config.suits rule = true) :
    Reads (rule.recognize config) tape tree rest ↔
      Reads (body recognize rule config) tape tree rest := by
  rw [← once_reads_iff]
  simp only [Reads, recognize_eq_once suits]

theorem word_reads_iff {part : PartOfSpeech} (asked : rule.part? = some part) :
    Reads (rule.recognize config) tape tree rest ↔
      ∃ token, tape.read = .ok (token, rest) ∧ (config.lexicon.classify token).has part = true ∧
        tree = .word (.single part) token := by
  have plain : rule.isList = false := by cases rule <;> first | rfl | cases asked
  have isWord : body recognize rule config tape = pure (wordOf rule.name part config tape) := by
    cases rule <;> cases asked <;> rfl
  have matched : wordOf rule.name part config tape = .matched rest tree ↔ _ :=
    wordOf_eq_matched_iff
  rw [recognize_reads_iff (config.suits_of_plain plain), ← matched, Reads, isWord]
  simp

theorem choice_reads_iff {settings : Config} {rules : List Rule} (plain : rule.isList = false)
    (chooses : ∀ tape, body recognize rule config tape = choice recognize rules settings tape) :
    Reads (rule.recognize config) tape tree rest ↔
      FirstRead recognize settings tape tree rest rules := by
  rw [recognize_reads_iff (config.suits_of_plain plain), ← Grammar.choice_reads_iff, Reads,
    chooses, ← Reads]

theorem pair_reads_iff {first second : Rule} {join : Tree → Tree → Tree}
    (plain : rule.isList = false)
    (pairs : ∀ tape, body recognize rule config tape
      = pair recognize first second join config tape) :
    Reads (rule.recognize config) tape tree rest ↔
      ∃ left place right, Reads (first.recognize config) tape left place ∧
        Reads (second.recognize config) place right rest ∧ tree = join left right := by
  rw [recognize_reads_iff (config.suits_of_plain plain), ← Grammar.pair_reads_iff, Reads, pairs,
    ← Reads]

theorem unimplemented_unread (unimplemented : rule.isImplemented = false) :
    ¬ Reads (rule.recognize config) tape tree rest := by
  intro reads
  have plain : rule.isList = false := by
    cases rule <;> first | rfl | exact absurd unimplemented (by decide)
  rw [recognize_reads_iff (config.suits_of_plain plain)] at reads
  obtain ⟨events, done⟩ := reads
  cases rule <;> first | exact absurd unimplemented (by decide) | cases done

theorem not_firstRead_of_unimplemented {rules : List Rule}
    (unimplemented : ∀ other ∈ rules, other.isImplemented = false) :
    ¬ FirstRead recognize config tape tree rest rules := by
  intro found
  induction found with
  | here reads => exact unimplemented_unread (unimplemented _ List.mem_cons_self) reads
  | later _ _ ih => exact ih fun other member => unimplemented other (List.mem_cons_of_mem _ member)

/-- Of a choice, what counts is the first rule, if the others are known by name only. -/
theorem sole_reads_iff {settings : Config} {first : Rule} {others : List Rule}
    (plain : rule.isList = false)
    (chooses : ∀ tape, body recognize rule config tape
      = choice recognize (first :: others) settings tape)
    (unimplemented : ∀ other ∈ others, other.isImplemented = false) :
    Reads (rule.recognize config) tape tree rest ↔
      Reads (first.recognize settings) tape tree rest := by
  rw [choice_reads_iff plain chooses]
  constructor
  · intro found
    cases found with
    | here reads => exact reads
    | later _ found => exact absurd found (not_firstRead_of_unimplemented unimplemented)
  · exact .here

theorem nounClause_reads_iff :
    Reads (nounClause.recognize config) tape tree rest ↔
      NounClause.Clause (NounClause.compounds config) tape tree rest := by
  have keeps := fun item member later (_ : tape.Within later) =>
    NounClause.compounds_keep config item member later
  have finds : (NounClause.read (NounClause.compounds config) tape).Ends fun outcome =>
      ∀ tree rest, outcome = .matched rest tree ↔
        NounClause.Clause (NounClause.compounds config) tape tree rest :=
    (NounClause.read_exact keeps).mono fun _ exact => exact.1
  rw [recognize_reads_iff (config.suits_of_plain rfl)]
  exact (Run.finds_of_ends (NounClause.read_keeps keeps) finds).reads_iff

theorem recognize_forItems {item : Rule} (plain : item.isList = false)
    (optional : config.flags.requireList = false) (other : Rule) :
    item.recognize (config.withItemRule other).forItems = item.recognize config := by
  funext later
  have flags : (config.withItemRule other).forItems.flags = config.flags :=
    (congrArg Config.flags (Coordination.forItems_eq optional) :)
  exact run_ignores_item ⟨flags, rfl⟩ plain _ later

end Rule

namespace Coordination

open Grammar

def ReadsCompound (style : Style) (item list : Tape → Run Outcome) : Prop :=
  ∀ tape tree rest, Reads list tape tree rest ↔
    Otherwise (Listing style none item tape) (Reads item tape) tree rest

variable {style : Style} {item list : Tape → Run Outcome} {tape rest : Tape} {tree : Tree}

theorem ReadsCompound.first (compounds : ReadsCompound style item list)
    (reads : Reads list tape tree rest) : ∃ first after, Reads item tape first after := by
  rcases (compounds _ _ _).mp reads with listing | ⟨_, single⟩
  · exact listing.first
  · exact ⟨_, _, single⟩

theorem ReadsCompound.of_item (compounds : ReadsCompound style item list)
    (reads : Reads item tape tree rest) : ∃ longer last, Reads list tape longer last := by
  by_cases listed : ∃ tree rest, Listing style none item tape tree rest
  · obtain ⟨longer, last, listing⟩ := listed
    exact ⟨longer, last, (compounds _ _ _).mpr (.inl listing)⟩
  · exact ⟨tree, rest, (compounds _ _ _).mpr (.inr ⟨listed, reads⟩)⟩

theorem readsCompound_of_plain {config : Config} {item : Rule} (plain : item.isList = false)
    (optional : config.flags.requireList = false) :
    ReadsCompound (listStyle config false true) (item.recognize config)
      (Rule.compound.recognize (config.withItemRule item)) := by
  intro tape tree rest
  have given : (config.withItemRule item).itemRule = some item := rfl
  have finds := compound_finds_items given plain tape
  rw [Rule.recognize_forItems plain optional] at finds
  exact finds.reads_iff

section NoFlags

variable {config : Config} {requireList fallback : Bool} (flags : config.flags = .none)

include flags

theorem listStyle_unspaced : (listStyle config requireList fallback).spaceDelimiters = false :=
  congrArg ListFlags.spaceDelimiters flags

theorem listStyle_joined : (listStyle config requireList fallback).commasOnly = false :=
  congrArg ListFlags.commasOnly flags

end NoFlags

end Coordination

end Constituency
