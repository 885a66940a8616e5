import Constituency.Proofs.ListRules

/-!
A list whose conjunction is chosen on the way, against the backtracking reading: first a list joined
by "and", then one joined by "or", then a bare item. They agree if no item begins on a conjunction
and a conjunction may not be left out. A derivation with the conjunction fixed is then also one with
the conjunction open, and the other way round for the conjunction that it uses.
-/

namespace Constituency

open Grammar

def Config.requiringLists (config : Config) : Config :=
  config.withFlags { config.flags with requireList := true }

/-- Three readings in turn, the first two of which must be lists. -/
def backtracking (item : Rule) (config : Config) (tape : Tape) : Run Outcome :=
  (Rule.compoundAnd.recognize config.requiringLists tape).orElse
    ((Rule.compoundOr.recognize config.requiringLists tape).orElse (item.recognize config tape))

namespace Coordination

def Guarded (item : Tape → Run Outcome) (home : Tape) : Prop :=
  ∀ place tree rest, place.tokens = home.tokens → Reads item place tree rest → NoJoint none place

section Conjunctions

variable {style other : Style} {item : Tape → Run Outcome} {home : Tape} {joint : Conjunction}

theorem mem_choices_none (joint : Conjunction) : joint ∈ choices none := by
  cases joint <;> decide

theorem Opened.restyle {first : Tree} {after : Tape} (opened : Opened style item home first after)
    (same : other.spaceDelimiters = style.spaceDelimiters) : Opened other item home first after :=
  ⟨opened.reads, fun spaced => opened.unspaced (same ▸ spaced)⟩

theorem Commas.tokens {allowed : Option Conjunction} {start tape : Tape} {trees : List Tree}
    (keeps : ∀ tape, (item tape).Ends (Outcome.Kept tape))
    (commas : Commas item allowed start trees tape) : tape.tokens = start.tokens := by
  induction commas with
  | none => rfl
  | more before comma noJoint reads ih =>
      exact (reads.ahead (keeps _)).tokens.trans (comma.ahead.tokens.trans ih)

theorem commas_none_of_some {start tape : Tape} {trees : List Tree}
    (keeps : ∀ tape, (item tape).Ends (Outcome.Kept tape))
    (guarded : Guarded item start)
    (commas : Commas item (some joint) start trees tape) : Commas item none start trees tape := by
  induction commas with
  | none => exact .none _
  | more before comma noJoint reads ih =>
      have tokens := comma.ahead.tokens.trans (before.tokens keeps)
      exact .more ih comma (guarded _ _ _ tokens reads) reads

theorem commas_some_of_none {start tape : Tape} {trees : List Tree} (joint : Conjunction)
    (commas : Commas item none start trees tape) : Commas item (some joint) start trees tape := by
  induction commas with
  | none => exact .none _
  | more before comma noJoint reads ih =>
      have apart := noJoint joint (mem_choices_none joint)
      exact .more ih comma (noJoint_fixed_iff.mpr apart) reads

theorem enumerated_none_of_some {first : Tree} {after tape : Tape} {trees : List Tree}
    (same : other.spaceDelimiters = style.spaceDelimiters)
    (keeps : ∀ tape, (item tape).Ends (Outcome.Kept tape))
    (guarded : Guarded item home)
    (items : Enumerated style (some joint) item home first after trees tape) :
    Enumerated other none item home first after trees tape := by
  cases items with
  | @mk place start rest second trees opened comma reads others =>
      have tokens : start.tokens = home.tokens :=
        calc
          start.tokens = place.tokens := (reads.ahead (keeps _)).tokens
          _ = after.tokens := comma.ahead.tokens
          _ = home.tokens := (opened.reads.ahead (keeps _)).tokens
      refine .mk (opened.restyle same) comma reads (commas_none_of_some keeps ?_ others)
      intro place tree rest here
      exact guarded place tree rest (here.trans tokens)

theorem enumerated_some_of_none {first : Tree} {after tape : Tape} {trees : List Tree}
    (same : other.spaceDelimiters = style.spaceDelimiters) (joint : Conjunction)
    (items : Enumerated other none item home first after trees tape) :
    Enumerated style (some joint) item home first after trees tape := by
  cases items with
  | mk opened comma reads others =>
      exact .mk (opened.restyle same.symm) comma reads (commas_some_of_none joint others)

/-- A list with its conjunction fixed is one with the conjunction open, unless it uses no
conjunction at all and a list joined by "and" is there to be preferred. -/
theorem listing_none_of_some {tree : Tree} {rest : Tape}
    (same : other.spaceDelimiters = style.spaceDelimiters) (strict : style.commasOnly = false)
    (keeps : ∀ tape, (item tape).Ends (Outcome.Kept tape))
    (guarded : Guarded item home)
    (preferred : joint = .and ∨
      ¬ ∃ tree rest, Listing style (some .and) item home tree rest)
    (listing : Listing style (some joint) item home tree rest) :
    Listing other none item home tree rest := by
  cases listing with
  | spaced spaced items several ends =>
      -- No conjunction is read here, so the same items are a list joined by "and" as well.
      rcases preferred with rfl | unlisted
      · exact .spaced (same.trans spaced) items several ends
      · exact absurd ⟨_, _, .spaced spaced items several ends⟩ unlisted
  | pair opened usable found once reads =>
      exact .pair (opened.restyle same) (mem_choices_none _) found once reads
  | long items usable closing once reads =>
      have opened := enumerated_none_of_some same keeps guarded items
      exact .long opened (mem_choices_none _) closing once reads
  | unjoined lenient items bare => simp [strict] at lenient

theorem listing_some_of_none {tree : Tree} {rest : Tape}
    (same : other.spaceDelimiters = style.spaceDelimiters) (strict : other.commasOnly = false)
    (listing : Listing other none item home tree rest) :
    ∃ joint, Listing style (some joint) item home tree rest := by
  cases listing with
  | spaced spaced items several ends =>
      exact ⟨.and, .spaced (same.symm.trans spaced) items several ends⟩
  | @pair joint first second after place rest opened usable found once reads =>
      exact ⟨joint, .pair (opened.restyle same.symm) (.head _) found once reads⟩
  | @long joint first last after tape place rest trees items usable closing once reads =>
      exact ⟨joint, .long (enumerated_some_of_none same joint items) (.head _) closing once reads⟩
  | unjoined lenient items bare => simp [strict] at lenient

end Conjunctions

section Backtracking

variable {item : Rule} {config : Config} {tape : Tape}

theorem forItems_eq (optional : config.flags.requireList = false) : config.forItems = config := by
  obtain ⟨rule, ⟨commas, spaces, required⟩, lexicon⟩ := config
  cases optional
  rfl

theorem forItems_requiringLists (config : Config) :
    config.requiringLists.forItems = config.forItems := rfl

def Strict (joint : Conjunction) (item : Rule) (config : Config) : Tape → Tree → Tape → Prop :=
  Listing (listStyle config true false) (some joint) (item.recognize config)

theorem requiringLists_finds (joint : Conjunction) (given : config.itemRule = some item)
    (plain : item.isList = false) (optional : config.flags.requireList = false) (tape : Tape) :
    (joint.listRule.recognize config.requiringLists tape).Finds tape
      (Strict joint item config tape) := by
  have itemRule : config.requiringLists.itemRule = some item := given
  have keeps := fun later (_ : tape.Within later) =>
    Rule.recognize_keeps (config.suits_of_plain plain) later
  apply listRule_ends joint itemRule plain
  rw [forItems_requiringLists, forItems_eq optional]
  apply (read_finds keeps rfl).congr
  intro tree rest
  constructor
  · intro found
    rcases found with listing | ⟨lax, _⟩
    · exact listing
    · cases lax
  · exact .inl

theorem backtracking_finds (given : config.itemRule = some item) (plain : item.isList = false)
    (optional : config.flags.requireList = false) (tape : Tape) :
    (backtracking item config tape).Finds tape
      (Otherwise (Strict .and item config tape)
        (Otherwise (Strict .or item config tape) (Reads (item.recognize config) tape))) := by
  have bare := Run.finds_reads (Rule.recognize_keeps (config.suits_of_plain plain) tape)
  have orLists := requiringLists_finds .or given plain optional tape
  have andLists := requiringLists_finds .and given plain optional tape
  exact andLists.orElse (orLists.orElse bare)

theorem compound_finds (given : config.itemRule = some item) (plain : item.isList = false)
    (optional : config.flags.requireList = false) (tape : Tape) :
    (Rule.compound.recognize config tape).Finds tape
      (Otherwise (Listing (listStyle config false true) none (item.recognize config) tape)
        (Reads (item.recognize config) tape)) := by
  have finds := compound_finds_items given plain tape
  rwa [forItems_eq optional] at finds

/-- The lists with the conjunction open are the ones joined by "and", or else the ones joined by
"or". -/
theorem listing_iff_otherwise (plain : item.isList = false)
    (joined : config.flags.commasOnly = false)
    (guarded : Guarded (item.recognize config) tape) (tree : Tree) (rest : Tape) :
    Listing (listStyle config false true) none (item.recognize config) tape tree rest ↔
      Otherwise (Strict .and item config tape) (Strict .or item config tape) tree rest := by
  have keeps := Rule.recognize_keeps (config.suits_of_plain plain)
  have same : (listStyle config false true).spaceDelimiters =
      (listStyle config true false).spaceDelimiters := rfl
  constructor
  · intro listing
    obtain ⟨joint, fixed⟩ := listing_some_of_none same joined listing
    cases joint with
    | and => exact .inl fixed
    | or =>
        -- A list joined by "and" is read with the conjunction open too, so it is this list.
        by_cases preferred : ∃ tree rest, Strict .and item config tape tree rest
        · obtain ⟨tree', rest', strict⟩ := preferred
          have again := listing_none_of_some same joined keeps guarded (.inl rfl) strict
          obtain ⟨rfl, rfl⟩ := listing.unique again
          exact .inl strict
        · exact .inr ⟨preferred, fixed⟩
  · intro found
    rcases found with strict | ⟨unlisted, strict⟩
    · exact listing_none_of_some same joined keeps guarded (.inl rfl) strict
    · exact listing_none_of_some same joined keeps guarded (.inr unlisted) strict

theorem guarded_of_misses {item : Tape → Run Outcome}
    (misses : ∀ position, (tape.seek position).isWord "and" = true ∨
      (tape.seek position).isWord "or" = true → Misses item (tape.seek position)) :
    Guarded item tape := by
  intro place tree rest tokens reads joint _
  have here := misses place.position
  rw [Tape.seek_position tokens] at here
  apply Bool.eq_false_iff.mpr
  intro found
  apply reads.not_misses
  apply here
  cases joint with
  | and => exact .inl found
  | or => exact .inr found

theorem compound_agrees_backtracking (item : Rule) (config : Config) (tape : Tape)
    (given : config.itemRule = some item) (plain : item.isList = false)
    (joined : config.flags.commasOnly = false) (optional : config.flags.requireList = false)
    (guarded : ∀ position, (tape.seek position).isWord "and" = true ∨
        (tape.seek position).isWord "or" = true →
      Misses (item.recognize config) (tape.seek position)) :
    ∃ onePass events reference events',
      Rule.compound.recognize config tape = .done onePass events ∧
      backtracking item config tape = .done reference events' ∧
      onePass.succeeded = reference.succeeded ∧ onePass.tape = reference.tape ∧
      onePass.tree? = reference.tree? := by
  have lists := listing_iff_otherwise plain joined (guarded_of_misses guarded)
  have onePass := (compound_finds given plain optional tape).congr fun tree rest =>
    (otherwise_congr lists tree rest).trans (otherwise_assoc _ _ _ tree rest)
  exact onePass.alike (backtracking_finds given plain optional tape)

theorem compound_agrees_on_or :
    let config := (Config.initial.withItemRule .adjective).withLexicon
      ⟨fun token => if token ∈ ["red", "blue"] then .single .adjective else .empty⟩
    let tape : Tape := ⟨["red", "or", "blue"], 0, by decide, by decide⟩
    (∀ position, (tape.seek position).isWord "and" = true ∨
        (tape.seek position).isWord "or" = true →
      Misses (Rule.adjective.recognize config) (tape.seek position)) ∧
    ∃ onePass events reference events',
      Rule.compound.recognize config tape = .done onePass events ∧
      backtracking .adjective config tape = .done reference events' ∧
      onePass.succeeded = reference.succeeded ∧ onePass.tape = reference.tape ∧
      onePass.tree? = reference.tree? := by
  intro config tape
  have guarded : ∀ position, (tape.seek position).isWord "and" = true ∨
        (tape.seek position).isWord "or" = true →
      Misses (Rule.adjective.recognize config) (tape.seek position) := by
    intro position conjunction
    match position with
    | 0 => exact absurd conjunction (by decide)
    | 1 =>
        simp only [config, tape]
        exact ⟨_, _, _, rfl⟩
    | 2 => exact absurd conjunction (by decide)
    | more + 3 =>
        have past : tape.seek (more + 3) = tape.seek 3 := by simp [Tape.seek, tape]
        rw [past] at conjunction
        exact absurd conjunction (by decide)
  exact ⟨guarded, compound_agrees_backtracking .adjective config tape rfl rfl rfl rfl guarded⟩

end Backtracking

end Coordination

end Constituency
