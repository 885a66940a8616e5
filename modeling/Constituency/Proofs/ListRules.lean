import Constituency.Proofs.ListGrammar
import Constituency.Proofs.Recursion

namespace Constituency

def Conjunction.listRule : Conjunction → Rule
  | .and => .compoundAnd
  | .or => .compoundOr

namespace Grammar

variable {item : Rule} {config : Config}

theorem listRule_ends (joint : Conjunction) (given : config.itemRule = some item)
    (plain : item.isList = false) {tape : Tape} {good : Outcome → Prop}
    (ends : (Coordination.read (listStyle config config.flags.requireList false) (some joint)
      (item.recognize config.forItems) tape).Ends good) :
    (joint.listRule.recognize config tape).Ends good := by
  rw [Rule.recognize_eq_once (Config.suits_of_item given plain _)]
  apply once_ends
  cases joint with
  | and | or =>
      simp only [Conjunction.listRule, body, list_eq given]
      exact ends

theorem compound_ends (given : config.itemRule = some item) (plain : item.isList = false)
    {tape : Tape} {good : Outcome → Prop}
    (ends : (Coordination.read (listStyle config false true) none
      (item.recognize config.forItems) tape).Ends good) :
    (Rule.compound.recognize config tape).Ends good := by
  rw [Rule.recognize_eq_once (Config.suits_of_item given plain _)]
  apply once_ends
  simp only [body, list_eq given]
  exact ends

end Grammar

namespace Coordination

open Grammar

/-- A list rule ends, and it matches exactly the lists joined by its own conjunction and, unless a
list is required, the lone items. -/
theorem listRule_matched_iff (joint : Conjunction) (item : Rule) (config : Config) (tape : Tape)
    (given : config.itemRule = some item) (plain : item.isList = false) :
    ∃ outcome events, joint.listRule.recognize config tape = .done outcome events ∧
      ∀ tree rest, outcome = .matched rest tree ↔
        Listing (listStyle config config.flags.requireList false) (some joint)
            (item.recognize config.forItems) tape tree rest ∨
          config.flags.requireList = false ∧
            Lone (listStyle config config.flags.requireList false) (some joint)
              (item.recognize config.forItems) tape tree rest := by
  apply listRule_ends joint given plain
  have keeps := fun later (_ : tape.Within later) =>
    Rule.recognize_keeps (config.forItems.suits_of_plain plain) later
  apply Run.Ends.mono (read_finds keeps rfl)
  intro outcome finds
  exact finds.2

theorem listRule_matches_serial_comma :
    (Config.initial.withItemRule .dummy).itemRule = some .dummy ∧ Rule.dummy.isList = false ∧
      ∃ events,
        Conjunction.and.listRule.recognize (Config.initial.withItemRule .dummy)
            ⟨["A", ",", "B", ",", "and", "C"], 0, by decide, by decide⟩ =
          .done (.matched ⟨["A", ",", "B", ",", "and", "C"], 6, by decide, by decide⟩
            (.coordination .and [.token "A", .token "B", .token "C"])) events := by
  refine ⟨rfl, rfl, ?_⟩
  obtain ⟨outcome, events, done, accepts⟩ :=
    listRule_matched_iff .and .dummy (Config.initial.withItemRule .dummy)
      ⟨["A", ",", "B", ",", "and", "C"], 0, by decide, by decide⟩ rfl rfl
  have items : Enumerated (listStyle (Config.initial.withItemRule .dummy) false false) (some .and)
      (Rule.dummy.recognize (Config.initial.withItemRule .dummy).forItems)
      ⟨["A", ",", "B", ",", "and", "C"], 0, by decide, by decide⟩ (.token "A")
      ⟨["A", ",", "B", ",", "and", "C"], 1, by decide, by decide⟩ [.token "B"]
      ⟨["A", ",", "B", ",", "and", "C"], 3, by decide, by decide⟩ :=
    .mk ⟨⟨_, rfl⟩, fun spaced => by cases spaced⟩ ⟨rfl, rfl⟩ ⟨_, rfl⟩ (.none _)
  have listing := Listing.long items (.head _) (.serial ⟨rfl, rfl⟩ ⟨rfl, rfl⟩) rfl ⟨_, rfl⟩
  rw [(accepts _ _).mpr (.inl listing)] at done
  exact ⟨events, done⟩

section AnyConjunction

variable {item : Rule} {config : Config}

theorem compound_finds_items (given : config.itemRule = some item) (plain : item.isList = false)
    (tape : Tape) :
    (Rule.compound.recognize config tape).Finds tape
      (Otherwise
        (Listing (listStyle config false true) none (item.recognize config.forItems) tape)
        (Reads (item.recognize config.forItems) tape)) := by
  apply compound_ends given plain
  apply read_finds_otherwise _ rfl
  intro later _
  exact Rule.recognize_keeps (config.forItems.suits_of_plain plain) later

end AnyConjunction

/-- With any conjunction, there is a match wherever there is a first item. A second item right after
it, where that is allowed, makes a list of all that follow each other so. Otherwise a list that
uses delimiters is read, if there is one, with the first conjunction met in a place for one; and if
there is none, the first item stands alone. -/
theorem compound_matched_iff (item : Rule) (config : Config) (tape : Tape)
    (given : config.itemRule = some item) (plain : item.isList = false) :
    ∃ outcome events, Rule.compound.recognize config tape = .done outcome events ∧
      (outcome.succeeded = true ↔
        ∃ first after, Reads (item.recognize config.forItems) tape first after) ∧
      (config.flags.spaceDelimiters = true → ∀ first after second next,
        Reads (item.recognize config.forItems) tape first after →
        Reads (item.recognize config.forItems) after second next →
        ∃ trees rest, Adjacent (item.recognize config.forItems) tape trees rest ∧
          2 ≤ trees.length ∧ Misses (item.recognize config.forItems) rest ∧
          outcome = .matched rest (.coordination .and trees)) ∧
      ∀ tree rest, outcome = .matched rest tree ↔
        Listing (listStyle config false true) none (item.recognize config.forItems) tape tree rest ∨
          (¬ ∃ tree rest, Listing (listStyle config false true) none
            (item.recognize config.forItems) tape tree rest) ∧
          Reads (item.recognize config.forItems) tape tree rest := by
  have keeps := Rule.recognize_keeps (config.forItems.suits_of_plain plain)
  apply Run.Ends.mono (compound_finds_items given plain tape)
  intro outcome found
  rcases found with ⟨_, finds⟩
  refine ⟨?_, ?_, finds⟩
  · constructor
    · intro succeeded
      cases outcome with
      | matched rest tree =>
          rcases (finds tree rest).mp rfl with listing | ⟨_, reads⟩
          · exact listing.first
          · exact ⟨tree, rest, reads⟩
      | missed reason left => cases succeeded
    · rintro ⟨first, after, reads⟩
      by_cases listed : ∃ tree rest, Listing (listStyle config false true) none
          (item.recognize config.forItems) tape tree rest
      · obtain ⟨tree, rest, listing⟩ := listed
        rw [(finds tree rest).mpr (.inl listing)]
        rfl
      · rw [(finds first after).mpr (.inr ⟨listed, reads⟩)]
        rfl
  · intro spaced first after second next reads follows
    have two := ((Adjacent.none tape).more reads).more follows
    obtain ⟨more, rest, items, ends⟩ := two.maximal fun later _ => keeps later
    have several : 2 ≤ ([] ++ [first] ++ [second] ++ more).length := by simp
    have listing : Listing (listStyle config false true) none (item.recognize config.forItems) tape
        (.coordination .and ([] ++ [first] ++ [second] ++ more)) rest :=
      .spaced spaced items several ends
    exact ⟨_, rest, items, several, ends, (finds _ _).mpr (.inl listing)⟩

theorem compound_matches_or :
    (Config.initial.withItemRule .dummy).itemRule = some .dummy ∧ Rule.dummy.isList = false ∧
      ∃ events,
        Rule.compound.recognize (Config.initial.withItemRule .dummy)
            ⟨["A", ",", "B", "Or", "and", "C"], 0, by decide, by decide⟩ =
          .done (.matched ⟨["A", ",", "B", "Or", "and", "C"], 5, by decide, by decide⟩
            (.coordination .or [.token "A", .token "B", .token "and"])) events := by
  refine ⟨rfl, rfl, ?_⟩
  obtain ⟨outcome, events, done, _, _, accepts⟩ :=
    compound_matched_iff .dummy (Config.initial.withItemRule .dummy)
      ⟨["A", ",", "B", "Or", "and", "C"], 0, by decide, by decide⟩ rfl rfl
  have items : Enumerated (listStyle (Config.initial.withItemRule .dummy) false true) none
      (Rule.dummy.recognize (Config.initial.withItemRule .dummy).forItems)
      ⟨["A", ",", "B", "Or", "and", "C"], 0, by decide, by decide⟩ (.token "A")
      ⟨["A", ",", "B", "Or", "and", "C"], 1, by decide, by decide⟩ [.token "B"]
      ⟨["A", ",", "B", "Or", "and", "C"], 3, by decide, by decide⟩ :=
    .mk ⟨⟨_, rfl⟩, fun spaced => by cases spaced⟩ ⟨rfl, rfl⟩ ⟨_, rfl⟩ (.none _)
  have found : Joint .or ⟨["A", ",", "B", "Or", "and", "C"], 3, by decide, by decide⟩
      ⟨["A", ",", "B", "Or", "and", "C"], 4, by decide, by decide⟩ := ⟨rfl, rfl⟩
  have listing := Listing.long items (.tail _ (.head _)) (.plain found) rfl ⟨_, rfl⟩
  rw [(accepts _ _).mpr (.inl listing)] at done
  exact ⟨events, done⟩

end Coordination

end Constituency
