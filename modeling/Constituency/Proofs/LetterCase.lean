import Mathlib
import Constituency.Proofs.ParsedTexts
import Constituency.Proofs.ReadHead
import Constituency.Proofs.TokenRuns

namespace Constituency

namespace Text

def capitals : List Char :=
  (List.range 26).map fun place => Char.ofNat (65 + place)

theorem toLower_eq_self_or_capital (c : Char) : c.toLower = c ∨ c ∈ capitals := by
  by_cases upper : c.isUpper = true
  · right
    have bounds : 65 ≤ c.toNat ∧ c.toNat ≤ 90 := by
      simpa [Char.isUpper, UInt32.le_iff_toNat_le] using upper
    have listed : c.toNat - 65 ∈ List.range 26 := by
      rw [List.mem_range]
      omega
    refine List.mem_map.mpr ⟨c.toNat - 65, listed, ?_⟩
    rw [Nat.add_sub_cancel' bounds.1, Char.ofNat_toNat]
  · exact .inl (Char.toLower_eq_of_not_isUpper upper)

/-- A function that takes each capital for its small letter does not see the case of ASCII
letters. -/
theorem apply_toLower {α : Type} [DecidableEq α] (f : Char → α)
    (same : (capitals.all fun c => f c.toLower = f c) = true) (c : Char) :
    f c.toLower = f c := by
  rcases toLower_eq_self_or_capital c with unchanged | capital
  · rw [unchanged]
  · have checked := List.all_eq_true.mp same c capital
    exact of_decide_eq_true checked

theorem cased_toLower (c : Char) : casedRanges.holds c.toLower = casedRanges.holds c :=
  apply_toLower _ (by decide) c

theorem caseIgnorable_toLower (c : Char) :
    caseIgnorableRanges.holds c.toLower = caseIgnorableRanges.holds c :=
  apply_toLower _ (by decide +kernel) c

theorem lowerChar_toLower (c : Char) : lowerChar c.toLower = lowerChar c :=
  apply_toLower _ (by decide) c

theorem toLower_eq_iff (mark : Char)
    (caseless : (capitals.all fun c => decide (c.toLower = mark) = decide (c = mark)) = true)
    (c : Char) : c.toLower = mark ↔ c = mark := by
  have same := apply_toLower (fun c => decide (c = mark)) caseless c
  simpa using same

theorem meetsCased_toLower (chars : List Char) :
    meetsCased (chars.map Char.toLower) = meetsCased chars := by
  have passed : caseIgnorableRanges.holds ∘ Char.toLower = caseIgnorableRanges.holds :=
    funext caseIgnorable_toLower
  rw [meetsCased, meetsCased, List.dropWhile_map, passed]
  cases chars.dropWhile caseIgnorableRanges.holds with
  | nil => rfl
  | cons c rest => exact cased_toLower c

theorem lowerAfter_toLower (before chars : List Char) :
    lowerAfter (before.map Char.toLower) (chars.map Char.toLower) = lowerAfter before chars := by
  induction chars generalizing before with
  | nil => rfl
  | cons c rest ih =>
      have later := ih (c :: before)
      -- A capital sigma is no ASCII letter, so it stands at the same places in both.
      have sigma := toLower_eq_iff 'Σ' (by decide) c
      rw [List.map_cons] at later
      simp only [List.map_cons, lowerAfter, later, sigma, lowerChar_toLower, meetsCased_toLower]

theorem lower_toLower (word : String) : lower word.toLower = lower word := by
  rw [lower, lower, String.toLower, String.toList_map]
  exact congrArg String.ofList (lowerAfter_toLower [] word.toList)

theorem sameWord_iff_toLower (left right : String) :
    sameWord left right = true ↔ left.toLower = right.toLower := by
  rw [sameWord_iff, ← String.toList_inj, String.toLower, String.toLower, String.toList_map,
    String.toList_map]
  rfl

end Text

namespace Token

theorem kind_toLower (c : Char) : kind c.toLower = kind c :=
  Text.apply_toLower _ (by decide) c

theorem ofText_toLower (text : String) :
    ofText text.toLower = (ofText text).map String.toLower := by
  have spelled : ∀ chars,
      String.ofList (chars.map Char.toLower) = (String.ofList chars).toLower := by
    intro chars
    rw [← String.toList_inj, String.toLower, String.toList_map, String.toList_ofList,
      String.toList_ofList]
  rw [ofText, ofText, String.toLower, String.toList_map, scan_map kind_toLower, List.map_map,
    List.map_map]
  exact List.map_congr_left fun chars _ => spelled chars

theorem ofText_toUpper (text : String) :
    (ofText text.toUpper).map String.toLower = (ofText text).map String.toLower := by
  have folded : text.toUpper.toLower = text.toLower := by
    rw [← String.toList_inj]
    simp [String.toLower, String.toUpper]
  rw [← ofText_toLower, folded, ofText_toLower]

end Token

theorem Dictionary.indifferent_toLower (dictionary : Dictionary) :
    dictionary.lexicon.Indifferent String.toLower where
  comma := by
    -- A comma is no letter, so lower-casing makes nothing else into one.
    have fixed : ∀ token : String, token.toLower = "," ↔ token = "," := by
      intro token
      have comma := Text.toLower_eq_iff ',' (by decide)
      simp only [← String.toList_inj, String.toLower, String.toList_map]
      simp [List.map_eq_cons_iff, comma]
    intro first second same
    rw [← fixed first, ← fixed second, same]
  word := by
    intro first second word same
    rw [Bool.eq_iff_iff, Text.sameWord_iff_toLower, Text.sameWord_iff_toLower, same]
  classify := by
    intro first second same
    have lowered : Text.lower first = Text.lower second := by
      rw [← Text.lower_toLower first, same, Text.lower_toLower]
    simp only [lexicon, Dictionary.classify, lowered]

/-- Both outcomes match or neither does, and both stand at the same place, with as much left to read
and with the same tree up to spelling. -/
structure Outcome.SameMatch (spell : String → String) (left right : Outcome) : Prop where
  succeeded : left.succeeded = right.succeeded
  position : left.tape.position = right.tape.position
  remaining : left.tape.remaining.length = right.tape.remaining.length
  tree : left.tree?.map (Tree.respell spell) = right.tree?.map (Tree.respell spell)

structure Parse.SameAnswers (left right : Parse) : Prop where
  success : left.success = right.success
  consumed : left.consumed = right.consumed
  complete : left.complete = right.complete

section Respelled

variable {spell : String → String} {left right : Tape}

theorem Rule.recognize_respelled (rule : Rule) {config : Config}
    (indifferent : config.lexicon.Indifferent spell)
    (position : left.position = right.position)
    (tokens : left.tokens.map spell = right.tokens.map spell) :
    Run.Agree (Outcome.SameMatch spell) (rule.recognize config left)
      (rule.recognize config right) := by
  have alike : left.Alike spell right := by
    simp only [Tape.Alike, Tape.remaining, List.map_drop, position, tokens]
  have lengths : left.tokens.length = right.tokens.length := by
    simpa only [List.length_map] using congrArg List.length tokens
  apply (recognize_uniform indifferent rule left right alike).imp
  intro first early second late ran ran' outcomes
  -- Of as many tokens as many remain, so as many were read.
  have remaining := outcomes.tape.remaining_length
  have here := first.tape.position_add_remaining
  have there := second.tape.position_add_remaining
  rw [tokens_of_done ran] at here
  rw [tokens_of_done ran'] at there
  exact ⟨outcomes.succeeded, by omega, remaining, outcomes.tree⟩

theorem parseTape_respelled (rule : Rule) {options : Options}
    (indifferent : options.config.lexicon.Indifferent spell) (text other : String)
    (position : left.position = right.position)
    (tokens : left.tokens.map spell = right.tokens.map spell) :
    Run.Agree Parse.SameAnswers (parseTape text rule options left)
      (parseTape other rule options right) := by
  apply (Rule.recognize_respelled rule indifferent position tokens).bind
  intro first second same
  have empties : first.tape.remaining.isEmpty = second.tape.remaining.isEmpty := by
    rw [Bool.eq_iff_iff, List.isEmpty_iff_length_eq_zero, List.isEmpty_iff_length_eq_zero,
      same.remaining]
  apply Run.Agree.emit_bind
  apply Run.Agree.pure
  constructor
  · exact same.succeeded
  · exact same.position
  · simp only [Parse.complete, Parse.success, Parse.remaining, same.succeeded, empties]

end Respelled

theorem parseWith_respelled {spell : String → String} {options : Options}
    (indifferent : options.config.lexicon.Indifferent spell) (rule : Rule) {text other : String}
    (tokens : (Token.ofText text).map spell = (Token.ofText other).map spell)
    (present : Token.ofText text ≠ []) :
    ∃ left right, parseWith text rule options = .ok (parseTape text rule options left) ∧
      parseWith other rule options = .ok (parseTape other rule options right) ∧
      Run.Agree Parse.SameAnswers (parseTape text rule options left)
        (parseTape other rule options right) := by
  have present' : Token.ofText other ≠ [] := by
    intro blank
    exact present (by simpa [blank] using tokens)
  obtain ⟨left, leftTokens, leftStart, parsed⟩ := parseWith_of_present present
  obtain ⟨right, rightTokens, rightStart, parsed'⟩ := parseWith_of_present present'
  refine ⟨left, right, parsed, parsed', parseTape_respelled rule indifferent text other ?_ ?_⟩
  · rw [leftStart, rightStart]
  · rw [leftTokens, rightTokens, tokens]

namespace Rule

/-- With a dictionary for a lexicon, the case of ASCII letters makes no difference. A rule ends alike
on tapes whose tokens are the same but for it, and a text in capitals is parsed as the text is. -/
theorem recognize_ignores_case (dictionary : Dictionary) (rule : Rule) :
    (∀ (config : Config) (left right : Tape), config.lexicon = dictionary.lexicon →
      config.suits rule = true → left.position = right.position →
      List.Forall₂ (fun token other => Text.sameWord token other = true) left.tokens right.tokens →
      ∃ first early second late, rule.recognize config left = .done first early ∧
        rule.recognize config right = .done second late ∧
        first.succeeded = second.succeeded ∧ first.tape.position = second.tape.position ∧
        first.tree?.map (Tree.respell String.toLower)
          = second.tree?.map (Tree.respell String.toLower)) ∧
    ∀ (text : String) (options : Options), options.config.lexicon = dictionary.lexicon →
      (Token.ofText text = [] → parseWith text rule options = .error .empty ∧
        parseWith text.toUpper rule options = .error .empty) ∧
      (Token.ofText text ≠ [] → ∃ left right, parseWith text rule options = .ok left ∧
        parseWith text.toUpper rule options = .ok right ∧
        Run.Agree Parse.SameAnswers left right ∧
        (options.config.suits rule = true → ∃ parse events, left = .done parse events)) := by
  constructor
  · intro config left right ofDictionary suits position same
    have indifferent : config.lexicon.Indifferent String.toLower :=
      ofDictionary ▸ dictionary.indifferent_toLower
    have tokens : left.tokens.map String.toLower = right.tokens.map String.toLower := by
      have folded := same.imp fun token other => (Text.sameWord_iff_toLower token other).mp
      rwa [← List.forall₂_eq_eq_eq, List.forall₂_map_left_iff, List.forall₂_map_right_iff]
    have agrees := recognize_respelled rule indifferent position tokens
    obtain ⟨first, early, ran, _⟩ := recognize_keeps suits left
    obtain ⟨second, late, ran', _⟩ := recognize_keeps suits right
    rw [ran, ran'] at agrees
    cases agrees with
    | done _ _ same =>
        exact ⟨first, early, second, late, ran, ran', same.succeeded, same.position, same.tree⟩
  · intro text options ofDictionary
    have indifferent : options.config.lexicon.Indifferent String.toLower :=
      ofDictionary ▸ dictionary.indifferent_toLower
    have tokens := (Token.ofText_toUpper text).symm
    constructor
    · intro blank
      have blank' : Token.ofText text.toUpper = [] := by simpa [blank] using tokens.symm
      exact ⟨parseWith_of_blank blank, parseWith_of_blank blank'⟩
    · intro present
      obtain ⟨left, right, here, there, agrees⟩ :=
        parseWith_respelled indifferent rule tokens present
      refine ⟨_, _, here, there, agrees, ?_⟩
      intro suits
      obtain ⟨parse, events, done, _⟩ := parseTape_ends suits text left
      exact ⟨parse, events, done⟩

theorem recognize_ignores_case_clause :
    let quiet : Tape := ⟨["Kick", "the", "red", "ball"], 1, by decide, by decide⟩
    let loud : Tape := ⟨["kick", "THE", "Red", "baLL"], 1, by decide, by decide⟩
    (∃ first early second late, nounClause.recognize Config.initial quiet = .done first early ∧
      nounClause.recognize Config.initial loud = .done second late ∧
      first.succeeded = second.succeeded ∧ first.tape.position = second.tape.position ∧
      first.tree?.map (Tree.respell String.toLower)
        = second.tree?.map (Tree.respell String.toLower)) ∧
    (parseWith " " .nounClause .initial = .error .empty ∧
      parseWith " ".toUpper .nounClause .initial = .error .empty) ∧
    ∃ left right, parseWith "the Red ball" .nounClause .initial = .ok left ∧
      parseWith "the Red ball".toUpper .nounClause .initial = .ok right ∧
      Run.Agree Parse.SameAnswers left right ∧
      (Options.initial.config.suits .nounClause = true →
        ∃ parse events, left = .done parse events) := by
  intro quiet loud
  obtain ⟨tapes, texts⟩ := recognize_ignores_case Lexicon.englishDictionary .nounClause
  have same : List.Forall₂ (fun token other => Text.sameWord token other = true)
      quiet.tokens loud.tokens :=
    .cons (by decide) (.cons (by decide) (.cons (by decide) (.cons (by decide) .nil)))
  have blank : Token.ofText " " = [] := by decide
  have present : Token.ofText "the Red ball" ≠ [] := by decide
  exact ⟨tapes Config.initial quiet loud rfl rfl rfl same, (texts " " .initial rfl).1 blank,
    (texts "the Red ball" .initial rfl).2 present⟩

end Rule

end Constituency
