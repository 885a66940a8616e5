import Constituency.Coordination
import Constituency.Proofs.MachineRuns

/-!
The transitions of the list machine, one for each arrow of its diagram. The machine steps from one
stage to another exactly along an arrow, so later proofs go by cases on the arrows and never open
the handlers.
-/

namespace Constituency.Coordination

def choices : Option Conjunction → List Conjunction
  | none => Conjunction.all
  | some fixed => [fixed]

structure Comma (tape rest : Tape) : Prop where
  found : tape.isToken "," = true
  passed : tape.forward = .ok rest

structure Joint (joint : Conjunction) (tape rest : Tape) : Prop where
  found : tape.isWord joint.word = true
  passed : tape.forward = .ok rest

/-- The head stands on none of the conjunctions that may be used. -/
def NoJoint (allowed : Option Conjunction) (tape : Tape) : Prop :=
  ∀ joint ∈ choices allowed, tape.isWord joint.word = false

structure Bare (allowed : Option Conjunction) (tape : Tape) : Prop where
  noComma : tape.isToken "," = false
  noJoint : NoJoint allowed tape

/-- No second item follows the first one directly, or it may not. -/
def Unspaced (style : Style) (item : Tape → Run Outcome) (after : Tape) : Prop :=
  style.spaceDelimiters = true → Misses item after

theorem isWord_unique {tape : Tape} {first second : Conjunction}
    (left : tape.isWord first.word = true) (right : tape.isWord second.word = true) :
    first = second := by
  have words := Tape.sameWord_of_isWord left right
  cases first <;> cases second <;> first | rfl | exact absurd words (by decide)

theorem isWord_of_comma {tape : Tape} (comma : tape.isToken "," = true) (joint : Conjunction) :
    tape.isWord joint.word = false := by
  have current : tape.current? = some "," := eq_of_beq comma
  rw [Tape.isWord, current]
  cases joint <;> decide

theorem mem_choices_iff {allowed : Option Conjunction} {joint : Conjunction} :
    joint ∈ choices allowed ↔ allowed.all (· = joint) = true := by
  cases allowed with
  | none => cases joint <;> decide
  | some fixed => simp [choices, eq_comm]

theorem delimiter_eq_comma_iff {allowed : Option Conjunction} {tape : Tape} :
    delimiter? allowed tape = some .comma ↔ tape.isToken "," = true := by
  unfold delimiter?
  split
  next found => simp [found]
  next absent =>
    simp only [Option.map_eq_some_iff, reduceCtorEq, and_false, exists_false, false_iff]
    exact absent

theorem delimiter_eq_conjunction_iff {allowed : Option Conjunction} {tape : Tape}
    {joint : Conjunction} :
    delimiter? allowed tape = some (.conjunction joint) ↔
      joint ∈ choices allowed ∧ tape.isWord joint.word = true := by
  rw [mem_choices_iff, ← Bool.and_eq_true]
  unfold delimiter?
  split
  next comma => simp [isWord_of_comma comma]
  next =>
    simp only [Option.map_eq_some_iff, Delimiter.conjunction.injEq, exists_eq_right]
    constructor
    · exact List.find?_some
    · intro usable
      have listed : joint ∈ Conjunction.all := by cases joint <;> decide
      cases same : Conjunction.all.find? fun candidate =>
          allowed.all (· = candidate) && tape.isWord candidate.word with
      | none => exact absurd usable (List.find?_eq_none.mp same joint listed)
      | some other =>
          have chosen := List.find?_some same
          rw [Bool.and_eq_true_iff] at chosen usable
          rw [isWord_unique chosen.2 usable.2]

theorem delimiter_eq_none_iff {allowed : Option Conjunction} {tape : Tape} :
    delimiter? allowed tape = none ↔ Bare allowed tape := by
  constructor
  · intro missing
    refine ⟨Bool.eq_false_iff.mpr ?_, fun joint member => Bool.eq_false_iff.mpr ?_⟩
    · intro comma
      cases missing.symm.trans (delimiter_eq_comma_iff.mpr comma)
    · intro word
      cases missing.symm.trans (delimiter_eq_conjunction_iff.mpr ⟨member, word⟩)
  · intro bare
    cases found : delimiter? allowed tape with
    | none => rfl
    | some delimiter =>
        cases delimiter with
        | comma =>
            have comma := delimiter_eq_comma_iff.mp found
            simp [bare.noComma] at comma
        | conjunction joint =>
            obtain ⟨member, word⟩ := delimiter_eq_conjunction_iff.mp found
            simp [bare.noJoint joint member] at word

def Progress.push (progress : Progress) (tree : Tree) : Progress :=
  { progress with items := progress.items ++ [tree] }

inductive Breaks (style : Style) (item : Tape → Run Outcome) (allowed : Option Conjunction)
    (tape : Tape) : State → Prop
  | alone (unspaced : Unspaced style item tape) (bare : Bare allowed tape)
      (required : style.requireList = true) : Breaks style item allowed tape .firstDelimiter
  | second (misses : Misses item tape) : Breaks style item allowed tape .secondItem
  | unjoined (bare : Bare allowed tape) (strict : style.commasOnly = false) :
      Breaks style item allowed tape .laterDelimiter
  | later (noJoint : NoJoint allowed tape) (misses : Misses item tape) :
      Breaks style item allowed tape .laterItem
  | doubled {joint : Conjunction} (usable : joint ∈ choices allowed)
      (found : tape.isWord joint.word = true) : Breaks style item allowed tape .lastItem
  | last (noJoint : NoJoint allowed tape) (misses : Misses item tape) :
      Breaks style item allowed tape .lastItem

inductive Transition (style : Style) (item : Tape → Run Outcome) :
    Stage State Progress → Stage State Progress → Prop
  | first {tape rest tree progress} (reads : Reads item tape tree rest) :
      Transition style item ⟨.firstItem, tape, progress⟩ ⟨.firstDelimiter, rest,
        { progress.push tree with
          afterFirst := if style.fallback then some rest else progress.afterFirst }⟩
  | nothing {tape progress} (misses : Misses item tape) :
      Transition style item ⟨.firstItem, tape, progress⟩ ⟨.failed, tape, progress⟩
  | secondSpaced {tape rest tree progress} (spaced : style.spaceDelimiters = true)
      (reads : Reads item tape tree rest) :
      Transition style item ⟨.firstDelimiter, tape, progress⟩
        ⟨.spacedItem, rest, progress.push tree⟩
  | firstComma {tape rest progress} (unspaced : Unspaced style item tape)
      (comma : Comma tape rest) :
      Transition style item ⟨.firstDelimiter, tape, progress⟩ ⟨.secondItem, rest, progress⟩
  | firstJoint {tape rest progress joint} (unspaced : Unspaced style item tape)
      (usable : joint ∈ choices progress.conjunction) (found : Joint joint tape rest) :
      Transition style item ⟨.firstDelimiter, tape, progress⟩
        ⟨.lastItem, rest, { progress with conjunction := some joint }⟩
  | alone {tape progress} (unspaced : Unspaced style item tape)
      (bare : Bare progress.conjunction tape) (optional : style.requireList = false) :
      Transition style item ⟨.firstDelimiter, tape, progress⟩ ⟨.single, tape, progress⟩
  | second {tape rest tree progress} (reads : Reads item tape tree rest) :
      Transition style item ⟨.secondItem, tape, progress⟩
        ⟨.laterDelimiter, rest, progress.push tree⟩
  | laterComma {tape rest progress} (comma : Comma tape rest) :
      Transition style item ⟨.laterDelimiter, tape, progress⟩ ⟨.laterItem, rest, progress⟩
  | laterJoint {tape rest progress joint} (usable : joint ∈ choices progress.conjunction)
      (found : Joint joint tape rest) :
      Transition style item ⟨.laterDelimiter, tape, progress⟩
        ⟨.lastItem, rest, { progress with conjunction := some joint }⟩
  | unjoined {tape progress} (bare : Bare progress.conjunction tape)
      (lenient : style.commasOnly = true) :
      Transition style item ⟨.laterDelimiter, tape, progress⟩ ⟨.joined, tape, progress⟩
  | serialJoint {tape rest progress joint} (usable : joint ∈ choices progress.conjunction)
      (found : Joint joint tape rest) :
      Transition style item ⟨.laterItem, tape, progress⟩
        ⟨.lastItem, rest, { progress with conjunction := some joint }⟩
  | later {tape rest tree progress} (noJoint : NoJoint progress.conjunction tape)
      (reads : Reads item tape tree rest) :
      Transition style item ⟨.laterItem, tape, progress⟩
        ⟨.laterDelimiter, rest, progress.push tree⟩
  | last {tape rest tree progress} (noJoint : NoJoint progress.conjunction tape)
      (reads : Reads item tape tree rest) :
      Transition style item ⟨.lastItem, tape, progress⟩ ⟨.joined, rest, progress.push tree⟩
  | spaced {tape rest tree progress} (reads : Reads item tape tree rest) :
      Transition style item ⟨.spacedItem, tape, progress⟩
        ⟨.spacedItem, rest, progress.push tree⟩
  | spacedEnd {tape progress} (misses : Misses item tape) :
      Transition style item ⟨.spacedItem, tape, progress⟩ ⟨.joined, tape, progress⟩
  | stop {state tape progress} (breaks : Breaks style item progress.conjunction tape state) :
      Transition style item ⟨state, tape, progress⟩ (stop tape progress)

variable {style : Style} {item : Tape → Run Outcome}

theorem Comma.ahead {tape rest : Tape} (comma : Comma tape rest) : tape.Ahead rest :=
  Tape.forward_ahead comma.passed

theorem Joint.ahead {joint : Conjunction} {tape rest : Tape} (found : Joint joint tape rest) :
    tape.Ahead rest :=
  Tape.forward_ahead found.passed

theorem comma_of_isToken {tape : Tape} (found : tape.isToken "," = true) :
    ∃ rest, Comma tape rest := by
  obtain ⟨rest, passed⟩ := Tape.forward_of_isToken found
  exact ⟨rest, found, passed⟩

theorem joint_of_isWord {joint : Conjunction} {tape : Tape}
    (found : tape.isWord joint.word = true) : ∃ rest, Joint joint tape rest := by
  obtain ⟨rest, passed⟩ := Tape.forward_of_isWord found
  exact ⟨rest, found, passed⟩

theorem skipTo_eq {state : State} {tape rest : Tape} {progress : Progress}
    (passed : tape.forward = .ok rest) : skipTo state tape progress = ⟨state, rest, progress⟩ := by
  rw [skipTo, passed]

theorem skips_comma {tape : Tape} {allowed : Option Conjunction}
    (found : delimiter? allowed tape = some .comma) (state : State) (progress : Progress) :
    ∃ rest, Comma tape rest ∧ skipTo state tape progress = ⟨state, rest, progress⟩ := by
  obtain ⟨rest, comma⟩ := comma_of_isToken (delimiter_eq_comma_iff.mp found)
  exact ⟨rest, comma, skipTo_eq comma.passed⟩

theorem skips_joint {joint : Conjunction} {tape : Tape} {progress : Progress}
    (found : delimiter? progress.conjunction tape = some (.conjunction joint)) :
    ∃ rest, joint ∈ choices progress.conjunction ∧ Joint joint tape rest ∧
      skipConjunction joint tape progress
        = ⟨.lastItem, rest, { progress with conjunction := some joint }⟩ := by
  obtain ⟨usable, word⟩ := delimiter_eq_conjunction_iff.mp found
  obtain ⟨rest, passed⟩ := joint_of_isWord word
  exact ⟨rest, usable, passed, skipTo_eq passed.passed⟩

theorem takeItem_reads {tape rest : Tape} {tree : Tree} (progress : Progress)
    (reads : Reads item tape tree rest) :
    ∃ events, takeItem item tape progress = .done (some (rest, progress.push tree)) events :=
  reads.bind rfl

theorem takeItem_misses {tape : Tape} (progress : Progress) (misses : Misses item tape) :
    ∃ events, takeItem item tape progress = .done none events :=
  misses.bind fun _ _ => rfl

theorem takeItem_done {tape : Tape} {progress : Progress} {taken : Option (Tape × Progress)}
    {events : List Event} (done : takeItem item tape progress = .done taken events) :
    (∃ tree rest, Reads item tape tree rest ∧ taken = some (rest, progress.push tree)) ∨
      (Misses item tape ∧ taken = none) := by
  rcases reads_or_misses_of_bind done with
    ⟨tree, rest, _, reads, followed⟩ | ⟨_, _, _, misses, followed⟩
  · cases followed
    exact .inl ⟨tree, rest, reads, rfl⟩
  · cases followed
    exact .inr ⟨misses, rfl⟩

theorem readFirstDelimiter_transition {tape : Tape} (progress : Progress)
    (unspaced : Unspaced style item tape) :
    Transition style item ⟨.firstDelimiter, tape, progress⟩
      (readFirstDelimiter style tape progress) := by
  unfold readFirstDelimiter
  split
  next found =>
    obtain ⟨rest, comma, skipped⟩ := skips_comma found .secondItem progress
    rw [skipped]
    exact .firstComma unspaced comma
  next joint found =>
    obtain ⟨rest, usable, passed, skipped⟩ := skips_joint found
    rw [skipped]
    exact .firstJoint unspaced usable passed
  next missing =>
    have bare := delimiter_eq_none_iff.mp missing
    split
    next required => exact .stop (.alone unspaced bare required)
    next optional => exact .alone unspaced bare (Bool.eq_false_iff.mpr optional)

theorem afterLaterItem_transition (tape : Tape) (progress : Progress) :
    Transition style item ⟨.laterDelimiter, tape, progress⟩
      (afterLaterItem style tape progress) := by
  unfold afterLaterItem
  split
  next found =>
    obtain ⟨rest, comma, skipped⟩ := skips_comma found .laterItem progress
    rw [skipped]
    exact .laterComma comma
  next joint found =>
    obtain ⟨rest, usable, passed, skipped⟩ := skips_joint found
    rw [skipped]
    exact .laterJoint usable passed
  next missing =>
    have bare := delimiter_eq_none_iff.mp missing
    split
    next lenient => exact .unjoined bare lenient
    next strict => exact .stop (.unjoined bare (Bool.eq_false_iff.mpr strict))

theorem noJoint_iff {allowed : Option Conjunction} {tape : Tape} :
    NoJoint allowed tape ↔ ∀ joint, delimiter? allowed tape ≠ some (.conjunction joint) := by
  simp only [NoJoint, ne_eq, delimiter_eq_conjunction_iff, not_and, Bool.not_eq_true]

theorem requireItem_done {state : State} {tape : Tape} {progress : Progress}
    {next : Stage State Progress} {events : List Event}
    (done : requireItem item state tape progress = .done next events) :
    (∃ tree rest, Reads item tape tree rest ∧ next = ⟨state, rest, progress.push tree⟩) ∨
      (Misses item tape ∧ next = stop tape progress) := by
  obtain ⟨taken, early, late, took, followed, _⟩ := (Run.bind_eq_done_iff _ _ _ _).mp done
  rcases takeItem_done took with ⟨tree, rest, reads, rfl⟩ | ⟨misses, rfl⟩
  · cases followed
    exact .inl ⟨tree, rest, reads, rfl⟩
  · cases followed
    exact .inr ⟨misses, rfl⟩

theorem transition_of_steps {stage next : Stage State Progress}
    (steps : (machine style item).Steps stage next) : Transition style item stage next := by
  obtain ⟨state, tape, progress⟩ := stage
  obtain ⟨running, step, events, handled, stepped⟩ := steps
  cases state with
  | firstItem =>
      cases handled
      obtain ⟨taken, early, late, took, followed, _⟩ := (Run.bind_eq_done_iff _ _ _ _).mp stepped
      rcases takeItem_done took with ⟨tree, rest, reads, rfl⟩ | ⟨misses, rfl⟩
      · cases followed
        exact .first reads
      · cases followed
        exact .nothing misses
  | firstDelimiter =>
      cases handled
      simp only [afterFirstItem] at stepped
      split at stepped
      next spaced =>
        obtain ⟨taken, early, late, took, followed, _⟩ :=
          (Run.bind_eq_done_iff _ _ _ _).mp stepped
        rcases takeItem_done took with ⟨tree, rest, reads, rfl⟩ | ⟨misses, rfl⟩
        · cases followed
          exact .secondSpaced spaced reads
        · cases followed
          exact readFirstDelimiter_transition progress fun _ => misses
      next unspaced =>
        cases stepped
        exact readFirstDelimiter_transition progress fun spaced => absurd spaced unspaced
  | secondItem =>
      cases handled
      rcases requireItem_done stepped with ⟨tree, rest, reads, rfl⟩ | ⟨misses, rfl⟩
      · exact .second reads
      · exact .stop (.second misses)
  | laterDelimiter =>
      cases handled
      cases stepped
      exact afterLaterItem_transition tape progress
  | laterItem =>
      cases handled
      simp only [readLaterItem] at stepped
      split at stepped
      next joint found =>
        cases stepped
        obtain ⟨rest, usable, passed, skipped⟩ := skips_joint found
        rw [skipped]
        exact .serialJoint usable passed
      next other =>
        have noJoint := noJoint_iff.mpr other
        rcases requireItem_done stepped with ⟨tree, rest, reads, rfl⟩ | ⟨misses, rfl⟩
        · exact .later noJoint reads
        · exact .stop (.later noJoint misses)
  | lastItem =>
      cases handled
      simp only [readLastItem] at stepped
      split at stepped
      next joint found =>
        cases stepped
        obtain ⟨usable, word⟩ := delimiter_eq_conjunction_iff.mp found
        exact .stop (.doubled usable word)
      next other =>
        have noJoint := noJoint_iff.mpr other
        rcases requireItem_done stepped with ⟨tree, rest, reads, rfl⟩ | ⟨misses, rfl⟩
        · exact .last noJoint reads
        · exact .stop (.last noJoint misses)
  | spacedItem =>
      cases handled
      obtain ⟨taken, early, late, took, followed, _⟩ := (Run.bind_eq_done_iff _ _ _ _).mp stepped
      rcases takeItem_done took with ⟨tree, rest, reads, rfl⟩ | ⟨misses, rfl⟩
      · cases followed
        exact .spaced reads
      · cases followed
        exact .spacedEnd misses
  | single => cases handled
  | joined => cases handled
  | failed => cases handled

theorem requireItem_reads {state : State} {tape rest : Tape} {tree : Tree} (progress : Progress)
    (reads : Reads item tape tree rest) :
    ∃ events, requireItem item state tape progress
      = .done ⟨state, rest, progress.push tree⟩ events := by
  obtain ⟨events, taken⟩ := takeItem_reads progress reads
  exact ⟨events ++ [], by rw [requireItem, taken]; rfl⟩

theorem requireItem_misses {state : State} {tape : Tape} (progress : Progress)
    (misses : Misses item tape) :
    ∃ events, requireItem item state tape progress = .done (stop tape progress) events := by
  obtain ⟨events, taken⟩ := takeItem_misses progress misses
  exact ⟨events ++ [], by rw [requireItem, taken]; rfl⟩

theorem readLaterItem_eq {tape : Tape} {progress : Progress}
    (noJoint : NoJoint progress.conjunction tape) :
    readLaterItem item tape progress = requireItem item .laterDelimiter tape progress := by
  unfold readLaterItem
  split
  next joint found => exact absurd found (noJoint_iff.mp noJoint joint)
  next => rfl

theorem readLastItem_eq {tape : Tape} {progress : Progress}
    (noJoint : NoJoint progress.conjunction tape) :
    readLastItem item tape progress = requireItem item .joined tape progress := by
  unfold readLastItem
  split
  next joint found => exact absurd found (noJoint_iff.mp noJoint joint)
  next => rfl

theorem afterFirstItem_unspaced {tape : Tape} (progress : Progress)
    (unspaced : Unspaced style item tape) :
    ∃ events, afterFirstItem style item tape progress
      = .done (readFirstDelimiter style tape progress) events := by
  by_cases spaced : style.spaceDelimiters = true
  · obtain ⟨events, taken⟩ := takeItem_misses progress (unspaced spaced)
    exact ⟨events ++ [], by rw [afterFirstItem, if_pos spaced, taken]; rfl⟩
  · exact ⟨[], by rw [afterFirstItem, if_neg spaced]; rfl⟩

theorem final_iff {state : State} :
    (machine style item).Final state ↔ state = .single ∨ state = .joined ∨ state = .failed := by
  simp [Machine.Final, machine, or_assoc]

theorem single_final : (machine style item).Final .single := final_iff.mpr (.inl rfl)

theorem joined_final : (machine style item).Final .joined := final_iff.mpr (.inr (.inl rfl))

theorem failed_final : (machine style item).Final .failed := final_iff.mpr (.inr (.inr rfl))

theorem steps_of_stepped {stage next : Stage State Progress} {step : Step}
    (handled : handler style item stage.state = some step)
    (stepped : ∃ events, step stage.tape stage.gathered = .done next events) :
    (machine style item).Steps stage next := by
  obtain ⟨events, done⟩ := stepped
  refine ⟨?_, step, events, handled, done⟩
  intro final
  rcases final_iff.mp final with same | same | same <;> rw [same] at handled <;> cases handled

theorem breaks_steps {state : State} {tape : Tape} {progress : Progress}
    (breaks : Breaks style item progress.conjunction tape state) :
    (machine style item).Steps ⟨state, tape, progress⟩ (stop tape progress) := by
  cases breaks with
  | alone unspaced bare required =>
      apply steps_of_stepped rfl
      obtain ⟨events, done⟩ := afterFirstItem_unspaced progress unspaced
      rw [readFirstDelimiter, delimiter_eq_none_iff.mpr bare, required] at done
      exact ⟨events, done⟩
  | second misses =>
      exact steps_of_stepped rfl (requireItem_misses progress misses)
  | unjoined bare strict =>
      apply steps_of_stepped rfl
      refine ⟨[], ?_⟩
      simp only [afterLaterItem, delimiter_eq_none_iff.mpr bare, strict]
      rfl
  | later noJoint misses =>
      apply steps_of_stepped rfl
      simp only [readLaterItem_eq noJoint]
      exact requireItem_misses progress misses
  | doubled usable found =>
      apply steps_of_stepped rfl
      simp only [readLastItem, delimiter_eq_conjunction_iff.mpr ⟨usable, found⟩]
      exact ⟨[], rfl⟩
  | last noJoint misses =>
      apply steps_of_stepped rfl
      simp only [readLastItem_eq noJoint]
      exact requireItem_misses progress misses

theorem steps_of_transition {stage next : Stage State Progress}
    (transition : Transition style item stage next) : (machine style item).Steps stage next := by
  cases transition with
  | @first tape rest tree progress reads =>
      apply steps_of_stepped rfl
      obtain ⟨events, taken⟩ := takeItem_reads progress reads
      exact ⟨events ++ [], by simp only [readFirstItem, taken]; rfl⟩
  | @nothing tape progress misses =>
      apply steps_of_stepped rfl
      obtain ⟨events, taken⟩ := takeItem_misses progress misses
      exact ⟨events ++ [], by simp only [readFirstItem, taken]; rfl⟩
  | @secondSpaced tape rest tree progress spaced reads =>
      apply steps_of_stepped rfl
      obtain ⟨events, taken⟩ := takeItem_reads progress reads
      exact ⟨events ++ [], by simp only [afterFirstItem, if_pos spaced, taken]; rfl⟩
  | @firstComma tape rest progress unspaced comma =>
      apply steps_of_stepped rfl
      obtain ⟨events, done⟩ := afterFirstItem_unspaced progress unspaced
      rw [readFirstDelimiter, delimiter_eq_comma_iff.mpr comma.found] at done
      exact ⟨events, done.trans (by simp only [skipTo_eq comma.passed])⟩
  | @firstJoint tape rest progress joint unspaced usable found =>
      apply steps_of_stepped rfl
      obtain ⟨events, done⟩ := afterFirstItem_unspaced progress unspaced
      rw [readFirstDelimiter, delimiter_eq_conjunction_iff.mpr ⟨usable, found.found⟩] at done
      exact ⟨events, done.trans (by simp only [skipConjunction, skipTo_eq found.passed])⟩
  | @alone tape progress unspaced bare optional =>
      apply steps_of_stepped rfl
      obtain ⟨events, done⟩ := afterFirstItem_unspaced progress unspaced
      rw [readFirstDelimiter, delimiter_eq_none_iff.mpr bare, optional] at done
      exact ⟨events, done⟩
  | @second tape rest tree progress reads =>
      exact steps_of_stepped rfl (requireItem_reads progress reads)
  | @laterComma tape rest progress comma =>
      apply steps_of_stepped rfl
      refine ⟨[], ?_⟩
      simp only [afterLaterItem, delimiter_eq_comma_iff.mpr comma.found, skipTo_eq comma.passed]
      rfl
  | @laterJoint tape rest progress joint usable found =>
      apply steps_of_stepped rfl
      refine ⟨[], ?_⟩
      simp only [afterLaterItem, delimiter_eq_conjunction_iff.mpr ⟨usable, found.found⟩,
        skipConjunction, skipTo_eq found.passed]
      rfl
  | @unjoined tape progress bare lenient =>
      apply steps_of_stepped rfl
      refine ⟨[], ?_⟩
      simp only [afterLaterItem, delimiter_eq_none_iff.mpr bare, lenient]
      rfl
  | @serialJoint tape rest progress joint usable found =>
      apply steps_of_stepped rfl
      refine ⟨[], ?_⟩
      simp only [readLaterItem, delimiter_eq_conjunction_iff.mpr ⟨usable, found.found⟩,
        skipConjunction, skipTo_eq found.passed]
      rfl
  | @later tape rest tree progress noJoint reads =>
      apply steps_of_stepped rfl
      simp only [readLaterItem_eq noJoint]
      exact requireItem_reads progress reads
  | @last tape rest tree progress noJoint reads =>
      apply steps_of_stepped rfl
      simp only [readLastItem_eq noJoint]
      exact requireItem_reads progress reads
  | @spaced tape rest tree progress reads =>
      apply steps_of_stepped rfl
      obtain ⟨events, taken⟩ := takeItem_reads progress reads
      exact ⟨events ++ [], by simp only [readSpacedItem, taken]; rfl⟩
  | @spacedEnd tape progress misses =>
      apply steps_of_stepped rfl
      obtain ⟨events, taken⟩ := takeItem_misses progress misses
      exact ⟨events ++ [], by simp only [readSpacedItem, taken]; rfl⟩
  | stop breaks => exact breaks_steps breaks

theorem stop_final (tape : Tape) (progress : Progress) :
    (machine style item).Final (stop tape progress).state := by
  unfold stop
  split
  · exact single_final
  · exact failed_final

theorem transition_exists {stage : Stage State Progress} {good : Outcome → Prop}
    (ends : (item stage.tape).Ends good) (running : ¬ (machine style item).Final stage.state) :
    ∃ next, Transition style item stage next := by
  obtain ⟨state, tape, progress⟩ := stage
  have tried := reads_or_misses ends
  cases state with
  | firstItem =>
      rcases tried with ⟨tree, rest, reads⟩ | misses
      · exact ⟨_, .first reads⟩
      · exact ⟨_, .nothing misses⟩
  | firstDelimiter =>
      rcases tried with ⟨tree, rest, reads⟩ | misses
      · by_cases spaced : style.spaceDelimiters = true
        · exact ⟨_, .secondSpaced spaced reads⟩
        · exact ⟨_, readFirstDelimiter_transition progress fun found => absurd found spaced⟩
      · exact ⟨_, readFirstDelimiter_transition progress fun _ => misses⟩
  | secondItem =>
      rcases tried with ⟨tree, rest, reads⟩ | misses
      · exact ⟨_, .second reads⟩
      · exact ⟨_, .stop (.second misses)⟩
  | laterDelimiter => exact ⟨_, afterLaterItem_transition tape progress⟩
  | laterItem =>
      by_cases found : ∃ joint, delimiter? progress.conjunction tape = some (.conjunction joint)
      · obtain ⟨joint, found⟩ := found
        obtain ⟨rest, usable, passed, _⟩ := skips_joint found
        exact ⟨_, .serialJoint usable passed⟩
      · have noJoint := noJoint_iff.mpr (not_exists.mp found)
        rcases tried with ⟨tree, rest, reads⟩ | misses
        · exact ⟨_, .later noJoint reads⟩
        · exact ⟨_, .stop (.later noJoint misses)⟩
  | lastItem =>
      by_cases found : ∃ joint, delimiter? progress.conjunction tape = some (.conjunction joint)
      · obtain ⟨joint, found⟩ := found
        obtain ⟨usable, word⟩ := delimiter_eq_conjunction_iff.mp found
        exact ⟨_, .stop (.doubled usable word)⟩
      · have noJoint := noJoint_iff.mpr (not_exists.mp found)
        rcases tried with ⟨tree, rest, reads⟩ | misses
        · exact ⟨_, .last noJoint reads⟩
        · exact ⟨_, .stop (.last noJoint misses)⟩
  | spacedItem =>
      rcases tried with ⟨tree, rest, reads⟩ | misses
      · exact ⟨_, .spaced reads⟩
      · exact ⟨_, .spacedEnd misses⟩
  | single => exact absurd single_final running
  | joined => exact absurd joined_final running
  | failed => exact absurd failed_final running

end Constituency.Coordination
