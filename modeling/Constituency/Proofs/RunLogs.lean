import Constituency.Proofs.Recursion

/-!
The events of runs. A property of results and logs goes from the parts of a run to the whole: from
one run to the next, along the stages of a machine, and from the calls of a rule to their caller.
Such a property says nothing of runs that fault.
-/

namespace Constituency

namespace Run

variable {α β : Type}

/-- If the run is done, its result and its events are good. -/
def Logs (run : Run α) (good : α → List Event → Prop) : Prop :=
  ∀ value events, run = .done value events → good value events

theorem logs_of_ends {run : Run α} {ends : α → Prop} {good : α → List Event → Prop}
    (done : run.Ends ends) (logs : run.Logs good) :
    ∃ value events, run = .done value events ∧ good value events := by
  obtain ⟨value, events, ran, _⟩ := done
  exact ⟨value, events, ran, logs value events ran⟩

end Run

namespace Machine

variable {σ α : Type}

def Logged (machine : Machine σ α) (stage next : Stage σ α) (events : List Event) : Prop :=
  ¬ machine.Final stage.state ∧ ∃ step,
    machine.handler stage.state = some step ∧ step stage.tape stage.gathered = .done next events

theorem Logged.steps {machine : Machine σ α} {stage next : Stage σ α} {events : List Event}
    (logged : machine.Logged stage next events) : machine.Steps stage next := by
  obtain ⟨running, step, handled, done⟩ := logged
  exact ⟨running, step, events, handled, done⟩

variable [DecidableEq σ]

section Logging

variable {machine : Machine σ α} {home : Tape} {along : Stage σ α → List Event → Prop}
  {good : Outcome → List Event → Prop}
  (step : ∀ stage log next events, along stage log → machine.Logged stage next events →
    along next (log ++ events ++ [.stepped machine.name (machine.stateName stage.state)
      (machine.stateName next.state) next.tape.position]))
  (final : ∀ stage log, along stage log → machine.Final stage.state →
    good (machine.conclude home stage) (log ++ [.ended machine.name
      (machine.stateName stage.state) stage.tape.position
      (machine.conclude home stage).succeeded]))

include step final

theorem drive_logs (budget : Nat) {stage : Stage σ α} {log : List Event}
    (start : along stage log) :
    (machine.drive home budget stage).Logs fun outcome events => good outcome (log ++ events) := by
  -- The induction is on the budget, and what was logged before grows with every step.
  induction budget generalizing stage log with
  | zero =>
      intro outcome events done
      cases done
  | succ budget ih =>
      intro outcome events done
      by_cases accepts : stage.state ∈ machine.accepting
      · have concluded := final stage log start (.inl accepts)
        rw [conclude, if_pos accepts] at concluded
        simp only [drive, if_pos accepts] at done
        cases done
        exact concluded
      · by_cases rejects : stage.state ∈ machine.rejecting
        · have concluded := final stage log start (.inr rejects)
          rw [conclude, if_neg accepts] at concluded
          simp only [drive, if_neg accepts, if_pos rejects] at done
          cases done
          exact concluded
        · have running : ¬ machine.Final stage.state := not_or.mpr ⟨accepts, rejects⟩
          simp only [drive, if_neg accepts, if_neg rejects] at done
          split at done
          next => cases done
          next handler handled =>
            obtain ⟨next, early, late, stepped, followed, rfl⟩ :=
              (Run.bind_eq_done_iff _ _ _ _).mp done
            obtain ⟨_, _, later, emitted, ran, rfl⟩ := (Run.bind_eq_done_iff _ _ _ _).mp followed
            cases emitted
            have onward := step stage log next early start ⟨running, handler, handled, stepped⟩
            have whole := ih onward outcome later ran
            simpa only [List.append_assoc] using whole

/-- What every step keeps of stages and the log so far, the last stage has, with the whole log. -/
theorem run_logs (budget : Nat) {gathered : α} (start : along ⟨machine.start, home, gathered⟩ []) :
    (machine.run budget home gathered).Logs good :=
  drive_logs step final budget start

end Logging

end Machine

theorem Run.silent_bind {α β : Type} {first : Run α} {next : α → Run β} {result : β}
    {events : List Event} (done : (first >>= next) = .done result events)
    (silent : ∀ value, ∃ result, next value = pure result) :
    ∃ value, first = .done value events ∧ next value = pure result := by
  obtain ⟨value, early, late, ran, followed, rfl⟩ := (Run.bind_eq_done_iff _ _ _ _).mp done
  obtain ⟨other, same⟩ := silent value
  cases same.symm.trans followed
  exact ⟨value, by rw [List.append_nil]; exact ran, same⟩

namespace Coordination

variable {style : Style} {item : Tape → Run Outcome}

theorem takeItem_logged {tape : Tape} {progress : Progress} {taken : Option (Tape × Progress)}
    {events : List Event} (done : takeItem item tape progress = .done taken events) :
    ∃ outcome, item tape = .done outcome events := by
  obtain ⟨outcome, ran, _⟩ := Run.silent_bind done fun outcome => by
    cases outcome <;> exact ⟨_, rfl⟩
  exact ⟨outcome, ran⟩

theorem takeItem_bind_logged {β : Type} {tape : Tape} {progress : Progress}
    {next : Option (Tape × Progress) → Run β} {result : β} {events : List Event}
    (done : (takeItem item tape progress >>= next) = .done result events)
    (silent : ∀ taken, ∃ result, next taken = pure result) :
    ∃ outcome, item tape = .done outcome events := by
  obtain ⟨taken, took, _⟩ := Run.silent_bind done silent
  exact takeItem_logged took

theorem requireItem_logged {state : State} {tape : Tape} {progress : Progress}
    {next : Stage State Progress} {events : List Event}
    (done : requireItem item state tape progress = .done next events) :
    ∃ outcome, item tape = .done outcome events :=
  takeItem_bind_logged done fun taken => by cases taken <;> exact ⟨_, rfl⟩

def Takes (style : Style) (stage : Stage State Progress) : Prop :=
  match stage.state with
  | .firstItem | .secondItem | .spacedItem => True
  | .firstDelimiter => style.spaceDelimiters = true
  | .laterItem | .lastItem => NoJoint stage.gathered.conjunction stage.tape
  | .laterDelimiter | .single | .joined | .failed => False

/-- A step of the list machine logs what the item logs at its tape, and else nothing. -/
theorem logged_item {stage next : Stage State Progress} {events : List Event}
    (logged : (machine style item).Logged stage next events) :
    (Takes style stage ∧ ∃ outcome, item stage.tape = .done outcome events) ∨
      (¬ Takes style stage ∧ events = []) := by
  obtain ⟨state, tape, progress⟩ := stage
  obtain ⟨running, step, handled, stepped⟩ := logged
  cases state with
  | firstItem | spacedItem =>
      cases handled
      exact .inl ⟨trivial,
        takeItem_bind_logged stepped fun taken => by cases taken <;> exact ⟨_, rfl⟩⟩
  | firstDelimiter =>
      cases handled
      simp only [afterFirstItem] at stepped
      split at stepped
      next spaced =>
        exact .inl ⟨spaced,
          takeItem_bind_logged stepped fun taken => by cases taken <;> exact ⟨_, rfl⟩⟩
      next unspaced =>
        cases stepped
        exact .inr ⟨unspaced, rfl⟩
  | secondItem =>
      cases handled
      exact .inl ⟨trivial, requireItem_logged stepped⟩
  | laterDelimiter =>
      cases handled
      cases stepped
      exact .inr ⟨not_false, rfl⟩
  | laterItem | lastItem =>
      cases handled
      simp only [readLaterItem, readLastItem] at stepped
      split at stepped
      next joint found =>
        cases stepped
        exact .inr ⟨fun noJoint => noJoint_iff.mp noJoint joint found, rfl⟩
      next other => exact .inl ⟨noJoint_iff.mpr other, requireItem_logged stepped⟩
  | single | joined | failed => cases handled

end Coordination

namespace NounClause

variable {reader : Reader}

def constituent? (stage : Stage State Parts) : Option Rule :=
  match stage.state with
  | .start => if (determiner? stage.tape).isNone then some .adjective else none
  | .adjectives _ => some .adjective
  | .noun kind => some kind.nounRule
  | .phrases _ => some .prepAdjectivalPhrase
  | .succeeded | .failed => none

theorem readInto_ran {rule : Rule} {slot : Slot} {found missing : State} {tape : Tape}
    {parts : Parts} {next : Stage State Parts} {events : List Event}
    (stepped : readInto reader rule slot found missing tape parts = .done next events) :
    ∃ outcome, reader rule tape = .done outcome events := by
  obtain ⟨outcome, ran, _⟩ := Run.silent_bind stepped fun outcome => by
    cases outcome <;> exact ⟨_, rfl⟩
  exact ⟨outcome, ran⟩

theorem logged_constituent {stage next : Stage State Parts} {events : List Event}
    (logged : (machine reader).Logged stage next events) :
    (∃ rule outcome, constituent? stage = some rule ∧
      reader rule stage.tape = .done outcome events) ∨
      (constituent? stage = none ∧ events = []) := by
  obtain ⟨state, tape, parts⟩ := stage
  obtain ⟨running, step, handled, stepped⟩ := logged
  cases state with
  | start =>
      cases handled
      simp only [begin] at stepped
      split at stepped
      next none =>
        obtain ⟨outcome, ran⟩ := readInto_ran stepped
        exact .inl ⟨_, outcome, by simp [constituent?, none], ran⟩
      next determiner found =>
        refine .inr ⟨by simp [constituent?, found], ?_⟩
        split at stepped <;> cases stepped <;> rfl
  | adjectives determiner | noun kind | phrases kind =>
      cases handled
      obtain ⟨outcome, ran⟩ := readInto_ran stepped
      exact .inl ⟨_, outcome, rfl, ran⟩
  | succeeded => cases handled
  | failed => cases handled

end NounClause

namespace Grammar

variable {call : Caller} {config : Config} {tape : Tape}

inductive Tried (call : Caller) (config : Config) (tape : Tape) :
    List Rule → Option (Tape × Tree) → List Event → Prop
  | none : Tried call config tape [] none []
  | found {rule others rest tree events}
      (done : call rule config tape = .done (.matched rest tree) events) :
      Tried call config tape (rule :: others) (some (rest, tree)) events
  | missed {rule others reason left found events later}
      (done : call rule config tape = .done (.missed reason left) events)
      (next : Tried call config tape others found later) :
      Tried call config tape (rule :: others) found
        (events ++ .missed rule.name tape.position :: later)

theorem search_tried {rules : List Rule} {result : Except (List String) (Tape × Tree)}
    {events : List Event}
    (done : Recognizer.search config tape (rules.map fun rule => ⟨rule.name, call rule⟩)
      = .done result events) : Tried call config tape rules result.toOption events := by
  induction rules generalizing result events with
  | nil =>
      cases done
      exact .none
  | cons rule others ih =>
      obtain ⟨outcome, early, late, ran, followed, rfl⟩ := (Run.bind_eq_done_iff _ _ _ _).mp done
      cases outcome with
      | matched rest tree =>
          cases followed
          rw [List.append_nil]
          exact .found ran
      | missed reason left =>
          obtain ⟨_, _, later, emitted, searched, rfl⟩ :=
            (Run.bind_eq_done_iff _ _ _ _).mp followed
          cases emitted
          obtain ⟨found, searched, given⟩ := Run.silent_bind searched fun found => by
            cases found <;> exact ⟨_, rfl⟩
          have tried := ih searched
          cases found with
          | ok pair =>
              cases given
              exact .missed ran tried
          | error reasons =>
              cases given
              exact .missed ran tried

theorem choice_tried {rules : List Rule} {outcome : Outcome} {events : List Event}
    (done : choice call rules config tape = .done outcome events) :
    (∃ rest tree, outcome = .matched rest tree ∧
      Tried call config tape rules (some (rest, tree)) events) ∨
    (∃ reason, outcome = .missed reason tape ∧ Tried call config tape rules none events) := by
  obtain ⟨result, searched, given⟩ := Run.silent_bind done fun result => by
    cases result <;> exact ⟨_, rfl⟩
  have tried := search_tried searched
  cases result with
  | ok found =>
      cases given
      exact .inl ⟨_, _, rfl, tried⟩
  | error reasons =>
      cases given
      exact .inr ⟨_, rfl, tried⟩

inductive Paired (call : Caller) (config : Config) (tape : Tape) (first second : Rule) :
    Outcome → List Event → Prop
  | first {reason left cause events}
      (done : call first config tape = .done (.missed reason left) events) :
      Paired call config tape first second (.missed cause tape) events
  | second {place tree reason left cause events later}
      (begun : call first config tape = .done (.matched place tree) events)
      (done : call second config place = .done (.missed reason left) later) :
      Paired call config tape first second (.missed cause tape) (events ++ later)
  | both {place rest tree other joined events later}
      (begun : call first config tape = .done (.matched place tree) events)
      (done : call second config place = .done (.matched rest other) later) :
      Paired call config tape first second (.matched rest joined) (events ++ later)

theorem pair_paired {first second : Rule} {join : Tree → Tree → Tree} {outcome : Outcome}
    {events : List Event}
    (done : pair call first second join config tape = .done outcome events) :
    Paired call config tape first second outcome events := by
  obtain ⟨ordered, done, mapped⟩ := Run.silent_bind done fun _ => ⟨_, rfl⟩
  obtain ⟨result, chained, given⟩ := Run.silent_bind done fun result => by
    cases result <;> exact ⟨_, rfl⟩
  obtain ⟨left, early, late, begun, followed, rfl⟩ := (Run.bind_eq_done_iff _ _ _ _).mp chained
  cases left with
  | missed reason left =>
      cases followed
      cases given
      cases mapped
      rw [List.append_nil]
      exact .first begun
  | matched place tree =>
      obtain ⟨result', chained', given'⟩ := Run.silent_bind followed fun result => by
        cases result <;> exact ⟨_, rfl⟩
      obtain ⟨right, early', late', done', followed', rfl⟩ :=
        (Run.bind_eq_done_iff _ _ _ _).mp chained'
      cases right with
      | missed reason left =>
          cases followed'
          cases given'
          cases given
          cases mapped
          rw [List.append_nil]
          exact .second begun done'
      | matched rest other =>
          cases followed'
          cases given'
          cases given
          cases mapped
          simp only [List.append_nil]
          exact .both begun done'

/-- The outcomes and logs of all calls are good, and matches go forward. -/
def Logging (call : Caller) (good : Rule → Config → Tape → Outcome → List Event → Prop) : Prop :=
  ∀ rule config tape, (call rule config tape).Logs fun outcome events =>
    outcome.Kept tape ∧ good rule config tape outcome events

theorem recognize_logging {good : Rule → Config → Tape → Outcome → List Event → Prop}
    (step : ∀ call, Logging call good → ∀ rule config tape,
      (body call rule config tape).Logs fun outcome events => outcome.Kept tape →
        good rule config tape outcome (events ++ [.finished rule tape.position
          outcome.tape.position outcome.succeeded])) :
    Logging Rule.recognize good := by
  have runs : ∀ depth, Logging (run depth) good := by
    intro depth
    induction depth with
    | zero =>
        intro rule config tape outcome events done
        cases done
    | succ depth ih =>
        intro rule config tape outcome events done
        have recognized := run_refines_recognize _ rule config tape outcome events done
        have kept := Rule.kept_of_done recognized
        obtain ⟨value, early, late, ran, ended, rfl⟩ := (Run.bind_eq_done_iff _ _ _ _).mp done
        cases ended
        exact ⟨kept, step (run depth) ih rule config tape outcome early ran kept⟩
  intro rule config tape
  exact runs (depthFor tape) rule config tape

end Grammar

end Constituency
