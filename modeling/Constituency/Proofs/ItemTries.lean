import Constituency.Proofs.ListStages
import Constituency.Proofs.RunLogs

/-!
Where a list tries its items. Seen from outside, an item logs only that it is done, so the log of a
list tells of the items that the list itself has tried, and of none within them; the whole log is
the same with the log of each item in its place. Every try is further on than the one before it.
-/

namespace Constituency

def Event.start? : Event → Option Nat
  | .finished _ start _ _ => some start
  | _ => none

/-- Where the calls that a log tells of began, in order. -/
def callStarts (log : List Event) : List Nat :=
  log.filterMap Event.start?

theorem callStarts_stepped (machine source target : String) (position : Nat) :
    callStarts [.stepped machine source target position] = [] := rfl

theorem callStarts_ended (machine state : String) (position : Nat) (accepted : Bool) :
    callStarts [.ended machine state position accepted] = [] := rfl

theorem callStarts_append (log later : List Event) :
    callStarts (log ++ later) = callStarts log ++ callStarts later :=
  List.filterMap_append

namespace Run

variable {α β : Type}

def events : Run α → List Event
  | .fault _ => []
  | .done _ events => events

/-- The same run with what it logs written out at more length. -/
def expand (detail : Event → List Event) : Run α → Run α
  | .fault cause => .fault cause
  | .done value events => .done value (events.flatMap detail)

variable {detail : Event → List Event}

theorem expand_pure (value : α) : (pure value : Run α).expand detail = pure value := rfl

theorem expand_emit {event : Event} (own : detail event = [event]) :
    (emit event).expand detail = emit event := by
  simp [emit, expand, own]

theorem expand_bind (first : Run α) (next : α → Run β) :
    (first >>= next).expand detail =
      first.expand detail >>= fun value => (next value).expand detail := by
  cases first with
  | fault cause => rfl
  | done value early =>
      simp only [bind_eq, andThen, expand]
      cases next value with
      | fault cause => rfl
      | done result late => simp only [List.flatMap_append]

theorem expand_bind_silent (first : Run α) {next : α → Run β}
    (silent : ∀ value, ∃ result, next value = pure result) :
    (first >>= next).expand detail = first.expand detail >>= next := by
  rw [expand_bind]
  congr 1
  funext value
  obtain ⟨result, same⟩ := silent value
  rw [same, expand_pure]

theorem expand_eq_done {run : Run α} {value : α} {log : List Event}
    (done : run.expand detail = .done value log) : ∃ events, run = .done value events := by
  cases run with
  | fault cause => cases done
  | done result events =>
      cases done
      exact ⟨events, rfl⟩

theorem bind_congr_of_done {first : Run α} {next later : α → Run β}
    (same : ∀ value log, first = .done value log → next value = later value) :
    first >>= next = first >>= later := by
  cases first with
  | fault cause => rfl
  | done value log => simp only [bind_eq, andThen, same value log rfl]

end Run

namespace Machine

variable {σ α : Type} [DecidableEq σ] {detail : Event → List Event}

theorem drive_expands (outer whole : Machine σ α) (home : Tape)
    (same : whole = { outer with handler := whole.handler })
    (own : ∀ event, event.start? = none → detail event = [event])
    (keeps : Stage σ α → Prop)
    (onward : ∀ stage next, keeps stage → outer.Steps stage next → keeps next)
    (handlers : ∀ stage, keeps stage → Option.Rel
      (fun step later => later stage.tape stage.gathered
        = (step stage.tape stage.gathered).expand detail)
      (outer.handler stage.state) (whole.handler stage.state)) :
    ∀ budget stage, keeps stage →
      whole.drive home budget stage = (outer.drive home budget stage).expand detail := by
  intro budget
  induction budget with
  | zero =>
      intro stage _
      rfl
  | succ budget ih =>
      intro stage kept
      have related := handlers stage kept
      rw [same] at ih ⊢
      simp only [drive]
      split
      next => rw [Run.expand_bind, Run.expand_emit (own _ rfl), Run.expand_pure]
      next notAccepting =>
        split
        next => rw [Run.expand_bind, Run.expand_emit (own _ rfl), Run.expand_pure]
        next notRejecting =>
          have running : ¬ outer.Final stage.state := not_or.mpr ⟨notAccepting, notRejecting⟩
          generalize handled : outer.handler stage.state = first at related ⊢
          generalize whole.handler stage.state = second at related ⊢
          cases related with
          | none => rfl
          | some agrees =>
              simp only [agrees, Run.expand_bind]
              apply Run.bind_congr_of_done
              intro next log done
              obtain ⟨events, stepped⟩ := Run.expand_eq_done done
              have nextKept := onward stage next kept ⟨running, _, events, handled, stepped⟩
              rw [Run.expand_emit (own _ rfl), ih next nextKept]

end Machine

namespace Coordination

/-- An item seen from outside: it logs that it is done, and nothing of what goes on within. -/
def fromOutside (rule : Rule) (item : Tape → Run Outcome) (tape : Tape) : Run Outcome :=
  match item tape with
  | .fault cause => .fault cause
  | .done outcome _ =>
    .done outcome [.finished rule tape.position outcome.tape.position outcome.succeeded]

def itemLog (item : Tape → Run Outcome) (home : Tape) : Event → List Event
  | .finished _ start _ _ => (item (home.seek start)).events
  | event => [event]

/-- If the event is that of a call, then of the item's, at its place on the tokens of `home`. -/
def Tells (rule : Rule) (item : Tape → Run Outcome) (home : Tape) : Event → Prop
  | .finished other start stop ok => other = rule ∧ ∃ outcome events,
      item (home.seek start) = .done outcome events ∧
      stop = outcome.tape.position ∧ ok = outcome.succeeded
  | _ => True

section Outside

variable {rule : Rule} {item : Tape → Run Outcome} {tape home : Tape}

theorem fromOutside_expand (tokens : tape.tokens = home.tokens) :
    item tape = (fromOutside rule item tape).expand (itemLog item home) := by
  unfold fromOutside
  cases ran : item tape with
  | fault cause => rfl
  | done outcome events =>
      simp [Run.expand, itemLog, Tape.seek_position tokens, ran, Run.events]

theorem fromOutside_ends {good : Outcome → Prop} (ends : (item tape).Ends good) :
    (fromOutside rule item tape).Ends good := by
  obtain ⟨outcome, events, done, holds⟩ := ends
  exact ⟨outcome, _, by rw [fromOutside, done], holds⟩

theorem callStarts_fromOutside {outcome : Outcome} {log : List Event}
    (done : fromOutside rule item tape = .done outcome log) : callStarts log = [tape.position] := by
  unfold fromOutside at done
  split at done
  next => cases done
  next =>
    cases done
    rfl

theorem tells_fromOutside {outcome : Outcome} {log : List Event}
    (tokens : tape.tokens = home.tokens)
    (done : fromOutside rule item tape = .done outcome log) :
    ∀ event ∈ log, Tells rule item home event := by
  intro event member
  unfold fromOutside at done
  split at done
  next => cases done
  next ran =>
    cases done
    cases List.mem_singleton.mp member
    exact ⟨rfl, outcome, _, by rw [Tape.seek_position tokens, ran], rfl, rfl⟩

end Outside

section Expanding

variable {style : Style} {detail : Event → List Event} {outer whole : Tape → Run Outcome}
  {tape : Tape} (same : whole tape = (outer tape).expand detail)

include same

theorem takeItem_expands (progress : Progress) :
    takeItem whole tape progress = (takeItem outer tape progress).expand detail := by
  unfold takeItem
  rw [same, Run.expand_bind_silent]
  intro outcome
  cases outcome <;> exact ⟨_, rfl⟩

theorem takeItem_bind_expands {β : Type} (progress : Progress)
    {next : Option (Tape × Progress) → Run β}
    (silent : ∀ taken, ∃ result, next taken = pure result) :
    (takeItem whole tape progress >>= next)
      = (takeItem outer tape progress >>= next).expand detail := by
  rw [takeItem_expands same, Run.expand_bind_silent _ silent]

theorem requireItem_expands (state : State) (progress : Progress) :
    requireItem whole state tape progress
      = (requireItem outer state tape progress).expand detail :=
  takeItem_bind_expands same progress fun taken => by cases taken <;> exact ⟨_, rfl⟩

theorem handler_expands (state : State) (progress : Progress) :
    Option.Rel (fun step later => later tape progress = (step tape progress).expand detail)
      (handler style outer state) (handler style whole state) := by
  cases state with
  | firstItem =>
      apply Option.Rel.some
      exact takeItem_bind_expands same progress fun taken => by cases taken <;> exact ⟨_, rfl⟩
  | firstDelimiter =>
      apply Option.Rel.some
      simp only [afterFirstItem]
      split
      · exact takeItem_bind_expands same progress fun taken => by cases taken <;> exact ⟨_, rfl⟩
      · rfl
  | secondItem => exact .some (requireItem_expands same _ progress)
  | laterDelimiter => exact .some rfl
  | laterItem =>
      apply Option.Rel.some
      simp only [readLaterItem]
      split
      · rfl
      · exact requireItem_expands same _ progress
  | lastItem =>
      apply Option.Rel.some
      simp only [readLastItem]
      split
      · rfl
      · exact requireItem_expands same _ progress
  | spacedItem =>
      apply Option.Rel.some
      exact takeItem_bind_expands same progress fun taken => by cases taken <;> exact ⟨_, rfl⟩
  | single => exact .none
  | joined => exact .none
  | failed => exact .none

end Expanding

section Trying

variable {style : Style} {rule : Rule} {item : Tape → Run Outcome} {home : Tape}
  {stage next : Stage State Progress} {log events : List Event}

/-- A run that is at this stage has tried its items in order, and none beyond the head. -/
structure Trying (style : Style) (rule : Rule) (item : Tape → Run Outcome) (home : Tape)
    (stage : Stage State Progress) (log : List Event) : Prop where
  underway : Underway home stage
  tells : ∀ event ∈ log, Tells rule item home event
  sorted : (callStarts log).Pairwise (· < ·)
  behind : ¬ (machine style (fromOutside rule item)).Final stage.state →
    ∀ start ∈ callStarts log, start < stage.tape.position

theorem logged_tries (tokens : stage.tape.tokens = home.tokens)
    (logged : (machine style (fromOutside rule item)).Logged stage next events) :
    (∀ event ∈ events, Tells rule item home event) ∧
      (callStarts events).Pairwise (· < ·) ∧
      ∀ start ∈ callStarts events, start = stage.tape.position := by
  rcases logged_item logged with ⟨_, outcome, done⟩ | ⟨_, rfl⟩
  · rw [callStarts_fromOutside done]
    exact ⟨tells_fromOutside tokens done, List.pairwise_singleton _ _,
      fun start member => List.mem_singleton.mp member⟩
  · exact ⟨(fun _ member => by cases member), .nil, fun _ member => by cases member⟩

theorem Trying.step (trying : Trying style rule item home stage log)
    (keeps : (item stage.tape).Ends (Outcome.Kept stage.tape))
    (logged : (machine style (fromOutside rule item)).Logged stage next events)
    (source target : String) :
    Trying style rule item home next
      (log ++ events ++ [.stepped "CompoundList" source target next.tape.position]) := by
  have transition := transition_of_steps logged.steps
  have kept : (fromOutside rule item stage.tape).Ends (Outcome.Kept stage.tape) :=
    fromOutside_ends keeps
  obtain ⟨tells, sorted, here⟩ := logged_tries trying.underway.within.tokens logged
  have before := trying.behind logged.1
  have longer : callStarts
      (log ++ events ++ [.stepped "CompoundList" source target next.tape.position])
        = callStarts log ++ callStarts events := by
    simp only [callStarts_append, callStarts_stepped, List.append_nil]
  refine ⟨transition.underway trying.underway fun _ _ reads => reads.ahead kept, ?_, ?_, ?_⟩
  · intro event member
    simp only [List.mem_append, List.mem_singleton] at member
    rcases member with (earlier | now) | rfl
    · exact trying.tells event earlier
    · exact tells event now
    · trivial
  · rw [longer]
    apply List.pairwise_append.mpr
    refine ⟨trying.sorted, sorted, ?_⟩
    intro start member place now
    rw [here place now]
    exact before start member
  · intro running start member
    -- A step that does not end the list moves the head on from the item it has tried.
    have moved := (transition.advances kept running).position
    rw [longer] at member
    rcases List.mem_append.mp member with earlier | now
    · exact Nat.lt_trans (before start earlier) moved
    · rw [here start now]
      exact moved

end Trying

section Reading

variable {style : Style} {item : Tape → Run Outcome} {home : Tape}
  (keeps : ∀ later, home.Within later → (item later).Ends (Outcome.Kept later))

include keeps

/-- The whole log of a list is its log from outside, with the logs of its items in their places. -/
theorem read_expands (conjunction : Option Conjunction) (rule : Rule) :
    read style conjunction item home =
      (read style conjunction (fromOutside rule item) home).expand (itemLog item home) := by
  refine Machine.drive_expands (machine style (fromOutside rule item)) (machine style item) home rfl
    ?_ (Underway home) ?_ ?_ _ _ (.initial home conjunction)
  · intro event silent
    cases event with
    | finished other start stop ok => cases silent
    | _ => rfl
  · intro stage next underway steps
    have kept := keeps stage.tape underway.within
    apply (transition_of_steps steps).underway underway
    intro tree rest reads
    exact reads.ahead (fromOutside_ends kept)
  · intro stage underway
    exact handler_expands (fromOutside_expand underway.within.tokens) stage.state stage.gathered

theorem read_tries (conjunction : Option Conjunction) (rule : Rule) :
    (read style conjunction (fromOutside rule item) home).Logs fun _ log =>
      (∀ event ∈ log, Tells rule item home event) ∧ (callStarts log).Pairwise (· < ·) := by
  have begun : Trying style rule item home ⟨.firstItem, home, .initial conjunction⟩ [] := {
    underway := .initial home conjunction
    tells := fun _ member => by cases member
    sorted := .nil
    behind := fun _ _ member => by cases member }
  refine Machine.run_logs (fun stage log next events trying logged => ?_)
    (fun stage log trying final => ?_) _ begun
  · exact trying.step (keeps stage.tape trying.underway.within) logged _ _
  · constructor
    · intro event member
      rcases List.mem_append.mp member with earlier | last
      · exact trying.tells event earlier
      · cases List.mem_singleton.mp last
        trivial
    · simp only [callStarts_append, callStarts_ended, List.append_nil]
      exact trying.sorted

end Reading

theorem listRule_tries (conjunction : Option Conjunction) (item : Rule) (config : Config)
    (tape : Tape) (given : config.itemRule = some item) (plain : item.isList = false) :
    ∃ outcome log,
      read (ruleStyle config conjunction) conjunction
          (fromOutside item (item.recognize config.forItems)) tape = .done outcome log ∧
      (listRuleFor conjunction).recognize config tape = .done outcome
        (log.flatMap (itemLog (item.recognize config.forItems) tape)
          ++ [.finished (listRuleFor conjunction) tape.position outcome.tape.position
            outcome.succeeded]) ∧
      (∀ event ∈ log, Tells item (item.recognize config.forItems) tape event) ∧
      (callStarts log).Pairwise (· < ·) ∧ (callStarts log).Nodup := by
  have keeps := fun later (_ : tape.Within later) =>
    Rule.recognize_keeps (config.forItems.suits_of_plain plain) later
  have ends : (read (ruleStyle config conjunction) conjunction
      (fromOutside item (item.recognize config.forItems)) tape).Ends (Outcome.Kept tape) :=
    read_keeps fun later within => fromOutside_ends (keeps later within)
  obtain ⟨outcome, log, done, _⟩ := ends
  obtain ⟨tells, sorted⟩ := read_tries keeps conjunction item outcome log done
  refine ⟨outcome, log, done, ?_, tells, sorted, sorted.imp Nat.ne_of_lt⟩
  rw [recognize_eq_read conjunction given plain, read_expands keeps conjunction item, done]
  rfl

theorem listRule_tries_fallback :
    let config : Config := ⟨some .adjective, ⟨false, true, false⟩,
      ⟨fun token => if token ∈ ["red", "big"] then .single .adjective else .empty⟩⟩
    let tape : Tape := ⟨["red", ",", "big", "dog"], 0, by decide, by decide⟩
    config.itemRule = some .adjective ∧ Rule.adjective.isList = false ∧ ∃ outcome log,
      read (ruleStyle config none) none
          (fromOutside .adjective (Rule.adjective.recognize config.forItems)) tape
        = .done outcome log ∧
      outcome = .matched (tape.seek 1) (.word (.single .adjective) "red") ∧
      callStarts log = [0, 1, 2] ∧ (callStarts log).Pairwise (· < ·) := by
  intro config tape
  refine ⟨rfl, rfl, ?_⟩
  obtain ⟨outcome, log, done, _, _, sorted, _⟩ :=
    listRule_tries none .adjective config tape rfl rfl
  have ran : ∃ log, read (ruleStyle config none) none
      (fromOutside .adjective (Rule.adjective.recognize config.forItems)) tape
        = .done (.matched (tape.seek 1) (.word (.single .adjective) "red")) log ∧
      callStarts log = [0, 1, 2] := by
    simp only [config, tape]
    exact ⟨_, rfl, rfl⟩
  obtain ⟨same, done', tried⟩ := ran
  cases done.symm.trans done'
  exact ⟨_, _, done, rfl, tried, sorted⟩

end Coordination

end Constituency
