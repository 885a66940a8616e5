import Mathlib.Data.List.Chain
import Constituency.NounClause
import Constituency.Proofs.MachineRuns

namespace Constituency.NounClause

def constituents : List Rule :=
  [.adjective, .noun, .singularNoun, .pluralNoun, .prepAdjectivalPhrase]

inductive Opening (tape : Tape) : State → Kind → Prop
  | undetermined (none : determiner? tape = none) : Opening tape .start .plural
  | determined (determiner : Determiner) : Opening tape (.adjectives determiner) determiner.kind

inductive Transition (reader : Reader) : Stage State Parts → Stage State Parts → Prop
  | determiner {tape rest parts determiner} (found : determiner? tape = some determiner)
      (passed : tape.forward = .ok rest) :
      Transition reader ⟨.start, tape, parts⟩ ⟨.adjectives determiner, rest, parts⟩
  | adjectives {state kind tape rest tree parts} (opening : Opening tape state kind)
      (reads : Reads (reader .adjective) tape tree rest) :
      Transition reader ⟨state, tape, parts⟩
        ⟨.noun kind, rest, (parts.push tree).mergeInto .adjectives⟩
  | noAdjectives {state kind tape parts} (opening : Opening tape state kind)
      (misses : Misses (reader .adjective) tape) :
      Transition reader ⟨state, tape, parts⟩ ⟨.noun kind, tape, parts⟩
  | noun {kind tape rest tree parts} (reads : Reads (reader kind.nounRule) tape tree rest) :
      Transition reader ⟨.noun kind, tape, parts⟩
        ⟨.phrases kind, rest, (parts.push tree).mergeInto .noun⟩
  | noNoun {kind tape parts} (misses : Misses (reader kind.nounRule) tape) :
      Transition reader ⟨.noun kind, tape, parts⟩ ⟨.failed, tape, parts⟩
  | phrase {kind tape rest tree parts}
      (reads : Reads (reader .prepAdjectivalPhrase) tape tree rest) :
      Transition reader ⟨.phrases kind, tape, parts⟩
        ⟨.phrases kind, rest, (parts.push tree).mergeInto .phrases⟩
  | noPhrase {kind tape parts} (misses : Misses (reader .prepAdjectivalPhrase) tape) :
      Transition reader ⟨.phrases kind, tape, parts⟩ ⟨.succeeded, tape, parts⟩

theorem forward_of_determiner {tape : Tape} {determiner : Determiner}
    (found : determiner? tape = some determiner) : ∃ rest, tape.forward = .ok rest := by
  unfold determiner? at found
  split at found
  next the => exact Tape.forward_of_isWord the
  next =>
    split at found
    next either =>
      rcases Bool.or_eq_true_iff.mp either with a | an
      · exact Tape.forward_of_isWord a
      · exact Tape.forward_of_isWord an
    next => cases found

theorem nounRule_mem (kind : Kind) : kind.nounRule ∈ constituents := by
  cases kind <;> decide

variable {reader : Reader}

theorem final_iff {state : State} :
    (machine reader).Final state ↔ state = .succeeded ∨ state = .failed := by
  simp [Machine.Final, machine]

theorem readInto_done {rule : Rule} {slot : Slot} {found missing : State} {tape : Tape}
    {parts : Parts} {next : Stage State Parts} {events : List Event}
    (stepped : readInto reader rule slot found missing tape parts = .done next events) :
    (∃ tree rest, Reads (reader rule) tape tree rest ∧
      next = ⟨found, rest, (parts.push tree).mergeInto slot⟩) ∨
    (Misses (reader rule) tape ∧ next = ⟨missing, tape, parts⟩) := by
  rcases reads_or_misses_of_bind stepped with
    ⟨tree, rest, _, reads, followed⟩ | ⟨_, _, _, misses, followed⟩
  · cases followed
    exact .inl ⟨tree, rest, reads, rfl⟩
  · cases followed
    exact .inr ⟨misses, rfl⟩

theorem readAdjectives_transition {state : State} {kind : Kind} {tape : Tape} {parts : Parts}
    (opening : Opening tape state kind) {next : Stage State Parts} {events : List Event}
    (stepped : readAdjectives reader kind tape parts = .done next events) :
    Transition reader ⟨state, tape, parts⟩ next := by
  rcases readInto_done stepped with ⟨tree, rest, reads, rfl⟩ | ⟨misses, rfl⟩
  · exact .adjectives opening reads
  · exact .noAdjectives opening misses

theorem transition_of_steps {stage next : Stage State Parts}
    (steps : (machine reader).Steps stage next) : Transition reader stage next := by
  obtain ⟨state, tape, parts⟩ := stage
  obtain ⟨running, step, events, handled, stepped⟩ := steps
  cases state with
  | start =>
      cases handled
      simp only [begin] at stepped
      split at stepped
      next none => exact readAdjectives_transition (.undetermined none) stepped
      next determiner found =>
        obtain ⟨rest, passed⟩ := forward_of_determiner found
        rw [passed] at stepped
        cases stepped
        exact .determiner found passed
  | adjectives determiner =>
      cases handled
      exact readAdjectives_transition (.determined determiner) stepped
  | noun kind =>
      cases handled
      rcases readInto_done stepped with ⟨tree, rest, reads, rfl⟩ | ⟨misses, rfl⟩
      · exact .noun reads
      · exact .noNoun misses
  | phrases kind =>
      cases handled
      rcases readInto_done stepped with ⟨tree, rest, reads, rfl⟩ | ⟨misses, rfl⟩
      · exact .phrase reads
      · exact .noPhrase misses
  | succeeded => cases handled
  | failed => cases handled

theorem steps_of_stepped {stage next : Stage State Parts} {step : Step}
    (handled : handler reader stage.state = some step)
    (stepped : ∃ events, step stage.tape stage.gathered = .done next events) :
    (machine reader).Steps stage next := by
  obtain ⟨events, done⟩ := stepped
  refine ⟨?_, step, events, handled, done⟩
  intro final
  rcases final_iff.mp final with same | same <;> rw [same] at handled <;> cases handled

theorem opening_steps {state : State} {kind : Kind} {tape : Tape} {parts : Parts}
    {next : Stage State Parts} (opening : Opening tape state kind)
    (stepped : ∃ events, readAdjectives reader kind tape parts = .done next events) :
    (machine reader).Steps ⟨state, tape, parts⟩ next := by
  cases opening with
  | undetermined none =>
      apply steps_of_stepped rfl
      simp only [begin, none]
      exact stepped
  | determined determiner => exact steps_of_stepped rfl stepped

theorem steps_of_transition {stage next : Stage State Parts}
    (transition : Transition reader stage next) : (machine reader).Steps stage next := by
  cases transition with
  | determiner found passed =>
      apply steps_of_stepped rfl
      simp only [begin, found, passed]
      exact ⟨[], rfl⟩
  | adjectives opening reads => exact opening_steps opening (reads.bind rfl)
  | noAdjectives opening misses => exact opening_steps opening (misses.bind fun _ _ => rfl)
  | noun reads => exact steps_of_stepped rfl (reads.bind rfl)
  | noNoun misses => exact steps_of_stepped rfl (misses.bind fun _ _ => rfl)
  | phrase reads => exact steps_of_stepped rfl (reads.bind rfl)
  | noPhrase misses => exact steps_of_stepped rfl (misses.bind fun _ _ => rfl)

theorem opening_transition {state : State} {kind : Kind} {tape : Tape} (parts : Parts)
    {good : Outcome → Prop} (opening : Opening tape state kind)
    (ends : (reader .adjective tape).Ends good) :
    ∃ next, Transition reader ⟨state, tape, parts⟩ next := by
  rcases reads_or_misses ends with ⟨tree, rest, reads⟩ | misses
  · exact ⟨_, .adjectives opening reads⟩
  · exact ⟨_, .noAdjectives opening misses⟩

theorem transition_exists {stage : Stage State Parts} {good : Outcome → Prop}
    (ends : ∀ rule ∈ constituents, (reader rule stage.tape).Ends good)
    (running : ¬ (machine reader).Final stage.state) :
    ∃ next, Transition reader stage next := by
  obtain ⟨state, tape, parts⟩ := stage
  cases state with
  | start =>
      cases found : determiner? tape with
      | none => exact opening_transition parts (.undetermined found) (ends _ (by decide))
      | some determiner =>
          obtain ⟨rest, passed⟩ := forward_of_determiner found
          exact ⟨_, .determiner found passed⟩
  | adjectives determiner =>
      exact opening_transition parts (.determined determiner) (ends _ (by decide))
  | noun kind =>
      rcases reads_or_misses (ends _ (nounRule_mem kind)) with ⟨tree, rest, reads⟩ | misses
      · exact ⟨_, .noun reads⟩
      · exact ⟨_, .noNoun misses⟩
  | phrases kind =>
      rcases reads_or_misses (ends .prepAdjectivalPhrase (by decide)) with
        ⟨tree, rest, reads⟩ | misses
      · exact ⟨_, .phrase reads⟩
      · exact ⟨_, .noPhrase misses⟩
  | succeeded => exact absurd (final_iff.mpr (.inl rfl)) running
  | failed => exact absurd (final_iff.mpr (.inr rfl)) running

/-- How often a run may still go on without reading: once, as long as the adjectives are to come. -/
def State.credit : State → Nat
  | .start | .adjectives _ => 1
  | _ => 0

theorem Opening.credit {tape : Tape} {state : State} {kind : Kind}
    (opening : Opening tape state kind) : state.credit = 1 := by
  cases opening <;> rfl

/-- A step that reads nothing ends the clause, or passes over missing adjectives. -/
theorem Transition.advances {stage next : Stage State Parts}
    (transition : Transition reader stage next)
    (keeps : ∀ rule ∈ constituents, (reader rule stage.tape).Ends (Outcome.Kept stage.tape)) :
    stage.tape.Ahead next.tape ∧ next.state.credit ≤ stage.state.credit ∨
      next.tape = stage.tape ∧
        ((machine reader).Final next.state ∨ next.state.credit < stage.state.credit) := by
  cases transition with
  | determiner found passed => exact .inl ⟨Tape.forward_ahead passed, Nat.le_refl _⟩
  | adjectives opening reads =>
      exact .inl ⟨reads.ahead (keeps _ (by decide)), Nat.zero_le _⟩
  | noAdjectives opening misses =>
      exact .inr ⟨rfl, .inr (by rw [opening.credit]; exact Nat.one_pos)⟩
  | noun reads => exact .inl ⟨reads.ahead (keeps _ (nounRule_mem _)), Nat.le_refl _⟩
  | noNoun misses => exact .inr ⟨rfl, .inl (final_iff.mpr (.inr rfl))⟩
  | phrase reads => exact .inl ⟨reads.ahead (keeps _ (by decide)), Nat.le_refl _⟩
  | noPhrase misses => exact .inr ⟨rfl, .inl (final_iff.mpr (.inl rfl))⟩

def size (stage : Stage State Parts) : Nat :=
  if stage.state = .succeeded ∨ stage.state = .failed then 0
  else stage.tape.remaining.length + stage.state.credit + 1

theorem Transition.size_lt {stage next : Stage State Parts}
    (transition : Transition reader stage next)
    (keeps : ∀ rule ∈ constituents, (reader rule stage.tape).Ends (Outcome.Kept stage.tape))
    (running : ¬ (machine reader).Final stage.state) : size next < size stage := by
  rw [final_iff] at running
  by_cases final : next.state = .succeeded ∨ next.state = .failed
  · simp only [size, if_pos final, if_neg running]
    exact Nat.succ_pos _
  · simp only [size, if_neg final, if_neg running]
    rcases transition.advances keeps with ⟨ahead, credit⟩ | ⟨same, ended | credit⟩
    · have shorter := ahead.remaining_lt
      omega
    · exact absurd (final_iff.mp ended) final
    · rw [same]
      omega

def State.hasNoun : State → Bool
  | .phrases _ | .succeeded => true
  | _ => false

/-- A run that began at `home` has not gone back behind it, and is ahead once it has its noun. -/
structure Underway (home : Tape) (stage : Stage State Parts) : Prop where
  within : home.Within stage.tape
  ahead : stage.state.hasNoun = true → home.Ahead stage.tape

theorem Transition.underway {home : Tape} {stage next : Stage State Parts}
    (transition : Transition reader stage next) (underway : Underway home stage)
    (advance : ∀ rule ∈ constituents, ∀ tree rest,
      Reads (reader rule) stage.tape tree rest → stage.tape.Ahead rest) :
    Underway home next := by
  have forth : stage.tape.Ahead next.tape → Underway home next := by
    intro ahead
    have further := underway.within.trans_ahead ahead
    exact ⟨further.within, fun _ => further⟩
  cases transition with
  | determiner found passed => exact forth (Tape.forward_ahead passed)
  | adjectives opening reads => exact forth (advance _ (by decide) _ _ reads)
  | noAdjectives opening misses => exact ⟨underway.within, fun noun => by cases noun⟩
  | noun reads => exact forth (advance _ (nounRule_mem _) _ _ reads)
  | noNoun misses => exact ⟨underway.within, fun noun => by cases noun⟩
  | phrase reads => exact forth (advance _ (by decide) _ _ reads)
  | noPhrase misses => exact ⟨underway.within, fun _ => underway.ahead rfl⟩

/-- Between steps no output is left over, and the only noun is the one that the clause keeps. -/
structure Settled (stage : Stage State Parts) : Prop where
  output : stage.gathered.output = []
  nouns : stage.gathered.nouns.length = stage.state.hasNoun.toNat
  adjectives : stage.gathered.adjectives.length + stage.state.credit ≤ 1

theorem Opening.hasNoun {tape : Tape} {state : State} {kind : Kind}
    (opening : Opening tape state kind) : state.hasNoun = false := by
  cases opening <;> rfl

theorem Transition.settled {stage next : Stage State Parts}
    (transition : Transition reader stage next) (settled : Settled stage) : Settled next := by
  obtain ⟨output, nouns, adjectives⟩ := settled
  cases transition with
  | determiner found passed => exact ⟨output, nouns, adjectives⟩
  | @adjectives state kind tape rest tree parts opening reads =>
      simp only [opening.hasNoun, opening.credit] at output nouns adjectives
      have none : parts.adjectives = [] := List.length_eq_zero_iff.mp (by omega)
      refine ⟨rfl, nouns, ?_⟩
      simp [Parts.push, Parts.mergeInto, State.credit, none, output]
  | @noAdjectives state kind tape parts opening misses =>
      simp only [opening.hasNoun, opening.credit] at nouns adjectives
      exact ⟨output, nouns, Nat.le_of_lt adjectives⟩
  | @noun kind tape rest tree parts reads =>
      have none : parts.nouns = [] := List.length_eq_zero_iff.mp nouns
      refine ⟨rfl, ?_, adjectives⟩
      simp only at output
      simp [Parts.push, Parts.mergeInto, State.hasNoun, none, output]
  | noNoun misses => exact ⟨output, nouns, adjectives⟩
  | phrase reads => exact ⟨rfl, nouns, adjectives⟩
  | noPhrase misses => exact ⟨output, nouns, adjectives⟩

theorem settled_of_reaches {home : Tape} {last : Stage State Parts}
    (reaches : (machine reader).Reaches ⟨.start, home, .initial⟩ last) : Settled last :=
  Machine.reaches_keeps (fun _ _ settled steps => (transition_of_steps steps).settled settled)
    (⟨rfl, rfl, Nat.le_refl 1⟩ : Settled ⟨.start, home, .initial⟩) reaches

/-- A clause takes the first noun of those read, and by this it takes them all. -/
theorem nouns_of_reaches {home : Tape} {last : Stage State Parts}
    (reaches : (machine reader).Reaches ⟨.start, home, .initial⟩ last) :
    last.gathered.nouns.head?.toList = last.gathered.nouns := by
  have few : last.gathered.nouns.length ≤ 1 :=
    (settled_of_reaches reaches).nouns ▸ Bool.toNat_le _
  match last.gathered.nouns, few with
  | [], _ => rfl
  | [noun], _ => rfl

section Reading

variable {tape : Tape}
  (keeps : ∀ rule ∈ constituents, ∀ later, tape.Within later →
    (reader rule later).Ends (Outcome.Kept later))

include keeps

theorem read_ends :
    ∃ last, (machine reader).Reaches ⟨.start, tape, .initial⟩ last ∧
      (machine reader).Final last.state ∧ Underway tape last ∧
      (read reader tape).Ends (· = (machine reader).conclude tape last) := by
  apply Machine.drive_ends size
  · intro stage underway running
    have kept := fun rule member => keeps rule member stage.tape underway.within
    obtain ⟨next, transition⟩ := transition_exists kept running
    exact ⟨next, steps_of_transition transition,
      transition.underway underway fun rule member _ _ reads => reads.ahead (kept rule member),
      transition.size_lt kept running⟩
  · exact ⟨.refl tape, fun noun => by cases noun⟩
  · simp [size, State.credit]

theorem read_keeps : (read reader tape).Ends (Outcome.Kept tape) := by
  obtain ⟨last, _, final, underway, ends⟩ := read_ends keeps
  apply ends.mono
  intro outcome concluded
  subst concluded
  apply Machine.conclude_kept
  intro accepts
  have succeeded : last.state = .succeeded := by simpa [machine] using accepts
  exact underway.ahead (by rw [succeeded]; rfl)

theorem stalls_le_credit {stage : Stage State Parts} {stages : List (Stage State Parts)}
    (within : tape.Within stage.tape) (run : (stage :: stages).IsChain (machine reader).Steps) :
    (machine reader).stalls (stage :: stages) ≤ stage.state.credit := by
  induction stages generalizing stage with
  | nil => exact Nat.zero_le _
  | cons next others ih =>
      obtain ⟨steps, onward⟩ := List.isChain_cons_cons.mp run
      have kept := fun rule member => keeps rule member stage.tape within
      rw [Machine.stalls]
      rcases (transition_of_steps steps).advances kept with ⟨ahead, credit⟩ | ⟨same, stays⟩
      · have later := ih (within.trans ahead.within) onward
        rw [if_pos (.inr ahead.position)]
        omega
      · have later := ih (same ▸ within) onward
        rcases stays with final | credit
        -- A final stage has no credit left, whatever the stage before it had.
        · have nothing : next.state.credit = 0 := by
            rcases final_iff.mp final with done | done <;> rw [done] <;> rfl
          rw [if_pos (.inl final)]
          omega
        · split <;> omega

end Reading

section Refinement

variable {early late : Reader}

theorem readInto_refines
    (refines : ∀ rule tape, Run.Refines (early rule tape) (late rule tape))
    (rule : Rule) (slot : Slot) (found missing : State) (tape : Tape) (parts : Parts) :
    Run.Refines (readInto early rule slot found missing tape parts)
      (readInto late rule slot found missing tape parts) :=
  (refines rule tape).bind_left _

theorem handler_refines (refines : ∀ rule tape, Run.Refines (early rule tape) (late rule tape))
    (state : State) :
    Option.Rel (fun step later => ∀ tape parts,
        Run.Refines (step tape parts) (later tape parts))
      (handler early state) (handler late state) := by
  cases state with
  | start =>
      apply Option.Rel.some
      intro tape parts
      simp only [begin]
      split
      · exact readInto_refines refines _ _ _ _ tape parts
      · exact .refl _
  | adjectives determiner => exact .some (readInto_refines refines _ _ _ _)
  | noun kind => exact .some (readInto_refines refines _ _ _ _)
  | phrases kind => exact .some (readInto_refines refines _ _ _ _)
  | succeeded => exact .none
  | failed => exact .none

theorem read_refines (refines : ∀ rule tape, Run.Refines (early rule tape) (late rule tape))
    (tape : Tape) : Run.Refines (read early tape) (read late tape) :=
  Machine.drive_refines (machine early) (machine late) tape rfl (handler_refines refines) _ _

end Refinement

end Constituency.NounClause
