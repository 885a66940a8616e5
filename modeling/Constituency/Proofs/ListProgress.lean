import Constituency.Proofs.ListTransitions

namespace Constituency.Coordination

variable {style : Style} {item : Tape → Run Outcome}

theorem Transition.advances {stage next : Stage State Progress}
    (transition : Transition style item stage next)
    (keeps : (item stage.tape).Ends (Outcome.Kept stage.tape))
    (running : ¬ (machine style item).Final next.state) : stage.tape.Ahead next.tape := by
  cases transition with
  | first reads => exact reads.ahead keeps
  | nothing misses => exact absurd failed_final running
  | secondSpaced spaced reads => exact reads.ahead keeps
  | firstComma unspaced comma => exact comma.ahead
  | firstJoint unspaced usable found => exact found.ahead
  | alone unspaced bare optional => exact absurd single_final running
  | second reads => exact reads.ahead keeps
  | laterComma comma => exact comma.ahead
  | laterJoint usable found => exact found.ahead
  | unjoined bare lenient => exact absurd joined_final running
  | serialJoint usable found => exact found.ahead
  | later noJoint reads => exact reads.ahead keeps
  | last noJoint reads => exact reads.ahead keeps
  | spaced reads => exact reads.ahead keeps
  | spacedEnd misses => exact absurd joined_final running
  | stop breaks => exact absurd (stop_final _ _) running

/-- A run that began at `home` has not gone back behind it, and once it has read an item it is
ahead, as is the tape saved for falling back. -/
structure Underway (home : Tape) (stage : Stage State Progress) : Prop where
  within : home.Within stage.tape
  ahead : stage.state = .firstItem ∨ stage.state = .failed ∨ home.Ahead stage.tape
  saved : ∀ rest, stage.gathered.afterFirst = some rest → home.Ahead rest

theorem Underway.initial (home : Tape) (conjunction : Option Conjunction) :
    Underway home ⟨.firstItem, home, .initial conjunction⟩ :=
  ⟨.refl home, .inl rfl, fun _ saved => by cases saved⟩

theorem Underway.forth {home : Tape} {stage next : Stage State Progress}
    (underway : Underway home stage) (ahead : stage.tape.Ahead next.tape)
    (same : next.gathered.afterFirst = stage.gathered.afterFirst) : Underway home next := by
  have further := underway.within.trans_ahead ahead
  refine ⟨further.within, .inr (.inr further), ?_⟩
  rw [same]
  exact underway.saved

theorem Underway.stop {home tape : Tape} {state : State} {progress : Progress}
    (underway : Underway home ⟨state, tape, progress⟩) : Underway home (stop tape progress) := by
  unfold Coordination.stop
  split
  next rest saved =>
    have ahead := underway.saved rest saved
    exact ⟨ahead.within, .inr (.inr ahead), fun _ saved => by cases saved⟩
  next => exact ⟨underway.within, .inr (.inl rfl), underway.saved⟩

theorem Underway.rest {home tape : Tape} {state last : State} {progress : Progress}
    (underway : Underway home ⟨state, tape, progress⟩)
    (begun : state ≠ .firstItem) (unfailed : state ≠ .failed) :
    Underway home ⟨last, tape, progress⟩ := by
  rcases underway.ahead with same | same | ahead
  · exact absurd same begun
  · exact absurd same unfailed
  · exact ⟨underway.within, .inr (.inr ahead), underway.saved⟩

theorem Transition.underway {home : Tape} {stage next : Stage State Progress}
    (transition : Transition style item stage next) (underway : Underway home stage)
    (advance : ∀ tree rest, Reads item stage.tape tree rest → stage.tape.Ahead rest) :
    Underway home next := by
  cases transition with
  | @first tape rest tree progress reads =>
      have further := underway.within.trans_ahead (advance _ _ reads)
      refine ⟨further.within, .inr (.inr further), ?_⟩
      intro saved found
      simp only at found
      split at found
      · cases found
        exact further
      · exact underway.saved saved found
  | nothing misses => exact ⟨underway.within, .inr (.inl rfl), underway.saved⟩
  | secondSpaced spaced reads => exact underway.forth (advance _ _ reads) rfl
  | firstComma unspaced comma => exact underway.forth comma.ahead rfl
  | firstJoint unspaced usable found => exact underway.forth found.ahead rfl
  | alone unspaced bare optional => exact underway.rest (by decide) (by decide)
  | second reads => exact underway.forth (advance _ _ reads) rfl
  | laterComma comma => exact underway.forth comma.ahead rfl
  | laterJoint usable found => exact underway.forth found.ahead rfl
  | unjoined bare lenient => exact underway.rest (by decide) (by decide)
  | serialJoint usable found => exact underway.forth found.ahead rfl
  | later noJoint reads => exact underway.forth (advance _ _ reads) rfl
  | last noJoint reads => exact underway.forth (advance _ _ reads) rfl
  | spaced reads => exact underway.forth (advance _ _ reads) rfl
  | spacedEnd misses => exact underway.rest (by decide) (by decide)
  | stop breaks => exact underway.stop

def size (stage : Stage State Progress) : Nat :=
  if stage.state = .single ∨ stage.state = .joined ∨ stage.state = .failed then 0
  else stage.tape.remaining.length + 1

theorem Transition.size_lt {stage next : Stage State Progress}
    (transition : Transition style item stage next)
    (keeps : (item stage.tape).Ends (Outcome.Kept stage.tape))
    (running : ¬ (machine style item).Final stage.state) : size next < size stage := by
  rw [final_iff] at running
  by_cases final : next.state = .single ∨ next.state = .joined ∨ next.state = .failed
  · simp only [size, if_pos final, if_neg running]
    exact Nat.succ_pos _
  · have shorter := (transition.advances keeps (mt final_iff.mp final)).remaining_lt
    simp only [size, if_neg final, if_neg running]
    omega

section Reading

variable {conjunction : Option Conjunction} {tape : Tape}

theorem read_ends
    (keeps : ∀ later, tape.Within later → (item later).Ends (Outcome.Kept later)) :
    ∃ last, (machine style item).Reaches ⟨.firstItem, tape, .initial conjunction⟩ last ∧
      (machine style item).Final last.state ∧ Underway tape last ∧
      (read style conjunction item tape).Ends (· = (machine style item).conclude tape last) := by
  apply Machine.drive_ends size
  · intro stage underway running
    have kept := keeps stage.tape underway.within
    obtain ⟨next, transition⟩ := transition_exists kept running
    exact ⟨next, steps_of_transition transition,
      transition.underway underway fun _ _ reads => reads.ahead kept,
      transition.size_lt kept running⟩
  · exact .initial tape conjunction
  · simp [size]

theorem read_keeps
    (keeps : ∀ later, tape.Within later → (item later).Ends (Outcome.Kept later)) :
    (read style conjunction item tape).Ends (Outcome.Kept tape) := by
  obtain ⟨last, _, final, underway, ends⟩ := read_ends keeps
  apply ends.mono
  intro outcome concluded
  subst concluded
  apply Machine.conclude_kept
  intro accepts
  rcases underway.ahead with same | same | ahead
  · simp [machine, same] at accepts
  · simp [machine, same] at accepts
  · exact ahead

end Reading

section Refinement

variable {early late : Tape → Run Outcome}

theorem takeItem_refines (refines : ∀ tape, Run.Refines (early tape) (late tape)) (tape : Tape)
    (progress : Progress) :
    Run.Refines (takeItem early tape progress) (takeItem late tape progress) :=
  (refines tape).bind_left _

theorem requireItem_refines (refines : ∀ tape, Run.Refines (early tape) (late tape))
    (state : State) (tape : Tape) (progress : Progress) :
    Run.Refines (requireItem early state tape progress)
      (requireItem late state tape progress) :=
  (takeItem_refines refines tape progress).bind_left _

theorem handler_refines (refines : ∀ tape, Run.Refines (early tape) (late tape)) (state : State) :
    Option.Rel (fun step later => ∀ tape progress,
        Run.Refines (step tape progress) (later tape progress))
      (handler style early state) (handler style late state) := by
  cases state with
  | firstItem =>
      apply Option.Rel.some
      intro tape progress
      exact (takeItem_refines refines tape progress).bind_left _
  | firstDelimiter =>
      apply Option.Rel.some
      intro tape progress
      simp only [afterFirstItem]
      split
      · exact (takeItem_refines refines tape progress).bind_left _
      · exact .refl _
  | secondItem => exact .some (requireItem_refines refines _)
  | laterDelimiter => exact .some fun _ _ => .refl _
  | laterItem =>
      apply Option.Rel.some
      intro tape progress
      simp only [readLaterItem]
      split
      · exact .refl _
      · exact requireItem_refines refines _ tape progress
  | lastItem =>
      apply Option.Rel.some
      intro tape progress
      simp only [readLastItem]
      split
      · exact .refl _
      · exact requireItem_refines refines _ tape progress
  | spacedItem =>
      apply Option.Rel.some
      intro tape progress
      exact (takeItem_refines refines tape progress).bind_left _
  | single => exact .none
  | joined => exact .none
  | failed => exact .none

theorem read_refines (refines : ∀ tape, Run.Refines (early tape) (late tape))
    (conjunction : Option Conjunction) (tape : Tape) :
    Run.Refines (read style conjunction early tape) (read style conjunction late tape) :=
  Machine.drive_refines (machine style early) (machine style late) tape rfl
    (handler_refines refines) _ _

end Refinement

end Constituency.Coordination
