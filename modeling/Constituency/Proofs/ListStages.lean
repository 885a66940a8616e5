import Constituency.Proofs.ListRules

namespace Constituency

def listRuleFor : Option Conjunction → Rule
  | some joint => joint.listRule
  | none => .compound

namespace Coordination

open Grammar

/-- How the rule for this conjunction reads its lists. Only a rule with a conjunction of its own can
refuse a lone item, and only the rule without one falls back to the first item. -/
def ruleStyle (config : Config) (conjunction : Option Conjunction) : Style :=
  listStyle config (conjunction.isSome && config.flags.requireList) conjunction.isNone

theorem recognize_eq_read {item : Rule} {config : Config} (conjunction : Option Conjunction)
    (given : config.itemRule = some item) (plain : item.isList = false) (tape : Tape) :
    (listRuleFor conjunction).recognize config tape = (do
      let outcome ← read (ruleStyle config conjunction) conjunction
        (item.recognize config.forItems) tape
      Run.emit (.finished (listRuleFor conjunction) tape.position outcome.tape.position
        outcome.succeeded)
      pure outcome) := by
  rw [Rule.recognize_eq_once (Config.suits_of_item given plain _)]
  cases conjunction with
  | none =>
      simp only [once, listRuleFor, body, list_eq given]
      rfl
  | some joint =>
      cases joint with
      | and | or =>
          simp only [once, listRuleFor, Conjunction.listRule, body, list_eq given]
          rfl

def State.Admits : State → Nat → Prop
  | .firstItem, count => count = 0
  | .firstDelimiter, count | .secondItem, count | .single, count => count = 1
  | .lastItem, count => 1 ≤ count
  | .laterDelimiter, count | .laterItem, count | .spacedItem, count | .joined, count => 2 ≤ count
  | .failed, _ => True

section Runs

variable (style : Style) (allowed : Option Conjunction) (item : Tape → Run Outcome) (home : Tape)

def Visited (stage : Stage State Progress) : Prop :=
  (machine style item).Reaches ⟨.firstItem, home, .initial allowed⟩ stage

/-- A run from `home` comes to this stage by giving its list up. -/
def Stopped (stage : Stage State Progress) : Prop :=
  ∃ before, Visited style allowed item home before ∧ (machine style item).Steps before stage ∧
    stage = stop before.tape before.gathered

structure Joins (joint : Conjunction) (stage next : Stage State Progress) : Prop where
  last : next.state = .lastItem
  found : Joint joint stage.tape next.tape

def Joined (stage : Stage State Progress) : Prop :=
  ∃ joint before after, Visited style allowed item home before ∧
    (machine style item).Steps before after ∧ Joins joint before after ∧
    (machine style item).Reaches after stage

structure Invariant (stage : Stage State Progress) : Prop where
  count : stage.state.Admits stage.gathered.items.length
  saved : ∀ rest, stage.gathered.afterFirst = some rest ↔
    style.fallback = true ∧ stage.state ≠ .firstItem ∧ (∃ first, Reads item home first rest) ∧
      ¬ Stopped style allowed item home stage
  undecided : stage.gathered.conjunction = none ↔
    allowed = none ∧ ¬ Joined style allowed item home stage
  decided : stage.state = .lastItem → stage.gathered.conjunction.isSome = true
  /-- A list with any conjunction fails only for want of a first item. -/
  failed : allowed = none → stage.state = .failed → ∀ before,
    Visited style allowed item home before → (machine style item).Steps before stage →
    before.state = .firstItem
  /-- With a conjunction of its own, a list is a lone item only if no delimiter follows that. -/
  single : allowed ≠ none → stage.state = .single → ∀ before,
    Visited style allowed item home before → (machine style item).Steps before stage →
    before.state = .firstDelimiter
  passes : ∀ usable found, delimiter? usable stage.tape = some found → ∃ rest,
    ∀ target progress, skipTo target stage.tape progress = ⟨target, rest, progress⟩
  lone : stage.state = .single → ∃ tree, stage.gathered.items = [tree] ∧
    finish stage.state stage.gathered = tree

end Runs

variable {style : Style} {allowed : Option Conjunction} {item : Tape → Run Outcome} {home : Tape}
  {stage next : Stage State Progress}

theorem stop_state_ne {state : State} (single : state ≠ .single) (failed : state ≠ .failed)
    (tape : Tape) (progress : Progress) : (stop tape progress).state ≠ state := by
  unfold stop
  split
  · exact single.symm
  · exact failed.symm

theorem stop_failed_iff (tape : Tape) (progress : Progress) :
    (stop tape progress).state = .failed ↔ progress.afterFirst = none := by
  unfold stop
  split
  next saved => simp [saved]
  next nothing => simp [nothing]

theorem stop_forgets (tape : Tape) (progress : Progress) :
    (stop tape progress).gathered.afterFirst = none := by
  unfold stop
  split
  next => rfl
  next nothing => exact nothing

theorem stop_conjunction (tape : Tape) (progress : Progress) :
    (stop tape progress).gathered.conjunction = progress.conjunction := by
  unfold stop
  split <;> rfl

theorem stop_admits {tape : Tape} {progress : Progress} (some : 1 ≤ progress.items.length) :
    (stop tape progress).state.Admits (stop tape progress).gathered.items.length := by
  unfold stop
  split
  next =>
    simp only [State.Admits, List.length_take]
    omega
  next => trivial

theorem push_length (progress : Progress) (tree : Tree) :
    (progress.push tree).items.length = progress.items.length + 1 :=
  List.length_append

theorem Transition.admits (transition : Transition style item stage next)
    (count : stage.state.Admits stage.gathered.items.length) :
    next.state.Admits next.gathered.items.length := by
  cases transition with
  | first reads | secondSpaced spaced reads | second reads | later noJoint reads
  | last noJoint reads | spaced reads =>
      simp only [State.Admits, push_length] at count ⊢
      omega
  | firstComma unspaced comma | alone unspaced bare optional | laterComma comma
  | unjoined bare lenient | spacedEnd misses => exact count
  | firstJoint unspaced usable found | laterJoint usable found | serialJoint usable found =>
      simp only [State.Admits] at count ⊢
      omega
  | nothing misses => trivial
  | stop breaks =>
      apply stop_admits
      cases breaks <;> simp only [State.Admits] at count <;> omega

theorem visited_admits (visited : Visited style allowed item home stage) :
    stage.state.Admits stage.gathered.items.length := by
  induction visited with
  | refl => rfl
  | tail _ steps ih => exact (transition_of_steps steps).admits ih

theorem Transition.saved (transition : Transition style item stage next)
    (begun : stage.state ≠ .firstItem) :
    next = Coordination.stop stage.tape stage.gathered ∨
      next.gathered.afterFirst = stage.gathered.afterFirst := by
  cases transition with
  | first reads | nothing misses => exact absurd rfl begun
  | stop breaks => exact .inl rfl
  | _ => exact .inr rfl

theorem Transition.begun (transition : Transition style item stage next) :
    next.state ≠ .firstItem := by
  cases transition with
  | stop breaks => exact stop_state_ne (by decide) (by decide) _ _
  | _ => exact State.noConfusion

theorem Transition.conjunction (transition : Transition style item stage next) :
    (∃ joint, Joins joint stage next ∧ next.gathered.conjunction = some joint) ∨
      next.state ≠ .lastItem ∧ next.gathered.conjunction = stage.gathered.conjunction := by
  cases transition with
  | firstJoint unspaced usable found | laterJoint usable found | serialJoint usable found =>
      exact .inl ⟨_, ⟨rfl, found⟩, rfl⟩
  | stop breaks =>
      exact .inr ⟨stop_state_ne (by decide) (by decide) _ _, stop_conjunction _ _⟩
  | _ => exact .inr ⟨State.noConfusion, rfl⟩

theorem Stopped.final (stopped : Stopped style allowed item home stage) :
    (machine style item).Final stage.state := by
  obtain ⟨before, _, _, rfl⟩ := stopped
  exact stop_final _ _

theorem Stopped.forgets (stopped : Stopped style allowed item home stage) :
    stage.gathered.afterFirst = none := by
  obtain ⟨before, _, _, rfl⟩ := stopped
  exact stop_forgets _ _

theorem visited_cases (visited : Visited style allowed item home stage) :
    stage = ⟨.firstItem, home, .initial allowed⟩ ∨
      (Misses item home ∧ stage = ⟨.failed, home, .initial allowed⟩) ∨
      ∃ first after, Reads item home first after ∧ (machine style item).Reaches
        ⟨.firstDelimiter, after, begun style allowed after [first]⟩ stage := by
  rcases Relation.ReflTransGen.cases_head visited with same | ⟨next, steps, reaches⟩
  · exact .inl same.symm
  · refine .inr ?_
    cases transition_of_steps steps with
    | first reads => exact .inr ⟨_, _, reads, reaches⟩
    | nothing misses =>
        exact .inl ⟨misses, Machine.eq_of_final_reaches failed_final reaches⟩
    | stop breaks => cases breaks

theorem saved_or_stopped {first : Tree} {after : Tape} (reads : Reads item home first after)
    (reaches : (machine style item).Reaches
      ⟨.firstDelimiter, after, begun style allowed after [first]⟩ stage) :
    stage.state ≠ .firstItem ∧ (Stopped style allowed item home stage ∨
      stage.gathered.afterFirst = if style.fallback then some after else none) := by
  induction reaches with
  | refl => exact ⟨State.noConfusion, .inr rfl⟩
  | @tail before stage reached steps ih =>
      obtain ⟨begun, kept⟩ := ih
      have transition := transition_of_steps steps
      refine ⟨transition.begun, ?_⟩
      rcases kept with stopped | saved
      · exact absurd stopped.final steps.1
      · rcases transition.saved begun with gone | same
        · exact .inl ⟨before, (reaches_first reads).trans reached, steps, gone⟩
        · exact .inr (same.trans saved)

theorem saved_iff (visited : Visited style allowed item home stage) (rest : Tape) :
    stage.gathered.afterFirst = some rest ↔
      style.fallback = true ∧ stage.state ≠ .firstItem ∧ (∃ first, Reads item home first rest) ∧
        ¬ Stopped style allowed item home stage := by
  rcases visited_cases visited with rfl | ⟨misses, rfl⟩ | ⟨first, after, reads, reaches⟩
  · constructor
    · intro saved
      cases saved
    · rintro ⟨_, begun, _⟩
      exact absurd rfl begun
  · constructor
    · intro saved
      cases saved
    · rintro ⟨_, _, ⟨first, reads⟩, _⟩
      exact absurd misses reads.not_misses
  · obtain ⟨begun, kept⟩ := saved_or_stopped reads reaches
    constructor
    · intro saved
      have going : ¬ Stopped style allowed item home stage := by
        intro stopped
        cases stopped.forgets.symm.trans saved
      have stored := (kept.resolve_left going).symm.trans saved
      split at stored
      next fallback =>
        cases stored
        exact ⟨fallback, begun, ⟨first, reads⟩, going⟩
      next => cases stored
    · rintro ⟨fallback, _, ⟨other, again⟩, going⟩
      obtain ⟨_, rfl⟩ := reads.unique again
      rw [kept.resolve_left going, if_pos fallback]

theorem settled_of_reaches (reaches : (machine style item).Reaches stage next)
    (settled : stage.gathered.conjunction.isSome = true) :
    next.gathered.conjunction.isSome = true := by
  induction reaches with
  | refl => exact settled
  | tail _ steps ih =>
      rcases (transition_of_steps steps).conjunction with ⟨joint, _, chosen⟩ | ⟨_, same⟩
      · rw [chosen]
        rfl
      · rw [same]
        exact ih

theorem Joined.settled (joined : Joined style allowed item home stage) :
    stage.gathered.conjunction.isSome = true := by
  obtain ⟨joint, before, after, _, steps, joins, reaches⟩ := joined
  apply settled_of_reaches reaches
  rcases (transition_of_steps steps).conjunction with ⟨joint, _, chosen⟩ | ⟨elsewhere, _⟩
  · rw [chosen]
    rfl
  · exact absurd joins.last elsewhere

theorem undecided_iff (visited : Visited style allowed item home stage) :
    stage.gathered.conjunction = none ↔
      allowed = none ∧ ¬ Joined style allowed item home stage := by
  constructor
  · intro undecided
    have unsettled : ¬ stage.gathered.conjunction.isSome = true := by simp [undecided]
    refine ⟨?_, fun joined => unsettled joined.settled⟩
    cases allowed with
    | none => rfl
    | some joint => exact absurd (settled_of_reaches visited rfl) unsettled
  · rintro ⟨rfl, apart⟩
    induction visited with
    | refl => rfl
    | @tail before stage reached steps ih =>
        rcases (transition_of_steps steps).conjunction with ⟨joint, joins, _⟩ | ⟨_, same⟩
        · exact absurd ⟨joint, before, stage, reached, steps, joins, .refl⟩ apart
        · rw [same]
          apply ih
          rintro ⟨joint, earlier, after, visited, joining, joins, reaches⟩
          exact apart ⟨joint, earlier, after, visited, joining, joins, reaches.tail steps⟩

theorem decided_last (visited : Visited style allowed item home stage)
    (last : stage.state = .lastItem) : stage.gathered.conjunction.isSome = true := by
  rcases Relation.ReflTransGen.cases_tail visited with same | ⟨before, _, steps⟩
  · cases same
    cases last
  · rcases (transition_of_steps steps).conjunction with ⟨joint, _, chosen⟩ | ⟨elsewhere, _⟩
    · rw [chosen]
      rfl
    · exact absurd last elsewhere

theorem Transition.failed (transition : Transition style item stage next)
    (failed : next.state = .failed) :
    stage.state = .firstItem ∨ stage.gathered.afterFirst = none := by
  cases transition with
  | nothing misses => exact .inl rfl
  | stop breaks => exact .inr ((stop_failed_iff _ _).mp failed)
  | _ => cases failed

theorem Transition.single (transition : Transition style item stage next)
    (single : next.state = .single) :
    stage.state = .firstDelimiter ∨ stage.gathered.afterFirst ≠ none := by
  cases transition with
  | alone unspaced bare optional => exact .inl rfl
  | stop breaks =>
      refine .inr ?_
      intro nothing
      cases single.symm.trans ((stop_failed_iff _ _).mpr nothing)
  | _ => cases single

theorem saved_midway (visited : Visited style allowed item home stage)
    (steps : (machine style item).Steps stage next) (begun : stage.state ≠ .firstItem)
    (fallback : style.fallback = true) : stage.gathered.afterFirst ≠ none := by
  rcases visited_cases visited with rfl | ⟨_, rfl⟩ | ⟨first, after, reads, reaches⟩
  · exact absurd rfl begun
  · exact absurd failed_final steps.1
  · rcases (saved_or_stopped reads reaches).2 with stopped | saved
    · exact absurd stopped.final steps.1
    · simp [saved, fallback]

theorem delimiter_skips {usable : Option Conjunction} {tape : Tape} {found : Delimiter}
    (stands : delimiter? usable tape = some found) :
    ∃ rest, ∀ target progress, skipTo target tape progress = ⟨target, rest, progress⟩ := by
  cases found with
  | comma =>
      obtain ⟨rest, comma⟩ := comma_of_isToken (delimiter_eq_comma_iff.mp stands)
      exact ⟨rest, fun _ _ => skipTo_eq comma.passed⟩
  | conjunction joint =>
      obtain ⟨rest, passed⟩ := joint_of_isWord (delimiter_eq_conjunction_iff.mp stands).2
      exact ⟨rest, fun _ _ => skipTo_eq passed.passed⟩

theorem invariant_of_visited (falls : style.fallback = allowed.isNone)
    (visited : Visited style allowed item home stage) :
    Invariant style allowed item home stage := by
  have count := visited_admits visited
  refine ⟨count, saved_iff visited, undecided_iff visited, decided_last visited, ?_, ?_,
    fun _ _ => delimiter_skips, ?_⟩
  · intro any failed before reached steps
    rcases (transition_of_steps steps).failed failed with first | nothing
    · exact first
    · by_contra begun
      exact saved_midway reached steps begun (by simp [falls, any]) nothing
  · intro fixed single before reached steps
    rcases (transition_of_steps steps).single single with first | something
    · exact first
    · obtain ⟨rest, saved⟩ := Option.ne_none_iff_exists'.mp something
      have fallback := ((saved_iff reached rest).mp saved).1
      rw [falls, Option.isNone_iff_eq_none] at fallback
      exact absurd fallback fixed
  · intro single
    rw [single] at count
    obtain ⟨tree, alone⟩ := List.length_eq_one_iff.mp count
    refine ⟨tree, alone, ?_⟩
    simp only [finish, single, alone]

/-- A list rule answers what its machine concludes at the end of its run, and every stage on the way
obeys the invariant. -/
theorem listRule_stages (conjunction : Option Conjunction) (item : Rule) (config : Config)
    (tape : Tape) (given : config.itemRule = some item) (plain : item.isList = false) :
    (∃ last events,
      Visited (ruleStyle config conjunction) conjunction (item.recognize config.forItems) tape
        last ∧
      (machine (ruleStyle config conjunction) (item.recognize config.forItems)).Final last.state ∧
      (listRuleFor conjunction).recognize config tape = .done
        ((machine (ruleStyle config conjunction) (item.recognize config.forItems)).conclude tape
          last) events) ∧
    ∀ stage,
      Visited (ruleStyle config conjunction) conjunction (item.recognize config.forItems) tape
        stage →
      Invariant (ruleStyle config conjunction) conjunction (item.recognize config.forItems) tape
        stage := by
  constructor
  · have keeps := fun later (_ : tape.Within later) =>
      Rule.recognize_keeps (config.forItems.suits_of_plain plain) later
    obtain ⟨last, reaches, final, _, ends⟩ := read_ends keeps
    have answers : ((listRuleFor conjunction).recognize config tape).Ends (· =
        (machine (ruleStyle config conjunction) (item.recognize config.forItems)).conclude tape
          last) := by
      rw [recognize_eq_read conjunction given plain]
      apply ends.bind
      intro outcome same
      exact Run.emit_bind_ends (Run.ends_pure same)
    obtain ⟨_, events, done, rfl⟩ := answers
    exact ⟨last, events, reaches, final, done⟩
  · intro stage visited
    exact invariant_of_visited rfl visited

theorem listRule_stages_fallback :
    let config := Config.initial.withItemRule .dummy
    let tape : Tape := ⟨["A", ",", "B", "C"], 0, by decide, by decide⟩
    let items := Rule.dummy.recognize config.forItems
    config.itemRule = some .dummy ∧ Rule.dummy.isList = false ∧ ∃ stage left,
      Visited (ruleStyle config none) none items tape stage ∧ stage.state = .laterDelimiter ∧
      2 ≤ stage.gathered.items.length ∧ stage.gathered.afterFirst = some (tape.seek 1) ∧
      ¬ Stopped (ruleStyle config none) none items tape stage ∧
      Stopped (ruleStyle config none) none items tape left ∧ left.state = .single ∧
      left.gathered.afterFirst = none ∧ left.gathered.items.length = 1 := by
  intro config tape items
  refine ⟨rfl, rfl, ?_⟩
  obtain ⟨_, invariant⟩ := listRule_stages none .dummy config tape rfl rfl
  have first : Reads items tape (.token "A") (tape.seek 1) := ⟨_, rfl⟩
  have second : Reads items (tape.seek 2) (.token "B") (tape.seek 3) := ⟨_, rfl⟩
  have listed : Enumerated (ruleStyle config none) none items tape (.token "A") (tape.seek 1)
      [.token "B"] (tape.seek 3) :=
    .mk ⟨first, fun spaced => by cases spaced⟩ ⟨rfl, rfl⟩ second (.none _)
  let progress := begun (ruleStyle config none) none (tape.seek 1) [.token "A", .token "B"]
  have bare : Bare progress.conjunction (tape.seek 3) := delimiter_eq_none_iff.mp (by decide)
  have visited : Visited (ruleStyle config none) none items tape
      ⟨.laterDelimiter, tape.seek 3, progress⟩ := reaches_enumerated listed
  have gaveUp : (machine (ruleStyle config none) items).Steps
      ⟨.laterDelimiter, tape.seek 3, progress⟩ (stop (tape.seek 3) progress) :=
    breaks_steps (.unjoined bare rfl)
  have stopped : Stopped (ruleStyle config none) none items tape (stop (tape.seek 3) progress) :=
    ⟨_, visited, gaveUp, rfl⟩
  have midway := invariant _ visited
  have ended := invariant _ (visited.tail gaveUp)
  have saved := (midway.saved (tape.seek 1)).mp rfl
  exact ⟨_, _, visited, rfl, midway.count, rfl, saved.2.2.2, stopped, rfl, stopped.forgets,
    ended.count⟩

end Coordination

end Constituency
