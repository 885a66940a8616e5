import Constituency.Proofs.ItemRules
import Constituency.Proofs.OnePassLists

namespace Constituency

open Grammar

def Rule.joint? : Rule → Option Conjunction
  | .compoundAnd => some .and
  | .compoundOr => some .or
  | _ => none

theorem Rule.joint?_eq_none {rule : Rule} (notAnd : rule ≠ .compoundAnd)
    (notOr : rule ≠ .compoundOr) : rule.joint? = none := by
  cases rule <;> first | rfl | exact absurd rfl notAnd | exact absurd rfl notOr

namespace Grammar

/-- The rules that choose their conjunction on the way do not look at whether lists are required. -/
theorem body_ignores_required {call : Caller} {rule : Rule} {left right : Config}
    (calls : ∀ inner first second later, inner.joint? = none → first.forItems = second.forItems →
      call inner first later = call inner second later)
    (same : left.forItems = right.forItems) (free : rule.joint? = none) (tape : Tape) :
    body call rule left tape = body call rule right tape := by
  have lexicon : left.lexicon = right.lexicon := (congrArg Config.lexicon same :)
  have itemRule : left.itemRule = right.itemRule := (congrArg Config.itemRule same :)
  have within (item : Rule) : (left.withItemRule item).forItems
      = (right.withItemRule item).forItems := congrArg (·.withItemRule item) same
  cases rule with
  | dummy => rfl
  | adjective | singularNoun | pluralNoun | preposition | prepWord | transitiveVerb =>
      simp only [body, wordOf, lexicon]
  | compoundAnd | compoundOr => cases free
  | compound =>
      have spaces : left.flags.spaceDelimiters = right.flags.spaceDelimiters :=
        congrArg (·.flags.spaceDelimiters) same
      have commas : left.flags.commasOnly = right.flags.commasOnly :=
        congrArg (·.flags.commasOnly) same
      simp only [body, list, Config.itemRuleFor, itemRule, spaces, commas, same]
  | nounClause =>
      have lists : (fun item => call .compound (left.withItemRule item))
          = fun item => call .compound (right.withItemRule item) := by
        funext item later
        exact calls _ _ _ later rfl (within item)
      simp only [body, lists]
  | objectClause =>
      apply choice_congr
      intro inner member
      have innerFree : inner.joint? = none := by
        revert inner
        decide
      exact calls inner _ _ tape innerFree (within .nounClause)
  | noun | prepAdjectivalPhrase | sentence | subjectClause | verbObjectClause =>
      apply choice_congr
      intro inner member
      have innerFree : inner.joint? = none := by
        revert inner
        decide
      exact calls inner _ _ tape innerFree same
  | prepNounClause | statement | transitiveVerbObjectClause =>
      exact pair_congr _ (calls _ _ _ tape rfl same) fun rest => calls _ _ _ rest rfl same
  | question | command | pronounClause | gerundClause | prepNounPhrase
  | intransitiveVerbObjectClause => rfl

theorem run_ignores_required {rule : Rule} {left right : Config}
    (same : left.forItems = right.forItems) (free : rule.joint? = none) (depth : Nat)
    (tape : Tape) : run depth rule left tape = run depth rule right tape := by
  induction depth generalizing rule left right tape with
  | zero => rfl
  | succ depth ih =>
      have bodies := body_ignores_required
        (fun inner first second later innerFree agree => ih agree innerFree later) same free tape
      simp only [run, bodies]

/-- Runs a rule as `run` does, but refuses every call on behalf of an item, however far in, that is
made while lists are required. -/
def relaxed : Nat → Bool → Caller
  | 0, _, _, _, _ => .fault .exhausted
  | depth + 1, inItem, rule, config, tape =>
    if inItem && config.flags.requireList then .fault .exhausted
    else once (relaxed depth (inItem || rule.isList)) rule config tape

theorem body_congr {early late : Caller} {rule : Rule} {config : Config}
    (calls : ∀ inner settings later,
      (settings.flags.requireList = true → config.flags.requireList = true ∧ rule.isList = false) →
      early inner settings later = late inner settings later) (tape : Tape) :
    body early rule config tape = body late rule config tape := by
  cases rule with
  | dummy | adjective | singularNoun | pluralNoun | preposition | prepWord | transitiveVerb => rfl
  | compoundAnd | compoundOr | compound =>
      have items (item : Rule) : early item config.forItems = late item config.forItems := by
        funext later
        exact calls item _ later fun required => by cases required
      simp only [body, list, items]
  | nounClause =>
      have lists : (fun item => early .compound (config.withItemRule item))
          = fun item => late .compound (config.withItemRule item) := by
        funext item later
        exact calls _ _ later fun required => ⟨required, rfl⟩
      simp only [body, lists]
  | noun | prepAdjectivalPhrase | sentence | subjectClause | verbObjectClause | objectClause =>
      apply choice_congr
      intro inner _
      exact calls inner _ tape fun required => ⟨required, rfl⟩
  | prepNounClause | statement | transitiveVerbObjectClause =>
      exact pair_congr _ (calls _ _ tape fun required => ⟨required, rfl⟩)
        fun rest => calls _ _ rest fun required => ⟨required, rfl⟩
  | question | command | pronounClause | gerundClause | prepNounPhrase
  | intransitiveVerbObjectClause => rfl

theorem relaxed_eq_run {inItem : Bool} {config : Config} (depth : Nat) (rule : Rule) (tape : Tape)
    (dropped : inItem = true → config.flags.requireList = false) :
    relaxed depth inItem rule config tape = run depth rule config tape := by
  induction depth generalizing inItem rule config tape with
  | zero => rfl
  | succ depth ih =>
      have allowed : (inItem && config.flags.requireList) = false := by
        cases inItem with
        | false => rfl
        | true => simp [dropped rfl]
      have bodies : body (relaxed depth (inItem || rule.isList)) rule config tape
          = body (run depth) rule config tape := by
        apply body_congr
        intro inner settings later inherited
        apply ih
        intro within
        by_contra required
        obtain ⟨outer, plain⟩ := inherited ((Bool.not_eq_false _).mp required)
        rw [plain, Bool.or_false] at within
        simp [within, outer] at allowed
      simp only [relaxed, allowed, Bool.false_eq_true, if_false, run_succ, once, bodies]

end Grammar

namespace Coordination

variable {style : Style} {allowed : Option Conjunction} {item : Tape → Run Outcome} {home : Tape}

theorem Transition.required {stage next : Stage State Progress}
    (transition : Transition { style with requireList := false } item stage next)
    (several : next.state ≠ .single) :
    Transition { style with requireList := true } item stage next := by
  cases transition with
  | first reads => exact .first reads
  | nothing misses => exact .nothing misses
  | secondSpaced spaced reads => exact .secondSpaced spaced reads
  | firstComma unspaced comma => exact .firstComma unspaced comma
  | firstJoint unspaced usable found => exact .firstJoint unspaced usable found
  | alone unspaced bare optional => exact absurd rfl several
  | second reads => exact .second reads
  | laterComma comma => exact .laterComma comma
  | laterJoint usable found => exact .laterJoint usable found
  | unjoined bare lenient => exact .unjoined bare lenient
  | serialJoint usable found => exact .serialJoint usable found
  | later noJoint reads => exact .later noJoint reads
  | last noJoint reads => exact .last noJoint reads
  | spaced reads => exact .spaced reads
  | spacedEnd misses => exact .spacedEnd misses
  | stop breaks =>
      apply Transition.stop
      cases breaks with
      | alone unspaced bare required => cases required
      | second misses => exact .second misses
      | unjoined bare strict => exact .unjoined bare strict
      | later noJoint misses => exact .later noJoint misses
      | doubled usable found => exact .doubled usable found
      | last noJoint misses => exact .last noJoint misses

theorem reaches_required (style : Style) {stage last : Stage State Progress}
    (reaches : (machine { style with requireList := false } item).Reaches stage last)
    (several : last.state ≠ .single) :
    (machine { style with requireList := true } item).Reaches stage last := by
  induction reaches with
  | refl => exact .refl
  | @tail middle last before steps ih =>
      have underway : middle.state ≠ .single := by
        intro same
        exact steps.1 (same ▸ single_final)
      have transition := (transition_of_steps steps).required several
      exact (ih underway).tail (steps_of_transition transition)

theorem reaches_refused (style : Style) (strict : style.fallback = false) {tree : Tree}
    {rest : Tape}
    (lone : Lone { style with requireList := false } allowed item home tree rest) :
    ∃ progress, (machine { style with requireList := true } item).Reaches
      ⟨.firstItem, home, .initial allowed⟩ ⟨.failed, rest, progress⟩ := by
  let required : Style := { style with requireList := true }
  have alone : Transition required item
      ⟨.firstDelimiter, rest, begun required allowed rest [tree]⟩
      (stop rest (begun required allowed rest [tree])) :=
    .stop (.alone lone.opened.unspaced lone.bare rfl)
  have stops : stop rest (begun required allowed rest [tree])
      = ⟨.failed, rest, begun required allowed rest [tree]⟩ := by
    simp [stop, begun, required, strict]
  rw [stops] at alone
  exact ⟨_, (reaches_first lone.opened.reads).tail (steps_of_transition alone)⟩

theorem lone_of_single (strict : style.fallback = false) {last : Stage State Progress}
    (reaches : (machine style item).Reaches ⟨.firstItem, home, .initial allowed⟩ last)
    (single : last.state = .single) :
    ∃ tree, Lone style allowed item home tree last.tape ∧
      (machine style item).conclude home last = .matched last.tape tree := by
  cases traced_of_reaches reaches with
  | alone optional lone items => exact ⟨_, lone, conclude_single items⟩
  | fallen fallback reads items => simp [strict] at fallback
  | _ => cases single

section ListRules

variable {joint : Conjunction} {item : Rule} {config : Config} {tape : Tape}
  {last : Stage State Progress}

def jointMachine (config : Config) (item : Rule) : Machine State Progress :=
  machine (listStyle config config.flags.requireList false) (item.recognize config.forItems)

theorem listRule_concludes (config : Config) (given : config.itemRule = some item)
    (plain : item.isList = false)
    (reaches : (jointMachine config item).Reaches ⟨.firstItem, tape, .initial (some joint)⟩ last)
    (final : (jointMachine config item).Final last.state) :
    (joint.listRule.recognize config tape).Ends
      (· = (jointMachine config item).conclude tape last) := by
  have keeps := fun later (_ : tape.Within later) =>
    Rule.recognize_keeps (config.forItems.suits_of_plain plain) later
  apply listRule_ends joint given plain
  obtain ⟨stage, arrives, ended, _, ends⟩ := read_ends keeps
  rw [Machine.reaches_final_unique reaches final arrives ended]
  exact ends

theorem conclude_failed {rest : Tape} {progress : Progress} :
    (jointMachine config item).conclude tape ⟨.failed, rest, progress⟩
      = .missed ("CompoundList stopped in state Failed at token " ++ toString rest.position) tape :=
  rfl

theorem listRule_required (joint : Conjunction) (given : config.itemRule = some item)
    (plain : item.isList = false) (tape : Tape) :
    ∃ last lenient strict events events',
      (jointMachine config.forItems item).Reaches
        ⟨.firstItem, tape, .initial (some joint)⟩ last ∧
      (jointMachine config.forItems item).Final last.state ∧
      joint.listRule.recognize config.forItems tape = .done lenient events ∧
      joint.listRule.recognize config.requiringLists tape = .done strict events' ∧
      (last.state ≠ .single → strict = lenient) ∧
      (last.state = .single →
        (∃ tree, Reads (item.recognize config.forItems) tape tree last.tape ∧
          lenient = .matched last.tape tree) ∧
        strict = .missed
          ("CompoundList stopped in state Failed at token " ++ toString last.tape.position)
          tape) := by
  have keeps := fun later (_ : tape.Within later) =>
    Rule.recognize_keeps (config.forItems.suits_of_plain plain) later
  have ended : ∃ last, (jointMachine config.forItems item).Reaches
        ⟨.firstItem, tape, .initial (some joint)⟩ last ∧
      (jointMachine config.forItems item).Final last.state := by
    obtain ⟨last, reaches, final, _⟩ := read_ends keeps
    exact ⟨last, reaches, final⟩
  obtain ⟨last, reaches, final⟩ := ended
  obtain ⟨lenient, events, done, concluded⟩ :=
    listRule_concludes config.forItems given plain reaches final
  by_cases single : last.state = .single
  · obtain ⟨tree, lone, matched⟩ := lone_of_single rfl reaches single
    obtain ⟨progress, refused⟩ := reaches_refused (listStyle config false false) rfl lone
    obtain ⟨strict, events', missed, because⟩ :=
      listRule_concludes config.requiringLists given plain refused failed_final
    refine ⟨last, lenient, strict, events, events', reaches, final, done, missed,
      fun several => absurd single several, fun _ => ⟨⟨tree, lone.opened.reads, ?_⟩, ?_⟩⟩
    · exact concluded.trans matched
    · exact because.trans conclude_failed
  · have arrives := reaches_required (listStyle config false false) reaches single
    obtain ⟨strict, events', ended, because⟩ :=
      listRule_concludes config.requiringLists given plain arrives final
    exact ⟨last, lenient, strict, events, events', reaches, final, done, ended,
      fun _ => because.trans concluded.symm, fun same => absurd same single⟩

end ListRules

end Coordination

namespace Rule

open Coordination

/-- To require lists makes no difference but to the two rules with a conjunction of their own, and
to these only where the list would have ended with a lone item. No call on behalf of an item is made
while lists are required. -/
theorem recognize_required (rule : Rule) (config : Config) (tape : Tape)
    (suits : config.suits rule = true) :
    (rule ≠ .compoundAnd → rule ≠ .compoundOr → ∃ outcome events,
      rule.recognize config.requiringLists tape = .done outcome events ∧
      rule.recognize config.forItems tape = .done outcome events) ∧
    (∀ joint : Conjunction, rule = joint.listRule → ∀ item, config.itemRule = some item →
      ∃ last lenient strict events events',
        (jointMachine config.forItems item).Reaches
          ⟨.firstItem, tape, .initial (some joint)⟩ last ∧
        (jointMachine config.forItems item).Final last.state ∧
        rule.recognize config.forItems tape = .done lenient events ∧
        rule.recognize config.requiringLists tape = .done strict events' ∧
        (last.state ≠ .single → strict = lenient) ∧
        (last.state = .single →
          (∃ tree, Reads (item.recognize config.forItems) tape tree last.tape ∧
            lenient = .matched last.tape tree) ∧
          strict = .missed ("CompoundList stopped in state Failed at token "
            ++ toString last.tape.position) tape)) ∧
    ∃ outcome events, rule.recognize config tape = .done outcome events ∧
      relaxed (depthFor tape) false rule config tape = .done outcome events := by
  refine ⟨?_, ?_, ?_⟩
  · intro notAnd notOr
    have free := joint?_eq_none notAnd notOr
    have itemSuits : config.forItems.suits rule = true := suits
    obtain ⟨outcome, events, done, _⟩ := recognize_keeps itemSuits tape
    have agree : config.requiringLists.forItems = config.forItems.forItems := rfl
    have same : rule.recognize config.requiringLists tape = rule.recognize config.forItems tape :=
      run_ignores_required agree free _ tape
    exact ⟨outcome, events, same.trans done, done⟩
  · intro joint joined item given
    subst joined
    have listed : joint.listRule.isList = true := by cases joint <;> rfl
    obtain ⟨other, chosen, plain⟩ := Config.item_of_suits listed suits
    cases given.symm.trans chosen
    exact listRule_required joint given plain tape
  · obtain ⟨outcome, events, done, _⟩ := recognize_keeps suits tape
    have same : relaxed (depthFor tape) false rule config tape = rule.recognize config tape :=
      relaxed_eq_run _ _ _ fun inItem => by cases inItem
    exact ⟨outcome, events, done, same.trans done⟩

theorem recognize_required_lone :
    let config := Config.initial.withItemRule .adjective
    let tape : Tape := ⟨["red", "the"], 0, by decide, by decide⟩
    config.suits .compoundAnd = true ∧
    ∃ lenient events events',
      compoundAnd.recognize config.forItems tape = .done lenient events ∧
      lenient.succeeded = true ∧
      compoundAnd.recognize config.requiringLists tape
        = .done (.missed "CompoundList stopped in state Failed at token 1" tape) events' := by
  intro config tape
  refine ⟨rfl, ?_⟩
  let rest : Tape := ⟨["red", "the"], 1, by decide, by decide⟩
  have reads : Reads (adjective.recognize config.forItems) tape
      (.word (.single .adjective) "red") rest := by
    simp only [config, tape, rest]
    exact ⟨_, rfl⟩
  have bare : Bare (some .and) rest := ⟨by decide, noJoint_fixed_iff.mpr (by decide)⟩
  have lone : Lone (listStyle config false false) (some .and)
      (adjective.recognize config.forItems) tape (.word (.single .adjective) "red") rest :=
    ⟨⟨reads, fun spaced => by cases spaced⟩, bare⟩
  obtain ⟨_, lists, _⟩ := recognize_required .compoundAnd config tape rfl
  obtain ⟨last, lenient, strict, events, events', reaches, final, done, missed, _, refused⟩ :=
    lists .and rfl .adjective rfl
  cases Machine.reaches_final_unique (reaches_of_lone rfl lone) single_final reaches final
  obtain ⟨⟨_, _, matched⟩, because⟩ := refused rfl
  have message : "CompoundList stopped in state Failed at token " ++ toString rest.position
      = "CompoundList stopped in state Failed at token 1" := by decide
  subst matched because
  refine ⟨_, events, events', done, rfl, ?_⟩
  rw [← message]
  exact missed

end Rule

end Constituency
