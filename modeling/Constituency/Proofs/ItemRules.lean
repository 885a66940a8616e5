import Constituency.Proofs.Recursion

namespace Constituency

structure Config.SameSettings (left right : Config) : Prop where
  flags : left.flags = right.flags
  lexicon : left.lexicon = right.lexicon

theorem Config.SameSettings.withItemRule {left right : Config} (same : left.SameSettings right)
    (item : Rule) : left.withItemRule item = right.withItemRule item := by
  simp only [Config.withItemRule, same.flags, same.lexicon]

namespace Grammar

section Congruence

variable {early late : Caller} {left right : Config} {tape : Tape}

theorem search_congr {rules : List Rule}
    (calls : ∀ rule ∈ rules, early rule left tape = late rule right tape) :
    Recognizer.search left tape (rules.map fun rule => ⟨rule.name, early rule⟩)
      = Recognizer.search right tape (rules.map fun rule => ⟨rule.name, late rule⟩) := by
  induction rules with
  | nil => rfl
  | cons rule others ih =>
      have here := calls rule List.mem_cons_self
      have later := ih fun other member => calls other (List.mem_cons_of_mem _ member)
      simp only [List.map_cons, Recognizer.search, here, later]

theorem choice_congr {rules : List Rule}
    (calls : ∀ rule ∈ rules, early rule left tape = late rule right tape) :
    choice early rules left tape = choice late rules right tape := by
  simp only [choice, Recognizer.firstOf, search_congr calls]

theorem pair_congr {first second : Rule} (join : Tree → Tree → Tree)
    (begins : early first left tape = late first right tape)
    (follows : ∀ rest, early second left rest = late second right rest) :
    pair early first second join left tape = pair late first second join right tape := by
  simp only [pair, Recognizer.inOrder, Recognizer.chain, begins, follows]

end Congruence

/-- The lists inside a rule that is no list rule have item rules of its own choice. -/
theorem body_ignores_item {call : Caller} {rule : Rule} {left right : Config}
    (calls : ∀ inner later, inner.isList = false → call inner left later = call inner right later)
    (same : left.SameSettings right) (plain : rule.isList = false) (tape : Tape) :
    body call rule left tape = body call rule right tape := by
  cases rule with
  | dummy => rfl
  | adjective | singularNoun | pluralNoun | preposition | prepWord | transitiveVerb =>
      simp only [body, wordOf, same.lexicon]
  | compoundAnd | compoundOr | compound => cases plain
  | nounClause | objectClause => simp only [body, same.withItemRule]
  | noun | prepAdjectivalPhrase | sentence | subjectClause | verbObjectClause =>
      apply choice_congr
      intro inner member
      have innerPlain : inner.isList = false := by
        revert inner
        decide
      exact calls inner tape innerPlain
  | prepNounClause | statement | transitiveVerbObjectClause =>
      exact pair_congr _ (calls _ tape rfl) fun rest => calls _ rest rfl
  | question | command | pronounClause | gerundClause | prepNounPhrase
  | intransitiveVerbObjectClause => rfl

theorem run_ignores_item {rule : Rule} {left right : Config} (same : left.SameSettings right)
    (plain : rule.isList = false) (depth : Nat) (tape : Tape) :
    run depth rule left tape = run depth rule right tape := by
  induction depth generalizing rule tape with
  | zero => rfl
  | succ depth ih =>
      have bodies := body_ignores_item (fun inner later innerPlain => ih innerPlain later)
        same plain tape
      simp only [run, bodies]

end Grammar

namespace Rule

theorem recognize_without_item {rule : Rule} {config : Config} (listed : rule.isList = true)
    (missing : config.itemRule = none) (tape : Tape) :
    rule.recognize config tape = .fault (.missingItemRule rule.name) :=
  Grammar.run_without_item listed missing _ tape

/-- A list rule faults exactly when it has no item rule, and says so. Every other rule is done, with
the same outcome and the same events whatever the item rule. -/
theorem recognize_faults_iff (rule : Rule) (tape : Tape) :
    (rule.isList = true → ∀ config : Config,
      (∀ item, config.itemRule = some item → item.isList = false) →
      ((∃ cause, rule.recognize config tape = .fault cause) ↔ config.itemRule = none) ∧
      ∀ cause, rule.recognize config tape = .fault cause → cause = .missingItemRule rule.name) ∧
    (rule.isList = false → ∀ left right : Config,
      left.flags = right.flags → left.lexicon = right.lexicon →
      ∃ outcome events, rule.recognize left tape = .done outcome events ∧
        rule.recognize right tape = .done outcome events) := by
  constructor
  · intro listed config plainItem
    cases given : config.itemRule with
    | none =>
        have faults := recognize_without_item listed given tape
        refine ⟨⟨fun _ => rfl, fun _ => ⟨_, faults⟩⟩, ?_⟩
        intro cause faulted
        cases faults.symm.trans faulted
        rfl
    | some item =>
        have suits := Config.suits_of_item given (plainItem item given) rule
        obtain ⟨outcome, events, done, _⟩ := recognize_keeps suits tape
        have sound : ∀ cause, rule.recognize config tape ≠ .fault cause := by
          intro cause faulted
          cases done.symm.trans faulted
        refine ⟨⟨?_, fun missing => by cases missing⟩, ?_⟩
        · intro faulted
          rcases faulted with ⟨cause, faulted⟩
          exact absurd faulted (sound cause)
        · intro cause faulted
          exact absurd faulted (sound cause)
  · intro plain left right flags lexicon
    obtain ⟨outcome, events, done, _⟩ := recognize_keeps (left.suits_of_plain plain) tape
    have same : rule.recognize left tape = rule.recognize right tape :=
      Grammar.run_ignores_item ⟨flags, lexicon⟩ plain _ tape
    exact ⟨outcome, events, done, same ▸ done⟩

theorem recognize_faults_iff_clauses :
    let tape : Tape := ⟨["The", "ball"], 0, by decide, by decide⟩
    let clauses := Config.initial.withItemRule .nounClause
    (∃ cause, compound.recognize Config.initial tape = .fault cause) ∧
    (¬ ∃ cause, compound.recognize clauses tape = .fault cause) ∧
    ∃ outcome events, nounClause.recognize Config.initial tape = .done outcome events ∧
      nounClause.recognize (Config.initial.withItemRule .compound) tape
        = .done outcome events := by
  intro tape clauses
  have lists := (recognize_faults_iff .compound tape).1 rfl
  have without := (lists Config.initial (fun _ given => by cases given)).1.mpr rfl
  have plainItem : ∀ item, clauses.itemRule = some item → item.isList = false := by
    intro item given
    cases given
    rfl
  refine ⟨without, ?_, (recognize_faults_iff .nounClause tape).2 rfl _ _ rfl rfl⟩
  intro faulted
  cases (lists clauses plainItem).1.mp faulted

end Rule

end Constituency
