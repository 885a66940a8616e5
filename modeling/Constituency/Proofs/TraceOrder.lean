import Constituency.Proofs.RunLogs

/-!
The order of events in a log. However deep calls are nested, a call's own event comes last in its
log, an alternative is given up right after its own event, and a machine ends right before the event
of the rule that ran it. Each of these is kept when logs are joined, so a whole log has them if the
logs of the parts do.
-/

namespace Constituency

def Rule.machine? : Rule → Option String
  | .compoundAnd | .compoundOr | .compound => some "CompoundList"
  | .nounClause => some "NounClause"
  | _ => none

/-- The log of what is done from `home` on, on a tape of so many tokens. -/
structure Ordered (home length : Nat) (events : List Event) : Prop where
  finished : ∀ rule start stop ok, .finished rule start stop ok ∈ events →
    home ≤ start ∧ (ok = false → stop = start) ∧ (ok = true → start < stop ∧ stop ≤ length)
  missed : ∀ before name position after, events = before ++ .missed name position :: after →
    ∃ rule earlier, rule.name = name ∧
      before = earlier ++ [.finished rule position position false]
  ended : ∀ before machine state position accepted after,
    events = before ++ .ended machine state position accepted :: after →
    ∃ rule start stop later, rule.machine? = some machine ∧
      after = .finished rule start stop accepted :: later ∧ (accepted = true → stop = position)

theorem event_of_append {left right before after : List Event} {event : Event}
    (joined : left ++ right = before ++ event :: after) :
    (∃ middle, left = before ++ event :: middle ∧ after = middle ++ right) ∨
      ∃ middle, before = left ++ middle ∧ right = middle ++ event :: after := by
  rcases List.append_eq_append_iff.mp joined with ⟨middle, early, late⟩ | ⟨middle, early, late⟩
  · exact .inr ⟨middle, early, late⟩
  · cases middle with
    | nil => exact .inr ⟨[], by simpa using early.symm, late.symm⟩
    | cons first others =>
        cases late
        exact .inl ⟨others, early, rfl⟩

namespace Ordered

variable {home start length : Nat} {left right events : List Event}

theorem nil : Ordered home length [] where
  finished := fun _ _ _ _ member => by cases member
  missed := fun before _ _ _ split => by cases before <;> cases split
  ended := fun before _ _ _ _ _ split => by cases before <;> cases split

theorem stepped (machine source target : String) (position : Nat) :
    Ordered home length [.stepped machine source target position] where
  finished := fun _ _ _ _ member => by simp at member
  missed := fun before _ _ _ split => by simp [List.singleton_eq_append_iff] at split
  ended := fun before _ _ _ _ _ split => by simp [List.singleton_eq_append_iff] at split

theorem append (first : Ordered home length left) (second : Ordered home length right) :
    Ordered home length (left ++ right) where
  finished := by
    intro rule start stop ok member
    rcases List.mem_append.mp member with early | late
    · exact first.finished rule start stop ok early
    · exact second.finished rule start stop ok late
  missed := by
    intro before name position after split
    rcases event_of_append split with ⟨middle, early, _⟩ | ⟨middle, rfl, late⟩
    · exact first.missed before name position middle early
    · obtain ⟨rule, earlier, named, rfl⟩ := second.missed middle name position after late
      exact ⟨rule, left ++ earlier, named, by rw [List.append_assoc]⟩
  ended := by
    intro before machine state position accepted after split
    rcases event_of_append split with ⟨middle, early, rfl⟩ | ⟨middle, _, late⟩
    · obtain ⟨rule, start, stop, later, runs, rfl, same⟩ :=
        first.ended before machine state position accepted middle early
      exact ⟨rule, start, stop, later ++ right, runs, rfl, same⟩
    · exact second.ended middle machine state position accepted after late

theorem from_earlier (ordered : Ordered start length events) (le : home ≤ start) :
    Ordered home length events :=
  { ordered with
    finished := fun rule begin stop ok member =>
      have own := ordered.finished rule begin stop ok member
      ⟨Nat.le_trans le own.1, own.2⟩ }

theorem call {tape : Tape} {outcome : Outcome} (kept : outcome.Kept tape) (rule : Rule) :
    Ordered tape.position tape.length
      [.finished rule tape.position outcome.tape.position outcome.succeeded] where
  finished := by
    intro rule' start stop ok member
    cases List.mem_singleton.mp member
    refine ⟨Nat.le_refl _, ?_⟩
    -- A match ends further on and within the tape, and a miss where it began.
    cases outcome with
    | matched rest tree =>
        have ahead : tape.Ahead rest := kept
        have bound : rest.position ≤ tape.length := by
          rw [Tape.length, ← ahead.tokens]
          exact rest.position_le
        exact ⟨(fun missed => by cases missed), fun _ => ⟨ahead.position, bound⟩⟩
    | missed reason left =>
        cases (kept : left = tape)
        exact ⟨fun _ => rfl, fun matched => by cases matched⟩
  missed := fun before _ _ _ split => by simp [List.singleton_eq_append_iff] at split
  ended := fun before _ _ _ _ _ split => by simp [List.singleton_eq_append_iff] at split

theorem giveUp {rule : Rule} {position : Nat}
    (ordered : Ordered home length (left ++ [.finished rule position position false])) :
    Ordered home length
      (left ++ [.finished rule position position false, .missed rule.name position]) where
  finished := fun rule' start stop ok member =>
    ordered.finished rule' start stop ok (by simpa using member)
  missed := by
    intro before name position' after split
    rw [List.append_cons] at split
    rcases event_of_append split with ⟨middle, early, _⟩ | ⟨middle, rfl, late⟩
    · exact ordered.missed before name position' middle early
    · rcases List.singleton_eq_append_iff.mp late with ⟨rfl, same⟩ | ⟨_, same⟩
      · cases same
        exact ⟨rule, left, rfl, by rw [List.append_nil]⟩
      · cases same
  ended := by
    intro before machine state position' accepted after split
    rw [List.append_cons] at split
    rcases event_of_append split with ⟨middle, early, rfl⟩ | ⟨middle, _, late⟩
    · obtain ⟨rule, start, stop, later, runs, rfl, same⟩ :=
        ordered.ended before machine state position' accepted middle early
      exact ⟨rule, start, stop, _, runs, rfl, same⟩
    · simp [List.singleton_eq_append_iff] at late

theorem halt {tape : Tape} {outcome : Outcome} {rule : Rule} {machine state : String}
    {position : Nat} (ordered : Ordered tape.position tape.length events)
    (kept : outcome.Kept tape) (runs : rule.machine? = some machine)
    (stood : outcome.succeeded = true → outcome.tape.position = position) :
    Ordered tape.position tape.length
      (events ++ [.ended machine state position outcome.succeeded,
        .finished rule tape.position outcome.tape.position outcome.succeeded]) := by
  apply ordered.append
  have own := call kept rule
  refine ⟨fun rule' start stop ok member =>
      own.finished rule' start stop ok (by simpa using member),
    fun before name position' after split => ?_,
    fun before machine' state' position' accepted after split => ?_⟩
  · cases before with
    | nil => cases split
    | cons first others => simp [List.singleton_eq_append_iff] at split
  · cases before with
    | nil =>
        cases split
        exact ⟨rule, _, _, [], runs, rfl, stood⟩
    | cons first others => simp [List.singleton_eq_append_iff] at split

end Ordered

/-- The log of a machine's run from `home`: in order up to the machine's end, which says how it
came out and where. -/
def Halted (machine : String) (home : Tape) (outcome : Outcome) (events : List Event) : Prop :=
  ∃ early state position, Ordered home.position home.length early ∧
    events = early ++ [.ended machine state position outcome.succeeded] ∧
    (outcome.succeeded = true → outcome.tape.position = position)

namespace Machine

section Halting

variable {σ α : Type} {machine : Machine σ α} {keeps : Stage σ α → Prop} {home : Tape}
  {stage next : Stage σ α} {log events : List Event}

/-- A run from `home` is at a stage that it may come to, with its log in order so far. -/
structure Orderly (keeps : Stage σ α → Prop) (home : Tape) (stage : Stage σ α)
    (log : List Event) : Prop where
  kept : keeps stage
  ordered : Ordered home.position home.length log

theorem Orderly.step (orderly : Orderly keeps home stage log) (kept : keeps next)
    (more : Ordered home.position home.length events) (machine source target : String)
    (position : Nat) :
    Orderly keeps home next (log ++ events ++ [.stepped machine source target position]) where
  kept := kept
  ordered := (orderly.ordered.append more).append (.stepped machine source target position)

variable [DecidableEq σ]

theorem Orderly.halted (orderly : Orderly keeps home stage log) :
    Halted machine.name home (machine.conclude home stage) (log ++ [.ended machine.name
      (machine.stateName stage.state) stage.tape.position
      (machine.conclude home stage).succeeded]) := by
  refine ⟨log, _, _, orderly.ordered, rfl, ?_⟩
  intro matched
  unfold conclude at matched ⊢
  split
  next => rfl
  next refuses => simp [refuses, Outcome.succeeded] at matched

theorem run_halted
    (step : ∀ stage next events, keeps stage → machine.Logged stage next events →
      keeps next ∧ Ordered home.position home.length events)
    (budget : Nat) {gathered : α} (start : keeps ⟨machine.start, home, gathered⟩) :
    (machine.run budget home gathered).Logs (Halted machine.name home) := by
  have begun : Orderly keeps home ⟨machine.start, home, gathered⟩ [] := ⟨start, .nil⟩
  refine run_logs (fun stage log next events orderly logged => ?_)
    (fun stage log orderly final => orderly.halted) budget begun
  obtain ⟨kept, more⟩ := step stage next events orderly.kept logged
  exact orderly.step kept more _ _ _ _

end Halting

end Machine

namespace Grammar

def Closed (rule : Rule) (_ : Config) (tape : Tape) (outcome : Outcome) (events : List Event) :
    Prop :=
  Ordered tape.position tape.length events ∧ ∃ earlier, events = earlier ++
    [.finished rule tape.position outcome.tape.position outcome.succeeded]

section Calls

variable {call : Caller} (logging : Logging call Closed) {config : Config} {tape : Tape}

include logging

theorem call_ordered {rule : Rule} {later : Tape} {outcome : Outcome} {events : List Event}
    (within : tape.Within later) (done : call rule config later = .done outcome events) :
    Ordered tape.position tape.length events := by
  obtain ⟨_, ordered, _⟩ := logging rule config later outcome events done
  have same : later.length = tape.length := congrArg List.length within.tokens
  exact same ▸ ordered.from_earlier within.position

theorem call_ahead {rule : Rule} {rest : Tape} {tree : Tree}
    (reads : Reads (call rule config) tape tree rest) : tape.Ahead rest := by
  obtain ⟨events, done⟩ := reads
  exact (logging rule config tape _ events done).1

theorem tried_ordered {rules : List Rule} {found : Option (Tape × Tree)} {events : List Event}
    (tried : Tried call config tape rules found events) :
    Ordered tape.position tape.length events := by
  induction tried with
  | none => exact .nil
  | found done => exact call_ordered logging (.refl tape) done
  | @missed rule others reason left found events later done next ih =>
      obtain ⟨kept, ordered, earlier, rfl⟩ := logging rule config tape _ events done
      cases (kept : left = tape)
      simpa [Outcome.tape, Outcome.succeeded] using ordered.giveUp.append ih

theorem paired_ordered {first second : Rule} {outcome : Outcome} {events : List Event}
    (paired : Paired call config tape first second outcome events) :
    Ordered tape.position tape.length events := by
  cases paired with
  | first done => exact call_ordered logging (.refl tape) done
  | second begun done | both begun done =>
      have ahead := call_ahead logging ⟨_, begun⟩
      exact (call_ordered logging (.refl tape) begun).append
        (call_ordered logging ahead.within done)

theorem list_halted (style : Coordination.Style) (conjunction : Option Conjunction) (item : Rule) :
    (Coordination.read style conjunction (call item config) tape).Logs
      (Halted "CompoundList" tape) := by
  refine Machine.run_halted (fun stage next events underway logged => ?_) _
    (Coordination.Underway.initial tape conjunction)
  have transition := Coordination.transition_of_steps logged.steps
  refine ⟨transition.underway underway fun _ _ => call_ahead logging, ?_⟩
  rcases Coordination.logged_item logged with ⟨_, outcome, done⟩ | ⟨_, rfl⟩
  · exact call_ordered logging underway.within done
  · exact .nil

theorem clause_halted :
    (NounClause.read (fun item => call .compound (config.withItemRule item)) tape).Logs
      (Halted "NounClause" tape) := by
  have start : NounClause.Underway tape ⟨.start, tape, .initial⟩ :=
    ⟨.refl tape, fun noun => by cases noun⟩
  refine Machine.run_halted (fun stage next events underway logged => ?_) _ start
  have transition := NounClause.transition_of_steps logged.steps
  refine ⟨transition.underway underway fun _ _ _ _ => call_ahead logging, ?_⟩
  rcases NounClause.logged_constituent logged with ⟨rule, outcome, _, done⟩ | ⟨_, rfl⟩
  · exact call_ordered logging underway.within done
  · exact .nil

theorem body_closed (rule : Rule) (config : Config) (tape : Tape) :
    (body call rule config tape).Logs fun outcome events => outcome.Kept tape →
      Closed rule config tape outcome (events ++
        [.finished rule tape.position outcome.tape.position outcome.succeeded]) := by
  intro outcome events done kept
  refine ⟨?_, events, rfl⟩
  have plain : Ordered tape.position tape.length events → Ordered tape.position tape.length
      (events ++ [.finished rule tape.position outcome.tape.position outcome.succeeded]) :=
    fun ordered => ordered.append (.call kept rule)
  have chosen : ∀ rules settings, choice call rules settings tape = .done outcome events →
      Ordered tape.position tape.length events := by
    intro rules settings chose
    rcases choice_tried chose with ⟨_, _, _, tried⟩ | ⟨_, _, tried⟩ <;>
      exact tried_ordered logging tried
  have halted : ∀ machine, rule.machine? = some machine → Halted machine tape outcome events →
      Ordered tape.position tape.length
        (events ++ [.finished rule tape.position outcome.tape.position outcome.succeeded]) := by
    rintro machine runs ⟨early, state, position, ordered, rfl, stood⟩
    simpa using ordered.halt kept runs stood
  cases rule with
  | compoundAnd | compoundOr | compound =>
      obtain ⟨item, early, late, given, read, rfl⟩ := (Run.bind_eq_done_iff _ _ _ _).mp done
      have silent : early = [] := by
        unfold Config.itemRuleFor at given
        split at given <;> cases given
        rfl
      subst silent
      exact halted _ rfl (list_halted logging _ _ item outcome late read)
  | nounClause => exact halted _ rfl (clause_halted logging outcome events done)
  | noun | prepAdjectivalPhrase | sentence | subjectClause | verbObjectClause | objectClause =>
      exact plain (chosen _ _ done)
  | prepNounClause | statement | transitiveVerbObjectClause =>
      exact plain (paired_ordered logging (pair_paired done))
  | dummy | adjective | singularNoun | pluralNoun | preposition | prepWord | transitiveVerb
  | question | command | pronounClause | gerundClause | prepNounPhrase
  | intransitiveVerbObjectClause =>
      cases done
      exact plain .nil

end Calls

end Grammar

namespace Rule

open Grammar

theorem recognize_trace (rule : Rule) (config : Config) (tape : Tape)
    (suits : config.suits rule = true) :
    ∃ outcome events, rule.recognize config tape = .done outcome events ∧
      events.getLast? =
        some (.finished rule tape.position outcome.tape.position outcome.succeeded) ∧
      Ordered tape.position tape.length events := by
  have logging : Logging Rule.recognize Closed :=
    recognize_logging fun call logging => body_closed logging
  obtain ⟨outcome, events, done, _, ordered, earlier, rfl⟩ :=
    Run.logs_of_ends (recognize_keeps suits tape) (logging rule config tape)
  exact ⟨outcome, _, done, by simp, ordered⟩

theorem recognize_trace_list :
    let config := Config.initial.withItemRule .nounClause
    let tape : Tape := ⟨["red", "or", "the", "ball"], 1, by decide, by decide⟩
    config.suits .compoundOr = true ∧
      ∃ outcome events, Rule.compoundOr.recognize config tape = .done outcome events ∧
        events.getLast? =
          some (.finished .compoundOr 1 outcome.tape.position outcome.succeeded) ∧
        Ordered 1 4 events :=
  ⟨rfl, recognize_trace .compoundOr (Config.initial.withItemRule .nounClause)
    ⟨["red", "or", "the", "ball"], 1, by decide, by decide⟩ rfl⟩

end Rule

end Constituency
