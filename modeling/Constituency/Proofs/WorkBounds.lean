import Constituency.Proofs.RunLogs

/-!
How many calls the rules make. Without commas no list is given up after its second item, so hardly
a token is read more than once: a noun clause costs at most an amount linear in the tokens it reads.
The bounds leave some slack for each token, and the slack of what has been read pays for the
alternatives that miss.
-/

namespace Constituency

def Event.isFinished : Event → Bool
  | .finished _ _ _ _ => true
  | _ => false

def work (events : List Event) : Nat :=
  events.countP Event.isFinished

section Work

variable (events : List Event)

@[simp] theorem work_nil : work [] = 0 := rfl

@[simp] theorem work_append (later : List Event) :
    work (events ++ later) = work events + work later :=
  List.countP_append

@[simp] theorem work_finished (rule : Rule) (start stop : Nat) (ok : Bool) :
    work (.finished rule start stop ok :: events) = work events + 1 :=
  List.countP_cons_of_pos rfl

@[simp] theorem work_missed (name : String) (position : Nat) :
    work (.missed name position :: events) = work events :=
  List.countP_cons_of_neg Bool.false_ne_true

@[simp] theorem work_stepped (machine source target : String) (position : Nat) :
    work (.stepped machine source target position :: events) = work events :=
  List.countP_cons_of_neg Bool.false_ne_true

@[simp] theorem work_ended (machine state : String) (position : Nat) (accepted : Bool) :
    work (.ended machine state position accepted :: events) = work events :=
  List.countP_cons_of_neg Bool.false_ne_true

theorem work_onward (log : List Event) (machine source target : String) (position : Nat) :
    work (log ++ events ++ [.stepped machine source target position])
      = work log + work events := by
  simp

end Work

/-- A miss has taken at most `miss` calls, and a match of so many tokens at most `hit` of them. -/
def Spends (miss : Nat) (hit : Nat → Nat) (tape : Tape) (outcome : Outcome)
    (events : List Event) : Prop :=
  match outcome with
  | .matched rest _ => work events ≤ hit (rest.position - tape.position)
  | .missed _ _ => work events ≤ miss

section Spending

variable {miss most : Nat} {hit more : Nat → Nat} {tape rest : Tape} {tree : Tree}
  {outcome : Outcome} {events : List Event} {item : Tape → Run Outcome}

theorem Spends.reads (spends : Spends miss hit tape outcome events)
    (done : item tape = .done outcome events) (reads : Reads item tape tree rest) :
    work events ≤ hit (rest.position - tape.position) := by
  obtain ⟨_, matched⟩ := reads
  cases matched.symm.trans done
  exact spends

theorem Spends.misses (spends : Spends miss hit tape outcome events)
    (done : item tape = .done outcome events) (misses : Misses item tape) : work events ≤ miss := by
  obtain ⟨_, _, _, missed⟩ := misses
  cases missed.symm.trans done
  exact spends

theorem Tape.Ahead.count_pos (ahead : tape.Ahead rest) : 0 < rest.position - tape.position :=
  Nat.sub_pos_of_lt ahead.position

theorem Spends.finish (spends : Spends miss hit tape outcome events) (kept : outcome.Kept tape)
    (missed : miss + 1 ≤ most) (matched : ∀ count, 0 < count → hit count + 1 ≤ more count)
    (rule : Rule) (start stop : Nat) (ok : Bool) :
    Spends most more tape outcome (events ++ [.finished rule start stop ok]) := by
  cases outcome with
  | matched rest tree =>
      have ahead : tape.Ahead rest := kept
      have bound : work events ≤ hit (rest.position - tape.position) := spends
      have enough := matched _ ahead.count_pos
      simp only [Spends, work_append, work_finished, work_nil]
      omega
  | missed reason left =>
      have bound : work events ≤ miss := spends
      simp only [Spends, work_append, work_finished, work_nil]
      omega

end Spending

namespace Coordination

variable {style : Style} {item : Tape → Run Outcome} {miss : Nat} {hit : Nat → Nat} {home : Tape}

/-- What a list without commas, begun at `home`, may have cost when it comes to a stage. -/
inductive Charged (miss : Nat) (hit : Nat → Nat) (home : Tape) : Stage State Progress → Nat → Prop
  | start {progress} : Charged miss hit home ⟨.firstItem, home, progress⟩ 0
  | first {tape progress cost} (ahead : home.Ahead tape) (saved : progress.afterFirst = some tape)
      (cheap : cost ≤ hit (tape.position - home.position)) :
      Charged miss hit home ⟨.firstDelimiter, tape, progress⟩ cost
  | joint {place tape progress cost} (ahead : home.Ahead place) (passed : place.forward = .ok tape)
      (saved : progress.afterFirst = some place)
      (cheap : cost ≤ hit (place.position - home.position)) :
      Charged miss hit home ⟨.lastItem, tape, progress⟩ cost
  | single {tape progress cost} (ahead : home.Ahead tape)
      (cheap : cost ≤ hit (tape.position - home.position) + miss) :
      Charged miss hit home ⟨.single, tape, progress⟩ cost
  | joined {tape progress cost first second} (begun : 0 < first) (closed : 0 < second)
      (long : tape.position - home.position = first + 1 + second)
      (cheap : cost ≤ hit first + hit second) : Charged miss hit home ⟨.joined, tape, progress⟩ cost
  | failed {tape progress cost} (cheap : cost ≤ miss) :
      Charged miss hit home ⟨.failed, tape, progress⟩ cost

theorem Charged.step {stage next : Stage State Progress} {cost : Nat} {events : List Event}
    (charged : Charged miss hit home stage cost)
    (logged : (machine style item).Logged stage next events)
    (unspaced : style.spaceDelimiters = false) (optional : style.requireList = false)
    (falls : style.fallback = true) (noComma : stage.tape.isToken "," = false)
    (spends : ∀ outcome, item stage.tape = .done outcome events →
      outcome.Kept stage.tape ∧ Spends miss hit stage.tape outcome events) :
    Charged miss hit home next (cost + work events) := by
  have transition := transition_of_steps logged.steps
  have reading : ∀ tree rest, Takes style stage → Reads item stage.tape tree rest →
      stage.tape.Ahead rest ∧ work events ≤ hit (rest.position - stage.tape.position) := by
    intro tree rest takes reads
    rcases logged_item logged with ⟨_, outcome, done⟩ | ⟨idle, _⟩
    · obtain ⟨kept, cheap⟩ := spends outcome done
      exact ⟨reads.ahead ⟨outcome, events, done, kept⟩, cheap.reads done reads⟩
    · exact absurd takes idle
  have missing : Takes style stage → Misses item stage.tape → work events ≤ miss := by
    intro takes misses
    rcases logged_item logged with ⟨_, outcome, done⟩ | ⟨idle, _⟩
    · exact (spends outcome done).2.misses done misses
    · exact absurd takes idle
  have idling : ¬ Takes style stage → work events = 0 := by
    intro idle
    rcases logged_item logged with ⟨takes, _⟩ | ⟨_, rfl⟩
    · exact absurd takes idle
    · rfl
  cases charged with
  | start =>
      cases transition with
      | first reads =>
          obtain ⟨ahead, cheap⟩ := reading _ _ trivial reads
          exact .first ahead (by simp [falls]) (by rw [Nat.zero_add]; exact cheap)
      | nothing misses =>
          have cheap := missing trivial misses
          exact .failed (by omega)
      | stop breaks => cases breaks
  -- Without a comma, the list ends after its first item or goes on over a conjunction.
  | @first tape progress cost ahead saved cheap =>
      have idle := idling (by simp [Takes, unspaced])
      cases transition with
      | secondSpaced spaced reads => simp [unspaced] at spaced
      | firstComma _ comma => cases noComma.symm.trans comma.found
      | firstJoint _ usable found => exact .joint ahead found.passed saved (by omega)
      | alone _ bare _ => exact .single ahead (by omega)
      | stop breaks =>
          cases breaks with
          | alone _ bare required => simp [optional] at required
  | @joint place tape progress cost ahead passed saved cheap =>
      cases transition with
      | last noJoint reads =>
          obtain ⟨onward, more⟩ := reading _ _ noJoint reads
          have moved := (Tape.forward_eq passed).2
          have first := ahead.position
          have last := onward.position
          refine .joined ahead.count_pos onward.count_pos ?_ (Nat.add_le_add cheap more)
          simp only at last ⊢
          omega
      | stop breaks =>
          have more : work events ≤ miss := by
            cases breaks with
            | doubled usable found =>
                have idle := idling fun noJoint => by simp [noJoint _ usable] at found
                omega
            | last noJoint misses => exact missing noJoint misses
          simp only [Coordination.stop, saved]
          exact .single ahead (Nat.add_le_add cheap more)
  | single ahead cheap => exact absurd single_final logged.1
  | joined begun closed long cheap => exact absurd joined_final logged.1
  | failed cheap => exact absurd failed_final logged.1

/-- A list begun at `home` is at a stage that it may come to, and has cost no more than it may. -/
structure Priced (miss : Nat) (hit : Nat → Nat) (home : Tape) (stage : Stage State Progress)
    (log : List Event) : Prop where
  underway : Underway home stage
  charged : Charged miss hit home stage (work log)

section Pricing

variable {total : Nat → Nat} {conjunction : Option Conjunction}
  (noComma : "," ∉ home.tokens)
  (spends : ∀ later outcome events, later.tokens = home.tokens →
    item later = .done outcome events →
    outcome.Kept later ∧ Spends miss hit later outcome events)

include noComma spends

theorem Priced.step {stage next : Stage State Progress} {log events : List Event}
    (priced : Priced miss hit home stage log)
    (logged : (machine style item).Logged stage next events)
    (unspaced : style.spaceDelimiters = false) (optional : style.requireList = false)
    (falls : style.fallback = true) (machine source target : String) (position : Nat) :
    Priced miss hit home next (log ++ events ++ [.stepped machine source target position]) := by
  have tokens := priced.underway.within.tokens
  have absent : stage.tape.isToken "," = false := by
    refine Bool.eq_false_iff.mpr fun comma => noComma ?_
    rw [← tokens]
    exact List.mem_of_getElem? (eq_of_beq comma)
  have charged := priced.charged.step logged unspaced optional falls absent
    fun outcome done => spends stage.tape outcome events tokens done
  refine ⟨(transition_of_steps logged.steps).underway priced.underway fun tree rest reads => ?_, ?_⟩
  · obtain ⟨early, done⟩ := reads
    exact (spends stage.tape _ early tokens done).1
  · rw [work_onward]
    exact charged

theorem read_spends (unspaced : style.spaceDelimiters = false)
    (optional : style.requireList = false) (falls : style.fallback = true)
    (alone : ∀ count, 0 < count → hit count + miss ≤ total count)
    (joined : ∀ first second, 0 < first → 0 < second →
      hit first + hit second ≤ total (first + 1 + second)) :
    (read style conjunction item home).Logs (Spends miss total home) := by
  have begun : Priced miss hit home ⟨.firstItem, home, .initial conjunction⟩ [] :=
    ⟨.initial home conjunction, .start⟩
  refine Machine.run_logs (fun stage log next events priced logged => ?_)
    (fun stage log priced final => ?_) _ begun
  · exact priced.step noComma spends logged unspaced optional falls _ _ _ _
  · have charged := priced.charged
    simp only [Spends, Machine.conclude, work_append, work_ended, work_nil, Nat.add_zero]
    generalize work log = cost at charged
    cases charged with
    | single ahead cheap => exact Nat.le_trans cheap (alone _ ahead.count_pos)
    | joined begun closed long cheap =>
        have enough := joined _ _ begun closed
        rw [← long] at enough
        exact Nat.le_trans cheap enough
    | failed cheap => exact cheap
    | start | first | joint =>
        rcases final_iff.mp final with same | same | same <;> cases same

end Pricing

end Coordination

namespace Rule

def missWork : Rule → Nat
  | .noun => 3
  | .nounClause => 8
  | .prepNounClause => 10
  | .prepAdjectivalPhrase => 12
  | _ => 1

/-- Calls that a rule makes at most where it reads so many tokens. A clause and the phrases in it are
charged to their tokens; what they leave over pays for the phrase that will miss after them. -/
def hitWork : Rule → Nat → Nat
  | .noun, _ => 3
  | .nounClause, count => 25 * count - 1
  | .prepNounClause, count => 25 * count - 24
  | .prepAdjectivalPhrase, count => 25 * count - 13
  | _, _ => 1

def listWork : Rule → Nat → Nat
  | .noun, _ => 7
  | .prepAdjectivalPhrase, count => 25 * count
  | _, _ => 3

theorem listWork_alone {rule : Rule} (part : rule ∈ NounClause.constituents) (count : Nat)
    (read : 0 < count) : rule.hitWork count + rule.missWork + 1 ≤ rule.listWork count := by
  simp only [NounClause.constituents, List.mem_cons, List.not_mem_nil, or_false] at part
  rcases part with rfl | rfl | rfl | rfl | rfl <;> simp only [hitWork, missWork, listWork] <;> omega

theorem listWork_joined {rule : Rule} (part : rule ∈ NounClause.constituents) (first second : Nat)
    (begun : 0 < first) (closed : 0 < second) :
    rule.hitWork first + rule.hitWork second + 1 ≤ rule.listWork (first + 1 + second) := by
  simp only [NounClause.constituents, List.mem_cons, List.not_mem_nil, or_false] at part
  rcases part with rfl | rfl | rfl | rfl | rfl <;> simp only [hitWork, listWork] <;> omega

end Rule

namespace NounClause

variable {reader : Reader} {home : Tape}

/-- What a clause may have cost when it comes to a state after so many tokens. From the noun on the
tokens pay for the phrase that will miss. -/
def Charged (count cost : Nat) : State → Prop
  | .start | .adjectives _ => cost = 0
  | .noun _ => cost ≤ 3
  | .phrases _ => cost + 15 ≤ 25 * count
  | .succeeded => cost + 2 ≤ 25 * count
  | .failed => cost ≤ 7

theorem nounRule_work (kind : Kind) (count : Nat) :
    kind.nounRule.missWork ≤ 3 ∧ kind.nounRule.listWork count ≤ 7 := by
  cases kind <;> simp [Kind.nounRule, Rule.missWork, Rule.listWork]

theorem Opening.constituent {state : State} {kind : Kind} {tape : Tape} {parts : Parts}
    (opening : Opening tape state kind) : constituent? ⟨state, tape, parts⟩ = some .adjective := by
  cases opening with
  | undetermined none => simp [constituent?, none]
  | determined determiner => rfl

theorem Opening.charged {state : State} {kind : Kind} {tape : Tape} {count cost : Nat}
    (opening : Opening tape state kind) (charged : Charged count cost state) : cost = 0 := by
  cases opening <;> exact charged

theorem Charged.step {stage next : Stage State Parts} {cost : Nat} {events : List Event}
    (charged : Charged (stage.tape.position - home.position) cost stage.state)
    (underway : Underway home stage) (logged : (machine reader).Logged stage next events)
    (spends : ∀ rule ∈ constituents, ∀ outcome, reader rule stage.tape = .done outcome events →
      outcome.Kept stage.tape ∧
        Spends (rule.missWork + 1) rule.listWork stage.tape outcome events) :
    Charged (next.tape.position - home.position) (cost + work events) next.state := by
  have reading : ∀ rule ∈ constituents, constituent? stage = some rule → ∀ tree rest,
      Reads (reader rule) stage.tape tree rest →
      stage.tape.Ahead rest ∧
        work events ≤ rule.listWork (rest.position - stage.tape.position) := by
    intro rule part asked tree rest reads
    rcases logged_constituent logged with ⟨rule', outcome, same, done⟩ | ⟨idle, _⟩
    · cases asked.symm.trans same
      obtain ⟨kept, cheap⟩ := spends rule part outcome done
      exact ⟨reads.ahead ⟨outcome, events, done, kept⟩, cheap.reads done reads⟩
    · cases asked.symm.trans idle
  have missing : ∀ rule ∈ constituents, constituent? stage = some rule →
      Misses (reader rule) stage.tape → work events ≤ rule.missWork + 1 := by
    intro rule part asked misses
    rcases logged_constituent logged with ⟨rule', outcome, same, done⟩ | ⟨idle, _⟩
    · cases asked.symm.trans same
      exact (spends rule part outcome done).2.misses done misses
    · cases asked.symm.trans idle
  have behind := underway.within.position
  cases transition_of_steps logged.steps with
  | determiner found passed =>
      rcases logged_constituent logged with ⟨rule, outcome, same, done⟩ | ⟨_, rfl⟩
      · simp [constituent?, found] at same
      · exact charged
  | @adjectives state kind tape rest tree parts opening reads =>
      obtain ⟨_, cheap⟩ := reading .adjective (by decide) opening.constituent _ _ reads
      have free := opening.charged charged
      simp only [Rule.listWork] at cheap
      simp only [Charged]
      omega
  | @noAdjectives state kind tape parts opening misses =>
      have cheap := missing .adjective (by decide) opening.constituent misses
      have free := opening.charged charged
      simp only [Rule.missWork] at cheap
      simp only [Charged]
      omega
  | @noun kind tape rest tree parts reads =>
      obtain ⟨ahead, cheap⟩ := reading _ (nounRule_mem kind) rfl _ _ reads
      have moved := ahead.position
      have most := (nounRule_work kind (rest.position - tape.position)).2
      simp only [Charged] at charged ⊢
      simp only at behind moved cheap
      omega
  | @noNoun kind tape parts misses =>
      have cheap := missing _ (nounRule_mem kind) rfl misses
      have most := (nounRule_work kind 0).1
      simp only [Charged] at charged ⊢
      omega
  | @phrase kind tape rest tree parts reads =>
      obtain ⟨ahead, cheap⟩ := reading .prepAdjectivalPhrase (by decide) rfl _ _ reads
      have moved := ahead.position
      simp only [Charged, Rule.listWork] at charged cheap ⊢
      simp only at behind moved
      omega
  | @noPhrase kind tape parts misses =>
      have cheap := missing .prepAdjectivalPhrase (by decide) rfl misses
      simp only [Charged, Rule.missWork] at charged cheap ⊢
      omega

structure Priced (home : Tape) (stage : Stage State Parts) (log : List Event) : Prop where
  underway : Underway home stage
  charged : Charged (stage.tape.position - home.position) (work log) stage.state

section Pricing

variable (spends : ∀ rule ∈ constituents, ∀ later outcome events, later.tokens = home.tokens →
  reader rule later = .done outcome events →
  outcome.Kept later ∧ Spends (rule.missWork + 1) rule.listWork later outcome events)

include spends

theorem Priced.step {stage next : Stage State Parts} {log events : List Event}
    (priced : Priced home stage log) (logged : (machine reader).Logged stage next events)
    (machine source target : String) (position : Nat) :
    Priced home next (log ++ events ++ [.stepped machine source target position]) := by
  have tokens := priced.underway.within.tokens
  have charged := priced.charged.step priced.underway logged
    fun rule part outcome done => spends rule part stage.tape outcome events tokens done
  have transition := transition_of_steps logged.steps
  refine ⟨transition.underway priced.underway fun rule part tree rest reads => ?_, ?_⟩
  · obtain ⟨early, done⟩ := reads
    exact (spends rule part stage.tape _ early tokens done).1
  · rw [work_onward]
    exact charged

theorem read_spends : (read reader home).Logs (Spends 7 (fun count => 25 * count - 2) home) := by
  have begun : Priced home ⟨.start, home, .initial⟩ [] :=
    ⟨⟨.refl home, fun noun => by cases noun⟩, rfl⟩
  refine Machine.run_logs (fun stage log next events priced logged => ?_)
    (fun stage log priced final => ?_) _ begun
  · exact priced.step spends logged _ _ _ _
  · obtain ⟨_, charged⟩ := priced
    obtain ⟨state, tape, parts⟩ := stage
    simp only [Spends, Machine.conclude, work_append, work_ended, work_nil, Nat.add_zero]
    rcases final_iff.mp final with same | same <;> cases same
    · have bound : work log + 2 ≤ 25 * (tape.position - home.position) := charged
      exact Nat.le_sub_of_add_le bound
    · exact charged

end Pricing

end NounClause

namespace Grammar

def clauseRules : List Rule :=
  NounClause.constituents ++ [.preposition, .prepWord, .prepNounClause, .nounClause]

def Thrifty (rule : Rule) (config : Config) (tape : Tape) (outcome : Outcome)
    (events : List Event) : Prop :=
  config.flags.spaceDelimiters = false → "," ∉ tape.tokens →
    (rule ∈ clauseRules → Spends rule.missWork rule.hitWork tape outcome events) ∧
    (rule = .compound → ∀ item ∈ NounClause.constituents, config.itemRule = some item →
      Spends (item.missWork + 1) item.listWork tape outcome events)

section Calls

variable {call : Caller} (logging : Logging call Thrifty) {config : Config} {tape : Tape}
  (unspaced : config.flags.spaceDelimiters = false) (noComma : "," ∉ tape.tokens)

include logging unspaced noComma

theorem call_spends {rule : Rule} (part : rule ∈ clauseRules) {later : Tape}
    (tokens : later.tokens = tape.tokens) {outcome : Outcome} {events : List Event}
    (done : call rule config later = .done outcome events) :
    outcome.Kept later ∧ Spends rule.missWork rule.hitWork later outcome events := by
  obtain ⟨kept, thrifty⟩ := logging rule config later outcome events done
  exact ⟨kept, (thrifty unspaced (tokens ▸ noComma)).1 part⟩

theorem choice_spends {first second : Rule} (firstPart : first ∈ clauseRules)
    (secondPart : second ∈ clauseRules) {outcome : Outcome} {events : List Event}
    (chose : choice call [first, second] config tape = .done outcome events) :
    Spends (first.missWork + second.missWork)
      (fun count => max (first.hitWork count) (first.missWork + second.hitWork count))
      tape outcome events := by
  rcases choice_tried chose with ⟨rest, tree, rfl, tried⟩ | ⟨reason, rfl, tried⟩
  · cases tried with
    | found done =>
        have cheap := (call_spends logging unspaced noComma firstPart rfl done).2
        exact Nat.le_trans cheap (Nat.le_max_left _ _)
    | missed done next =>
        have begun := (call_spends logging unspaced noComma firstPart rfl done).2
        cases next with
        | found done' =>
            have ended := (call_spends logging unspaced noComma secondPart rfl done').2
            simp only [Spends, work_append, work_missed] at begun ended ⊢
            omega
        | missed done' next => cases next
  · cases tried with
    | missed done next =>
        have begun := (call_spends logging unspaced noComma firstPart rfl done).2
        cases next with
        | missed done' next =>
            have ended := (call_spends logging unspaced noComma secondPart rfl done').2
            cases next
            simp only [Spends, work_append, work_missed, work_nil] at begun ended ⊢
            omega

theorem pair_spends {join : Tree → Tree → Tree} {outcome : Outcome} {events : List Event}
    (paired : pair call .preposition .nounClause join config tape = .done outcome events) :
    Spends 9 (fun count => 25 * count - 25) tape outcome events := by
  have begins {outcome : Outcome} {events : List Event}
      (done : call .preposition config tape = .done outcome events) :
      outcome.Kept tape ∧ Spends 1 (fun _ => 1) tape outcome events :=
    call_spends logging unspaced noComma (by decide) rfl done
  cases pair_paired paired with
  | first done =>
      have cheap : _ ≤ 1 := (begins done).2
      exact Nat.le_trans cheap (by decide)
  | @second place tree reason left cause events later begun done =>
      obtain ⟨kept, cheap⟩ := begins begun
      have ahead : tape.Ahead place := kept
      have missed := (call_spends logging unspaced noComma (by decide) ahead.tokens done).2
      simp only [Spends, Rule.missWork, work_append] at cheap missed ⊢
      omega
  | @both place rest tree other joined events later begun done =>
      obtain ⟨kept, cheap⟩ := begins begun
      have ahead : tape.Ahead place := kept
      obtain ⟨onward, more⟩ := call_spends logging unspaced noComma (by decide) ahead.tokens done
      have first := ahead.position
      have last := onward.position
      simp only [Spends, Rule.hitWork, work_append] at cheap more ⊢
      omega

theorem compound_spends {item : Rule} (part : item ∈ NounClause.constituents)
    (given : config.itemRule = some item) {outcome : Outcome} {events : List Event}
    (done : body call .compound config tape = .done outcome events) :
    Spends item.missWork (fun count => item.listWork count - 1) tape outcome events := by
  have settings : config.forItems.flags.spaceDelimiters = false := unspaced
  have items : ∀ later outcome events, later.tokens = tape.tokens →
      call item config.forItems later = .done outcome events →
      outcome.Kept later ∧ Spends item.missWork item.hitWork later outcome events :=
    fun later outcome events tokens ran =>
      call_spends logging settings noComma (List.mem_append_left _ part) tokens ran
  rw [body, list_eq given] at done
  refine Coordination.read_spends noComma items unspaced rfl rfl (fun count read => ?_)
    (fun first second begun closed => ?_) outcome events done
  · exact Nat.le_sub_of_add_le (Rule.listWork_alone part count read)
  · exact Nat.le_sub_of_add_le (Rule.listWork_joined part first second begun closed)

theorem clause_spends {outcome : Outcome} {events : List Event}
    (done : body call .nounClause config tape = .done outcome events) :
    Spends 7 (fun count => 25 * count - 2) tape outcome events := by
  refine NounClause.read_spends (fun item part later outcome events tokens ran => ?_)
    outcome events done
  obtain ⟨kept, thrifty⟩ := logging .compound (config.withItemRule item) later outcome events ran
  have settings : (config.withItemRule item).flags.spaceDelimiters = false := unspaced
  exact ⟨kept, (thrifty settings (tokens ▸ noComma)).2 rfl item part rfl⟩

end Calls

theorem word_spends (name : String) (part : PartOfSpeech) (config : Config) (tape : Tape) :
    Spends 0 (fun _ => 0) tape (wordOf name part config tape) [] := by
  cases wordOf name part config tape <;> exact Nat.le_refl 0

theorem body_thrifty {call : Caller} (logging : Logging call Thrifty) (rule : Rule)
    (config : Config) (tape : Tape) :
    (body call rule config tape).Logs fun outcome events => outcome.Kept tape →
      Thrifty rule config tape outcome (events ++
        [.finished rule tape.position outcome.tape.position outcome.succeeded]) := by
  intro outcome events done kept unspaced noComma
  refine ⟨fun part => ?_, ?_⟩
  · cases rule with
    | adjective | singularNoun | pluralNoun | preposition | prepWord =>
        cases done
        exact (word_spends _ _ config tape).finish kept (Nat.le_refl 1) (fun _ _ => Nat.le_refl 1)
          _ _ _ _
    | noun =>
        have spends := choice_spends logging unspaced noComma (by decide) (by decide) done
        exact spends.finish kept (Nat.le_refl 3) (fun _ _ => Nat.le_refl 3) _ _ _ _
    | prepAdjectivalPhrase =>
        have spends := choice_spends logging unspaced noComma (by decide) (by decide) done
        refine spends.finish kept (by decide) (fun count read => ?_) _ _ _ _
        simp only [Rule.hitWork, Rule.missWork]
        omega
    | prepNounClause =>
        have spends := pair_spends logging unspaced noComma done
        refine spends.finish kept (by decide) (fun count read => ?_) _ _ _ _
        simp only [Rule.hitWork]
        omega
    | nounClause =>
        have spends := clause_spends logging unspaced noComma done
        refine spends.finish kept (by decide) (fun count read => ?_) _ _ _ _
        simp only [Rule.hitWork]
        omega
    | _ => exact absurd part (by decide)
  · rintro rfl item part given
    have spends := compound_spends logging unspaced noComma part given done
    refine spends.finish kept (Nat.le_refl _) (fun count read => ?_) _ _ _ _
    have positive := Rule.listWork_alone part count read
    omega

end Grammar

namespace Rule

open Grammar

theorem nounClause_work_le {config : Config} {tape : Tape}
    (unspaced : config.flags.spaceDelimiters = false) (noComma : "," ∉ tape.tokens) :
    ∃ outcome events, nounClause.recognize config tape = .done outcome events ∧
      (outcome.succeeded = false → work events ≤ 8) ∧
      (outcome.succeeded = true →
        work events + 1 ≤ 25 * (outcome.tape.position - tape.position)) ∧
      work events ≤ 100 * (tape.length + 1) := by
  have logging : Logging Rule.recognize Thrifty :=
    recognize_logging fun call logging => body_thrifty logging
  have plain : nounClause.isList = false := rfl
  obtain ⟨outcome, events, done, kept, _⟩ := Run.logs_of_ends
    (recognize_keeps (config.suits_of_plain plain) tape) (logging nounClause config tape)
  have spends := (call_spends logging unspaced noComma (by decide) rfl done).2
  refine ⟨outcome, events, done, ?_⟩
  cases outcome with
  | matched rest tree =>
      have ahead : tape.Ahead rest := kept
      have moved := ahead.position
      have bound := rest.position_le
      rw [ahead.tokens] at bound
      simp only [Spends, hitWork] at spends
      simp only [Outcome.succeeded, Outcome.tape, Tape.length]
      refine ⟨(fun missed => by cases missed), fun _ => ?_, ?_⟩ <;> omega
  | missed reason left =>
      have few : work events ≤ 8 := spends
      refine ⟨fun _ => few, (fun matched => by cases matched), ?_⟩
      omega

theorem nounClause_work_le_nested :
    let tape : Tape := ⟨["the", "cat", "in", "the", "box", "and", "out"], 0, by decide, by decide⟩
    Config.initial.flags.spaceDelimiters = false ∧ "," ∉ tape.tokens ∧
      ∃ outcome events, nounClause.recognize Config.initial tape = .done outcome events ∧
        (outcome.succeeded = false → work events ≤ 8) ∧
        (outcome.succeeded = true → work events + 1 ≤ 25 * outcome.tape.position) ∧
        work events ≤ 800 := by
  intro tape
  have noComma : "," ∉ tape.tokens := by decide
  exact ⟨rfl, noComma, nounClause_work_le rfl noComma⟩

end Rule

end Constituency
