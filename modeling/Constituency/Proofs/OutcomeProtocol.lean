import Constituency.Recognizer
import Constituency.Proofs.RunRefinement
import Constituency.Proofs.TapeOrder

namespace Constituency

/-- A match reads at least one token of `tape`; a miss leaves it alone. -/
def Outcome.Kept (tape : Tape) : Outcome → Prop
  | .matched rest _ => tape.Ahead rest
  | .missed _ left => left = tape

theorem Outcome.Kept.tokens {tape : Tape} {outcome : Outcome} (kept : outcome.Kept tape) :
    outcome.tape.tokens = tape.tokens := by
  cases outcome with
  | matched rest tree => exact Tape.Ahead.tokens kept
  | missed reason left => exact congrArg Tape.tokens kept

theorem Outcome.Kept.mapTree {tape : Tape} {outcome : Outcome} (kept : outcome.Kept tape)
    (change : Tree → Tree) : (outcome.mapTree change).Kept tape := by
  cases outcome with
  | matched rest tree => exact kept
  | missed reason left => exact kept

def Reads (item : Tape → Run Outcome) (tape : Tape) (tree : Tree) (rest : Tape) : Prop :=
  ∃ events, item tape = .done (.matched rest tree) events

def Misses (item : Tape → Run Outcome) (tape : Tape) : Prop :=
  ∃ reason left events, item tape = .done (.missed reason left) events

section Reading

variable {item : Tape → Run Outcome} {tape rest other : Tape} {tree result : Tree}

theorem Reads.unique (reads : Reads item tape tree rest) (again : Reads item tape result other) :
    result = tree ∧ other = rest := by
  obtain ⟨events, done⟩ := reads
  obtain ⟨events', done'⟩ := again
  cases done.symm.trans done'
  exact ⟨rfl, rfl⟩

theorem Reads.not_misses (reads : Reads item tape tree rest) : ¬ Misses item tape := by
  intro misses
  rcases misses with ⟨reason, left, events', missed⟩
  obtain ⟨events, done⟩ := reads
  cases done.symm.trans missed

theorem Reads.ahead (reads : Reads item tape tree rest)
    (keeps : (item tape).Ends (Outcome.Kept tape)) : tape.Ahead rest := by
  obtain ⟨events, done⟩ := reads
  obtain ⟨outcome, events', ended, kept⟩ := keeps
  cases done.symm.trans ended
  exact kept

theorem reads_or_misses {good : Outcome → Prop} (ends : (item tape).Ends good) :
    (∃ tree rest, Reads item tape tree rest) ∨ Misses item tape := by
  obtain ⟨outcome, events, done, _⟩ := ends
  cases outcome with
  | matched rest tree => exact .inl ⟨tree, rest, events, done⟩
  | missed reason left => exact .inr ⟨reason, left, events, done⟩

section Following

variable {β : Type} {next : Outcome → Run β} {value : β}

theorem Reads.bind (reads : Reads item tape tree rest)
    (follows : next (.matched rest tree) = pure value) :
    ∃ events, (item tape >>= next) = .done value events := by
  obtain ⟨events, done⟩ := reads
  exact ⟨events ++ [], (Run.bind_eq_done_iff _ _ _ _).mpr ⟨_, events, [], done, follows, rfl⟩⟩

theorem Misses.bind (misses : Misses item tape)
    (follows : ∀ reason left, next (.missed reason left) = pure value) :
    ∃ events, (item tape >>= next) = .done value events := by
  obtain ⟨reason, left, events, done⟩ := misses
  exact ⟨events ++ [],
    (Run.bind_eq_done_iff _ _ _ _).mpr ⟨_, events, [], done, follows reason left, rfl⟩⟩

theorem reads_or_misses_of_bind {events : List Event}
    (done : (item tape >>= next) = .done value events) :
    (∃ tree rest later, Reads item tape tree rest ∧
      next (.matched rest tree) = .done value later) ∨
    (∃ reason left later, Misses item tape ∧ next (.missed reason left) = .done value later) := by
  obtain ⟨outcome, early, late, ran, followed, _⟩ := (Run.bind_eq_done_iff _ _ _ _).mp done
  cases outcome with
  | matched rest tree => exact .inl ⟨tree, rest, late, ⟨early, ran⟩, followed⟩
  | missed reason left => exact .inr ⟨reason, left, late, ⟨reason, left, early, ran⟩, followed⟩

end Following

end Reading

/-- The run keeps the protocol at `tape`, and it matches in exactly the ways of `found`. -/
def Run.Finds (run : Run Outcome) (tape : Tape) (found : Tree → Tape → Prop) : Prop :=
  run.Ends fun outcome => outcome.Kept tape ∧
    ∀ tree rest, outcome = .matched rest tree ↔ found tree rest

/-- The first way if there is any result that way, and else the second. -/
def Otherwise (first second : Tree → Tape → Prop) (tree : Tree) (rest : Tape) : Prop :=
  first tree rest ∨ (¬ ∃ tree rest, first tree rest) ∧ second tree rest

theorem otherwise_congr {first other second : Tree → Tape → Prop}
    (same : ∀ tree rest, first tree rest ↔ other tree rest) (tree : Tree) (rest : Tape) :
    Otherwise first second tree rest ↔ Otherwise other second tree rest := by
  simp only [Otherwise, same]

theorem otherwise_assoc (first second third : Tree → Tape → Prop) (tree : Tree) (rest : Tape) :
    Otherwise (Otherwise first second) third tree rest ↔
      Otherwise first (Otherwise second third) tree rest := by
  have neither : (¬ ∃ tree rest, Otherwise first second tree rest) ↔
      (¬ ∃ tree rest, first tree rest) ∧ ¬ ∃ tree rest, second tree rest := by
    constructor
    · intro nothing
      have noFirst : ¬ ∃ tree rest, first tree rest :=
        fun ⟨tree, rest, holds⟩ => nothing ⟨tree, rest, .inl holds⟩
      exact ⟨noFirst, fun ⟨tree, rest, holds⟩ => nothing ⟨tree, rest, .inr ⟨noFirst, holds⟩⟩⟩
    · intro nothing found
      rcases nothing with ⟨noFirst, noSecond⟩
      rcases found with ⟨tree, rest, holds | ⟨_, holds⟩⟩
      · exact noFirst ⟨tree, rest, holds⟩
      · exact noSecond ⟨tree, rest, holds⟩
  unfold Otherwise at neither ⊢
  rw [neither]
  grind

def Run.orElse (first second : Run Outcome) : Run Outcome := do
  match ← first with
  | .matched rest tree => pure (.matched rest tree)
  | .missed _ _ => second

section Finding

variable {run other : Run Outcome} {tape : Tape} {found second : Tree → Tape → Prop}

theorem Run.finds_of_ends (keeps : run.Ends (Outcome.Kept tape))
    (matchings : run.Ends fun outcome => ∀ tree rest,
      outcome = .matched rest tree ↔ found tree rest) : run.Finds tape found := by
  obtain ⟨outcome, events, done, kept⟩ := keeps
  obtain ⟨same, events', done', finds⟩ := matchings
  cases done.symm.trans done'
  exact ⟨outcome, events, done, kept, finds⟩

theorem Run.finds_reads {item : Tape → Run Outcome}
    (keeps : (item tape).Ends (Outcome.Kept tape)) : (item tape).Finds tape (Reads item tape) := by
  obtain ⟨outcome, events, done, kept⟩ := keeps
  refine ⟨outcome, events, done, kept, ?_⟩
  intro tree rest
  constructor
  · intro matched
    subst matched
    exact ⟨events, done⟩
  · intro reads
    rcases reads with ⟨events', done'⟩
    cases done.symm.trans done'
    rfl

theorem Run.Finds.congr (finds : run.Finds tape found)
    (same : ∀ tree rest, found tree rest ↔ second tree rest) : run.Finds tape second := by
  apply Run.Ends.mono finds
  intro outcome good
  rcases good with ⟨kept, holds⟩
  exact ⟨kept, fun tree rest => (holds tree rest).trans (same tree rest)⟩

theorem Run.Finds.orElse (first : run.Finds tape found) (next : other.Finds tape second) :
    (run.orElse other).Finds tape (Otherwise found second) := by
  apply Run.Ends.bind first
  intro outcome good
  rcases good with ⟨kept, finds⟩
  cases outcome with
  | matched rest tree =>
      refine Run.ends_pure ⟨kept, fun tree' rest' => ?_⟩
      rw [finds]
      constructor
      · exact .inl
      · intro either
        rcases either with holds | ⟨nothing, _⟩
        · exact holds
        · exact absurd ⟨tree, rest, (finds tree rest).mp rfl⟩ nothing
  | missed reason left =>
      have nothing : ¬ ∃ tree rest, found tree rest := by
        intro found
        rcases found with ⟨tree, rest, holds⟩
        cases (finds tree rest).mpr holds
      apply next.mono
      intro outcome good
      rcases good with ⟨kept, finds⟩
      refine ⟨kept, fun tree rest => ?_⟩
      rw [finds]
      constructor
      · intro holds
        exact .inr ⟨nothing, holds⟩
      · intro either
        rcases either with holds | ⟨_, holds⟩
        · exact absurd ⟨tree, rest, holds⟩ nothing
        · exact holds

theorem Run.Finds.alike (left : run.Finds tape found) (right : other.Finds tape found) :
    ∃ first early last late, run = .done first early ∧ other = .done last late ∧
      first.succeeded = last.succeeded ∧ first.tape = last.tape ∧ first.tree? = last.tree? := by
  obtain ⟨first, early, ran, firstKept, firstFinds⟩ := left
  obtain ⟨last, late, ran', lastKept, lastFinds⟩ := right
  refine ⟨first, early, last, late, ran, ran', ?_⟩
  cases first with
  | matched rest tree =>
      have same := (lastFinds tree rest).mpr ((firstFinds tree rest).mp rfl)
      rw [same]
      exact ⟨rfl, rfl, rfl⟩
  | missed reason left =>
      cases last with
      | matched rest tree => cases (firstFinds tree rest).mpr ((lastFinds tree rest).mp rfl)
      | missed reason' left' => exact ⟨rfl, firstKept.trans lastKept.symm, rfl⟩

end Finding

namespace Recognizer

variable {config : Config} {tape : Tape}

def FoundAhead {ε β : Type} (tape : Tape) : Except ε (Tape × β) → Prop
  | .ok found => tape.Ahead found.1
  | .error _ => True

theorem search_keeps {candidates : List Recognizer}
    (keeps : ∀ candidate ∈ candidates,
      (candidate.recognize config tape).Ends (Outcome.Kept tape)) :
    (search config tape candidates).Ends (FoundAhead tape) := by
  induction candidates with
  | nil => exact Run.ends_pure trivial
  | cons candidate others ih =>
      apply (keeps candidate List.mem_cons_self).bind
      intro outcome kept
      cases outcome with
      | matched rest tree => exact Run.ends_pure kept
      | missed reason left =>
          apply Run.emit_bind_ends
          apply (ih fun other member => keeps other (List.mem_cons_of_mem _ member)).bind
          intro found ahead
          cases found with
          | ok pair => exact Run.ends_pure ahead
          | error reasons => exact Run.ends_pure trivial

theorem firstOf_keeps {candidates : List Recognizer}
    (keeps : ∀ candidate ∈ candidates,
      (candidate.recognize config tape).Ends (Outcome.Kept tape)) :
    (firstOf candidates config tape).Ends (Outcome.Kept tape) := by
  apply (search_keeps keeps).bind
  intro found ahead
  cases found with
  | ok pair => exact Run.ends_pure ahead
  | error reasons => exact Run.ends_pure rfl

theorem chain_cons_keeps {step : Recognizer} {others : List Recognizer} {current : Tape}
    (begins : (step.recognize config current).Ends (Outcome.Kept current))
    (follows : ∀ rest, current.Ahead rest → (chain config others rest).Ends (FoundAhead tape)) :
    (chain config (step :: others) current).Ends (FoundAhead tape) := by
  apply begins.bind
  intro outcome kept
  cases outcome with
  | missed reason left => exact Run.ends_pure trivial
  | matched rest tree =>
      apply (follows rest kept).bind
      intro found ahead
      cases found with
      | error reason => exact Run.ends_pure trivial
      | ok pair => exact Run.ends_pure ahead

/-- A chain that begins ahead of `tape` needs its steps to keep the protocol only there. -/
theorem chain_keeps {steps : List Recognizer}
    (keeps : ∀ step ∈ steps, ∀ later, tape.Ahead later →
      (step.recognize config later).Ends (Outcome.Kept later))
    {current : Tape} (ahead : tape.Ahead current) :
    (chain config steps current).Ends (FoundAhead tape) := by
  induction steps generalizing current with
  | nil => exact Run.ends_pure ahead
  | cons step others ih =>
      apply chain_cons_keeps (keeps step List.mem_cons_self current ahead)
      intro rest further
      exact ih (fun other member => keeps other (List.mem_cons_of_mem _ member))
        (ahead.trans_within further.within)

theorem inOrder_keeps {first : Recognizer} {others : List Recognizer}
    (begins : (first.recognize config tape).Ends (Outcome.Kept tape))
    (follows : ∀ step ∈ others, ∀ later, tape.Ahead later →
      (step.recognize config later).Ends (Outcome.Kept later)) :
    (inOrder (first :: others) config tape).Ends (Outcome.Kept tape) := by
  have chained : (chain config (first :: others) tape).Ends (FoundAhead tape) :=
    chain_cons_keeps begins fun _ ahead => chain_keeps follows ahead
  apply chained.bind
  intro found ahead
  cases found with
  | ok pair => exact Run.ends_pure ahead
  | error reason => exact Run.ends_pure rfl

end Recognizer

end Constituency
