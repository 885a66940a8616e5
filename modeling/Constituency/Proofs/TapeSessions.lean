import Constituency.Proofs.CutTapes
import Constituency.Proofs.Recursion
import Constituency.Proofs.Respelling

namespace Constituency

namespace Tape

structure Sound (tokens : List String) (tape : Tape) : Prop where
  keeps : tape.tokens = tokens
  bounded : tape.position ≤ tokens.length
  parts : tape.consumed ++ tape.remaining = tape.tokens
  before : tape.consumed.length = tape.position
  after : tape.position + tape.remaining.length = tokens.length
  current : tape.current? = none ↔ tape.atEnd = true
  forward : ∀ cause, tape.forward = .error cause ↔ tape.atEnd = true ∧ cause = .endOfTape
  read : ∀ cause, tape.read = .error cause ↔ tape.atEnd = true ∧ cause = .endOfTape
  back : ∀ cause, tape.back = .error cause ↔ tape.atStart = true ∧ cause = .startOfTape
  forth_and_back : ∀ rest, tape.forward = .ok rest → rest.back = .ok tape
  back_and_forth : ∀ earlier, tape.back = .ok earlier → earlier.forward = .ok tape
  last : ∀ token rest, tape.read = .ok (token, rest) →
    tape.current? = some token ∧ tape.forward = .ok rest ∧ rest.consumed.getLast? = some token

section Moves

variable {tape rest : Tape} {token : String} {cause : Error}

theorem atEnd_iff : tape.atEnd = true ↔ tape.position = tape.tokens.length :=
  beq_iff_eq

theorem atStart_iff : tape.atStart = true ↔ tape.position = 0 :=
  beq_iff_eq

theorem current?_eq_none_iff : tape.current? = none ↔ tape.atEnd = true := by
  have bound := tape.position_le
  rw [current?, List.getElem?_eq_none_iff, atEnd_iff]
  omega

theorem consumed_length (tape : Tape) : tape.consumed.length = tape.position := by
  rw [consumed, List.length_take, Nat.min_eq_left tape.position_le]

theorem forward_eq_error_iff :
    tape.forward = .error cause ↔ tape.atEnd = true ∧ cause = .endOfTape := by
  constructor
  · intro refused
    unfold forward at refused
    split at refused
    next => cases refused
    next full =>
      cases refused
      have bound := tape.position_le
      exact ⟨atEnd_iff.mpr (by omega), rfl⟩
  · intro refused
    rcases refused with ⟨ended, rfl⟩
    exact forward_eq_error (current?_eq_none_iff.mpr ended)

theorem back_eq_error_iff :
    tape.back = .error cause ↔ tape.atStart = true ∧ cause = .startOfTape := by
  rw [atStart_iff]
  unfold back
  split
  next first => simp [first, eq_comm]
  next later => simp [later]

theorem back_eq (moved : tape.back = .ok rest) :
    rest.tokens = tape.tokens ∧ tape.position = rest.position + 1 := by
  unfold back at moved
  split at moved
  next => cases moved
  next later =>
    cases moved
    exact ⟨rfl, (Nat.succ_pred_eq_of_ne_zero later).symm⟩

theorem back_of_forward (moved : tape.forward = .ok rest) : rest.back = .ok tape := by
  obtain ⟨tokens, position⟩ := forward_eq moved
  cases returned : rest.back with
  | error cause =>
      have first := atStart_iff.mp (back_eq_error_iff.mp returned).1
      omega
  | ok place =>
      obtain ⟨tokens', position'⟩ := back_eq returned
      exact congrArg Except.ok (eq_of_position (tokens'.trans tokens) (by omega))

theorem forward_of_back (moved : tape.back = .ok rest) : rest.forward = .ok tape := by
  obtain ⟨tokens, position⟩ := back_eq moved
  cases returned : rest.forward with
  | error cause =>
      have last := atEnd_iff.mp (forward_eq_error_iff.mp returned).1
      have bound := tape.position_le
      rw [tokens] at last
      omega
  | ok place =>
      obtain ⟨tokens', position'⟩ := forward_eq returned
      exact congrArg Except.ok (eq_of_position (tokens'.trans tokens) (by omega))

theorem read_eq_error_iff :
    tape.read = .error cause ↔ tape.atEnd = true ∧ cause = .endOfTape := by
  rw [← current?_eq_none_iff]
  cases current : tape.current? with
  | none => simp [read, current, eq_comm]
  | some token =>
      obtain ⟨rest, moved⟩ := forward_of_current current
      simp [read, current, moved]

theorem consumed_getLast? (taken : tape.read = .ok (token, rest)) :
    rest.consumed.getLast? = some token := by
  obtain ⟨current, moved⟩ := read_eq taken
  obtain ⟨tokens, position⟩ := forward_eq moved
  have room : tape.position < tape.tokens.length := room_of_current current
  have here : tape.tokens[tape.position] = token := by
    rw [current?, List.getElem?_eq_getElem room] at current
    exact Option.some.inj current
  rw [consumed, tokens, position, List.take_succ_eq_append_getElem room, List.getLast?_concat,
    here]

end Moves

theorem sound_of_tokens {tokens : List String} {tape : Tape} (same : tape.tokens = tokens) :
    tape.Sound tokens where
  keeps := same
  bounded := same ▸ tape.position_le
  parts := consumed_append_remaining tape
  before := consumed_length tape
  after := by
    have bound := tape.position_le
    rw [remaining_length, ← same]
    omega
  current := current?_eq_none_iff
  forward _ := forward_eq_error_iff
  read _ := read_eq_error_iff
  back _ := back_eq_error_iff
  forth_and_back _ := back_of_forward
  back_and_forth _ := forward_of_back
  last _ _ taken := ⟨(read_eq taken).1, (read_eq taken).2, consumed_getLast? taken⟩

inductive Operation
  | seek (position : Nat)
  | forward
  | back
  | rewind
  | fork
  | read
  | copy
  | recognize (rule : Rule) (config : Config)

/-- The tape that an operation was for, as it is then, and the tape that was added, if any. -/
structure Effect where
  tape : Tape
  added : Option Tape

def Effect.tapes (effect : Effect) : List Tape :=
  effect.tape :: effect.added.toList

namespace Operation

def perform : Operation → Tape → Run (Except Error Effect)
  | .seek position, tape => pure (.ok ⟨tape.seek position, none⟩)
  | .forward, tape => pure (tape.forward.map fun rest => ⟨rest, none⟩)
  | .back, tape => pure (tape.back.map fun earlier => ⟨earlier, none⟩)
  | .rewind, tape => pure (.ok ⟨tape.rewind, none⟩)
  | .fork, tape => pure (tape.forward.map fun rest => ⟨tape, some rest⟩)
  | .read, tape => pure (tape.read.map fun found => ⟨tape, some found.2⟩)
  | .copy, tape => pure (.ok ⟨tape, some tape⟩)
  | .recognize rule config, tape => do
    let outcome ← rule.recognize config tape
    pure (.ok ⟨tape, some outcome.tape⟩)

def suits : Operation → Bool
  | .recognize rule config => config.suits rule
  | _ => true

def refusal : Operation → Tape → Option Error
  | .forward, tape | .fork, tape | .read, tape => if tape.atEnd then some .endOfTape else none
  | .back, tape => if tape.atStart then some .startOfTape else none
  | _, _ => none

def Keeps (operation : Operation) (tape : Tape) : Except Error Effect → Prop
  | .error cause => operation.refusal tape = some cause
  | .ok effect => operation.refusal tape = none ∧
    ∀ later ∈ effect.tapes, later.tokens = tape.tokens

theorem keeps_map {α : Type} {operation : Operation} {tape : Tape} {moved : Except Error α}
    {effect : α → Effect}
    (refused : ∀ cause, moved = .error cause → operation.refusal tape = some cause)
    (allowed : ∀ found, moved = .ok found → operation.refusal tape = none ∧
      ∀ later ∈ (effect found).tapes, later.tokens = tape.tokens) :
    operation.Keeps tape (moved.map effect) := by
  cases moved with
  | error cause => exact refused cause rfl
  | ok found => exact allowed found rfl

theorem Keeps.error_iff {operation : Operation} {tape : Tape} {result : Except Error Effect}
    (keeps : operation.Keeps tape result) (cause : Error) :
    result = .error cause ↔ operation.refusal tape = some cause := by
  constructor
  · intro same
    subst same
    exact keeps
  · intro refused
    cases result with
    | error other => exact congrArg Except.error (Option.some.inj (Eq.symm keeps |>.trans refused))
    | ok effect => cases keeps.1.symm.trans refused

theorem perform_keeps {operation : Operation} (suits : operation.suits = true) (tape : Tape) :
    (operation.perform tape).Ends (operation.Keeps tape) := by
  -- The three operations that go forward are refused, and allowed, by one rule.
  have atEnd : ∀ {cause}, tape.atEnd = true ∧ cause = .endOfTape →
      (if tape.atEnd then some Error.endOfTape else none) = some cause := by
    intro cause refused
    rcases refused with ⟨ended, rfl⟩
    exact if_pos ended
  have onward : ∀ {rest}, tape.forward = .ok rest →
      (if tape.atEnd then some Error.endOfTape else none) = none := by
    intro rest moved
    refine if_neg fun ended => ?_
    cases moved.symm.trans (forward_eq_error_iff.mpr ⟨ended, rfl⟩)
  cases operation with
  | seek position => exact Run.ends_pure ⟨rfl, by simp [Effect.tapes, Tape.seek]⟩
  | rewind => exact Run.ends_pure ⟨rfl, by simp [Effect.tapes, Tape.rewind]⟩
  | copy => exact Run.ends_pure ⟨rfl, by simp [Effect.tapes]⟩
  | forward =>
      apply Run.ends_pure
      apply keeps_map
      · exact fun cause refused => atEnd (forward_eq_error_iff.mp refused)
      · exact fun rest moved => ⟨onward moved, by simp [Effect.tapes, (forward_eq moved).1]⟩
  | fork =>
      apply Run.ends_pure
      apply keeps_map
      · exact fun cause refused => atEnd (forward_eq_error_iff.mp refused)
      · exact fun rest moved => ⟨onward moved, by simp [Effect.tapes, (forward_eq moved).1]⟩
  | read =>
      apply Run.ends_pure
      apply keeps_map
      · exact fun cause refused => atEnd (read_eq_error_iff.mp refused)
      · intro found taken
        have moved := (read_eq taken).2
        exact ⟨onward moved, by simp [Effect.tapes, (forward_eq moved).1]⟩
  | back =>
      apply Run.ends_pure
      apply keeps_map
      · intro cause refused
        obtain ⟨first, rfl⟩ := back_eq_error_iff.mp refused
        exact if_pos first
      · intro earlier moved
        refine ⟨if_neg fun first => ?_, by simp [Effect.tapes, (back_eq moved).1]⟩
        cases moved.symm.trans (back_eq_error_iff.mpr ⟨first, rfl⟩)
  | recognize rule config =>
      apply (Rule.recognize_keeps suits tape).bind
      intro outcome kept
      exact Run.ends_pure ⟨rfl, by simp [Effect.tapes, kept.tokens]⟩

end Operation

namespace Session

/-- Does an operation with one tape of a session; there is nothing to do without the tape. -/
def step (tapes : List Tape) (index : Nat) (operation : Operation) : Run (List Tape) :=
  match tapes[index]? with
  | none => pure tapes
  | some tape => do
    match ← operation.perform tape with
    | .error _ => pure tapes
    | .ok effect => pure (tapes.set index effect.tape ++ effect.added.toList)

def run : List (Nat × Operation) → List Tape → Run (List Tape)
  | [], tapes => pure tapes
  | (index, operation) :: steps, tapes => do
    let later ← step tapes index operation
    run steps later

/-- The operation adds tapes at most, and changes only its own; if it is refused it does neither. -/
structure Local (operation : Operation) (index : Nat) (tapes later : List Tape) : Prop where
  others : ∀ other, other ≠ index → other < tapes.length → later[other]? = tapes[other]?
  grows : tapes.length ≤ later.length
  refused : ∀ tape cause, tapes[index]? = some tape → operation.refusal tape = some cause →
    later = tapes

theorem local_refl (operation : Operation) (index : Nat) (tapes : List Tape) :
    Local operation index tapes tapes where
  others _ _ _ := rfl
  grows := Nat.le_refl _
  refused _ _ _ _ := rfl

theorem local_effect {operation : Operation} {index : Nat} {tapes : List Tape} {tape : Tape}
    (found : tapes[index]? = some tape) (allowed : operation.refusal tape = none)
    (effect : Effect) :
    Local operation index tapes (tapes.set index effect.tape ++ effect.added.toList) where
  others other apart known := by
    rw [List.getElem?_append_left (by rwa [List.length_set]), List.getElem?_set_ne apart.symm]
  grows := by simp
  refused place cause here refused := by
    cases found.symm.trans here
    cases allowed.symm.trans refused

variable {tokens : List String} {tapes : List Tape}

theorem step_keeps (based : ∀ tape ∈ tapes, tape.tokens = tokens) {operation : Operation}
    (suits : operation.suits = true) (index : Nat) :
    (step tapes index operation).Ends fun later =>
      (∀ tape ∈ later, tape.tokens = tokens) ∧ Local operation index tapes later := by
  unfold step
  split
  next => exact Run.ends_pure ⟨based, local_refl operation index tapes⟩
  next tape found =>
    have same : tape.tokens = tokens := based tape (List.mem_of_getElem? found)
    apply (operation.perform_keeps suits tape).bind
    intro result kept
    cases result with
    | error cause => exact Run.ends_pure ⟨based, local_refl operation index tapes⟩
    | ok effect =>
        obtain ⟨allowed, keeps⟩ := kept
        refine Run.ends_pure ⟨?_, local_effect found allowed effect⟩
        intro later member
        rcases List.mem_append.mp member with changed | added
        · rcases List.mem_or_eq_of_mem_set changed with old | rfl
          · exact based later old
          · exact (keeps _ List.mem_cons_self).trans same
        · exact (keeps later (List.mem_cons_of_mem _ added)).trans same

theorem run_keeps {steps : List (Nat × Operation)}
    (suits : ∀ entry ∈ steps, entry.2.suits = true) (based : ∀ tape ∈ tapes, tape.tokens = tokens) :
    (run steps tapes).Ends fun later => ∀ tape ∈ later, tape.tokens = tokens := by
  induction steps generalizing tapes with
  | nil => exact Run.ends_pure based
  | cons entry steps ih =>
      obtain ⟨index, operation⟩ := entry
      apply (step_keeps based (suits _ List.mem_cons_self) index).bind
      intro later kept
      exact ih (fun other member => suits other (List.mem_cons_of_mem _ member)) kept.1

/-- After any operations, each tape of a session that began with one tape is over its tokens, with
its head between their start and their end; and the next operation, whichever it is, is refused for
the ends of its own tape only and changes no other tape. -/
theorem run_sound (tokens : List String) (present : tokens ≠ []) (position : Nat)
    (steps : List (Nat × Operation)) (suits : ∀ entry ∈ steps, entry.2.suits = true) :
    ∃ first tapes events, ofTokens tokens = .ok first ∧
      run steps [first.seek position] = .done tapes events ∧
      (∀ tape ∈ tapes, tape.Sound tokens) ∧
      ∀ index (operation : Operation), operation.suits = true →
        (∀ tape, tapes[index]? = some tape → ∃ result events,
          operation.perform tape = .done result events ∧
            ∀ cause, result = .error cause ↔ operation.refusal tape = some cause) ∧
        ∃ later events, step tapes index operation = .done later events ∧
          Local operation index tapes later := by
  have made : ofTokens tokens = .ok ⟨tokens, 0, present, Nat.zero_le _⟩ := dif_neg present
  have based : ∀ tape ∈ [seek ⟨tokens, 0, present, Nat.zero_le _⟩ position],
      tape.tokens = tokens := by
    simp [seek]
  obtain ⟨tapes, events, done, keeps⟩ := run_keeps suits based
  refine ⟨_, tapes, events, made, done, fun tape member => sound_of_tokens (keeps tape member), ?_⟩
  intro index operation suits
  constructor
  · intro tape _
    obtain ⟨result, events, performed, kept⟩ := operation.perform_keeps suits tape
    exact ⟨result, events, performed, kept.error_iff⟩
  · obtain ⟨later, events, stepped, _, here⟩ := step_keeps keeps suits index
    exact ⟨later, events, stepped, here⟩

theorem run_sound_clause :
    let steps : List (Nat × Operation) :=
      [(0, .back), (0, .copy), (1, .seek 1), (1, .recognize .nounClause .initial), (2, .read),
        (1, .fork), (0, .rewind), (3, .forward)]
    let tokens := ["a", "the", "ball", "rolls"]
    tokens ≠ [] ∧ (∀ entry ∈ steps, entry.2.suits = true) ∧
      ∃ first tapes events, ofTokens tokens = .ok first ∧
        run steps [first.seek 18446744073709551615] = .done tapes events ∧
        (∀ tape ∈ tapes, tape.Sound tokens) ∧
        ∃ later events, step tapes 0 .back = .done later events ∧ Local .back 0 tapes later := by
  intro steps tokens
  have present : tokens ≠ [] := by decide
  have suits : ∀ entry ∈ steps, entry.2.suits = true := by decide
  obtain ⟨first, tapes, events, made, done, sound, next⟩ :=
    run_sound tokens present 18446744073709551615 steps suits
  exact ⟨present, suits, first, tapes, events, made, done, sound, (next 0 .back rfl).2⟩

end Session

end Tape

end Constituency
