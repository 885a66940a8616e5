import Constituency.Pattern
import Constituency.Proofs.Derivations
import Constituency.Proofs.RunLogs

namespace Constituency

/-- A match is over the same tokens and not further back; a miss leaves the tape alone. -/
def Outcome.Restores (tape : Tape) : Outcome → Prop
  | .matched rest _ => tape.Within rest
  | .missed _ left => left = tape

def Answers (item : Tape → Run Outcome) : Prop :=
  ∀ tape, (item tape).Ends fun _ => True

def Restores (item : Tape → Run Outcome) : Prop :=
  ∀ tape, (item tape).Logs fun outcome _ => outcome.Restores tape

section Following

variable {α β : Type} {first : Run α} {next : α → Run β} {value : α} {result : β}
  {early late : List Event}

theorem Run.done_bind (ran : first = .done value early) (follows : next value = .done result late) :
    first >>= next = .done result (early ++ late) :=
  (bind_eq_done_iff _ _ _ _).mpr ⟨value, early, late, ran, follows, rfl⟩

theorem Run.done_bind_pure (ran : first = .done value early) (follows : next value = pure result) :
    first >>= next = .done result early := by
  have whole := done_bind ran follows
  rwa [List.append_nil] at whole

theorem Run.silent_bind_iff (silent : ∀ value, ∃ result, next value = pure result) :
    first >>= next = .done result early ↔
      ∃ value, first = .done value early ∧ next value = pure result := by
  constructor
  · exact fun done => silent_bind done silent
  · intro parts
    rcases parts with ⟨value, ran, follows⟩
    exact done_bind_pure ran follows

end Following

theorem Pattern.literal_restores (token : String) (config : Config) :
    Restores ((Pattern.literal token).recognizer.recognize config) := by
  intro tape outcome events done
  cases done
  unfold matchLiteral
  split
  next taken =>
    split
    · exact (Tape.read_ahead taken).within
    · exact rfl
  next => exact rfl

namespace Recognizer

variable {config : Config} {tape : Tape}

section Sequences

variable {steps : List Recognizer} {events : List Event}

theorem inOrder_missed_iff {reason : String} {place : Tape} :
    inOrder steps config tape = .done (.missed reason place) events ↔
      chain config steps tape = .done (.error reason) events ∧ place = tape := by
  rw [inOrder, Run.silent_bind_iff fun result => by cases result <;> exact ⟨_, rfl⟩]
  constructor
  · intro ended
    rcases ended with ⟨reason | ⟨rest, trees⟩, ran, same⟩
    · cases same
      exact ⟨ran, rfl⟩
    · cases same
  · intro stopped
    rcases stopped with ⟨ran, rfl⟩
    exact ⟨_, ran, rfl⟩

theorem inOrder_matched_iff {rest : Tape} {tree : Tree} :
    inOrder steps config tape = .done (.matched rest tree) events ↔
      ∃ trees, chain config steps tape = .done (.ok (rest, trees)) events ∧
        tree = .sequence trees := by
  rw [inOrder, Run.silent_bind_iff fun result => by cases result <;> exact ⟨_, rfl⟩]
  constructor
  · intro ended
    rcases ended with ⟨reason | ⟨rest, trees⟩, ran, same⟩
    · cases same
    · cases same
      exact ⟨trees, ran, rfl⟩
  · intro ended
    rcases ended with ⟨trees, ran, rfl⟩
    exact ⟨_, ran, rfl⟩

theorem chain_append (first last : List Recognizer) (tape : Tape) :
    chain config (first ++ last) tape = (do
      match ← chain config first tape with
      | .error reason => pure (.error reason)
      | .ok (middle, left) => do
        match ← chain config last middle with
        | .error reason => pure (.error reason)
        | .ok (rest, right) => pure (.ok (rest, left ++ right))) := by
  induction first generalizing tape with
  | nil =>
      rw [chain, pure_bind, List.nil_append]
      conv_lhs => rw [← bind_pure (chain config last tape)]
      apply bind_congr
      intro result
      cases result <;> rfl
  | cons step others ih =>
      -- Both sides begin with the same call, so they are compared for each of its outcomes.
      rw [List.cons_append, chain, chain, bind_assoc]
      apply bind_congr
      intro outcome
      cases outcome with
      | missed reason left => simp only [pure_bind]
      | matched rest tree =>
          simp only [ih, bind_assoc]
          apply bind_congr
          intro begun
          cases begun with
          | error reason => simp only [pure_bind]
          | ok found =>
              simp only [pure_bind, bind_assoc]
              apply bind_congr
              intro ended
              cases ended <;> simp only [pure_bind, List.cons_append]

theorem chain_append_error {first last : List Recognizer} {reason : String}
    (missed : chain config first tape = .done (.error reason) events) :
    chain config (first ++ last) tape = .done (.error reason) events := by
  rw [chain_append]
  exact Run.done_bind_pure missed rfl

section Onward

variable {first last : List Recognizer} {middle : Tape} {left : List Tree} {early late : List Event}
  (begins : chain config first tape = .done (.ok (middle, left)) early)

include begins

theorem chain_append_ok_error {reason : String}
    (missed : chain config last middle = .done (.error reason) late) :
    chain config (first ++ last) tape = .done (.error reason) (early ++ late) := by
  rw [chain_append]
  exact Run.done_bind begins (Run.done_bind_pure missed rfl)

theorem chain_append_ok_ok {rest : Tape} {right : List Tree}
    (follows : chain config last middle = .done (.ok (rest, right)) late) :
    chain config (first ++ last) tape = .done (.ok (rest, left ++ right)) (early ++ late) := by
  rw [chain_append]
  exact Run.done_bind begins (Run.done_bind_pure follows rfl)

end Onward

theorem chain_within {rest : Tape} {trees : List Tree}
    (restores : ∀ step ∈ steps, Restores (step.recognize config))
    (done : chain config steps tape = .done (.ok (rest, trees)) events) : tape.Within rest := by
  induction steps generalizing tape trees events with
  | nil =>
      cases done
      exact .refl _
  | cons step others ih =>
      obtain ⟨tree, place, more, later, ⟨early, reads⟩, follows, _⟩ := chain_cons_done done
      have begins : tape.Within place := restores step List.mem_cons_self tape _ _ reads
      exact begins.trans (ih (fun other member => restores other (List.mem_cons_of_mem _ member))
        follows)

theorem chain_answers (answers : ∀ step ∈ steps, Answers (step.recognize config)) (tape : Tape) :
    (chain config steps tape).Ends fun _ => True := by
  induction steps generalizing tape with
  | nil => exact Run.ends_pure trivial
  | cons step others ih =>
      apply (answers step List.mem_cons_self tape).bind
      intro outcome _
      cases outcome with
      | missed reason left => exact Run.ends_pure trivial
      | matched rest tree =>
          apply (ih (fun other member => answers other (List.mem_cons_of_mem _ member)) rest).bind
          intro result _
          cases result <;> exact Run.ends_pure trivial

theorem inOrder_restores (restores : ∀ step ∈ steps, Restores (step.recognize config)) :
    Restores (inOrder steps config) := by
  intro tape outcome events done
  cases outcome with
  | matched rest tree =>
      obtain ⟨trees, ran, _⟩ := inOrder_matched_iff.mp done
      exact chain_within restores ran
  | missed reason left => exact (inOrder_missed_iff.mp done).2

theorem inOrder_answers (answers : ∀ step ∈ steps, Answers (step.recognize config)) :
    Answers (inOrder steps config) := by
  intro tape
  apply (chain_answers answers tape).bind
  intro result _
  cases result <;> exact Run.ends_pure trivial

end Sequences

section Choices

variable {candidates : List Recognizer} {events : List Event}

def noneMatched (reasons : List String) : String :=
  "no alternative matched [" ++ "; ".intercalate reasons ++ "]"

/-- The candidate misses, and this is its part of what a choice then says. -/
def MissesWith (config : Config) (tape : Tape) (candidate : Recognizer) (text : String) : Prop :=
  ∃ reason left events, candidate.recognize config tape = .done (.missed reason left) events ∧
    text = candidate.name ++ ": " ++ reason

theorem firstOf_matched_iff {rest : Tape} {tree : Tree} :
    firstOf candidates config tape = .done (.matched rest tree) events ↔
      search config tape candidates = .done (.ok (rest, tree)) events := by
  rw [firstOf, Run.silent_bind_iff fun result => by cases result <;> exact ⟨_, rfl⟩]
  constructor
  · intro ended
    rcases ended with ⟨reasons | found, ran, same⟩
    · cases same
    · cases same
      exact ran
  · exact fun ran => ⟨_, ran, rfl⟩

theorem firstOf_missed_iff {reason : String} {place : Tape} :
    firstOf candidates config tape = .done (.missed reason place) events ↔
      ∃ reasons, search config tape candidates = .done (.error reasons) events ∧
        reason = noneMatched reasons ∧ place = tape := by
  rw [firstOf, Run.silent_bind_iff fun result => by cases result <;> exact ⟨_, rfl⟩]
  constructor
  · intro ended
    rcases ended with ⟨reasons | found, ran, same⟩
    · cases same
      exact ⟨reasons, ran, rfl, rfl⟩
    · cases same
  · intro ended
    rcases ended with ⟨reasons, ran, rfl, rfl⟩
    exact ⟨_, ran, rfl⟩

theorem search_append (first last : List Recognizer) :
    search config tape (first ++ last) = (do
      match ← search config tape first with
      | .ok found => pure (.ok found)
      | .error left => do
        match ← search config tape last with
        | .ok found => pure (.ok found)
        | .error right => pure (.error (left ++ right))) := by
  induction first with
  | nil =>
      rw [search, pure_bind, List.nil_append]
      conv_lhs => rw [← bind_pure (search config tape last)]
      apply bind_congr
      intro result
      cases result <;> rfl
  | cons candidate others ih =>
      rw [List.cons_append, search, search, bind_assoc]
      apply bind_congr
      intro outcome
      cases outcome with
      | matched rest tree => simp only [pure_bind]
      | missed reason place =>
          simp only [ih, bind_assoc]
          apply bind_congr
          intro
          apply bind_congr
          intro found
          cases found with
          | ok pair => simp only [pure_bind]
          | error left =>
              simp only [pure_bind, bind_assoc]
              apply bind_congr
              intro later
              cases later <;> simp only [pure_bind, List.cons_append]

theorem search_append_ok {first last : List Recognizer} {found : Tape × Tree}
    (matched : search config tape first = .done (.ok found) events) :
    search config tape (first ++ last) = .done (.ok found) events := by
  rw [search_append]
  exact Run.done_bind_pure matched rfl

section Onward

variable {first last : List Recognizer} {left : List String} {early late : List Event}
  (missed : search config tape first = .done (.error left) early)

include missed

theorem search_append_error_ok {found : Tape × Tree}
    (follows : search config tape last = .done (.ok found) late) :
    search config tape (first ++ last) = .done (.ok found) (early ++ late) := by
  rw [search_append]
  exact Run.done_bind missed (Run.done_bind_pure follows rfl)

theorem search_append_error_error {right : List String}
    (follows : search config tape last = .done (.error right) late) :
    search config tape (first ++ last) = .done (.error (left ++ right)) (early ++ late) := by
  rw [search_append]
  exact Run.done_bind missed (Run.done_bind_pure follows rfl)

end Onward

theorem search_missed {reasons : List String}
    (missed : search config tape candidates = .done (.error reasons) events) :
    List.Forall₂ (MissesWith config tape) candidates reasons := by
  induction candidates generalizing reasons events with
  | nil =>
      cases missed
      exact .nil
  | cons candidate others ih =>
      obtain ⟨outcome, early, late, ran, follows, _⟩ := (Run.bind_eq_done_iff _ _ _ _).mp missed
      cases outcome with
      | matched rest tree => cases follows
      | missed reason place =>
          obtain ⟨_, _, _, _, searched, _⟩ := (Run.bind_eq_done_iff _ _ _ _).mp follows
          obtain ⟨result, later, _, found, given, _⟩ := (Run.bind_eq_done_iff _ _ _ _).mp searched
          cases result with
          | ok pair => cases given
          | error more =>
              cases given
              exact .cons ⟨reason, place, early, ran, rfl⟩ (ih found)

theorem search_answers (answers : ∀ candidate ∈ candidates, Answers (candidate.recognize config)) :
    (search config tape candidates).Ends fun _ => True := by
  induction candidates with
  | nil => exact Run.ends_pure trivial
  | cons candidate others ih =>
      apply (answers candidate List.mem_cons_self tape).bind
      intro outcome _
      cases outcome with
      | matched rest tree => exact Run.ends_pure trivial
      | missed reason place =>
          apply Run.emit_bind_ends
          apply (ih fun other member => answers other (List.mem_cons_of_mem _ member)).bind
          intro result _
          cases result <;> exact Run.ends_pure trivial

theorem firstOf_restores
    (restores : ∀ candidate ∈ candidates, Restores (candidate.recognize config)) :
    Restores (firstOf candidates config) := by
  intro tape outcome events done
  cases outcome with
  | matched rest tree =>
      obtain ⟨candidate, member, _, reads⟩ := search_found (firstOf_matched_iff.mp done)
      exact restores candidate member tape _ _ reads
  | missed reason left =>
      obtain ⟨_, _, _, same⟩ := firstOf_missed_iff.mp done
      exact same

theorem firstOf_answers
    (answers : ∀ candidate ∈ candidates, Answers (candidate.recognize config)) :
    Answers (firstOf candidates config) := by
  intro tape
  apply (search_answers answers).bind
  intro result _
  cases result <;> exact Run.ends_pure trivial

end Choices

/-- A sequence of two lists is the sequence of the one and then, where that stopped, of the other; a
choice from two lists is a choice from the one and then, at the same place, from the other, and if
both miss it gives the reasons of both. If all parts restore their tapes, so do both combinations;
and if all parts give outcomes, so do both. -/
theorem append_splits (first last : List Recognizer) (config : Config) (tape : Tape) :
    (∀ reason place early, inOrder first config tape = .done (.missed reason place) early →
      inOrder (first ++ last) config tape = .done (.missed reason place) early) ∧
    (∀ middle tree early, inOrder first config tape = .done (.matched middle tree) early →
      ∃ left, tree = .sequence left ∧
        (∀ reason place late, inOrder last config middle = .done (.missed reason place) late →
          inOrder (first ++ last) config tape = .done (.missed reason tape) (early ++ late)) ∧
        ∀ rest tree' late, inOrder last config middle = .done (.matched rest tree') late →
          ∃ right, tree' = .sequence right ∧
            inOrder (first ++ last) config tape
              = .done (.matched rest (.sequence (left ++ right))) (early ++ late)) ∧
    (∀ rest tree early, firstOf first config tape = .done (.matched rest tree) early →
      firstOf (first ++ last) config tape = .done (.matched rest tree) early) ∧
    (∀ reason place early, firstOf first config tape = .done (.missed reason place) early →
      (∀ rest tree late, firstOf last config tape = .done (.matched rest tree) late →
        firstOf (first ++ last) config tape = .done (.matched rest tree) (early ++ late)) ∧
      ∀ reason' place' late, firstOf last config tape = .done (.missed reason' place') late →
        ∃ left right, List.Forall₂ (MissesWith config tape) first left ∧
          List.Forall₂ (MissesWith config tape) last right ∧
          reason = noneMatched left ∧ reason' = noneMatched right ∧
          firstOf (first ++ last) config tape
            = .done (.missed (noneMatched (left ++ right)) tape) (early ++ late)) ∧
    ((∀ part ∈ first, Restores (part.recognize config)) →
      Restores (inOrder first config) ∧ Restores (firstOf first config)) ∧
    ((∀ part ∈ first, Answers (part.recognize config)) →
      Answers (inOrder first config) ∧ Answers (firstOf first config)) := by
  refine ⟨?_, ?_, ?_, ?_, fun restores => ⟨inOrder_restores restores, firstOf_restores restores⟩,
    fun answers => ⟨inOrder_answers answers, firstOf_answers answers⟩⟩
  · intro reason place early missed
    obtain ⟨stopped, rfl⟩ := inOrder_missed_iff.mp missed
    exact inOrder_missed_iff.mpr ⟨chain_append_error stopped, rfl⟩
  · intro middle tree early matched
    obtain ⟨left, began, rfl⟩ := inOrder_matched_iff.mp matched
    refine ⟨left, rfl, ?_, ?_⟩
    · intro reason place late missed
      obtain ⟨stopped, _⟩ := inOrder_missed_iff.mp missed
      exact inOrder_missed_iff.mpr ⟨chain_append_ok_error began stopped, rfl⟩
    · intro rest tree' late matched'
      obtain ⟨right, ended, rfl⟩ := inOrder_matched_iff.mp matched'
      exact ⟨right, rfl, inOrder_matched_iff.mpr ⟨_, chain_append_ok_ok began ended, rfl⟩⟩
  · intro rest tree early matched
    exact firstOf_matched_iff.mpr (search_append_ok (firstOf_matched_iff.mp matched))
  · intro reason place early missed
    obtain ⟨left, nothing, rfl, _⟩ := firstOf_missed_iff.mp missed
    refine ⟨?_, ?_⟩
    · intro rest tree late matched
      have found := search_append_error_ok nothing (firstOf_matched_iff.mp matched)
      exact firstOf_matched_iff.mpr found
    · intro reason' place' late missed'
      obtain ⟨right, nothing', rfl, _⟩ := firstOf_missed_iff.mp missed'
      have neither := search_append_error_error nothing nothing'
      exact ⟨left, right, search_missed nothing, search_missed nothing', rfl, rfl,
        firstOf_missed_iff.mpr ⟨_, neither, rfl, rfl⟩⟩

theorem append_splits_literals :
    let first := Pattern.recognizers [.literal "the"]
    let last := Pattern.recognizers [.literal "red", .literal "cube"]
    let tape : Tape := ⟨["the", "red", "ball"], 0, by decide, by decide⟩
    inOrder (first ++ last) .initial tape
        = .done (.missed "Literal failed at token 2: expected cube" tape) [] ∧
      inOrder (first ++ []) .initial tape
        = .done (.matched (tape.seek 1) (.sequence [.token "the"])) [] ∧
      inOrder (last ++ first) .initial tape
        = .done (.missed "Literal failed at token 0: expected red" tape) [] ∧
      firstOf (first ++ last) .initial tape = .done (.matched (tape.seek 1) (.token "the")) [] ∧
      firstOf (last ++ first) .initial tape = .done (.matched (tape.seek 1) (.token "the"))
        [.missed "Literal" 0, .missed "Literal" 0] ∧
      (∃ left right, List.Forall₂ (MissesWith .initial (tape.seek 3)) last left ∧
        List.Forall₂ (MissesWith .initial (tape.seek 3)) first right ∧
        firstOf (last ++ first) .initial (tape.seek 3)
          = .done (.missed (noneMatched (left ++ right)) (tape.seek 3))
            [.missed "Literal" 3, .missed "Literal" 3, .missed "Literal" 3]) ∧
      Restores (firstOf first .initial) ∧ Answers (inOrder first .initial) := by
  intro first last tape
  have restores : ∀ part ∈ first, Restores (part.recognize .initial) := by
    intro part member
    cases List.mem_singleton.mp member
    exact Pattern.literal_restores "the" .initial
  have answers : ∀ part ∈ first, Answers (part.recognize .initial) := by
    intro part member tape
    cases List.mem_singleton.mp member
    exact Run.ends_pure trivial
  obtain ⟨_, onward, chosen, _, keep, give⟩ := append_splits first last .initial tape
  obtain ⟨_, alone, _⟩ := append_splits first [] .initial tape
  obtain ⟨stopped, _, _, next, _⟩ := append_splits last first .initial tape
  obtain ⟨_, _, _, neither, _⟩ := append_splits last first .initial (tape.seek 3)
  have begun : inOrder first .initial tape
      = .done (.matched (tape.seek 1) (.sequence [.token "the"])) [] := rfl
  obtain ⟨_, _, missed, _⟩ := onward _ _ _ begun
  obtain ⟨left, same, _, matched⟩ := alone _ _ _ begun
  obtain ⟨right, same', whole⟩ := matched (tape.seek 1) (.sequence []) [] rfl
  cases same
  cases same'
  obtain ⟨others, _⟩ := next (noneMatched ["Literal: expected red", "Literal: expected cube"])
    tape [.missed "Literal" 0, .missed "Literal" 0] rfl
  obtain ⟨_, nothing⟩ := neither
    (noneMatched ["Literal: expected red", "Literal: expected cube"]) (tape.seek 3)
    [.missed "Literal" 3, .missed "Literal" 3] rfl
  obtain ⟨left, right, reasons, reasons', _, _, both⟩ :=
    nothing (noneMatched ["Literal: expected the"]) (tape.seek 3) [.missed "Literal" 3] rfl
  have early : inOrder last .initial tape = .done (.missed ("Literal" ++ " failed at token "
      ++ toString (0 : Nat) ++ ": " ++ "expected red") tape) [] := rfl
  have late : inOrder last .initial (tape.seek 1) = .done (.missed ("Literal"
      ++ " failed at token " ++ toString (2 : Nat) ++ ": " ++ "expected cube") (tape.seek 1)) [] :=
    rfl
  exact ⟨missed "Literal failed at token 2: expected cube" (tape.seek 1) [] late, whole,
    stopped _ _ [] early, chosen _ _ [] rfl, others _ _ [] rfl,
    ⟨left, right, reasons, reasons', both⟩, (keep restores).2, (give answers).1⟩

end Recognizer

end Constituency
