import Mathlib.Data.List.ProdSigma
import Constituency.Machine.Table
import Constituency.Proofs.AppendedParts

namespace Constituency

namespace Machine

/-- From this stage the machine takes so many steps and then no more. -/
inductive Lasts {σ α : Type} (machine : Machine σ α) : Stage σ α → Nat → Prop
  | ended {stage} (stuck : ∀ next, ¬ machine.Steps stage next) : Lasts machine stage 0
  | step {stage next count} (steps : machine.Steps stage next)
      (onward : Lasts machine next count) : Lasts machine stage (count + 1)

variable {σ α κ : Type} {machine : Machine σ α} {stage next other visited : Stage σ α}
  {count again : Nat}

theorem Lasts.from_visited (lasts : machine.Lasts stage count)
    (reaches : machine.Reaches stage visited) : ∃ left ≤ count, machine.Lasts visited left := by
  induction reaches with
  | refl => exact ⟨count, Nat.le_refl _, lasts⟩
  | tail _ steps ih =>
      obtain ⟨left, fewer, lasts⟩ := ih
      cases lasts with
      | ended stuck => exact absurd steps (stuck _)
      | step steps' onward =>
          cases steps_unique steps steps'
          exact ⟨_, Nat.le_of_succ_le fewer, onward⟩

section Keys

variable {key : Stage σ α → κ}
  (follows : ∀ stage other next, key stage = key other → machine.Steps stage next →
    ∃ after, machine.Steps other after ∧ key next = key after)

include follows

theorem Lasts.unique (lasts : machine.Lasts stage count) (lasts' : machine.Lasts other again)
    (same : key stage = key other) : count = again := by
  induction lasts generalizing other again with
  | ended stuck =>
      cases lasts' with
      | ended => rfl
      | step steps onward =>
          obtain ⟨after, steps', _⟩ := follows _ _ _ same.symm steps
          exact absurd steps' (stuck after)
  | step steps onward ih =>
      obtain ⟨after, steps', keys⟩ := follows _ _ _ same steps
      cases lasts' with
      | ended stuck => exact absurd steps' (stuck after)
      | step steps'' onward' =>
          cases steps_unique steps' steps''
          rw [ih onward' keys]

/-- A run that ends takes no more steps than there are keys to go on from: at a key that it came
back to, it would have to last as long as it did before. -/
theorem Lasts.count_le [DecidableEq κ] (lasts : machine.Lasts stage count) {places : List κ}
    (known : ∀ visited after, machine.Reaches stage visited → machine.Steps visited after →
      key visited ∈ places) : count ≤ places.length := by
  induction lasts generalizing places with
  | ended => exact Nat.zero_le _
  | @step stage next count steps onward ih =>
      have here : key stage ∈ places := known stage next .refl steps
      have later : ∀ visited after, machine.Reaches next visited → machine.Steps visited after →
          key visited ∈ places.erase (key stage) := by
        intro visited after reaches further
        refine (List.mem_erase_of_ne fun back => ?_).mpr
          (known visited after (.head steps reaches) further)
        obtain ⟨left, fewer, lasts⟩ := onward.from_visited reaches
        have longer := lasts.unique follows (.step steps onward) back
        omega
      have shorter := ih later
      rw [List.length_erase_of_mem here] at shorter
      have some := List.length_pos_of_mem here
      omega

end Keys

variable [DecidableEq σ] {home : Tape}

theorem drive_ended (stuck : ∀ next, ¬ machine.Steps stage next) (budget : Nat) :
    machine.drive home (budget + 1) stage = machine.drive home 1 stage := by
  by_cases accepts : stage.state ∈ machine.accepting
  · simp only [drive, if_pos accepts]
  by_cases rejects : stage.state ∈ machine.rejecting
  · simp only [drive, if_neg accepts, if_pos rejects]
  have running : ¬ machine.Final stage.state := not_or.mpr ⟨accepts, rejects⟩
  simp only [drive, if_neg accepts, if_neg rejects]
  cases handled : machine.handler stage.state with
  | none => rfl
  | some step =>
      cases ran : step stage.tape stage.gathered with
      | fault cause => simp only [ran, Run.fault_bind]
      | done next events => exact absurd ⟨running, step, events, handled, ran⟩ (stuck next)

theorem Lasts.drive_eq (lasts : machine.Lasts stage count) (home : Tape) {budget : Nat}
    (enough : count < budget) :
    machine.drive home budget stage = machine.drive home (count + 1) stage := by
  induction lasts generalizing budget with
  | ended stuck =>
      obtain ⟨budget, rfl⟩ := Nat.exists_eq_add_of_lt enough
      rw [Nat.zero_add, drive_ended stuck]
  | @step stage next count steps onward ih =>
      obtain ⟨budget, rfl⟩ := Nat.exists_eq_add_of_lt enough
      obtain ⟨events, same⟩ := drive_onward steps home
      rw [same, same, ih (by omega : count < count + 1 + budget)]

theorem lasts_of_drive {budget : Nat}
    (answered : machine.drive home budget stage ≠ .fault .exhausted) :
    ∃ count < budget, machine.Lasts stage count := by
  induction budget generalizing stage with
  | zero => exact absurd rfl answered
  | succ budget ih =>
      by_cases moves : ∃ next, machine.Steps stage next
      · obtain ⟨next, steps⟩ := moves
        obtain ⟨events, same⟩ := drive_onward steps home
        have onward : machine.drive home budget next ≠ .fault .exhausted := by
          intro used
          rw [same, used] at answered
          exact answered rfl
        obtain ⟨count, fewer, lasts⟩ := ih onward
        exact ⟨count + 1, Nat.succ_lt_succ fewer, .step steps lasts⟩
      · exact ⟨0, Nat.succ_pos _, .ended (not_exists.mp moves)⟩

end Machine

theorem Rule.recognize_restores (rule : Rule) (config : Config) :
    Restores (rule.recognize config) := by
  intro tape outcome events done
  have kept := kept_of_done done
  cases outcome with
  | matched rest tree => exact Tape.Ahead.within kept
  | missed reason left => exact kept

namespace Pattern

mutual

/-- No pattern moves the head back. One without steps does not move it at all. -/
theorem recognizer_restores (config : Config) :
    ∀ pattern : Pattern, Restores (pattern.recognizer.recognize config)
  | .rule called => called.recognize_restores config
  | .literal token => literal_restores token config
  | .firstOf candidates => by
    rw [recognizer]
    exact Recognizer.firstOf_restores (recognizers_restore config candidates)
  | .inOrder steps => by
    rw [recognizer]
    exact Recognizer.inOrder_restores (recognizers_restore config steps)
  | .list called item flags => called.recognize_restores (listConfig item flags config)

theorem recognizers_restore (config : Config) :
    ∀ patterns : List Pattern, ∀ part ∈ recognizers patterns, Restores (part.recognize config)
  | [], _, member => by cases member
  | pattern :: patterns, part, member => by
    rw [recognizers] at member
    rcases List.mem_cons.mp member with rfl | later
    · exact recognizer_restores config pattern
    · exact recognizers_restore config patterns part later

end

end Pattern

namespace MachineTable

variable {table : MachineTable} {config : Config} {tape : Tape} {gathered : List Tree}
  {arms : List Arm} {stage next : Stage String (List Tree)} {events : List Event}

theorem takeArm_within (done : takeArm config tape gathered arms = .done next events) :
    tape.Within next.tape := by
  induction arms generalizing events with
  | nil =>
      cases done
      exact .refl tape
  | cons arm arms ih =>
      rw [takeArm] at done
      split at done
      next =>
        cases done
        exact .refl tape
      next pattern _ =>
        obtain ⟨outcome, early, late, ran, followed, _⟩ := (Run.bind_eq_done_iff _ _ _ _).mp done
        cases outcome with
        | matched rest tree =>
            cases followed
            exact pattern.recognizer_restores config tape _ _ ran
        | missed reason left => exact ih followed

theorem takeArm_regardless (done : takeArm config tape gathered arms = .done next events)
    (others : List Tree) : ∃ after, takeArm config tape others arms = .done after events ∧
      after.state = next.state ∧ after.tape = next.tape := by
  induction arms generalizing events with
  | nil =>
      cases done
      exact ⟨_, rfl, rfl, rfl⟩
  | cons arm arms ih =>
      rw [takeArm] at done ⊢
      split at done
      next nothing =>
        cases done
        exact ⟨_, rfl, rfl, rfl⟩
      next pattern _ =>
        obtain ⟨outcome, early, late, ran, followed, rfl⟩ := (Run.bind_eq_done_iff _ _ _ _).mp done
        cases outcome with
        | matched rest tree =>
            cases followed
            exact ⟨_, Run.done_bind ran rfl, rfl, rfl⟩
        | missed reason left =>
            obtain ⟨after, taken, same⟩ := ih followed
            exact ⟨after, Run.done_bind ran taken, same⟩

theorem steps_iff : (table.machine config).Steps stage next ↔
    ¬ (table.machine config).Final stage.state ∧ ∃ arms events,
      table.states.lookup stage.state = some arms ∧
      takeArm config stage.tape stage.gathered arms = .done next events := by
  simp only [Machine.Steps, machine, Option.map_eq_some_iff]
  constructor
  · rintro ⟨running, _, events, ⟨arms, found, rfl⟩, done⟩
    exact ⟨running, arms, events, found, done⟩
  · rintro ⟨running, arms, events, found, done⟩
    exact ⟨running, _, events, ⟨arms, found, rfl⟩, done⟩

def place (stage : Stage String (List Tree)) : String × Tape :=
  (stage.state, stage.tape)

theorem steps_by_place (stage other next : Stage String (List Tree))
    (same : place stage = place other) (steps : (table.machine config).Steps stage next) :
    ∃ after, (table.machine config).Steps other after ∧ place next = place after := by
  obtain ⟨running, arms, events, found, done⟩ := steps_iff.mp steps
  obtain ⟨states, tapes⟩ := Prod.mk.inj same
  obtain ⟨after, taken, state, head⟩ := takeArm_regardless done other.gathered
  rw [states] at running found
  rw [tapes] at taken
  exact ⟨after, steps_iff.mpr ⟨running, arms, events, found, taken⟩,
    Prod.ext state.symm head.symm⟩

def places (table : MachineTable) (tape : Tape) : List (String × Tape) :=
  table.states.map Prod.fst ×ˢ (List.range (tape.length + 1)).map tape.seek

theorem places_length (table : MachineTable) (tape : Tape) :
    (table.places tape).length = table.states.length * (tape.length + 1) := by
  rw [places, List.length_product, List.length_map, List.length_map, List.length_range]

theorem place_mem (within : tape.Within stage.tape)
    (steps : (table.machine config).Steps stage next) : place stage ∈ table.places tape := by
  obtain ⟨_, arms, _, found, _⟩ := steps_iff.mp steps
  obtain ⟨before, after, split, _⟩ := List.lookup_eq_some_iff.mp found
  have bound : stage.tape.position < tape.length + 1 := by
    rw [Tape.length, ← within.tokens]
    exact Nat.lt_succ_of_le stage.tape.position_le
  refine List.mem_product.mpr ⟨?_, ?_⟩
  · simp [split]
  · exact List.mem_map.mpr ⟨_, List.mem_range.mpr bound, Tape.seek_position within.tokens⟩

theorem within_of_reaches {last : Stage String (List Tree)} (within : tape.Within stage.tape)
    (reaches : (table.machine config).Reaches stage last) : tape.Within last.tape := by
  induction reaches with
  | refl => exact within
  | tail _ steps ih =>
      obtain ⟨_, arms, events, _, done⟩ := steps_iff.mp steps
      exact ih.trans (takeArm_within done)

/-- The budget of `run` is enough: with any other, the run is the same or has used it up. -/
theorem run_complete (table : MachineTable) (config : Config) (tape : Tape) (budget : Nat) :
    (table.machine config).run budget tape [] = .fault .exhausted ∨
      (table.machine config).run budget tape [] = table.run config tape := by
  by_cases used : (table.machine config).run budget tape [] = .fault .exhausted
  · exact .inl used
  · obtain ⟨count, fewer, lasts⟩ := Machine.lasts_of_drive used
    have few : count ≤ table.states.length * (tape.length + 1) := by
      rw [← places_length]
      refine lasts.count_le steps_by_place fun visited after reaches steps => ?_
      exact place_mem (within_of_reaches (.refl tape) reaches) steps
    have own := lasts.drive_eq tape
      (by omega : count < table.states.length * (tape.length + 1) + 2)
    exact .inr ((lasts.drive_eq tape fewer).trans own.symm)

end MachineTable

end Constituency
