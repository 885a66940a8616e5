import Constituency.Rule

/-!
Runs. A run either stops at a fault, which is a mistake in how the grammar was called, or gives a
result and the events on the way to it. Events of successive runs are joined in order.
-/

namespace Constituency

inductive Event
  | finished (rule : Rule) (start stop : Nat) (ok : Bool)
  | missed (name : String) (position : Nat)
  /-- A machine went from one state to the next; `position` is where its tape then stood. -/
  | stepped (machine source target : String) (position : Nat)
  | ended (machine state : String) (position : Nat) (accepted : Bool)
  | parsed (rule : Rule) (success : Bool) (position : Nat)
  deriving DecidableEq, Repr

namespace Event

def level : Event → String
  | finished _ _ _ _ => "TRACE"
  | missed _ _ => "DEBUG"
  | stepped _ _ _ _ => "TRACE"
  | ended _ _ _ _ => "TRACE"
  | parsed _ _ _ => "DEBUG"

def message? : Event → Option String
  | finished _ _ _ _ => none
  | missed _ _ => some "alternative did not match"
  | stepped _ _ _ _ => none
  | ended _ _ _ accepted => some (if accepted then "accepted" else "rejected")
  | parsed _ _ _ => some "parsed"

end Event

inductive Fault
  | missingItemRule (caller : String)
  | unhandledState (machine state : String)
  /-- A bound on the length or depth of a run was met. -/
  | exhausted
  deriving DecidableEq, Repr

def Fault.message : Fault → String
  | missingItemRule caller => caller ++ " requires a `subclass` item rule in its Config"
  | unhandledState machine state => machine ++ ": no handler for non-terminal state " ++ state
  | exhausted => "the run does not end"

inductive Run (α : Type)
  | fault (cause : Fault)
  | done (value : α) (events : List Event)
  deriving DecidableEq, Repr

namespace Run

variable {α β : Type}

def emit (event : Event) : Run Unit := .done () [event]

/-- Runs `first` and then what follows from its result; a fault of either is a fault of both. -/
def andThen (first : Run α) (next : α → Run β) : Run β :=
  match first with
  | .fault cause => .fault cause
  | .done value events =>
    match next value with
    | .fault cause => .fault cause
    | .done result later => .done result (events ++ later)

instance : Monad Run where
  pure value := .done value []
  bind := andThen

@[simp] theorem pure_eq (value : α) : (pure value : Run α) = .done value [] := rfl

theorem bind_eq (first : Run α) (next : α → Run β) : first >>= next = first.andThen next := rfl

@[simp] theorem fault_bind (cause : Fault) (next : α → Run β) :
    (Run.fault cause : Run α) >>= next = .fault cause := rfl

theorem bind_eq_done_iff (first : Run α) (next : α → Run β) (result : β) (events : List Event) :
    first >>= next = .done result events ↔
      ∃ value early late, first = .done value early ∧ next value = .done result late ∧
        events = early ++ late := by
  rw [bind_eq]
  cases first with
  | fault cause => simp [andThen]
  | done value early =>
    cases second : next value with
    | fault cause => simp_all [andThen]
    | done other late =>
      simp only [andThen, second, Run.done.injEq]
      constructor
      · rintro ⟨rfl, rfl⟩
        exact ⟨value, early, late, ⟨rfl, rfl⟩, second, rfl⟩
      · rintro ⟨_, _, _, ⟨rfl, rfl⟩, same, rfl⟩
        rw [second] at same
        cases same
        exact ⟨rfl, rfl⟩

theorem andThen_assoc {γ : Type} (first : Run α) (second : α → Run β) (third : β → Run γ) :
    (first.andThen second).andThen third =
      first.andThen fun value => (second value).andThen third := by
  cases first with
  | fault cause => rfl
  | done value events =>
    simp only [andThen]
    cases second value with
    | fault cause => rfl
    | done middle early =>
      simp only
      cases third middle <;> simp

instance : LawfulMonad Run := LawfulMonad.mk' Run
  (fun run => by cases run <;> simp [Functor.map, andThen])
  (fun value next => by
    rw [pure_eq, bind_eq, andThen]
    cases next value <;> simp)
  (fun first second third => andThen_assoc first second third)

end Run

end Constituency
