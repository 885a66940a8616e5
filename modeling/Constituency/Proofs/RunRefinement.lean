import Constituency.Trace

namespace Constituency.Run

variable {α β : Type}

def Ends (run : Run α) (good : α → Prop) : Prop :=
  ∃ value events, run = .done value events ∧ good value

/-- Whenever `early` is done, `late` is done with the same result and the same events. -/
def Refines (early late : Run α) : Prop :=
  ∀ value events, early = .done value events → late = .done value events

theorem ends_pure {good : α → Prop} {value : α} (holds : good value) :
    (pure value : Run α).Ends good :=
  ⟨value, [], rfl, holds⟩

theorem emit_bind_ends {event : Event} {next : Unit → Run β} {good : β → Prop}
    (ends : (next ()).Ends good) : (emit event >>= next).Ends good := by
  obtain ⟨value, events, done, holds⟩ := ends
  refine ⟨value, [event] ++ events, ?_, holds⟩
  exact (bind_eq_done_iff _ _ _ _).mpr ⟨(), [event], events, rfl, done, rfl⟩

theorem Ends.bind {first : Run α} {next : α → Run β} {middle : α → Prop} {good : β → Prop}
    (ends : first.Ends middle) (follows : ∀ value, middle value → (next value).Ends good) :
    (first >>= next).Ends good := by
  obtain ⟨value, early, done, holds⟩ := ends
  obtain ⟨result, late, second, good⟩ := follows value holds
  refine ⟨result, early ++ late, ?_, good⟩
  exact (bind_eq_done_iff _ _ _ _).mpr ⟨value, early, late, done, second, rfl⟩

theorem Ends.mono {run : Run α} {good better : α → Prop} (ends : run.Ends good)
    (implies : ∀ value, good value → better value) : run.Ends better := by
  obtain ⟨value, events, done, holds⟩ := ends
  exact ⟨value, events, done, implies value holds⟩

namespace Refines

theorem refl (run : Run α) : Refines run run := fun _ _ done => done

theorem of_fault {late : Run α} (cause : Fault) : Refines (.fault cause) late := by
  intro value events done
  cases done

theorem bind {early late : Run α} {next later : α → Run β} (first : Refines early late)
    (second : ∀ value, Refines (next value) (later value)) :
    Refines (early >>= next) (late >>= later) := by
  intro result events done
  obtain ⟨value, before, after, began, ended, rfl⟩ := (bind_eq_done_iff _ _ _ _).mp done
  exact (bind_eq_done_iff _ _ _ _).mpr
    ⟨value, before, after, first _ _ began, second _ _ _ ended, rfl⟩

theorem bind_left {early late : Run α} (first : Refines early late) (next : α → Run β) :
    Refines (early >>= next) (late >>= next) :=
  first.bind fun value => refl (next value)

theorem bind_right (first : Run α) {next later : α → Run β}
    (second : ∀ value, Refines (next value) (later value)) :
    Refines (first >>= next) (first >>= later) :=
  (refl first).bind second

theorem ends {early late : Run α} {good : α → Prop} (refines : Refines early late)
    (ends : early.Ends good) : late.Ends good := by
  obtain ⟨value, events, done, holds⟩ := ends
  exact ⟨value, events, refines value events done, holds⟩

theorem eq_of_ends {early late : Run α} {good : α → Prop} (refines : Refines early late)
    (ends : early.Ends good) : early = late := by
  obtain ⟨value, events, done, _⟩ := ends
  rw [done, refines value events done]

end Refines

end Constituency.Run
