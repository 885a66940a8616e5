import Constituency.Tape

namespace Constituency.Tape

/-- `later` has the tokens of `start`, and its head is not before the head of `start`. -/
structure Within (start later : Tape) : Prop where
  tokens : later.tokens = start.tokens
  position : start.position ≤ later.position

structure Ahead (start later : Tape) : Prop where
  tokens : later.tokens = start.tokens
  position : start.position < later.position

theorem Within.refl (tape : Tape) : Within tape tape := ⟨rfl, Nat.le_refl _⟩

theorem Ahead.within {start later : Tape} (ahead : Ahead start later) : Within start later :=
  ⟨ahead.tokens, Nat.le_of_lt ahead.position⟩

theorem Within.trans {first second third : Tape} (left : Within first second)
    (right : Within second third) : Within first third :=
  ⟨right.tokens.trans left.tokens, Nat.le_trans left.position right.position⟩

theorem Within.trans_ahead {first second third : Tape} (left : Within first second)
    (right : Ahead second third) : Ahead first third :=
  ⟨right.tokens.trans left.tokens, Nat.lt_of_le_of_lt left.position right.position⟩

theorem Ahead.trans_within {first second third : Tape} (left : Ahead first second)
    (right : Within second third) : Ahead first third :=
  ⟨right.tokens.trans left.tokens, Nat.lt_of_lt_of_le left.position right.position⟩

theorem remaining_length (tape : Tape) :
    tape.remaining.length = tape.tokens.length - tape.position :=
  List.length_drop

theorem Within.remaining_le {start later : Tape} (within : Within start later) :
    later.remaining.length ≤ start.remaining.length := by
  have moved := within.position
  rw [remaining_length, remaining_length, within.tokens]
  omega

theorem Ahead.remaining_lt {start later : Tape} (ahead : Ahead start later) :
    later.remaining.length < start.remaining.length := by
  have moved := ahead.position
  have bounded := later.position_le
  rw [ahead.tokens] at bounded
  rw [remaining_length, remaining_length, ahead.tokens]
  omega

theorem seek_position {tape place : Tape} (tokens : place.tokens = tape.tokens) :
    tape.seek place.position = place := by
  obtain ⟨_, position, nonempty, bound⟩ := place
  cases tokens
  simp only [seek, Nat.min_eq_left bound]

theorem forward_eq {tape rest : Tape} (moved : tape.forward = .ok rest) :
    rest.tokens = tape.tokens ∧ rest.position = tape.position + 1 := by
  unfold forward at moved
  split at moved
  · cases moved
    exact ⟨rfl, rfl⟩
  · cases moved

theorem forward_ahead {tape rest : Tape} (moved : tape.forward = .ok rest) : Ahead tape rest := by
  obtain ⟨tokens, position⟩ := forward_eq moved
  exact ⟨tokens, position ▸ Nat.lt_succ_self _⟩

theorem forward_of_current {tape : Tape} {token : String} (found : tape.current? = some token) :
    ∃ rest, tape.forward = .ok rest := by
  have room : tape.position < tape.tokens.length := (List.getElem?_eq_some_iff.mp found).1
  exact ⟨_, dif_pos room⟩

theorem forward_of_isToken {tape : Tape} {token : String} (found : tape.isToken token = true) :
    ∃ rest, tape.forward = .ok rest :=
  forward_of_current (eq_of_beq found)

theorem forward_of_isWord {tape : Tape} {word : String} (found : tape.isWord word = true) :
    ∃ rest, tape.forward = .ok rest := by
  obtain ⟨token, current, _⟩ := (Option.any_eq_true _ _).mp found
  exact forward_of_current current

/-- The head stands on one token, so words found there differ at most in case. -/
theorem sameWord_of_isWord {tape : Tape} {first second : String}
    (left : tape.isWord first = true) (right : tape.isWord second = true) :
    Text.foldAscii first = Text.foldAscii second := by
  obtain ⟨token, current, same⟩ := (Option.any_eq_true _ _).mp left
  obtain ⟨token', current', same'⟩ := (Option.any_eq_true _ _).mp right
  cases current.symm.trans current'
  calc
    Text.foldAscii first = Text.foldAscii token := ((Text.sameWord_iff _ _).mp same).symm
    _ = Text.foldAscii second := (Text.sameWord_iff _ _).mp same'

theorem read_eq {tape rest : Tape} {token : String} (taken : tape.read = .ok (token, rest)) :
    tape.current? = some token ∧ tape.forward = .ok rest := by
  unfold read at taken
  split at taken
  next current moved =>
    cases taken
    exact ⟨current, moved⟩
  next => cases taken

theorem read_ahead {tape rest : Tape} {token : String} (taken : tape.read = .ok (token, rest)) :
    Ahead tape rest :=
  forward_ahead (read_eq taken).2

end Constituency.Tape
