import Constituency.Proofs.ListTransitions

/-!
Tapes cut off behind a place. What can be said of a tape up to the cut can be said of the whole tape
there, and the other way round; only at the cut itself does the one have an end and the other a
token. An item may also be read on the whole tape beyond the cut: it overruns it.
-/

namespace Constituency

namespace Tape

def followedBy (tape : Tape) (after : List String) : Tape where
  tokens := tape.tokens ++ after
  position := tape.position
  nonempty := by simp [tape.nonempty]
  position_le := by
    rw [List.length_append]
    exact Nat.le_add_right_of_le tape.position_le

variable {after : List String} {part rest last : Tape} {token word : String}

theorem eq_of_position (tokens : part.tokens = rest.tokens)
    (position : part.position = rest.position) : part = rest := by
  rw [← seek_position tokens, position, seek_position rfl]

theorem current?_followedBy (room : part.position < part.tokens.length) :
    (part.followedBy after).current? = part.current? :=
  List.getElem?_append_left room

theorem room_of_current (found : part.current? = some token) :
    part.position < part.tokens.length :=
  (List.getElem?_eq_some_iff.mp found).1

theorem room_of_ahead (ahead : part.Ahead rest) : part.position < part.tokens.length := by
  have bound := rest.position_le
  rw [ahead.tokens] at bound
  exact Nat.lt_of_lt_of_le ahead.position bound

theorem isWord_followedBy (room : part.position < part.tokens.length) (word : String) :
    (part.followedBy after).isWord word = part.isWord word := by
  rw [isWord, isWord, current?_followedBy room]

theorem isToken_followedBy (room : part.position < part.tokens.length) (token : String) :
    (part.followedBy after).isToken token = part.isToken token := by
  rw [isToken, isToken, current?_followedBy room]

theorem room_of_isWord (found : part.isWord word = true) :
    part.position < part.tokens.length := by
  obtain ⟨token, current, _⟩ := (Option.any_eq_true _ _).mp found
  exact room_of_current current

theorem room_of_isToken (found : part.isToken token = true) :
    part.position < part.tokens.length :=
  room_of_current (eq_of_beq found)

/-- At the cut there is no word at all, so a word that is missing on the whole tape is missing. -/
theorem not_isWord_of_followedBy (absent : (part.followedBy after).isWord word = false) :
    part.isWord word = false := by
  apply Bool.eq_false_iff.mpr
  intro found
  rw [isWord_followedBy (room_of_isWord found), found] at absent
  cases absent

theorem tokens_of_followedBy
    (tokens : (rest.followedBy after).tokens = (part.followedBy after).tokens) :
    rest.tokens = part.tokens :=
  List.append_cancel_right tokens

theorem followedBy_inj (same : rest.followedBy after = part.followedBy after) : rest = part :=
  eq_of_position (tokens_of_followedBy (congrArg Tape.tokens same))
    (congrArg Tape.position same :)

theorem ahead_followedBy_iff : (part.followedBy after).Ahead (rest.followedBy after) ↔
    part.Ahead rest := by
  constructor
  · intro ahead
    exact ⟨tokens_of_followedBy ahead.tokens, ahead.position⟩
  · intro ahead
    exact ⟨congrArg (· ++ after) ahead.tokens, ahead.position⟩

theorem within_followedBy_iff : (part.followedBy after).Within (rest.followedBy after) ↔
    part.Within rest := by
  constructor
  · intro within
    exact ⟨tokens_of_followedBy within.tokens, within.position⟩
  · intro within
    exact ⟨congrArg (· ++ after) within.tokens, within.position⟩

theorem cut_between {place : Tape} (later : (part.followedBy after).Within place)
    (earlier : place.Within (last.followedBy after)) :
    ∃ rest, place = rest.followedBy after ∧ part.Within rest ∧ rest.Within last := by
  have tokens : last.tokens = part.tokens :=
    tokens_of_followedBy (earlier.tokens.trans later.tokens)
  have bound : place.position ≤ part.tokens.length :=
    Nat.le_trans earlier.position (tokens ▸ last.position_le)
  refine ⟨⟨part.tokens, place.position, part.nonempty, bound⟩, ?_, ⟨rfl, later.position⟩,
    ⟨tokens, earlier.position⟩⟩
  exact eq_of_position later.tokens rfl

theorem cut_or_beyond {place : Tape} (ahead : (part.followedBy after).Ahead place) :
    (∃ rest, place = rest.followedBy after ∧ part.Ahead rest) ∨
      part.tokens.length < place.position := by
  by_cases bound : place.position ≤ part.tokens.length
  · left
    refine ⟨⟨part.tokens, place.position, part.nonempty, bound⟩, ?_, rfl, ahead.position⟩
    exact eq_of_position ahead.tokens rfl
  · exact .inr (Nat.lt_of_not_le bound)

theorem exists_cut {tape rest : Tape} (ahead : tape.Ahead rest) :
    ∃ part last : Tape, tape = part.followedBy rest.remaining ∧
      rest = last.followedBy rest.remaining ∧ part.tokens = rest.consumed ∧
      part.position = tape.position ∧ last.atEnd = true := by
  have size : rest.consumed.length = rest.position := by
    rw [consumed, List.length_take, Nat.min_eq_left rest.position_le]
  have moved : tape.position < rest.position := ahead.position
  have present : rest.consumed ≠ [] := by
    apply List.ne_nil_of_length_pos
    omega
  have whole : rest.tokens = rest.consumed ++ rest.remaining := rest.consumed_append_remaining.symm
  refine ⟨⟨rest.consumed, tape.position, present, by omega⟩,
    ⟨rest.consumed, rest.position, present, by omega⟩, ?_, eq_of_position whole rfl, rfl, rfl, ?_⟩
  · exact eq_of_position (ahead.tokens.symm.trans whole) rfl
  · exact beq_of_eq size.symm

theorem forward_followedBy_iff : (part.followedBy after).forward = .ok (rest.followedBy after) ↔
    part.forward = .ok rest := by
  constructor
  · intro passed
    have ahead := ahead_followedBy_iff.mp (forward_ahead passed)
    rw [forward, dif_pos (room_of_ahead ahead)]
    exact congrArg Except.ok (eq_of_position ahead.tokens.symm (forward_eq passed).2.symm)
  · intro passed
    obtain ⟨tokens, position⟩ := forward_eq passed
    have room := room_of_ahead (forward_ahead passed)
    have longer : (part.followedBy after).position < (part.followedBy after).tokens.length := by
      simp only [followedBy, List.length_append]
      omega
    rw [forward, dif_pos longer]
    exact congrArg Except.ok
      (eq_of_position (congrArg (· ++ after) tokens.symm) position.symm)

theorem read_eq_iff : part.read = .ok (token, rest) ↔
    part.current? = some token ∧ part.forward = .ok rest := by
  constructor
  · exact read_eq
  · rintro ⟨current, passed⟩
    simp only [read, current, passed]

theorem read_followedBy_iff :
    (part.followedBy after).read = .ok (token, rest.followedBy after) ↔
      part.read = .ok (token, rest) := by
  rw [read_eq_iff, read_eq_iff, forward_followedBy_iff]
  refine and_congr_left fun passed => ?_
  rw [current?_followedBy (room_of_ahead (forward_ahead passed))]

end Tape

section Overrunning

variable {item : Tape → Run Outcome} {part rest : Tape} {tree : Tree}

/-- On the whole tape, an item that begins up to the cut ends beyond it. -/
def Overruns (item : Tape → Run Outcome) (after : List String) (part : Tape) : Prop :=
  ∃ tree place, Reads item (part.followedBy after) tree place ∧
    part.tokens.length < place.position

theorem Reads.room (keeps : (item part).Ends (Outcome.Kept part))
    (reads : Reads item part tree rest) : part.position < part.tokens.length :=
  Tape.room_of_ahead (reads.ahead keeps)

end Overrunning

namespace Coordination

variable {after : List String} {part rest : Tape} {joint : Conjunction}

theorem comma_followedBy_iff :
    Comma (part.followedBy after) (rest.followedBy after) ↔ Comma part rest := by
  constructor
  · intro comma
    have passed := Tape.forward_followedBy_iff.mp comma.passed
    have room := Tape.room_of_ahead (Tape.forward_ahead passed)
    exact ⟨Tape.isToken_followedBy room "," ▸ comma.found, passed⟩
  · intro comma
    have room := Tape.room_of_isToken comma.found
    exact ⟨(Tape.isToken_followedBy room ",").trans comma.found,
      Tape.forward_followedBy_iff.mpr comma.passed⟩

theorem joint_followedBy_iff :
    Joint joint (part.followedBy after) (rest.followedBy after) ↔ Joint joint part rest := by
  constructor
  · intro found
    have passed := Tape.forward_followedBy_iff.mp found.passed
    have room := Tape.room_of_ahead (Tape.forward_ahead passed)
    exact ⟨Tape.isWord_followedBy room joint.word ▸ found.found, passed⟩
  · intro found
    have room := Tape.room_of_isWord found.found
    exact ⟨(Tape.isWord_followedBy room joint.word).trans found.found,
      Tape.forward_followedBy_iff.mpr found.passed⟩

theorem noJoint_of_followedBy {allowed : Option Conjunction}
    (noJoint : NoJoint allowed (part.followedBy after)) : NoJoint allowed part :=
  fun joint usable => Tape.not_isWord_of_followedBy (noJoint joint usable)

theorem noJoint_followedBy {allowed : Option Conjunction}
    (room : part.position < part.tokens.length) (noJoint : NoJoint allowed part) :
    NoJoint allowed (part.followedBy after) :=
  fun joint usable => (Tape.isWord_followedBy room joint.word).trans (noJoint joint usable)

end Coordination

end Constituency
