import Constituency.Text.Ascii
import Constituency.Token

/-!
A tape is a list of tokens with a read head. The head stands on a token or just past the last one.
Tapes are values: to move the head is to make another tape.
-/

namespace Constituency

structure Tape where
  tokens : List String
  position : Nat
  nonempty : tokens ≠ []
  position_le : position ≤ tokens.length
  deriving DecidableEq, Repr

namespace Tape

inductive Error
  | empty
  | endOfTape
  | startOfTape
  deriving DecidableEq, Repr

def Error.message : Error → String
  | .empty => "a tape needs at least one token"
  | .endOfTape => "already at the end of the tape"
  | .startOfTape => "already at the start of the tape"

def ofTokens (tokens : List String) : Except Error Tape :=
  if present : tokens = [] then .error .empty
  else .ok ⟨tokens, 0, present, Nat.zero_le _⟩

def ofText (text : String) : Except Error Tape :=
  ofTokens (Token.ofText text)

/-- The same tokens with the head at `position`, or at the end if that is nearer. -/
def seek (tape : Tape) (position : Nat) : Tape :=
  ⟨tape.tokens, min position tape.tokens.length, tape.nonempty, Nat.min_le_right _ _⟩

def length (tape : Tape) : Nat :=
  tape.tokens.length

def atStart (tape : Tape) : Bool :=
  tape.position == 0

def atEnd (tape : Tape) : Bool :=
  tape.position == tape.tokens.length

def current? (tape : Tape) : Option String :=
  tape.tokens[tape.position]?

def isToken (tape : Tape) (token : String) : Bool :=
  tape.current? == some token

/-- Whether the head stands on this word, whatever the case of its ASCII letters. -/
def isWord (tape : Tape) (word : String) : Bool :=
  tape.current?.any fun token => Text.sameWord token word

def forward (tape : Tape) : Except Error Tape :=
  if room : tape.position < tape.tokens.length then
    .ok ⟨tape.tokens, tape.position + 1, tape.nonempty, room⟩
  else .error .endOfTape

def back (tape : Tape) : Except Error Tape :=
  if tape.position = 0 then .error .startOfTape
  else .ok ⟨tape.tokens, tape.position - 1, tape.nonempty,
    Nat.le_trans (Nat.sub_le _ _) tape.position_le⟩

def rewind (tape : Tape) : Tape :=
  ⟨tape.tokens, 0, tape.nonempty, Nat.zero_le _⟩

def read (tape : Tape) : Except Error (String × Tape) :=
  match tape.current?, tape.forward with
  | some token, .ok rest => .ok (token, rest)
  | _, _ => .error .endOfTape

def consumed (tape : Tape) : List String :=
  tape.tokens.take tape.position

def remaining (tape : Tape) : List String :=
  tape.tokens.drop tape.position

def markHead : List String → List String
  | [] => ["^"]
  | token :: tokens => ("^" ++ token) :: tokens

/-- The tokens in a row with a `^` at the head, such as `A , ^B and C`. -/
def render (tape : Tape) : String :=
  " ".intercalate (tape.consumed ++ markHead tape.remaining)

@[simp] theorem consumed_append_remaining (tape : Tape) :
    tape.consumed ++ tape.remaining = tape.tokens :=
  List.take_append_drop _ _

end Tape

end Constituency
