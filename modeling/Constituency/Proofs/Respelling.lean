import Constituency.Recognizer

namespace Constituency

namespace Tree

mutual

def respell (spell : String → String) : Tree → Tree
  | token text => token (spell text)
  | word wordClass text => word wordClass (spell text)
  | coordination conjunction items => coordination conjunction (respellList spell items)
  | nounClause noun adjectives phrases =>
    nounClause (respellOption spell noun) (respellList spell adjectives)
      (respellList spell phrases)
  | sequence parts => sequence (respellList spell parts)
  | prepPhrase preposition object =>
    prepPhrase (respell spell preposition) (respell spell object)
  | verbObject verb object => verbObject (respell spell verb) (respell spell object)
  | statement subject predicate =>
    statement (respell spell subject) (respell spell predicate)

def respellList (spell : String → String) : List Tree → List Tree
  | [] => []
  | tree :: trees => respell spell tree :: respellList spell trees

def respellOption (spell : String → String) : Option Tree → Option Tree
  | none => none
  | some tree => some (respell spell tree)

end

theorem respellList_eq_map (spell : String → String) (trees : List Tree) :
    respellList spell trees = trees.map (respell spell) := by
  induction trees with
  | nil => simp [respellList]
  | cons tree trees ih => simp [respellList, ih]

section Lists

variable {spell : String → String} {known found early late : List Tree}

theorem respellList_append (firsts : respellList spell known = respellList spell found)
    (others : respellList spell early = respellList spell late) :
    respellList spell (known ++ early) = respellList spell (found ++ late) := by
  simp only [respellList_eq_map, List.map_append] at firsts others ⊢
  rw [firsts, others]

theorem respellList_concat (lists : respellList spell known = respellList spell found)
    {tree other : Tree} (trees : tree.respell spell = other.respell spell) :
    respellList spell (known ++ [tree]) = respellList spell (found ++ [other]) :=
  respellList_append lists (by simp only [respellList, trees])

theorem respellOption_head? (lists : respellList spell known = respellList spell found) :
    respellOption spell known.head? = respellOption spell found.head? := by
  cases known with
  | nil =>
      cases found with
      | nil => rfl
      | cons tree trees => cases lists
  | cons tree trees =>
      cases found with
      | nil => cases lists
      | cons other others =>
          simp only [List.head?_cons, respellOption, (List.cons.inj lists).1]

end Lists

mutual

theorem respell_id : ∀ tree : Tree, tree.respell id = tree
  | token _ => by simp [respell]
  | word _ _ => by simp [respell]
  | coordination _ items => by simp [respell, respellList_id items]
  | nounClause noun adjectives phrases => by
    simp [respell, respellOption_id noun, respellList_id adjectives, respellList_id phrases]
  | sequence parts => by simp [respell, respellList_id parts]
  | prepPhrase first second => by simp [respell, respell_id first, respell_id second]
  | verbObject first second => by simp [respell, respell_id first, respell_id second]
  | statement first second => by simp [respell, respell_id first, respell_id second]

theorem respellList_id : ∀ trees : List Tree, respellList id trees = trees
  | [] => by simp [respellList]
  | tree :: trees => by simp [respellList, respell_id tree, respellList_id trees]

theorem respellOption_id : ∀ tree : Option Tree, respellOption id tree = tree
  | none => by simp [respellOption]
  | some tree => by simp [respellOption, respell_id tree]

end

end Tree

/-- A spelling that takes nothing from the grammar: tokens that it makes the same are both commas or
both not, are the same function words, and have the same classes. -/
structure Lexicon.Indifferent (lexicon : Lexicon) (spell : String → String) : Prop where
  comma : ∀ first second, spell first = spell second → (first = "," ↔ second = ",")
  word : ∀ first second word, spell first = spell second →
    Text.sameWord first word = Text.sameWord second word
  classify : ∀ first second, spell first = spell second →
    lexicon.classify first = lexicon.classify second

namespace Tape

def Alike (spell : String → String) (left right : Tape) : Prop :=
  left.remaining.map spell = right.remaining.map spell

theorem current?_eq_head? (tape : Tape) : tape.current? = tape.remaining.head? := by
  rw [remaining, List.head?_drop, current?]

theorem forward_eq_ok {tape : Tape} {token : String} (current : tape.current? = some token) :
    ∃ rest, tape.forward = .ok rest ∧ rest.remaining = tape.remaining.tail := by
  have room : tape.position < tape.tokens.length := (List.getElem?_eq_some_iff.mp current).1
  refine ⟨_, dif_pos room, ?_⟩
  simp only [remaining, List.tail_drop]

theorem forward_eq_error {tape : Tape} (nothing : tape.current? = none) :
    tape.forward = .error .endOfTape := by
  have bound : tape.tokens.length ≤ tape.position := List.getElem?_eq_none_iff.mp nothing
  exact dif_neg (Nat.not_lt.mpr bound)

section Alike

variable {spell : String → String} {left right : Tape}

theorem Alike.remaining_length (alike : left.Alike spell right) :
    left.remaining.length = right.remaining.length := by
  simpa only [List.length_map] using congrArg List.length alike

theorem Alike.current (alike : left.Alike spell right) :
    (∃ token other, left.current? = some token ∧ right.current? = some other ∧
      spell token = spell other) ∨ (left.current? = none ∧ right.current? = none) := by
  have heads : left.current?.map spell = right.current?.map spell := by
    rw [current?_eq_head?, current?_eq_head?, ← List.head?_map, ← List.head?_map, alike]
  cases here : left.current? with
  | none =>
      have there : right.current? = none := by simpa [here] using heads.symm
      exact .inr ⟨rfl, there⟩
  | some token =>
      obtain ⟨other, there, same⟩ : ∃ other, right.current? = some other ∧
          spell other = spell token := by simpa [here] using heads.symm
      exact .inl ⟨token, other, rfl, there, same.symm⟩

theorem Alike.forward (alike : left.Alike spell right) :
    (∃ rest after, left.forward = .ok rest ∧ right.forward = .ok after ∧
      rest.Alike spell after) ∨
    (left.forward = .error .endOfTape ∧ right.forward = .error .endOfTape) := by
  rcases alike.current with ⟨token, other, here, there, _⟩ | ⟨here, there⟩
  · obtain ⟨rest, moved, remains⟩ := forward_eq_ok here
    obtain ⟨after, passed, remains'⟩ := forward_eq_ok there
    refine .inl ⟨rest, after, moved, passed, ?_⟩
    rw [Alike, remains, remains', List.map_tail, List.map_tail, alike]
  · exact .inr ⟨forward_eq_error here, forward_eq_error there⟩

theorem Alike.read (alike : left.Alike spell right) :
    (∃ token rest other after, left.read = .ok (token, rest) ∧ right.read = .ok (other, after) ∧
      spell token = spell other ∧ rest.Alike spell after) ∨
    (left.read = .error .endOfTape ∧ right.read = .error .endOfTape) := by
  rcases alike.current with ⟨token, other, here, there, same⟩ | ⟨here, there⟩
  · rcases alike.forward with ⟨rest, after, moved, passed, rests⟩ | ⟨stuck, _⟩
    · refine .inl ⟨token, rest, other, after, ?_, ?_, same, rests⟩
      · simp only [Tape.read, here, moved]
      · simp only [Tape.read, there, passed]
    · obtain ⟨rest, moved, _⟩ := forward_eq_ok here
      cases stuck.symm.trans moved
  · right
    simp only [Tape.read, here, there, and_self]

variable {lexicon : Lexicon}

theorem Alike.isToken_comma (alike : left.Alike spell right)
    (indifferent : lexicon.Indifferent spell) : left.isToken "," = right.isToken "," := by
  rcases alike.current with ⟨token, other, here, there, same⟩ | ⟨here, there⟩
  · have commas := indifferent.comma token other same
    rw [Bool.eq_iff_iff]
    simpa [isToken, here, there] using commas
  · simp only [isToken, here, there]

theorem Alike.isWord (alike : left.Alike spell right) (indifferent : lexicon.Indifferent spell)
    (word : String) : left.isWord word = right.isWord word := by
  rcases alike.current with ⟨token, other, here, there, same⟩ | ⟨here, there⟩
  · have words := indifferent.word token other word same
    simp only [Tape.isWord, here, there, Option.any_some, words]
  · simp only [Tape.isWord, here, there]

end Alike

end Tape

end Constituency
