import Constituency.Tree

namespace Constituency

namespace Tree

mutual

def same : Tree → Tree → Bool
  | token left, token right => left == right
  | word leftClass left, word rightClass right => leftClass == rightClass && left == right
  | coordination leftWord left, coordination rightWord right =>
    leftWord == rightWord && sameList left right
  | nounClause noun adjectives phrases, nounClause noun' adjectives' phrases' =>
    sameOption noun noun' && sameList adjectives adjectives' && sameList phrases phrases'
  | sequence left, sequence right => sameList left right
  | prepPhrase first second, prepPhrase first' second' => same first first' && same second second'
  | verbObject first second, verbObject first' second' => same first first' && same second second'
  | statement first second, statement first' second' => same first first' && same second second'
  | _, _ => false

def sameList : List Tree → List Tree → Bool
  | [], [] => true
  | left :: lefts, right :: rights => same left right && sameList lefts rights
  | _, _ => false

def sameOption : Option Tree → Option Tree → Bool
  | none, none => true
  | some left, some right => same left right
  | _, _ => false

end

mutual

theorem same_refl : ∀ tree : Tree, same tree tree = true
  | token _ => by simp [same]
  | word _ _ => by simp [same]
  | coordination _ items => by simp [same, sameList_refl items]
  | nounClause noun adjectives phrases => by
    simp [same, sameOption_refl noun, sameList_refl adjectives, sameList_refl phrases]
  | sequence parts => by simp [same, sameList_refl parts]
  | prepPhrase first second => by simp [same, same_refl first, same_refl second]
  | verbObject first second => by simp [same, same_refl first, same_refl second]
  | statement first second => by simp [same, same_refl first, same_refl second]

theorem sameList_refl : ∀ trees : List Tree, sameList trees trees = true
  | [] => by simp [sameList]
  | tree :: trees => by simp [sameList, same_refl tree, sameList_refl trees]

theorem sameOption_refl : ∀ tree : Option Tree, sameOption tree tree = true
  | none => by simp [sameOption]
  | some tree => by simp [sameOption, same_refl tree]

end

mutual

theorem eq_of_same : ∀ left right : Tree, same left right = true → left = right
  | token _, right, h => by cases right <;> simp_all [same]
  | word _ _, right, h => by cases right <;> simp_all [same]
  | coordination _ items, right, h => by
    cases right <;> simp [same] at h
    exact congr (congrArg _ h.1) (eq_of_sameList _ _ h.2)
  | nounClause noun adjectives phrases, right, h => by
    cases right <;> simp [same] at h
    rw [eq_of_sameOption _ _ h.1.1, eq_of_sameList _ _ h.1.2, eq_of_sameList _ _ h.2]
  | sequence parts, right, h => by
    cases right <;> simp [same] at h
    exact congrArg _ (eq_of_sameList _ _ h)
  | prepPhrase first second, right, h => by
    cases right <;> simp [same] at h
    rw [eq_of_same _ _ h.1, eq_of_same _ _ h.2]
  | verbObject first second, right, h => by
    cases right <;> simp [same] at h
    rw [eq_of_same _ _ h.1, eq_of_same _ _ h.2]
  | statement first second, right, h => by
    cases right <;> simp [same] at h
    rw [eq_of_same _ _ h.1, eq_of_same _ _ h.2]

theorem eq_of_sameList : ∀ left right : List Tree, sameList left right = true → left = right
  | [], right, h => by cases right <;> simp_all [sameList]
  | tree :: trees, right, h => by
    cases right <;> simp [sameList] at h
    rw [eq_of_same _ _ h.1, eq_of_sameList _ _ h.2]

theorem eq_of_sameOption :
    ∀ left right : Option Tree, sameOption left right = true → left = right
  | none, right, h => by cases right <;> simp_all [sameOption]
  | some tree, right, h => by
    cases right <;> simp [sameOption] at h
    rw [eq_of_same _ _ h]

end

theorem same_iff (left right : Tree) : same left right = true ↔ left = right :=
  ⟨eq_of_same left right, fun h => h ▸ same_refl left⟩

instance : DecidableEq Tree := fun left right =>
  decidable_of_iff (same left right = true) (same_iff left right)

end Tree

end Constituency
