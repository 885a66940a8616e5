import Mathlib.Data.List.Sort
import Constituency.Tree.Json

namespace Constituency

namespace Json

mutual

/-- The same value with the members of each object in the order of their keys. -/
def ordered : Json → Json
  | .null => .null
  | .bool value => .bool value
  | .number value => .number value
  | .text value => .text value
  | .list items => .list (orderedItems items)
  | .object members =>
    .object ((orderedMembers members).insertionSort fun left right => left.1 ≤ right.1)

def orderedItems : List Json → List Json
  | [] => []
  | item :: items => ordered item :: orderedItems items

def orderedMembers : List (String × Json) → List (String × Json)
  | [] => []
  | (key, value) :: members => (key, ordered value) :: orderedMembers members

end

def Same (left right : Json) : Prop :=
  left.ordered = right.ordered

end Json

namespace PartOfSpeech

def ofLabel? (label : List Char) : Option PartOfSpeech :=
  all.find? fun part => part.label.toList == label

theorem ofLabel?_label (part : PartOfSpeech) : ofLabel? part.label.toList = some part := by
  cases part <;> decide

theorem slash_notMem_label (part : PartOfSpeech) : '/' ∉ part.label.toList := by
  cases part <;> decide

theorem mapM_ofLabel? (parts : List PartOfSpeech) :
    (parts.map fun part => part.label.toList).mapM ofLabel? = some parts := by
  have each : ofLabel? ∘ (fun part => part.label.toList) = pure := funext ofLabel?_label
  rw [List.mapM_map, each, List.mapM_pure, List.map_id']
  rfl

end PartOfSpeech

namespace WordClass

def named (wordClass : WordClass) : Bool :=
  wordClass.bits &&& (ofParts PartOfSpeech.all).bits == wordClass.bits

def ofDescription? (description : String) : Option WordClass :=
  match (description.toList.splitOn '/').mapM PartOfSpeech.ofLabel? with
  | some parts => some (ofParts parts)
  | none => if description = "unknown" then some empty else none

theorem ofParts_parts {wordClass : WordClass} (named : wordClass.named = true) :
    ofParts wordClass.parts = wordClass := by
  have each : ∀ bits : Fin 256, WordClass.named ⟨.ofFin bits⟩ = true →
      ofParts (parts ⟨.ofFin bits⟩) = ⟨.ofFin bits⟩ := by decide +kernel
  exact each wordClass.bits.toFin named

theorem parts_ne_nil {wordClass : WordClass} (named : wordClass.named = true)
    (some : wordClass.isEmpty = false) : wordClass.parts ≠ [] := by
  intro nothing
  have same := ofParts_parts named
  rw [nothing] at same
  cases same
  cases some

theorem toList_describe {wordClass : WordClass} (some : wordClass.isEmpty = false) :
    wordClass.describe.toList =
      ['/'].intercalate (wordClass.parts.map fun part => part.label.toList) := by
  rw [describe, some]
  simp [String.toList_intercalate, Function.comp_def]

theorem splitOn_describe {wordClass : WordClass} (named : wordClass.named = true)
    (some : wordClass.isEmpty = false) :
    wordClass.describe.toList.splitOn '/' =
      wordClass.parts.map fun part => part.label.toList := by
  have present := parts_ne_nil named some
  rw [toList_describe some]
  refine List.splitOn_intercalate '/' ?_ (by simpa using present)
  intro label member
  obtain ⟨part, _, rfl⟩ := List.mem_map.mp member
  exact PartOfSpeech.slash_notMem_label part

theorem ofDescription?_describe {wordClass : WordClass} (named : wordClass.named = true) :
    ofDescription? wordClass.describe = some wordClass := by
  cases empty : wordClass.isEmpty with
  | true =>
      -- "unknown" is the label of no part of speech.
      have none : wordClass = WordClass.empty := congrArg mk (eq_of_beq empty)
      subst none
      decide
  | false =>
      rw [ofDescription?, splitOn_describe named empty, PartOfSpeech.mapM_ofLabel?]
      exact congrArg some (ofParts_parts named)

end WordClass

namespace Tree

mutual

/-- No word of the tree has a class with anything but parts of speech in it. -/
def named : Tree → Bool
  | token _ => true
  | word wordClass _ => wordClass.named
  | coordination _ items => namedList items
  | nounClause noun adjectives phrases =>
    namedOption noun && namedList adjectives && namedList phrases
  | sequence parts => namedList parts
  | prepPhrase preposition object => named preposition && named object
  | verbObject verb object => named verb && named object
  | statement subject predicate => named subject && named predicate

def namedList : List Tree → Bool
  | [] => true
  | tree :: trees => named tree && namedList trees

def namedOption : Option Tree → Bool
  | none => true
  | some tree => named tree

end

mutual

def ofOrdered? : Json → Option Tree
  | .object [("Dummy", .text text)] => some (.token text)
  | .object [("Word", .object [("class", .text description), ("text", .text text)])] =>
    (WordClass.ofDescription? description).map (.word · text)
  | .object [("CompoundAnd", .list items)] => (listOfOrdered? items).map (.coordination .and)
  | .object [("CompoundOr", .list items)] => (listOfOrdered? items).map (.coordination .or)
  | .object [("Sequence", .list items)] => (listOfOrdered? items).map .sequence
  | .object [("NounClause", .object [("adjectives", .list adjectives), ("noun", noun),
      ("phrases", .list phrases)])] => do
    let adjectives ← listOfOrdered? adjectives
    let noun ← optionOfOrdered? noun
    let phrases ← listOfOrdered? phrases
    pure (.nounClause noun adjectives phrases)
  | .object [("PrepPhrase", .object [("object", object), ("preposition", preposition)])] => do
    let object ← ofOrdered? object
    let preposition ← ofOrdered? preposition
    pure (.prepPhrase preposition object)
  | .object [("VerbObject", .object [("object", object), ("verb", verb)])] => do
    let object ← ofOrdered? object
    let verb ← ofOrdered? verb
    pure (.verbObject verb object)
  | .object [("Statement", .object [("predicate", predicate), ("subject", subject)])] => do
    let predicate ← ofOrdered? predicate
    let subject ← ofOrdered? subject
    pure (.statement subject predicate)
  | _ => none

def listOfOrdered? : List Json → Option (List Tree)
  | [] => some []
  | item :: items => do
    let tree ← ofOrdered? item
    let trees ← listOfOrdered? items
    pure (tree :: trees)

def optionOfOrdered? : Json → Option (Option Tree)
  | .null => some none
  | value => (ofOrdered? value).map some

end

def ofJson? (value : Json) : Option Tree :=
  ofOrdered? value.ordered

theorem ordered_toJson_ne_null (tree : Tree) : tree.toJson.ordered ≠ .null := by
  cases tree with
  | coordination joint items => cases joint <;> simp [toJson, tagged, Json.ordered]
  | _ => simp [toJson, tagged, Json.ordered]

mutual

theorem ofOrdered?_toJson :
    ∀ tree : Tree, tree.named = true → ofOrdered? tree.toJson.ordered = some tree
  | token text, _ => by simp [toJson, tagged, Json.ordered, Json.orderedMembers, ofOrdered?]
  | word wordClass text, named => by
    simp [toJson, tagged, Json.ordered, Json.orderedMembers, ofOrdered?,
      WordClass.ofDescription?_describe named]
  | coordination joint items, named => by
    cases joint <;> simp [toJson, tagged, Json.ordered, Json.orderedMembers, ofOrdered?,
      listOfOrdered?_toJson items named]
  | nounClause noun adjectives phrases, named => by
    rw [Tree.named, Bool.and_eq_true, Bool.and_eq_true] at named
    simp [toJson, tagged, Json.ordered, Json.orderedMembers, ofOrdered?,
      optionOfOrdered?_toJson noun named.1.1, listOfOrdered?_toJson adjectives named.1.2,
      listOfOrdered?_toJson phrases named.2]
  | sequence parts, named => by
    simp [toJson, tagged, Json.ordered, Json.orderedMembers, ofOrdered?,
      listOfOrdered?_toJson parts named]
  | prepPhrase preposition object, named => by
    rw [Tree.named, Bool.and_eq_true] at named
    simp [toJson, tagged, Json.ordered, Json.orderedMembers, ofOrdered?,
      ofOrdered?_toJson preposition named.1, ofOrdered?_toJson object named.2]
  | verbObject verb object, named => by
    rw [Tree.named, Bool.and_eq_true] at named
    simp [toJson, tagged, Json.ordered, Json.orderedMembers, ofOrdered?,
      ofOrdered?_toJson verb named.1, ofOrdered?_toJson object named.2]
  | statement subject predicate, named => by
    rw [Tree.named, Bool.and_eq_true] at named
    simp [toJson, tagged, Json.ordered, Json.orderedMembers, ofOrdered?,
      ofOrdered?_toJson subject named.1, ofOrdered?_toJson predicate named.2]

theorem listOfOrdered?_toJson :
    ∀ trees : List Tree, namedList trees = true →
      listOfOrdered? (Json.orderedItems (listToJson trees)) = some trees
  | [], _ => by simp [listToJson, Json.orderedItems, listOfOrdered?]
  | tree :: trees, named => by
    rw [namedList, Bool.and_eq_true] at named
    simp [listToJson, Json.orderedItems, listOfOrdered?, ofOrdered?_toJson tree named.1,
      listOfOrdered?_toJson trees named.2]

theorem optionOfOrdered?_toJson :
    ∀ tree : Option Tree, namedOption tree = true →
      optionOfOrdered? (optionToJson tree).ordered = some tree
  | none, _ => by simp [optionToJson, Json.ordered, optionOfOrdered?]
  | some tree, named => by
    rw [optionToJson, optionOfOrdered?, ofOrdered?_toJson tree named]
    · rfl
    · exact ordered_toJson_ne_null tree

end

/-- A tree can be read back from its JSON value, so trees with the same value are the same. -/
theorem toJson_lossless :
    (∀ (tree : Tree) (value : Json), tree.named = true → value.Same tree.toJson →
      ofJson? value = some tree) ∧
    ∀ left right : Tree, left.named = true → right.named = true →
      left.toJson.Same right.toJson → left = right := by
  have reads : ∀ (tree : Tree) (value : Json), tree.named = true → value.Same tree.toJson →
      ofJson? value = some tree := by
    intro tree value named same
    rw [ofJson?, same, ofOrdered?_toJson tree named]
  refine ⟨reads, ?_⟩
  intro left right leftNamed rightNamed same
  have first : ofJson? left.toJson = some left := reads left _ leftNamed rfl
  have second : ofJson? left.toJson = some right := reads right _ rightNamed same
  exact Option.some.inj (first.symm.trans second)

theorem toJson_lossless_clause :
    let outside : Tree := .word (.ofParts [.preposition, .prepPhrase]) "outside"
    let clause : Tree := .nounClause (some (.word (.single .singularNoun) "ball")) []
      [.coordination .or [outside, .token ","]]
    let value : Json := tagged "NounClause" (.object [
      ("phrases", .list [tagged "CompoundOr" (.list [
        tagged "Word" (.object [("text", .text "outside"),
          ("class", .text "preposition/prep phrase")]),
        tagged "Dummy" (.text ",")])]),
      ("adjectives", .list []),
      ("noun", tagged "Word" (.object [("class", .text "singular noun"), ("text", .text "ball")]))])
    clause.named = true ∧ value.Same clause.toJson ∧ ofJson? value = some clause ∧
      outside = .word (.ofParts [.prepPhrase, .preposition]) "outside" := by
  intro outside clause value
  have named : clause.named = true := by decide
  have same : value.Same clause.toJson := by
    have noun : (WordClass.single .singularNoun).describe = "singular noun" := by decide
    have phrase : (WordClass.ofParts [.preposition, .prepPhrase]).describe
        = "preposition/prep phrase" := by decide
    simp [Json.Same, Json.ordered, Json.orderedItems, Json.orderedMembers, value, clause, outside,
      tagged, toJson, listToJson, optionToJson, noun, phrase]
  obtain ⟨reads, apart⟩ := toJson_lossless
  refine ⟨named, same, reads clause value named same, ?_⟩
  exact apart outside _ (by decide) (by decide) rfl

/-- The two bits without a name are not told apart. -/
theorem toJson_unnamed (text : String) :
    (word ⟨64⟩ text).toJson = (word ⟨128⟩ text).toJson := rfl

end Tree

end Constituency
