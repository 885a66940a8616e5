import Constituency.Lexicon.WordClass

namespace Constituency

inductive Conjunction
  | and
  | or
  deriving DecidableEq, Repr

namespace Conjunction

def all : List Conjunction := [.and, .or]

def word : Conjunction → String
  | .and => "and"
  | .or => "or"

end Conjunction

inductive Tree
  | token (text : String)
  | word (wordClass : WordClass) (text : String)
  | coordination (conjunction : Conjunction) (items : List Tree)
  /-- Adjectives, noun and phrases; the determiner is not kept. -/
  | nounClause (noun : Option Tree) (adjectives phrases : List Tree)
  | sequence (parts : List Tree)
  | prepPhrase (preposition object : Tree)
  | verbObject (verb object : Tree)
  | statement (subject predicate : Tree)
  deriving Repr

namespace Tree

def label : Tree → String
  | token _ => "Dummy"
  | word _ _ => "Word"
  | coordination .and _ => "CompoundAnd"
  | coordination .or _ => "CompoundOr"
  | nounClause _ _ _ => "NounClause"
  | sequence _ => "Sequence"
  | prepPhrase _ _ => "PrepPhrase"
  | verbObject _ _ => "VerbObject"
  | statement _ _ => "Statement"

def leaf? : Tree → Option String
  | token text | word _ text => some text
  | _ => none

def children : Tree → List Tree
  | token _ => []
  | word _ _ => []
  | coordination _ items => items
  | nounClause noun adjectives phrases => adjectives ++ noun.toList ++ phrases
  | sequence parts => parts
  | prepPhrase preposition object => [preposition, object]
  | verbObject verb object => [verb, object]
  | statement subject predicate => [subject, predicate]

mutual

def words : Tree → List String
  | token text => [text]
  | word _ text => [text]
  | coordination _ items => wordsOfList items
  | nounClause noun adjectives phrases =>
    wordsOfList adjectives ++ wordsOfOption noun ++ wordsOfList phrases
  | sequence parts => wordsOfList parts
  | prepPhrase preposition object => words preposition ++ words object
  | verbObject verb object => words verb ++ words object
  | statement subject predicate => words subject ++ words predicate

def wordsOfList : List Tree → List String
  | [] => []
  | tree :: trees => words tree ++ wordsOfList trees

def wordsOfOption : Option Tree → List String
  | none => []
  | some tree => words tree

end

theorem wordsOfList_eq_flatMap (trees : List Tree) : wordsOfList trees = trees.flatMap words := by
  induction trees with
  | nil => rfl
  | cons tree trees ih => rw [wordsOfList, ih, List.flatMap_cons]

theorem wordsOfOption_eq_flatMap (tree : Option Tree) :
    wordsOfOption tree = tree.toList.flatMap words := by
  cases tree with
  | none => rfl
  | some tree => simp [wordsOfOption]

/-- A leaf has its own text, and an inner node the words of its children in reading order. -/
theorem words_eq_children (tree : Tree) :
    tree.words = tree.leaf?.toList ++ tree.children.flatMap words := by
  cases tree <;>
    simp [words, leaf?, children, wordsOfList_eq_flatMap, wordsOfOption_eq_flatMap]

def enclosed (opening separator closing : String) (texts : List String) : String :=
  opening ++ separator.intercalate texts ++ closing

def bracketed : Tree → List String → String
  | token text, _ | word _ text, _ => text
  | coordination .and _, texts => enclosed "and(" ", " ")" texts
  | coordination .or _, texts => enclosed "or(" ", " ")" texts
  | nounClause _ _ _, texts => enclosed "NP(" " " ")" texts
  | sequence _, texts => enclosed "[" " " "]" texts
  | prepPhrase _ _, texts => enclosed "PP(" " " ")" texts
  | verbObject _ _, texts => enclosed "VP(" " " ")" texts
  | statement _ _, texts => enclosed "S(" " " ")" texts

mutual

/-- The bracketed form, such as `S(NP(boy) VP(kicks NP(red ball)))`. -/
def render : Tree → String
  | token text => text
  | word _ text => text
  | tree@(coordination _ items) => bracketed tree (renderList items)
  | tree@(nounClause noun adjectives phrases) =>
    bracketed tree (renderList adjectives ++ renderOption noun ++ renderList phrases)
  | tree@(sequence parts) => bracketed tree (renderList parts)
  | tree@(prepPhrase preposition object) => bracketed tree [render preposition, render object]
  | tree@(verbObject verb object) => bracketed tree [render verb, render object]
  | tree@(statement subject predicate) => bracketed tree [render subject, render predicate]

def renderList : List Tree → List String
  | [] => []
  | tree :: trees => render tree :: renderList trees

def renderOption : Option Tree → List String
  | none => []
  | some tree => [render tree]

end

theorem renderList_eq_map (trees : List Tree) : renderList trees = trees.map render := by
  induction trees with
  | nil => rfl
  | cons tree trees ih => rw [renderList, ih, List.map_cons]

theorem renderOption_eq_map (tree : Option Tree) : renderOption tree = tree.toList.map render := by
  cases tree with
  | none => rfl
  | some tree => simp [renderOption]

theorem render_eq_children (tree : Tree) :
    tree.render = tree.bracketed (tree.children.map render) := by
  cases tree <;>
    simp [render, bracketed, children, renderList_eq_map, renderOption_eq_map]

end Tree

end Constituency
