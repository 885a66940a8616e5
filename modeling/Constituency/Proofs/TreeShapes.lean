import Constituency.Proofs.Derivations

namespace Constituency

open Coordination (choices)

namespace Tree

inductive WordOf (lexicon : Lexicon) (part : PartOfSpeech) : Tree → Prop
  | mk {text} (known : (lexicon.classify text).has part = true) :
      WordOf lexicon part (.word (.single part) text)

inductive NounWord (lexicon : Lexicon) : Tree → Prop
  | singular {tree} (word : WordOf lexicon .singularNoun tree) : NounWord lexicon tree
  | plural {tree} (word : WordOf lexicon .pluralNoun tree) : NounWord lexicon tree

inductive Several (allowed : Option Conjunction) (shape : Tree → Prop) : Tree → Prop
  | mk {joint trees} (usable : joint ∈ choices allowed) (two : 2 ≤ trees.length)
      (each : ∀ tree ∈ trees, shape tree) : Several allowed shape (.coordination joint trees)

inductive Listed (shape : Tree → Prop) : Tree → Prop
  | one {tree} (single : shape tree) : Listed shape tree
  | several {joint trees} (two : 2 ≤ trees.length) (each : ∀ tree ∈ trees, shape tree) :
      Listed shape (.coordination joint trees)

mutual

/-- A noun with at most one tree of adjectives and with any number of phrases. -/
inductive Clause (lexicon : Lexicon) : Tree → Prop
  | mk {noun adjectives phrases} (head : Listed (NounWord lexicon) noun)
      (described : ∀ tree ∈ adjectives, Listed (WordOf lexicon .adjective) tree)
      (once : adjectives.length ≤ 1)
      (modified : ∀ tree ∈ phrases, Listed (Phrase lexicon) tree) :
      Clause lexicon (.nounClause (some noun) adjectives phrases)

inductive Phrase (lexicon : Lexicon) : Tree → Prop
  | word {tree} (word : WordOf lexicon .prepPhrase tree) : Phrase lexicon tree
  | prep {preposition object} (first : WordOf lexicon .preposition preposition)
      (second : Clause lexicon object) : Phrase lexicon (.prepPhrase preposition object)

end

inductive PrepClause (lexicon : Lexicon) : Tree → Prop
  | mk {preposition object} (first : WordOf lexicon .preposition preposition)
      (second : Clause lexicon object) : PrepClause lexicon (.prepPhrase preposition object)

inductive Predicate (lexicon : Lexicon) : Tree → Prop
  | mk {verb object} (first : WordOf lexicon .transitiveVerb verb)
      (second : Listed (Clause lexicon) object) : Predicate lexicon (.verbObject verb object)

inductive Sentence (lexicon : Lexicon) : Tree → Prop
  | mk {subject predicate} (first : Clause lexicon subject)
      (second : Predicate lexicon predicate) : Sentence lexicon (.statement subject predicate)

theorem Several.listed {allowed : Option Conjunction} {shape : Tree → Prop} {tree : Tree}
    (several : Several allowed shape tree) : Listed shape tree := by
  cases several with
  | mk usable two each => exact .several two each

theorem Listed.mono {shape wider : Tree → Prop} {tree : Tree} (listed : Listed shape tree)
    (implies : ∀ tree, shape tree → wider tree) : Listed wider tree := by
  cases listed with
  | one single => exact .one (implies tree single)
  | several two each => exact .several two fun tree member => implies tree (each tree member)

end Tree

open Constituency.Tree (WordOf NounWord Several Listed Phrase PrepClause Predicate Sentence)

/-- The shape of what a rule matches, if it is no list rule. Rules that match nothing have none. -/
def Rule.Shape (lexicon : Lexicon) : Rule → Tree → Prop
  | .dummy => fun tree => ∃ text, tree = .token text
  | .adjective => WordOf lexicon .adjective
  | .singularNoun => WordOf lexicon .singularNoun
  | .pluralNoun => WordOf lexicon .pluralNoun
  | .preposition => WordOf lexicon .preposition
  | .prepWord => WordOf lexicon .prepPhrase
  | .transitiveVerb => WordOf lexicon .transitiveVerb
  | .noun => NounWord lexicon
  | .nounClause | .subjectClause => Tree.Clause lexicon
  | .prepAdjectivalPhrase => Phrase lexicon
  | .prepNounClause => PrepClause lexicon
  | .objectClause => Listed (Tree.Clause lexicon)
  | .verbObjectClause | .transitiveVerbObjectClause => Predicate lexicon
  | .statement | .sentence => Sentence lexicon
  | .compoundAnd | .compoundOr | .compound | .question | .command | .pronounClause
  | .gerundClause | .prepNounPhrase | .intransitiveVerbObjectClause => fun _ => False

/-- What a match says of its tree. A list rule has the shape of its items, and the tree of a single
word is the token that was read. -/
structure Shaped (rule : Rule) (config : Config) (tape : Tape) (tree : Tree) (rest : Tape) :
    Prop where
  plain : rule.isList = false → rule.Shape config.lexicon tree
  list : rule.isList = true → ∃ item, config.itemRule = some item ∧
    (Several rule.conjunction? (item.Shape config.lexicon) tree ∨
      (rule = .compound ∨ config.flags.requireList = false) ∧ item.Shape config.lexicon tree)
  token : rule = .dummy → ∃ text, tape.read = .ok (text, rest) ∧ tree = .token text
  word : ∀ part, rule.part? = some part → ∃ text, tape.read = .ok (text, rest) ∧
    (config.lexicon.classify text).has part = true ∧ tree = .word (.single part) text

def Rule.isComposite (rule : Rule) : Bool :=
  rule != .dummy && rule.part?.isNone

theorem Rule.part?_eq_none {rule : Rule} (composite : rule.isComposite = true) :
    rule.part? = none := by
  simp only [isComposite, Bool.and_eq_true, Option.isNone_iff_eq_none] at composite
  exact composite.2

theorem Rule.ne_dummy {rule : Rule} (composite : rule.isComposite = true) : rule ≠ .dummy := by
  simp only [isComposite, Bool.and_eq_true, bne_iff_ne] at composite
  exact composite.1

section Shapes

variable {rule inner item : Rule} {config : Config} {tape rest : Tape} {tree : Tree}

theorem shaped_of_shape (plain : rule.isList = false) (composite : rule.isComposite = true)
    (shape : rule.Shape config.lexicon tree) : Shaped rule config tape tree rest where
  plain := fun _ => shape
  list := fun listed => by simp [plain] at listed
  token := fun same => absurd same (Rule.ne_dummy composite)
  word := fun part asked => by simp [Rule.part?_eq_none composite] at asked

theorem shaped_of_word {part : PartOfSpeech} {text : String} (asked : rule.part? = some part)
    (taken : tape.read = .ok (text, rest))
    (known : (config.lexicon.classify text).has part = true) :
    Shaped rule config tape (.word (.single part) text) rest := by
  have shape : rule.isList = false ∧ rule ≠ .dummy ∧
      rule.Shape config.lexicon (.word (.single part) text) := by
    cases rule <;> cases asked <;> exact ⟨rfl, by decide, .mk known⟩
  refine ⟨fun _ => shape.2.2, ?_, fun same => absurd same shape.2.1, ?_⟩
  · intro listed
    simp [shape.1] at listed
  · intro other same
    cases asked.symm.trans same
    exact ⟨text, taken, known, rfl⟩

theorem shaped_of_items (list : rule.isList = true) (given : config.itemRule = some item)
    (either : Several rule.conjunction? (item.Shape config.lexicon) tree ∨
      (rule = .compound ∨ config.flags.requireList = false) ∧ item.Shape config.lexicon tree) :
    Shaped rule config tape tree rest := by
  have composite : rule.isComposite = true := by
    cases rule with
    | compoundAnd | compoundOr | compound => rfl
    | _ => cases list
  refine ⟨?_, fun _ => ⟨item, given, either⟩, ?_, ?_⟩
  · intro plain
    simp [list] at plain
  · intro same
    exact absurd same (Rule.ne_dummy composite)
  · intro part asked
    simp [Rule.part?_eq_none composite] at asked

theorem shape_of_alternative {lexicon : Lexicon} (listed : inner ∈ rule.alternatives)
    (shape : inner.Shape lexicon tree) : rule.Shape lexicon tree := by
  cases rule with
  | noun =>
      simp only [Rule.alternatives, List.mem_cons, List.not_mem_nil, or_false] at listed
      rcases listed with rfl | rfl
      · exact .singular shape
      · exact .plural shape
  | prepAdjectivalPhrase =>
      simp only [Rule.alternatives, List.mem_cons, List.not_mem_nil, or_false] at listed
      rcases listed with rfl | rfl
      · cases shape with
        | mk first second => exact .prep first second
      · exact .word shape
  | sentence =>
      simp only [Rule.alternatives, List.mem_cons, List.not_mem_nil, or_false] at listed
      rcases listed with rfl | rfl | rfl
      · exact shape
      · exact shape.elim
      · exact shape.elim
  | subjectClause =>
      simp only [Rule.alternatives, List.mem_cons, List.not_mem_nil, or_false] at listed
      rcases listed with rfl | rfl | rfl | rfl
      · exact shape
      · exact shape.elim
      · exact shape.elim
      · exact shape.elim
  | verbObjectClause =>
      simp only [Rule.alternatives, List.mem_cons, List.not_mem_nil, or_false] at listed
      rcases listed with rfl | rfl
      · exact shape
      · exact shape.elim
  | _ => cases listed

theorem alternatives_plain (rule : Rule) : ∀ inner ∈ rule.alternatives,
    inner.isList = false ∧ rule.isList = false ∧ rule.isComposite = true := by
  cases rule <;> decide

theorem Shaped.listed (shaped : Shaped .compound (config.withItemRule item) tape tree rest) :
    Listed (item.Shape config.lexicon) tree := by
  obtain ⟨other, given, either⟩ := shaped.list rfl
  cases given
  rcases either with several | ⟨_, single⟩
  · exact several.listed
  · exact .one single

end Shapes

theorem Coordination.Strung.each {item : Tape → Run Outcome} {shape : Tree → Prop}
    {home tape : Tape} {trees : List Tree}
    (items : Strung item home trees tape)
    (holds : ∀ tape tree rest, Reads item tape tree rest → shape tree) :
    ∀ tree ∈ trees, shape tree := by
  induction items with
  | none tape =>
      intro tree member
      cases member
  | item before reads ih =>
      intro tree member
      rcases List.mem_append.mp member with early | last
      · exact ih tree early
      · rw [List.mem_singleton.mp last]
        exact holds _ _ _ reads
  | comma before comma ih => exact ih
  | joint before found ih => exact ih

theorem NounClause.Clause.shape {reader : Reader} {lexicon : Lexicon} {home rest : Tape}
    {tree : Tree}
    (each : ∀ item tape tree rest, Reads (reader item) tape tree rest →
      Listed (item.Shape lexicon) tree)
    (clause : Clause reader home tree rest) : Tree.Clause lexicon tree := by
  cases clause with
  | @mk kind adjectives place noun after phrases rest before head tail ends =>
      have nouns : Listed (NounWord lexicon) noun := by
        have shape := each _ _ _ _ head
        cases kind with
        | definite => exact shape
        | singular => exact shape.mono fun _ => .singular
        | plural => exact shape.mono fun _ => .plural
      have modified := tail.strung.each (each .prepAdjectivalPhrase)
      cases before with
      | described determined reads =>
          refine .mk nouns ?_ (Nat.le_refl 1) modified
          intro tree member
          rw [List.mem_singleton.mp member]
          exact each _ _ _ _ reads
      | plain determined misses =>
          refine .mk nouns ?_ (Nat.zero_le 1) modified
          intro tree member
          cases member

namespace Grammar

variable {call : Caller} {rule : Rule} {config : Config} {tape rest : Tape} {tree : Tree}

theorem item_shape {item : Rule} (each : Ensures call Shaped) (list : rule.isList = true)
    (suits : config.suits rule = true) (given : config.itemRule = some item) :
    ∀ tape tree rest, Reads (call item config.forItems) tape tree rest →
      item.Shape config.lexicon tree := by
  intro tape tree rest reads
  obtain ⟨other, same, plain⟩ := Config.item_of_suits list suits
  cases given.symm.trans same
  exact (each _ _ _ _ _ reads).plain plain

theorem object_shape {inner : Rule} (each : Ensures call Shaped)
    (listed : inner ∈ [Rule.compound, .pronounClause])
    (reads : Reads (call inner (config.withItemRule .nounClause)) tape tree rest) :
    Listed (Tree.Clause config.lexicon) tree := by
  have shaped := each _ _ _ _ _ reads
  simp only [List.mem_cons, List.not_mem_nil, or_false] at listed
  rcases listed with rfl | rfl
  · exact shaped.listed
  · exact (shaped.plain rfl).elim

theorem Derives.shaped (each : Ensures call Shaped) (suits : config.suits rule = true)
    (derives : Derives call config tape rule tree rest) : Shaped rule config tape tree rest := by
  cases derives with
  | @token text rest taken =>
      exact ⟨fun _ => ⟨text, rfl⟩, fun listed => (by cases listed),
        fun _ => ⟨text, taken, rfl⟩, fun _ asked => (by cases asked)⟩
  | word asked taken known => exact shaped_of_word asked taken known
  | @alternative rule inner tree rest listed reads =>
      obtain ⟨innerPlain, plain, composite⟩ := alternatives_plain rule inner listed
      have shape := (each _ _ _ _ _ reads).plain innerPlain
      exact shaped_of_shape plain composite (shape_of_alternative listed shape)
  | object listed reads => exact shaped_of_shape rfl rfl (object_shape each listed reads)
  | prepPhrase first second =>
      have preposition := (each _ _ _ _ _ first).plain rfl
      have object := (each _ _ _ _ _ second).plain rfl
      exact shaped_of_shape rfl rfl (.mk preposition object)
  | verbObject first second =>
      have verb := (each _ _ _ _ _ first).plain rfl
      have object := (each _ _ _ _ _ second).plain rfl
      exact shaped_of_shape rfl rfl (.mk verb object)
  | statement first second =>
      have subject := (each _ _ _ _ _ first).plain rfl
      have predicate := (each _ _ _ _ _ second).plain rfl
      exact shaped_of_shape rfl rfl (.mk subject predicate)
  | clause clause =>
      have shape := clause.shape fun item tape tree rest reads => (each _ _ _ _ _ reads).listed
      exact shaped_of_shape rfl rfl shape
  | @several rule item joint trees rest list given usable two items =>
      have shape := items.each (item_shape each list suits given)
      exact shaped_of_items list given (.inl (.mk usable two shape))
  | @single rule item tree rest list given optional reads =>
      have shape := item_shape each list suits given _ _ _ reads
      exact shaped_of_items list given (.inr ⟨optional, shape⟩)

end Grammar

/-- Whatever a rule matches, under any settings, has the shape of the rule. -/
theorem Rule.recognize_shape (rule : Rule) (config : Config) (tape : Tape) (tree : Tree)
    (rest : Tape) (reads : Reads (rule.recognize config) tape tree rest) :
    Shaped rule config tape tree rest :=
  Grammar.recognize_ensures (fun _ each _ _ _ _ _ suits derives => derives.shaped each suits)
    rule config tape tree rest reads

theorem Rule.recognize_shape_objects :
    let config := Config.initial.withLexicon ⟨fun token =>
      if token = "eat" then .single .transitiveVerb
      else if token ∈ ["cat", "dog"] then .single .singularNoun else .empty⟩
    let tape : Tape := ⟨["eat", "a", "cat", "Or", "the", "dog"], 0, by decide, by decide⟩
    let tree : Tree := .verbObject (.word (.single .transitiveVerb) "eat")
      (.coordination .or [.nounClause (some (.word (.single .singularNoun) "cat")) [] [],
        .nounClause (some (.word (.single .singularNoun) "dog")) [] []])
    Reads (Rule.verbObjectClause.recognize config) tape tree (tape.seek 6) ∧
      Predicate config.lexicon tree := by
  intro config tape tree
  have reads : Reads (Rule.verbObjectClause.recognize config) tape tree (tape.seek 6) := by
    simp only [config, tape, tree]
    exact ⟨_, by rfl⟩
  have shaped := recognize_shape .verbObjectClause config tape tree (tape.seek 6) reads
  exact ⟨reads, shaped.plain rfl⟩

end Constituency
