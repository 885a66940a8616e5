import Mathlib.Data.Multiset.Fold
import Constituency.Lexicon.Dictionary

namespace Constituency

namespace WordClass

instance : Std.Associative union where
  assoc first second third := congrArg mk (UInt8.or_assoc first.bits second.bits third.bits)

instance : Std.Commutative union where
  comm left right := congrArg mk (UInt8.or_comm left.bits right.bits)

instance : Std.IdempotentOp union where
  idempotent wordClass := congrArg mk (UInt8.or_self (a := wordClass.bits))

def unionAll (classes : List WordClass) : WordClass :=
  classes.foldl union empty

theorem unionAll_congr {left right : List WordClass} (same : ∀ part, part ∈ left ↔ part ∈ right) :
    unionAll left = unionAll right := by
  have dedups : (left : Multiset WordClass).dedup = (right : Multiset WordClass).dedup :=
    Multiset.dedup_ext.mpr same
  calc
    unionAll left = Multiset.fold union empty (left : Multiset WordClass) :=
      (Multiset.coe_fold_l _ _ _).symm
    _ = Multiset.fold union empty (right : Multiset WordClass) := by
      rw [← Multiset.fold_dedup_idem union, dedups, Multiset.fold_dedup_idem]
    _ = unionAll right := Multiset.coe_fold_l _ _ _

end WordClass

namespace Dictionary

def keys (dictionary : Dictionary) : List String :=
  dictionary.entries.map Prod.fst

theorem lookup_addKey_self (added : WordClass) (key : String)
    (entries : List (String × WordClass)) :
    (addKey added key entries).lookup key =
      some (((entries.lookup key).getD .empty).union added) := by
  induction entries with
  | nil => simp [addKey]
  | cons entry entries ih =>
      obtain ⟨word, known⟩ := entry
      by_cases found : word = key
      · simp [addKey, found]
      · have apart : (key == word) = false := beq_eq_false_iff_ne.mpr (Ne.symm found)
        simp [addKey, List.lookup_cons, found, apart, ih]

theorem lookup_addKey_of_ne (added : WordClass) {key word : String} (apart : word ≠ key)
    (entries : List (String × WordClass)) :
    (addKey added key entries).lookup word = entries.lookup word := by
  have missed : (word == key) = false := beq_eq_false_iff_ne.mpr apart
  induction entries with
  | nil => simp [addKey, List.lookup_cons, missed]
  | cons entry entries ih =>
      obtain ⟨other, known⟩ := entry
      by_cases found : other = key
      · simp [addKey, List.lookup_cons, found, missed]
      · simp [addKey, List.lookup_cons, found, ih]

theorem classify_insert (dictionary : Dictionary) (added : WordClass) (word other : String) :
    (dictionary.insert added word).classify other =
      if Text.lower word = Text.lower other then (dictionary.classify other).union added
      else dictionary.classify other := by
  unfold classify insert
  split
  next same => rw [same, lookup_addKey_self, Option.getD_some]
  next apart => rw [lookup_addKey_of_ne added (Ne.symm apart)]

theorem keys_addKey (added : WordClass) (key : String) (entries : List (String × WordClass)) :
    (addKey added key entries).map Prod.fst =
      if key ∈ entries.map Prod.fst then entries.map Prod.fst
      else entries.map Prod.fst ++ [key] := by
  induction entries with
  | nil => rfl
  | cons entry entries ih =>
      obtain ⟨word, known⟩ := entry
      by_cases found : word = key
      · simp [addKey, found]
      · have apart : key ≠ word := Ne.symm found
        rw [addKey, if_neg found, List.map_cons, ih, List.map_cons]
        by_cases later : key ∈ entries.map Prod.fst
        · rw [if_pos later, if_pos (List.mem_cons_of_mem _ later)]
        · rw [if_neg later, if_neg (by simpa [apart] using later), List.cons_append]

theorem mem_keys_insert (dictionary : Dictionary) (added : WordClass) (word key : String) :
    key ∈ (dictionary.insert added word).keys ↔ key ∈ dictionary.keys ∨ key = Text.lower word := by
  unfold keys insert
  rw [keys_addKey]
  split
  next known =>
    constructor
    · exact .inl
    · intro either
      rcases either with member | rfl
      · exact member
      · exact known
  next => rw [List.mem_append, List.mem_singleton]

theorem nodup_keys_insert {dictionary : Dictionary} (apart : dictionary.keys.Nodup)
    (added : WordClass) (word : String) : (dictionary.insert added word).keys.Nodup := by
  unfold keys insert
  rw [keys_addKey]
  split
  next => exact apart
  next fresh =>
    have alone : [Text.lower word].Nodup := List.nodup_singleton _
    refine List.nodup_append'.mpr ⟨apart, alone, ?_⟩
    exact List.disjoint_singleton.mpr fresh

/-- One call that adds a class, to a word or to all words of a list. -/
inductive Addition
  | insert (added : WordClass) (word : String)
  | insertAll (added : WordClass) (words : List String)

def Addition.pairs : Addition → List (WordClass × String)
  | .insert added word => [(added, word)]
  | .insertAll added words => words.map fun word => (added, word)

def add (dictionary : Dictionary) : Addition → Dictionary
  | .insert added word => dictionary.insert added word
  | .insertAll added words => dictionary.insertAll added words

def build (additions : List Addition) : Dictionary :=
  additions.foldl add empty

def inserted (additions : List Addition) : List (WordClass × String) :=
  additions.flatMap Addition.pairs

/-- The classes inserted for any spelling of the word. -/
def classesFor (word : String) (pairs : List (WordClass × String)) : List WordClass :=
  (pairs.filter fun pair => Text.lower pair.2 = Text.lower word).map Prod.fst

def insertPair (dictionary : Dictionary) (pair : WordClass × String) : Dictionary :=
  dictionary.insert pair.1 pair.2

theorem add_eq (dictionary : Dictionary) (addition : Addition) :
    dictionary.add addition = addition.pairs.foldl insertPair dictionary := by
  cases addition with
  | insert added word => rfl
  | insertAll added words =>
      rw [Addition.pairs, List.foldl_map]
      rfl

theorem build_eq (additions : List Addition) :
    build additions = (inserted additions).foldl insertPair empty := by
  have same : add = fun dictionary addition => addition.pairs.foldl insertPair dictionary :=
    funext fun dictionary => funext (add_eq dictionary)
  rw [build, inserted, List.foldl_flatMap, same]

section Folding

variable (pairs : List (WordClass × String)) (dictionary : Dictionary)

theorem classify_foldl (word : String) :
    (pairs.foldl insertPair dictionary).classify word =
      (classesFor word pairs).foldl WordClass.union (dictionary.classify word) := by
  induction pairs generalizing dictionary with
  | nil => rfl
  | cons pair pairs ih =>
      rw [List.foldl_cons, ih, insertPair, classify_insert]
      by_cases same : Text.lower pair.2 = Text.lower word
      · simp [classesFor, same]
      · simp [classesFor, same]

theorem mem_keys_foldl (key : String) :
    key ∈ (pairs.foldl insertPair dictionary).keys ↔
      key ∈ dictionary.keys ∨ key ∈ pairs.map fun pair => Text.lower pair.2 := by
  induction pairs generalizing dictionary with
  | nil => simp
  | cons pair pairs ih =>
      rw [List.foldl_cons, ih, insertPair, mem_keys_insert, List.map_cons, List.mem_cons, or_assoc]

theorem nodup_keys_foldl {dictionary : Dictionary} (apart : dictionary.keys.Nodup) :
    (pairs.foldl insertPair dictionary).keys.Nodup := by
  induction pairs generalizing dictionary with
  | nil => exact apart
  | cons pair pairs ih => exact ih (nodup_keys_insert apart pair.1 pair.2)

end Folding

theorem classify_build (additions : List Addition) (word : String) :
    (build additions).classify word = .unionAll (classesFor word (inserted additions)) := by
  rw [build_eq, classify_foldl]
  rfl

theorem keys_build_perm (additions : List Addition) :
    (build additions).keys.Perm
      ((inserted additions).map fun pair => Text.lower pair.2).dedup := by
  rw [build_eq]
  have none : empty.keys.Nodup := List.nodup_nil
  have apart := nodup_keys_foldl (inserted additions) none
  refine (List.perm_ext_iff_of_nodup apart (List.nodup_dedup _)).mpr fun key => ?_
  rw [mem_keys_foldl, List.mem_dedup]
  simp [empty, keys]

theorem size_build (additions : List Addition) :
    (build additions).size =
      ((inserted additions).map fun pair => Text.lower pair.2).dedup.length := by
  rw [← (keys_build_perm additions).length_eq, keys, List.length_map, size]

theorem isEmpty_iff_size (dictionary : Dictionary) :
    dictionary.isEmpty = true ↔ dictionary.size = 0 := by
  rw [isEmpty, size, List.isEmpty_iff, List.length_eq_zero_iff]

theorem build_congr {first second : List Addition}
    (same : ∀ pair, pair ∈ inserted first ↔ pair ∈ inserted second) :
    (∀ word, (build first).classify word = (build second).classify word) ∧
      (build first).size = (build second).size := by
  constructor
  · intro word
    rw [classify_build, classify_build]
    apply WordClass.unionAll_congr
    intro part
    simp only [classesFor, List.mem_map, List.mem_filter, same]
  · have keys : ((inserted first).map fun pair => Text.lower pair.2).dedup.Perm
        ((inserted second).map fun pair => Text.lower pair.2).dedup := by
      refine (List.perm_ext_iff_of_nodup (List.nodup_dedup _) (List.nodup_dedup _)).mpr ?_
      intro key
      simp only [List.mem_dedup, List.mem_map, same]
    rw [size_build, size_build, keys.length_eq]

theorem isEmpty_build_iff (additions : List Addition) :
    (build additions).isEmpty = true ↔ inserted additions = [] := by
  rw [isEmpty_iff_size, size_build, List.length_eq_zero_iff, List.dedup_eq_nil, List.map_eq_nil_iff]

/-- What a dictionary made of an empty one knows of a word is the union of all classes inserted for
spellings of it. It has as many entries as words were inserted, whatever their case and class. Made
in another order, or with insertions repeated, it knows the same. -/
theorem build_union (additions : List Addition) :
    (∀ word, (build additions).classify word
      = .unionAll (classesFor word (inserted additions))) ∧
    (build additions).size
      = ((inserted additions).map fun pair => Text.lower pair.2).dedup.length ∧
    ((build additions).isEmpty = true ↔ inserted additions = []) ∧
    ∀ others : List Addition,
      (additions.Perm others ∨ ∀ pair, pair ∈ inserted additions ↔ pair ∈ inserted others) →
      (∀ word, (build others).classify word = (build additions).classify word) ∧
        (build others).size = (build additions).size := by
  refine ⟨classify_build additions, size_build additions, isEmpty_build_iff additions, ?_⟩
  intro others alike
  have same : ∀ pair, pair ∈ inserted others ↔ pair ∈ inserted additions := by
    intro pair
    rcases alike with order | members
    · exact (order.flatMap_right Addition.pairs).mem_iff.symm
    · exact (members pair).symm
  exact build_congr same

theorem build_union_light :
    let additions : List Addition :=
      [.insertAll (.single .adjective) ["Light", "RED"], .insert .empty "Zebra",
        .insert (.single .singularNoun) "light"]
    let others : List Addition :=
      [.insert (.single .singularNoun) "light", .insert (.single .adjective) "Light",
        .insertAll (.single .adjective) ["RED", "Light"], .insert .empty "Zebra"]
    (∀ pair, pair ∈ inserted additions ↔ pair ∈ inserted others) ∧
      (build additions).classify "LIGHT" = .ofParts [.adjective, .singularNoun] ∧
      (build additions).classify "zebra" = .empty ∧
      (build others).classify "LIGHT" = (build additions).classify "LIGHT" ∧
      (build others).size = 3 := by
  intro additions others
  have forth : inserted additions ⊆ inserted others := by decide
  have back : inserted others ⊆ inserted additions := by decide
  have same : ∀ pair, pair ∈ inserted additions ↔ pair ∈ inserted others :=
    fun pair => ⟨fun member => forth member, fun member => back member⟩
  obtain ⟨union, size, _, alike⟩ := build_union additions
  obtain ⟨classes, sizes⟩ := alike others (.inr same)
  refine ⟨same, ?_, ?_, classes "LIGHT", ?_⟩
  · rw [union]
    decide
  · rw [union]
    decide
  · rw [sizes, size]
    decide

end Dictionary

end Constituency
