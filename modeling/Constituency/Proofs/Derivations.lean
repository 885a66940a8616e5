import Constituency.Proofs.ClauseGrammar
import Constituency.Proofs.ListRules

/-!
What a rule reads, in terms of what the rules it calls read: one case for each way of making a tree.
What these cases hand on from the calls to their caller holds of every match, by induction on the
depth of calls. Misses on the way to a match are left out here.
-/

namespace Constituency

namespace Coordination

/-- Items in order, with nothing but commas and conjunctions around them. -/
inductive Strung (item : Tape → Run Outcome) : Tape → List Tree → Tape → Prop
  | none (tape : Tape) : Strung item tape [] tape
  | item {start tape rest trees tree} (before : Strung item start trees tape)
      (reads : Reads item tape tree rest) : Strung item start (trees ++ [tree]) rest
  | comma {start tape rest trees} (before : Strung item start trees tape)
      (comma : Comma tape rest) : Strung item start trees rest
  | joint {joint start tape rest trees} (before : Strung item start trees tape)
      (found : Joint joint tape rest) : Strung item start trees rest

variable {style : Style} {allowed : Option Conjunction} {item : Tape → Run Outcome}
  {home start tape rest : Tape} {trees more : List Tree} {first tree : Tree}

theorem Adjacent.strung (items : Adjacent item home trees tape) : Strung item home trees tape := by
  induction items with
  | none => exact .none _
  | more before reads ih => exact ih.item reads

theorem Commas.strung (commas : Commas item allowed tape more rest)
    (before : Strung item start trees tape) : Strung item start (trees ++ more) rest := by
  induction commas with
  | none =>
      rw [List.append_nil]
      exact before
  | more _ comma _ reads ih =>
      rw [← List.append_assoc]
      exact (ih.comma comma).item reads

theorem Enumerated.strung {after : Tape}
    (items : Enumerated style allowed item home first after trees tape) :
    Strung item home (first :: trees) tape := by
  cases items with
  | mk opened comma reads others =>
      have one : Strung item home [first] after := (Strung.none home).item opened.reads
      exact others.strung ((one.comma comma).item reads)

theorem Closing.strung {joint : Conjunction} (closing : Closing joint tape rest)
    (before : Strung item start trees tape) : Strung item start trees rest := by
  cases closing with
  | plain found => exact before.joint found
  | serial comma found => exact (before.comma comma).joint found

theorem Listing.strung (listing : Listing style allowed item home tree rest) :
    ∃ joint trees, tree = .coordination joint trees ∧ joint ∈ choices allowed ∧
      2 ≤ trees.length ∧ Strung item home trees rest := by
  have unnamed : allowed.getD .and ∈ choices allowed := by
    cases allowed with
    | none => exact .head _
    | some joint => exact .head _
  cases listing with
  | spaced spaced items several ends => exact ⟨_, _, rfl, unnamed, several, items.strung⟩
  | @pair joint first second after place rest opened usable found once reads =>
      have one : Strung item home [first] after := (Strung.none home).item opened.reads
      exact ⟨joint, _, rfl, usable, Nat.le_refl 2, (one.joint found).item reads⟩
  | @long joint first last after tape place rest trees items usable closing once reads =>
      refine ⟨joint, _, rfl, usable, ?_, (closing.strung items.strung).item reads⟩
      simp
  | unjoined lenient items bare =>
      refine ⟨_, _, rfl, unnamed, ?_, items.strung⟩
      cases items with
      | mk opened comma reads others => simp

theorem listing_or_item (reads : Reads (read style allowed item) home tree rest) :
    Listing style allowed item home tree rest ∨
      (style.requireList = false ∨ style.fallback = true) ∧ Reads item home tree rest := by
  obtain ⟨events, done⟩ := reads
  obtain ⟨last, reaches, final, concluded⟩ := Machine.drive_done done
  cases traced_of_reaches reaches with
  | joined listing =>
      cases concluded
      exact .inl listing
  | alone optional lone items =>
      cases concluded.trans (conclude_single items)
      exact .inr ⟨.inl optional, lone.opened.reads⟩
  | fallen fallback reads items =>
      cases concluded.trans (conclude_single items)
      exact .inr ⟨.inr fallback, reads⟩
  | failed reason => cases concluded
  | _ => simp [final_iff] at final

end Coordination

theorem NounClause.clause_of_reads {reader : Reader} {home rest : Tape} {tree : Tree}
    (reads : Reads (read reader) home tree rest) : Clause reader home tree rest := by
  obtain ⟨events, done⟩ := reads
  obtain ⟨last, reaches, final, concluded⟩ := Machine.drive_done done
  rcases clause_or_nounless reaches final with ⟨_, _, clause, same⟩ | ⟨_, _, same⟩
  · cases concluded.trans same
    exact clause
  · cases concluded.trans same

namespace Recognizer

variable {config : Config} {tape rest : Tape} {tree : Tree}

theorem search_found {candidates : List Recognizer} {found : Tape × Tree} {events : List Event}
    (done : search config tape candidates = .done (.ok found) events) :
    ∃ candidate ∈ candidates, Reads (candidate.recognize config) tape found.2 found.1 := by
  induction candidates generalizing events with
  | nil => cases done
  | cons candidate others ih =>
      rcases reads_or_misses_of_bind done with
        ⟨tree, rest, _, reads, followed⟩ | ⟨_, _, _, _, followed⟩
      · cases followed
        exact ⟨candidate, List.mem_cons_self, reads⟩
      · obtain ⟨_, _, _, _, searched, _⟩ := (Run.bind_eq_done_iff _ _ _ _).mp followed
        obtain ⟨result, _, _, ran, given, _⟩ := (Run.bind_eq_done_iff _ _ _ _).mp searched
        cases result with
        | error reasons => cases given
        | ok other =>
            cases given
            obtain ⟨later, member, reads⟩ := ih ran
            exact ⟨later, List.mem_cons_of_mem _ member, reads⟩

theorem firstOf_reads {candidates : List Recognizer}
    (reads : Reads (firstOf candidates config) tape tree rest) :
    ∃ candidate ∈ candidates, Reads (candidate.recognize config) tape tree rest := by
  obtain ⟨events, done⟩ := reads
  obtain ⟨result, _, _, searched, given, _⟩ := (Run.bind_eq_done_iff _ _ _ _).mp done
  cases result with
  | error reasons => cases given
  | ok found =>
      cases given
      exact search_found searched

theorem chain_cons_done {step : Recognizer} {others : List Recognizer} {trees : List Tree}
    {events : List Event}
    (done : chain config (step :: others) tape = .done (.ok (rest, trees)) events) :
    ∃ tree place more later, Reads (step.recognize config) tape tree place ∧
      chain config others place = .done (.ok (rest, more)) later ∧ trees = tree :: more := by
  rcases reads_or_misses_of_bind done with
    ⟨tree, place, _, reads, followed⟩ | ⟨_, _, _, _, followed⟩
  · obtain ⟨result, later, _, ran, given, _⟩ := (Run.bind_eq_done_iff _ _ _ _).mp followed
    cases result with
    | error reason => cases given
    | ok pair =>
        cases given
        exact ⟨tree, place, pair.2, later, reads, ran, rfl⟩
  · cases followed

end Recognizer

def Rule.part? : Rule → Option PartOfSpeech
  | .adjective => some .adjective
  | .singularNoun => some .singularNoun
  | .pluralNoun => some .pluralNoun
  | .preposition => some .preposition
  | .prepWord => some .prepPhrase
  | .transitiveVerb => some .transitiveVerb
  | _ => none

def Rule.alternatives : Rule → List Rule
  | .noun => [.singularNoun, .pluralNoun]
  | .prepAdjectivalPhrase => [.prepNounClause, .prepWord]
  | .sentence => [.statement, .question, .command]
  | .subjectClause => [.nounClause, .pronounClause, .gerundClause, .prepNounPhrase]
  | .verbObjectClause => [.transitiveVerbObjectClause, .intransitiveVerbObjectClause]
  | _ => []

def Rule.conjunction? : Rule → Option Conjunction
  | .compoundAnd => some .and
  | .compoundOr => some .or
  | _ => none

namespace Grammar

open Coordination (Strung choices)

/-- The ways to make a tree by one rule out of what others have read. -/
inductive Derives (call : Caller) (config : Config) (tape : Tape) : Rule → Tree → Tape → Prop
  | token {text rest} (taken : tape.read = .ok (text, rest)) :
      Derives call config tape .dummy (.token text) rest
  | word {rule part text rest} (asked : rule.part? = some part)
      (taken : tape.read = .ok (text, rest))
      (known : (config.lexicon.classify text).has part = true) :
      Derives call config tape rule (.word (.single part) text) rest
  | alternative {rule inner tree rest} (listed : inner ∈ rule.alternatives)
      (reads : Reads (call inner config) tape tree rest) : Derives call config tape rule tree rest
  | object {inner tree rest} (listed : inner ∈ [Rule.compound, .pronounClause])
      (reads : Reads (call inner (config.withItemRule .nounClause)) tape tree rest) :
      Derives call config tape .objectClause tree rest
  | prepPhrase {preposition object place rest}
      (first : Reads (call .preposition config) tape preposition place)
      (second : Reads (call .nounClause config) place object rest) :
      Derives call config tape .prepNounClause (.prepPhrase preposition object) rest
  | verbObject {verb object place rest}
      (first : Reads (call .transitiveVerb config) tape verb place)
      (second : Reads (call .objectClause config) place object rest) :
      Derives call config tape .transitiveVerbObjectClause (.verbObject verb object) rest
  | statement {subject predicate place rest}
      (first : Reads (call .subjectClause config) tape subject place)
      (second : Reads (call .verbObjectClause config) place predicate rest) :
      Derives call config tape .statement (.statement subject predicate) rest
  | several {rule item joint trees rest} (list : rule.isList = true)
      (given : config.itemRule = some item) (usable : joint ∈ choices rule.conjunction?)
      (two : 2 ≤ trees.length) (items : Strung (call item config.forItems) tape trees rest) :
      Derives call config tape rule (.coordination joint trees) rest
  | single {rule item tree rest} (list : rule.isList = true)
      (given : config.itemRule = some item)
      (optional : rule = .compound ∨ config.flags.requireList = false)
      (reads : Reads (call item config.forItems) tape tree rest) :
      Derives call config tape rule tree rest
  | clause {tree rest}
      (clause : NounClause.Clause (fun item => call .compound (config.withItemRule item))
        tape tree rest) :
      Derives call config tape .nounClause tree rest

section Inversion

variable {call : Caller} {rule : Rule} {config : Config} {tape rest : Tape} {tree : Tree}

theorem anyToken_matched (matched : anyToken tape = .matched rest tree) :
    ∃ text, tape.read = .ok (text, rest) ∧ tree = .token text := by
  unfold anyToken at matched
  split at matched
  next text rest taken =>
    cases matched
    exact ⟨text, taken, rfl⟩
  next => cases matched

theorem wordOf_matched {name : String} {part : PartOfSpeech}
    (matched : wordOf name part config tape = .matched rest tree) :
    ∃ text, tape.read = .ok (text, rest) ∧ (config.lexicon.classify text).has part = true ∧
      tree = .word (.single part) text := by
  unfold wordOf at matched
  split at matched
  next => cases matched
  next text rest taken =>
    simp only at matched
    split at matched
    next known =>
      cases matched
      exact ⟨text, taken, known, rfl⟩
    next => cases matched

theorem choice_reads {rules : List Rule} (reads : Reads (choice call rules config) tape tree rest) :
    ∃ inner ∈ rules, Reads (call inner config) tape tree rest := by
  obtain ⟨candidate, member, found⟩ := Recognizer.firstOf_reads reads
  obtain ⟨inner, listed, rfl⟩ := List.mem_map.mp member
  exact ⟨inner, listed, found⟩

/-- The trees of a pair are always joined: no bare sequence is left over. -/
theorem pair_reads {first second : Rule} {join : Tree → Tree → Tree}
    (reads : Reads (pair call first second join config) tape tree rest) :
    ∃ left place right, Reads (call first config) tape left place ∧
      Reads (call second config) place right rest ∧ tree = join left right := by
  obtain ⟨events, done⟩ := reads
  obtain ⟨outcome, _, _, ordered, mapped, _⟩ := (Run.bind_eq_done_iff _ _ _ _).mp done
  obtain ⟨result, _, _, chained, given, _⟩ := (Run.bind_eq_done_iff _ _ _ _).mp ordered
  cases result with
  | error reason =>
      cases given
      cases mapped
  | ok found =>
      cases given
      obtain ⟨left, place, more, _, begins, follows, both⟩ := Recognizer.chain_cons_done chained
      obtain ⟨right, last, none, _, continues, ended, others⟩ :=
        Recognizer.chain_cons_done follows
      cases ended
      rw [both, others] at mapped
      cases mapped
      exact ⟨left, place, right, begins, continues, rfl⟩

theorem list_derives {requireList fallback : Bool} {caller : Rule} (listed : rule.isList = true)
    (optional : requireList = false ∨ fallback = true →
      rule = .compound ∨ config.flags.requireList = false)
    (reads : Reads (list call caller rule.conjunction? requireList fallback config)
      tape tree rest) : Derives call config tape rule tree rest := by
  cases given : config.itemRule with
  | none =>
      obtain ⟨events, done⟩ := reads
      simp [list, Config.itemRuleFor, given] at done
  | some item =>
      simp only [Reads, list_eq given] at reads
      rcases Coordination.listing_or_item reads with listing | ⟨alone, reads⟩
      · obtain ⟨joint, trees, rfl, usable, two, items⟩ := listing.strung
        exact .several listed given usable two items
      · exact .single listed given (optional alone) reads

theorem derives_of_reads (reads : Reads (body call rule config) tape tree rest) :
    Derives call config tape rule tree rest := by
  cases rule with
  | dummy =>
      obtain ⟨events, done⟩ := reads
      obtain ⟨text, taken, rfl⟩ := anyToken_matched (Run.done.inj done).1
      exact .token taken
  | adjective | singularNoun | pluralNoun | preposition | prepWord | transitiveVerb =>
      obtain ⟨events, done⟩ := reads
      obtain ⟨text, taken, known, rfl⟩ := wordOf_matched (Run.done.inj done).1
      exact .word rfl taken known
  | compoundAnd =>
      have reads : Reads (list call .compoundAnd Rule.compoundAnd.conjunction?
        config.flags.requireList false config) tape tree rest := reads
      exact list_derives rfl (fun alone => .inr (alone.resolve_right Bool.false_ne_true)) reads
  | compoundOr =>
      have reads : Reads (list call .compoundOr Rule.compoundOr.conjunction?
        config.flags.requireList false config) tape tree rest := reads
      exact list_derives rfl (fun alone => .inr (alone.resolve_right Bool.false_ne_true)) reads
  | compound =>
      have reads : Reads (list call .compound Rule.compound.conjunction? false true config)
        tape tree rest := reads
      exact list_derives rfl (fun _ => .inl rfl) reads
  | nounClause => exact .clause (NounClause.clause_of_reads reads)
  | noun | prepAdjectivalPhrase | sentence | subjectClause | verbObjectClause =>
      obtain ⟨inner, listed, found⟩ := choice_reads reads
      exact .alternative listed found
  | objectClause =>
      obtain ⟨inner, listed, found⟩ := choice_reads reads
      exact .object listed found
  | prepNounClause =>
      obtain ⟨left, place, right, first, second, rfl⟩ := pair_reads reads
      exact .prepPhrase first second
  | statement =>
      obtain ⟨left, place, right, first, second, rfl⟩ := pair_reads reads
      exact .statement first second
  | transitiveVerbObjectClause =>
      obtain ⟨left, place, right, first, second, rfl⟩ := pair_reads reads
      exact .verbObject first second
  | question | command | pronounClause | gerundClause | prepNounPhrase
  | intransitiveVerbObjectClause =>
      obtain ⟨events, done⟩ := reads
      cases done

theorem once_reads (reads : Reads (once call rule config) tape tree rest) :
    Reads (body call rule config) tape tree rest := by
  obtain ⟨events, done⟩ := reads
  obtain ⟨outcome, early, _, ran, ended, _⟩ := (Run.bind_eq_done_iff _ _ _ _).mp done
  cases ended
  exact ⟨early, ran⟩

end Inversion

def Ensures (call : Caller) (holds : Rule → Config → Tape → Tree → Tape → Prop) : Prop :=
  ∀ rule config tape tree rest, Reads (call rule config) tape tree rest →
    holds rule config tape tree rest

section Induction

variable {holds : Rule → Config → Tape → Tree → Tape → Prop}
  (step : ∀ call, Ensures call holds → ∀ rule config tape tree rest,
    config.suits rule = true → Derives call config tape rule tree rest →
    holds rule config tape tree rest)

include step

theorem run_ensures (depth : Nat) : Ensures (run depth) holds := by
  induction depth with
  | zero =>
      intro rule config tape tree rest reads
      obtain ⟨events, done⟩ := reads
      cases done
  | succ depth ih =>
      intro rule config tape tree rest reads
      have suits : config.suits rule = true := by
        obtain ⟨events, done⟩ := reads
        exact suits_of_run done
      rw [run_succ] at reads
      exact step (run depth) ih rule config tape tree rest suits
        (derives_of_reads (once_reads reads))

/-- What every way of making a tree hands on from the calls to their caller, every match has. -/
theorem recognize_ensures : Ensures Rule.recognize holds := by
  intro rule config tape tree rest reads
  obtain ⟨events, done⟩ := reads
  exact run_ensures step (depthFor tape) rule config tape tree rest ⟨events, done⟩

end Induction

end Grammar

end Constituency
