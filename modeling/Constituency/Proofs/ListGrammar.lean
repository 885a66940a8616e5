import Constituency.Proofs.ListProgress

/-!
The grammar of lists, over any notion of item, and the machine that reads it. A run of the machine
follows a derivation step by step, and every derivation is followed by some run, so the machine
accepts exactly the lists of the grammar. Items may be anything, commas and conjunctions included.
-/

namespace Constituency.Coordination

inductive Adjacent (item : Tape → Run Outcome) : Tape → List Tree → Tape → Prop
  | none (tape : Tape) : Adjacent item tape [] tape
  | more {start tape rest trees tree} (before : Adjacent item start trees tape)
      (reads : Reads item tape tree rest) : Adjacent item start (trees ++ [tree]) rest

/-- Items with a comma before each of them, none beginning on a conjunction that may be used. -/
inductive Commas (item : Tape → Run Outcome) (allowed : Option Conjunction) :
    Tape → List Tree → Tape → Prop
  | none (tape : Tape) : Commas item allowed tape [] tape
  | more {start tape place rest trees tree} (before : Commas item allowed start trees tape)
      (comma : Comma tape place) (noJoint : NoJoint allowed place)
      (reads : Reads item place tree rest) : Commas item allowed start (trees ++ [tree]) rest

inductive Closing (joint : Conjunction) : Tape → Tape → Prop
  | plain {tape rest} (found : Joint joint tape rest) : Closing joint tape rest
  | serial {tape place rest} (comma : Comma tape place) (found : Joint joint place rest) :
      Closing joint tape rest

/-- A first item that is not followed directly by a second one, where it might be. -/
structure Opened (style : Style) (item : Tape → Run Outcome) (home : Tape) (first : Tree)
    (after : Tape) : Prop where
  reads : Reads item home first after
  unspaced : Unspaced style item after

/-- Two or more items with commas: `first` up to `after`, and then `trees`. Only from the third item
on is a conjunction no beginning of an item. -/
inductive Enumerated (style : Style) (allowed : Option Conjunction) (item : Tape → Run Outcome)
    (home : Tape) (first : Tree) (after : Tape) : List Tree → Tape → Prop
  | mk {place tape rest second trees} (opened : Opened style item home first after)
      (comma : Comma after place) (reads : Reads item place second tape)
      (others : Commas item allowed tape trees rest) :
      Enumerated style allowed item home first after (second :: trees) rest

inductive Listing (style : Style) (allowed : Option Conjunction) (item : Tape → Run Outcome)
    (home : Tape) : Tree → Tape → Prop
  | spaced {trees rest} (spaced : style.spaceDelimiters = true)
      (items : Adjacent item home trees rest) (several : 2 ≤ trees.length)
      (ends : Misses item rest) :
      Listing style allowed item home (.coordination (allowed.getD .and) trees) rest
  | pair {joint first second after place rest} (opened : Opened style item home first after)
      (usable : joint ∈ choices allowed) (found : Joint joint after place)
      (once : place.isWord joint.word = false) (reads : Reads item place second rest) :
      Listing style allowed item home (.coordination joint [first, second]) rest
  | long {joint first last after tape place rest trees}
      (items : Enumerated style allowed item home first after trees tape)
      (usable : joint ∈ choices allowed) (closing : Closing joint tape place)
      (once : place.isWord joint.word = false) (reads : Reads item place last rest) :
      Listing style allowed item home (.coordination joint (first :: trees ++ [last])) rest
  | unjoined {first after trees rest} (lenient : style.commasOnly = true)
      (items : Enumerated style allowed item home first after trees rest)
      (bare : Bare allowed rest) :
      Listing style allowed item home (.coordination (allowed.getD .and) (first :: trees)) rest

structure Lone (style : Style) (allowed : Option Conjunction) (item : Tape → Run Outcome)
    (home : Tape) (tree : Tree) (rest : Tape) : Prop where
  opened : Opened style item home tree rest
  bare : Bare allowed rest

inductive BeforeLast (style : Style) (allowed : Option Conjunction) (item : Tape → Run Outcome)
    (home : Tape) (joint : Conjunction) (first : Tree) (after : Tape) : List Tree → Tape → Prop
  | pair {place} (opened : Opened style item home first after) (found : Joint joint after place) :
      BeforeLast style allowed item home joint first after [] place
  | long {tape place trees} (items : Enumerated style allowed item home first after trees tape)
      (closing : Closing joint tape place) :
      BeforeLast style allowed item home joint first after trees place

variable {style : Style} {allowed : Option Conjunction} {item : Tape → Run Outcome} {home : Tape}

theorem Adjacent.maximal {trees : List Tree} {tape : Tape}
    (keeps : ∀ later, tape.Within later → (item later).Ends (Outcome.Kept later))
    (items : Adjacent item home trees tape) :
    ∃ more rest, Adjacent item home (trees ++ more) rest ∧ Misses item rest := by
  -- Every item uses up tokens, so the tokens that remain are what the induction is on.
  induction size : tape.remaining.length using Nat.strongRecOn generalizing trees tape with
  | ind count ih =>
      have kept := keeps tape (.refl tape)
      rcases reads_or_misses kept with ⟨tree, rest, reads⟩ | misses
      · have ahead := reads.ahead kept
        obtain ⟨more, last, extended, ends⟩ := ih _ (size ▸ ahead.remaining_lt)
          (fun later within => keeps later (ahead.within.trans within)) (items.more reads) rfl
        rw [List.append_assoc, List.singleton_append] at extended
        exact ⟨tree :: more, last, extended, ends⟩
      · rw [← List.append_nil trees] at items
        exact ⟨[], tape, items, misses⟩

theorem Adjacent.first {trees : List Tree} {tape : Tape} (items : Adjacent item home trees tape)
    (some : trees ≠ []) : ∃ tree after, Reads item home tree after := by
  induction items with
  | none => exact absurd rfl some
  | more before reads ih =>
      cases before with
      | none => exact ⟨_, _, reads⟩
      | more before' reads' => exact ih (by simp)

theorem Enumerated.opened {first : Tree} {after tape : Tape} {trees : List Tree}
    (items : Enumerated style allowed item home first after trees tape) :
    Opened style item home first after := by
  cases items with
  | mk opened comma reads others => exact opened

theorem Enumerated.more {first tree : Tree} {after tape place rest : Tape} {trees : List Tree}
    (items : Enumerated style allowed item home first after trees tape) (comma : Comma tape place)
    (noJoint : NoJoint allowed place) (reads : Reads item place tree rest) :
    Enumerated style allowed item home first after (trees ++ [tree]) rest := by
  cases items with
  | mk opened start second others => exact .mk opened start second (others.more comma noJoint reads)

theorem BeforeLast.opened {joint : Conjunction} {first : Tree} {after place : Tape}
    {trees : List Tree} (items : BeforeLast style allowed item home joint first after trees place) :
    Opened style item home first after := by
  cases items with
  | pair opened found => exact opened
  | long items closing => exact items.opened

theorem BeforeLast.listing {joint : Conjunction} {first last : Tree} {after place rest : Tape}
    {trees : List Tree} (items : BeforeLast style allowed item home joint first after trees place)
    (usable : joint ∈ choices allowed) (once : place.isWord joint.word = false)
    (reads : Reads item place last rest) :
    Listing style allowed item home (.coordination joint (first :: trees ++ [last])) rest := by
  cases items with
  | pair opened found => exact .pair opened usable found once reads
  | long items closing => exact .long items usable closing once reads

theorem noJoint_fixed_iff {joint : Conjunction} {tape : Tape} :
    NoJoint (some joint) tape ↔ tape.isWord joint.word = false := by
  simp [NoJoint, choices]

def begun (style : Style) (conjunction : Option Conjunction) (after : Tape) (trees : List Tree) :
    Progress :=
  ⟨conjunction, if style.fallback then some after else none, trees⟩

inductive Traced (style : Style) (allowed : Option Conjunction) (item : Tape → Run Outcome)
    (home : Tape) : Stage State Progress → Prop
  | start : Traced style allowed item home ⟨.firstItem, home, .initial allowed⟩
  | first {first after} (reads : Reads item home first after) :
      Traced style allowed item home ⟨.firstDelimiter, after, begun style allowed after [first]⟩
  | second {first after place} (opened : Opened style item home first after)
      (comma : Comma after place) :
      Traced style allowed item home ⟨.secondItem, place, begun style allowed after [first]⟩
  | delimiter {first after trees tape}
      (items : Enumerated style allowed item home first after trees tape) :
      Traced style allowed item home
        ⟨.laterDelimiter, tape, begun style allowed after (first :: trees)⟩
  | later {first after trees tape place}
      (items : Enumerated style allowed item home first after trees tape)
      (comma : Comma tape place) :
      Traced style allowed item home
        ⟨.laterItem, place, begun style allowed after (first :: trees)⟩
  | last {joint first after trees place} (usable : joint ∈ choices allowed)
      (items : BeforeLast style allowed item home joint first after trees place) :
      Traced style allowed item home
        ⟨.lastItem, place, begun style (some joint) after (first :: trees)⟩
  | spaced {after trees tape} (spaced : style.spaceDelimiters = true)
      (items : Adjacent item home trees tape) (several : 2 ≤ trees.length) :
      Traced style allowed item home ⟨.spacedItem, tape, begun style allowed after trees⟩
  | joined {tape progress}
      (listing : Listing style allowed item home (finish .joined progress) tape) :
      Traced style allowed item home ⟨.joined, tape, progress⟩
  | alone {tree rest progress} (optional : style.requireList = false)
      (lone : Lone style allowed item home tree rest) (items : progress.items = [tree]) :
      Traced style allowed item home ⟨.single, rest, progress⟩
  | fallen {tree rest progress} (fallback : style.fallback = true)
      (reads : Reads item home tree rest) (items : progress.items = [tree]) :
      Traced style allowed item home ⟨.single, rest, progress⟩
  | failed {tape progress} (reason : style.fallback = false ∨ Misses item home) :
      Traced style allowed item home ⟨.failed, tape, progress⟩

theorem Traced.stop {conjunction : Option Conjunction} {first : Tree} {after tape : Tape}
    {trees : List Tree} (reads : Reads item home first after) :
    Traced style allowed item home
      (stop tape (begun style conjunction after (first :: trees))) := by
  cases fallback : style.fallback with
  | true =>
      simp only [Coordination.stop, begun, fallback, if_true]
      exact .fallen fallback reads rfl
  | false =>
      simp only [Coordination.stop, begun, fallback, Bool.false_eq_true, if_false]
      exact .failed (.inl fallback)

theorem Traced.step {stage next : Stage State Progress}
    (traced : Traced style allowed item home stage)
    (transition : Transition style item stage next) : Traced style allowed item home next := by
  cases transition with
  | first reads =>
      cases traced with
      | start => exact .first reads
  | nothing misses =>
      cases traced with
      | start => exact .failed (.inr misses)
  | secondSpaced spaced reads =>
      cases traced with
      | first begins =>
          exact .spaced spaced ((Adjacent.more (.none home) begins).more reads) (by simp [begun])
  | firstComma unspaced comma =>
      cases traced with
      | first begins => exact .second ⟨begins, unspaced⟩ comma
  | firstJoint unspaced usable found =>
      cases traced with
      | first begins => exact .last usable (.pair ⟨begins, unspaced⟩ found)
  | alone unspaced bare optional =>
      cases traced with
      | first begins => exact .alone optional ⟨⟨begins, unspaced⟩, bare⟩ rfl
  | second reads =>
      cases traced with
      | second opened comma => exact .delimiter (.mk opened comma reads (.none _))
  | laterComma comma =>
      cases traced with
      | delimiter items => exact .later items comma
  | laterJoint usable found =>
      cases traced with
      | delimiter items => exact .last usable (.long items (.plain found))
  | unjoined bare lenient =>
      cases traced with
      | delimiter items => exact .joined (.unjoined lenient items bare)
  | serialJoint usable found =>
      cases traced with
      | later items comma => exact .last usable (.long items (.serial comma found))
  | later noJoint reads =>
      cases traced with
      | later items comma => exact .delimiter (items.more comma noJoint reads)
  | last noJoint reads =>
      cases traced with
      | last usable items =>
          exact .joined (items.listing usable (noJoint_fixed_iff.mp noJoint) reads)
  | spaced reads =>
      cases traced with
      | spaced spaced items several =>
          exact .spaced spaced (items.more reads) (by simp only [begun, List.length_append]; omega)
  | spacedEnd misses =>
      cases traced with
      | spaced spaced items several => exact .joined (.spaced spaced items several misses)
  | stop breaks =>
      cases breaks with
      | alone unspaced bare required =>
          cases traced with
          | first begins => exact .stop begins
      | second misses =>
          cases traced with
          | second opened comma => exact .stop opened.reads
      | unjoined bare strict =>
          cases traced with
          | delimiter items => exact .stop items.opened.reads
      | later noJoint misses =>
          cases traced with
          | later items comma => exact .stop items.opened.reads
      | doubled usable found =>
          cases traced with
          | last usable items => exact .stop items.opened.reads
      | last noJoint misses =>
          cases traced with
          | last usable items => exact .stop items.opened.reads

theorem traced_of_reaches {last : Stage State Progress}
    (reaches : (machine style item).Reaches ⟨.firstItem, home, .initial allowed⟩ last) :
    Traced style allowed item home last :=
  Machine.reaches_keeps (fun _ _ traced steps => traced.step (transition_of_steps steps))
    .start reaches

section Following

variable {first : Tree} {after tape place : Tape} {trees : List Tree} {joint : Conjunction}

theorem reaches_first (reads : Reads item home first after) :
    (machine style item).Reaches ⟨.firstItem, home, .initial allowed⟩
      ⟨.firstDelimiter, after, begun style allowed after [first]⟩ :=
  .single (steps_of_transition (.first reads))

theorem reaches_enumerated (items : Enumerated style allowed item home first after trees tape) :
    (machine style item).Reaches ⟨.firstItem, home, .initial allowed⟩
      ⟨.laterDelimiter, tape, begun style allowed after (first :: trees)⟩ := by
  cases items with
  | mk opened comma reads others =>
      induction others with
      | none =>
          exact ((reaches_first opened.reads).tail
            (steps_of_transition (.firstComma opened.unspaced comma))).tail
            (steps_of_transition (.second reads))
      | more before next noJoint follows ih =>
          exact (ih.tail (steps_of_transition (.laterComma next))).tail
            (steps_of_transition (.later noJoint follows))

theorem reaches_beforeLast (usable : joint ∈ choices allowed)
    (items : BeforeLast style allowed item home joint first after trees place) :
    (machine style item).Reaches ⟨.firstItem, home, .initial allowed⟩
      ⟨.lastItem, place, begun style (some joint) after (first :: trees)⟩ := by
  cases items with
  | pair opened found =>
      exact (reaches_first opened.reads).tail
        (steps_of_transition (.firstJoint opened.unspaced usable found))
  | long items closing =>
      have enumerated := reaches_enumerated items
      cases closing with
      | plain found => exact enumerated.tail (steps_of_transition (.laterJoint usable found))
      | serial comma found =>
          exact (enumerated.tail (steps_of_transition (.laterComma comma))).tail
            (steps_of_transition (.serialJoint usable found))

/-- The first two items are read in other states than those that follow. -/
theorem reaches_adjacent (spaced : style.spaceDelimiters = true)
    (items : Adjacent item home trees tape) :
    trees = [] ∧ tape = home ∨ (∃ first, trees = [first] ∧ Reads item home first tape) ∨
      2 ≤ trees.length ∧ ∃ after, (machine style item).Reaches
        ⟨.firstItem, home, .initial allowed⟩
        ⟨.spacedItem, tape, begun style allowed after trees⟩ := by
  induction items with
  | none => exact .inl ⟨rfl, rfl⟩
  | more before reads ih =>
      rcases ih with ⟨rfl, rfl⟩ | ⟨first, rfl, begins⟩ | ⟨several, after, reaches⟩
      · exact .inr (.inl ⟨_, rfl, reads⟩)
      · exact .inr (.inr ⟨by simp, _, (reaches_first begins).tail
          (steps_of_transition (.secondSpaced spaced reads))⟩)
      · exact .inr (.inr ⟨by simp only [List.length_append]; omega, after,
          reaches.tail (steps_of_transition (.spaced reads))⟩)

end Following

theorem reaches_of_listing {tree : Tree} {rest : Tape}
    (listing : Listing style allowed item home tree rest) :
    ∃ progress, (machine style item).Reaches ⟨.firstItem, home, .initial allowed⟩
        ⟨.joined, rest, progress⟩ ∧ finish .joined progress = tree := by
  cases listing with
  | spaced spaced items several ends =>
      rcases reaches_adjacent spaced items with ⟨rfl, _⟩ | ⟨first, rfl, _⟩ | ⟨_, after, reaches⟩
      · simp at several
      · simp at several
      · exact ⟨_, reaches.tail (steps_of_transition (.spacedEnd ends)), rfl⟩
  | pair opened usable found once reads =>
      have before := reaches_beforeLast usable (.pair opened found)
      exact ⟨_, before.tail (steps_of_transition (.last (noJoint_fixed_iff.mpr once) reads)), rfl⟩
  | long items usable closing once reads =>
      have before := reaches_beforeLast usable (.long items closing)
      exact ⟨_, before.tail (steps_of_transition (.last (noJoint_fixed_iff.mpr once) reads)), rfl⟩
  | unjoined lenient items bare =>
      exact ⟨_, (reaches_enumerated items).tail (steps_of_transition (.unjoined bare lenient)), rfl⟩

theorem reaches_of_lone {tree : Tree} {rest : Tape} (optional : style.requireList = false)
    (lone : Lone style allowed item home tree rest) :
    (machine style item).Reaches ⟨.firstItem, home, .initial allowed⟩
      ⟨.single, rest, begun style allowed rest [tree]⟩ :=
  (reaches_first lone.opened.reads).tail
    (steps_of_transition (.alone lone.opened.unspaced lone.bare optional))

section Concluding

variable {tree : Tree} {rest : Tape} {progress : Progress} {last : Stage State Progress}

theorem Listing.first (listing : Listing style allowed item home tree rest) :
    ∃ first after, Reads item home first after := by
  cases listing with
  | spaced spaced items several ends =>
      have some := List.ne_nil_of_length_pos (Nat.lt_of_lt_of_le Nat.two_pos several)
      exact items.first some
  | pair opened usable found once reads => exact ⟨_, _, opened.reads⟩
  | long items usable closing once reads => exact ⟨_, _, items.opened.reads⟩
  | unjoined lenient items bare => exact ⟨_, _, items.opened.reads⟩

theorem Listing.concluded (listing : Listing style allowed item home tree rest)
    (reaches : (machine style item).Reaches ⟨.firstItem, home, .initial allowed⟩ last)
    (final : (machine style item).Final last.state) :
    (machine style item).conclude home last = .matched rest tree := by
  obtain ⟨progress, arrives, rfl⟩ := reaches_of_listing listing
  rw [Machine.reaches_final_unique reaches final arrives joined_final]
  rfl

theorem Listing.unique {other : Tree} {place : Tape}
    (listing : Listing style allowed item home tree rest)
    (again : Listing style allowed item home other place) : other = tree ∧ place = rest := by
  obtain ⟨progress, arrives, _⟩ := reaches_of_listing listing
  have concluded := listing.concluded arrives joined_final
  cases concluded.symm.trans (again.concluded arrives joined_final)
  exact ⟨rfl, rfl⟩

theorem unlisted_of_single
    (reaches : (machine style item).Reaches ⟨.firstItem, home, .initial allowed⟩
      ⟨.single, rest, progress⟩) :
    ¬ ∃ tree rest, Listing style allowed item home tree rest := by
  intro listed
  rcases listed with ⟨_, _, listing⟩
  obtain ⟨_, arrives, _⟩ := reaches_of_listing listing
  cases Machine.reaches_final_unique reaches single_final arrives joined_final

theorem conclude_single (items : progress.items = [tree]) :
    (machine style item).conclude home ⟨.single, rest, progress⟩ = .matched rest tree := by
  simp [Machine.conclude, machine, finish, items]

end Concluding

section Reading

variable (keeps : ∀ later, home.Within later → (item later).Ends (Outcome.Kept later))

include keeps

theorem read_finds (strict : style.fallback = false) :
    (read style allowed item home).Finds home fun tree rest =>
      Listing style allowed item home tree rest ∨
        style.requireList = false ∧ Lone style allowed item home tree rest := by
  obtain ⟨last, reaches, final, _, ends⟩ := read_ends keeps
  apply Run.finds_of_ends (read_keeps keeps)
  apply ends.mono
  intro outcome concluded tree rest
  subst concluded
  constructor
  · intro matched
    cases traced_of_reaches reaches with
    | joined listing =>
        cases matched
        exact .inl listing
    | alone optional lone items =>
        cases (conclude_single items).symm.trans matched
        exact .inr ⟨optional, lone⟩
    | fallen fallback reads items => simp [strict] at fallback
    | failed reason => cases matched
    | _ => simp [final_iff] at final
  · intro found
    rcases found with listing | ⟨optional, lone⟩
    · exact listing.concluded reaches final
    · have arrives := reaches_of_lone optional lone
      rw [Machine.reaches_final_unique reaches final arrives single_final]
      exact conclude_single rfl

theorem read_finds_otherwise (fallback : style.fallback = true) :
    (read style allowed item home).Finds home
      (Otherwise (Listing style allowed item home) (Reads item home)) := by
  obtain ⟨last, reaches, final, _, ends⟩ := read_ends keeps
  apply Run.finds_of_ends (read_keeps keeps)
  apply ends.mono
  intro outcome concluded tree rest
  subst concluded
  constructor
  · intro matched
    cases traced_of_reaches reaches with
    | joined listing =>
        cases matched
        exact .inl listing
    | alone optional lone items =>
        cases (conclude_single items).symm.trans matched
        exact .inr ⟨unlisted_of_single reaches, lone.opened.reads⟩
    | fallen fallback reads items =>
        cases (conclude_single items).symm.trans matched
        exact .inr ⟨unlisted_of_single reaches, reads⟩
    | failed reason => cases matched
    | _ => simp [final_iff] at final
  · intro found
    rcases found with listing | ⟨unlisted, reads⟩
    · exact listing.concluded reaches final
    · cases traced_of_reaches reaches with
      | joined listing => exact absurd ⟨_, _, listing⟩ unlisted
      | alone optional lone items =>
          obtain ⟨rfl, rfl⟩ := lone.opened.reads.unique reads
          exact conclude_single items
      | fallen fallback first items =>
          obtain ⟨rfl, rfl⟩ := first.unique reads
          exact conclude_single items
      | failed reason =>
          have misses : Misses item home := reason.resolve_left (by simp [fallback])
          exact absurd misses reads.not_misses
      | _ => simp [final_iff] at final

end Reading

end Constituency.Coordination
