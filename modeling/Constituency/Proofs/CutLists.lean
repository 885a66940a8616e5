import Constituency.Proofs.CutTapes
import Constituency.Proofs.ListGrammar
import Constituency.Proofs.RuleReadings

/-!
Lists on a cut tape, with commas and a conjunction and nothing else between their items. If the cut
changes an item only where no list could have gone on, it changes a list only where it breaks the
list off, or where it takes away the rest of a list whose first item is then left.
-/

namespace Constituency

/-- What an item reads on the whole tape up to the cut, it reads on the cut tape; and what it reads
on the cut tape it reads on the whole one, unless it overruns the cut there and ends at a dead
place here. -/
structure Steady (item : Tape → Run Outcome) (after : List String) (dead : Tape → Prop)
    (part : Tape) : Prop where
  down : ∀ tree rest, Reads item (part.followedBy after) tree (rest.followedBy after) →
    Reads item part tree rest
  up : ∀ tree rest, Reads item part tree rest →
    Reads item (part.followedBy after) tree (rest.followedBy after) ∨
      Overruns item after part ∧ dead rest

theorem Steady.misses {item : Tape → Run Outcome} {after : List String} {dead : Tape → Prop}
    {part : Tape} (steady : Steady item after dead part) {good : Outcome → Prop}
    (ends : (item part).Ends good) (misses : Misses item (part.followedBy after)) :
    Misses item part := by
  rcases reads_or_misses ends with ⟨tree, rest, reads⟩ | here
  · rcases steady.up tree rest reads with same | ⟨⟨_, _, further, _⟩, _⟩
    · exact absurd misses same.not_misses
    · exact absurd misses further.not_misses
  · exact here

namespace Coordination

inductive Continues (item : Tape → Run Outcome) (place : Tape) : Prop
  | mk {trees tape joint next tree rest} (commas : Commas item none place trees tape)
      (closing : Closing joint tape next) (once : next.isWord joint.word = false)
      (reads : Reads item next tree rest) : Continues item place

/-- A place where no item begins and no list goes on. -/
structure Stuck (item : Tape → Run Outcome) (place : Tape) : Prop where
  misses : Misses item place
  broken : ¬ Continues item place

/-- On the whole tape a delimiter stands at `place`, and an item after it. -/
def Pending (item : Tape → Run Outcome) (after : List String) (place : Tape) : Prop :=
  ∃ next tree rest, (Comma (place.followedBy after) next ∨
    ∃ joint, Joint joint (place.followedBy after) next) ∧ Reads item next tree rest

section Commas

variable {item : Tape → Run Outcome} {allowed : Option Conjunction} {start place tape rest : Tape}
  {trees more : List Tree} {tree : Tree}

theorem Commas.append (before : Commas item allowed start trees tape)
    (commas : Commas item allowed tape more rest) :
    Commas item allowed start (trees ++ more) rest := by
  induction commas with
  | none =>
      rw [List.append_nil]
      exact before
  | more _ comma noJoint reads ih =>
      rw [← List.append_assoc]
      exact ih.more comma noJoint reads

theorem Commas.cons (comma : Comma start place) (noJoint : NoJoint allowed place)
    (reads : Reads item place tree tape) (commas : Commas item allowed tape trees rest) :
    Commas item allowed start (tree :: trees) rest :=
  ((Commas.none start).more comma noJoint reads).append commas

theorem Commas.cases_head (commas : Commas item allowed start trees rest) :
    rest = start ∨ ∃ place tape tree others, Comma start place ∧ NoJoint allowed place ∧
      Reads item place tree tape ∧ Commas item allowed tape others rest := by
  induction commas with
  | none => exact .inl rfl
  | more before comma noJoint reads ih =>
      rcases ih with rfl | ⟨place, tape, tree, others, starts, apart, second, others'⟩
      · exact .inr ⟨_, _, _, [], comma, noJoint, reads, .none _⟩
      · exact .inr ⟨place, tape, tree, _, starts, apart, second, others'.more comma noJoint reads⟩

theorem Commas.within (keeps : ∀ tape, (item tape).Ends (Outcome.Kept tape))
    (commas : Commas item allowed start trees rest) : start.Within rest := by
  induction commas with
  | none => exact .refl _
  | more _ comma _ reads ih =>
      exact ih.trans (comma.ahead.within.trans (reads.ahead (keeps _)).within)

theorem Closing.ahead {joint : Conjunction} (closing : Closing joint tape rest) :
    tape.Ahead rest := by
  cases closing with
  | plain found => exact found.ahead
  | serial comma found => exact comma.ahead.trans_within found.ahead.within

theorem Continues.cons (comma : Comma start place) (noJoint : NoJoint none place)
    (reads : Reads item place tree tape) (continues : Continues item tape) :
    Continues item start := by
  cases continues with
  | mk commas closing once last => exact .mk (.cons comma noJoint reads commas) closing once last

theorem Continues.delimited (continues : Continues item place) :
    (∃ next, Comma place next) ∨ ∃ joint next, Joint joint place next := by
  cases continues with
  | mk commas closing once reads =>
      rcases commas.cases_head with rfl | ⟨next, _, _, _, comma, _⟩
      · cases closing with
        | plain found => exact .inr ⟨_, _, found⟩
        | serial comma found => exact .inl ⟨_, comma⟩
      · exact .inl ⟨next, comma⟩

theorem Continues.room (continues : Continues item place) :
    place.position < place.tokens.length := by
  rcases continues.delimited with ⟨next, comma⟩ | ⟨joint, next, found⟩
  · exact Tape.room_of_isToken comma.found
  · exact Tape.room_of_isWord found.found

theorem closing_down {after : List String} {joint : Conjunction}
    (closing : Closing joint (tape.followedBy after) (rest.followedBy after)) :
    Closing joint tape rest := by
  generalize ends : rest.followedBy after = next at closing
  cases closing with
  | plain found =>
      subst ends
      exact .plain (joint_followedBy_iff.mp found)
  | serial comma found =>
      subst ends
      obtain ⟨middle, rfl, _⟩ := Tape.cut_between comma.ahead.within found.ahead.within
      exact .serial (comma_followedBy_iff.mp comma) (joint_followedBy_iff.mp found)

theorem closing_up {after : List String} {joint : Conjunction} (closing : Closing joint tape rest) :
    Closing joint (tape.followedBy after) (rest.followedBy after) := by
  cases closing with
  | plain found => exact .plain (joint_followedBy_iff.mpr found)
  | serial comma found =>
      exact .serial (comma_followedBy_iff.mpr comma) (joint_followedBy_iff.mpr found)

end Commas

section Cutting

variable {item : Tape → Run Outcome} {after : List String} {dead : Tape → Prop}
  {style : Style} {home start tape rest : Tape} {trees : List Tree} {tree : Tree}
  {joint : Conjunction}

theorem opened_of_reads (unspaced : style.spaceDelimiters = false)
    (reads : Reads item home tree rest) : Opened style item home tree rest :=
  ⟨reads, fun spaced => by simp [unspaced] at spaced⟩

theorem Listing.beforeLast (unspaced : style.spaceDelimiters = false)
    (joined : style.commasOnly = false) (listing : Listing style none item home tree rest) :
    ∃ joint first begun trees place last, joint ∈ choices none ∧
      BeforeLast style none item home joint first begun trees place ∧
      place.isWord joint.word = false ∧ Reads item place last rest ∧
      tree = .coordination joint (first :: trees ++ [last]) := by
  cases listing with
  | spaced spaced items several ends => simp [unspaced] at spaced
  | pair opened usable found once reads =>
      exact ⟨_, _, _, _, _, _, usable, .pair opened found, once, reads, rfl⟩
  | long items usable closing once reads =>
      exact ⟨_, _, _, _, _, _, usable, .long items closing, once, reads, rfl⟩
  | unjoined lenient items bare => simp [joined] at lenient

variable (keeps : ∀ tape, (item tape).Ends (Outcome.Kept tape))
  (steady : ∀ later, home.Within later → Steady item after dead later)
  (unspaced : style.spaceDelimiters = false) (joined : style.commasOnly = false)

section Order

include keeps

theorem BeforeLast.opened_within {first : Tree} {begun : Tape}
    (items : BeforeLast style none item home joint first begun trees rest) :
    home.Ahead begun ∧ begun.Ahead rest := by
  cases items with
  | pair opened found => exact ⟨opened.reads.ahead (keeps _), found.ahead⟩
  | long items closing =>
      cases items with
      | mk opened comma reads others =>
          have toSecond := comma.ahead.trans_within (reads.ahead (keeps _)).within
          exact ⟨opened.reads.ahead (keeps _),
            toSecond.trans_within ((others.within keeps).trans closing.ahead.within)⟩

theorem BeforeLast.within {first : Tree} {begun : Tape}
    (items : BeforeLast style none item home joint first begun trees rest) : home.Within rest := by
  obtain ⟨toFirst, toLast⟩ := items.opened_within keeps
  exact toFirst.within.trans toLast.within

end Order

section Down

include keeps steady

theorem commas_down {whole place : Tape} (commas : Commas item none whole trees place)
    (within : home.Within start) (begins : whole = start.followedBy after)
    (ends : place = rest.followedBy after) : Commas item none start trees rest := by
  induction commas generalizing rest with
  | none =>
      have same : rest.followedBy after = start.followedBy after := ends.symm.trans begins
      rw [Tape.followedBy_inj same]
      exact .none start
  | more before comma noJoint reads ih =>
      subst begins ends
      have further := (reads.ahead (keeps _)).within
      obtain ⟨middle, rfl, later, earlier⟩ :=
        Tape.cut_between (before.within keeps) (comma.ahead.within.trans further)
      obtain ⟨next, rfl, beyond, _⟩ := Tape.cut_between comma.ahead.within further
      exact (ih rfl).more (comma_followedBy_iff.mp comma) (noJoint_of_followedBy noJoint)
        ((steady next (within.trans (later.trans beyond))).down _ _ reads)

include unspaced

theorem beforeLast_down {first : Tree} {begun : Tape}
    (items : BeforeLast style none item (home.followedBy after) joint first begun trees
      (rest.followedBy after)) :
    ∃ begun, BeforeLast style none item home joint first begun trees rest := by
  generalize ends : rest.followedBy after = place at items
  cases items with
  | pair opened found =>
      subst ends
      obtain ⟨begun, rfl, _⟩ :=
        Tape.cut_between (opened.reads.ahead (keeps _)).within found.ahead.within
      have first := (steady home (.refl _)).down _ _ opened.reads
      exact ⟨begun, .pair (opened_of_reads unspaced first) (joint_followedBy_iff.mp found)⟩
  | long items closing =>
      subst ends
      cases items with
      | mk opened comma reads others =>
          have last := (others.within keeps).trans closing.ahead.within
          have second := (reads.ahead (keeps _)).within.trans last
          obtain ⟨begun, rfl, toFirst, _⟩ := Tape.cut_between (opened.reads.ahead (keeps _)).within
            (comma.ahead.within.trans second)
          obtain ⟨next, rfl, toComma, _⟩ := Tape.cut_between comma.ahead.within second
          obtain ⟨middle, rfl, toSecond, _⟩ := Tape.cut_between (reads.ahead (keeps _)).within last
          obtain ⟨place, rfl, _⟩ := Tape.cut_between (others.within keeps) closing.ahead.within
          have toNext := toFirst.trans toComma
          have first := opened_of_reads unspaced ((steady home (.refl _)).down _ _ opened.reads)
          have follows := (steady next toNext).down _ _ reads
          have more := commas_down keeps steady others (toNext.trans toSecond) rfl rfl
          exact ⟨begun, .long (.mk first (comma_followedBy_iff.mp comma) follows more)
            (closing_down closing)⟩

include joined

theorem listing_down (listing : Listing style none item (home.followedBy after) tree
    (rest.followedBy after)) : Listing style none item home tree rest := by
  obtain ⟨joint, first, begun, trees, place, last, usable, items, once, reads, rfl⟩ :=
    listing.beforeLast unspaced joined
  obtain ⟨place, rfl, within, _⟩ :=
    Tape.cut_between (items.within keeps) (reads.ahead (keeps _)).within
  obtain ⟨begun, before⟩ := beforeLast_down keeps steady unspaced items
  exact before.listing usable (Tape.not_isWord_of_followedBy once)
    ((steady place within).down _ _ reads)

end Down

section Up

variable (begins : ∀ place tree rest, Reads item place tree rest → Bare none place)
  (broken : ∀ place, dead place → ¬ Continues item place)

include broken

/-- Where a list goes on after an item, the cut does not change the item. -/
theorem up_of_continues (here : Steady item after dead start)
    (reads : Reads item start tree rest) (continues : Continues item rest) :
    Reads item (start.followedBy after) tree (rest.followedBy after) := by
  rcases here.up tree rest reads with same | ⟨_, ends⟩
  · exact same
  · exact absurd continues (broken rest ends)

include keeps steady

theorem commas_up (commas : Commas item none start trees tape) (within : home.Within start)
    (continues : Continues item tape) :
    Commas item none (start.followedBy after) trees (tape.followedBy after) := by
  induction commas with
  | none => exact .none _
  | @more tape place rest trees tree before comma noJoint reads ih =>
      have here := within.trans ((before.within keeps).trans comma.ahead.within)
      have earlier := ih (.cons comma noJoint reads continues)
      exact earlier.more (comma_followedBy_iff.mpr comma)
        (noJoint_followedBy (reads.room (keeps _)) noJoint)
        (up_of_continues broken (steady place here) reads continues)

include unspaced begins

theorem beforeLast_up {first last : Tree} {begun place : Tape}
    (items : BeforeLast style none item home joint first begun trees place)
    (once : place.isWord joint.word = false) (reads : Reads item place last rest) :
    BeforeLast style none item (home.followedBy after) joint first (begun.followedBy after) trees
      (place.followedBy after) := by
  have starts := steady home (.refl _)
  cases items with
  | pair opened found =>
      have first := up_of_continues broken starts opened.reads
        (.mk (.none _) (.plain found) once reads)
      exact .pair (opened_of_reads unspaced first) (joint_followedBy_iff.mpr found)
  | long items closing =>
      cases items with
      | @mk next middle place second more opened comma follows others =>
          have toNext := (opened.reads.ahead (keeps _)).within.trans comma.ahead.within
          have toMiddle := toNext.trans (follows.ahead (keeps _)).within
          have goesOn : Continues item middle := .mk others closing once reads
          have noJoint := (begins _ _ _ follows).noJoint
          have first := up_of_continues broken starts opened.reads
            (.cons comma noJoint follows goesOn)
          have second := up_of_continues broken (steady next toNext) follows goesOn
          have commas := commas_up keeps steady broken others toMiddle
            (.mk (.none _) closing once reads)
          exact .long (.mk (opened_of_reads unspaced first) (comma_followedBy_iff.mpr comma)
            second commas) (closing_up closing)

include joined

theorem listing_up (listing : Listing style none item home tree rest) :
    Listing style none item (home.followedBy after) tree (rest.followedBy after) ∨
      (∃ tree place, Listing style none item (home.followedBy after) tree place ∧
        home.tokens.length < place.position) ∧ dead rest := by
  obtain ⟨joint, first, begun, trees, place, last, usable, items, once, reads, rfl⟩ :=
    listing.beforeLast unspaced joined
  have within := items.within keeps
  have before := beforeLast_up keeps steady unspaced begins broken items once reads
  have apart : (place.followedBy after).isWord joint.word = false :=
    (Tape.isWord_followedBy (reads.room (keeps _)) _).trans once
  rcases (steady place within).up _ _ reads with same | ⟨⟨tree, beyond, further, behind⟩, ends⟩
  · exact .inl (before.listing usable apart same)
  · have longer := before.listing usable apart further
    exact .inr ⟨⟨_, beyond, longer, within.tokens ▸ behind⟩, ends⟩

end Up

section Compounds

variable {list : Tape → Run Outcome} (compounds : ReadsCompound style item list)
  (begins : ∀ place tree rest, Reads item place tree rest → Bare none place)
  (broken : ∀ place, dead place → ¬ Continues item place)

theorem pending_of_beforeLast {first last : Tree} {begun place : Tape} {whole : Tape}
    (items : BeforeLast style none item whole joint first (begun.followedBy after) trees place)
    (reads : Reads item place last rest) : Pending item after begun := by
  cases items with
  | pair opened found => exact ⟨_, _, _, .inr ⟨_, found⟩, reads⟩
  | long items closing =>
      cases items with
      | mk opened comma second others => exact ⟨_, _, _, .inl comma, second⟩

section Overrunning

include keeps unspaced joined compounds

theorem overruns_compound (overruns : Overruns item after home) : Overruns list after home := by
  obtain ⟨tree, beyond, reads, behind⟩ := overruns
  by_cases listed : ∃ tree rest, Listing style none item (home.followedBy after) tree rest
  · obtain ⟨longer, rest, listing⟩ := listed
    obtain ⟨joint, first, begun, trees, place, last, usable, items, once, lastReads, rfl⟩ :=
      listing.beforeLast unspaced joined
    obtain ⟨_, rfl⟩ := reads.unique items.opened.reads
    have further := (items.opened_within keeps).2.within.trans (lastReads.ahead (keeps _)).within
    exact ⟨_, rest, (compounds _ _ _).mpr (.inl listing),
      Nat.lt_of_lt_of_le behind further.position⟩
  · exact ⟨tree, beyond, (compounds _ _ _).mpr (.inr ⟨listed, reads⟩), behind⟩

end Overrunning

section Ending

include keeps steady unspaced joined compounds

/-- A list that ends at the cut does so on the cut tape, whatever its items may begin with. -/
theorem compound_down_of_atEnd (ended : rest.atEnd = true)
    (reads : Reads list (home.followedBy after) tree (rest.followedBy after)) :
    Reads list home tree rest := by
  rw [compounds] at reads ⊢
  rcases reads with listing | ⟨unlisted, single⟩
  · exact .inl (listing_down keeps steady unspaced joined listing)
  · have item := (steady home (.refl _)).down _ _ single
    refine .inr ⟨?_, item⟩
    rintro ⟨_, _, listing⟩
    -- The list on the cut tape would go on behind its end.
    obtain ⟨_, _, begun, _, _, _, _, items, _, _, _⟩ := listing.beforeLast unspaced joined
    obtain ⟨_, rfl⟩ := item.unique items.opened.reads
    have room := Tape.room_of_ahead (items.opened_within keeps).2
    exact Nat.lt_irrefl _ (eq_of_beq ended ▸ room)

end Ending

include keeps steady unspaced joined begins broken compounds

theorem compound_down (reads : Reads list (home.followedBy after) tree (rest.followedBy after)) :
    Reads list home tree rest := by
  rw [compounds] at reads ⊢
  rcases reads with listing | ⟨unlisted, single⟩
  · exact .inl (listing_down keeps steady unspaced joined listing)
  · refine .inr ⟨?_, (steady home (.refl _)).down _ _ single⟩
    rintro ⟨_, _, listing⟩
    rcases listing_up keeps steady unspaced joined begins broken listing with
      same | ⟨⟨_, _, longer, _⟩, _⟩
    · exact unlisted ⟨_, _, same⟩
    · exact unlisted ⟨_, _, longer⟩

/-- A compound is the same on the whole tape, or else an item or a list overruns the cut there. If
it is a list and its first item does not overrun, the list goes on beyond that item. -/
theorem compound_up (reads : Reads list home tree rest) :
    Reads list (home.followedBy after) tree (rest.followedBy after) ∨
      Overruns list after home ∧ (dead rest ∨ Pending item after rest ∧ Reads item home tree rest ∧
        ¬ ∃ tree rest, Listing style none item home tree rest) := by
  rcases (compounds _ _ _).mp reads with listing | ⟨unlisted, single⟩
  · rcases listing_up keeps steady unspaced joined begins broken listing with
      same | ⟨⟨_, _, longer, behind⟩, ends⟩
    · exact .inl ((compounds _ _ _).mpr (.inl same))
    · exact .inr ⟨⟨_, _, (compounds _ _ _).mpr (.inl longer), behind⟩, .inl ends⟩
  · rcases (steady home (.refl _)).up tree rest single with same | ⟨overruns, ends⟩
    · by_cases listed : ∃ tree rest, Listing style none item (home.followedBy after) tree rest
      · obtain ⟨longer, beyond, listing⟩ := listed
        obtain ⟨joint, first, begun, trees, place, last, usable, items, once, lastReads, rfl⟩ :=
          listing.beforeLast unspaced joined
        obtain ⟨rfl, rfl⟩ := same.unique items.opened.reads
        have pending := pending_of_beforeLast items lastReads
        have ahead := (items.within keeps).trans_ahead (lastReads.ahead (keeps _))
        rcases Tape.cut_or_beyond ahead with ⟨rest, rfl, _⟩ | behind
        · exact absurd ⟨_, _, listing_down keeps steady unspaced joined listing⟩ unlisted
        · exact .inr ⟨⟨_, _, (compounds _ _ _).mpr (.inl listing), behind⟩,
            .inr ⟨pending, single, unlisted⟩⟩
      · exact .inl ((compounds _ _ _).mpr (.inr ⟨listed, same⟩))
    · exact .inr ⟨overruns_compound keeps unspaced joined compounds overruns, .inl ends⟩

end Compounds

section Following

theorem Pending.reads_next (pending : Pending item after rest) {next : Tape}
    (passed : rest.forward = .ok next) :
    ∃ tree last, Reads item (next.followedBy after) tree last := by
  obtain ⟨place, tree, last, delimiter, reads⟩ := pending
  have forward : (rest.followedBy after).forward = .ok place := by
    rcases delimiter with comma | ⟨joint, found⟩
    · exact comma.passed
    · exact found.passed
  cases (Tape.forward_followedBy_iff.mpr passed).symm.trans forward
  exact ⟨tree, last, reads⟩

theorem not_bare_of_delimiter {place : Tape}
    (delimiter : place.isToken "," = true ∨ ∃ joint : Conjunction, place.isWord joint.word = true) :
    ¬ Bare none place := by
  intro bare
  rcases delimiter with comma | ⟨joint, found⟩
  · exact Bool.false_ne_true (bare.noComma.symm.trans comma)
  · exact Bool.false_ne_true ((bare.noJoint joint (by cases joint <;> decide)).symm.trans found)

theorem Pending.not_bare (pending : Pending item after rest)
    (room : rest.position < rest.tokens.length) : ¬ Bare none rest := by
  obtain ⟨place, _, _, delimiter, _⟩ := pending
  apply not_bare_of_delimiter
  rcases delimiter with comma | ⟨joint, found⟩
  · exact .inl ((Tape.isToken_followedBy room ",").symm.trans comma.found)
  · exact .inr ⟨joint, (Tape.isWord_followedBy room joint.word).symm.trans found.found⟩

theorem not_bare_followedBy {joint : Conjunction} (found : rest.isWord joint.word = true) :
    ¬ Bare none (rest.followedBy after) := by
  have room := Tape.room_of_isWord found
  exact not_bare_of_delimiter (.inr ⟨joint, (Tape.isWord_followedBy room _).trans found⟩)

theorem not_continues_of_bare (bare : Bare none (rest.followedBy after)) :
    ¬ Continues item rest := by
  intro continues
  have room := continues.room
  rcases continues.delimited with ⟨_, comma⟩ | ⟨joint, _, found⟩
  · exact not_bare_of_delimiter (.inl ((Tape.isToken_followedBy room _).trans comma.found)) bare
  · exact not_bare_followedBy found.found bare

theorem Continues.next (continues : Continues item start) :
    ∃ next, start.forward = .ok next ∧
      ((∃ tree rest, Reads item next tree rest) ∨
        ∃ joint : Conjunction, next.isWord joint.word = true) := by
  cases continues with
  | mk commas closing once reads =>
      rcases commas.cases_head with rfl | ⟨next, _, _, _, comma, _, second, _⟩
      · cases closing with
        | plain found => exact ⟨_, found.passed, .inl ⟨_, _, reads⟩⟩
        | serial comma found => exact ⟨_, comma.passed, .inr ⟨_, found.found⟩⟩
      · exact ⟨next, comma.passed, .inl ⟨_, _, second⟩⟩

/-- Where one kind of item is pending that begins where no item of another kind does, no list of
that other kind goes on. -/
theorem Pending.stuck {word : Tape → Run Outcome} (pending : Pending word after rest)
    (keeps : ∀ tape, (item tape).Ends (Outcome.Kept tape))
    (wordBegins : ∀ place tree rest, Reads word place tree rest → Bare none place)
    (begins : ∀ place tree rest, Reads item place tree rest → Bare none place)
    (apart : ∀ place tree rest other last, Reads item place tree rest →
      ¬ Reads word (place.followedBy after) other last) : Stuck item rest := by
  constructor
  · apply misses_of_unread (keeps rest)
    intro tree last reads
    exact pending.not_bare (reads.room (keeps _)) (begins _ _ _ reads)
  · intro continues
    obtain ⟨next, passed, follows⟩ := continues.next
    obtain ⟨tree, last, further⟩ := pending.reads_next passed
    rcases follows with ⟨other, place, reads⟩ | ⟨joint, found⟩
    · exact apart next other place tree last reads further
    · exact not_bare_followedBy found (wordBegins _ _ _ further)

theorem Pending.stuck_unlisted (pending : Pending item after rest)
    (keeps : ∀ tape, (item tape).Ends (Outcome.Kept tape))
    (begins : ∀ place tree rest, Reads item place tree rest → Bare none place)
    (unspaced : style.spaceDelimiters = false) (single : Reads item home tree rest)
    (unlisted : ¬ ∃ tree rest, Listing style none item home tree rest) : Stuck item rest := by
  have opened := opened_of_reads unspaced single
  constructor
  · apply misses_of_unread (keeps rest)
    intro tree last reads
    exact pending.not_bare (reads.room (keeps _)) (begins _ _ _ reads)
  · intro continues
    cases continues with
    | @mk _ tape joint next _ _ commas closing once reads =>
        have usable : joint ∈ choices none := by cases joint <;> decide
        rcases commas.cases_head with rfl | ⟨place, _, _, _, comma, _, second, others⟩
        · cases closing with
          | plain found => exact unlisted ⟨_, _, .pair opened usable found once reads⟩
          | serial comma found =>
              -- The second item is read where a conjunction stands, which no item begins on.
              obtain ⟨_, _, further⟩ := pending.reads_next comma.passed
              exact not_bare_followedBy found.found (begins _ _ _ further)
        · exact unlisted ⟨_, _, .long (.mk opened comma second others) usable closing once reads⟩

end Following

section Steadiness

variable {list : Tape → Run Outcome} (keeps : ∀ tape, (item tape).Ends (Outcome.Kept tape))
  (unspaced : style.spaceDelimiters = false) (joined : style.commasOnly = false)
  (compounds : ReadsCompound style item list)
  (begins : ∀ place tree rest, Reads item place tree rest → Bare none place)

include keeps unspaced joined compounds begins

/-- A list of items that the cut does not change is cut short only before a pending item. -/
theorem compound_steady_of_exact
    (steady : ∀ later, home.Within later → Steady item after (fun _ => False) later) :
    Steady list after (Pending item after) home where
  down _ _ reads := compound_down keeps steady unspaced joined compounds begins
    (fun _ => False.elim) reads
  up tree rest reads := by
    rcases compound_up keeps steady unspaced joined compounds begins (fun _ => False.elim) reads
      with same | ⟨overruns, ends | ⟨pending, _⟩⟩
    · exact .inl same
    · exact ends.elim
    · exact .inr ⟨overruns, pending⟩

theorem compound_steady
    (steady : ∀ later, home.Within later → Steady item after (Stuck item) later) :
    Steady list after (Stuck item) home where
  down _ _ reads := compound_down keeps steady unspaced joined compounds begins
    (fun _ => Stuck.broken) reads
  up tree rest reads := by
    rcases compound_up keeps steady unspaced joined compounds begins (fun _ => Stuck.broken) reads
      with same | ⟨overruns, ends | ⟨pending, single, unlisted⟩⟩
    · exact .inl same
    · exact .inr ⟨overruns, ends⟩
    · exact .inr ⟨overruns, pending.stuck_unlisted keeps begins unspaced single unlisted⟩

end Steadiness

end Cutting

end Coordination

end Constituency
