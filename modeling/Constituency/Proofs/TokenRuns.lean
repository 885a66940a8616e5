import Mathlib.Data.List.SplitBy
import Constituency.Token

/-!
The tokens of a text, run by run. A text falls into maximal runs of characters of one kind, and each
run gives its tokens without regard to its neighbours. The tokens hold all of the text but its white
space.
-/

namespace Constituency.Token

/-- Kinds of characters, by the tokens that a run of them gives. -/
inductive Kind
  | blank
  | dot
  | hyphen
  | star
  | mark
  | plain
  deriving DecidableEq, Repr

def singles : List Char :=
  ['"', ',', '?', '!', ';', ':', '(', ')', '[', ']', '\x7b', '\x7d', '<', '>']

def kind (c : Char) : Kind :=
  if Text.isBlank c then .blank
  else if c = '.' then .dot
  else if c = '-' then .hyphen
  else if c = '*' then .star
  else if c ∈ singles then .mark
  else .plain

def runs (chars : List Char) : List (List Char) :=
  chars.splitBy fun c next => kind c == kind next

/-- So many copies of a character in groups of one size, and what is left over one by one. -/
def grouped (size : Nat) (c : Char) (count : Nat) : List (List Char) :=
  List.replicate (count / size) (List.replicate size c) ++ List.replicate (count % size) [c]

def ofRun : List Char → List (List Char)
  | [] => []
  | c :: others =>
    match kind c with
    | .blank => []
    | .dot => grouped 3 '.' (others.length + 1)
    | .hyphen => grouped 2 '-' (others.length + 1)
    | .star => [c :: others]
    | .mark => (c :: others).map fun mark => [mark]
    | .plain => [c :: others]

theorem isBlank_iff (c : Char) : Text.isBlank c = true ↔ kind c = .blank := by
  unfold kind
  grind

theorem eq_of_kind (c : Char) :
    (kind c = .dot → c = '.') ∧ (kind c = .hyphen → c = '-') ∧ (kind c = .star → c = '*') := by
  unfold kind
  grind

theorem isWordChar_iff (c : Char) : isWordChar c = true ↔ kind c = .plain := by
  unfold kind isWordChar isMark marks singles
  grind

theorem joins_iff (c next : Char) :
    joins c next = true ↔ kind c = kind next ∧ (kind c = .star ∨ kind c = .plain) := by
  have star : kind '*' = .star := by decide
  have stars := (eq_of_kind c).2.2
  have nexts := (eq_of_kind next).2.2
  have plain := isWordChar_iff c
  have plainNext := isWordChar_iff next
  unfold joins
  grind

theorem not_joins {c : Char} (noStar : kind c ≠ .star) (noPlain : kind c ≠ .plain) (next : Char) :
    joins c next = false := by
  rw [← Bool.not_eq_true, joins_iff]
  simp [noStar, noPlain]

theorem not_any_joins {c : Char} {rest : List Char}
    (apart : ∀ next, rest.head? = some next → joins c next = false) :
    ¬ rest.head?.any (joins c) = true := by
  cases rest with
  | nil => simp
  | cons next others => simpa using apart next rfl

theorem scan_cons {c : Char} (rest : List Char) (noDot : kind c ≠ .dot)
    (noHyphen : kind c ≠ .hyphen) :
    scan (c :: rest) =
      if Text.isBlank c then scan rest
      else if rest.head?.any (joins c) then extend c (scan rest)
      else [c] :: scan rest := by
  rw [scan]
  · rintro others rfl
    exact absurd (by decide) noDot
  · rintro others rfl
    exact absurd (by decide) noHyphen

theorem scan_blanks {run : List Char} (blank : ∀ c ∈ run, kind c = .blank) (rest : List Char) :
    scan (run ++ rest) = scan rest := by
  induction run with
  | nil => rfl
  | cons c others ih =>
      have here := blank c List.mem_cons_self
      have isBlank := (isBlank_iff c).mpr here
      have later := ih fun other member => blank other (List.mem_cons_of_mem _ member)
      rw [List.cons_append, scan_cons _ (by simp [here]) (by simp [here]), if_pos isBlank, later]

theorem scan_alone {c : Char} {rest : List Char} (noDot : kind c ≠ .dot)
    (noHyphen : kind c ≠ .hyphen) (noBlank : kind c ≠ .blank)
    (apart : ∀ next, rest.head? = some next → joins c next = false) :
    scan (c :: rest) = [c] :: scan rest := by
  have visible : ¬ Text.isBlank c = true := mt (isBlank_iff c).mp noBlank
  rw [scan_cons rest noDot noHyphen, if_neg visible, if_neg (not_any_joins apart)]

theorem scan_marks {run : List Char} (marks : ∀ c ∈ run, kind c = .mark) (rest : List Char) :
    scan (run ++ rest) = (run.map fun mark => [mark]) ++ scan rest := by
  induction run with
  | nil => rfl
  | cons c others ih =>
      have here := marks c List.mem_cons_self
      have later := ih fun other member => marks other (List.mem_cons_of_mem _ member)
      have alone : scan (c :: (others ++ rest)) = [c] :: scan (others ++ rest) :=
        scan_alone (by simp [here]) (by simp [here]) (by simp [here]) fun next _ =>
          not_joins (by simp [here]) (by simp [here]) next
      rw [List.cons_append, alone, later, List.map_cons, List.cons_append]

theorem scan_joined {of : Kind} (one : of = .star ∨ of = .plain) {run : List Char}
    (present : run ≠ []) (same : ∀ c ∈ run, kind c = of) {rest : List Char}
    (apart : ∀ next, rest.head? = some next → kind next ≠ of) :
    scan (run ++ rest) = run :: scan rest := by
  induction run with
  | nil => exact absurd rfl present
  | cons c others ih =>
      have here := same c List.mem_cons_self
      have noDot : kind c ≠ .dot := by rcases one with rfl | rfl <;> simp [here]
      have noHyphen : kind c ≠ .hyphen := by rcases one with rfl | rfl <;> simp [here]
      have noBlank : kind c ≠ .blank := by rcases one with rfl | rfl <;> simp [here]
      cases others with
      | nil =>
          refine scan_alone noDot noHyphen noBlank ?_
          intro next first
          rw [← Bool.not_eq_true, joins_iff, here]
          exact fun both => apart next first both.1.symm
      | cons next others =>
          have follows := same next (by simp)
          have joined : joins c next = true := (joins_iff c next).mpr (by simp [here, follows, one])
          have later := ih (by simp) fun other member => same other (List.mem_cons_of_mem _ member)
          have visible : ¬ Text.isBlank c = true := mt (isBlank_iff c).mp noBlank
          rw [List.cons_append, scan_cons _ noDot noHyphen, if_neg visible, later,
            if_pos (by simpa using joined)]
          rfl

theorem grouped_add {size : Nat} (positive : 0 < size) (c : Char) (count : Nat) :
    grouped size c (count + size) = List.replicate size c :: grouped size c count := by
  rw [grouped, Nat.add_div_right count positive, Nat.add_mod_right, List.replicate_succ]
  rfl

/-- Groups of `size` copies of `c` are taken from the front, as long as there are enough. -/
theorem scan_grouped {size : Nat} {c : Char} (positive : 0 < size)
    (whole : ∀ rest, scan (List.replicate size c ++ rest) = List.replicate size c :: scan rest)
    {rest : List Char}
    (few : ∀ count, count < size →
      scan (List.replicate count c ++ rest) = List.replicate count [c] ++ scan rest)
    (count : Nat) : scan (List.replicate count c ++ rest) = grouped size c count ++ scan rest := by
  induction count using Nat.strongRecOn with
  | ind count ih =>
      by_cases short : count < size
      · rw [few count short, grouped, Nat.div_eq_of_lt short, Nat.mod_eq_of_lt short]
        rfl
      · obtain ⟨less, rfl⟩ : ∃ less, count = less + size := ⟨count - size, by omega⟩
        calc
          scan (List.replicate (less + size) c ++ rest)
              = scan (List.replicate size c ++ (List.replicate less c ++ rest)) := by
            rw [Nat.add_comm, List.replicate_add, List.append_assoc]
          _ = List.replicate size c :: (grouped size c less ++ scan rest) := by
            rw [whole, ih less (by omega)]
          _ = grouped size c (less + size) ++ scan rest := by
            rw [grouped_add positive, List.cons_append]

theorem scan_dot {rest : List Char} (short : ∀ others, rest ≠ '.' :: '.' :: others) :
    scan ('.' :: rest) = ['.'] :: scan rest := by
  have visible : ¬ Text.isBlank '.' = true := by decide
  have unjoined := not_any_joins fun next (_ : rest.head? = some next) =>
    not_joins (by decide : kind '.' ≠ .star) (by decide) next
  rw [scan, if_neg visible, if_neg unjoined]
  · intro others _
    exact short others
  · simp

theorem scan_hyphen {rest : List Char} (short : ∀ others, rest ≠ '-' :: others) :
    scan ('-' :: rest) = ['-'] :: scan rest := by
  have visible : ¬ Text.isBlank '-' = true := by decide
  have unjoined := not_any_joins fun next (_ : rest.head? = some next) =>
    not_joins (by decide : kind '-' ≠ .star) (by decide) next
  rw [scan, if_neg visible, if_neg unjoined]
  · simp
  · intro others _
    exact short others

theorem scan_dots (count : Nat) {rest : List Char} (apart : rest.head? ≠ some '.') :
    scan (List.replicate count '.' ++ rest) = grouped 3 '.' count ++ scan rest := by
  have last : scan ('.' :: rest) = ['.'] :: scan rest := by
    apply scan_dot
    rintro others rfl
    exact apart rfl
  have pair : scan ('.' :: '.' :: rest) = ['.'] :: ['.'] :: scan rest := by
    rw [scan_dot, last]
    rintro others same
    exact apart (by rw [(List.cons.inj same).2]; rfl)
  apply scan_grouped (by decide) (fun _ => rfl)
  intro count short
  match count with
  | 0 => rfl
  | 1 => exact last
  | 2 => exact pair

theorem scan_hyphens (count : Nat) {rest : List Char} (apart : rest.head? ≠ some '-') :
    scan (List.replicate count '-' ++ rest) = grouped 2 '-' count ++ scan rest := by
  have last : scan ('-' :: rest) = ['-'] :: scan rest := by
    apply scan_hyphen
    rintro others rfl
    exact apart rfl
  apply scan_grouped (by decide) (fun _ => rfl)
  intro count short
  match count with
  | 0 => rfl
  | 1 => exact last

theorem scan_run {run rest : List Char} {of : Kind} (present : run ≠ [])
    (same : ∀ c ∈ run, kind c = of)
    (apart : ∀ next, rest.head? = some next → kind next ≠ of) :
    scan (run ++ rest) = ofRun run ++ scan rest := by
  obtain ⟨c, others, rfl⟩ := List.exists_cons_of_ne_nil present
  have first := same c List.mem_cons_self
  have copies : ∀ copy, (∀ other ∈ c :: others, other = copy) →
      c :: others = List.replicate (others.length + 1) copy := by
    intro copy all
    exact List.eq_replicate_iff.mpr ⟨rfl, all⟩
  simp only [ofRun, first]
  cases of with
  | blank => exact scan_blanks same rest
  | dot =>
      rw [copies '.' fun other member => (eq_of_kind other).1 (same other member)]
      exact scan_dots _ fun head => apart '.' head (by decide)
  | hyphen =>
      rw [copies '-' fun other member => (eq_of_kind other).2.1 (same other member)]
      exact scan_hyphens _ fun head => apart '-' head (by decide)
  | star => exact scan_joined (.inl rfl) present same apart
  | mark => exact scan_marks same rest
  | plain => exact scan_joined (.inr rfl) present same apart

theorem kind_of_chain {c : Char} {others : List Char}
    (chain : (c :: others).IsChain fun c next => (kind c == kind next) = true) :
    ∀ other ∈ c :: others, kind other = kind c := by
  induction others generalizing c with
  | nil => simp
  | cons next others ih =>
      rw [List.isChain_cons_cons] at chain
      have step : kind c = kind next := eq_of_beq chain.1
      intro other member
      rcases List.mem_cons.mp member with rfl | later
      · rfl
      · rw [ih chain.2 other later, step]

theorem scan_flatten {runs : List (List Char)} (present : [] ∉ runs)
    (chains : ∀ run ∈ runs, run.IsChain fun c next => (kind c == kind next) = true)
    (apart : runs.IsChain fun run later => ∃ here there,
      (kind (run.getLast here) == kind (later.head there)) = false) :
    scan runs.flatten = runs.flatMap ofRun := by
  induction runs with
  | nil => rfl
  | cons run others ih =>
      rw [List.mem_cons, not_or] at present
      obtain ⟨c, chars, rfl⟩ := List.exists_cons_of_ne_nil (Ne.symm present.1)
      rw [List.isChain_cons] at apart
      have same := kind_of_chain (chains _ List.mem_cons_self)
      have ends : ∀ next, others.flatten.head? = some next → kind next ≠ kind c := by
        intro next first
        cases others with
        | nil => cases first
        | cons later others =>
            obtain ⟨here, there, differ⟩ := apart.1 later rfl
            have head : later.head there = next := by
              rw [List.flatten_cons, List.head?_append_of_ne_nil _ there,
                List.head?_eq_some_head there] at first
              exact Option.some.inj first
            have last := same _ (List.getLast_mem here)
            rw [last, head] at differ
            exact fun equal => by simp [equal] at differ
      have later := ih present.2 (fun run member => chains run (List.mem_cons_of_mem _ member))
        apart.2
      rw [List.flatten_cons, List.flatMap_cons, scan_run (by simp) same ends, later]

theorem scan_eq_runs (chars : List Char) : scan chars = (runs chars).flatMap ofRun := by
  obtain ⟨whole, present, chains, apart⟩ := List.splitBy_eq_iff.mp (rfl : runs chars = _)
  rw [← scan_flatten present chains apart, ← whole]

theorem extend_flatten (c : Char) (tokens : List (List Char)) :
    (extend c tokens).flatten = c :: tokens.flatten := by
  cases tokens <;> rfl

theorem scan_flatten_eq (chars : List Char) :
    (scan chars).flatten = chars.filter fun c => !Text.isBlank c := by
  have dot : Text.isBlank '.' = false := by decide
  have hyphen : Text.isBlank '-' = false := by decide
  fun_induction scan chars with
  | case1 => rfl
  | case2 rest ih => simp [dot, ih]
  | case3 rest ih => simp [hyphen, ih]
  | case4 c rest noDots noHyphens blank ih => simp [blank, ih]
  | case5 c rest noDots noHyphens visible joined ih => simp [visible, extend_flatten, ih]
  | case6 c rest noDots noHyphens visible alone ih => simp [visible, ih]

theorem nil_notMem_scan (chars : List Char) : [] ∉ scan chars := by
  have extended : ∀ c tokens, [] ∉ tokens → [] ∉ extend c tokens := by
    intro c tokens absent
    cases tokens <;> simp_all [extend]
  fun_induction scan chars with
  | case1 => simp
  | case2 rest ih => simp [ih]
  | case3 rest ih => simp [ih]
  | case4 c rest noDots noHyphens blank ih => exact ih
  | case5 c rest noDots noHyphens visible joined ih => exact extended c _ ih
  | case6 c rest noDots noHyphens visible alone ih => simp [ih]

theorem scan_eq_nil_iff (chars : List Char) :
    scan chars = [] ↔ ∀ c ∈ chars, Text.isBlank c = true := by
  have shown := scan_flatten_eq chars
  constructor
  · intro nothing
    rw [nothing, List.flatten_nil, eq_comm, List.filter_eq_nil_iff] at shown
    simpa using shown
  · intro blank
    have hidden : (scan chars).flatten = [] := by
      rw [shown, List.filter_eq_nil_iff]
      simpa using blank
    rw [List.eq_nil_iff_forall_not_mem]
    intro token member
    have empty : token = [] := List.flatten_eq_nil_iff.mp hidden token member
    exact nil_notMem_scan chars (empty ▸ member)

theorem ofText_eq_nil_iff (text : String) :
    ofText text = [] ↔ ∀ c ∈ text.toList, Text.isBlank c = true := by
  rw [ofText, List.map_eq_nil_iff, scan_eq_nil_iff]

theorem ofText_ne_nil_iff (text : String) :
    ofText text ≠ [] ↔ ∃ c ∈ text.toList, Text.isBlank c = false := by
  simp [ofText_eq_nil_iff]

theorem grouped_map {change : Char → Char} (size : Nat) {c : Char} (fixed : change c = c)
    (count : Nat) : (grouped size c count).map (List.map change) = grouped size c count := by
  simp [grouped, fixed]

section Respelled

variable {change : Char → Char} (kinds : ∀ c, kind (change c) = kind c)

include kinds

theorem runs_map (chars : List Char) :
    runs (chars.map change) = (runs chars).map (List.map change) := by
  obtain ⟨whole, present, chains, apart⟩ := List.splitBy_eq_iff.mp (rfl : runs chars = _)
  refine List.splitBy_eq_iff.mpr ⟨?_, ?_, ?_, ?_⟩
  · rw [← List.map_flatten, ← whole]
  · simpa using present
  · intro run member
    obtain ⟨origin, listed, rfl⟩ := List.mem_map.mp member
    rw [List.isChain_map]
    simpa only [kinds] using chains origin listed
  · rw [List.isChain_map]
    refine apart.imp ?_
    rintro run later ⟨here, there, differ⟩
    refine ⟨by simpa using here, by simpa using there, ?_⟩
    rwa [List.getLast_map, List.head_map, kinds, kinds]

theorem ofRun_map (run : List Char) :
    ofRun (run.map change) = (ofRun run).map (List.map change) := by
  -- Dots and hyphens are the only characters of their kinds, so the change leaves them alone.
  have dot : change '.' = '.' := (eq_of_kind _).1 (by rw [kinds]; decide)
  have hyphen : change '-' = '-' := (eq_of_kind _).2.1 (by rw [kinds]; decide)
  cases run with
  | nil => rfl
  | cons c others =>
      simp only [List.map_cons, ofRun, kinds]
      cases kind c with
      | blank => rfl
      | dot => rw [grouped_map 3 dot, List.length_map]
      | hyphen => rw [grouped_map 2 hyphen, List.length_map]
      | star | plain => rfl
      | mark => simp

/-- A change of characters that keeps their kinds moves no border between tokens. -/
theorem scan_map (chars : List Char) :
    scan (chars.map change) = (scan chars).map (List.map change) := by
  rw [scan_eq_runs, scan_eq_runs, runs_map kinds, List.flatMap_map, List.map_flatMap]
  simp only [ofRun_map kinds]

end Respelled

end Constituency.Token
