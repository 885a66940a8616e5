import Mathlib.Data.List.TakeWhile
import Constituency.Proofs.TokenRuns

/-!
The tokens of a text, cut by cut. The text is searched from left to right for delimiters, and at each
place they are tried in a fixed order. What lies between two of them is a word, and a delimiter that
is not white space is kept as a token. The runs of a text give the same tokens.
-/

namespace Constituency.Token

/-- A delimiter of words: a fixed text, or a run of characters that is taken as far as it goes. -/
inductive Delimiter
  | text (first : Char) (others : List Char)
  | run (holds : Char → Bool)

def Delimiter.take? : Delimiter → List Char → Option (List Char × List Char)
  | .text first others, chars =>
    if (first :: others).isPrefixOf chars then
      some (first :: others, chars.drop (others.length + 1))
    else none
  | .run holds, chars =>
    match chars.takeWhile holds with
    | [] => none
    | c :: others => some (c :: others, chars.dropWhile holds)

def delimiters : List Delimiter :=
  [.run Text.isBlank, .text '"' [], .text '.' ['.', '.'], .text '-' ['-'], .text '-' [],
   .text ',' [], .text '.' [], .text '?' [], .text '!' [], .text ';' [], .text ':' [],
   .run (· == '*'), .text '(' [], .text ')' [], .text '[' [], .text ']' [], .text '\x7b' [],
   .text '\x7d' [], .text '<' [], .text '>' []]

def delimiterAt (chars : List Char) : Option (List Char × List Char) :=
  delimiters.findSome? fun delimiter => delimiter.take? chars

def piece (chars : List Char) : List (List Char) :=
  if chars.all Text.isBlank then [] else [chars]

theorem Delimiter.take_eq {delimiter : Delimiter} {chars mark rest : List Char}
    (taken : delimiter.take? chars = some (mark, rest)) : mark ≠ [] ∧ mark ++ rest = chars := by
  cases delimiter with
  | text first others =>
      simp only [take?] at taken
      split at taken
      next found =>
        obtain ⟨after, rfl⟩ := List.isPrefixOf_iff_prefix.mp found
        cases taken
        simp
      next => cases taken
  | run holds =>
      simp only [take?] at taken
      split at taken
      next => cases taken
      next c others found =>
        cases taken
        rw [← found, List.takeWhile_append_dropWhile]
        simp [found]

theorem delimiterAt_shorter {chars mark rest : List Char}
    (found : delimiterAt chars = some (mark, rest)) : rest.length < chars.length := by
  obtain ⟨delimiter, _, taken⟩ := List.exists_of_findSome?_eq_some found
  obtain ⟨present, rfl⟩ := Delimiter.take_eq taken
  have positive := List.length_pos_iff.mpr present
  rw [List.length_append]
  omega

/-- Cuts a text at the leftmost delimiters, one after the other. The characters since the last one
are the `gap`. -/
def cut (gap : List Char) : List Char → List (List Char)
  | [] => piece gap
  | c :: others =>
    match _found : delimiterAt (c :: others) with
    | none => cut (gap ++ [c]) others
    | some (mark, rest) => piece gap ++ piece mark ++ cut [] rest
termination_by chars => chars.length
decreasing_by
  · simp
  · exact delimiterAt_shorter _found

def Delimiter.begins : Delimiter → Char → Bool
  | .text first _, c => first == c
  | .run holds, c => holds c

theorem Delimiter.take_eq_none {delimiter : Delimiter} {c : Char}
    (differs : delimiter.begins c = false) (others : List Char) :
    delimiter.take? (c :: others) = none := by
  cases delimiter with
  | text first expected => simp_all [begins, take?, List.isPrefixOf]
  | run holds => simp_all [begins, take?]

theorem delimiterAt_plain {c : Char} (plain : kind c = .plain) (others : List Char) :
    delimiterAt (c :: others) = none := by
  have visible : Text.isBlank c = false := by
    rw [← Bool.not_eq_true, isBlank_iff, plain]
    simp
  have other : ∀ first, kind first ≠ .plain → (first == c) = false := by
    intro first kinds
    rw [beq_eq_false_iff_ne]
    rintro rfl
    exact kinds plain
  have star : (c == '*') = false := by
    rw [BEq.comm]
    exact other '*' (by decide)
  have differ : ∀ delimiter ∈ delimiters, delimiter.begins c = false := by
    simp (disch := decide) [delimiters, Delimiter.begins, visible, other, star]
  rw [delimiterAt, List.findSome?_eq_none_iff]
  intro delimiter listed
  exact Delimiter.take_eq_none (differ delimiter listed) others

theorem delimiterAt_blank {c : Char} (blank : Text.isBlank c = true) (others : List Char) :
    delimiterAt (c :: others) = some
      ((c :: others).takeWhile Text.isBlank, (c :: others).dropWhile Text.isBlank) := by
  have taken : (Delimiter.run Text.isBlank).take? (c :: others) = some
      ((c :: others).takeWhile Text.isBlank, (c :: others).dropWhile Text.isBlank) := by
    simp [Delimiter.take?, blank]
  simp only [delimiterAt, delimiters, List.findSome?_cons, taken]

theorem delimiterAt_single {c : Char} (single : c ∈ singles) (others : List Char) :
    delimiterAt (c :: others) = some ([c], others) := by
  simp only [singles, List.mem_cons, List.not_mem_nil, or_false] at single
  rcases single with rfl | rfl | rfl | rfl | rfl | rfl | rfl | rfl | rfl | rfl | rfl | rfl | rfl |
    rfl <;> rfl

/-- One dot is taken only where three are not. -/
theorem delimiterAt_dot {others : List Char} (short : ∀ rest, others ≠ '.' :: '.' :: rest) :
    delimiterAt ('.' :: others) = some (['.'], others) := by
  have fewer : ¬ ['.', '.'] <+: others := by
    rintro ⟨rest, same⟩
    exact short rest same.symm
  have visible : Text.isBlank '.' = false := by decide
  simp [delimiterAt, delimiters, Delimiter.take?, visible, fewer]

theorem delimiterAt_hyphen {others : List Char} (short : ∀ rest, others ≠ '-' :: rest) :
    delimiterAt ('-' :: others) = some (['-'], others) := by
  have fewer : ¬ ['-'] <+: others := by
    rintro ⟨rest, same⟩
    exact short rest same.symm
  have visible : Text.isBlank '-' = false := by decide
  simp [delimiterAt, delimiters, Delimiter.take?, visible, fewer]

theorem piece_visible {c : Char} (visible : kind c ≠ .blank) (others : List Char) :
    piece (c :: others) = [c :: others] := by
  have shown : ¬ Text.isBlank c = true := mt (isBlank_iff c).mp visible
  simp [piece, shown]

theorem scan_delimiter {c : Char} (kinds : kind c ≠ .plain) (others : List Char) :
    ∃ mark rest, delimiterAt (c :: others) = some (mark, rest) ∧
      scan (c :: others) = piece mark ++ scan rest := by
  cases of : kind c with
  | blank =>
      have blanks : ∀ other ∈ (c :: others).takeWhile Text.isBlank,
          Text.isBlank other = true := fun _ => List.mem_takeWhile_imp
      have nothing : piece ((c :: others).takeWhile Text.isBlank) = [] := by
        rw [piece, if_pos (List.all_eq_true.mpr blanks)]
      refine ⟨_, _, delimiterAt_blank ((isBlank_iff c).mpr of) others, ?_⟩
      calc
        scan (c :: others)
            = scan ((c :: others).takeWhile Text.isBlank
                ++ (c :: others).dropWhile Text.isBlank) := by
          rw [List.takeWhile_append_dropWhile]
        _ = scan ((c :: others).dropWhile Text.isBlank) :=
          scan_blanks (fun other member => (isBlank_iff other).mp (blanks other member)) _
        _ = piece ((c :: others).takeWhile Text.isBlank)
              ++ scan ((c :: others).dropWhile Text.isBlank) := by
          rw [nothing, List.nil_append]
  | dot =>
      obtain rfl := (eq_of_kind c).1 of
      by_cases three : ∃ rest, others = '.' :: '.' :: rest
      · obtain ⟨rest, rfl⟩ := three
        exact ⟨_, rest, rfl, rfl⟩
      · have short : ∀ rest, others ≠ '.' :: '.' :: rest := fun rest same => three ⟨rest, same⟩
        exact ⟨['.'], others, delimiterAt_dot short, scan_dot short⟩
  | hyphen =>
      obtain rfl := (eq_of_kind c).2.1 of
      by_cases two : ∃ rest, others = '-' :: rest
      · obtain ⟨rest, rfl⟩ := two
        exact ⟨_, rest, rfl, rfl⟩
      · have short : ∀ rest, others ≠ '-' :: rest := fun rest same => two ⟨rest, same⟩
        exact ⟨['-'], others, delimiterAt_hyphen short, scan_hyphen short⟩
  | star =>
      obtain rfl := (eq_of_kind c).2.2 of
      have whole : '*' :: others = ('*' :: others.takeWhile (· == '*'))
          ++ others.dropWhile (· == '*') := by
        rw [List.cons_append, List.takeWhile_append_dropWhile]
      have stars : ∀ other ∈ '*' :: others.takeWhile (· == '*'), kind other = .star := by
        intro other member
        rcases List.mem_cons.mp member with rfl | later
        · exact of
        · have holds := List.mem_takeWhile_imp later
          rw [eq_of_beq holds, of]
      have ends : ∀ next, (others.dropWhile (· == '*')).head? = some next →
          kind next ≠ .star := by
        intro next first star
        have stops := List.head?_dropWhile_not (· == '*') others
        simp [first, (eq_of_kind next).2.2 star] at stops
      refine ⟨'*' :: others.takeWhile (· == '*'), others.dropWhile (· == '*'), rfl, ?_⟩
      rw [piece_visible (by simp [of]), whole, scan_joined (.inl rfl) (by simp) stars ends]
      rfl
  | mark =>
      have single : c ∈ singles := by
        unfold kind at of
        grind
      refine ⟨[c], others, delimiterAt_single single others, ?_⟩
      rw [piece_visible (by simp [of])]
      have marks : ∀ other ∈ [c], kind other = .mark := by simpa using of
      exact scan_marks marks others
  | plain => exact absurd of kinds

theorem scan_gap {gap rest : List Char} (plain : ∀ c ∈ gap, kind c = .plain)
    (apart : ∀ next, rest.head? = some next → kind next ≠ .plain) :
    scan (gap ++ rest) = piece gap ++ scan rest := by
  cases gap with
  | nil => rfl
  | cons c others =>
      have visible : ¬ Text.isBlank c = true := by
        rw [isBlank_iff, plain c List.mem_cons_self]
        simp
      rw [scan_joined (.inr rfl) (by simp) plain apart]
      simp [piece, visible]

/-- While the gap holds characters of one word, cutting gives what scanning gives. -/
theorem cut_eq_scan (gap chars : List Char) (plain : ∀ c ∈ gap, kind c = .plain) :
    cut gap chars = scan (gap ++ chars) := by
  fun_induction cut gap chars with
  | case1 gap =>
      have apart : ∀ next, ([] : List Char).head? = some next → kind next ≠ .plain := by simp
      have scanned := scan_gap plain apart
      rw [scanned, scan, List.append_nil]
  | case2 gap c others found ih =>
      have here : kind c = .plain := by
        by_contra kinds
        obtain ⟨mark, rest, taken, _⟩ := scan_delimiter kinds others
        cases found.symm.trans taken
      rw [ih]
      · simp
      · intro other member
        rcases List.mem_append.mp member with before | last
        · exact plain other before
        · rw [List.mem_singleton.mp last, here]
  | case3 gap c others mark rest found ih =>
      have here : kind c ≠ .plain := by
        intro kinds
        cases (delimiterAt_plain kinds others).symm.trans found
      obtain ⟨mark', rest', taken, scanned⟩ := scan_delimiter here others
      cases found.symm.trans taken
      have apart : ∀ next, (c :: others).head? = some next → kind next ≠ .plain := by
        intro next first
        cases first
        exact here
      rw [ih (by simp), scan_gap plain apart, scanned, List.append_assoc]
      rfl

/-- The tokens of a text are the pieces that the leftmost delimiters cut it into, and they are the
tokens of its maximal runs. Joined they are the text without its white space; none is empty, and none
has white space in it. -/
theorem ofText_eq_runs (text : String) :
    ofText text = ((runs text.toList).flatMap ofRun).map String.ofList ∧
    ofText text = (cut [] text.toList).map String.ofList ∧
    String.join (ofText text) = String.ofList (text.toList.filter fun c => !Text.isBlank c) ∧
    ∀ token ∈ ofText text, token ≠ "" ∧ ∀ c ∈ token.toList, Text.isBlank c = false := by
  refine ⟨?_, ?_, ?_, ?_⟩
  · rw [ofText, scan_eq_runs]
  · rw [ofText, cut_eq_scan [] text.toList (by simp), List.nil_append]
  · rw [ofText, ← scan_flatten_eq, ← String.toList_inj, String.toList_join, List.flatMap_map,
      String.toList_ofList]
    simp only [String.toList_ofList, List.flatMap_id']
  · intro token member
    obtain ⟨chars, listed, rfl⟩ := List.mem_map.mp member
    constructor
    · rintro empty
      rw [String.ofList_eq_empty_iff] at empty
      exact nil_notMem_scan _ (empty ▸ listed)
    · intro c inside
      rw [String.toList_ofList] at inside
      have kept : c ∈ (scan text.toList).flatten := List.mem_flatten.mpr ⟨chars, listed, inside⟩
      rw [scan_flatten_eq, List.mem_filter] at kept
      simpa using kept.2

theorem ofText_eq_runs_marks :
    let text := "Well.... -- **no**[a]"
    "--" ∈ ofText text ∧
    ((runs text.toList).flatMap ofRun).map String.ofList =
      ["Well", "...", ".", "--", "**", "no", "**", "[", "a", "]"] ∧
    "--" ≠ "" ∧ ∀ c ∈ "--".toList, Text.isBlank c = false := by
  intro text
  obtain ⟨byRuns, _, _, visible⟩ := ofText_eq_runs text
  have tokens : ofText text = ["Well", "...", ".", "--", "**", "no", "**", "[", "a", "]"] := by
    decide
  have listed : "--" ∈ ofText text := by simp [tokens]
  exact ⟨listed, byRuns ▸ tokens, visible "--" listed⟩

end Constituency.Token
