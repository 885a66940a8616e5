import Constituency.Proofs.RejoinedTokens

namespace Constituency.Token

theorem extend_append (c : Char) {tokens : List (List Char)} (some : tokens ≠ [])
    (more : List (List Char)) : extend c (tokens ++ more) = extend c tokens ++ more := by
  obtain ⟨token, others, rfl⟩ := List.exists_cons_of_ne_nil some
  rfl

section Blanks

variable {c first : Char} {others rest : List Char} (blank : kind c = .blank)

include blank

theorem starts_append_blank {marks : List Char} (shown : ∀ mark ∈ marks, kind mark ≠ .blank)
    (starts : ∃ later, others ++ c :: rest = marks ++ later) :
    ∃ later, others = marks ++ later := by
  induction marks generalizing others with
  | nil => exact ⟨others, rfl⟩
  | cons mark marks ih =>
      obtain ⟨later, same⟩ := starts
      cases others with
      | nil =>
          obtain ⟨rfl, _⟩ := List.cons.inj same
          exact absurd blank (shown c List.mem_cons_self)
      | cons other others =>
          obtain ⟨rfl, tails⟩ := List.cons.inj same
          obtain ⟨later, rfl⟩ := ih (fun mark member => shown mark (List.mem_cons_of_mem _ member))
            ⟨later, tails⟩
          exact ⟨later, rfl⟩

theorem scan_cons_append_blank (shown : Text.isBlank first = false)
    (noDots : ∀ later, first = '.' → others = '.' :: '.' :: later → False)
    (noHyphens : ∀ later, first = '-' → others = '-' :: later → False) :
    scan (first :: (others ++ c :: rest)) =
      if others.head?.any (joins first) then extend first (scan (others ++ c :: rest))
      else [first] :: scan (others ++ c :: rest) := by
  have apart : joins first c = false := by
    rw [← Bool.not_eq_true, joins_iff, blank, ← isBlank_iff, shown]
    simp
  have heads : (others ++ c :: rest).head?.any (joins first) = others.head?.any (joins first) := by
    cases others with
    | nil => simpa using apart
    | cons other others => rfl
  rw [scan, shown, heads]
  · rfl
  · intro later dot same
    have dots : ∃ later, others ++ c :: rest = ['.', '.'] ++ later := ⟨later, same⟩
    have visible : kind '.' ≠ .blank := by decide
    obtain ⟨later, same⟩ := starts_append_blank blank (by simpa using visible) dots
    exact noDots later dot same
  · intro later hyphen same
    have hyphens : ∃ later, others ++ c :: rest = ['-'] ++ later := ⟨later, same⟩
    have visible : kind '-' ≠ .blank := by decide
    obtain ⟨later, same⟩ := starts_append_blank blank (by simpa using visible) hyphens
    exact noHyphens later hyphen same

/-- A blank is the end of every token before it. -/
theorem scan_append_blank (chars : List Char) :
    scan (chars ++ c :: rest) = scan chars ++ scan rest := by
  have passed : ∀ other, kind other = .blank → ∀ later, scan (other :: later) = scan later := by
    intro other white later
    have gap : ∀ c ∈ [other], kind c = .blank := by simpa using white
    exact scan_blanks gap later
  -- By the cases of the scanner: only in the last two does the next character matter.
  fun_induction scan chars with
  | case1 => exact passed c blank rest
  | case2 others ih => simp [scan, ih]
  | case3 others ih => simp [scan, ih]
  | case4 first others noDots noHyphens isBlank ih =>
      rw [List.cons_append, passed first ((isBlank_iff first).mp isBlank), ih]
  | case5 first others noDots noHyphens shown joined ih =>
      obtain ⟨next, starts, joined'⟩ := (Option.any_eq_true _ _).mp joined
      have visible : Text.isBlank next = false := by
        have same := ((joins_iff first next).mp joined').1
        rwa [← Bool.not_eq_true, isBlank_iff, ← same, ← isBlank_iff]
      have some : scan others ≠ [] := by
        intro nothing
        have white := (scan_eq_nil_iff others).mp nothing next (List.mem_of_mem_head? starts)
        simp [visible] at white
      rw [List.cons_append, scan_cons_append_blank blank (Bool.eq_false_iff.mpr shown) noDots
        noHyphens, if_pos joined, ih, extend_append first some]
  | case6 first others noDots noHyphens shown alone ih =>
      rw [List.cons_append, scan_cons_append_blank blank (Bool.eq_false_iff.mpr shown) noDots
        noHyphens, if_neg alone, ih, List.cons_append]

end Blanks

theorem scan_append_blanks {blanks : List Char} (present : blanks ≠ [])
    (blank : ∀ c ∈ blanks, kind c = .blank) (chars rest : List Char) :
    scan (chars ++ blanks ++ rest) = scan chars ++ scan rest := by
  obtain ⟨c, others, rfl⟩ := List.exists_cons_of_ne_nil present
  have first := blank c List.mem_cons_self
  have later := fun other member => blank other (List.mem_cons_of_mem c member)
  calc
    scan (chars ++ c :: others ++ rest) = scan (chars ++ c :: (others ++ rest)) := by simp
    _ = scan chars ++ scan (others ++ rest) := scan_append_blank first chars
    _ = scan chars ++ scan rest := by rw [scan_blanks later]

/-- The tokens of two texts with white space between them are those of the one and then those of the
other. The tokens of a text with single spaces between them are a text of the same tokens. -/
theorem ofText_spaced (first last : String) :
    (∀ blanks : String, blanks ≠ "" → Text.allBlank blanks = true →
      ofText (first ++ blanks ++ last) = ofText first ++ ofText last) ∧
    ofText (" ".intercalate (ofText first)) = ofText first := by
  constructor
  · intro blanks present white
    have some : blanks.toList ≠ [] := by simpa using present
    have blank : ∀ c ∈ blanks.toList, kind c = .blank := by
      simpa [Text.allBlank, isBlank_iff] using white
    simp only [ofText, String.toList_append, scan_append_blanks some blank, List.map_append]
  · exact ofText_intercalate fun _ member => member

theorem ofText_spaced_dots :
    "\u3000 " ≠ "" ∧ Text.allBlank "\u3000 " = true ∧
      ofText ("well-..*" ++ "\u3000 " ++ "*. then--") =
        ["well", "-", ".", ".", "*", "*", ".", "then", "--"] ∧
      ofText "well - . . *" = ["well", "-", ".", ".", "*"] := by
  have first : ofText "well-..*" = ["well", "-", ".", ".", "*"] := by decide
  have last : ofText "*. then--" = ["*", ".", "then", "--"] := by decide
  have white : Text.allBlank "\u3000 " = true := by decide
  obtain ⟨apart, again⟩ := ofText_spaced "well-..*" "*. then--"
  refine ⟨by decide, white, ?_, ?_⟩
  · rw [apart _ (by decide) white, first, last]
    rfl
  · rw [first] at again
    exact again

end Constituency.Token
