import Constituency.Proofs.TokenRuns

namespace Constituency.Token

/-- Visible characters of one kind that make one token. -/
structure Solid (token : List Char) : Prop where
  present : token ≠ []
  uniform : ∃ of ≠ Kind.blank, ∀ c ∈ token, kind c = of
  alone : ofRun token = [token]

theorem solid_replicate {size : Nat} {c : Char} (present : size ≠ 0) (visible : kind c ≠ .blank)
    (alone : ofRun (List.replicate size c) = [List.replicate size c]) :
    Solid (List.replicate size c) where
  present := fun empty => present (List.replicate_eq_nil_iff c |>.mp empty)
  uniform := ⟨kind c, visible, fun _ member => congrArg kind (List.eq_of_mem_replicate member)⟩
  alone := alone

theorem solid_of_mem_grouped {size count : Nat} {c : Char} {token : List Char}
    (group : Solid (List.replicate size c)) (single : Solid [c])
    (member : token ∈ grouped size c count) : Solid token := by
  rcases List.mem_append.mp member with listed | listed
  · rw [List.eq_of_mem_replicate listed]
    exact group
  · rw [List.eq_of_mem_replicate listed]
    exact single

theorem solid_of_mem_ofRun {run token : List Char} {of : Kind} (present : run ≠ [])
    (same : ∀ c ∈ run, kind c = of) (member : token ∈ ofRun run) : Solid token := by
  obtain ⟨c, others, rfl⟩ := List.exists_cons_of_ne_nil present
  have first := same c List.mem_cons_self
  simp only [ofRun, first] at member
  cases of with
  | blank => cases member
  | dot =>
      have single : Solid (List.replicate 1 '.') := solid_replicate (by decide) (by decide) rfl
      exact solid_of_mem_grouped (solid_replicate (by decide) (by decide) rfl) single member
  | hyphen =>
      have single : Solid (List.replicate 1 '-') := solid_replicate (by decide) (by decide) rfl
      exact solid_of_mem_grouped (solid_replicate (by decide) (by decide) rfl) single member
  | star | plain =>
      rw [List.mem_singleton] at member
      subst member
      exact ⟨present, ⟨_, by decide, same⟩, by simp only [ofRun, first]⟩
  | mark =>
      obtain ⟨mark, listed, rfl⟩ := List.mem_map.mp member
      have here := same mark listed
      refine ⟨by simp, ⟨.mark, by decide, by simpa using here⟩, ?_⟩
      simp only [ofRun, here, List.map_cons, List.map_nil]

theorem solid_of_mem_scan {chars token : List Char} (member : token ∈ scan chars) :
    Solid token := by
  rw [scan_eq_runs] at member
  obtain ⟨run, listed, inRun⟩ := List.mem_flatMap.mp member
  obtain ⟨_, present, chains, _⟩ := List.splitBy_eq_iff.mp (rfl : runs chars = _)
  have some : run ≠ [] := fun empty => present (empty ▸ listed)
  obtain ⟨c, others, rfl⟩ := List.exists_cons_of_ne_nil some
  exact solid_of_mem_ofRun some (kind_of_chain (chains _ listed)) inRun

theorem scan_solid {token rest : List Char} (solid : Solid token)
    (apart : ∀ next, rest.head? = some next → kind next = .blank) :
    scan (token ++ rest) = token :: scan rest := by
  obtain ⟨of, visible, same⟩ := solid.uniform
  have ends : ∀ next, rest.head? = some next → kind next ≠ of := by
    intro next first
    rw [apart next first]
    exact visible.symm
  rw [scan_run solid.present same ends, solid.alone]
  rfl

theorem scan_intercalate {tokens : List (List Char)} (solid : ∀ token ∈ tokens, Solid token) :
    scan ([' '].intercalate tokens) = tokens := by
  have blank : kind ' ' = .blank := by decide
  induction tokens with
  | nil => rfl
  | cons token others ih =>
      have here := solid token List.mem_cons_self
      have later := ih fun other member => solid other (List.mem_cons_of_mem _ member)
      cases others with
      | nil =>
          have whole : scan (token ++ []) = token :: scan [] :=
            scan_solid here fun next first => by cases first
          simpa [List.intercalate, scan] using whole
      | cons next others =>
          calc
            scan ([' '].intercalate (token :: next :: others))
                = scan (token ++ ' ' :: [' '].intercalate (next :: others)) := by
              simp [List.intercalate]
            _ = token :: scan ([' '] ++ [' '].intercalate (next :: others)) :=
              scan_solid here fun first head => by
                cases head
                exact blank
            _ = token :: next :: others := by
              rw [scan_blanks (by simp [blank]), later]

theorem ofText_intercalate {text : String} {tokens : List String}
    (taken : ∀ token ∈ tokens, token ∈ ofText text) :
    ofText (" ".intercalate tokens) = tokens := by
  have solid : ∀ token ∈ tokens.map String.toList, Solid token := by
    intro token member
    obtain ⟨spelled, listed, rfl⟩ := List.mem_map.mp member
    obtain ⟨chars, scanned, rfl⟩ := List.mem_map.mp (taken spelled listed)
    rw [String.toList_ofList]
    exact solid_of_mem_scan scanned
  have spaces : " ".toList = [' '] := rfl
  rw [ofText, String.toList_intercalate, spaces, scan_intercalate solid, List.map_map]
  simp

end Constituency.Token
