/-
  Data.Regex — searching a text for a regular expression, as `re.search` does.

  A match takes a piece off a text and leaves the rest. Every way to match is tried, and `$` looks at
  what is left.
  - `rests_split`: a match takes letters that the expression uses.
  - `rests_change`: what comes after a match does not matter, unless that is the end of the text.
  - `search_cut`, `search_between`: so a letter that is not used cuts a text in two, and what is found
    before it is found in every text with the same piece.
-/

import Mathlib.Data.List.Infix

namespace Data

inductive Regex where
  | empty
  | letter (accepts : Char → Bool)
  | many (accepts : Char → Bool)
  | seq (r s : Regex)
  | alt (r s : Regex)
  /-- `$` -/
  | atEnd

namespace Regex

/-- The end of the text, or a line break at its end. -/
def Ended (cs : List Char) : Prop := cs = [] ∨ cs = ['\n']

instance decidableEnded (cs : List Char) : Decidable (Ended cs) := inferInstanceAs (Decidable (_ ∨ _))

def restsMany (accepts : Char → Bool) : List Char → List (List Char)
  | [] => [[]]
  | c :: cs => (c :: cs) :: if accepts c then restsMany accepts cs else []

/-- What the matches at the front of a text leave. -/
def rests : Regex → List Char → List (List Char)
  | empty, cs => [cs]
  | letter _, [] => []
  | letter accepts, c :: cs => if accepts c then [cs] else []
  | many accepts, cs => restsMany accepts cs
  | seq r s, cs => (r.rests cs).flatMap s.rests
  | alt r s, cs => r.rests cs ++ s.rests cs
  | atEnd, cs => if Ended cs then [cs] else []

/-- `pattern.search(text)` finds something. -/
def search (r : Regex) (cs : List Char) : Bool := cs.tails.any fun t => r.rests t ≠ []

/-- `(?:…){n,}` of a letter. -/
def atLeast (accepts : Char → Bool) : Nat → Regex
  | 0 => many accepts
  | n + 1 => seq (letter accepts) (atLeast accepts n)

def seqs (rs : List Regex) : Regex := rs.foldr seq empty

/-- A letter that a match may take. -/
def uses : Regex → Char → Bool
  | letter accepts, c | many accepts, c => accepts c
  | seq r s, c | alt r s, c => r.uses c || s.uses c
  | _, _ => false

/-- Every match takes something. -/
def consumes : Regex → Bool
  | letter _ => true
  | seq r s => r.consumes || s.consumes
  | alt r s => r.consumes && s.consumes
  | _ => false

variable {r : Regex} {cs w rest : List Char} {z : Char} {accepts : Char → Bool}

/-! ## A match -/

theorem restsMany_split (h : rest ∈ restsMany accepts cs) : ∃ w, cs = w ++ rest ∧ ∀ c ∈ w, accepts c = true := by
  induction cs with
  | nil =>
    obtain rfl := List.mem_singleton.mp h
    exact ⟨[], rfl, by simp⟩
  | cons c cs ih =>
    rcases List.mem_cons.mp h with rfl | h
    · exact ⟨[], rfl, by simp⟩
    · by_cases hc : accepts c = true
      · rw [if_pos hc] at h
        obtain ⟨w, rfl, hw⟩ := ih h
        exact ⟨c :: w, rfl, List.forall_mem_cons.mpr ⟨hc, hw⟩⟩
      · rw [if_neg hc] at h
        cases h

theorem rests_split (h : rest ∈ r.rests cs) :
    ∃ w, cs = w ++ rest ∧ (∀ c ∈ w, r.uses c = true) ∧ (r.consumes = true → w ≠ []) := by
  induction r generalizing cs rest with
  | empty =>
    obtain rfl := List.mem_singleton.mp h
    exact ⟨[], rfl, by simp, by simp [consumes]⟩
  | letter accepts =>
    cases cs with
    | nil => cases h
    | cons c cs =>
      by_cases hc : accepts c = true
      · rw [rests, if_pos hc, List.mem_singleton] at h
        obtain rfl := h
        exact ⟨[c], rfl, by simpa [uses] using hc, by simp⟩
      · rw [rests, if_neg hc] at h
        cases h
  | many accepts =>
    obtain ⟨w, rfl, hw⟩ := restsMany_split h
    exact ⟨w, rfl, hw, by simp [consumes]⟩
  | seq r s ihr ihs =>
    obtain ⟨mid, hmid, hrest⟩ := List.mem_flatMap.mp h
    obtain ⟨w, rfl, hw, hwne⟩ := ihr hmid
    obtain ⟨w', rfl, hw', hwne'⟩ := ihs hrest
    refine ⟨w ++ w', (List.append_assoc ..).symm, fun c hc => ?_, fun hconsumes => ?_⟩
    · rw [uses, Bool.or_eq_true]
      exact (List.mem_append.mp hc).imp (hw c) (hw' c)
    · rw [consumes, Bool.or_eq_true] at hconsumes
      rcases hconsumes with hr | hs
      · exact List.append_ne_nil_of_left_ne_nil (hwne hr) _
      · exact List.append_ne_nil_of_right_ne_nil _ (hwne' hs)
  | alt r s ihr ihs =>
    simp only [uses, consumes, Bool.or_eq_true, Bool.and_eq_true]
    rcases List.mem_append.mp h with h | h
    · obtain ⟨w, rfl, hw, hwne⟩ := ihr h
      exact ⟨w, rfl, fun c hc => .inl (hw c hc), fun hconsumes => hwne hconsumes.1⟩
    · obtain ⟨w, rfl, hw, hwne⟩ := ihs h
      exact ⟨w, rfl, fun c hc => .inr (hw c hc), fun hconsumes => hwne hconsumes.2⟩
  | atEnd =>
    rw [rests] at h
    split_ifs at h with hended
    · obtain rfl := List.mem_singleton.mp h
      exact ⟨[], rfl, by simp, by simp [consumes]⟩
    · cases h

theorem not_ended_append (h : ¬ Ended rest) : ¬ Ended (w ++ rest) := by
  intro hended
  rcases hended with hnil | hline
  · exact h (.inl (List.append_eq_nil_iff.mp hnil).2)
  · rcases List.append_eq_singleton_iff.mp hline with ⟨-, hrest⟩ | ⟨-, hrest⟩
    · exact h (.inr hrest)
    · exact h (.inl hrest)

theorem restsMany_change (hw : ∀ c ∈ w, accepts c = true) (rest : List Char) : rest ∈ restsMany accepts (w ++ rest) := by
  induction w with
  | nil => cases rest <;> simp [restsMany]
  | cons c w ih =>
    obtain ⟨hc, hw⟩ := List.forall_mem_cons.mp hw
    rw [List.cons_append, restsMany, if_pos hc]
    exact List.mem_cons_of_mem _ (ih hw)

/-- A match that does not end the text is one whatever follows. -/
theorem rests_change (h : rest ∈ r.rests (w ++ rest)) (hrest : ¬ Ended rest) (rest' : List Char) : rest' ∈ r.rests (w ++ rest') := by
  induction r generalizing w rest rest' with
  | empty =>
    obtain rfl : w = [] := List.self_eq_append_left.mp (List.mem_singleton.mp h)
    exact List.mem_singleton_self _
  | letter accepts =>
    cases w with
    | nil =>
      obtain ⟨w, hw, -, hne⟩ := rests_split h
      exact absurd (List.self_eq_append_left.mp hw) (hne rfl)
    | cons c w =>
      by_cases hc : accepts c = true
      · rw [List.cons_append, rests, if_pos hc, List.mem_singleton] at h ⊢
        obtain rfl := List.self_eq_append_left.mp h
        rfl
      · rw [List.cons_append, rests, if_neg hc] at h
        cases h
  | many accepts =>
    obtain ⟨w', hw', hall⟩ := restsMany_split h
    obtain rfl := List.append_cancel_right hw'
    exact restsMany_change hall rest'
  | seq r s ihr ihs =>
    obtain ⟨mid, hmid, hs⟩ := List.mem_flatMap.mp h
    obtain ⟨w₂, rfl, -⟩ := rests_split hs
    obtain ⟨w₁, hw, -⟩ := rests_split hmid
    rw [← List.append_assoc] at hw
    obtain rfl := List.append_cancel_right hw
    rw [List.append_assoc] at hmid ⊢
    exact List.mem_flatMap.mpr ⟨w₂ ++ rest', ihr hmid (not_ended_append hrest) _, ihs hs hrest _⟩
  | alt r s ihr ihs => exact List.mem_append.mpr ((List.mem_append.mp h).imp (fun h => ihr h hrest _) fun h => ihs h hrest _)
  | atEnd =>
    rw [rests, if_neg (not_ended_append hrest)] at h
    cases h

/-! ## A search -/

theorem search_iff : r.search cs = true ↔ ∃ x w rest, cs = x ++ (w ++ rest) ∧ rest ∈ r.rests (w ++ rest) := by
  simp only [search, List.any_eq_true, List.mem_tails, decide_eq_true_eq]
  constructor
  · intro h
    obtain ⟨t, ⟨x, rfl⟩, hne⟩ := h
    obtain ⟨rest, hrest⟩ := List.exists_mem_of_ne_nil _ hne
    obtain ⟨w, rfl, -⟩ := rests_split hrest
    exact ⟨x, w, rest, rfl, hrest⟩
  · intro h
    obtain ⟨x, w, rest, rfl, hrest⟩ := h
    exact ⟨w ++ rest, ⟨x, rfl⟩, List.ne_nil_of_mem hrest⟩

/-- Nothing is found where no letter is used. -/
theorem not_search (hcs : ∀ c ∈ cs, r.uses c = false) (hr : r.consumes = true) : r.search cs = false := by
  rw [Bool.eq_false_iff, Ne, search_iff]
  intro h
  obtain ⟨x, w, rest, rfl, hrest⟩ := h
  obtain ⟨w', hw', huses, hne⟩ := rests_split hrest
  obtain rfl := List.append_cancel_right hw'
  obtain ⟨c, hc⟩ := List.exists_mem_of_ne_nil _ (hne hr)
  exact absurd (huses c hc) (by simp [hcs c (by simp [hc])])

/-- A piece without a letter lies on one side of it. -/
theorem append_cut {x a b : List Char} (h : x ++ (w ++ rest) = a ++ z :: b) (hz : z ∉ w) (hw : w ≠ []) :
    (∃ y, a = x ++ (w ++ y) ∧ rest = y ++ z :: b) ∨ ∃ y, b = y ++ (w ++ rest) := by
  rcases List.append_eq_append_iff.mp h with ⟨y, rfl, hy⟩ | ⟨y, -, hy⟩
  · rcases List.append_eq_append_iff.mp hy with ⟨y', rfl, hrest⟩ | ⟨y', rfl, hrest⟩
    · exact .inl ⟨y', rfl, hrest⟩
    · cases y' with
      | nil => exact .inl ⟨[], by simp, hrest.symm⟩
      | cons c y' => exact absurd (by simp [(List.cons.inj hrest).1]) hz
  · cases y with
    | nil =>
      cases w with
      | nil => exact absurd rfl hw
      | cons c w => exact absurd (by simp [(List.cons.inj hy).1]) hz
    | cons c y => exact .inr ⟨y, (List.cons.inj hy).2⟩

section
variable {a b : List Char} (hz : r.uses z = false) (hline : z ≠ '\n') (hr : r.consumes = true)
include hz hline hr

/-- A match lies on one side of a letter that is not used. -/
theorem match_cut (h : r.search (a ++ z :: b) = true) :
    (∃ x w y, a = x ++ (w ++ y) ∧ ∀ rest', rest' ∈ r.rests (w ++ rest')) ∨ r.search b = true := by
  obtain ⟨x, w, rest, hcs, hrest⟩ := search_iff.mp h
  obtain ⟨w', hw', huses, hne⟩ := rests_split hrest
  obtain rfl := List.append_cancel_right hw'
  have hnot : z ∉ w := by
    intro hin
    rw [huses z hin] at hz
    cases hz
  rcases append_cut hcs.symm hnot (hne hr) with ⟨y, hy, rfl⟩ | ⟨y, rfl⟩
  · have hopen : ¬ Ended (z :: b) := by
      rintro (hnil | hend)
      · cases hnil
      · exact hline (List.cons.inj hend).1
    exact .inl ⟨x, w, y, hy, fun rest' => rests_change hrest (not_ended_append hopen) rest'⟩
  · exact .inr (search_iff.mpr ⟨y, w, rest, rfl, hrest⟩)

/-- What is found before such a letter is found wherever the piece is. -/
theorem search_between (h : r.search (a ++ [z]) = true) (pre post : List Char) : r.search (pre ++ (a ++ post)) = true := by
  rcases match_cut hz hline hr h with ⟨x, w, y, rfl, hrest⟩ | hnil
  · exact search_iff.mpr ⟨pre ++ x, w, y ++ post, by simp, hrest _⟩
  · rw [not_search (by simp) hr] at hnil
    cases hnil

/-- What is found in a text is found before such a letter or after it. -/
theorem search_cut (h : r.search (a ++ z :: b) = true) : r.search (a ++ [z]) = true ∨ r.search b = true := by
  rcases match_cut hz hline hr h with ⟨x, w, y, rfl, hrest⟩ | hb
  · exact .inl (search_iff.mpr ⟨x, w, y ++ [z], by simp, hrest _⟩)
  · exact .inr hb

end

end Regex

end Data
