/-
  Data.QuotedOrder — the order of texts, and the order of their JSON texts.

  Two texts compare by the first marks in which they differ: a character, or the end of one of them,
  which comes before every character. Their JSON texts compare by what is written for these marks. The
  closing quotation mark is not below every character, and an escape is not where its character is.
  - `lt_iff_of_firstDifference`: texts compare as the marks in which they first differ.
  - `quotedText_lt_iff`: their JSON texts compare as what is written for these marks.
  - `written_of_plain`: the two agree on characters above the quotation mark, other than the backslash.
-/

import Aegis.Data.JsonText

namespace Data.QuotedOrder

open Json

/-- What comes first that differs; `none` is an end. -/
def firstDifference : List Char → List Char → Option (Option Char × Option Char)
  | [], [] => none
  | [], d :: _ => some (none, some d)
  | c :: _, [] => some (some c, none)
  | c :: cs, d :: ds => if c = d then firstDifference cs ds else some (some c, some d)

/-- What is written for a mark. -/
def written : Option Char → List Char
  | none => ['"']
  | some c => (escapeControl c).toList

theorem firstDifference_cons (c : Char) (cs ds : List Char) : firstDifference (c :: cs) (c :: ds) = firstDifference cs ds := if_pos rfl

theorem firstDifference_self (cs : List Char) : firstDifference cs cs = none := by
  induction cs with
  | nil => rfl
  | cons c cs ih => rw [firstDifference_cons, ih]

variable {cs ds : List Char} {x y : Option Char}

theorem exists_firstDifference (h : cs ≠ ds) : ∃ x y, firstDifference cs ds = some (x, y) := by
  induction cs generalizing ds with
  | nil =>
    cases ds with
    | nil => exact absurd rfl h
    | cons d ds => exact ⟨_, _, rfl⟩
  | cons c cs ih =>
    cases ds with
    | nil => exact ⟨_, _, rfl⟩
    | cons d ds =>
      by_cases hc : c = d
      · subst hc
        rw [firstDifference_cons]
        exact ih fun he => h (congrArg _ he)
      · exact ⟨_, _, if_neg hc⟩

/-! ## Words of which none begins with another -/

section
variable {α : Type} [LinearOrder α]

/-- Neither word begins with the other, so they decide how what begins with them compares. -/
theorem append_lt_append_iff {v w : List α} (hv : ¬ v <+: w) (hw : ¬ w <+: v) (s t : List α) : v ++ s < w ++ t ↔ v < w := by
  induction v generalizing w with
  | nil => exact absurd List.nil_prefix hv
  | cons a v ih =>
    cases w with
    | nil => exact absurd List.nil_prefix hw
    | cons b w =>
      rw [List.cons_append, List.cons_append, List.cons_lt_cons_iff, List.cons_lt_cons_iff]
      by_cases hab : a = b
      · subst hab
        have hv' : ¬ v <+: w := fun h => hv (List.cons_prefix_cons.mpr ⟨rfl, h⟩)
        have hw' : ¬ w <+: v := fun h => hw (List.cons_prefix_cons.mpr ⟨rfl, h⟩)
        rw [ih hv' hw']
      · simp [hab]

theorem append_left_lt_iff (w s t : List α) : w ++ s < w ++ t ↔ s < t := by
  induction w with
  | nil => rfl
  | cons a w ih => simp [ih]

end

/-- No escape begins with a quotation mark. -/
theorem escapeControl_ne_quote (c : Char) (s t : List Char) : (escapeControl c).toList ++ s ≠ '"' :: t := by
  intro h
  have hread := readChars_cons 0 c s
  rw [h] at hread
  cases hread

/-- No escape begins with another. -/
theorem eq_of_escapeControl {c d : Char} (h : (escapeControl c).toList <+: (escapeControl d).toList) : c = d := by
  obtain ⟨s, hs⟩ := h
  have hc := readChars_cons 1 c (s ++ ['"'])
  have hd := readChars_cons 1 d ['"']
  rw [← List.append_assoc, hs, hd] at hc
  have hend : readChars 1 ['"'] = some ([], []) := rfl
  rw [hend, Option.map_some] at hc
  cases hr : readChars 1 (s ++ ['"']) with
  | none =>
    rw [hr] at hc
    cases hc
  | some r =>
    rw [hr, Option.map_some, Option.some.injEq, Prod.mk.injEq, List.cons.injEq] at hc
    exact hc.1.1.symm

theorem eq_of_written (h : written x <+: written y) : x = y := by
  cases x with
  | none =>
    cases y with
    | none => rfl
    | some d =>
      obtain ⟨s, hs⟩ := h
      have hd := escapeControl_ne_quote d [] s
      rw [List.append_nil] at hd
      exact absurd hs.symm hd
  | some c =>
    cases y with
    | none =>
      obtain ⟨s, hs⟩ := h
      exact absurd hs (escapeControl_ne_quote c s [])
    | some d => exact congrArg some (eq_of_escapeControl h)

theorem written_append_lt_iff (h : x ≠ y) (s t : List Char) : written x ++ s < written y ++ t ↔ written x < written y :=
  append_lt_append_iff (fun hp => h (eq_of_written hp)) (fun hp => h (eq_of_written hp).symm) s t

/-! ## The two orders -/

/-- Texts compare as the marks in which they first differ. -/
theorem lt_iff_of_firstDifference (h : firstDifference cs ds = some (x, y)) : cs < ds ↔ x.toList < y.toList := by
  induction cs generalizing ds with
  | nil =>
    cases ds with
    | nil => cases h
    | cons d ds =>
      obtain ⟨rfl, rfl⟩ := Prod.mk.inj (Option.some.inj h)
      simp
  | cons c cs ih =>
    cases ds with
    | nil =>
      obtain ⟨rfl, rfl⟩ := Prod.mk.inj (Option.some.inj h)
      simp
    | cons d ds =>
      by_cases hc : c = d
      · subst hc
        rw [firstDifference_cons] at h
        rw [List.cons_lt_cons_iff, ← ih h]
        simp
      · rw [firstDifference, if_neg hc] at h
        obtain ⟨rfl, rfl⟩ := Prod.mk.inj (Option.some.inj h)
        simp [List.cons_lt_cons_iff, hc]

theorem escapedText_cons (c : Char) (cs s : List Char) : escapedText (c :: cs) ++ '"' :: s = written (some c) ++ (escapedText cs ++ '"' :: s) := by
  simp only [escapedText, written, List.flatMap_cons, List.append_assoc]

theorem escapedText_lt_iff (h : firstDifference cs ds = some (x, y)) (s t : List Char) :
    escapedText cs ++ '"' :: s < escapedText ds ++ '"' :: t ↔ written x < written y := by
  induction cs generalizing ds with
  | nil =>
    cases ds with
    | nil => cases h
    | cons d ds =>
      obtain ⟨rfl, rfl⟩ := Prod.mk.inj (Option.some.inj h)
      rw [escapedText_cons]
      exact written_append_lt_iff (Option.some_ne_none d).symm s _
  | cons c cs ih =>
    cases ds with
    | nil =>
      obtain ⟨rfl, rfl⟩ := Prod.mk.inj (Option.some.inj h)
      rw [escapedText_cons]
      exact written_append_lt_iff (Option.some_ne_none c) _ t
    | cons d ds =>
      rw [escapedText_cons, escapedText_cons]
      by_cases hc : c = d
      · subst hc
        rw [firstDifference_cons] at h
        exact (append_left_lt_iff _ _ _).trans (ih h)
      · rw [firstDifference, if_neg hc] at h
        obtain ⟨rfl, rfl⟩ := Prod.mk.inj (Option.some.inj h)
        exact written_append_lt_iff (fun he => hc (Option.some.inj he)) _ _

/-- JSON texts compare as what is written for the marks in which the texts first differ. -/
theorem quotedText_lt_iff {a b : String} (h : firstDifference a.toList b.toList = some (x, y)) (s t : List Char) :
    (quotedText a).toList ++ s < (quotedText b).toList ++ t ↔ written x < written y := by
  rw [quotedText_toList, quotedText_toList]
  simp only [List.cons_append, List.append_assoc, List.nil_append, List.cons_lt_cons_iff]
  rw [← escapedText_lt_iff h s t]
  simp

/-! ## Texts that compare as their JSON texts -/

/-- The marks in which two texts first differ compare as they are written. -/
def InOrder (a b : String) : Prop :=
  match firstDifference a.toList b.toList with
  | none => True
  | some (x, y) => x.toList < y.toList ↔ written x < written y

theorem inOrder_self (a : String) : InOrder a a := by
  unfold InOrder
  rw [firstDifference_self]
  trivial

theorem inOrder_iff {a b : String} (h : a ≠ b) (s t : List Char) :
    InOrder a b ↔ (a < b ↔ (quotedText a).toList ++ s < (quotedText b).toList ++ t) := by
  obtain ⟨x, y, hd⟩ := exists_firstDifference fun he => h (String.toList_inj.mp he)
  rw [InOrder, hd, quotedText_lt_iff hd, String.lt_iff_toList_lt, lt_iff_of_firstDifference hd]

/-- A character above the quotation mark that is not escaped. -/
def plain (c : Char) : Bool := '"' < c && c ≠ '\\'

theorem written_of_plain {c : Char} (h : plain c = true) : written (some c) = [c] := by
  have hplain : '"' < c ∧ c ≠ '\\' := by simpa [plain] using h
  have hhigh : 0x22 < c.toNat := hplain.1
  have hslash : c.toNat ≠ 0x5c := fun he => hplain.2 (Char.toNat_inj.mp he)
  have hself : escapeControl c = c.toString := by
    unfold escapeControl
    dsimp only
    rw [if_neg (by omega), if_neg hslash, if_neg (by omega), if_neg (by omega), if_neg (by omega), if_neg (by omega), if_neg (by omega),
      if_neg (by omega)]
  rw [written, hself]
  simp [Char.toString]

theorem plain_of_firstDifference (hc : cs.all plain = true) (hd : ds.all plain = true)
    (h : firstDifference cs ds = some (x, y)) : (∀ c, x = some c → plain c = true) ∧ (∀ d, y = some d → plain d = true) ∧ (x = none → y ≠ none) := by
  induction cs generalizing ds with
  | nil =>
    cases ds with
    | nil => cases h
    | cons d ds =>
      obtain ⟨rfl, rfl⟩ := Prod.mk.inj (Option.some.inj h)
      simp_all
  | cons c cs ih =>
    cases ds with
    | nil =>
      obtain ⟨rfl, rfl⟩ := Prod.mk.inj (Option.some.inj h)
      simp_all
    | cons d ds =>
      rw [List.all_cons, Bool.and_eq_true] at hc hd
      by_cases he : c = d
      · subst he
        rw [firstDifference_cons] at h
        exact ih hc.2 hd.2 h
      · rw [firstDifference, if_neg he] at h
        obtain ⟨rfl, rfl⟩ := Prod.mk.inj (Option.some.inj h)
        simp_all

theorem inOrder_of_plain {a b : String} (ha : a.toList.all plain = true) (hb : b.toList.all plain = true) : InOrder a b := by
  unfold InOrder
  cases hd : firstDifference a.toList b.toList with
  | none => trivial
  | some marks =>
    obtain ⟨x, y⟩ := marks
    obtain ⟨hx, hy, hends⟩ := plain_of_firstDifference ha hb hd
    have hquote : ∀ c, plain c = true → '"' < c := by
      intro c hc
      simp only [plain, Bool.and_eq_true, decide_eq_true_eq] at hc
      exact hc.1
    cases x with
    | none =>
      cases y with
      | none => exact absurd rfl (hends rfl)
      | some d =>
        dsimp only
        rw [written_of_plain (hy d rfl)]
        simp [written, List.cons_lt_cons_iff, hquote d (hy d rfl)]
    | some c =>
      dsimp only
      rw [written_of_plain (hx c rfl)]
      cases y with
      | none => simp [written, List.cons_lt_cons_iff, (hquote c (hx c rfl)).le]
      | some d =>
        rw [written_of_plain (hy d rfl)]
        rfl

end Data.QuotedOrder
