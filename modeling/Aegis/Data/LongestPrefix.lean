/-
  Data.LongestPrefix — the longest prefix of a list that fits, by halving.

  `search` keeps the bounds of the lengths it has not decided yet and the last prefix that fitted.
  - `longestPrefix_fits` / `longestPrefix_longest`: no prefix that fits is longer.
  - `search_eq`: where every shorter prefix of one that fits does too, the search finds it.
-/

import Mathlib.Data.Nat.Find

namespace Data

variable {α : Type}

/-- `while low <= high`, with the prefixes of `xs` as candidates. -/
def search (fits : List α → Prop) [DecidablePred fits] (xs : List α) : Nat → Int → Int → List α → List α
  | 0, _, _, best => best
  | fuel + 1, low, high, best =>
    if low ≤ high then
      let midpoint := (low + high) / 2
      let candidate := xs.take midpoint.toNat
      if fits candidate then search fits xs fuel (midpoint + 1) high candidate
      else search fits xs fuel low (midpoint - 1) best
    else best

/-- The longest prefix that fits, and nothing where none does. -/
def longestPrefix (fits : List α → Prop) [DecidablePred fits] (xs : List α) : List α :=
  xs.take (Nat.findGreatest (fun k => fits (xs.take k)) xs.length)

/-- Whatever fits, its prefixes fit. -/
def Shortens (fits : List α → Prop) : Prop := ∀ xs ys, fits (xs ++ ys) → fits xs

variable {fits : List α → Prop} [DecidablePred fits] {xs : List α}

theorem longestPrefix_fits (h : longestPrefix fits xs ≠ []) : fits (longestPrefix fits xs) := by
  have hne : Nat.findGreatest (fun k => fits (xs.take k)) xs.length ≠ 0 := by
    intro h0
    apply h
    rw [longestPrefix, h0, List.take_zero]
  exact Nat.findGreatest_of_ne_zero (P := fun k => fits (xs.take k)) rfl hne

theorem longestPrefix_prefix : longestPrefix fits xs <+: xs := List.take_prefix _ _

theorem longestPrefix_longest {ys : List α} (hp : ys <+: xs) (hy : fits ys) : ys.length ≤ (longestPrefix fits xs).length := by
  have htake : xs.take ys.length = ys := (List.prefix_iff_eq_take.mp hp).symm
  have hle : ys.length ≤ Nat.findGreatest (fun k => fits (xs.take k)) xs.length := by
    refine Nat.le_findGreatest hp.length_le ?_
    rw [htake]
    exact hy
  rw [longestPrefix, List.length_take]
  exact Nat.le_min.mpr ⟨hle, hp.length_le⟩

theorem longestPrefix_of_fits (h : fits xs) : longestPrefix fits xs = xs :=
  longestPrefix_prefix.eq_of_length_le (longestPrefix_longest (List.prefix_refl xs) h)

omit [DecidablePred fits] in
theorem Shortens.take (hf : Shortens fits) {j k : Nat} (h : fits (xs.take k)) (hjk : j ≤ k) : fits (xs.take j) := by
  have hsplit : xs.take k = xs.take j ++ (xs.take k).drop j := by
    conv_lhs => rw [← List.take_append_drop j (xs.take k)]
    rw [List.take_take, Nat.min_eq_left hjk]
  rw [hsplit] at h
  exact hf _ _ h

/-- Everything below a length fits and nothing from it on: it is the length of the longest. -/
theorem longestPrefix_at {low : Nat} (hlow : low ≤ xs.length + 1) (hbelow : ∀ k < low, fits (xs.take k))
    (habove : ∀ k, low ≤ k → k ≤ xs.length → ¬ fits (xs.take k)) : longestPrefix fits xs = xs.take (low - 1) := by
  rw [longestPrefix]
  congr 1
  rw [Nat.findGreatest_eq_iff]
  refine ⟨by omega, ?_, ?_⟩
  · intro h0
    exact hbelow _ (by omega)
  · intro k hk hlen
    exact habove k (by omega) hlen

/-- Below `low` everything fits, from `top` on nothing does, and the last one that did is the best. -/
theorem search_between (hf : Shortens fits) {fuel low top : Nat} (hlow : low ≤ top) (htop : top ≤ xs.length + 1)
    (hfuel : top - low ≤ fuel) (hbelow : ∀ k < low, fits (xs.take k)) (habove : ∀ k, top ≤ k → k ≤ xs.length → ¬ fits (xs.take k)) :
    search fits xs fuel low (top - 1) (xs.take (low - 1)) = longestPrefix fits xs := by
  induction fuel generalizing low top with
  | zero =>
    obtain rfl : low = top := by omega
    exact (longestPrefix_at htop hbelow habove).symm
  | succ fuel ih =>
    unfold search
    by_cases hgo : low = top
    · subst hgo
      rw [if_neg (by omega)]
      exact (longestPrefix_at htop hbelow habove).symm
    · obtain ⟨m, hm⟩ : ∃ m : Nat, ((low : Int) + (top - 1)) / 2 = m := ⟨(low + top - 1) / 2, by omega⟩
      have hmid : low ≤ m ∧ m < top := by omega
      rw [if_pos (by omega)]
      simp only [hm, Int.toNat_natCast]
      by_cases hfit : fits (xs.take m)
      · rw [if_pos hfit]
        have hnext : ∀ k < m + 1, fits (xs.take k) := fun k hk => hf.take hfit (by omega)
        have hfuel' : top - (m + 1) ≤ fuel := by omega
        exact ih hmid.2 htop hfuel' hnext habove
      · rw [if_neg hfit]
        have hnext : ∀ k, m ≤ k → k ≤ xs.length → ¬ fits (xs.take k) := fun k hk _ h => hfit (hf.take h hk)
        have htop' : m ≤ xs.length + 1 := by omega
        exact ih hmid.1 htop' (by omega) hbelow hnext

/-- The search over all of the lengths finds the longest prefix. -/
theorem search_eq (hf : Shortens fits) : search fits xs (xs.length + 1) 0 xs.length [] = longestPrefix fits xs := by
  have hfuel : xs.length + 1 - 0 ≤ xs.length + 1 := Nat.sub_le _ _
  have habove : ∀ k, xs.length + 1 ≤ k → k ≤ xs.length → ¬ fits (xs.take k) := by
    intro k hk hlen
    omega
  have h := search_between hf (Nat.zero_le _) (Nat.le_refl _) hfuel (fun k hk => absurd hk (Nat.not_lt_zero k)) habove
  have htop : ((xs.length + 1 : Nat) : Int) - 1 = xs.length := by omega
  rw [htop] at h
  exact h

end Data
