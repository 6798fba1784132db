/-
  Data.Checks — a validator as the sequence of its checks.

  A check raises its own error or goes on. `raiseIf` is one check, `orRaise` a lookup that may
  fail, `forEach` a loop that checks item by item and `scan` one that compares every item with
  those before it. What a validator accepts is read off step by step, in the order it has:
  the lemmas `…_ok` say for each of them when it goes on, and `Raises` what it may raise.
-/

import Mathlib.Data.List.Forall2
import Mathlib.Data.List.Nodup

namespace Data.Checks

/-- Pairs of texts are compared as they are. -/
instance lawful_pair : LawfulBEq (String × String) := inferInstance

variable {ε α β κ : Type}

/-- `if c: raise e`. -/
def raiseIf (c : Prop) [Decidable c] (e : ε) : Except ε Unit := if c then .error e else .ok ()

/-- A lookup; a missing item raises. -/
def orRaise (e : ε) : Option α → Except ε α
  | some a => .ok a
  | none => .error e

/-- `for x in xs: check(x)`. -/
def forEach (check : α → Except ε Unit) : List α → Except ε Unit
  | [] => .ok ()
  | x :: xs =>
    match check x with
    | .error e => .error e
    | .ok () => forEach check xs

/-- `for x in xs`, where `check` sees the items before `x` also. -/
def scan (check : List α → α → Except ε Unit) (seen : List α) : List α → Except ε Unit
  | [] => .ok ()
  | x :: xs =>
    match check seen x with
    | .error e => .error e
    | .ok () => scan check (seen ++ [x]) xs

/-- `[f(x) for x in xs]`, where `f` may raise. -/
def gather (f : α → Except ε β) : List α → Except ε (List β)
  | [] => .ok []
  | x :: xs => do
    let y ← f x
    let ys ← gather f xs
    return y :: ys

variable {f : α → Except ε β} {x : Except ε α} {xs as : List α} {check : List α → α → Except ε Unit} {u : Unit} {ys bs : List β}
  {key : α → κ} {R : α → β → Prop} {b : β} {P : α → Prop} {e : ε}

@[simp] theorem ok_bind : (x >>= f) = .ok b ↔ ∃ a, x = .ok a ∧ f a = .ok b := by
  cases x with
  | error e => simp [bind, Except.bind]
  | ok a => simp [bind, Except.bind]

/-- What went on has a result. -/
theorem ok_of_isSome (h : x.toOption.isSome = true) : ∃ a, x = .ok a := by
  cases x with
  | error e => cases h
  | ok a => exact ⟨a, rfl⟩

theorem ok_of_map {f : α → β} (h : x.toOption.map f = some b) : ∃ a, x = .ok a ∧ f a = b := by
  cases x with
  | error e => cases h
  | ok a => exact ⟨a, rfl, Option.some.inj h⟩

/-- What was raised, whatever a result is mapped to. -/
theorem error_of_map {f : α → β} (h : x.map f = .error e) : x = .error e := by
  cases x with
  | error e' => exact congrArg _ (Except.error.inj h)
  | ok a => cases h

/-- A check, and what comes after it. -/
@[simp] theorem ok_seq {x : Except ε Unit} {f : Unit → Except ε β} : (x >>= f) = .ok b ↔ x = .ok () ∧ f () = .ok b := by
  rw [ok_bind]
  exact ⟨fun ⟨_, h⟩ => h, fun h => ⟨(), h⟩⟩

@[simp] theorem raiseIf_ok {c : Prop} [Decidable c] : raiseIf c e = .ok u ↔ ¬ c := by
  unfold raiseIf
  by_cases h : c
  · simp [h]
  · simp [h]

@[simp] theorem orRaise_ok {o : Option α} {a : α} : orRaise e o = .ok a ↔ o = some a := by
  cases o with
  | none => simp [orRaise]
  | some b => simp [orRaise]

@[simp] theorem forEach_ok {check : α → Except ε Unit} : forEach check xs = .ok u ↔ ∀ x ∈ xs, check x = .ok () := by
  induction xs with
  | nil => simp [forEach]
  | cons x xs ih =>
    unfold forEach
    cases h : check x with
    | error e => simp [h]
    | ok u => simp [h, ih]

theorem gather_ok : gather f xs = .ok ys ↔ List.Forall₂ (fun x y => f x = .ok y) xs ys := by
  induction xs generalizing ys with
  | nil => simp [gather, eq_comm]
  | cons x xs ih =>
    simp only [gather, ok_bind, ih, List.forall₂_cons_left_iff]
    constructor
    · rintro ⟨y, hy, ys', hys, h⟩
      exact ⟨y, ys', hy, hys, (Except.ok.inj h).symm⟩
    · rintro ⟨y, ys', hy, hys, rfl⟩
      exact ⟨y, hy, ys', hys, rfl⟩

/-- Where every item has a result, the results are gathered. -/
theorem gather_returns (h : ∀ x ∈ xs, ∃ y, f x = .ok y) :
    gather f xs = .ok (xs.flatMap fun x => (f x).toOption.toList) := by
  induction xs with
  | nil => rfl
  | cons x xs ih =>
    obtain ⟨y, hy⟩ := h x List.mem_cons_self
    rw [gather, hy, ih fun z hz => h z (List.mem_cons_of_mem _ hz), List.flatMap_cons, hy]
    rfl

/-- Items that correspond are gathered into results that correspond. -/
theorem gather_of_forall₂ {α' β' : Type} {g : α' → Except ε β'} {R : α → α' → Prop} {S : β → β' → Prop}
    (hstep : ∀ x x' y, R x x' → f x = .ok y → ∃ y', g x' = .ok y' ∧ S y y') {xs' : List α'}
    (h : List.Forall₂ R xs xs') (hys : gather f xs = .ok ys) :
    ∃ ys', gather g xs' = .ok ys' ∧ List.Forall₂ S ys ys' := by
  rw [gather_ok] at hys
  induction h generalizing ys with
  | nil =>
    obtain rfl := List.forall₂_nil_left_iff.mp hys
    exact ⟨[], rfl, .nil⟩
  | cons hx _ ih =>
    obtain ⟨y, rest, hy, hrest, rfl⟩ := List.forall₂_cons_left_iff.mp hys
    obtain ⟨y', hy', hs⟩ := hstep _ _ y hx hy
    obtain ⟨ys', hys', hall⟩ := ih hrest
    exact ⟨y' :: ys', gather_ok.mpr (.cons hy' (gather_ok.mp hys')), .cons hs hall⟩

/-- What the items of two related lists have in common. -/
theorem map_eq_of_forall₂ {f : α → κ} {g : β → κ} (hR : ∀ a b, R a b → f a = g b)
    (h : List.Forall₂ R as bs) : as.map f = bs.map g := by
  rw [← List.forall₂_eq_eq_eq, List.forall₂_map_left_iff, List.forall₂_map_right_iff]
  exact h.imp hR

theorem exists_of_forall₂ (h : List.Forall₂ R as bs) (hb : b ∈ bs) : ∃ a ∈ as, R a b := by
  induction h with
  | nil => cases hb
  | @cons x y xs ys hxy hrest ih =>
    rcases List.mem_cons.mp hb with rfl | hb
    · exact ⟨x, by simp, hxy⟩
    · obtain ⟨a, ha, hab⟩ := ih hb
      exact ⟨a, by simp [ha], hab⟩

theorem mem_gather {x : α} (h : gather f xs = .ok ys) (hx : x ∈ xs) : ∃ y ∈ ys, f x = .ok y := by
  have hall := gather_ok.mp h
  induction hall with
  | nil => cases hx
  | @cons a b as bs hab hrest ih =>
    rcases List.mem_cons.mp hx with rfl | hx
    · exact ⟨b, by simp, hab⟩
    · obtain ⟨y, hy, hxy⟩ := ih (gather_ok.mpr hrest) hx
      exact ⟨y, by simp [hy], hxy⟩

/-- A scan that asks `P` of every item and `R` between it and each item before it. -/
theorem scan_ok {R : α → α → Prop} (hc : ∀ seen x, check seen x = .ok () ↔ P x ∧ ∀ y ∈ seen, R y x) {seen xs : List α} :
    scan check seen xs = .ok u ↔ (∀ x ∈ xs, P x) ∧ xs.Pairwise R ∧ ∀ y ∈ seen, ∀ x ∈ xs, R y x := by
  induction xs generalizing seen with
  | nil => simp [scan]
  | cons x xs ih =>
    unfold scan
    rw [List.forall_mem_cons, List.pairwise_cons]
    simp only [List.forall_mem_cons]
    cases hx : check seen x with
    | error e =>
      have hno : ¬ (P x ∧ ∀ y ∈ seen, R y x) := by
        intro h
        rw [(hc seen x).mpr h] at hx
        cases hx
      refine ⟨nofun, fun h => absurd ⟨h.1.1, fun y hy => (h.2.2 y hy).1⟩ hno⟩
    | ok v =>
      have hyes := (hc seen x).mp hx
      dsimp only
      rw [ih]
      constructor
      · rintro ⟨hp, hr, hs⟩
        refine ⟨⟨hyes.1, hp⟩, ⟨hs x (by simp), hr⟩, fun y hy => ⟨hyes.2 y hy, hs y (by simp [hy])⟩⟩
      · rintro ⟨⟨-, hp⟩, ⟨hx, hr⟩, hs⟩
        refine ⟨hp, hr, fun y hy => ?_⟩
        rcases List.mem_append.mp hy with hy | hy
        · exact (hs y hy).2
        · rw [List.mem_singleton.mp hy]
          exact hx

/-- Items that a scan kept apart by a key have keys of their own. -/
theorem nodup_map (h : xs.Pairwise fun y x => key y ≠ key x) : (xs.map key).Nodup :=
  List.pairwise_map.mpr h

theorem pairwise_ne (h : (xs.map key).Nodup) : xs.Pairwise fun y x => key y ≠ key x :=
  List.pairwise_map.mp h

/-- A scan that asks `P` of every item and a key of its own. -/
theorem scan_keys_ok [DecidableEq κ] (hc : ∀ seen x, check seen x = .ok () ↔ P x ∧ key x ∉ seen.map key) :
    scan check [] xs = .ok u ↔ (∀ x ∈ xs, P x) ∧ (xs.map key).Nodup := by
  have hc' : ∀ seen x, check seen x = .ok () ↔ P x ∧ ∀ y ∈ seen, key y ≠ key x := by
    intro seen x
    rw [hc]
    simp
  rw [scan_ok hc']
  constructor
  · rintro ⟨hp, hr, -⟩
    exact ⟨hp, nodup_map hr⟩
  · rintro ⟨hp, hn⟩
    exact ⟨hp, pairwise_ne hn, by simp⟩

/-! ## What is raised -/

/-- Whatever `x` raises is in `P`. -/
def Raises (P : ε → Prop) (x : Except ε α) : Prop := ∀ e, x = .error e → P e

namespace Raises

variable {P : ε → Prop}

theorem ok {a : α} : Raises P (.ok a) := nofun

theorem error (h : P e) : Raises P (.error e : Except ε α) := by
  intro e' he
  obtain rfl := Except.error.inj he
  exact h

theorem bind (hx : Raises P x) (hf : ∀ a, x = .ok a → Raises P (f a)) : Raises P (x >>= f) := by
  cases x with
  | error e => exact error (hx e rfl)
  | ok a => exact hf a rfl

theorem raiseIf {c : Prop} [Decidable c] (h : c → P e) : Raises P (Checks.raiseIf c e) := by
  unfold Checks.raiseIf
  by_cases hc : c
  · rw [if_pos hc]
    exact error (h hc)
  · rw [if_neg hc]
    exact ok

theorem orRaise {o : Option α} (h : o = none → P e) : Raises P (Checks.orRaise e o) := by
  cases o with
  | none => exact error (h rfl)
  | some a => exact ok

theorem forEach {check : α → Except ε Unit} (h : ∀ x ∈ xs, Raises P (check x)) : Raises P (Checks.forEach check xs) := by
  induction xs with
  | nil => exact ok
  | cons x xs ih =>
    have hx := h x List.mem_cons_self
    unfold Checks.forEach
    cases hcheck : check x with
    | error e => exact error (hx e hcheck)
    | ok u => exact ih fun y hy => h y (List.mem_cons_of_mem _ hy)

theorem gather (h : ∀ x ∈ xs, Raises P (f x)) : Raises P (Checks.gather f xs) := by
  induction xs with
  | nil => exact ok
  | cons x xs ih =>
    exact bind (h x List.mem_cons_self) fun _ _ => bind (ih fun y hy => h y (List.mem_cons_of_mem _ hy)) fun _ _ => ok

end Raises

end Data.Checks
