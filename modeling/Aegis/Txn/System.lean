/-
  Txn.System — any number of clients of one store, interleaved transaction by transaction.

  A call may begin when `start` allows it; a client's next transaction may commit when `ok`
  allows it; a call that has made its last transaction returns; any client may crash
  between two transactions, and nothing it did is undone. A client is known by its index:
  finished and crashed ones keep theirs.

  `solo` systems are the sequential ones: a call begins only when no other is running.
  `exec` runs a schedule and `exec_reach` says that what it reaches is reachable.
-/

import Aegis.Txn.Prog
import Mathlib.Data.List.Basic
import Mathlib.Logic.Relation

namespace Txn

inductive Client (κ ℓ σ ε α : Type) where
  | running (call : κ) (prog : Prog ℓ σ ε α)
  | returned (call : κ) (res : Except ε α)
  | crashed (call : κ)

structure Conf (κ ℓ σ ε α : Type) where
  st : σ
  clients : List (Client κ ℓ σ ε α)

structure System (κ ℓ σ ε α : Type) where
  init : σ → Prop
  body : Nat → κ → Prog ℓ σ ε α
  start : κ → Conf κ ℓ σ ε α → Prop
  ok : ℓ → σ → Prop

variable {κ ℓ σ ε α : Type}

def Client.isRunning : Client κ ℓ σ ε α → Bool
  | running _ _ => true
  | _ => false

/-- No call is in progress. -/
def Conf.quiet (c : Conf κ ℓ σ ε α) : Prop := c.clients.all (!·.isRunning) = true

instance (c : Conf κ ℓ σ ε α) : Decidable c.quiet := inferInstanceAs (Decidable (_ = true))

theorem Conf.quiet_iff {c : Conf κ ℓ σ ε α} : c.quiet ↔ ∀ (i : Nat) k p, c.clients[i]? ≠ some (Client.running k p) := by
  unfold quiet
  rw [List.all_eq_true]
  constructor
  · intro h i k p hi
    have := h _ (List.mem_of_getElem? hi)
    simp [Client.isRunning] at this
  · intro h x hx
    obtain ⟨i, hi⟩ := List.getElem?_of_mem hx
    cases x with
    | running k p => exact absurd hi (h i k p)
    | returned k r => rfl
    | crashed k => rfl

namespace System

variable (S : System κ ℓ σ ε α)

inductive Step : Conf κ ℓ σ ε α → Conf κ ℓ σ ε α → Prop
  | call (c : Conf κ ℓ σ ε α) (k : κ) : S.start k c →
      Step c { c with clients := c.clients ++ [.running k (S.body c.clients.length k)] }
  | txn (c : Conf κ ℓ σ ε α) (i : Nat) (k : κ) (l : ℓ) (t : σ → σ) (f : σ → Prog ℓ σ ε α) :
      c.clients[i]? = some (.running k (.txn l t f)) → S.ok l c.st →
      Step c ⟨t c.st, c.clients.set i (.running k (f c.st))⟩
  | ret (c : Conf κ ℓ σ ε α) (i : Nat) (k : κ) (r : Except ε α) :
      c.clients[i]? = some (.running k (.done r)) → Step c { c with clients := c.clients.set i (.returned k r) }
  | crash (c : Conf κ ℓ σ ε α) (i : Nat) (k : κ) (p : Prog ℓ σ ε α) :
      c.clients[i]? = some (.running k p) → Step c { c with clients := c.clients.set i (.crashed k) }

inductive Reach : Conf κ ℓ σ ε α → Prop
  | init (s : σ) : S.init s → Reach ⟨s, []⟩
  | step {c c' : Conf κ ℓ σ ε α} : Reach c → S.Step c c' → Reach c'

/-- `c'` comes after `c` in a run. -/
def Later (c c' : Conf κ ℓ σ ε α) : Prop := Relation.ReflTransGen S.Step c c'

variable {c c' : Conf κ ℓ σ ε α}

variable {S} in
theorem Reach.later (hc : S.Reach c) (h : S.Later c c') : S.Reach c' := by
  induction h with
  | refl => exact hc
  | tail _ hs ih => exact .step ih hs

variable {S} in
/-- What was not there in the beginning and only comes about where `J` holds goes back to such a point. -/
theorem Reach.origin {A J : σ → Prop} (init : ∀ s, S.init s → ¬ A s)
    (step : ∀ {c c' : Conf κ ℓ σ ε α}, S.Reach c → S.Step c c' → A c'.st → A c.st ∨ J c.st) (hc : S.Reach c) (h : A c.st) : ∃ c1, S.Reach c1 ∧ S.Later c1 c ∧ J c1.st := by
  induction hc with
  | init s hs => exact absurd h (init s hs)
  | @step c c' hc hs ih =>
    rcases step hc hs h with h | h
    · obtain ⟨c1, h1, h2, h3⟩ := ih h
      exact ⟨c1, h1, h2.tail hs, h3⟩
    · exact ⟨c, hc, .single hs, h⟩

/-- A call begins only when no other is running. -/
def Solo : Prop := ∀ k c, S.start k c → c.quiet

/-! ## A call running by itself -/

variable {S} in
theorem later_run (hok : ∀ l s, S.ok l s) (k : κ) (p : Prog ℓ σ ε α) (s : σ) (cs : List (Client κ ℓ σ ε α)) :
    S.Later ⟨s, cs ++ [.running k p]⟩ ⟨(p.run s).2, cs ++ [.returned k (p.run s).1]⟩ := by
  have hlast : ∀ x : Client κ ℓ σ ε α, (cs ++ [x])[cs.length]? = some x := fun x => by simp
  have hset : ∀ x y : Client κ ℓ σ ε α, (cs ++ [x]).set cs.length y = cs ++ [y] := fun x y => by simp
  induction p generalizing s with
  | done r =>
    have h := Step.ret (S := S) ⟨s, cs ++ [.running k (.done r)]⟩ cs.length k r (hlast _)
    rw [hset] at h
    exact .single h
  | txn l t f ih =>
    have h := Step.txn (S := S) ⟨s, cs ++ [.running k (.txn l t f)]⟩ cs.length k l t f (hlast _) (hok l s)
    rw [hset] at h
    exact (ih s (t s)).head h

variable {S} in
/-- A call that runs from start to end with nothing in between. -/
theorem later_call (hok : ∀ l s, S.ok l s) {k : κ} (hk : S.start k c) :
    S.Later c ⟨((S.body c.clients.length k).run c.st).2,
      c.clients ++ [.returned k ((S.body c.clients.length k).run c.st).1]⟩ :=
  (later_run hok k _ c.st c.clients).head (.call c k hk)

/-! ## Schedules -/

inductive Move (κ : Type) where
  | call (k : κ)
  | txn (i : Nat)
  | ret (i : Nat)
  | crash (i : Nat)

variable {S} in
def exec1 [∀ k c, Decidable (S.start k c)] [∀ l s, Decidable (S.ok l s)] (c : Conf κ ℓ σ ε α) :
    Move κ → Option (Conf κ ℓ σ ε α)
  | .call k =>
    if S.start k c then some { c with clients := c.clients ++ [.running k (S.body c.clients.length k)] }
    else none
  | .txn i =>
    match c.clients[i]? with
    | some (.running k (.txn l t f)) =>
      if S.ok l c.st then some ⟨t c.st, c.clients.set i (.running k (f c.st))⟩ else none
    | _ => none
  | .ret i =>
    match c.clients[i]? with
    | some (.running k (.done r)) => some { c with clients := c.clients.set i (.returned k r) }
    | _ => none
  | .crash i =>
    match c.clients[i]? with
    | some (.running k _) => some { c with clients := c.clients.set i (.crashed k) }
    | _ => none

variable [∀ k c, Decidable (S.start k c)] [∀ l s, Decidable (S.ok l s)]

def exec (c : Conf κ ℓ σ ε α) : List (Move κ) → Option (Conf κ ℓ σ ε α)
  | [] => some c
  | m :: ms =>
    match exec1 (S := S) c m with
    | some c' => exec c' ms
    | none => none

variable {S} {ms : List (Move κ)}

theorem exec1_step {m : Move κ} (h : exec1 (S := S) c m = some c') : S.Step c c' := by
  cases m with
  | call k =>
    simp only [exec1] at h
    split_ifs at h with hs
    cases h
    exact .call c k hs
  | txn i =>
    simp only [exec1] at h
    split at h
    · rename_i k l t f hi
      split_ifs at h with ho
      cases h
      exact .txn c i k l t f hi ho
    · cases h
  | ret i =>
    simp only [exec1] at h
    split at h
    · rename_i k r hi
      cases h
      exact .ret c i k r hi
    · cases h
  | crash i =>
    simp only [exec1] at h
    split at h
    · rename_i k p hi
      cases h
      exact .crash c i k p hi
    · cases h

theorem exec_later (h : S.exec c ms = some c') : S.Later c c' := by
  induction ms generalizing c with
  | nil =>
    cases h
    exact .refl
  | cons m ms ih =>
    simp only [exec] at h
    split at h
    · rename_i c1 h1
      exact .head (exec1_step h1) (ih h)
    · cases h

theorem exec_reach (hc : S.Reach c) (h : S.exec c ms = some c') : S.Reach c' :=
  hc.later (exec_later h)

/-- What a test on the end of a schedule finds is found in a reachable state. -/
theorem exec_find {s : σ} (ms : List (Move κ)) (P : Conf κ ℓ σ ε α → Prop) [DecidablePred P] (hs : S.init s)
    (h : (S.exec ⟨s, []⟩ ms).any (fun c => decide (P c)) = true) : ∃ c, S.Reach c ∧ P c := by
  cases hc : S.exec ⟨s, []⟩ ms with
  | none => simp [hc] at h
  | some c => exact ⟨c, exec_reach (.init s hs) hc, by simpa [hc] using h⟩

/-- The same for two points of one schedule. -/
theorem exec_find₂ {s : σ} (ms ms' : List (Move κ)) (P : Conf κ ℓ σ ε α → Conf κ ℓ σ ε α → Prop)
    [∀ c c', Decidable (P c c')] (hs : S.init s)
    (h : (S.exec ⟨s, []⟩ ms).any (fun c => (S.exec c ms').any fun c' => decide (P c c')) = true) :
    ∃ c c', S.Reach c ∧ S.Later c c' ∧ P c c' := by
  cases hc : S.exec ⟨s, []⟩ ms with
  | none => simp [hc] at h
  | some c =>
    cases hc' : S.exec c ms' with
    | none => simp [hc, hc'] at h
    | some c' => exact ⟨c, c', exec_reach (.init s hs) hc, exec_later hc', by simpa [hc, hc'] using h⟩

/-- And for a single step at the end of a schedule. -/
theorem exec_find_step {s : σ} (ms : List (Move κ)) (m : Move κ)
    (P : Conf κ ℓ σ ε α → Conf κ ℓ σ ε α → Prop) [∀ c c', Decidable (P c c')] (hs : S.init s)
    (h : (S.exec ⟨s, []⟩ ms).any (fun c => (exec1 (S := S) c m).any fun c' => decide (P c c')) = true) :
    ∃ c c', S.Reach c ∧ S.Step c c' ∧ P c c' := by
  cases hc : S.exec ⟨s, []⟩ ms with
  | none => simp [hc] at h
  | some c =>
    cases hc' : exec1 (S := S) c m with
    | none => simp [hc, hc'] at h
    | some c' => exact ⟨c, c', exec_reach (.init s hs) hc, exec1_step hc', by simpa [hc, hc'] using h⟩

end System

end Txn
