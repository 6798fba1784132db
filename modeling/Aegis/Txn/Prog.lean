/-
  Txn.Prog — client code over a shared store, one committed transaction at a time.

  A `Prog` is the tree of the transactions a call makes: each `txn` node updates the
  store and hands the value the store had at that moment to the rest of the call. What
  runs between two transactions (another client, a crash) is not in the tree; it is the
  business of `Txn.System`. `ℓ` labels transactions, so that a condition on a run can
  speak of the transaction about to be made.

  `atomic` is a transaction that may raise, and then leaves the store alone (ROLLBACK);
  `zoom` runs a program on one component of a larger store.
-/

import Mathlib.Logic.Function.Basic

namespace Txn

inductive Prog (ℓ σ ε α : Type) where
  | done (r : Except ε α)
  | txn (l : ℓ) (t : σ → σ) (k : σ → Prog ℓ σ ε α)

namespace Prog

variable {ℓ σ τ ε ε' α β : Type}

/-- `f` gets the result of `p`, a value or an error. -/
def andThen : Prog ℓ σ ε α → (Except ε α → Prog ℓ σ ε' β) → Prog ℓ σ ε' β
  | done r, f => f r
  | txn l t k, f => txn l t fun s => (k s).andThen f

protected def bind (p : Prog ℓ σ ε α) (f : α → Prog ℓ σ ε β) : Prog ℓ σ ε β :=
  p.andThen fun
    | .ok a => f a
    | .error e => done (.error e)

/-- `try p except e: f e`. -/
def handle (p : Prog ℓ σ ε α) (f : ε → Prog ℓ σ ε α) : Prog ℓ σ ε α :=
  p.andThen fun
    | .ok a => done (.ok a)
    | .error e => f e

def mapError (g : ε → ε') (p : Prog ℓ σ ε α) : Prog ℓ σ ε' α :=
  p.andThen fun
    | .ok a => done (.ok a)
    | .error e => done (.error (g e))

instance : Monad (Prog ℓ σ ε) where
  pure a := done (.ok a)
  bind := Prog.bind

instance : MonadExcept ε (Prog ℓ σ ε) where
  throw e := done (.error e)
  tryCatch := handle

def fail (e : ε) : Prog ℓ σ ε α := done (.error e)

/-- Lift a computation that touches no store. -/
def ofResult (r : Except ε α) : Prog ℓ σ ε α := done r

def raiseIf (c : Prop) [Decidable c] (e : ε) : Prog ℓ σ ε Unit :=
  if c then fail e else pure ()

/-! ## Transactions -/

/-- What a transaction leaves in the store: on an error, what it found. -/
def commit (f : σ → Except ε (α × σ)) (s : σ) : σ :=
  match f s with
  | .ok (_, s') => s'
  | .error _ => s

/-- What a transaction answers. -/
def answer (f : σ → Except ε (α × σ)) (s : σ) : Except ε α := (f s).map Prod.fst

def atomic (l : ℓ) (f : σ → Except ε (α × σ)) : Prog ℓ σ ε α :=
  txn l (commit f) fun s => done (answer f s)

/-- A transaction that only reads. -/
def query (l : ℓ) (f : σ → Except ε α) : Prog ℓ σ ε α :=
  txn l id fun s => done (f s)

def read (l : ℓ) (f : σ → α) : Prog ℓ σ ε α := query l fun s => .ok (f s)

/-- A transaction that cannot raise and answers nothing. -/
def modify (l : ℓ) (f : σ → σ) : Prog ℓ σ ε Unit :=
  txn l f fun _ => done (.ok ())

/-- A step that may raise after it changed the store. -/
def attempt (l : ℓ) (f : σ → Except ε α × σ) : Prog ℓ σ ε α :=
  txn l (fun s => (f s).2) fun s => done (f s).1

/-! ## A component of a larger store -/

structure Lens (σ τ : Type) where
  get : σ → τ
  set : τ → σ → σ
  get_set : ∀ a s, get (set a s) = a
  set_get : ∀ s, set (get s) s = s
  set_set : ∀ a b s, set a (set b s) = set a s

def Lens.over (L : Lens σ τ) (t : τ → τ) (s : σ) : σ := L.set (t (L.get s)) s

@[simp] theorem Lens.get_over (L : Lens σ τ) (t : τ → τ) (s : σ) : L.get (L.over t s) = t (L.get s) :=
  L.get_set _ _

def zoom (L : Lens σ τ) : Prog ℓ τ ε α → Prog ℓ σ ε α
  | done r => done r
  | txn l t k => txn l (L.over t) fun s => (k (L.get s)).zoom L

/-! ## A call running by itself -/

def run : Prog ℓ σ ε α → σ → Except ε α × σ
  | done r, s => (r, s)
  | txn _ t k, s => (k s).run (t s)

@[simp] theorem run_done (r : Except ε α) (s : σ) : (done r : Prog ℓ σ ε α).run s = (r, s) := rfl

@[simp] theorem run_pure (a : α) (s : σ) : (pure a : Prog ℓ σ ε α).run s = (.ok a, s) := rfl

@[simp] theorem run_fail (e : ε) (s : σ) : (fail e : Prog ℓ σ ε α).run s = (.error e, s) := rfl

@[simp] theorem run_ofResult (r : Except ε α) (s : σ) : (ofResult r : Prog ℓ σ ε α).run s = (r, s) := rfl

@[simp] theorem run_atomic (l : ℓ) (f : σ → Except ε (α × σ)) (s : σ) :
    (atomic l f).run s = (answer f s, commit f s) := rfl

@[simp] theorem run_query (l : ℓ) (f : σ → Except ε α) (s : σ) : (query l f).run s = (f s, s) := rfl

@[simp] theorem run_read (l : ℓ) (f : σ → α) (s : σ) : (read l f : Prog ℓ σ ε α).run s = (.ok (f s), s) := rfl

@[simp] theorem run_modify (l : ℓ) (f : σ → σ) (s : σ) : (modify l f : Prog ℓ σ ε Unit).run s = (.ok (), f s) := rfl

@[simp] theorem run_attempt (l : ℓ) (f : σ → Except ε α × σ) (s : σ) : (attempt l f).run s = f s := rfl

theorem run_raiseIf (c : Prop) [Decidable c] (e : ε) (s : σ) :
    (raiseIf c e : Prog ℓ σ ε Unit).run s = (if c then .error e else .ok (), s) := by
  unfold raiseIf
  split <;> rfl

theorem run_andThen (p : Prog ℓ σ ε α) (f : Except ε α → Prog ℓ σ ε' β) (s : σ) :
    (p.andThen f).run s = (f (p.run s).1).run (p.run s).2 := by
  induction p generalizing s with
  | done r => rfl
  | txn l t k ih => exact ih s (t s)

theorem run_bind (p : Prog ℓ σ ε α) (f : α → Prog ℓ σ ε β) (s : σ) : (p >>= f).run s = match p.run s with
      | (.ok a, s') => (f a).run s'
      | (.error e, s') => (.error e, s') := by
  show (p.andThen _).run s = _
  rw [run_andThen]
  rcases p.run s with ⟨_ | a, s'⟩ <;> rfl

variable {p : Prog ℓ σ ε α} {f g : α → Prog ℓ σ ε β}

theorem run_bind_ok {s t : σ} {a : α} (h : p.run s = (.ok a, t)) : (p >>= f).run s = (f a).run t := by
  rw [run_bind, h]

theorem run_bind_error {s s' : σ} {e : ε} (h : p.run s = (.error e, s')) : (p >>= f).run s = (.error e, s') := by
  rw [run_bind, h]

/-- What follows a program matters only where the program ends. -/
theorem run_bind_congr {s : σ}
    (h : ∀ a s', p.run s = (.ok a, s') → (f a).run s' = (g a).run s') : (p >>= f).run s = (p >>= g).run s := by
  rw [run_bind, run_bind]
  rcases hp : p.run s with ⟨_ | a, s'⟩
  · rfl
  · exact h a s' hp

theorem run_mapError (g : ε → ε') (p : Prog ℓ σ ε α) (s : σ) :
    (p.mapError g).run s = ((p.run s).1.mapError g, (p.run s).2) := by
  unfold mapError
  rw [run_andThen]
  rcases p.run s with ⟨_ | a, s'⟩ <;> rfl

theorem run_zoom (L : Lens σ τ) (p : Prog ℓ τ ε α) (s : σ) :
    (p.zoom L).run s = ((p.run (L.get s)).1, L.set (p.run (L.get s)).2 s) := by
  induction p generalizing s with
  | done r => simp [zoom, run, L.set_get]
  | txn l t k ih =>
    simp only [zoom, run]
    rw [ih]
    simp only [Lens.over, L.get_set, L.set_set]

end Prog

end Txn
