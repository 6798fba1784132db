/-
  Txn.Safe — reasoning about one client at a time, and why that is enough.

  A `Contract` says what every store satisfies (`inv`), what a client may assume of the
  others between two of its transactions (`rely`) and what each of its own transactions
  does to the store (`guar`). `Safe` is that a call keeps its side of it, whatever the
  others do within theirs, and ends in `post`. Its rules follow the program: one per way
  of beginning a `do` block.

  Proved: calls that are safe one by one are safe together (`Meets.inv`,
  `Meets.returned`, `Meets.step`), when the others' guarantees are what each relies on,
  or when calls do not overlap at all.
-/

import Aegis.Txn.System

namespace Txn

structure Contract (σ : Type) where
  inv : σ → Prop
  rely : Nat → σ → σ → Prop
  guar : Nat → σ → σ → Prop
  rely_refl : ∀ i s, rely i s s
  rely_trans : ∀ {i a b c}, rely i a b → rely i b c → rely i a c
  guar_refl : ∀ i s, inv s → guar i s s

/-- Between its own transactions a client finds the store as it left it. -/
def Contract.alone {σ : Type} (inv : σ → Prop) (guar : σ → σ → Prop) (refl : ∀ s, inv s → guar s s) :
    Contract σ where
  inv := inv
  rely _ a b := b = a
  guar _ := guar
  rely_refl _ _ := rfl
  rely_trans h h' := h'.trans h
  guar_refl _ := refl

/-- No promise and no assumption. -/
def Contract.free (σ : Type) : Contract σ where
  inv _ := True
  rely _ _ _ := True
  guar _ _ _ := True
  rely_refl _ _ := trivial
  rely_trans _ _ := trivial
  guar_refl _ _ _ := trivial

variable {κ ℓ σ τ ε ε' α β : Type} {Q : α → σ → Prop}

def Safe (ok : ℓ → σ → Prop) (C : Contract σ) (me : Nat) (post : Except ε α → σ → Prop) :
    Prog ℓ σ ε α → σ → Prop
  | .done r, s => post r s
  | .txn l t k, s => ∀ s', C.inv s' → C.rely me s s' → ok l s' →
      C.inv (t s') ∧ C.guar me s' (t s') ∧ Safe ok C me post (k s') (t s')

/-- A postcondition of calls that return a value; nothing is asked of an error. -/
def OnOk (Q : α → σ → Prop) (r : Except ε α) (s : σ) : Prop := ∀ a, r = .ok a → Q a s

theorem OnOk.error {e : ε} {s : σ} : OnOk Q (.error e) s := fun _ h => by cases h

theorem OnOk.ok {a : α} {s : σ} (h : Q a s) : OnOk Q (.ok a : Except ε α) s := by
  intro _ he
  cases he
  exact h

namespace Safe

open Prog

section Rules

variable {ok : ℓ → σ → Prop} {C C' : Contract σ} {me : Nat} {post : Except ε α → σ → Prop} {s : σ}
  {p : Prog ℓ σ ε α} {M post' : Except ε α → σ → Prop} {l : ℓ} {f : α → Prog ℓ σ ε β}

theorem mono (hs : C.inv s) (h : Safe ok C me post p s)
    (imp : ∀ r s', C.inv s' → post r s' → post' r s') : Safe ok C me post' p s := by
  induction p generalizing s with
  | done r => exact imp r s hs h
  | txn l t k ih =>
    intro s' hi hr ho
    obtain ⟨h1, h2, h3⟩ := h s' hi hr ho
    exact ⟨h1, h2, ih s' h1 h3⟩

/-- A call that keeps one contract keeps any that asks less and lets less happen. -/
theorem conseq (hinv : ∀ s, C.inv s ↔ C'.inv s)
    (hrely : ∀ s s', C'.rely me s s' → C.rely me s s') (hguar : ∀ s s', C'.inv s → C.guar me s s' → C'.guar me s s')
    (h : Safe ok C me post p s) : Safe ok C' me post p s := by
  induction p generalizing s with
  | done r => exact h
  | txn l t k ih =>
    intro s' hi hr ho
    obtain ⟨h1, h2, h3⟩ := h s' ((hinv s').mpr hi) (hrely s s' hr) ho
    exact ⟨(hinv _).mp h1, hguar s' _ hi h2, ih s' h3⟩

/-- Other clients' steps keep a call safe. -/
theorem stable {s' : σ} (h : Safe ok C me post p s) (hr : C.rely me s s')
    (hpost : ∀ r, post r s → post r s') : Safe ok C me post p s' := by
  cases p with
  | done r => exact hpost r h
  | txn l t k => exact fun s2 hi h2 ho => h s2 hi (C.rely_trans hr h2) ho

theorem andThen {post : Except ε' β → σ → Prop} {f : Except ε α → Prog ℓ σ ε' β} (hs : C.inv s) (h : Safe ok C me M p s)
    (hf : ∀ r s', C.inv s' → M r s' → Safe ok C me post (f r) s') : Safe ok C me post (p.andThen f) s := by
  induction p generalizing s with
  | done r => exact hf r s hs h
  | txn l t k ih =>
    intro s' hi hr ho
    obtain ⟨h1, h2, h3⟩ := h s' hi hr ho
    exact ⟨h1, h2, ih s' h1 h3⟩

theorem bind {post : Except ε β → σ → Prop} (hs : C.inv s) (h : Safe ok C me M p s)
    (hok : ∀ a s', C.inv s' → M (.ok a) s' → Safe ok C me post (f a) s')
    (herr : ∀ e s', C.inv s' → M (.error e) s' → post (.error e) s') : Safe ok C me post (p >>= f) s := by
  refine andThen hs h fun r s' hi hm => ?_
  cases r with
  | ok a => exact hok a s' hi hm
  | error e => exact herr e s' hi hm

theorem bind_ok {M : α → σ → Prop} {Q : β → σ → Prop} (hs : C.inv s)
    (h : Safe ok C me (OnOk M) p s) (hf : ∀ a s', C.inv s' → M a s' → Safe ok C me (OnOk Q) (f a) s') :
    Safe ok C me (OnOk Q) (p >>= f) s :=
  bind hs h (fun a s' hi hm => hf a s' hi (hm a rfl)) fun _ _ _ _ => .error

theorem handle {f : ε → Prog ℓ σ ε α} (hs : C.inv s)
    (h : Safe ok C me M p s) (hok : ∀ a s', C.inv s' → M (.ok a) s' → post (.ok a) s')
    (herr : ∀ e s', C.inv s' → M (.error e) s' → Safe ok C me post (f e) s') :
    Safe ok C me post (p.handle f) s := by
  refine andThen hs h fun r s' hi hm => ?_
  cases r with
  | ok a => exact hok a s' hi hm
  | error e => exact herr e s' hi hm

theorem mapError {post : Except ε' α → σ → Prop} {g : ε → ε'} (hs : C.inv s)
    (h : Safe ok C me (fun r s' => post (r.mapError g) s') p s) : Safe ok C me post (p.mapError g) s := by
  refine andThen hs h fun r s' _ hm => ?_
  cases r with
  | ok a => exact hm
  | error e => exact hm

theorem pure {a : α} (h : post (.ok a) s) : Safe ok C me post (Pure.pure a : Prog ℓ σ ε α) s := h

/-- A call that nothing is asked of. -/
theorem discard {g : α → β} (hs : C.inv s) (h : Safe ok C me M p s) :
    Safe ok C me (fun _ _ => True) (p >>= fun a => (Pure.pure (g a) : Prog ℓ σ ε β)) s :=
  bind hs h (fun _ _ _ _ => pure trivial) fun _ _ _ _ => trivial

theorem fail {e : ε} (h : post (.error e) s) : Safe ok C me post (Prog.fail e) s := h

/-! ### The first statement of a `do` block -/

variable {f : α → Prog ℓ σ ε β} {postb : Except ε β → σ → Prop} {g : σ → Except ε (α × σ)}

theorem raiseIf_bind {c : Prop} [Decidable c] {e : ε} {f : Unit → Prog ℓ σ ε β}
    (herr : c → postb (.error e) s) (hok : ¬ c → Safe ok C me postb (f ()) s) :
    Safe ok C me postb (raiseIf c e >>= f) s := by
  unfold raiseIf
  split
  · rename_i hc
    exact herr hc
  · rename_i hc
    exact hok hc

theorem ofResult_bind {r : Except ε α} (herr : ∀ e, r = .error e → postb (.error e) s)
    (hok : ∀ a, r = .ok a → Safe ok C me postb (f a) s) : Safe ok C me postb (Prog.ofResult r >>= f) s := by
  cases r with
  | ok a => exact hok a rfl
  | error e => exact herr e rfl

theorem query_bind {g : σ → Except ε α}
    (herr : ∀ e s', C.inv s' → C.rely me s s' → ok l s' → g s' = .error e → postb (.error e) s')
    (hok : ∀ a s', C.inv s' → C.rely me s s' → ok l s' → g s' = .ok a → Safe ok C me postb (f a) s') :
    Safe ok C me postb (query l g >>= f) s := by
  intro s' hi hr ho
  refine ⟨hi, C.guar_refl me s' hi, ?_⟩
  show Safe ok C me postb (Prog.andThen (.done (g s')) _) s'
  cases hg : g s' with
  | ok a => exact hok a s' hi hr ho hg
  | error e => exact herr e s' hi hr ho hg

theorem read_bind {g : σ → α} (h : ∀ s', C.inv s' → C.rely me s s' → ok l s' → Safe ok C me postb (f (g s')) s') :
    Safe ok C me postb (read l g >>= f) s := by
  refine query_bind (fun e s' _ _ _ hg => by cases hg) fun a s' hi hr ho hg => ?_
  cases hg
  exact h s' hi hr ho

section

variable {Q : β → σ → Prop}

theorem guard {c : Prop} [Decidable c] {e : ε} {f : Unit → Prog ℓ σ ε β} (h : ¬ c → Safe ok C me (OnOk Q) (f ()) s) :
    Safe ok C me (OnOk Q) (raiseIf c e >>= f) s :=
  raiseIf_bind (fun _ => .error) h

theorem ask {g : σ → Except ε α}
    (h : ∀ a s', C.inv s' → C.rely me s s' → ok l s' → g s' = .ok a → Safe ok C me (OnOk Q) (f a) s') :
    Safe ok C me (OnOk Q) (query l g >>= f) s :=
  query_bind (fun _ _ _ _ _ _ => .error) h

end

theorem modify_bind {t : σ → σ} {f : Unit → Prog ℓ σ ε β} (h : ∀ s', C.inv s' → C.rely me s s' → ok l s' →
      C.inv (t s') ∧ C.guar me s' (t s') ∧ Safe ok C me postb (f ()) (t s')) :
    Safe ok C me postb (modify l t >>= f) s :=
  fun s' hi hr ho => h s' hi hr ho

theorem atomic_bind (herr : ∀ e s', C.inv s' → C.rely me s s' → ok l s' → g s' = .error e → postb (.error e) s')
    (hok : ∀ a s1 s', C.inv s' → C.rely me s s' → ok l s' → g s' = .ok (a, s1) →
      C.inv s1 ∧ C.guar me s' s1 ∧ Safe ok C me postb (f a) s1) :
    Safe ok C me postb (atomic l g >>= f) s := by
  intro s' hi hr ho
  show C.inv (commit g s') ∧ C.guar me s' (commit g s') ∧
    Safe ok C me postb (Prog.andThen (.done (answer g s')) _) (commit g s')
  unfold commit answer
  cases hg : g s' with
  | error e => exact ⟨hi, C.guar_refl me s' hi, herr e s' hi hr ho hg⟩
  | ok x => exact hok x.1 x.2 s' hi hr ho hg

theorem atomic (herr : ∀ e s', C.inv s' → C.rely me s s' → ok l s' → g s' = .error e → post (.error e) s')
    (hok : ∀ a s1 s', C.inv s' → C.rely me s s' → ok l s' → g s' = .ok (a, s1) →
      C.inv s1 ∧ C.guar me s' s1 ∧ post (.ok a) s1) :
    Safe ok C me post (Prog.atomic l g) s := by
  intro s' hi hr ho
  show C.inv (commit g s') ∧ C.guar me s' (commit g s') ∧ post (answer g s') (commit g s')
  unfold commit answer
  cases hg : g s' with
  | error e => exact ⟨hi, C.guar_refl me s' hi, herr e s' hi hr ho hg⟩
  | ok x => exact hok x.1 x.2 s' hi hr ho hg

theorem write (h : ∀ a s1 s', C.inv s' → C.rely me s s' → ok l s' → g s' = .ok (a, s1) →
      C.inv s1 ∧ C.guar me s' s1 ∧ OnOk Q (.ok a : Except ε α) s1) : Safe ok C me (OnOk Q) (Prog.atomic l g) s :=
  atomic (fun _ _ _ _ _ _ => .error) h

theorem query {g : σ → Except ε α}
    (h : ∀ s', C.inv s' → C.rely me s s' → ok l s' → post (g s') s') : Safe ok C me post (Prog.query l g) s :=
  fun s' hi hr ho => ⟨hi, C.guar_refl me s' hi, h s' hi hr ho⟩

theorem attempt {g : σ → Except ε α × σ} (h : ∀ s', C.inv s' → C.rely me s s' → ok l s' →
      C.inv (g s').2 ∧ C.guar me s' (g s').2 ∧ post (g s').1 (g s').2) : Safe ok C me post (Prog.attempt l g) s :=
  fun s' hi hr ho => h s' hi hr ho

/-- A program on a component keeps the contract of the whole when its own does. `J` is what
    the client knows of the rest of the store. -/
theorem zoom {ok' : ℓ → τ → Prop} {D : Contract τ} {L : Lens σ τ} {J : σ → Prop}
    {post : Except ε α → τ → Prop} {p : Prog ℓ τ ε α}
    (hinv : ∀ s, C.inv s → J s → D.inv (L.get s))
    (hrely : ∀ s s', C.inv s' → J s → C.rely me s s' → J s' ∧ D.rely me (L.get s) (L.get s'))
    (hok : ∀ l s, ok l s → ok' l (L.get s))
    (hguar : ∀ s b, C.inv s → J s → D.inv b → D.guar me (L.get s) b →
      C.inv (L.set b s) ∧ C.guar me s (L.set b s) ∧ J (L.set b s))
    (hJ : J s) (h : Safe ok' D me post p (L.get s)) :
    Safe ok C me (fun r s' => post r (L.get s') ∧ J s') (p.zoom L) s := by
  induction p generalizing s with
  | done r => exact ⟨h, hJ⟩
  | txn l t k ih =>
    intro s' hi hr ho
    obtain ⟨hJ', hr'⟩ := hrely s s' hi hJ hr
    obtain ⟨h1, h2, h3⟩ := h (L.get s') (hinv s' hi hJ') hr' (hok l s' ho)
    obtain ⟨g1, g2, g3⟩ := hguar s' (t (L.get s')) hi hJ' h1 h2
    refine ⟨g1, g2, ih (L.get s') (s := L.over t s') g3 ?_⟩
    rw [Lens.get_over]
    exact h3

/-- A safe call that runs by itself. -/
theorem run (hok : ∀ l s, ok l s) (hs : C.inv s) (h : Safe ok C me post p s) :
    C.inv (p.run s).2 ∧ post (p.run s).1 (p.run s).2 := by
  induction p generalizing s with
  | done r => exact ⟨hs, h⟩
  | txn l t k ih =>
    obtain ⟨h1, -, h3⟩ := h s hs (C.rely_refl me s) (hok l s)
    exact ih s h1 h3

end Rules

theorem free (ok : ℓ → σ → Prop) (me : Nat) (p : Prog ℓ σ ε α) (s : σ) :
    Safe ok (Contract.free σ) me (fun _ _ => True) p s := by
  induction p generalizing s with
  | done r => trivial
  | txn l t k ih => exact fun s' _ _ _ => ⟨trivial, trivial, ih s' (t s')⟩

end Safe

/-! ## Calls that are safe one by one are safe together -/

structure System.Meets (S : System κ ℓ σ ε α) (C : Contract σ) (post : κ → Except ε α → σ → Prop) : Prop where
  init : ∀ s, S.init s → C.inv s
  body : ∀ me k c, S.start k c → C.inv c.st → Safe S.ok C me (post k) (S.body me k) c.st
  apart : S.Solo ∨ ∀ i j s s', i ≠ j → C.inv s → C.inv s' → C.guar j s s' → C.rely i s s'
  stable : ∀ me k r s s', C.inv s → C.inv s' → C.guar me s s' → post k r s → post k r s'

namespace System.Meets

variable {S : System κ ℓ σ ε α} {C : Contract σ} {post : κ → Except ε α → σ → Prop}

/-- What holds of the clients of a reachable state. -/
structure ClientsSafe (S : System κ ℓ σ ε α) (C : Contract σ) (post : κ → Except ε α → σ → Prop)
    (c : Conf κ ℓ σ ε α) : Prop where
  inv : C.inv c.st
  running : ∀ (i : Nat) k p, c.clients[i]? = some (Client.running k p) → Safe S.ok C i (post k) p c.st
  returned : ∀ (i : Nat) k r, c.clients[i]? = some (Client.returned k r) → post k r c.st
  solo : S.Solo → ∀ (i j : Nat) k k' p p', c.clients[i]? = some (Client.running k p) →
    c.clients[j]? = some (Client.running k' p') → i = j

variable {c : Conf κ ℓ σ ε α} {i : Nat} {k : κ}

theorem clientsSafe_call (H : S.Meets C post) (h : ClientsSafe S C post c) (hk : S.start k c) :
    ClientsSafe S C post { c with clients := c.clients ++ [.running k (S.body c.clients.length k)] } := by
  refine ⟨h.inv, ?_, ?_, ?_⟩
  · intro i k' p hi
    rw [List.getElem?_append] at hi
    split at hi
    · exact h.running i k' p hi
    · rename_i hlt
      obtain ⟨hn, hcl⟩ := List.getElem?_eq_some_iff.mp hi
      have hlen : i = c.clients.length := by simp at hn; omega
      subst hlen
      simp only [Nat.sub_self, List.getElem_cons_zero, Client.running.injEq] at hcl
      obtain ⟨rfl, rfl⟩ := hcl
      exact H.body _ _ c hk h.inv
  · intro i k' r hi
    rw [List.getElem?_append] at hi
    split at hi
    · exact h.returned i k' r hi
    · obtain ⟨hn, hcl⟩ := List.getElem?_eq_some_iff.mp hi
      simp at hcl
  · intro hsolo i j k1 k2 p p' hi hj
    have hq := Conf.quiet_iff.mp (hsolo k c hk)
    rw [List.getElem?_append] at hi hj
    split at hi
    · exact absurd hi (hq i k1 p)
    · split at hj
      · exact absurd hj (hq j k2 p')
      · obtain ⟨hn, -⟩ := List.getElem?_eq_some_iff.mp hi
        obtain ⟨hm, -⟩ := List.getElem?_eq_some_iff.mp hj
        simp at hn hm
        omega

theorem clientsSafe_txn (H : S.Meets C post) {l : ℓ} {t : σ → σ}
    {f : σ → Prog ℓ σ ε α} (h : ClientsSafe S C post c) (hi : c.clients[i]? = some (.running k (.txn l t f)))
    (ho : S.ok l c.st) :
    C.guar i c.st (t c.st) ∧ ClientsSafe S C post ⟨t c.st, c.clients.set i (.running k (f c.st))⟩ := by
  obtain ⟨h1, h2, h3⟩ := h.running i k _ hi c.st h.inv (C.rely_refl i c.st) ho
  refine ⟨h2, h1, ?_, ?_, ?_⟩
  · intro j k' p hj
    rw [List.getElem?_set] at hj
    split at hj
    · rename_i hij
      subst hij
      split_ifs at hj
      cases hj
      exact h3
    · rename_i hij
      have hsafe := h.running j k' p hj
      rcases H.apart with hsolo | hcompat
      · exact absurd (h.solo hsolo i j _ _ _ _ hi hj) hij
      · exact hsafe.stable (hcompat j i c.st (t c.st) (Ne.symm hij) h.inv h1 h2)
          fun r => H.stable i k' r c.st (t c.st) h.inv h1 h2
  · intro j k' r hj
    rw [List.getElem?_set] at hj
    split at hj
    · split at hj <;> cases hj
    · exact H.stable i k' r c.st (t c.st) h.inv h1 h2 (h.returned j k' r hj)
  · intro hsolo
    -- the running client stays at its index, so the two running ones are two of before
    have key : ∀ (j : Nat) k' p, (c.clients.set i (.running k (f c.st)))[j]? = some (Client.running k' p) → j = i := by
      intro j k' p hj
      rw [List.getElem?_set] at hj
      split at hj
      · rename_i hij
        exact hij.symm
      · exact h.solo hsolo j i _ _ _ _ hj hi
    intro j m k1 k2 p p' hj hm
    rw [key j k1 p hj, key m k2 p' hm]

/-- A call that ended is no longer running; everything else about the clients stays. -/
theorem clientsSafe_end {x : Client κ ℓ σ ε α} (h : ClientsSafe S C post c)
    (hx : ∀ k p, x ≠ .running k p) (hr : ∀ k r, x = .returned k r → post k r c.st) :
    ClientsSafe S C post { c with clients := c.clients.set i x } := by
  have back : ∀ (j : Nat) k p, (c.clients.set i x)[j]? = some (Client.running k p) →
      c.clients[j]? = some (Client.running k p) := by
    intro j k p hj
    rw [List.getElem?_set] at hj
    split at hj
    · split_ifs at hj
      exact absurd (Option.some.inj hj) (hx k p)
    · exact hj
  refine ⟨h.inv, fun j k p hj => h.running j k p (back j k p hj), ?_, ?_⟩
  · intro j k r hj
    rw [List.getElem?_set] at hj
    split at hj
    · split_ifs at hj
      exact hr k r (Option.some.inj hj)
    · exact h.returned j k r hj
  · exact fun hsolo j m k1 k2 p p' hj hm =>
      h.solo hsolo j m k1 k2 p p' (back j k1 p hj) (back m k2 p' hm)

section

variable (H : S.Meets C post)
include H

theorem clientsSafe_step {c c' : Conf κ ℓ σ ε α} (h : ClientsSafe S C post c)
    (hs : S.Step c c') : (c'.st = c.st ∨ ∃ i, C.guar i c.st c'.st) ∧ ClientsSafe S C post c' := by
  cases hs with
  | call k hk => exact ⟨.inl rfl, clientsSafe_call H h hk⟩
  | txn i k l t f hi ho =>
    obtain ⟨hg, hc⟩ := clientsSafe_txn H h hi ho
    exact ⟨.inr ⟨i, hg⟩, hc⟩
  | ret i k r hi =>
    refine ⟨.inl rfl, clientsSafe_end h (fun _ _ e => by cases e) fun k' r' e => ?_⟩
    cases e
    exact h.running i k _ hi
  | crash i k p hi =>
    exact ⟨.inl rfl, clientsSafe_end h (fun _ _ e => by cases e) fun k' r' e => by cases e⟩

theorem clientsSafe (hc : S.Reach c) : ClientsSafe S C post c := by
  induction hc with
  | init s hs =>
    exact ⟨H.init s hs, fun i k p hi => by simp at hi, fun i k r hi => by simp at hi,
      fun _ i j k k' p p' hi => by simp at hi⟩
  | step _ hs ih => exact (clientsSafe_step H ih hs).2

/-- Every reachable store satisfies the invariant. -/
theorem inv (hc : S.Reach c) : C.inv c.st :=
  (clientsSafe H hc).inv

/-- What a call returned still satisfies the call's postcondition. -/
theorem returned (hc : S.Reach c) {r : Except ε α} (hi : c.clients[i]? = some (.returned k r)) : post k r c.st :=
  (clientsSafe H hc).returned i k r hi

/-- Every step leaves the store alone or does what some client guarantees. -/
theorem step {c c' : Conf κ ℓ σ ε α} (hc : S.Reach c) (hs : S.Step c c') : c'.st = c.st ∨ ∃ i, C.guar i c.st c'.st :=
  (clientsSafe_step H (clientsSafe H hc) hs).1

/-- What every client guarantees of a step holds from any reachable store to any later one. -/
theorem later (T : σ → σ → Prop) (refl : ∀ s, T s s) (trans : ∀ {a b c}, T a b → T b c → T a c)
    (hg : ∀ {i s s'}, C.guar i s s' → T s s') {c c' : Conf κ ℓ σ ε α} (hc : S.Reach c) (h : S.Later c c') :
    T c.st c'.st := by
  induction h with
  | refl => exact refl _
  | tail hl hs ih =>
    rcases step H (hc.later hl) hs with heq | ⟨i, hi⟩
    · rwa [heq]
    · exact trans ih (hg hi)

end

end System.Meets

end Txn
