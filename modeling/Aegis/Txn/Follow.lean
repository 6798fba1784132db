/-
  Txn.Follow — one call among many, from its beginning to its end.

  `System.Meets` says of every call what it says of its kind. Here one client, known by its
  index, is followed through whatever the others do: what is proved of its call where the
  call begins holds where the call has returned.

  - `Reach.begun`: every client of a reachable state was called in an earlier one.
  - `Meets.follow`: a client that keeps a contract goes on keeping it, to its end.
  - `Meets.returned_at`: a postcondition may name the client it is of.
  - `Safe.frame`: what others and the call itself preserve holds at its end.
-/

import Aegis.Txn.Safe

namespace Txn

variable {κ ℓ σ ε α : Type}

def Client.call : Client κ ℓ σ ε α → κ
  | running k _ => k
  | returned k _ => k
  | crashed k => k

namespace Safe

variable {ok : ℓ → σ → Prop} {C : Contract σ} {me : Nat} {post : Except ε α → σ → Prop} {s : σ} {p : Prog ℓ σ ε α}

theorem frame {K : σ → Prop} (hrely : ∀ s s', C.inv s' → C.rely me s s' → K s → K s')
    (hguar : ∀ s s', C.inv s → C.inv s' → C.guar me s s' → K s → K s') (hK : K s) (h : Safe ok C me post p s) :
    Safe ok C me (fun r s => post r s ∧ K s) p s := by
  induction p generalizing s with
  | done r => exact ⟨h, hK⟩
  | txn l t k ih =>
    intro s' hi hr ho
    obtain ⟨h1, h2, h3⟩ := h s' hi hr ho
    exact ⟨h1, h2, ih s' (hguar s' _ hi h1 h2 (hrely s s' hi hr hK)) h3⟩

/-- A safe call that runs by itself changes the store only as it guarantees. -/
theorem run_guar {T : σ → σ → Prop} (refl : ∀ s, T s s) (trans : ∀ {a b c}, T a b → T b c → T a c)
    (hg : ∀ s s', C.guar me s s' → T s s') (hok : ∀ l s, ok l s) (hs : C.inv s) (h : Safe ok C me post p s) :
    T s (p.run s).2 := by
  induction p generalizing s with
  | done r => exact refl s
  | txn l t k ih =>
    obtain ⟨h1, h2, h3⟩ := h s hs (C.rely_refl me s) (hok l s)
    exact trans (hg s _ h2) (ih s h1 h3)

end Safe

namespace System

variable (S : System κ ℓ σ ε α)

/-- The state once `k` is called. -/
def called (c : Conf κ ℓ σ ε α) (k : κ) : Conf κ ℓ σ ε α :=
  { c with clients := c.clients ++ [.running k (S.body c.clients.length k)] }

variable {S}

theorem getElem?_called (c : Conf κ ℓ σ ε α) (k : κ) :
    (S.called c k).clients[c.clients.length]? = some (.running k (S.body c.clients.length k)) := by
  simp [called]

theorem Reach.begun {c : Conf κ ℓ σ ε α} (hc : S.Reach c) {n : Nat} {x : Client κ ℓ σ ε α}
    (hn : c.clients[n]? = some x) :
    ∃ c0, S.Reach c0 ∧ S.start x.call c0 ∧ c0.clients.length = n ∧ S.Later (S.called c0 x.call) c := by
  -- a step that only changes clients in place keeps the call of each
  have key : ∀ {c c' : Conf κ ℓ σ ε α} {i : Nat} {y y' : Client κ ℓ σ ε α}, S.Step c c' →
      c'.clients = c.clients.set i y' → c.clients[i]? = some y → y'.call = y.call → (∀ {x}, c.clients[n]? = some x →
        ∃ c0, S.Reach c0 ∧ S.start x.call c0 ∧ c0.clients.length = n ∧ S.Later (S.called c0 x.call) c) →
      ∀ {x}, c'.clients[n]? = some x →
        ∃ c0, S.Reach c0 ∧ S.start x.call c0 ∧ c0.clients.length = n ∧ S.Later (S.called c0 x.call) c' := by
    intro c c' i y y' hs hset hy hcall ih x hx
    rw [hset, List.getElem?_set] at hx
    by_cases hi : i = n
    · subst hi
      obtain ⟨hlt, -⟩ := List.getElem?_eq_some_iff.mp hy
      rw [if_pos rfl, if_pos hlt] at hx
      cases hx
      obtain ⟨c0, h1, h2, h3, h4⟩ := ih hy
      rw [← hcall] at h2 h4
      exact ⟨c0, h1, h2, h3, h4.tail hs⟩
    · rw [if_neg hi] at hx
      obtain ⟨c0, h1, h2, h3, h4⟩ := ih hx
      exact ⟨c0, h1, h2, h3, h4.tail hs⟩
  induction hc generalizing x with
  | init s hs => simp at hn
  | @step c c' hc hs ih =>
    have hstep := hs
    cases hs with
    | call k hk =>
      rw [List.getElem?_append] at hn
      split at hn
      · obtain ⟨c0, h1, h2, h3, h4⟩ := ih hn
        exact ⟨c0, h1, h2, h3, h4.tail hstep⟩
      · rename_i hlt
        obtain ⟨hone, hx⟩ := List.getElem?_eq_some_iff.mp hn
        have hlen : c.clients.length = n := by
          simp only [List.length_cons, List.length_nil] at hone
          omega
        subst hlen
        simp only [Nat.sub_self, List.getElem_cons_zero] at hx
        subst hx
        exact ⟨c, hc, hk, rfl, .refl⟩
    | txn i k l t f hi ho => exact key hstep rfl hi rfl ih hn
    | ret i k r hi => exact key hstep rfl hi rfl ih hn
    | crash i k p hi => exact key hstep rfl hi rfl ih hn

namespace Meets

/-- The client called with `k` keeps its contract and, if it has returned, did so in `Q`. -/
def Follows (ok : ℓ → σ → Prop) (C : Contract σ) (n : Nat) (k : κ) (Q : Except ε α → σ → Prop) (s : σ) :
    Client κ ℓ σ ε α → Prop
  | .running k' p => k' = k ∧ Safe ok C n Q p s
  | .returned k' r => k' = k ∧ Q r s
  | .crashed k' => k' = k

variable {C : Contract σ} {post : κ → Except ε α → σ → Prop} {n : Nat} {k : κ} {Q : Except ε α → σ → Prop}
  {x : Client κ ℓ σ ε α}

theorem follow_step (H : S.Meets C post)
    (apart : ∀ i j s s', i ≠ j → C.inv s → C.inv s' → C.guar j s s' → C.rely i s s')
    (stable : ∀ j r s s', C.inv s → C.inv s' → C.guar j s s' → Q r s → Q r s') {c c' : Conf κ ℓ σ ε α}
    (hc : S.Reach c) (hs : S.Step c c') (hn : c.clients[n]? = some x)
    (hx : Follows S.ok C n k Q c.st x) : ∃ x', c'.clients[n]? = some x' ∧ Follows S.ok C n k Q c'.st x' := by
  obtain ⟨hlt, -⟩ := List.getElem?_eq_some_iff.mp hn
  cases hs with
  | call k' hk => exact ⟨x, by rw [List.getElem?_append_left hlt, hn], hx⟩
  | txn i k' l t f hi ho =>
    have hsafe := clientsSafe H hc
    obtain ⟨hg, hnext⟩ := clientsSafe_txn H hsafe hi ho
    by_cases he : i = n
    · subst he
      rw [hn] at hi
      cases hi
      obtain ⟨hk, hp⟩ := hx
      obtain ⟨-, -, hrest⟩ := hp c.st hsafe.inv (C.rely_refl _ _) ho
      exact ⟨_, List.getElem?_set_self hlt, hk, hrest⟩
    · refine ⟨x, (List.getElem?_set_ne he).trans hn, ?_⟩
      cases x with
      | running k1 p =>
        refine ⟨hx.1, hx.2.stable (apart n i _ _ (Ne.symm he) hsafe.inv hnext.inv hg) ?_⟩
        exact fun r => stable i r _ _ hsafe.inv hnext.inv hg
      | returned k1 r => exact ⟨hx.1, stable i r _ _ hsafe.inv hnext.inv hg hx.2⟩
      | crashed k1 => exact hx
  | ret i k' r hi =>
    by_cases he : i = n
    · subst he
      rw [hn] at hi
      cases hi
      exact ⟨_, List.getElem?_set_self hlt, hx⟩
    · exact ⟨x, (List.getElem?_set_ne he).trans hn, hx⟩
  | crash i k' p hi =>
    by_cases he : i = n
    · subst he
      rw [hn] at hi
      cases hi
      exact ⟨_, List.getElem?_set_self hlt, hx.1⟩
    · exact ⟨x, (List.getElem?_set_ne he).trans hn, hx⟩

/-- From any reachable state on, a client goes on keeping its contract. -/
theorem follow (H : S.Meets C post) (apart : ∀ i j s s', i ≠ j → C.inv s → C.inv s' → C.guar j s s' → C.rely i s s')
    (stable : ∀ j r s s', C.inv s → C.inv s' → C.guar j s s' → Q r s → Q r s') {c c' : Conf κ ℓ σ ε α}
    (hc : S.Reach c) (hl : S.Later c c') (hn : c.clients[n]? = some x)
    (hx : Follows S.ok C n k Q c.st x) : ∃ x', c'.clients[n]? = some x' ∧ Follows S.ok C n k Q c'.st x' := by
  induction hl with
  | refl => exact ⟨x, hn, hx⟩
  | tail hl hs ih =>
    obtain ⟨x1, h1, h2⟩ := ih
    exact follow_step H apart stable (hc.later hl) hs h1 h2

/-- What a call returned satisfies what was proved of it, as the client it is, where it began. -/
theorem returned_at (H : S.Meets C post)
    (apart : ∀ i j s s', i ≠ j → C.inv s → C.inv s' → C.guar j s s' → C.rely i s s')
    {Q : Nat → κ → Except ε α → σ → Prop}
    (stable : ∀ n k j r s s', C.inv s → C.inv s' → C.guar j s s' → Q n k r s → Q n k r s')
    (body : ∀ n k c, S.start k c → C.inv c.st → Safe S.ok C n (Q n k) (S.body n k) c.st) {c : Conf κ ℓ σ ε α} (hc : S.Reach c)
    {r : Except ε α} (hn : c.clients[n]? = some (.returned k r)) : Q n k r c.st := by
  obtain ⟨c0, hc0, hk, hlen, hl⟩ := hc.begun hn
  subst hlen
  have hbegun : S.Reach (S.called c0 k) := .step hc0 (.call c0 k hk)
  obtain ⟨x, hx, hf⟩ := follow (k := k) H apart (stable _ k) hbegun hl (getElem?_called c0 k)
    ⟨rfl, body _ k c0 hk (inv H hc0)⟩
  rw [hn] at hx
  cases hx
  exact hf.2

end Meets

end System

end Txn
