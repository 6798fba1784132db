/-
  Aegis.Lifecycle.Shared — several coordinators on one journal file and key, interleaved
  transaction by transaction.

  `_set_state` and `_commit_receipt` look at the stored row again inside their transaction,
  but at its digest only: they write the state and tag of the copy the caller loaded.
  - `shared_journal_holds`: in every run in which each of these transactions finds the row in
    the state of the caller's copy (`Current`), no command is handed to the provider twice, a
    committed row stays as it is and every stored row authenticates.
  - `shared_journal_breaks`: otherwise two `execute`s of one command suffice. Both load it
    prepared; the first starts, calls the provider and commits; the second then moves the
    committed row back to PROVIDER_STARTED under a tag that does not cover the anchor stored
    in it, and calls the provider again.
-/

import Aegis.Lifecycle.AtMostOnce

namespace Aegis.Lifecycle.Coordinator

open Data Txn Prog

variable {π : Type} (H : Hashing) (key : String) (P : Provider π)

/-- Any number of calls at once; `ok` says which transactions may commit. -/
def sharedSystem (ok : Label → World π → Prop) : System Call Label (World π) Error Answer where
  init := Fresh H key
  body := journalBody H key P
  start _ _ := True
  ok

/-- The row is in the state of the copy that is about to be written. -/
def Current : Label → World π → Prop
  | .step, _ => True
  | .write copy, w => (w.journal.loadRow copy.command.commandId).map (·.state) = some copy.state.value

/-- What a caller knows of the row it loaded while others may write it: all but the state. -/
def Known (r : JournalRecord) (w : World π) : Prop :=
  ∃ (b : Book) (e : Entry), w.journal = b.encode H key ∧ b.find r.command.commandId = some e ∧ e.command = r.command ∧
    e.preObservation = r.preObservation ∧ e.providerId = r.providerId ∧ r.anchorFingerprintAfter = none ∧
    r.state ≠ .committed

variable {H key P} {r : JournalRecord}

theorem known_evolves {me : Nat} {w w' : World π} (h : Known H key r w) (he : Evolves H key me w w') : Known H key r w' := by
  obtain ⟨b, e, hb, hf, h1, h2, h3, h4⟩ := h
  obtain ⟨b', hb', hg⟩ := he.grows b hb
  obtain ⟨e', hf', hge⟩ := hg _ e hf
  exact ⟨b', e', hb', hf', hge.command.trans h1, hge.preObservation.trans h2, hge.providerId.trans h3, h4⟩

/-- A row in the state of the copy is the copy. -/
theorem known_current {w : World π} {b : Book} (hb : w.journal = b.encode H key)
    (h : Known H key r w) (hc : Current (.write r) w) :
    ∃ e, b.find r.command.commandId = some e ∧ e.record = r ∧ e.status.state ≠ .committed := by
  obtain ⟨b', e, hb', hf, h1, h2, h3, h4, h5⟩ := h
  obtain rfl := Book.encode_injective H key (hb'.symm.trans hb)
  have hstate : e.status.state = r.state := by
    simp only [Current, hb, Book.loadRow_encode, hf, Option.map_some, Option.some.injEq] at hc
    exact JournalState.value_injective hc
  have hopen : e.status.state ≠ .committed := by rwa [hstate]
  refine ⟨e, hf, ?_, hopen⟩
  have hanchor := Status.anchor_of_not_committed hopen
  cases r
  simp_all [Entry.record]

variable (H key P) in
def sharedRegime : Regime H key P where
  steady := False
  ok := Current
  rely := Evolves H key
  pinv _ := True
  prov _ := Contract.free π
  held := Known H key
  allowed _ _ := True
  done _ _ := True
  extra _ _ := True
  rely_refl := .refl H key
  rely_trans := .trans H key
  rely_steady h := h.elim
  rely_evolves h := h
  prov_inv := @Regime.free_prov_inv π
  rely_provider _ := trivial
  held_stored hb hf hc := ⟨_, _, hb, hf, rfl, rfl, rfl, Status.anchor_of_not_committed hc, hc⟩
  held_rely := known_evolves
  held_congr hj h := by
    obtain ⟨b, e, hb, h⟩ := h
    exact ⟨b, e, hj.trans hb, h⟩
  held_ok := known_current
  allowed_check _ _ _ := trivial
  allowed_rely _ _ := trivial
  allowed_congr _ _ := trivial
  done_rely _ _ := trivial
  extra_open _ _ := trivial
  extra_done _ _ _ _ := trivial
  extra_provider _ _ _ := trivial
  extra_disturb := trivial
  inv_disturb _ := trivial
  invoke_safe := Regime.free_invoke_safe P

theorem sharedSystem_meets :
    (sharedSystem H key P Current).Meets (sharedRegime H key P).contract (Regime.Post (sharedRegime H key P)) :=
  Regime.meets (fun _ hw => ⟨hw, trivial⟩) rfl rfl
    (fun _ _ _ _ _ _ _ _ _ h => Regime.proveCommit_safe (fun _ _ _ _ _ _ _ => trivial) h)
    (.inr fun i _ _ _ hij _ _ hg => hg.1 i hij)

/-- While every write finds the row as its caller loaded it, sharing the journal is safe. -/
theorem shared_journal_holds {c : Conf Call Label (World π) Error Answer}
    (hc : (sharedSystem H key P Current).Reach c) :
    (∀ i, c.st.invocations.count i ≤ 1) ∧
    (∀ row ∈ c.st.journal.lifecycleCommands, ∃ r, rowToRecord H key row = .ok r) ∧
    ∀ row ∈ c.st.journal.lifecycleCommands, row.state = JournalState.committed.value →
      ∀ c', (sharedSystem H key P Current).Later c c' → row ∈ c'.st.journal.lifecycleCommands := by
  have hm := @sharedSystem_meets _ H key P
  obtain ⟨⟨b, hk⟩, -⟩ := hm.inv hc
  refine ⟨fun i => List.nodup_iff_count_le_one.mp hk.invocations i, fun row hrow => ?_, fun row hrow hs c' hl => ?_⟩
  · obtain ⟨e, -, rfl⟩ := row_mem hk.journal hrow
    exact ⟨e.record, Entry.rowToRecord_row H key e⟩
  · exact committed_row_kept hk.journal (growsTo_of_meets hm hc hl) hrow hs

/-! ## Two executions of one command -/

instance (l : Label) (w : World π) : Decidable (Current l w) := by
  cases l with
  | step => exact isTrue trivial
  | write copy => exact inferInstanceAs (Decidable (_ = _))

instance (ok : Label → World π → Prop) (k : Call) (c : Conf Call Label (World π) Error Answer) :
    Decidable ((sharedSystem H key P ok).start k c) := inferInstanceAs (Decidable True)

instance (ok : Label → World π → Prop) [∀ l w, Decidable (ok l w)] (l : Label) (w : World π) :
    Decidable ((sharedSystem H key P ok).ok l w) := inferInstanceAs (Decidable (ok l w))

/-- `execute` of the first command issued, a snapshot: the anchor stays as it is. -/
def executeFirst : System.Move Call :=
  .call (.execute (Sample.first .snapshot) Sample.args Sample.snapshot .none .none)

/-- Both load the prepared row, then the first runs to its end. -/
def oneCommits : List (System.Move Call) :=
  [.call (.issue "first" .snapshot "resource"), .txn 0, .txn 0, .txn 0, .ret 0,
    executeFirst, executeFirst, .txn 1, .txn 1, .txn 2, .txn 2] ++ List.replicate 6 (.txn 1) ++ [.ret 1]

/-- The second goes on from the row it loaded. -/
def otherGoesOn : List (System.Move Call) := [.txn 2, .txn 2, .txn 2]

theorem shared_journal_holds_oneCommits :
    ∃ c, (sharedSystem Hashing.light "key" (plainProvider Sample.face) Current).Reach c ∧
      c.st.journal.journalMeta.highestCommittedFence = 1 ∧ ∀ i, c.st.invocations.count i ≤ 1 := by
  obtain ⟨c, hc, h⟩ := System.exec_find (S := sharedSystem Hashing.light "key" (plainProvider Sample.face) Current)
    (s := Sample.world) oneCommits (fun c => c.st.journal.journalMeta.highestCommittedFence = 1)
    ⟨rfl, rfl, rfl⟩ (by decide +kernel)
  exact ⟨c, hc, h, (shared_journal_holds hc).1⟩

/-- Without that condition a committed row goes back to PROVIDER_STARTED, no longer authenticates
    and its command is handed to the provider twice. -/
theorem shared_journal_breaks :
    ∃ c c', (sharedSystem Hashing.light "key" (plainProvider Sample.face) fun _ _ => True).Reach c ∧
      (sharedSystem Hashing.light "key" (plainProvider Sample.face) fun _ _ => True).Later c c' ∧
      c.st.journal.lifecycleCommands.map (·.state) = [JournalState.committed.value] ∧
      c'.st.journal.lifecycleCommands.map (·.state) = [JournalState.providerStarted.value] ∧
      c'.st.journal.lifecycleCommands.map (rowToRecord Hashing.light "key")
        = [.error (.journal .integrityFailed (some "first") none)] ∧
      c'.st.invocations.count "first" = 2 :=
  System.exec_find₂ (S := sharedSystem Hashing.light "key" (plainProvider Sample.face) fun _ _ => True)
    (s := Sample.world) oneCommits otherGoesOn
    (fun c c' => c.st.journal.lifecycleCommands.map (·.state) = [JournalState.committed.value] ∧
      c'.st.journal.lifecycleCommands.map (·.state) = [JournalState.providerStarted.value] ∧
      c'.st.journal.lifecycleCommands.map (rowToRecord Hashing.light "key")
        = [.error (.journal .integrityFailed (some "first") none)] ∧
      c'.st.invocations.count "first" = 2) ⟨rfl, rfl, rfl⟩ (by decide +kernel)

end Aegis.Lifecycle.Coordinator
