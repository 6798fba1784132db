/-
  Aegis.Lifecycle.Reconciliation — what stands behind a COMMITTED record.

  Both `reconcile` and `recover_lifecycle_command` prove a commit by comparing the observation
  stored with the command and the live state. The comparison does not say whose operation
  made the difference.
  - `reconciliation_sound`: every committed record of the journal and every receipt of the
    crash-safe provider goes back to a point of the run where the command's own operation had
    run to completion, or where its outcome was unknown and that proof held.
  - `reconciliation_borrows`: the second case need not be the first. A migration that raised
    before it changed anything is committed after another command's migration.
-/

import Aegis.Lifecycle.AtMostOnce
import Aegis.Lifecycle.ProviderRuns

namespace Aegis.Lifecycle

open Data Txn Prog

variable (H : Hashing) (key : String) (face : ProviderFace)

namespace Coordinator

/-- Why a row may be committed: the operation of its command ran to completion, or the row is
    RECONCILIATION_REQUIRED, its command a migration, and the proof holds. -/
def Accounted (row : JournalRow) (w : World Plain) : Prop :=
  ∃ c : Command, c.commandId = row.commandId ∧ c.digest H = row.commandDigest ∧ (c ∈ w.provider.completions ∨
      row.state = JournalState.reconciliationRequired.value ∧ c.operation = .migration ∧
        ∃ current, w.provider.live.migrationObservation H = .ok current ∧
          migrationCommitProven row.preObservationJson current = true)

/-- A step commits only accounted rows. -/
def CommitsAccounted (w w' : World Plain) : Prop :=
  ∀ b b' : Book, w.journal = b.encode H key → w'.journal = b'.encode H key →
    ∀ i e', b'.find i = some e' → e'.status.state = .committed →
      b.find i = some e' ∨ ∃ e, b.find i = some e ∧ e.command = e'.command ∧ Accounted H (e.row H key) w

variable {H key}

theorem commitsAccounted_of_journal {w w' : World Plain} (h : w'.journal = w.journal) : CommitsAccounted H key w w' := by
  intro b b' hb hb' i e' he _
  rw [Book.encode_injective H key (hb.symm.trans (h.symm.trans hb'))]
  exact .inl he

theorem commitsAccounted_commit {w : World Plain} {b : Book} {e : Entry} {c : Command} {a : String} {ha : a ≠ ""}
    (hb : w.journal = b.encode H key) (hs : Stores H b e c) (h : Accounted H (e.row H key) w) :
    CommitsAccounted H key w { w with journal := (b.setStatus e.id (.committed a ha)).encode H key } := by
  intro b1 b' hb1 hb' i e' he hc
  obtain rfl := Book.encode_injective H key (hb.symm.trans hb1)
  obtain rfl := Book.encode_injective H key hb'
  have hid : e.id = c.commandId := Book.id_of_find hs.find
  have hf : b.find e.id = some e := by rw [hid]; exact hs.find
  by_cases hi : i = e.id
  · subst hi
    rw [Book.find_setStatus_self hf] at he
    cases he
    exact .inr ⟨e, hf, rfl, h⟩
  · rw [Book.find_setStatus_ne hi] at he
    exact .inl he

variable (H key) in
def accountedRegime : Regime H key (plainProvider face) :=
  { soloRegime H key (plainProvider face) with
    prov := fun _ => Contract.alone (fun _ => True) (fun _ _ => True) fun _ _ => trivial
    done := fun c p => c ∈ p.completions
    extra := CommitsAccounted H key
    prov_inv := Iff.rfl
    rely_provider := fun h => congrArg World.provider h
    done_rely := fun h hr => by rwa [show _ = _ from hr]
    extra_open := fun _ h b b' hb hb' i e he hc => .inl (h b b' hb hb' i e he hc)
    extra_done := fun hb hs _ hd => commitsAccounted_commit hb hs
      ⟨_, (Book.id_of_find hs.find).symm, hs.digest.symm, .inl hd⟩
    extra_provider := fun _ _ _ => commitsAccounted_of_journal rfl
    extra_disturb := commitsAccounted_of_journal rfl
    inv_disturb := fun _ => trivial
    invoke_safe := fun me c args behaviour fault p _ => by
      refine Safe.attempt fun p' _ _ _ => ⟨trivial, trivial, fun h => ?_⟩
      rcases hb : behaviour p'.live with ⟨live, completed⟩
      cases completed with
      | false => simp [hb] at h
      | true => exact List.mem_append_right _ (List.mem_singleton_self c) }

theorem accounted_meets : (journalSystem H key (plainProvider face)).Meets (accountedRegime H key face).contract
    (Regime.Post (accountedRegime H key face)) :=
  Regime.meets (fun _ hw => ⟨hw, trivial⟩) rfl rfl
    (fun _ _ _ _ _ _ _ _ _ h => Regime.proveCommit_safe
      (fun hrel hobs hproven hb hs hst hop => by
        obtain rfl := hrel
        exact commitsAccounted_commit hb hs ⟨_, (Book.id_of_find hs.find).symm, hs.digest.symm,
          .inr ⟨congrArg JournalState.value hst, hop, _, hobs, hproven⟩⟩) h)
    (.inl fun _ _ h => h)

/-- Every committed row goes back to a point of the run where it was accounted for. -/
theorem committed_origin {face : ProviderFace} {c : Conf Call Label (World Plain) Error Answer}
    (hc : (journalSystem H key (plainProvider face)).Reach c) {row : JournalRow}
    (hrow : row ∈ c.st.journal.lifecycleCommands) (hs : row.state = JournalState.committed.value) :
    ∃ c1, (journalSystem H key (plainProvider face)).Reach c1 ∧ (journalSystem H key (plainProvider face)).Later c1 c ∧
      ∃ row1 ∈ c1.st.journal.lifecycleCommands, row1.commandId = row.commandId ∧ row1.commandDigest = row.commandDigest ∧
        Accounted H row1 c1.st := by
  refine System.Reach.origin (A := fun w => row ∈ w.journal.lifecycleCommands)
    (J := fun w => ∃ row1 ∈ w.journal.lifecycleCommands, row1.commandId = row.commandId ∧
      row1.commandDigest = row.commandDigest ∧ Accounted H row1 w) (fun w hw hmem => ?_) (fun {c c'} hc hstep hmem => ?_) hc hrow
  · rw [hw.1] at hmem
    cases hmem
  · have hm := @accounted_meets H key face
    rcases hm.step hc hstep with heq | ⟨_, hg⟩
    · exact .inl (heq ▸ hmem)
    obtain ⟨⟨b, hk⟩, -⟩ := hm.inv hc
    obtain ⟨⟨b', hk'⟩, -⟩ := hm.inv (.step hc hstep)
    obtain ⟨e', he', rfl⟩ := row_mem hk'.journal hmem
    rcases hg.2 b b' hk.journal hk'.journal _ e' he' (committed_of_row hs) with he | ⟨e, he, hcmd, hacc⟩
    · exact .inl (row_of_find hk.journal he)
    · refine .inr ⟨e.row H key, row_of_find hk.journal he, ?_, ?_, hacc⟩
      · exact congrArg Command.commandId hcmd
      · exact congrArg (Command.digest H) hcmd

end Coordinator

/-- And every stored receipt to one where it was justified. -/
theorem CrashSafe.receipt_origin {H : Hashing} {S : CrashSafe} {depth : Nat}
    {conf : Conf CrashSafe.Call Label ProviderWorld Error (Option OutcomeReceipt)}
    (hc : (CrashSafe.system H S depth).Reach conf) {row : OutcomeRow} (hrow : row ∈ conf.st.outcomeStore) :
    ∃ conf1, (CrashSafe.system H S depth).Reach conf1 ∧ (CrashSafe.system H S depth).Later conf1 conf ∧
      CrashSafe.Justified H row conf1.st := by
  refine System.Reach.origin (A := fun p => row ∈ p.outcomeStore) (J := CrashSafe.Justified H row)
    (fun p hp hmem => ?_) (fun {c c'} hc hstep hmem => ?_) hc hrow
  · rw [hp.2.1] at hmem
    cases hmem
  · rcases (CrashSafe.system_meets depth).step hc hstep with heq | ⟨_, hg⟩
    · exact .inl (heq ▸ hmem)
    · by_cases hold : row ∈ c.st.outcomeStore
      · exact .inl hold
      · exact .inr ((show CrashSafe.Proceeds H c.st c'.st from hg).justified row hmem hold)

/-- What stands behind a committed record, in the journal and in the crash-safe provider. -/
theorem reconciliation_sound {H : Hashing} {key : String} {face : ProviderFace} {S : CrashSafe} {depth : Nat}
    {c : Conf Coordinator.Call Label (World Plain) Error Answer}
    (hc : (Coordinator.journalSystem H key (plainProvider face)).Reach c)
    {conf : Conf CrashSafe.Call Label ProviderWorld Error (Option OutcomeReceipt)}
    (hconf : (CrashSafe.system H S depth).Reach conf) :
    (∀ row ∈ c.st.journal.lifecycleCommands, row.state = JournalState.committed.value →
      ∃ c1, (Coordinator.journalSystem H key (plainProvider face)).Reach c1 ∧
        (Coordinator.journalSystem H key (plainProvider face)).Later c1 c ∧
        ∃ row1 ∈ c1.st.journal.lifecycleCommands, row1.commandId = row.commandId ∧
          row1.commandDigest = row.commandDigest ∧ Coordinator.Accounted H row1 c1.st) ∧
    (∀ crow ∈ conf.st.commandStore, crow.state = ProviderState.committed.value →
      ∃ row ∈ conf.st.outcomeStore, row.commandId = crow.commandId) ∧
    ∀ row ∈ conf.st.outcomeStore, ∃ conf1, (CrashSafe.system H S depth).Reach conf1 ∧
      (CrashSafe.system H S depth).Later conf1 conf ∧ CrashSafe.Justified H row conf1.st := by
  obtain ⟨tasks, receipts, hsettled⟩ := (CrashSafe.system_meets depth).inv hconf
  refine ⟨fun row hrow hs => Coordinator.committed_origin hc hrow hs, fun crow hcrow hs => ?_,
    fun row hrow => CrashSafe.receipt_origin hconf hrow⟩
  obtain ⟨row, hrow, hid, -⟩ := CrashSafe.committed_receipt hsettled hcrow hs
  exact ⟨row, hrow, hid⟩

/-! ## A migration proven by another's -/

namespace Sample

def firstMigration : Command := first .migration

def secondMigration : Command := second .migration

/-- The first migration raises at once; the second, issued with it, runs to completion; then the
    first is reconciled. -/
def borrowedProof : List (System.Move Coordinator.Call) :=
  ([.call (.issue "first" .migration "resource"), .txn 0, .txn 0, .txn 0, .ret 0,
    .call (.issue "second" .migration "resource"), .txn 1, .txn 1, .txn 1, .ret 1,
    .call (.execute firstMigration .none raise .none .none)] : List (System.Move Coordinator.Call)) ++ List.replicate 7 (.txn 2) ++
  [.ret 2, .call (.execute secondMigration .none migrate .none .none)] ++ List.replicate 8 (.txn 3) ++
  [.ret 3, .call (.reconcile firstMigration .none raise .none)] ++ List.replicate 4 (.txn 4) ++ [.ret 4]

end Sample

/-- The statement at the end of that run and of the provider's `migrateAndRecover`. -/
theorem reconciliation_sound_borrowedProof :
    ∃ (c : Conf Coordinator.Call Label (World Plain) Error Answer)
      (conf : Conf CrashSafe.Call Label ProviderWorld Error (Option OutcomeReceipt)),
      c.st.journal.lifecycleCommands.length = 2 ∧ conf.st.outcomeStore.length = 1 ∧
      (∀ row ∈ c.st.journal.lifecycleCommands, row.state = JournalState.committed.value →
        ∃ w, ∃ row1 ∈ w.journal.lifecycleCommands, row1.commandId = row.commandId ∧
          Coordinator.Accounted Hashing.light row1 w) ∧
      ∀ row ∈ conf.st.outcomeStore, ∃ p, CrashSafe.Justified Hashing.light row p := by
  obtain ⟨c, hc, h1⟩ := System.exec_find
    (S := Coordinator.journalSystem Hashing.light "key" (plainProvider Sample.face)) (s := Sample.world)
    Sample.borrowedProof (fun c => c.st.journal.lifecycleCommands.length = 2) ⟨rfl, rfl, rfl⟩ (by decide +kernel)
  obtain ⟨conf, hconf, h2⟩ := System.exec_find (S := CrashSafe.system Hashing.light CrashSafe.Sample.provider 2)
    (s := CrashSafe.Sample.world) CrashSafe.Sample.migrateAndRecover
    (fun conf => conf.st.outcomeStore.length = 1) ⟨rfl, rfl, rfl, rfl⟩ (by decide +kernel)
  obtain ⟨hrows, -, hreceipts⟩ := reconciliation_sound hc hconf
  refine ⟨c, conf, h1, h2, fun row hrow hs => ?_, fun row hrow => ?_⟩
  · obtain ⟨c1, -, -, row1, hrow1, hid, -, hacc⟩ := hrows row hrow hs
    exact ⟨c1.st, row1, hrow1, hid, hacc⟩
  · obtain ⟨conf1, -, -, hj⟩ := hreceipts row hrow
    exact ⟨conf1.st, hj⟩

/-- The first migration never ran to completion, and its record is committed. -/
theorem reconciliation_borrows :
    ∃ c, (Coordinator.journalSystem Hashing.light "key" (plainProvider Sample.face)).Reach c ∧
      c.st.journal.lifecycleCommands.map (fun row => (row.commandId, row.state)) =
        [("first", JournalState.committed.value), ("second", JournalState.committed.value)] ∧
      c.st.provider.completions = [Sample.secondMigration] :=
  System.exec_find (S := Coordinator.journalSystem Hashing.light "key" (plainProvider Sample.face)) (s := Sample.world)
    Sample.borrowedProof (fun c => c.st.journal.lifecycleCommands.map (fun row => (row.commandId, row.state)) =
        [("first", JournalState.committed.value), ("second", JournalState.committed.value)] ∧
      c.st.provider.completions = [Sample.secondMigration]) ⟨rfl, rfl, rfl⟩ (by decide +kernel)

end Aegis.Lifecycle
