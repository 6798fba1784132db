/-
  Aegis.Lifecycle.AtMostOnce — one coordinator on its journal: any commands, any provider, a
  crash after any transaction, reopening at any time, but one call at a time.

  Proved (`journal_accounts`): no command is handed to the provider twice; the fences of the
  stored commands are 1, 2, … up to the highest issued one; the highest committed fence is
  the largest fence of a committed command; reopening succeeds; and a committed row is never
  written again, so every later `execute` or `reconcile` answers with its receipt.
-/

import Aegis.Lifecycle.Regime

namespace Aegis.Lifecycle.Coordinator

open Data Txn Prog

variable {π : Type} (H : Hashing) (key : String) (P : Provider π)

/-- One coordinator: a call begins only when the one before has returned or crashed. -/
def journalSystem : System Call Label (World π) Error Answer where
  init := Fresh H key
  body := journalBody H key P
  start _ c := c.quiet
  ok _ _ := True

instance (k : Call) (c : Conf Call Label (World π) Error Answer) : Decidable ((journalSystem H key P).start k c) :=
  inferInstanceAs (Decidable c.quiet)

instance (l : Label) (w : World π) : Decidable ((journalSystem H key P).ok l w) := inferInstanceAs (Decidable True)

/-- With no other call about, the caller's copy is what is stored. -/
def Stored (r : JournalRecord) (w : World π) : Prop :=
  ∃ (b : Book) (e : Entry), w.journal = b.encode H key ∧ b.find e.id = some e ∧ e.record = r ∧
    e.status.state ≠ .committed

def soloRegime : Regime H key P where
  steady := True
  ok _ _ := True
  rely _ w w' := w' = w
  pinv _ := True
  prov _ := Contract.free π
  held := Stored H key
  allowed _ _ := True
  done _ _ := True
  extra _ _ := True
  rely_refl _ _ := rfl
  rely_trans h h' := h'.trans h
  rely_steady _ h := h
  rely_evolves h := by
    subst h
    exact .refl H key _ _
  prov_inv := @Regime.free_prov_inv π
  rely_provider _ := trivial
  held_stored hb hf hc := ⟨_, _, hb, hf, rfl, hc⟩
  held_rely h hr := by rwa [hr]
  held_congr hj h := by
    obtain ⟨b, e, hb, h⟩ := h
    exact ⟨b, e, hj.trans hb, h⟩
  held_ok hb h _ := by
    obtain ⟨b', e, hb', hf, rfl, hc⟩ := h
    rw [Book.encode_injective H key (hb.symm.trans hb')]
    exact ⟨e, hf, rfl, hc⟩
  allowed_check _ _ _ := trivial
  allowed_rely _ _ := trivial
  allowed_congr _ _ := trivial
  done_rely _ _ := trivial
  extra_open _ _ := trivial
  extra_done _ _ _ _ := trivial
  extra_provider _ _ _ := trivial
  extra_disturb := trivial
  inv_disturb _ := trivial
  invoke_safe := Regime.free_invoke_safe P

theorem journalSystem_meets : (journalSystem H key P).Meets (soloRegime H key P).contract (Regime.Post (soloRegime H key P)) :=
  Regime.meets (fun _ hw => ⟨hw, trivial⟩) rfl rfl
    (fun _ _ _ _ _ _ _ _ _ h => Regime.proveCommit_safe (fun _ _ _ _ _ _ _ => trivial) h)
    (.inl fun _ _ h => h)

/-! ## Rows and entries -/

variable {H key P} {w w' : World π} {b : Book} {row : JournalRow}

theorem row_mem (hb : w.journal = b.encode H key) (hrow : row ∈ w.journal.lifecycleCommands) :
    ∃ e, b.find row.commandId = some e ∧ row = e.row H key := by
  rw [hb] at hrow
  obtain ⟨e, he, rfl⟩ := List.mem_map.mp hrow
  exact ⟨e, Book.find_of_mem he, rfl⟩

variable {e : Entry}

theorem row_of_find (hb : w.journal = b.encode H key) {i : String} (he : b.find i = some e) :
    e.row H key ∈ w.journal.lifecycleCommands := by
  rw [hb]
  exact List.mem_map_of_mem (Book.mem_of_find he)

theorem committed_of_row (h : (e.row H key).state = JournalState.committed.value) : e.status.state = .committed :=
  JournalState.value_injective h

/-- The commands stored in `w` are stored in `w'`, further along. -/
def GrowsTo (H : Hashing) (key : String) (w w' : World π) : Prop :=
  ∀ b : Book, w.journal = b.encode H key → ∃ b' : Book, w'.journal = b'.encode H key ∧ b.Grows b'

theorem growsTo_of_meets {S : System Call Label (World π) Error Answer} {R : Regime H key P}
    {post : Call → Except Error Answer → World π → Prop} (hS : S.Meets R.contract post)
    {c c' : Conf Call Label (World π) Error Answer} (hc : S.Reach c) (h : S.Later c c') : GrowsTo H key c.st c'.st := by
  refine System.Meets.later hS (GrowsTo H key) (fun s b hb => ⟨b, hb, .refl b⟩) (fun h1 h2 b hb => ?_)
    (fun {i s s'} hg => (hg.1 (i + 1) (Nat.succ_ne_self i)).grows) hc h
  obtain ⟨b1, hb1, hg1⟩ := h1 b hb
  obtain ⟨b2, hb2, hg2⟩ := h2 b1 hb1
  exact ⟨b2, hb2, hg1.trans hg2⟩

theorem committed_row_kept (hb : w.journal = b.encode H key) (h : GrowsTo H key w w')
    (hrow : row ∈ w.journal.lifecycleCommands) (hc : row.state = JournalState.committed.value) :
    row ∈ w'.journal.lifecycleCommands := by
  obtain ⟨e, he, rfl⟩ := row_mem hb hrow
  obtain ⟨b', hb', hg⟩ := h b hb
  obtain ⟨e', he', hge⟩ := hg _ e he
  rw [hge.of_committed (committed_of_row hc)] at he'
  exact row_of_find hb' he'

theorem committed_fences (b : Book) : b.committed = Journal.maxFence (((b.encode H key).lifecycleCommands.filter
      (·.state = JournalState.committed.value)).map (·.fenceToken)) := by
  have hstate : ∀ e : Entry, decide ((e.row H key).state = JournalState.committed.value) =
      decide (e.record.state = .committed) := fun e => decide_eq_decide.mpr JournalState.value_injective.eq_iff
  rw [← Book.maxFence_committed]
  simp only [Book.encode, List.filter_map, List.map_map, Function.comp_def, hstate]
  rfl

/-! ## Replays -/

theorem receipt_exists (hc : e.status.state = .committed) :
    ∃ rc, receiptFromRecord H e.record true = .ok rc ∧ rc.commandId = e.id ∧ rc.replayed = true ∧
      some rc.anchorFingerprintAfter = e.status.anchor := by
  cases he : e.status with
  | committed a ok => exact ⟨_, by simp [receiptFromRecord, Entry.record, he, Status.anchor]; rfl, rfl, rfl, rfl⟩
  | prepared | started | reconciling => rw [he] at hc; cases hc

section

variable (hb : w.journal = b.encode H key)
include hb

theorem execute_replay {c : Command} (hs : Stores H b e c)
    (hp : e.providerId = P.face.providerId) (hc : e.status.state = .committed) (me : Nat) (args : Args)
    (behaviour : Behaviour) (pf : ProviderFault) (fault : JournalFault) :
    (execute H key P me c args behaviour pf fault).run w = (receiptFromRecord H e.record true, w) := by
  unfold execute
  rw [run_bind_ok (Regime.load_run hb hs hp)]
  dsimp only
  rw [if_pos (show e.record.state = .committed from hc), run_ofResult]

theorem reconcile_replay {c : Command} (hs : Stores H b e c)
    (hp : e.providerId = P.face.providerId) (hc : e.status.state = .committed) (me : Nat) :
    (reconcile H key P me c).run w = (receiptFromRecord H e.record true, w) := by
  unfold reconcile reconcileWith
  rw [run_bind_ok (Regime.load_run hb hs hp)]
  dsimp only
  rw [if_pos (show e.record.state = .committed from hc), run_ofResult]

/-- The receipts given for a committed command are the stored one's, but for `replayed`. -/
theorem receipted_eq {r rc : CommandReceipt} (hr : Receipted H key r w)
    (hf : b.find r.commandId = some e) (hrc : receiptFromRecord H e.record true = .ok rc) :
    { r with replayed := true } = rc := by
  obtain ⟨b', e', hb', hf', -, hr⟩ := hr
  rw [Book.encode_injective H key (hb'.symm.trans hb), hf] at hf'
  cases hf'
  unfold receiptFromRecord at hr hrc
  split at hr <;> simp_all
  rw [← hr, ← hrc]

end

/-! ## The journal's accounts -/

/-- What a committed row answers at a later point `c'` of the run: it is still there, its receipt
    is what `execute` and `reconcile` give, and it is the only one ever given for the command. -/
structure Answers (H : Hashing) (key : String) (P : Provider π) (row : JournalRow) (rc : CommandReceipt)
    (c' : Conf Call Label (World π) Error Answer) : Prop where
  kept : row ∈ c'.st.journal.lifecycleCommands
  execute : ∀ me command args behaviour pf fault, command.commandId = row.commandId →
    command.digest H = row.commandDigest →
    (execute H key P me command args behaviour pf fault).run c'.st = (.ok rc, c'.st)
  reconcile : ∀ me command, command.commandId = row.commandId → command.digest H = row.commandDigest →
    (reconcile H key P me command).run c'.st = (.ok rc, c'.st)
  returned : ∀ (i : Nat) call r, c'.clients[i]? = some (.returned call (.ok (.receipt r))) →
    r.commandId = row.commandId → { r with replayed := true } = rc

theorem committed_answers {c : Conf Call Label (World π) Error Answer} (hc : (journalSystem H key P).Reach c) (hrow : row ∈ c.st.journal.lifecycleCommands)
    (hcommitted : row.state = JournalState.committed.value) :
    ∃ rc, some rc.anchorFingerprintAfter = row.anchorFingerprintAfter ∧
      ∀ c', (journalSystem H key P).Later c c' → Answers H key P row rc c' := by
  have hm := journalSystem_meets H key P
  obtain ⟨⟨b, hk⟩, -⟩ := hm.inv hc
  obtain ⟨e, -, rfl⟩ := row_mem hk.journal hrow
  have hec := committed_of_row hcommitted
  obtain ⟨rc, hrc, -, -, hanchor⟩ := receipt_exists (H := H) hec
  refine ⟨rc, hanchor, fun c' hl => ?_⟩
  obtain ⟨⟨b', hk'⟩, -⟩ := hm.inv (hc.later hl)
  have hkept := committed_row_kept hk.journal (growsTo_of_meets hm hc hl) hrow hcommitted
  obtain ⟨e', he, heq⟩ := row_mem hk'.journal hkept
  obtain rfl := Entry.row_injective H key heq
  have hep := hk'.providers e (Book.mem_of_find he)
  have stores : ∀ command : Command, command.commandId = e.command.commandId →
      command.digest H = e.command.digest H → Stores H b' e command :=
    fun command h1 h2 => ⟨by rw [h1]; exact he, h2.symm⟩
  refine ⟨hkept, fun me command args behaviour pf fault h1 h2 => ?_, fun me command h1 h2 => ?_,
    fun i call r hi hid => ?_⟩
  · rw [execute_replay hk'.journal (stores command h1 h2) hep hec, hrc]
  · rw [reconcile_replay hk'.journal (stores command h1 h2) hep hec, hrc]
  · exact receipted_eq hk'.journal ((hm.returned (hc.later hl) hi).receipt r rfl) (by rw [hid]; exact he) hrc

/-- The accounts of one coordinator's journal, at every point of every run. -/
theorem journal_accounts {c : Conf Call Label (World π) Error Answer} (hc : (journalSystem H key P).Reach c) :
    (∀ i, c.st.invocations.count i ≤ 1) ∧
    c.st.journal.lifecycleCommands.map (·.fenceToken) = List.range' 1 c.st.journal.journalMeta.highestIssuedFence ∧
    c.st.journal.journalMeta.highestCommittedFence = Journal.maxFence ((c.st.journal.lifecycleCommands.filter
      (·.state = JournalState.committed.value)).map (·.fenceToken)) ∧
    ((verifyStore H key).run c.st).1 = .ok () ∧
    (∀ (i : Nat) r, c.clients[i]? = some (.returned .reopen r) → r = .ok .done) ∧
    ∀ row ∈ c.st.journal.lifecycleCommands, row.state = JournalState.committed.value →
      ∃ rc, some rc.anchorFingerprintAfter = row.anchorFingerprintAfter ∧
        ∀ c', (journalSystem H key P).Later c c' → Answers H key P row rc c' := by
  have hm := journalSystem_meets H key P
  obtain ⟨⟨b, hk⟩, -⟩ := hm.inv hc
  refine ⟨fun i => List.nodup_iff_count_le_one.mp hk.invocations i, ?_, ?_, ?_, ?_, ?_⟩
  · rw [hk.journal]
    have : (b.encode H key).lifecycleCommands.map (·.fenceToken) = b.entries.map Entry.fence := by
      simp [Book.encode, Entry.row, Entry.fence]
    rw [this, b.fences]
    rfl
  · rw [hk.journal]
    exact committed_fences b
  · rw [verifyStore, run_bind_ok (a := (b.encode H key).journalMeta) (t := c.st)
      (by rw [run_query, hk.journal, Book.readMeta_encode]), run_query, hk.journal, Book.verifyRows_encode]
  · exact fun i r hi => (hm.returned hc hi).reopen rfl trivial
  · exact fun row hrow hcommitted => committed_answers hc hrow hcommitted

/-- A snapshot, crashed before its response, reopened and executed again. -/
def snapshotTwice : List (System.Move Call) :=
  let c := Sample.first .snapshot
  [.call (.issue "first" .snapshot "resource"), .txn 0, .txn 0, .txn 0, .ret 0,
    .call (.execute c Sample.args Sample.snapshot .none .none)] ++ List.replicate 8 (.txn 1) ++
  [.crash 1, .call .reopen, .txn 2, .txn 2, .txn 2, .ret 2,
    .call (.execute c Sample.args Sample.snapshot .none .none), .txn 3, .txn 3, .ret 3]

theorem journal_accounts_snapshotTwice :
    ∃ c, (journalSystem Hashing.light "key" (plainProvider Sample.face)).Reach c ∧ c.clients.length = 4 ∧
      c.st.journal.journalMeta.highestCommittedFence = 1 ∧ ∀ i, c.st.invocations.count i ≤ 1 := by
  obtain ⟨c, hc, h1, h2⟩ := System.exec_find (S := journalSystem Hashing.light "key" (plainProvider Sample.face))
    (s := Sample.world) snapshotTwice
    (fun c => c.clients.length = 4 ∧ c.st.journal.journalMeta.highestCommittedFence = 1) ⟨rfl, rfl, rfl⟩
    (by decide +kernel)
  exact ⟨c, hc, h1, h2, (journal_accounts hc).1⟩

/-- Nothing in the journal is taken back: a stored command keeps its digest, its fence, its observation and its
    provider, and what changes about it moves its state on. -/
theorem rows_onward {c c' : Conf Call Label (World π) Error Answer} (hc : (journalSystem H key P).Reach c)
    (hl : (journalSystem H key P).Later c c') (row : JournalRow) (hrow : row ∈ c.st.journal.lifecycleCommands) :
    ∃ e e' : Entry, e.row H key = row ∧ e'.row H key ∈ c'.st.journal.lifecycleCommands ∧ e.Grows e' := by
  have hm := journalSystem_meets H key P
  obtain ⟨⟨b, hk⟩, -⟩ := hm.inv hc
  obtain ⟨e, he, rfl⟩ := row_mem hk.journal hrow
  obtain ⟨b', hb', hg⟩ := growsTo_of_meets hm hc hl b hk.journal
  obtain ⟨e', he', hee⟩ := hg _ e he
  exact ⟨e, e', rfl, row_of_find hb' he', hee⟩

theorem rows_onward_snapshotTwice : ∃ c c', (journalSystem Hashing.light "key" (plainProvider Sample.face)).Later c c' ∧
      c.st.journal.lifecycleCommands.map (·.state) = [JournalState.prepared.value] ∧
      c'.st.journal.lifecycleCommands.map (·.state) = [JournalState.committed.value] ∧
      ∀ row ∈ c.st.journal.lifecycleCommands, ∃ e e' : Entry, e.row Hashing.light "key" = row ∧
        e'.row Hashing.light "key" ∈ c'.st.journal.lifecycleCommands ∧ e.Grows e' := by
  obtain ⟨c, c', hc, hl, h1, h2⟩ := System.exec_find₂ (S := journalSystem Hashing.light "key" (plainProvider Sample.face))
    (s := Sample.world) (snapshotTwice.take 6) (snapshotTwice.drop 6)
    (fun c c' => c.st.journal.lifecycleCommands.map (·.state) = [JournalState.prepared.value] ∧
      c'.st.journal.lifecycleCommands.map (·.state) = [JournalState.committed.value]) ⟨rfl, rfl, rfl⟩ (by decide +kernel)
  exact ⟨c, c', hl, h1, h2, rows_onward hc hl⟩

end Aegis.Lifecycle.Coordinator
