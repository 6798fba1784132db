/-
  Aegis.Lifecycle.Witnessed — what the journal witness is worth.

  A book grows or stays; the attestations of a book and of one grown from it compare forward
  (`classify_of_grows`), and only those do: what compares forward holds every witnessed
  command, no less far along (`forward_of_classify`).

  Proved (`witness_complete_and_sound`), for every run of one coordinator on its journal and
  its witness, with a crash after any step: opening the current journal succeeds; and a journal
  of any run that opens against the witness taken of a journal of any run is at least that
  journal, command by command.
-/

import Aegis.Lifecycle.Witness
import Aegis.Data.Dumps
import Mathlib.Data.List.Sort

namespace Aegis.Lifecycle

open Data Txn Prog

/-! ## Books in order -/

namespace Book

variable {b b' : Book}

theorem Grows.mem (h : b.Grows b') {e : Entry} (he : e ∈ b.entries) : ∃ e' ∈ b'.entries, e.Grows e' := by
  obtain ⟨e', he', hg⟩ := h e.id e (find_of_mem he)
  exact ⟨e', mem_of_find he', hg⟩

theorem Grows.issued_le (h : b.Grows b') : b.issued ≤ b'.issued := by
  have hsub : b.entries.map Entry.id ⊆ b'.entries.map Entry.id := by
    intro i hi
    obtain ⟨e, he, rfl⟩ := List.mem_map.mp hi
    obtain ⟨e', he', hg⟩ := h.mem he
    exact List.mem_map.mpr ⟨e', he', by simp [Entry.id, hg.command]⟩
  have := (b.ids.subperm hsub).length_le
  simpa [issued] using this

theorem Grows.committed_le (h : b.Grows b') : b.committed ≤ b'.committed := by
  refine Book.committed_le.mpr fun e he => ?_
  obtain ⟨e', he', hg⟩ := h.mem he
  by_cases hc : e.status.state = .committed
  · rw [← hg.of_committed hc]
    exact Book.committed_le.mp (le_refl _) e' he'
  · simp [Entry.committedFence, hc]

def committedEntries (b : Book) : List Entry := b.entries.filter (·.status.state = .committed)

theorem Grows.committedEntries_le (h : b.Grows b') : b.committedEntries.length ≤ b'.committedEntries.length := by
  have hn : b.committedEntries.Nodup := (List.Nodup.of_map _ b.ids).filter _
  refine (hn.subperm fun e he => ?_).length_le
  obtain ⟨he, hc⟩ := List.mem_filter.mp he
  obtain ⟨e', he', hg⟩ := h.mem he
  have hc : e.status.state = .committed := by simpa using hc
  rw [hg.of_committed hc] at he'
  exact List.mem_filter.mpr ⟨he', by simpa using hc⟩

theorem fences_nodup (b : Book) : (b.entries.map Entry.fence).Nodup := by
  rw [b.fences]
  exact List.nodup_range'

theorem entry_of_fence {n : Nat} (h1 : 1 ≤ n) (h2 : n ≤ b.issued) : ∃ e ∈ b.entries, e.fence = n := by
  have : n ∈ b.entries.map Entry.fence := by
    rw [b.fences, List.mem_range'_1]
    unfold issued at h2
    omega
  exact List.mem_map.mp this

theorem entries_sorted (b : Book) : b.entries.Pairwise (fun x y => x.fence < y.fence) := by
  have : (b.entries.map Entry.fence).Pairwise (· < ·) := by
    rw [b.fences]
    exact List.pairwise_lt_range'
  exact List.pairwise_map.mp this

/-- A book that grew is the same, or has a new command, or one that moved on. -/
theorem Grows.eq_or_advanced (h : b.Grows b') :
    b' = b ∨ b.issued < b'.issued ∨ ∃ e ∈ b.entries, ∃ e' ∈ b'.entries, e.Grows e' ∧ e.status.rank < e'.status.rank := by
  by_cases hadv : ∃ e ∈ b.entries, ∃ e' ∈ b'.entries, e.Grows e' ∧ e.status.rank < e'.status.rank
  · exact .inr (.inr hadv)
  by_cases hlt : b.issued < b'.issued
  · exact .inr (.inl hlt)
  left
  have hsub : b.entries ⊆ b'.entries := by
    intro e he
    obtain ⟨e', he', hg⟩ := h.mem he
    have hstatus : e'.status = e.status := hg.status.resolve_right fun hr => hadv ⟨e, he, e', he', hg, hr⟩
    have : e' = e := Entry.ext hg.command hg.preObservation hg.providerId hstatus
    exact this ▸ he'
  have hperm : b.entries.Perm b'.entries :=
    ((List.Nodup.of_map _ b.ids).subperm hsub).perm_of_length_le (Nat.not_lt.mp hlt)
  refine Book.ext (List.Perm.eq_of_pairwise (fun x y _ _ hxy hyx => ?_) b'.entries_sorted b.entries_sorted hperm.symm)
  omega

end Book

/-! ## Attestations of books -/

section Attestations

variable (H : Hashing)

def Entry.summary (e : Entry) : CommandSummary := summaryOf H e.record

/-- The attestation of a book. -/
def Book.attestation (providerId : String) (b : Book) : Attestation :=
  attestationOf H providerId ⟨journalSchemaVersion, b.issued, b.committed, ""⟩ (b.entries.map Entry.record)

variable {H} {b b' : Book} {pid : String} {e e' : Entry}

theorem attestation_commands : (b.attestation H pid).commands = b.entries.map (Entry.summary H) := by
  simp only [Book.attestation, attestationOf, List.map_map]
  rfl

theorem attestation_committedCount : (b.attestation H pid).committedCount = b.committedEntries.length := by
  simp only [Book.attestation, attestationOf, Book.committedEntries, List.filter_map, List.length_map]
  rfl

theorem byFence_mem {commands : List CommandSummary} {f : Int} {s : CommandSummary} (h : byFence commands f = some s) :
    s ∈ commands :=
  List.mem_reverse.mp (Table.mem_of_lookup h)

theorem byFence_of_mem (he : e ∈ b.entries) :
    byFence (b.entries.map (Entry.summary H)) e.fence = some (e.summary H) := by
  have hn : ((b.entries.map (Entry.summary H)).reverse.map CommandSummary.fenceToken).Nodup := by
    have hmap : (b.entries.map (Entry.summary H)).map CommandSummary.fenceToken
        = (b.entries.map Entry.fence).map Nat.cast := by
      simp [Entry.summary, summaryOf, Entry.record, Entry.fence]
    rw [List.map_reverse, List.nodup_reverse, hmap]
    exact b.fences_nodup.map fun x y hxy => by omega
  exact Table.lookup_of_mem hn (List.mem_reverse.mpr (List.mem_map_of_mem he))

/-- The witnessed command `p` is the current command `n`, no further along. -/
structure Forward (p n : CommandSummary) : Prop where
  digest : n.commandDigest = p.commandDigest
  identity : n.stableIdentityDigest = p.stableIdentityDigest
  rank : ∃ i j, stateRank p.state = some i ∧ stateRank n.state = some j ∧ i ≤ j
  committed : p.state = JournalState.committed.value →
    n.state = JournalState.committed.value ∧ n.anchorFingerprintAfter = p.anchorFingerprintAfter

/-- `n` is strictly further along. -/
def Advanced (p n : CommandSummary) : Prop :=
  ∃ i j, stateRank p.state = some i ∧ stateRank n.state = some j ∧ i < j

theorem forward_of_grows (h : e.Grows e') : Forward (e.summary H) (e'.summary H) where
  digest := by simp [Entry.summary, summaryOf, Entry.record, h.command]
  identity := by
    simp [Entry.summary, summaryOf, stableIdentityDigest, Entry.record, h.command, h.preObservation, h.providerId]
  rank := ⟨_, _, stateRank_state e.status, stateRank_state e'.status, h.rank_le⟩
  committed hc := by
    have hst : e.status.state = .committed := JournalState.value_injective hc
    rw [h.of_committed hst]
    exact ⟨hc, rfl⟩

theorem compareCommand_ok {p n : CommandSummary} : (∃ s, compareCommand p n = .ok s) ↔ Forward p n := by
  unfold compareCommand
  constructor
  · rintro ⟨s, h⟩
    split at h
    · cases h
    · rename_i hd
      obtain ⟨h1, h2⟩ := not_or.mp hd
      split at h
      · rename_i i j hi hj
        split_ifs at h with hlt hc
        refine ⟨not_not.mp h1, not_not.mp h2, ⟨i, j, hi, hj, Nat.not_lt.mp hlt⟩, fun hp => ?_⟩
        obtain ⟨h3, h4⟩ := not_or.mp fun hor => hc ⟨hp, hor⟩
        exact ⟨not_not.mp h3, not_not.mp h4⟩
      · cases h
  · intro h
    obtain ⟨i, j, hi, hj, hle⟩ := h.rank
    have hc : ¬ (p.state = JournalState.committed.value ∧ (n.state ≠ JournalState.committed.value ∨
        n.anchorFingerprintAfter ≠ p.anchorFingerprintAfter)) := by
      rintro ⟨hp, hor⟩
      obtain ⟨h1, h2⟩ := h.committed hp
      exact hor.elim (· h1) (· h2)
    exact ⟨_, by simp only [h.digest, h.identity, hi, hj, if_neg (Nat.not_lt.mpr hle), if_neg hc]; simp; rfl⟩

theorem compareCommand_advanced {p n : CommandSummary} {s : Bool} (h : compareCommand p n = .ok s) (ha : Advanced p n) :
    s = true := by
  obtain ⟨i, j, hi, hj, hlt⟩ := ha
  unfold compareCommand at h
  simp only [hi, hj] at h
  split_ifs at h
  cases h
  simpa using hlt

/-- The loop over the witnessed commands accepts exactly when each of them is found no less far along. -/
theorem compareCommands_ok {current ps : List CommandSummary} (strict : Bool) :
    (∃ s, compareCommands current ps strict = .ok s) ↔
      ∀ p ∈ ps, ∃ n, byFence current p.fenceToken = some n ∧ Forward p n := by
  induction ps generalizing strict with
  | nil => simp [compareCommands]
  | cons p ps ih =>
    rw [List.forall_mem_cons, compareCommands]
    cases hn : byFence current p.fenceToken with
    | none => simp
    | some n =>
      simp only [Option.some.injEq, exists_eq_left']
      rw [← compareCommand_ok]
      cases hc : compareCommand p n with
      | error e => simp [bind, Except.bind]
      | ok s =>
        refine (ih (strict || s)).trans (and_iff_right ?_).symm
        exact ⟨s, rfl⟩

theorem compareCommands_advanced {current ps : List CommandSummary} {strict s : Bool}
    (h : compareCommands current ps strict = .ok s)
    (ha : strict = true ∨ ∃ p ∈ ps, ∃ n, byFence current p.fenceToken = some n ∧ Advanced p n) : s = true := by
  induction ps generalizing strict with
  | nil =>
    cases h
    exact ha.resolve_right fun ⟨p, hp, _⟩ => List.not_mem_nil hp
  | cons p ps ih =>
    rw [compareCommands] at h
    cases hn : byFence current p.fenceToken with
    | none => simp [hn] at h
    | some n =>
      simp only [hn] at h
      obtain ⟨moved, hc, h⟩ := Data.Checks.ok_bind.mp h
      refine ih h ?_
      rcases ha with rfl | ⟨q, hq, n', hn', ha⟩
      · exact .inl rfl
      rcases List.mem_cons.mp hq with rfl | hq
      · rw [hn] at hn'
        cases hn'
        exact .inl (by simp [compareCommand_advanced hc ha])
      · exact .inr ⟨q, hq, n', hn', ha⟩

theorem attestation_proper (b : Book) {g : Int} (hg : 0 ≤ g) : (⟨g, b.attestation H pid⟩ : WitnessRecord).Proper where
  generation := hg
  states c hc := by
    have hc : c ∈ (b.attestation H pid).commands := hc
    rw [attestation_commands] at hc
    obtain ⟨e, -, rfl⟩ := List.mem_map.mp hc
    exact Option.isSome_of_eq_some (stateRank_state e.status)
  count := by simp [Book.attestation, attestationOf]
  committed := Int.ofNat_le.mpr b.committed_le_issued

/-- The attestations of a book and of one grown from it have one digest or compare forward. -/
theorem classify_of_grows (h : b.Grows b')
    (hd : (b'.attestation H pid).journalStateDigest ≠ (b.attestation H pid).journalStateDigest) :
    classifyCurrentAgainstWitness (b.attestation H pid) (b'.attestation H pid) = .ok () := by
  have h1 : (b.attestation H pid).highestIssuedFence ≤ (b'.attestation H pid).highestIssuedFence :=
    Int.ofNat_le.mpr h.issued_le
  have h2 : (b.attestation H pid).highestCommittedFence ≤ (b'.attestation H pid).highestCommittedFence :=
    Int.ofNat_le.mpr h.committed_le
  have h3 : (b.attestation H pid).commandCount ≤ (b'.attestation H pid).commandCount := by
    have := h.issued_le
    simpa [Book.attestation, attestationOf, Book.issued] using this
  have h4 : (b.attestation H pid).committedCount ≤ (b'.attestation H pid).committedCount := by
    rw [attestation_committedCount, attestation_committedCount]
    exact Int.ofNat_le.mpr h.committedEntries_le
  have hfound : ∀ p ∈ (b.attestation H pid).commands,
      ∃ n, byFence (b'.attestation H pid).commands p.fenceToken = some n ∧ Forward p n := by
    intro p hp
    rw [attestation_commands] at hp ⊢
    obtain ⟨e, he, rfl⟩ := List.mem_map.mp hp
    obtain ⟨e', he', hg⟩ := h.mem he
    have hf : (e.summary H).fenceToken = e'.fence := by
      simp [Entry.summary, summaryOf, Entry.record, Entry.fence, hg.command]
    exact ⟨_, hf ▸ byFence_of_mem he', forward_of_grows hg⟩
  have hnew : ¬ ∃ item ∈ (b'.attestation H pid).commands, (b.attestation H pid).Unknown item := by
    rintro ⟨item, hitem, hnot, hle⟩
    rw [attestation_commands] at hitem hnot
    obtain ⟨e', he', rfl⟩ := List.mem_map.mp hitem
    obtain ⟨e, he, hf⟩ := Book.entry_of_fence (Book.fence_mem he').1 (Int.ofNat_le.mp hle)
    apply hnot
    refine List.mem_map.mpr ⟨_, List.mem_map_of_mem he, ?_⟩
    exact congrArg Nat.cast hf
  obtain ⟨strict, hstrict⟩ :=
    (compareCommands_ok (decide ((b.attestation H pid).Behind (b'.attestation H pid)))).mpr hfound
  have hprogress : strict = true := by
    refine compareCommands_advanced hstrict ?_
    rcases h.eq_or_advanced with heq | hlt | ⟨e, he, e', he', hg, hr⟩
    · exact absurd (by rw [heq]) hd
    · exact .inl (decide_eq_true (.inl (Int.ofNat_lt.mpr hlt)))
    · rw [attestation_commands, attestation_commands]
      have hf : (e.summary H).fenceToken = e'.fence := by
        simp [Entry.summary, summaryOf, Entry.record, Entry.fence, hg.command]
      exact .inr ⟨_, List.mem_map_of_mem he, _, hf ▸ byFence_of_mem he',
        _, _, stateRank_state e.status, stateRank_state e'.status, hr⟩
  unfold classifyCurrentAgainstWitness
  rw [if_neg (by unfold Attestation.Behind; omega), hstrict]
  simp only [bind, Except.bind, hprogress, if_neg hnew, if_neg hd, if_true]

/-- What compares forward holds every witnessed command, no less far along. -/
theorem forward_of_classify {witnessed current : Attestation}
    (h : classifyCurrentAgainstWitness witnessed current = .ok ()) :
    ∀ p ∈ witnessed.commands, ∃ n ∈ current.commands, Forward p n := by
  unfold classifyCurrentAgainstWitness at h
  split at h
  · cases h
  intro p hp
  cases hc : compareCommands current.commands witnessed.commands
      (decide (witnessed.Behind current)) with
  | error e =>
    rw [hc] at h
    cases h
  | ok s =>
    obtain ⟨n, hn, hf⟩ := (compareCommands_ok _).mp ⟨s, hc⟩ p hp
    exact ⟨n, byFence_mem hn, hf⟩

theorem summary_payload_injective : Function.Injective CommandSummary.payload := by
  intro s s' h
  simp only [CommandSummary.payload, Json.obj_cons, Json.field.injEq, Json.str.injEq, Json.int.injEq, true_and] at h
  obtain ⟨h1, h2, h3, h4, h5, -⟩ := h
  have h1 : s.anchorFingerprintAfter = s'.anchorFingerprintAfter :=
    Json.opt_injective (fun _ _ h => Json.str.inj h) (fun _ h => by cases h) h1
  cases s
  cases s'
  simp_all

/-- Equal digests are those of equal commands. -/
theorem commands_of_digest (hsha : Function.Injective H.sha256)
    (h : (b'.attestation H pid).journalStateDigest = (b.attestation H pid).journalStateDigest) :
    (b'.attestation H pid).commands = (b.attestation H pid).commands := by
  have h := hsha h
  simp only [Json.obj_cons, Json.field.injEq, true_and, Json.arr_inj] at h
  exact summary_payload_injective.list_map h.1

theorem Forward.refl : Forward (e.summary H) (e.summary H) := forward_of_grows (.refl e)

/-- When no two texts share a digest, a command that compares forward is the same, further along. -/
theorem grows_of_forward (hsha : Function.Injective H.sha256) (h : Forward (e.summary H) (e'.summary H)) :
    e.Grows e' := by
  have hid := hsha h.identity
  simp only [Entry.record, Json.obj_cons, Json.field.injEq, Json.str.injEq, Json.int.injEq, true_and] at hid
  obtain ⟨-, h1, h2, h3, h4, h5, h6, h7, -⟩ := hid
  refine ⟨Command.ext h1 (Operation.value_injective h4) (Int.ofNat.inj h3) h2 h7, hsha h5, h6, ?_⟩
  obtain ⟨i, j, hi, hj, hle⟩ := h.rank
  have hi : e.status.rank = i := Option.some.inj ((stateRank_state e.status).symm.trans hi)
  have hj : e'.status.rank = j := Option.some.inj ((stateRank_state e'.status).symm.trans hj)
  by_cases hlt : e.status.rank < e'.status.rank
  · exact .inr hlt
  have heq : e.status.rank = e'.status.rank := by omega
  left
  have hstate : e'.status.state = e.status.state := by
    clear hi hj hlt hle h
    cases hs : e.status <;> cases hs' : e'.status <;> simp_all [Status.rank, Status.state]
  refine Status.eq_of_state_anchor hstate ?_
  by_cases hc : e.status.state = .committed
  · exact (h.committed (congrArg JournalState.value hc)).2
  · rw [Status.anchor_of_not_committed hc, Status.anchor_of_not_committed (hstate ▸ hc)]

end Attestations

namespace Witnessed

variable {π : Type} (H : Hashing) (key : String) (P : Provider π) (witnessKey : String)

/-! ## One call by itself -/

/-- The file is the record of the attestation of `b`, signed. -/
def Attests (b : Book) (w : Watched π) : Prop :=
  ∃ g, 0 ≤ g ∧ w.witness = some (witnessText H witnessKey ⟨g, b.attestation H P.face.providerId⟩)

variable {H key P witnessKey} {b : Book} {w : Watched π}

theorem read_attests (h : Attests H P witnessKey b w) :
    ∃ g, 0 ≤ g ∧ readWitness H witnessKey w.witness = .ok ⟨g, b.attestation H P.face.providerId⟩ := by
  obtain ⟨g, hg, hw⟩ := h
  exact ⟨g, hg, by rw [hw, readWitness_witnessText H witnessKey (attestation_proper b hg)]⟩

theorem run_lift (p : Prog Label (World π) Error α) (w : Watched π) :
    (lift p).run w = ((p.run w.inner).1.mapError .lifecycle, { w with inner := (p.run w.inner).2 }) := by
  rw [lift, run_mapError, run_zoom]
  rfl

theorem run_verifyStore {w : World π} (hb : w.journal = b.encode H key) :
    (Coordinator.verifyStore H key).run w = (.ok (), w) := by
  unfold Coordinator.verifyStore
  rw [run_bind_ok (by rw [run_query, hb, Book.readMeta_encode]), run_query, hb, Book.verifyRows_encode]

theorem rows_encode (b : Book) :
    (b.encode H key).rowsByFence.mapM (rowToRecord H key) = .ok (b.entries.map Entry.record) := by
  rw [Book.rowsByFence_encode]
  exact Book.mapM_rowToRecord H key b.entries

theorem run_journalAttestation (hb : w.inner.journal = b.encode H key) :
    (journalAttestation H key P).run w = (.ok (b.attestation H P.face.providerId), w) := by
  unfold journalAttestation
  rw [run_bind_ok (by rw [run_lift, run_verifyStore hb]; rfl),
    run_bind_ok (by rw [run_query, hb, Book.readMeta_encode]; rfl),
    run_bind_ok (by rw [run_query, hb, rows_encode]; rfl)]
  rfl

theorem run_verifyOrAdvance {r : WitnessRecord} (hb : w.inner.journal = b.encode H key)
    (hr : readWitness H witnessKey w.witness = .ok r) :
    (verifyOrAdvanceWitness H key P witnessKey).run w =
      if (b.attestation H P.face.providerId).journalStateDigest = r.attestation.journalStateDigest then (.ok (), w)
      else match classifyCurrentAgainstWitness r.attestation (b.attestation H P.face.providerId) with
        | .ok _ => (.ok (), w.withWitness (witnessText H witnessKey
            ⟨r.witnessGeneration + 1, b.attestation H P.face.providerId⟩))
        | .error reason => (.error (.witness reason none), w) := by
  unfold verifyOrAdvanceWitness
  rw [run_bind_ok (by rw [run_query, hr]; rfl), run_bind_ok (run_journalAttestation hb)]
  split
  · rfl
  · cases hc : classifyCurrentAgainstWitness r.attestation (b.attestation H P.face.providerId) with
    | ok u => rfl
    | error reason => rfl

theorem run_openOrCreate_found {text : Json} (hw : w.witness = some text)
    (hkey : w.witnessKey = some witnessKey) (hlen : witnessKey.length = 32) :
    (openOrCreateWitness H key P witnessKey).run w = (.ok witnessKey, w) := by
  unfold openOrCreateWitness
  rw [run_bind_ok (run_read ..), run_bind_ok (run_read ..), hw, hkey]
  simp [run_bind, run_raiseIf, hlen]

theorem run_openOrCreate_new (hb : w.inner.journal = b.encode H key) (hb0 : b.issued = 0)
    (hw : w.witness = none) (hkey : w.witnessKey = none) :
    (openOrCreateWitness H key P witnessKey).run w = (.ok witnessKey,
      { w with witness := some (witnessText H witnessKey ⟨0, b.attestation H P.face.providerId⟩)
               witnessKey := some witnessKey }) := by
  unfold openOrCreateWitness
  rw [run_bind_ok (run_read ..), run_bind_ok (run_read ..), hw, hkey]
  have hissued : ¬ (b.encode H key).journalMeta.highestIssuedFence > 0 := by simp [Book.encode, hb0]
  dsimp only [Option.isSome]
  rw [if_neg (by simp)]
  have hmeta : (journalMeta H key).run w = (.ok (b.encode H key).journalMeta, w) := by
    rw [journalMeta, run_query, hb, Book.readMeta_encode]
    rfl
  rw [run_bind_ok hmeta, run_bind_ok (by rw [run_raiseIf, if_neg hissued]), run_bind_ok (run_modify ..),
    run_bind_ok (run_journalAttestation (b := b) (w := { w with witnessKey := some witnessKey }) hb)]
  rfl

theorem run_reopenJournal {w : World π} (hb : w.journal = b.encode H key) :
    (Coordinator.reopen H key).run w = (.ok (), { w with journal := b.recoverStarted.encode H key }) := by
  unfold Coordinator.reopen
  rw [run_bind_ok (run_verifyStore hb), run_atomic]
  simp only [answer, commit, hb, (Book.recoverStartedCommands_encode H key b).1]
  rfl

/-! ## Every run -/

/-- What the constructor leaves when it first returns. -/
def firstWitnessed (H : Hashing) (P : Provider π) (witnessKey : String) (w : Watched π) : Watched π :=
  { w with witness := some (witnessText H witnessKey ⟨0, Book.empty.attestation H P.face.providerId⟩)
           witnessKey := some witnessKey }

theorem run_openWitness_new (hfresh : Coordinator.Fresh H key w.inner) (hw : w.witness = none) (hkey : w.witnessKey = none) :
    (openWitness H key P witnessKey).run w = (.ok (), firstWitnessed H P witnessKey w) := by
  have hb : w.inner.journal = Book.empty.encode H key := hfresh.1.trans (Book.create_eq H key)
  have hproper : (⟨0, Book.empty.attestation H P.face.providerId⟩ : WitnessRecord).Proper :=
    attestation_proper Book.empty (Int.le_refl 0)
  have hverify := run_verifyOrAdvance (P := P) (w := firstWitnessed H P witnessKey w) hb
    (readWitness_witnessText H witnessKey hproper)
  unfold openWitness
  rw [run_bind_ok (run_openOrCreate_new hb rfl hw hkey)]
  exact hverify.trans (if_pos rfl)

theorem created_attests (h : Created H key P witnessKey w) :
    Coordinator.Fresh H key w.inner ∧ w.witnessKey = some witnessKey ∧ Attests H P witnessKey Book.empty w := by
  obtain ⟨-, w0, hfresh, hw, hkey, hrun⟩ := h
  rw [run_openWitness_new hfresh hw hkey] at hrun
  obtain ⟨-, rfl⟩ := Prod.mk.inj hrun
  exact ⟨hfresh, rfl, 0, Int.le_refl 0, rfl⟩

variable (H key P witnessKey)

/-- The journal is a book, and the witness attests one it has grown from. -/
structure Kept (w : Watched π) : Prop where
  inner : (Coordinator.soloRegime H key P).contract.inv w.inner
  length : witnessKey.length = 32
  keyFile : w.witnessKey = some witnessKey
  grown : ∃ b b1 : Book, w.inner.journal = b.encode H key ∧ b1.Grows b ∧ Attests H P witnessKey b1 w

def contract : Contract (Watched π) := .alone (Kept H key P witnessKey) (fun _ _ => True) fun _ _ => trivial

variable {H key P witnessKey}

variable {me : Nat} {w : Watched π}

/-- A call of the journal's coordinator leaves the witness alone. -/
theorem lift_safe {p : Prog Label (World π) Error α} {post : Except Error α → World π → Prop}
    (hi : (contract H key P witnessKey).inv w)
    (h : Safe (Coordinator.soloRegime H key P).ok (Coordinator.soloRegime H key P).contract me post p w.inner) :
    Safe (fun _ _ => True) (contract H key P witnessKey) me
      (fun r w' => (∃ r0, r = r0.mapError .lifecycle ∧ post r0 w'.inner) ∧ w'.witness = w.witness) (lift p) w := by
  have hzoom : Safe (fun _ _ => True) (contract H key P witnessKey) me _ _ w := Safe.zoom (L := innerLens)
    (J := fun s => s.witness = w.witness) (fun s hs _ => hs.inner)
    (fun s s' _ hj hr => by
      rw [show s' = s from hr]
      exact ⟨hj, rfl⟩)
    (fun _ _ _ => trivial)
    (fun s a hs hj ha hg => by
      obtain ⟨b, b1, hb, hgrow, hattests⟩ := hs.grown
      obtain ⟨b', hb', hg'⟩ := (hg.1 (me + 1) (Nat.succ_ne_self me)).grows b hb
      exact ⟨⟨ha, hs.length, hs.keyFile, b', b1, hb', hgrow.trans hg', hattests⟩, trivial, hj⟩)
    rfl h
  exact Safe.mapError hi (hzoom.mono hi fun r w' _ h => ⟨⟨r, rfl, h.1⟩, h.2⟩)

theorem journalAttestation_safe (hi : (contract H key P witnessKey).inv w) :
    Safe (fun _ _ => True) (contract H key P witnessKey) me
      (fun r w' => ∃ b : Book, w'.inner.journal = b.encode H key ∧ r = .ok (b.attestation H P.face.providerId) ∧
        w'.witness = w.witness) (journalAttestation H key P) w := by
  unfold journalAttestation
  refine Safe.bind hi (lift_safe hi Coordinator.Regime.verifyStore_safe) (fun _ w1 _ ⟨_, h1⟩ => ?_)
    fun e w1 _ ⟨⟨r0, hr0, hok⟩, _⟩ => by rw [hok trivial] at hr0; cases hr0
  have hmeta : ∀ (x : Watched π) (b : Book), x.inner.journal = b.encode H key →
      (x.inner.journal.readMeta H key).mapError readError = .ok (b.encode H key).journalMeta := by
    intro x b hb
    rw [hb, Book.readMeta_encode]
    rfl
  have hrows : ∀ (x : Watched π) (b : Book), x.inner.journal = b.encode H key →
      (x.inner.journal.rowsByFence.mapM (rowToRecord H key)).mapError readError = .ok (b.entries.map Entry.record) := by
    intro x b hb
    rw [hb, rows_encode]
    rfl
  refine Safe.query_bind (fun e w2 hi2 _ _ he => ?_) fun m w2 hi2 hr2 _ hm => ?_
  · obtain ⟨b, -, hb, -⟩ := hi2.grown
    rw [hmeta w2 b hb] at he
    cases he
  obtain ⟨b, -, hb, -⟩ := hi2.grown
  rw [hmeta w2 b hb] at hm
  cases hm
  refine Safe.query_bind (fun e w3 _ hr3 _ he => ?_) fun records w3 _ hr3 _ hrec => ?_
  · rw [show w3 = w2 from hr3, hrows w2 b hb] at he
    cases he
  · rw [show w3 = w2 from hr3] at hrec ⊢
    rw [hrows w2 b hb] at hrec
    cases hrec
    exact ⟨b, hb, rfl, by rw [show w2 = w1 from hr2, h1]⟩

/-- With nothing else running the witness is always verified or advanced. -/
theorem verifyOrAdvance_safe : Safe (fun _ _ => True) (contract H key P witnessKey) me (fun r _ => r = .ok ())
      (verifyOrAdvanceWitness H key P witnessKey) w := by
  unfold verifyOrAdvanceWitness
  have hread : ∀ x, (contract H key P witnessKey).inv x → ∃ (b b1 : Book) (g : Int), x.inner.journal = b.encode H key ∧
      b1.Grows b ∧ 0 ≤ g ∧ readWitness H witnessKey x.witness = .ok ⟨g, b1.attestation H P.face.providerId⟩ := by
    intro x hx
    obtain ⟨b, b1, hb, hg, hattests⟩ := hx.grown
    obtain ⟨g, hg0, hr⟩ := read_attests hattests
    exact ⟨b, b1, g, hb, hg, hg0, hr⟩
  refine Safe.query_bind (fun e w1 hi1 _ _ he => ?_) fun record w1 hi1 _ _ hrecord => ?_
  · obtain ⟨_, _, _, _, _, _, hr⟩ := hread w1 hi1
    simp [raised, hr, Except.mapError] at he
  have hrecord : readWitness H witnessKey w1.witness = .ok record := by
    unfold raised at hrecord
    cases hr : readWitness H witnessKey w1.witness with
    | error e => rw [hr] at hrecord; cases hrecord
    | ok r => rw [hr] at hrecord; cases hrecord; rfl
  refine Safe.bind hi1 (journalAttestation_safe hi1) (fun current w2 hi2 ⟨b, hb, hcurrent, hw⟩ => ?_)
    fun e w2 _ ⟨_, _, h, _⟩ => by cases h
  cases hcurrent
  -- the file has not changed since it was read, so it attests a book the current one has grown from
  obtain ⟨b', b1, g, hb', hgrow, hg, hr⟩ := hread w2 hi2
  rw [hw, hrecord] at hr
  cases hr
  rw [Book.encode_injective H key (hb'.symm.trans hb)] at hgrow
  split
  · rfl
  · rename_i hd
    refine Safe.ofResult_bind (fun e he => ?_) fun _ _ => ?_
    · rw [classify_of_grows hgrow hd] at he
      cases he
    · intro w3 hi3 hr3 _
      rw [show w3 = w2 from hr3]
      refine ⟨⟨hi2.inner, hi2.length, hi2.keyFile, b, b, hb, .refl b, g + 1, by omega, rfl⟩, trivial, rfl⟩

theorem openWitness_safe (hi : (contract H key P witnessKey).inv w) :
    Safe (fun _ _ => True) (contract H key P witnessKey) me (fun r _ => r = .ok ()) (openWitness H key P witnessKey) w := by
  unfold openWitness openOrCreateWitness
  refine Safe.bind (M := fun r _ => r = .ok witnessKey) hi ?_ (fun found w1 hi1 h => ?_) fun e _ _ h => by cases h
  · refine Safe.read_bind fun w1 hi1 _ _ => Safe.read_bind fun w2 hi2 hr2 _ => ?_
    obtain ⟨b, b1, -, -, g, -, hw⟩ := hi1.grown
    rw [hi2.keyFile, hw]
    dsimp only [Option.isSome]
    rw [if_neg (by simp)]
    exact Safe.raiseIf_bind (fun hne => absurd hi2.length hne) fun _ => rfl
  · cases h
    exact verifyOrAdvance_safe

/-- What is promised of a call's result. -/
def Post (call : Call) (r : Except WitnessedError Answer) (_ : Watched π) : Prop :=
  ∀ fault, call = .journal .reopen fault → r = .ok (.journal .done)

theorem reopen_safe (hi : (contract H key P witnessKey).inv w) :
    Safe (fun _ _ => True) (contract H key P witnessKey) me (fun r _ => r = .ok ()) (reopen H key P witnessKey) w := by
  unfold reopen
  refine Safe.bind hi (lift_safe hi (Coordinator.Regime.reopen_safe hi.inner)) (fun _ w1 hi1 _ => openWitness_safe hi1)
    fun e w1 _ ⟨⟨r0, hr0, hok⟩, _⟩ => by rw [hok trivial] at hr0; cases hr0

theorem journalBody_safe (call : Coordinator.Call) (hi : (contract H key P witnessKey).inv w) :
    Safe (fun _ _ => True) (contract H key P witnessKey) me (fun _ _ => True)
      (lift (Coordinator.journalBody H key P me call)) w := by
  have hbody : Safe (Coordinator.soloRegime H key P).ok (Coordinator.soloRegime H key P).contract me
      (Coordinator.Regime.Post (Coordinator.soloRegime H key P) call) (Coordinator.journalBody H key P me call) w.inner :=
    Coordinator.Regime.body_safe call
      (fun _ _ _ _ _ _ _ h => Coordinator.Regime.proveCommit_safe (fun _ _ _ _ _ _ _ => trivial) h) hi.inner
  exact (lift_safe hi hbody).mono hi fun _ _ _ _ => trivial

variable {post : Except WitnessedError Answer → Watched π → Prop}

theorem guarded_safe (call : Coordinator.Call) (fault : WitnessFault) (hi : (contract H key P witnessKey).inv w)
    (hpost : ∀ r w', post r w') :
    Safe (fun _ _ => True) (contract H key P witnessKey) me post (do
      verifyOrAdvanceWitness H key P witnessKey
      let answer ← lift (Coordinator.journalBody H key P me call)
      syncAfterJournalMutation H key P witnessKey fault
      pure (.journal answer)) w := by
  refine Safe.bind hi verifyOrAdvance_safe (fun _ w1 hi1 _ => ?_) fun _ _ _ _ => hpost _ _
  refine Safe.bind hi1 (journalBody_safe call hi1) (fun answer w2 hi2 _ => ?_) fun _ _ _ _ => hpost _ _
  refine Safe.bind hi2 (M := fun _ _ => True) ?_ (fun _ _ _ _ => hpost _ _) fun _ _ _ _ => hpost _ _
  exact Safe.raiseIf_bind (fun _ => trivial) fun _ => verifyOrAdvance_safe.mono hi2 fun _ _ _ _ => trivial

theorem publicPosture_safe (hi : (contract H key P witnessKey).inv w) (hpost : ∀ r w', post r w') :
    Safe (fun _ _ => True) (contract H key P witnessKey) me post (publicPosture H key P witnessKey) w := by
  unfold publicPosture journalMeta
  refine Safe.bind hi verifyOrAdvance_safe (fun _ w1 hi1 _ => ?_) fun _ _ _ _ => hpost _ _
  refine Safe.query_bind (fun _ _ _ _ _ _ => hpost _ _) fun _ _ _ _ _ _ => ?_
  refine Safe.query_bind (fun _ _ _ _ _ _ => hpost _ _) fun _ _ _ _ _ _ => ?_
  refine Safe.query_bind (fun _ _ _ _ _ _ => hpost _ _) fun _ _ _ _ _ _ => ?_
  refine Safe.query_bind (fun _ _ _ _ _ _ => hpost _ _) fun _ _ _ _ _ _ => ?_
  exact Safe.read_bind fun _ _ _ _ => hpost _ _

theorem body_safe (call : Call) (hi : (contract H key P witnessKey).inv w) :
    Safe (fun _ _ => True) (contract H key P witnessKey) me (Post call) (body H key P witnessKey me call) w := by
  cases call with
  | publicPosture => exact publicPosture_safe hi fun _ _ _ h => by cases h
  | journal call fault =>
    cases call with
    | reopen =>
      refine Safe.bind hi (reopen_safe hi) (fun _ _ _ _ _ _ => rfl) fun _ _ _ h => by cases h
    | external change =>
      refine Safe.bind hi (journalBody_safe (.external change) hi) (fun _ _ _ _ _ h => by cases h)
        fun _ _ _ _ _ h => by cases h
    | issue i o r => exact guarded_safe (.issue i o r) fault hi fun _ _ _ h => by cases h
    | execute c a bh pf f => exact guarded_safe (.execute c a bh pf f) fault hi fun _ _ _ h => by cases h
    | reconcile c a bh pf => exact guarded_safe (.reconcile c a bh pf) fault hi fun _ _ _ h => by cases h

theorem witnessedSystem_meets : (witnessedSystem H key P witnessKey).Meets (contract H key P witnessKey) Post where
  init w hw := by
    obtain ⟨hfresh, hkey, hattests⟩ := created_attests hw
    exact ⟨⟨⟨_, Coordinator.Regime.keeps_fresh hfresh⟩, trivial⟩, hw.1, hkey, Book.empty, Book.empty,
      hfresh.1.trans (Book.create_eq H key), .refl _, hattests⟩
  body _ call _ _ hi := body_safe call hi
  apart := .inl fun _ _ h => h
  stable _ _ _ _ _ _ _ _ h := h

/-! ## Opening an older journal -/

end Witnessed

/-- `r0` is the command of `r1`, no less far along, and the same row when `r1` is committed. -/
structure JournalRow.AtLeast (r0 r1 : JournalRow) : Prop where
  commandId : r0.commandId = r1.commandId
  operation : r0.operation = r1.operation
  fenceToken : r0.fenceToken = r1.fenceToken
  expectedAnchorFingerprint : r0.expectedAnchorFingerprint = r1.expectedAnchorFingerprint
  resourceId : r0.resourceId = r1.resourceId
  commandDigest : r0.commandDigest = r1.commandDigest
  preObservationJson : r0.preObservationJson = r1.preObservationJson
  providerId : r0.providerId = r1.providerId
  state : ∃ i j, stateRank r1.state = some i ∧ stateRank r0.state = some j ∧ i ≤ j
  committed : r1.state = JournalState.committed.value → r0 = r1

/-- Every command of `j1` is in `j0`, no less far along. -/
def Journal.AtLeast (j0 j1 : Journal) : Prop :=
  ∀ r1 ∈ j1.lifecycleCommands, ∃ r0 ∈ j0.lifecycleCommands, r0.AtLeast r1

theorem atLeast_of_grows {H : Hashing} {key : String} {e e' : Entry} (h : e.Grows e') :
    (e'.row H key).AtLeast (e.row H key) where
  commandId := by simp [Entry.row, h.command]
  operation := by simp [Entry.row, h.command]
  fenceToken := by simp [Entry.row, h.command]
  expectedAnchorFingerprint := by simp [Entry.row, h.command]
  resourceId := by simp [Entry.row, h.command]
  commandDigest := by simp [Entry.row, h.command]
  preObservationJson := h.preObservation
  providerId := h.providerId
  state := ⟨_, _, stateRank_state e.status, stateRank_state e'.status, h.rank_le⟩
  committed hc := by rw [h.of_committed (JournalState.value_injective hc)]

/-- A book whose attestation matches the one of `b1`, or compares forward with it, holds the commands of `b1`. -/
theorem atLeast_of_accepted {H : Hashing} {key pid : String} (hsha : Function.Injective H.sha256) {b b1 : Book}
    (h : (b.attestation H pid).journalStateDigest = (b1.attestation H pid).journalStateDigest ∨
      classifyCurrentAgainstWitness (b1.attestation H pid) (b.attestation H pid) = .ok ()) :
    (b.encode H key).AtLeast (b1.encode H key) := by
  intro r1 hr1
  obtain ⟨e, he, rfl⟩ := List.mem_map.mp hr1
  have hmem : e.summary H ∈ (b1.attestation H pid).commands := by
    rw [attestation_commands]
    exact List.mem_map_of_mem he
  have hfound : ∃ n ∈ (b.attestation H pid).commands, Forward (e.summary H) n := by
    rcases h with h | h
    · exact ⟨_, by rw [commands_of_digest hsha h]; exact hmem, .refl⟩
    · exact forward_of_classify h _ hmem
  obtain ⟨n, hn, hf⟩ := hfound
  rw [attestation_commands] at hn
  obtain ⟨e', he', rfl⟩ := List.mem_map.mp hn
  exact ⟨_, List.mem_map_of_mem he', atLeast_of_grows (grows_of_forward hsha hf)⟩

namespace Witnessed

variable {π : Type} {H : Hashing} {key : String} {P : Provider π} {witnessKey : String} {w opened : Watched π}

/-- What it takes to open the journal of `b` against a witness taken of `b1`. -/
theorem opened_journal {b b1 : Book} {g : Nat} (hb : w.inner.journal = b.encode H key)
    (hw : w.witness = some (witnessText H witnessKey ⟨g, b1.attestation H P.face.providerId⟩))
    (hkey : w.witnessKey = some witnessKey) (hlen : witnessKey.length = 32)
    (hrun : (reopen H key P witnessKey).run w = (.ok (), opened)) :
    opened.inner.journal = b.recoverStarted.encode H key ∧
      ((b.recoverStarted.attestation H P.face.providerId).journalStateDigest
          = (b1.attestation H P.face.providerId).journalStateDigest ∨
        classifyCurrentAgainstWitness (b1.attestation H P.face.providerId)
          (b.recoverStarted.attestation H P.face.providerId) = .ok ()) := by
  obtain ⟨g', -, hr⟩ := read_attests (b := b1) (P := P) ⟨g, Int.natCast_nonneg g, hw⟩
  obtain ⟨v, hv, hrecover⟩ : ∃ v : World π, v.journal = b.recoverStarted.encode H key ∧
      (lift (Coordinator.reopen H key)).run w = (.ok (), w.withInner v) := by
    refine ⟨{ w.inner with journal := b.recoverStarted.encode H key }, rfl, ?_⟩
    rw [run_lift, run_reopenJournal hb]
    rfl
  unfold reopen openWitness at hrun
  rw [run_bind_ok hrecover, run_bind_ok (run_openOrCreate_found (w := w.withInner v) hw hkey hlen),
    run_verifyOrAdvance (w := w.withInner v) hv hr] at hrun
  split at hrun
  · rename_i hd
    obtain ⟨-, rfl⟩ := Prod.mk.inj hrun
    exact ⟨hv, .inl hd⟩
  · split at hrun
    · rename_i hc
      obtain ⟨-, rfl⟩ := Prod.mk.inj hrun
      exact ⟨hv, .inr hc⟩
    · cases hrun

/-- A journal opens against a witness taken of itself. -/
theorem opens_against_own (hi : (contract H key P witnessKey).inv w) (g : Nat) :
    ∃ attestation opened, ((journalAttestation H key P).run w).1 = .ok attestation ∧
      (reopen H key P witnessKey).run (w.withWitness (witnessText H witnessKey ⟨g, attestation⟩)) = (.ok (), opened) := by
  obtain ⟨b, -, hb, -⟩ := hi.grown
  have hagain : (contract H key P witnessKey).inv
      (w.withWitness (witnessText H witnessKey ⟨g, b.attestation H P.face.providerId⟩)) :=
    ⟨hi.inner, hi.length, hi.keyFile, b, b, hb, .refl b, g, Int.natCast_nonneg g, rfl⟩
  have hsafe : Safe (fun _ _ => True) (contract H key P witnessKey) 0 _ (reopen H key P witnessKey) _ := reopen_safe hagain
  exact ⟨_, _, congrArg Prod.fst (run_journalAttestation hb), Prod.ext (Safe.run (fun _ _ => trivial) hagain hsafe).2 rfl⟩

/-- Opening the current journal succeeds in every run; and a journal of one run that opens, after
    the recovery of its started commands, against a witness taken of a journal of any run holds
    every command of that journal, no less far along and with the same receipts. -/
theorem witness_complete_and_sound (hsha : Function.Injective H.sha256)
    {c : Conf Call Label (Watched π) WitnessedError Answer} (hc : (witnessedSystem H key P witnessKey).Reach c) :
    (∀ (i : Nat) (fault : WitnessFault) r, c.clients[i]? = some (.returned (.journal .reopen fault) r) →
      r = .ok (.journal .done)) ∧
    ((reopen H key P witnessKey).run c.st).1 = .ok () ∧
    ∀ (c1 : Conf Call Label (Watched π) WitnessedError Answer) (attestation : Attestation) (generation : Nat),
      (witnessedSystem H key P witnessKey).Reach c1 →
      ((journalAttestation H key P).run c1.st).1 = .ok attestation →
      ∀ opened, (reopen H key P witnessKey).run
          (c.st.withWitness (witnessText H witnessKey ⟨generation, attestation⟩)) = (.ok (), opened) →
        opened.inner.journal.AtLeast c1.st.inner.journal := by
  have hm := @witnessedSystem_meets π H key P witnessKey
  have hi := hm.inv hc
  refine ⟨fun i fault r hr => hm.returned hc hr fault rfl, ?_, ?_⟩
  · have hsafe : Safe (fun _ _ => True) (contract H key P witnessKey) 0 _ (reopen H key P witnessKey) c.st := reopen_safe hi
    exact (Safe.run (fun _ _ => trivial) hi hsafe).2
  intro c1 attestation generation hc1 hattestation opened hopened
  obtain ⟨b, -, hb, -⟩ := hi.grown
  obtain ⟨b1, -, hb1, -⟩ := (hm.inv hc1).grown
  rw [run_journalAttestation hb1] at hattestation
  cases hattestation
  obtain ⟨hjournal, haccepted⟩ := opened_journal (w := c.st.withWitness _) hb rfl hi.keyFile hi.length hopened
  rw [hjournal, hb1]
  exact atLeast_of_accepted hsha haccepted

/-- A call that crashed between the journal and the witness. -/
theorem run_guarded_crash {call : Coordinator.Call} {answer : Lifecycle.Answer} {v : World π} {me : Nat}
    (hverify : (verifyOrAdvanceWitness H key P witnessKey).run w = (.ok (), w))
    (hcall : (Coordinator.journalBody H key P me call).run w.inner = (.ok answer, v)) :
    (do verifyOrAdvanceWitness H key P witnessKey
        let answer ← lift (Coordinator.journalBody H key P me call)
        syncAfterJournalMutation H key P witnessKey .afterJournalBeforeWitness
        pure (Answer.journal answer)).run w =
      (.error (.witness .syntheticCrash (some .afterJournalBeforeWitness)), { w with inner := v }) := by
  rw [run_bind_ok hverify, run_bind_ok (by rw [run_lift, hcall]; rfl)]
  rfl

/-! ## A stale witness

The first command is issued and the coordinator crashes before it brings the witness up to date. -/

namespace Sample

def fileKey : String := "0123456789abcdef0123456789abcdef"

def provider : Provider Plain := plainProvider Lifecycle.Sample.face

def nothing : Watched Plain :=
  ⟨⟨Journal.create Hashing.coded "key", ⟨Lifecycle.Sample.live, [], []⟩, [], []⟩, none, none⟩

def world : Watched Plain := firstWitnessed Hashing.coded provider fileKey nothing

def issueFirst : Coordinator.Call := .issue "first" .snapshot "resource"

/-- What the journal's coordinator leaves. -/
def issued : World Plain :=
  ((Coordinator.journalBody Hashing.coded "key" provider 0 issueFirst).run world.inner).2

abbrev system : System Call Label (Watched Plain) WitnessedError Answer :=
  witnessedSystem Hashing.coded "key" provider fileKey

theorem created : system.init world :=
  ⟨by decide, nothing, ⟨rfl, rfl, rfl⟩, rfl, rfl, run_openWitness_new ⟨rfl, rfl, rfl⟩ rfl rfl⟩

theorem issued_fence : issued.journal.journalMeta.highestIssuedFence = 1 := by decide +kernel

/-- The first witness taken after the one of an empty journal. -/
def taken (attestation : Attestation) : Json := witnessText Hashing.coded fileKey ⟨(1 : Nat), attestation⟩

def crashing : Call := .journal issueFirst .afterJournalBeforeWitness

def issuedConf : Conf Call Label (Watched Plain) WitnessedError Answer :=
  ⟨{ world with inner := issued }, [.returned crashing (.error (.witness .syntheticCrash (some .afterJournalBeforeWitness)))]⟩

theorem run_verify_world :
    (verifyOrAdvanceWitness Hashing.coded "key" provider fileKey).run world = (.ok (), world) := by
  obtain ⟨g, -, hr⟩ := read_attests (created_attests created).2.2
  rw [run_verifyOrAdvance (b := Book.empty) (Book.create_eq _ _) hr, if_pos rfl]

theorem run_issueFirst : ∃ answer,
    (Coordinator.journalBody Hashing.coded "key" provider 0 issueFirst).run world.inner = (.ok answer, issued) := by
  have hok : ((Coordinator.journalBody Hashing.coded "key" provider 0 issueFirst).run world.inner).1.isOk = true := by
    decide +kernel
  rcases hrun : (Coordinator.journalBody Hashing.coded "key" provider 0 issueFirst).run world.inner with ⟨_ | answer, w⟩
  · rw [hrun] at hok
    cases hok
  · exact ⟨answer, by rw [issued, hrun]⟩

theorem issued_reach : system.Reach issuedConf := by
  obtain ⟨answer, hissue⟩ := run_issueFirst
  have hrun : (system.body 0 crashing).run world = (.error (.witness .syntheticCrash (some .afterJournalBeforeWitness)),
      { world with inner := issued }) := run_guarded_crash run_verify_world hissue
  have hlater := System.later_call (S := system) (fun _ _ => trivial) (c := ⟨world, []⟩) (k := crashing) rfl
  rw [show (⟨world, []⟩ : Conf Call Label (Watched Plain) WitnessedError Answer).clients.length = 0 from rfl] at hlater
  rw [hrun] at hlater
  exact (System.Reach.init _ created).later hlater

end Sample

/-- The journal with one command opens against the witness taken of it and keeps the command. -/
theorem witness_complete_and_sound_issued :
    ∃ attestation opened, ((journalAttestation Hashing.coded "key" Sample.provider).run Sample.issuedConf.st).1 = .ok attestation ∧
      (reopen Hashing.coded "key" Sample.provider Sample.fileKey).run
        (Sample.issuedConf.st.withWitness (Sample.taken attestation)) = (.ok (), opened) ∧
      opened.inner.journal.AtLeast Sample.issued.journal ∧ Sample.issued.journal.journalMeta.highestIssuedFence = 1 := by
  obtain ⟨-, -, hsound⟩ := witness_complete_and_sound Hashing.coded_injective Sample.issued_reach
  obtain ⟨attestation, opened, h1, h2⟩ := opens_against_own (witnessedSystem_meets.inv Sample.issued_reach) 1
  exact ⟨attestation, opened, h1, h2, hsound _ attestation 1 Sample.issued_reach h1 opened h2, Sample.issued_fence⟩

end Witnessed

end Aegis.Lifecycle
