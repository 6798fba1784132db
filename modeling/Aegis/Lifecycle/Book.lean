/-
  Aegis.Lifecycle.Book — what the journal is for: the commands in the order they were issued,
  each prepared, started, awaiting reconciliation or committed.

  A `Book` cannot be malformed: its commands carry the fences 1, 2, … without gap or repeat
  and no id occurs twice, and a committed command has an anchor. `encode` writes it as the
  journal's tables, and every transaction of the journal whose caller holds the stored record
  is an operation on the book (`setState_encode`, `commitReceipt_encode`,
  `issueCommand_encode`, `recoverStartedCommands_encode`); `Grows` is what all of them do.
-/

import Aegis.Lifecycle.Journal

namespace Aegis.Lifecycle

open Data

inductive Status where
  | prepared | started | reconciling
  | committed (anchorAfter : String) (ok : anchorAfter ≠ "")

namespace Status

def state : Status → JournalState
  | prepared => .prepared
  | started => .providerStarted
  | reconciling => .reconciliationRequired
  | committed _ _ => .committed

def anchor : Status → Option String
  | committed a _ => some a
  | _ => none

def rank : Status → Nat
  | prepared => 0
  | started => 1
  | reconciling => 2
  | committed _ _ => 3

theorem anchor_of_not_committed {s : Status} (h : s.state ≠ .committed) : s.anchor = none := by
  cases s <;> first | rfl | exact absurd rfl h

theorem eq_of_state_anchor {s s' : Status} (h : s.state = s'.state) (ha : s.anchor = s'.anchor) : s = s' := by
  cases s <;> cases s' <;> simp_all [state, anchor]

theorem rank_lt_three {s : Status} : s.rank < 3 ↔ s.state ≠ .committed := by
  cases s <;> simp [rank, state]

end Status

@[ext] structure Entry where
  command : Command
  preObservation : Json
  providerId : String
  status : Status
  pre_ok : preObservation.isObj = true

namespace Entry

def id (e : Entry) : String := e.command.commandId

def fence (e : Entry) : Nat := e.command.fenceToken

def record (e : Entry) : JournalRecord :=
  ⟨e.command, e.status.state, e.preObservation, e.status.anchor, e.providerId⟩

def row (H : Hashing) (key : String) (e : Entry) : JournalRow where
  commandId := e.command.commandId
  operation := e.command.operation.value
  fenceToken := e.command.fenceToken
  expectedAnchorFingerprint := e.command.expectedAnchorFingerprint
  resourceId := e.command.resourceId
  commandDigest := e.command.digest H
  state := e.status.state.value
  preObservationJson := e.preObservation
  anchorFingerprintAfter := e.status.anchor
  providerId := e.providerId
  integrityTag := commandTag H key e.command e.status.state e.preObservation e.status.anchor e.providerId

def withStatus (s : Status) (e : Entry) : Entry := { e with status := s }

theorem withStatus_id {i : String} (s : Status) (e : Entry) (h : e.id = i) : (e.withStatus s).id = i := h

/-- The fence a command has committed, 0 before. -/
def committedFence (e : Entry) : Nat := if e.status.state = .committed then e.fence else 0

theorem rowToRecord_row (H : Hashing) (key : String) (e : Entry) : rowToRecord H key (e.row H key) = .ok e.record := by
  have hanchor : ¬ (e.status.state = .committed ∧ e.status.anchor.getD "" = "") := by
    rintro ⟨hs, ha⟩
    cases hst : e.status with
    | committed a ok => rw [hst] at ha; exact ok ha
    | prepared | started | reconciling => rw [hst] at hs; cases hs
  simp [rowToRecord, row, record, e.pre_ok, hanchor]

theorem row_injective (H : Hashing) (key : String) : Function.Injective (Entry.row H key) := by
  intro e e' h
  simp only [row, JournalRow.mk.injEq] at h
  obtain ⟨h1, h2, h3, h4, h5, -, h7, h8, h9, h10, -⟩ := h
  have hc : e.command = e'.command := Command.ext h1 (Operation.value_injective h2) h3 h4 h5
  exact Entry.ext hc h8 h10 (Status.eq_of_state_anchor (JournalState.value_injective h7) h9)

/-- The same command, further along; a committed one does not change. -/
structure Grows (e e' : Entry) : Prop where
  command : e'.command = e.command
  preObservation : e'.preObservation = e.preObservation
  providerId : e'.providerId = e.providerId
  status : e'.status = e.status ∨ e.status.rank < e'.status.rank

theorem Grows.refl (e : Entry) : e.Grows e := ⟨rfl, rfl, rfl, .inl rfl⟩

theorem Grows.trans {a b c : Entry} (h : a.Grows b) (h' : b.Grows c) : a.Grows c := by
  refine ⟨h'.command.trans h.command, h'.preObservation.trans h.preObservation, h'.providerId.trans h.providerId, ?_⟩
  rcases h.status with h1 | h1 <;> rcases h'.status with h2 | h2
  · exact .inl (h2.trans h1)
  · exact .inr (h1 ▸ h2)
  · exact .inr (h2 ▸ h1)
  · exact .inr (h1.trans h2)

theorem Grows.rank_le {e e' : Entry} (h : e.Grows e') : e.status.rank ≤ e'.status.rank := by
  rcases h.status with h | h
  · rw [h]
  · exact h.le

theorem Grows.of_committed {e e' : Entry} (h : e.Grows e') (hc : e.status.state = .committed) : e' = e := by
  have hs : e'.status = e.status := by
    refine h.status.resolve_right fun hlt => ?_
    cases he : e.status <;> cases he' : e'.status <;> simp_all [Status.rank, Status.state]
  have h1 := h.command
  have h2 := h.preObservation
  have h3 := h.providerId
  cases e
  cases e'
  simp_all

end Entry

@[ext] structure Book where
  entries : List Entry
  ids : (entries.map Entry.id).Nodup
  fences : entries.map Entry.fence = List.range' 1 entries.length

namespace Book

open Entry

def empty : Book := ⟨[], List.nodup_nil, rfl⟩

def find (b : Book) (commandId : String) : Option Entry := Table.lookup Entry.id b.entries commandId

def issued (b : Book) : Nat := b.entries.length

def committed (b : Book) : Nat := Journal.maxFence (b.entries.map committedFence)

variable (H : Hashing) (key : String)

def encode (b : Book) : Journal where
  journalMeta := ⟨journalSchemaVersion, b.issued, b.committed, metaTag H key b.issued b.committed⟩
  lifecycleCommands := b.entries.map (Entry.row H key)

theorem encode_injective : Function.Injective (encode H key) := by
  intro b b' h
  exact Book.ext ((Entry.row_injective H key).list_map (congrArg Journal.lifecycleCommands h))

/-! ## Fences -/

theorem maxFence_le {xs : List Nat} {n : Nat} : Journal.maxFence xs ≤ n ↔ ∀ x ∈ xs, x ≤ n := by
  unfold Journal.maxFence
  induction xs with
  | nil => simp
  | cons x xs ih => simp [ih]

variable {b : Book} {e : Entry} {i pid : String} {s : Status}

theorem committed_le {n : Nat} : b.committed ≤ n ↔ ∀ e ∈ b.entries, e.committedFence ≤ n := by
  simp [committed, maxFence_le]

theorem fence_mem (he : e ∈ b.entries) : 1 ≤ e.fence ∧ e.fence ≤ b.issued := by
  have := b.fences ▸ List.mem_map_of_mem (f := Entry.fence) he
  rw [List.mem_range'_1] at this
  unfold issued
  omega

theorem committed_le_issued (b : Book) : b.committed ≤ b.issued := by
  refine committed_le.mpr fun e he => ?_
  unfold committedFence
  split
  · exact (fence_mem he).2
  · exact Nat.zero_le _

theorem mem_of_find (h : b.find i = some e) : e ∈ b.entries := Table.mem_of_lookup h

theorem id_of_find (h : b.find i = some e) : e.command.commandId = i := by
  have hk : e.id = i := Table.key_of_lookup h
  exact hk

theorem find_of_mem (h : e ∈ b.entries) : b.find e.id = some e := Table.lookup_of_mem b.ids h

/-! ## Operations -/

/-- The command `i` moves to status `s`. -/
def setStatus (b : Book) (i : String) (s : Status) : Book where
  entries := Table.update Entry.id b.entries i (withStatus s)
  ids := by
    rw [Table.map_key_update (withStatus_id s)]
    exact b.ids
  fences := by
    rw [Table.update, List.map_map, List.length_map, ← b.fences]
    refine List.map_congr_left fun e _ => ?_
    simp only [Function.comp]
    split <;> rfl

/-- A new command, with the next fence. -/
def issue (b : Book) (e : Entry) (hid : b.find e.id = none) (hf : e.fence = b.issued + 1) : Book where
  entries := b.entries ++ [e]
  ids := Table.nodup_append b.ids hid
  fences := by
    rw [List.map_append, b.fences, List.length_append, List.map_singleton, hf, List.length_singleton,
      List.range'_1_concat, Nat.add_comm 1]
    rfl

@[simp] theorem issued_setStatus (b : Book) (i : String) (s : Status) : (b.setStatus i s).issued = b.issued :=
  List.length_map ..

theorem find_setStatus_self (h : b.find i = some e) (s : Status) :
    (b.setStatus i s).find i = some (e.withStatus s) := by
  show Table.lookup Entry.id (Table.update Entry.id b.entries i (withStatus s)) i = _
  rw [Table.lookup_update_self (withStatus_id s), show Table.lookup Entry.id b.entries i = some e from h]
  rfl

theorem find_setStatus_ne {j : String} (h : j ≠ i) (s : Status) : (b.setStatus i s).find j = b.find j :=
  Table.lookup_update_ne (withStatus_id s) h

theorem committed_setStatus (h : b.find i = some e) (hc : e.status.state ≠ .committed) (s : Status) :
    (b.setStatus i s).committed = max b.committed (e.withStatus s).committedFence := by
  refine eq_of_forall_ge_iff fun n => ?_
  have hzero : e.committedFence = 0 := if_neg hc
  rw [max_le_iff, committed_le, committed_le,
    show (b.setStatus i s).entries = Table.update Entry.id b.entries i (withStatus s) from rfl,
    Table.forall_mem_update b.ids h (·.committedFence ≤ n), Table.forall_mem_split b.ids h (·.committedFence ≤ n), hzero]
  exact ⟨fun ⟨h1, h2⟩ => ⟨⟨Nat.zero_le _, h2⟩, h1⟩, fun ⟨⟨_, h2⟩, h1⟩ => ⟨h1, h2⟩⟩

theorem committed_setStatus_open (h : b.find i = some e) (hc : e.status.state ≠ .committed)
    (hs : s.state ≠ .committed) : (b.setStatus i s).committed = b.committed := by
  have hzero : (e.withStatus s).committedFence = 0 := if_neg hs
  rw [committed_setStatus h hc, hzero, Nat.max_zero]

theorem committed_setStatus_committed (h : b.find i = some e) (hc : e.status.state ≠ .committed) (a : String)
    (ok : a ≠ "") : (b.setStatus i (.committed a ok)).committed = max b.committed e.fence := by
  rw [committed_setStatus h hc]
  rfl

theorem committed_issue (hid : b.find e.id = none) (hf : e.fence = b.issued + 1) (hp : e.status.state ≠ .committed) :
    (b.issue e hid hf).committed = b.committed := by
  refine eq_of_forall_ge_iff fun n => ?_
  rw [committed_le, committed_le]
  have : e.committedFence = 0 := if_neg hp
  simp [issue, or_imp, forall_and, this]

/-- What every operation does to the commands there were. -/
def Grows (b b' : Book) : Prop := ∀ i e, b.find i = some e → ∃ e', b'.find i = some e' ∧ e.Grows e'

theorem Grows.refl (b : Book) : b.Grows b := fun _ e h => ⟨e, h, .refl e⟩

theorem Grows.trans {a b c : Book} (h : a.Grows b) (h' : b.Grows c) : a.Grows c := by
  intro i e he
  obtain ⟨e1, h1, g1⟩ := h i e he
  obtain ⟨e2, h2, g2⟩ := h' i e1 h1
  exact ⟨e2, h2, g1.trans g2⟩

theorem grows_setStatus (h : b.find i = some e) (hs : e.status.rank < s.rank) : b.Grows (b.setStatus i s) := by
  intro j e' he'
  by_cases hj : j = i
  · subst hj
    rw [h] at he'
    cases he'
    exact ⟨_, find_setStatus_self h s, rfl, rfl, rfl, .inr hs⟩
  · exact ⟨e', (find_setStatus_ne hj s).trans he', .refl e'⟩

theorem grows_issue (hid : b.find e.id = none) (hf : e.fence = b.issued + 1) : b.Grows (b.issue e hid hf) :=
  fun _ e' he' => ⟨e', Table.lookup_append_of_some he', .refl e'⟩

/-- Every command was issued for the provider `pid`. -/
def Provided (pid : String) (b : Book) : Prop := ∀ e ∈ b.entries, e.providerId = pid

theorem Provided.setStatus (h : b.Provided pid) (i : String) (s : Status) : (b.setStatus i s).Provided pid := by
  intro e he
  rcases Table.mem_update he with ⟨he, -⟩ | ⟨x, hx, -, rfl⟩
  · exact h e he
  · exact h x hx

theorem Provided.issue (h : b.Provided pid) {hid : b.find e.id = none} {hf : e.fence = b.issued + 1}
    (he : e.providerId = pid) : (b.issue e hid hf).Provided pid := by
  intro x hx
  rcases List.mem_append.mp hx with hx | hx
  · exact h x hx
  · rw [List.mem_singleton.mp hx, he]

/-! ## The journal's transactions are operations on the book -/

theorem create_eq : Journal.create H key = empty.encode H key := rfl

theorem readMeta_encode (b : Book) : (b.encode H key).readMeta H key = .ok (b.encode H key).journalMeta := by
  have : ¬ b.committed > b.issued := Nat.not_lt.mpr b.committed_le_issued
  simp [Journal.readMeta, encode, this]

theorem loadRow_encode (b : Book) (i : String) : (b.encode H key).loadRow i = (b.find i).map (Entry.row H key) :=
  Table.lookup_map (Entry.row H key) Entry.id (fun _ => rfl) i

section

variable (h : b.find i = some e)
include h

theorem recheck_encode {r : JournalRecord} (hr : r.command = e.command) :
    (b.encode H key).recheck H key r = .ok (b.encode H key).journalMeta := by
  have hi : b.find e.command.commandId = some e := by rw [id_of_find h, h]
  simp [Journal.recheck, readMeta_encode, loadRow_encode, hi, rowToRecord_row, bind, Except.bind, record, hr]

theorem updateRow_encode {f : JournalRow → JournalRow} (hf : f (e.row H key) = (e.withStatus s).row H key)
    (hc : (b.setStatus i s).committed = b.committed) :
    (b.encode H key).updateRow i f = (b.setStatus i s).encode H key := by
  unfold Journal.updateRow encode
  simp only [issued_setStatus, hc]
  congr 1
  refine Table.update_map (Entry.row H key) Entry.id (fun _ => rfl) fun a ha hk => ?_
  have : a = e := by
    have := find_of_mem ha
    rw [hk, h] at this
    exact (Option.some.inj this).symm
  rw [this, hf]

theorem setState_encode (hc : e.status.state ≠ .committed) (hs : s.state ≠ .committed) :
    (b.encode H key).setState H key e.record s.state =
      .ok ((e.withStatus s).record, (b.setStatus i s).encode H key) := by
  have hi : e.record.command.commandId = i := id_of_find h
  have h1 : e.status.anchor = none := Status.anchor_of_not_committed hc
  have h2 : s.anchor = none := Status.anchor_of_not_committed hs
  simp only [Journal.setState, recheck_encode H key h (r := e.record) rfl, bind, Except.bind, hi]
  rw [updateRow_encode H key h (s := s) _ (committed_setStatus_open h hc hs)]
  · simp [record, withStatus, h1, h2]
  · simp [row, record, withStatus, h1, h2]

theorem commitReceipt_encode (hc : e.status.state ≠ .committed) {a : String} (ok : a ≠ "") :
    (b.encode H key).commitReceipt H key e.record a =
      .ok (⟨e.command.commandId, e.command.operation, e.command.fenceToken, e.command.digest H, a, e.providerId, false⟩,
        (b.setStatus i (.committed a ok)).encode H key) := by
  have hi : e.record.command.commandId = i := id_of_find h
  subst hi
  simp only [Journal.commitReceipt, recheck_encode H key h (r := e.record) rfl, bind, Except.bind]
  have hrows : Table.update JournalRow.commandId (b.encode H key).lifecycleCommands e.record.command.commandId
        (fun row => { row with
          state := JournalState.committed.value
          anchorFingerprintAfter := some a
          integrityTag := commandTag H key e.record.command .committed e.record.preObservation (some a) e.record.providerId })
      = ((b.setStatus e.record.command.commandId (.committed a ok)).encode H key).lifecycleCommands := by
    refine Table.update_map (Entry.row H key) Entry.id (fun _ => rfl) fun x hx hk => ?_
    have : x = e := by
      have := find_of_mem hx
      rw [hk, h] at this
      exact (Option.some.inj this).symm
    rw [this]
    rfl
  have hm : max (b.encode H key).journalMeta.highestCommittedFence e.record.command.fenceToken
      = (b.setStatus e.record.command.commandId (.committed a ok)).committed := (committed_setStatus_committed h hc a ok).symm
  have hs : (b.encode H key).journalMeta.highestIssuedFence
      = (b.setStatus e.record.command.commandId (.committed a ok)).issued := (issued_setStatus b _ _).symm
  simp only [Journal.updateRow, hrows, hm, hs]
  rfl

end

theorem encode_issue (hid : b.find e.id = none) (hf : e.fence = b.issued + 1) (hp : e.status.state ≠ .committed) :
    (b.issue e hid hf).encode H key =
      ⟨⟨journalSchemaVersion, b.issued + 1, b.committed, metaTag H key (b.issued + 1) b.committed⟩,
        b.entries.map (Entry.row H key) ++ [e.row H key]⟩ := by
  have hi : (b.issue e hid hf).issued = b.issued + 1 := List.length_append
  simp only [encode, hi, committed_issue hid hf hp]
  simp [issue]

/-- `issue_command` finds the command or adds it with the next fence. -/
theorem issueCommand_encode {o : Operation} {r anchor provider : String} {pre : Json} (hpre : pre.isObj = true)
    {c : Command} {j : Journal} (h : (b.encode H key).issueCommand H key i o r anchor pre provider = .ok (c, j)) :
    (∃ e, b.find i = some e ∧ c = e.command ∧ j = b.encode H key) ∨
      ∃ (e : Entry) (hid : b.find e.id = none) (hf : e.fence = b.issued + 1),
        e.status = .prepared ∧ c = e.command ∧ e.command.operation = o ∧ e.command.expectedAnchorFingerprint = anchor ∧
          e.preObservation = pre ∧ e.providerId = provider ∧ j = (b.issue e hid hf).encode H key := by
  simp only [Journal.issueCommand, readMeta_encode, bind, Except.bind, loadRow_encode] at h
  cases hb : b.find i with
  | some e =>
    simp only [hb, Option.map_some, rowToRecord_row] at h
    split_ifs at h
    cases h
    exact .inl ⟨e, rfl, rfl, rfl⟩
  | none =>
    simp only [hb, Option.map_none] at h
    split at h
    · cases h
    · rename_i _ hmake
      obtain ⟨h1, h2, h3, h4, -⟩ := Command.of_make hmake
      split_ifs at h
      cases h
      have hid : b.find c.commandId = none := by rw [h1, hb]
      have hf : c.fenceToken = b.issued + 1 := h3
      refine .inr ⟨⟨c, pre, provider, .prepared, hpre⟩, hid, hf, rfl, rfl, h2, h4, rfl, rfl, ?_⟩
      rw [encode_issue H key (e := ⟨c, pre, provider, .prepared, hpre⟩) hid hf (by simp [Status.state])]
      rfl

/-! ## Reopening -/

theorem rowsByFence_encode (b : Book) : (b.encode H key).rowsByFence = (b.encode H key).lifecycleCommands := by
  refine List.mergeSort_of_pairwise ?_
  have h : ((b.encode H key).lifecycleCommands.map JournalRow.fenceToken).Pairwise (· ≤ ·) := by
    have hm : (b.encode H key).lifecycleCommands.map JournalRow.fenceToken = b.entries.map Entry.fence := by
      simp [encode, row, Entry.fence]
    rw [hm, b.fences]
    exact List.pairwise_le_range'
  rw [List.pairwise_map] at h
  exact h.imp fun hab => by simpa using hab

theorem mapM_rowToRecord (es : List Entry) :
    (es.map (Entry.row H key)).mapM (rowToRecord H key) = .ok (es.map Entry.record) := by
  induction es with
  | nil => rfl
  | cons e es ih => simp [rowToRecord_row, ih, bind, Except.bind, pure, Except.pure]

theorem maxFence_range' (n : Nat) : Journal.maxFence (List.range' 1 n) = n := by
  refine eq_of_forall_ge_iff fun m => ?_
  rw [maxFence_le]
  simp only [List.mem_range'_1]
  constructor
  · intro h
    by_cases hn : n = 0
    · omega
    · exact h n (by omega)
  · intro h x hx
    omega

theorem maxFence_committed (b : Book) :
    Journal.maxFence (((b.entries.map Entry.record).filter (·.state = .committed)).map (·.command.fenceToken))
      = b.committed := by
  refine eq_of_forall_ge_iff fun n => ?_
  rw [maxFence_le, committed_le]
  simp only [List.mem_map, List.mem_filter, decide_eq_true_eq, forall_exists_index, and_imp, committedFence]
  constructor
  · intro h e he
    split
    · rename_i hs
      exact h _ _ e he rfl hs rfl
    · exact Nat.zero_le _
  · rintro h _ _ e he rfl hs rfl
    have hle := h e he
    rwa [if_pos (show e.status.state = .committed from hs)] at hle

theorem verifyRows_encode (b : Book) :
    Journal.verifyRows H key (b.encode H key).journalMeta (b.encode H key) = .ok () := by
  have h1 : Journal.maxFence ((b.entries.map Entry.record).map (·.command.fenceToken)) = b.issued := by
    have : (b.entries.map Entry.record).map (·.command.fenceToken) = b.entries.map Entry.fence := by
      simp [record, Entry.fence]
    rw [this, b.fences, maxFence_range', issued]
  unfold Journal.verifyRows
  rw [rowsByFence_encode]
  simp only [encode, mapM_rowToRecord, bind, Except.bind, h1, maxFence_committed]
  simp

/-- Every started command awaits reconciliation. -/
def recoverStarted (b : Book) : Book :=
  (b.entries.filter (·.status.state = .providerStarted)).foldl (fun b e => b.setStatus e.id .reconciling) b

theorem recoverRows_encode (es : List Entry) (b : Book) (hn : (es.map Entry.id).Nodup)
    (hes : ∀ e ∈ es, b.find e.id = some e ∧ e.status.state = .providerStarted) :
    (es.map (Entry.row H key)).foldlM (Journal.recoverRow H key) (b.encode H key)
        = .ok ((es.foldl (fun b e => b.setStatus e.id .reconciling) b).encode H key) ∧
      b.Grows (es.foldl (fun b e => b.setStatus e.id .reconciling) b) := by
  induction es generalizing b with
  | nil => exact ⟨rfl, .refl b⟩
  | cons e es ih =>
    obtain ⟨he, hs⟩ := hes e List.mem_cons_self
    have hopen : e.status.state ≠ .committed := by simp [hs]
    have hstep : Journal.recoverRow H key (b.encode H key) (e.row H key)
        = .ok ((b.setStatus e.id .reconciling).encode H key) := by
      simp only [Journal.recoverRow, rowToRecord_row, bind, Except.bind]
      rw [show e.record.command.commandId = e.id from rfl,
        updateRow_encode H key he (s := .reconciling) _ (committed_setStatus_open he hopen (by simp [Status.state]))]
      simp [row, record, withStatus, Status.anchor_of_not_committed hopen, show Status.reconciling.anchor = none from rfl,
        show Status.reconciling.state = .reconciliationRequired from rfl]
    obtain ⟨hnot, hn'⟩ := List.nodup_cons.mp hn
    have hrest : ∀ x ∈ es, (b.setStatus e.id .reconciling).find x.id = some x ∧ x.status.state = .providerStarted := by
      intro x hx
      have hne : x.id ≠ e.id := fun heq => hnot (heq ▸ List.mem_map_of_mem hx)
      rw [find_setStatus_ne hne]
      exact hes x (List.mem_cons_of_mem _ hx)
    obtain ⟨h1, h2⟩ := ih (b.setStatus e.id .reconciling) hn' hrest
    have hrank : e.status.rank < Status.reconciling.rank := by
      cases hst : e.status <;> simp_all [Status.state, Status.rank]
    refine ⟨?_, (grows_setStatus he hrank).trans h2⟩
    simp only [List.map_cons, List.foldlM_cons, hstep, bind, Except.bind, List.foldl_cons]
    exact h1

theorem recoverStartedCommands_encode (b : Book) :
    (b.encode H key).recoverStartedCommands H key = .ok ((), b.recoverStarted.encode H key) ∧
      b.Grows b.recoverStarted := by
  have hfilter : (b.encode H key).lifecycleCommands.filter (·.state = JournalState.providerStarted.value)
      = (b.entries.filter (·.status.state = .providerStarted)).map (Entry.row H key) := by
    simp only [encode, List.filter_map, Function.comp_def, row, JournalState.value_injective.eq_iff]
  obtain ⟨h1, h2⟩ := recoverRows_encode H key (b.entries.filter (·.status.state = .providerStarted)) b
    (b.ids.sublist (List.filter_sublist.map _))
    fun e he => ⟨find_of_mem (List.mem_of_mem_filter he), by simpa using List.of_mem_filter he⟩
  refine ⟨?_, h2⟩
  simp only [Journal.recoverStartedCommands, readMeta_encode, bind, Except.bind, rowsByFence_encode, hfilter, h1]
  rfl

theorem Provided.recoverStarted (h : b.Provided pid) : b.recoverStarted.Provided pid := by
  unfold Book.recoverStarted
  generalize b.entries.filter _ = es
  induction es generalizing b with
  | nil => exact h
  | cons e es ih => exact ih (h.setStatus _ _)

theorem open_recoverStarted (b : Book) : ∀ i e, b.recoverStarted.find i = some e → e.status.state = .committed →
    b.find i = some e := by
  intro i e he hc
  have key : ∀ (es : List Entry) (b : Book),
      (es.foldl (fun b e => b.setStatus e.id .reconciling) b).find i = some e → b.find i = some e := by
    intro es
    induction es with
    | nil => exact fun b h => h
    | cons x es ih =>
      intro b h
      have h := ih _ h
      by_cases hi : i = x.id
      · subst hi
        have hid := id_of_find h
        cases hb : b.find x.id with
        | none =>
          have hnone : (b.setStatus x.id .reconciling).find x.id = none := by
            show Table.lookup Entry.id (Table.update Entry.id b.entries x.id (withStatus .reconciling)) x.id = none
            rw [Table.lookup_update_self (withStatus_id _), show Table.lookup Entry.id b.entries x.id = none from hb]
            rfl
          rw [hnone] at h
          cases h
        | some e0 =>
          rw [find_setStatus_self hb] at h
          cases h
          cases hc
      · rwa [find_setStatus_ne hi] at h
  exact key _ b he

end Book

end Aegis.Lifecycle
