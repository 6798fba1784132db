/-
  Aegis.Lifecycle.ProviderSafety — what the crash-safe provider keeps across its two stores and
  the external mutation, and what each of its steps may do.

  `Settled` is the invariant: a receipt belongs to a command whose mutation was started, a
  committed command has a receipt with its anchor, an operation was started at most once for
  each command. `Does` is the guarantee of every step of a call with command `c`: stored
  receipts stay; the operation is started only for `c`, while the live anchor is the one `c`
  expects; and a new receipt is `Justified`.
-/

import Aegis.Txn.Safe
import Aegis.Lifecycle.CrashSafeProvider

namespace Aegis.Lifecycle.CrashSafe

open Data Txn Prog

variable (H : Hashing) (S : CrashSafe)

structure Settled (tasks : List Task) (receipts : List OutcomeReceipt) (p : ProviderWorld) : Prop where
  commands : p.commandStore = tasks.map (Task.row H S.commandKey)
  outcomes : p.outcomeStore = receipts.map (OutcomeReceipt.row H S.outcomeKey)
  taskIds : (tasks.map Task.id).Nodup
  receiptIds : (receipts.map OutcomeReceipt.commandId).Nodup
  receiptAnchor : ∀ r ∈ receipts, r.anchorFingerprintAfter ≠ ""
  receiptTask : ∀ r ∈ receipts, ∃ t, findTask tasks r.commandId = some t ∧
    (t.progress = .started ∨ t.progress.anchor = some r.anchorFingerprintAfter)
  committedReceipt : ∀ t ∈ tasks, ∀ a, t.progress.anchor = some a →
    ∃ r, findReceipt receipts t.id = some r ∧ r.anchorFingerprintAfter = a
  startIds : (p.inner.starts.map Command.commandId).Nodup
  startTask : ∀ i ∈ p.inner.starts.map Command.commandId, ∃ t, findTask tasks i = some t ∧ t.progress ≠ .prepared

/-- Why a receipt may be stored: an operation started for its command ran to completion, or its
    command is MUTATION_STARTED and the operation's proof holds between the stored observation
    and the live state. -/
def Justified (row : OutcomeRow) (p : ProviderWorld) : Prop :=
  ∃ c : Command, c.commandId = row.commandId ∧ c.digest H = row.commandDigest ∧ (c ∈ p.inner.completions ∨
      ∃ (a : Args), ∃ crow ∈ p.commandStore, crow.commandId = row.commandId ∧
        crow.state = ProviderState.mutationStarted.value ∧ crow.argumentDigest = argumentDigest H c a ∧
        operationProven H p.inner.live c crow.preObservationJson a = .ok true)

structure Does (c : Command) (may : Prop) (p p' : ProviderWorld) : Prop where
  outcomes : ∀ row ∈ p.outcomeStore, row ∈ p'.outcomeStore
  starts : p'.inner.starts = p.inner.starts ∨ (p'.inner.starts = p.inner.starts ++ [c] ∧
    c.expectedAnchorFingerprint = p.inner.live.anchorFingerprint H ∧ may)
  justified : ∀ row ∈ p'.outcomeStore, row ∉ p.outcomeStore → Justified H row p

variable {H S} {c : Command} {may : Prop} {p : ProviderWorld}

theorem Does.refl (c : Command) (may : Prop) (p : ProviderWorld) : Does H c may p p :=
  ⟨fun _ h => h, .inl rfl, fun _ h hn => absurd h hn⟩

variable (H S) in
def contract (c : Command) (may : Prop) : Contract ProviderWorld :=
  Contract.alone (fun p => ∃ tasks receipts, Settled H S tasks receipts p) (Does H c may) fun p _ => .refl c may p

/-- The receipt returned for the command is the stored one. -/
def Returned (commandId : String) (r : OutcomeReceipt) (p : ProviderWorld) : Prop :=
  r.commandId = commandId ∧
    ∃ row ∈ p.outcomeStore, row.commandId = commandId ∧ row.anchorFingerprintAfter = r.anchorFingerprintAfter

theorem does_commands (s : CommandStore) : Does H c may p { p with commandStore := s } :=
  ⟨fun _ h => h, .inl rfl, fun _ h hn => absurd h hn⟩

/-! ## The invariant, operation by operation -/

variable {tasks : List Task} {receipts : List OutcomeReceipt} {t : Task} {r : OutcomeReceipt} {q : Progress}

theorem task_unique (hn : (tasks.map Task.id).Nodup) {x : Task} (hx : x ∈ tasks) (hid : x.id = t.id)
    (hf : findTask tasks t.id = some t) : x = t := by
  have := Table.lookup_of_mem hn hx
  rw [hid, show Table.lookup Task.id tasks t.id = some t from hf] at this
  exact (Option.some.inj this).symm

section

variable (h : Settled H S tasks receipts p)
include h

theorem settled_task (hnew : findTask tasks t.id = none) (hp : t.progress = .prepared) :
    Settled H S (tasks ++ [t]) receipts { p with commandStore := (tasks ++ [t]).map (Task.row H S.commandKey) } := by
  have keep : ∀ i x, findTask tasks i = some x → findTask (tasks ++ [t]) i = some x :=
    fun i x hx => Table.lookup_append_of_some hx
  refine ⟨rfl, h.outcomes, Table.nodup_append h.taskIds hnew, h.receiptIds, h.receiptAnchor, fun r hr => ?_,
    fun x hx a ha => ?_, h.startIds, fun i hi => ?_⟩
  · obtain ⟨x, hx, hpx⟩ := h.receiptTask r hr
    exact ⟨x, keep _ x hx, hpx⟩
  · rcases List.mem_append.mp hx with hx | hx
    · exact h.committedReceipt x hx a ha
    · rw [List.mem_singleton.mp hx, hp] at ha
      cases ha
  · obtain ⟨x, hx, hpx⟩ := h.startTask i hi
    exact ⟨x, keep _ x hx, hpx⟩

theorem settled_progress (hf : findTask tasks t.id = some t)
    (hreceipt : ∀ r, findReceipt receipts t.id = some r → q = .started ∨ q.anchor = some r.anchorFingerprintAfter)
    (hanchor : ∀ a, q.anchor = some a → ∃ r, findReceipt receipts t.id = some r ∧ r.anchorFingerprintAfter = a)
    (hq : q ≠ .prepared) :
    Settled H S (Table.update Task.id tasks t.id (Task.withProgress q)) receipts
      { p with commandStore := (Table.update Task.id tasks t.id (Task.withProgress q)).map (Task.row H S.commandKey) } := by
  have self : findTask (Table.update Task.id tasks t.id (Task.withProgress q)) t.id = some (t.withProgress q) := by
    unfold findTask
    rw [Table.lookup_update_self (Task.withProgress_id q), show Table.lookup Task.id tasks t.id = some t from hf]
    rfl
  have other : ∀ i, i ≠ t.id → findTask (Table.update Task.id tasks t.id (Task.withProgress q)) i = findTask tasks i :=
    fun i hi => Table.lookup_update_ne (Task.withProgress_id q) hi
  refine ⟨rfl, h.outcomes, by rw [Table.map_key_update (Task.withProgress_id q)]; exact h.taskIds, h.receiptIds,
    h.receiptAnchor, fun r hr => ?_, fun x hx a ha => ?_, h.startIds, fun i hi => ?_⟩
  · by_cases hi : r.commandId = t.id
    · refine ⟨_, by rw [hi]; exact self, hreceipt r ?_⟩
      rw [← hi]
      exact Table.lookup_of_mem h.receiptIds hr
    · rw [other _ hi]
      exact h.receiptTask r hr
  · rcases Table.mem_update hx with ⟨hx, -⟩ | ⟨y, hy, hid, rfl⟩
    · exact h.committedReceipt x hx a ha
    · obtain rfl := task_unique h.taskIds hy hid hf
      exact hanchor a ha
  · by_cases hit : i = t.id
    · exact ⟨_, by rw [hit]; exact self, hq⟩
    · rw [other _ hit]
      exact h.startTask i hi

theorem settled_receipt (hnew : findReceipt receipts r.commandId = none) (ha : r.anchorFingerprintAfter ≠ "")
    (hf : findTask tasks r.commandId = some t) (ht : t.progress = .started) :
    Settled H S tasks (receipts ++ [r])
      { p with outcomeStore := (receipts ++ [r]).map (OutcomeReceipt.row H S.outcomeKey) } := by
  refine ⟨h.commands, rfl, h.taskIds, Table.nodup_append h.receiptIds hnew, fun x hx => ?_, fun x hx => ?_,
    fun x hx a hxa => ?_, h.startIds, h.startTask⟩
  · rcases List.mem_append.mp hx with hx | hx
    · exact h.receiptAnchor x hx
    · rwa [List.mem_singleton.mp hx]
  · rcases List.mem_append.mp hx with hx | hx
    · exact h.receiptTask x hx
    · rw [List.mem_singleton.mp hx]
      exact ⟨t, hf, .inl ht⟩
  · obtain ⟨y, hy, hya⟩ := h.committedReceipt x hx a hxa
    exact ⟨y, Table.lookup_append_of_some hy, hya⟩

theorem settled_inner {inner : Plain}
    (hs : inner.starts = p.inner.starts ++ [c]) (hnew : c.commandId ∉ p.inner.starts.map Command.commandId)
    (hf : findTask tasks c.commandId = some t) (ht : t.progress ≠ .prepared) :
    Settled H S tasks receipts { p with inner } := by
  refine ⟨h.commands, h.outcomes, h.taskIds, h.receiptIds, h.receiptAnchor, h.receiptTask, h.committedReceipt, ?_, ?_⟩
  · simp only [hs, List.map_append, List.map_singleton]
    exact h.startIds.append (List.nodup_singleton _) (by simpa [List.disjoint_singleton] using hnew)
  · intro i hi
    simp only [hs, List.map_append, List.mem_append, List.map_singleton, List.mem_singleton] at hi
    rcases hi with hi | rfl
    · exact h.startTask i hi
    · exact ⟨t, hf, ht⟩

end

/-! ## The transactions -/

/-- No condition on transactions: the provider's calls do not overlap. -/
abbrev noGuard : Label → ProviderWorld → Prop := fun _ _ => True

variable {me : Nat} {behaviour : Behaviour} {fault : ProviderFault} {a : Args}

section

variable (h : Settled H S tasks receipts p)
include h

theorem setState_safe {a : Option String} (hf : findTask tasks t.id = some t) (ha : a.or t.progress.anchor = q.anchor)
    (hreceipt : ∀ r, findReceipt receipts t.id = some r → q = .started ∨ q.anchor = some r.anchorFingerprintAfter)
    (hanchor : ∀ x, q.anchor = some x → ∃ r, findReceipt receipts t.id = some r ∧ r.anchorFingerprintAfter = x)
    (hq : q ≠ .prepared) :
    Safe noGuard (contract H S c may) me (OnOk fun r p' => r = (t.withProgress q).record ∧
        Settled H S (Table.update Task.id tasks t.id (Task.withProgress q)) receipts p' ∧
        p'.outcomeStore = p.outcomeStore ∧ p'.inner = p.inner)
      (setState H S t.record q.state a) p := by
  refine Safe.write fun r p2 p1 _ hr1 _ hstep => ?_
  obtain rfl : p1 = p := hr1
  rw [h.commands, setState_tasks H S.commandKey h.taskIds hf q ha] at hstep
  obtain ⟨rfl, rfl⟩ := Prod.mk.inj (Except.ok.inj hstep)
  have h' := settled_progress h hf hreceipt hanchor hq
  exact ⟨⟨_, _, h'⟩, does_commands _, .ok ⟨rfl, h', rfl, rfl⟩⟩

theorem putOutcome_safe (hnew : findReceipt receipts r.commandId = none) (ha : r.anchorFingerprintAfter ≠ "")
    (hf : findTask tasks r.commandId = some t) (ht : t.progress = .started)
    (hj : Justified H (r.row H S.outcomeKey) p) :
    Safe noGuard (contract H S c may) me (OnOk fun r' p' => r' = r ∧ Settled H S tasks (receipts ++ [r]) p')
      (putOutcome H S r) p := by
  refine Safe.write fun r' p2 p1 _ hr1 _ hstep => ?_
  obtain rfl : p1 = p := hr1
  rw [h.outcomes, put_receipts H S.outcomeKey hnew] at hstep
  obtain ⟨rfl, rfl⟩ := Prod.mk.inj (Except.ok.inj hstep)
  have h' := settled_receipt h hnew ha hf ht
  refine ⟨⟨_, _, h'⟩, ⟨fun row hrow => ?_, .inl rfl, fun row hrow hnot => ?_⟩, .ok ⟨rfl, h'⟩⟩
  · rw [h.outcomes] at hrow
    simp only [List.map_append]
    exact List.mem_append_left _ hrow
  · simp only [List.map_append, List.mem_append, List.map_singleton, List.mem_singleton] at hrow
    rcases hrow with hrow | rfl
    · rw [h.outcomes] at hnot
      exact absurd hrow hnot
    · exact hj

theorem returned_of_receipt {i : String} {r' : OutcomeReceipt}
    (hf : findReceipt receipts i = some r) (hid : r'.commandId = r.commandId)
    (ha : r'.anchorFingerprintAfter = r.anchorFingerprintAfter) : Returned i r' p := by
  have hr : r.commandId = i := id_of_findReceipt hf
  refine ⟨hid.trans hr, r.row H S.outcomeKey, ?_, hr, ha.symm⟩
  rw [h.outcomes]
  exact List.mem_map_of_mem (Table.mem_of_lookup hf)

end

/-- The receipt is stored and then the command is committed with its anchor, from either call. -/
theorem finish_safe {a : String} {g : OutcomeReceipt → Option String}
    {f : OutcomeReceipt → Prog Label ProviderWorld Error OutcomeReceipt} (hg : g (receipt H c a) = some a)
    (h : Settled H S tasks receipts p) (hf : findTask tasks c.commandId = some t) (ht : t.progress = .started)
    (hnew : findReceipt receipts c.commandId = none) (ha : a ≠ "")
    (hj : Justified H ((receipt H c a).row H S.outcomeKey) p)
    (hfin : ∀ p', Returned c.commandId (receipt H c a) p' →
      Safe noGuard (contract H S c may) me (OnOk (Returned c.commandId)) (f (receipt H c a)) p') :
    Safe noGuard (contract H S c may) me (OnOk (Returned c.commandId)) (do
      let stored ← putOutcome H S (receipt H c a)
      let _ ← setState H S t.record .committed (g stored)
      f stored) p := by
  have hid : t.id = c.commandId := id_of_findTask hf
  refine Safe.bind_ok ⟨_, _, h⟩ (putOutcome_safe h hnew ha hf ht hj) fun stored p1 hi1 ⟨hst, h1⟩ => ?_
  subst hst
  have hstored : findReceipt (receipts ++ [receipt H c a]) t.id = some (receipt H c a) := by
    rw [hid]
    exact Table.lookup_append_new (x := receipt H c a) hnew
  rw [hg]
  refine Safe.bind_ok hi1 (setState_safe (q := .committed a ha) (a := some a) h1 (by rw [hid]; exact hf) rfl
    (fun r hr => .inr (by rw [hstored] at hr; cases hr; rfl))
    (fun x hx => ⟨_, hstored, by cases hx; rfl⟩) nofun) fun _ p2 _ ⟨_, h2, hout, _⟩ => hfin p2 ?_
  rw [hid] at hstored
  exact returned_of_receipt (r := receipt H c a) h2 hstored rfl rfl

/-! ## The calls -/

theorem mutate_safe (h : Settled H S tasks receipts p)
    (hf : findTask tasks c.commandId = some t) (hprep : t.progress = .prepared)
    (hnew : findReceipt receipts c.commandId = none)
    (hexp : c.expectedAnchorFingerprint = p.inner.live.anchorFingerprint H) (hmay : may) :
    Safe noGuard (contract H S c may) me (OnOk (Returned c.commandId)) (mutate H S c t.record behaviour fault) p := by
  have hid : t.id = c.commandId := id_of_findTask hf
  have hfree : c.commandId ∉ p.inner.starts.map Command.commandId := by
    intro hmem
    obtain ⟨x, hx, hpx⟩ := h.startTask _ hmem
    rw [hf] at hx
    cases hx
    exact hpx hprep
  unfold mutate
  refine Safe.bind_ok ⟨_, _, h⟩ (setState_safe (q := .started) (a := none) h (by rw [hid]; exact hf)
    (by rw [hprep]; rfl) (fun _ _ => .inl rfl) (fun _ h => by cases h) (fun h => by cases h)) fun r p1 hi1 hset => ?_
  obtain ⟨hr, h1, hout1, hinner1⟩ := hset
  have hf1 : findTask (Table.update Task.id tasks t.id (Task.withProgress .started)) c.commandId
      = some (t.withProgress .started) := by
    unfold findTask
    rw [← hid, Table.lookup_update_self (Task.withProgress_id _), show Table.lookup Task.id tasks t.id = some t by
      rw [hid]; exact hf]
    rfl
  have hop : Safe noGuard (contract H S c may) me (OnOk fun _ p' =>
      Settled H S (Table.update Task.id tasks t.id (Task.withProgress .started)) receipts p' ∧ c ∈ p'.inner.completions)
      ((Plain.operate c behaviour).zoom innerLens) p1 := by
    intro p1' _ hr' _
    obtain rfl : p1' = p1 := hr'
    have hout : p1'.outcomeStore = p.outcomeStore := hout1
    rcases hb : behaviour p1'.inner.live with ⟨live, completed⟩
    have h2 : Settled H S _ _ { p1' with inner := ⟨live, p1'.inner.starts ++ [c],
        if completed then p1'.inner.completions ++ [c] else p1'.inner.completions⟩ } :=
      settled_inner h1 rfl (by rw [hinner1]; exact hfree) hf1 (fun h => by cases h)
    simp only [Lens.over, innerLens, hb, zoom]
    refine ⟨⟨_, _, h2⟩, ⟨fun _ h => h, .inr ⟨rfl, by rw [hinner1]; exact hexp, hmay⟩, fun _ h hn => absurd h hn⟩, ?_⟩
    rintro a hok
    cases completed with
    | false => cases hok
    | true => exact ⟨h2, List.mem_append_right _ (List.mem_singleton_self c)⟩
  subst hr
  refine Safe.bind_ok hi1 hop fun _ p2 hi2 hoperated => ?_
  obtain ⟨h2, hdone⟩ := hoperated
  refine Safe.guard fun _ => ?_
  refine Safe.read_bind fun p2' _ hr2 _ => ?_
  obtain rfl : p2' = p2 := hr2
  refine finish_safe (g := fun r => some r.anchorFingerprintAfter) rfl h2 hf1 rfl hnew (p2'.inner.live.anchorFingerprint_ne H) ⟨c, rfl, rfl, .inl hdone⟩ fun p3 h3 => ?_
  exact Safe.guard fun _ => Safe.pure (.ok h3)

variable (H S) in
/-- The record `execute_lifecycle_command` goes on with. -/
def preparedRecord (c : Command) (a : Args) (p : ProviderWorld) : Except Error ProviderRecord := do
  let pre ← p.inner.live.preObservation H c a
  let (record, _) ← p.commandStore.prepare H S.commandKey c (argumentDigest H c a) pre providerId
  pure record

variable (H S) in
/-- When `execute_lifecycle_command` gets as far as the operation. -/
def Startable (c : Command) (a : Args) (fault : ProviderFault) (p : ProviderWorld) : Prop :=
  ¬ a.missing c ∧ p.outcomeStore.get H S.outcomeKey c = .ok none ∧
  requireLifecycleCapability S.face c.operation = .ok () ∧ (preparedRecord H S c a p).map (·.state) = .ok .prepared ∧
  c.expectedAnchorFingerprint = p.inner.live.anchorFingerprint H ∧ fault ≠ .afterPrepareBeforeMutation

variable (H S) in
/-- The stored command is PREPARED. -/
def FoundPrepared (c : Command) (a : Args) (p : ProviderWorld) : Prop :=
  (p.commandStore.require H S.commandKey c (argumentDigest H c a)).map (·.state) = .ok .prepared

variable (H S) in
/-- When `recover_lifecycle_command` gets there. -/
def RecoveryStarts (c : Command) (a : Args) (fault : ProviderFault) (p : ProviderWorld) : Prop :=
  FoundPrepared H S c a p ∧ Startable H S c a fault p

instance (c : Command) (a : Args) (fault : ProviderFault) (p : ProviderWorld) :
    Decidable (RecoveryStarts H S c a fault p) := by
  unfold RecoveryStarts FoundPrepared Startable
  infer_instance

section

variable (h : Settled H S tasks receipts p)
include h

theorem FoundPrepared.task (hp : FoundPrepared H S c a p) :
    ∃ t, findTask tasks c.commandId = some t ∧ t.progress = .prepared := by
  unfold FoundPrepared at hp
  cases hreq : p.commandStore.require H S.commandKey c (argumentDigest H c a) with
  | error e => simp [hreq, Except.map] at hp
  | ok record =>
    rw [hreq] at hp
    rw [h.commands] at hreq
    obtain ⟨t, hf, -, -, rfl⟩ := require_tasks H S.commandKey hreq
    refine ⟨t, hf, ?_⟩
    have hstate : t.progress.state = .prepared := Except.ok.inj hp
    cases hq : t.progress with
    | prepared => rfl
    | started | committed => rw [hq] at hstate; cases hstate

theorem mutatePrepared_safe (hf : findTask tasks c.commandId = some t)
    (hnew : findReceipt receipts c.commandId = none) (hstate : t.record.state ≠ .mutationStarted)
    (hmay : t.record.state = .prepared → c.expectedAnchorFingerprint = p.inner.live.anchorFingerprint H →
      fault ≠ .afterPrepareBeforeMutation → may) :
    Safe noGuard (contract H S c may) me (OnOk (Returned c.commandId)) (mutatePrepared H S c t.record behaviour fault) p := by
  refine Safe.guard fun hopen => Safe.read_bind fun p1 _ hr1 _ => ?_
  obtain rfl : p1 = p := hr1
  refine Safe.guard fun hanchor => Safe.guard fun hfault => ?_
  have hprep : t.progress = .prepared := by
    cases hp : t.progress with
    | prepared => rfl
    | started => exact absurd (show t.progress.state = .mutationStarted by rw [hp]; rfl) hstate
    | committed a ha => exact absurd (show t.progress.state = .committed by rw [hp]; rfl) hopen
  exact mutate_safe h hf hprep hnew (not_not.mp hanchor)
    (hmay (show t.progress.state = .prepared by rw [hprep]; rfl) (not_not.mp hanchor) hfault)

theorem executeWith_safe {recover : Prog Label ProviderWorld Error OutcomeReceipt} (hmay : Startable H S c a fault p → may)
    (hrec : (∀ t, findTask tasks c.commandId = some t → t.progress ≠ .prepared) →
      Safe noGuard (contract H S c may) me (OnOk (Returned c.commandId)) recover p) :
    Safe noGuard (contract H S c may) me (OnOk (Returned c.commandId)) (executeWith H S recover c a behaviour fault) p := by
  refine Safe.guard fun hargs => Safe.ask ?_
  intro existing p1 _ hr1 _ hget
  obtain rfl : p1 = p := hr1
  have hget' := hget
  rw [h.outcomes] at hget'
  rcases get_receipts H S.outcomeKey hget' with ⟨hnew, rfl⟩ | ⟨r, hfr, -, rfl⟩
  · refine Safe.ofResult_bind (fun _ _ => .error) fun _ hcap => Safe.ask ?_
    intro pre p2 _ hr2 _ hpre
    obtain rfl : p2 = p1 := hr2
    refine Safe.atomic_bind (fun _ _ _ _ _ _ => .error) fun record p4 p3 hi3 hr3 _ hprep => ?_
    obtain rfl : p3 = p2 := hr3
    obtain ⟨⟨record', s⟩, hprep', he⟩ := Data.Checks.ok_bind.mp hprep
    obtain ⟨rfl, rfl⟩ := Prod.mk.inj (Except.ok.inj he)
    have hstart : record'.state = .prepared → c.expectedAnchorFingerprint = p3.inner.live.anchorFingerprint H →
        fault ≠ .afterPrepareBeforeMutation → may :=
      fun h1 h2 h3 => hmay ⟨hargs, hget, hcap, by simp [preparedRecord, hpre, hprep', h1, bind, Except.bind, pure,
        Except.pure, Except.map], h2, h3⟩
    rw [h.commands] at hprep'
    rcases prepare_tasks H S.commandKey (Live.preObservation_isObj H hpre) hprep' with
      ⟨t, hf, -, -, rfl, rfl⟩ | ⟨hnone, t, ht, -, -, hp, rfl, rfl⟩
    · have hsame : ({ p3 with commandStore := tasks.map (Task.row H S.commandKey) } : ProviderWorld) = p3 := by
        rw [← h.commands]
      rw [hsame]
      refine ⟨hi3, .refl c may p3, ?_⟩
      split_ifs with hstate
      · refine hrec fun t' ht' hp => ?_
        rw [hf] at ht'
        cases ht'
        rw [show t.record.state = t.progress.state from rfl, hp] at hstate
        cases hstate
      · exact mutatePrepared_safe h hf hnew hstate hstart
    · have hid : t.id = c.commandId := by rw [← ht]; rfl
      have h' := settled_task h (t := t) (by rw [hid]; exact hnone) hp
      have hf : findTask (tasks ++ [t]) c.commandId = some t := by
        rw [← hid]
        exact Table.lookup_append_new (x := t) (show findTask tasks t.id = none by rw [hid]; exact hnone)
      have hstate : t.record.state ≠ .mutationStarted := by
        show t.progress.state ≠ _
        rw [hp]
        nofun
      refine ⟨⟨_, _, h'⟩, does_commands _, ?_⟩
      rw [if_neg hstate]
      exact mutatePrepared_safe h' hf hnew hstate hstart
  · refine Safe.ask fun _ p2 _ hr2 _ _ => ?_
    obtain rfl : p2 = p1 := hr2
    exact Safe.pure (.ok (returned_of_receipt h hfr rfl rfl))

theorem proveOutcome_safe (hf : findTask tasks c.commandId = some t) (hargs : t.argumentDigest = argumentDigest H c a)
    (hnew : findReceipt receipts c.commandId = none) :
    Safe noGuard (contract H S c may) me (OnOk (Returned c.commandId)) (proveOutcome H S c a t.record) p := by
  refine Safe.guard fun hstate => Safe.ask ?_
  intro proven p1 _ hr1 _ hproven
  obtain rfl : p1 = p := hr1
  refine Safe.guard fun htrue => Safe.read_bind fun p2 _ hr2 _ => ?_
  obtain rfl : p2 = p1 := hr2
  have hp : t.progress = .started := by
    cases hp : t.progress with
    | started => rfl
    | prepared => exact absurd (show t.progress.state ≠ .mutationStarted by rw [hp]; nofun) hstate
    | committed a ha => exact absurd (show t.progress.state ≠ .mutationStarted by rw [hp]; nofun) hstate
  have hid : t.id = c.commandId := id_of_findTask hf
  have hj : Justified H ((receipt H c (p2.inner.live.anchorFingerprint H)).row H S.outcomeKey) p2 := by
    refine ⟨c, rfl, rfl, .inr ⟨a, t.row H S.commandKey, ?_, hid, ?_, hargs, ?_⟩⟩
    · rw [h.commands]
      exact List.mem_map_of_mem (Table.mem_of_lookup hf)
    · show t.progress.state.value = _
      rw [hp]
      rfl
    · cases proven with
      | true => exact hproven
      | false => exact absurd rfl htrue
  exact finish_safe (g := fun _ => some (p2.inner.live.anchorFingerprint H)) rfl h hf hp hnew
    (p2.inner.live.anchorFingerprint_ne H) hj fun p3 h3 => Safe.pure (.ok h3)

theorem recoverWith_safe {execute : Prog Label ProviderWorld Error OutcomeReceipt}
    (hexec : FoundPrepared H S c a p → Safe noGuard (contract H S c may) me (OnOk (Returned c.commandId)) execute p) :
    Safe noGuard (contract H S c may) me (OnOk (Returned c.commandId)) (recoverWith H S execute c a) p := by
  refine Safe.guard fun _ => Safe.ask ?_
  intro record p1 hi1 hr1 _ hreq
  obtain rfl : p1 = p := hr1
  have hreq' := hreq
  rw [h.commands] at hreq'
  obtain ⟨t, hf, -, hargs, rfl⟩ := require_tasks H S.commandKey hreq'
  have hid : t.id = c.commandId := id_of_findTask hf
  refine Safe.ask fun existing p2 _ hr2 _ hget => ?_
  obtain rfl : p2 = p1 := hr2
  rw [h.outcomes] at hget
  rcases get_receipts H S.outcomeKey hget with ⟨hnew, rfl⟩ | ⟨r, hfr, -, rfl⟩
  · dsimp only
    split_ifs with hstate
    · exact Safe.bind_ok hi1 (hexec (by rw [FoundPrepared, hreq]; exact congrArg Except.ok hstate)) fun r p3 _ h3 => Safe.pure (.ok h3)
    · exact proveOutcome_safe h hf hargs hnew
  · dsimp only
    split_ifs with hstate
    · exact Safe.bind_ok hi1
        (setState_safe (q := .committed r.anchorFingerprintAfter (h.receiptAnchor r (Table.mem_of_lookup hfr)))
          (a := some r.anchorFingerprintAfter) h (by rw [hid]; exact hf) rfl
          (fun r' hr' => .inr (by rw [hid, hfr] at hr'; cases hr'; rfl))
          (fun x hx => ⟨r, by rw [hid]; exact hfr, by cases hx; rfl⟩) nofun)
        fun _ p3 _ ⟨_, h3, _⟩ => Safe.pure (.ok (returned_of_receipt h3 hfr rfl rfl))
    · exact Safe.pure (.ok (returned_of_receipt h hfr rfl rfl))

end

/-- Both calls keep the contract, however deep they call each other. -/
theorem calls_safe (depth : Nat) (h : Settled H S tasks receipts p) :
    ((Startable H S c a fault p → may) → Safe noGuard (contract H S c may) me (OnOk (Returned c.commandId))
      (executeLifecycleCommand H S depth c a behaviour fault) p) ∧
    ((RecoveryStarts H S c a fault p → may) → Safe noGuard (contract H S c may) me (OnOk (Returned c.commandId))
      (recoverLifecycleCommand H S depth c a behaviour fault) p) := by
  induction depth with
  | zero => exact ⟨fun _ => Safe.fail .error, fun _ => Safe.fail .error⟩
  | succ depth ih =>
    refine ⟨fun hmay => executeWith_safe h hmay fun hopen => ih.2 fun hrec => ?_,
      fun hmay => recoverWith_safe h fun hprep => ih.1 fun hstart => hmay ⟨hprep, hstart⟩⟩
    obtain ⟨t, hf, hprep⟩ := hrec.1.task h
    exact absurd hprep (hopen t hf)

end Aegis.Lifecycle.CrashSafe
