/-
  Aegis.Lifecycle.ProviderRuns — the crash-safe provider used directly: any commands and
  arguments, a crash between any two transactions, restarts on the same files, one call at a
  time, and a live state that others may change between calls.

  Proved (`provider_accounts`): an operation is started at most once per command, and only
  while the live anchor is the one the command expects; a receipt belongs to a command whose
  mutation was started; a committed command has a receipt with its anchor; all receipts
  returned for a command carry the same anchor; and `execute_lifecycle_command` and
  `recover_lifecycle_command` call each other once at most: what a third call would do does
  not matter.
-/

import Aegis.Lifecycle.ProviderSafety

namespace Aegis.Lifecycle.CrashSafe

open Data Txn Prog

variable (H : Hashing) (S : CrashSafe)

/-! ## The recursion -/

variable {H S} {p p' : ProviderWorld} {tasks : List Task} {receipts : List OutcomeReceipt} {c : Command} {a : Args}
  {x y : Prog Label ProviderWorld Error OutcomeReceipt} {me : Nat}

theorem recoverWith_congr (h : ∀ record, p.commandStore.require H S.commandKey c (argumentDigest H c a) = .ok record →
      record.state = .prepared → x.run p = y.run p) :
    (recoverWith H S x c a).run p = (recoverWith H S y c a).run p := by
  refine run_bind_congr fun _ p1 h1 => run_bind_congr fun record p2 h2 => run_bind_congr fun existing p3 h3 => ?_
  rw [run_raiseIf] at h1
  obtain rfl : p = p1 := congrArg Prod.snd h1
  simp only [requireCommand, run_query, Prod.mk.injEq] at h2
  obtain ⟨hreq, rfl⟩ := h2
  obtain rfl : p = p3 := congrArg Prod.snd h3
  cases existing with
  | some r => rfl
  | none =>
    dsimp only
    split_ifs with hstate
    · rw [run_bind, run_bind, h record hreq hstate]
    · rfl

theorem executeWith_congr {behaviour : Behaviour} {fault : ProviderFault} (h : ∀ pre record s, pre.isObj = true →
      p.commandStore.prepare H S.commandKey c (argumentDigest H c a) pre providerId = .ok (record, s) →
      record.state = .mutationStarted → x.run { p with commandStore := s } = y.run { p with commandStore := s }) :
    (executeWith H S x c a behaviour fault).run p = (executeWith H S y c a behaviour fault).run p := by
  refine run_bind_congr fun _ p1 h1 => run_bind_congr fun existing p2 h2 => ?_
  rw [run_raiseIf] at h1
  obtain rfl : p = p1 := congrArg Prod.snd h1
  obtain rfl : p = p2 := congrArg Prod.snd h2
  cases existing with
  | some r => rfl
  | none =>
    refine run_bind_congr fun _ p3 h3 => run_bind_congr fun pre p4 h4 => run_bind_congr fun record p5 h5 => ?_
    obtain rfl : p = p3 := congrArg Prod.snd h3
    simp only [run_query, Prod.mk.injEq] at h4
    obtain ⟨hpre, rfl⟩ := h4
    simp only [prepare, run_atomic, answer, commit] at h5
    cases hprep : p.commandStore.prepare H S.commandKey c (argumentDigest H c a) pre providerId with
    | error e => simp [hprep, bind, Except.bind, Except.map] at h5
    | ok q =>
      simp only [hprep, bind, Except.bind, pure, Except.pure, Except.map, Prod.mk.injEq, Except.ok.injEq] at h5
      obtain ⟨rfl, rfl⟩ := h5
      split_ifs with hstate
      · exact h pre q.1 q.2 (Live.preObservation_isObj H hpre) hprep hstate
      · rfl

/-- `execute_lifecycle_command` does not depend on what its call of `recover_lifecycle_command`
    would do with a command it finds prepared. -/
theorem execute_recursion (h : Settled H S tasks receipts p) (x y : Prog Label ProviderWorld Error OutcomeReceipt)
    (behaviour : Behaviour) (fault : ProviderFault) :
    (executeWith H S (recoverWith H S x c a) c a behaviour fault).run p
      = (executeWith H S (recoverWith H S y c a) c a behaviour fault).run p := by
  refine executeWith_congr fun pre record s hpre hprep hstarted => recoverWith_congr fun record' hreq hprepared => ?_
  rw [h.commands] at hprep
  rcases prepare_tasks H S.commandKey hpre hprep with ⟨t, hf, -, -, rfl, rfl⟩ | ⟨-, t, -, -, -, hp, rfl, -⟩
  · obtain ⟨t', hf', -, -, rfl⟩ := require_tasks H S.commandKey hreq
    rw [hf] at hf'
    cases hf'
    rw [hstarted] at hprepared
    cases hprepared
  · rw [show t.record.state = t.progress.state from rfl, hp] at hstarted
    cases hstarted

/-- Nor does `recover_lifecycle_command` depend on what its call of `execute_lifecycle_command`
    would do with one it finds started. -/
theorem recover_recursion (h : Settled H S tasks receipts p) (x y : Prog Label ProviderWorld Error OutcomeReceipt)
    (behaviour : Behaviour) (fault : ProviderFault) :
    (recoverWith H S (executeWith H S x c a behaviour fault) c a).run p
      = (recoverWith H S (executeWith H S y c a behaviour fault) c a).run p := by
  refine recoverWith_congr fun record hreq hprepared => executeWith_congr fun pre record' s hpre hprep hstarted => ?_
  rw [h.commands] at hreq hprep
  obtain ⟨t, hf, -, -, rfl⟩ := require_tasks H S.commandKey hreq
  rcases prepare_tasks H S.commandKey hpre hprep with ⟨t', hf', -, -, rfl, rfl⟩ | ⟨hnone, -⟩
  · rw [hf] at hf'
    cases hf'
    rw [hstarted] at hprepared
    cases hprepared
  · rw [hf] at hnone
    cases hnone

/-! ## Runs -/

/-- What a step of any call does. -/
structure Proceeds (H : Hashing) (p p' : ProviderWorld) : Prop where
  outcomes : ∀ row ∈ p.outcomeStore, row ∈ p'.outcomeStore
  starts : p'.inner.starts = p.inner.starts ∨ ∃ c, p'.inner.starts = p.inner.starts ++ [c] ∧
    c.expectedAnchorFingerprint = p.inner.live.anchorFingerprint H
  justified : ∀ row ∈ p'.outcomeStore, row ∉ p.outcomeStore → Justified H row p

theorem Does.proceeds {may : Prop} (h : Does H c may p p') : Proceeds H p p' :=
  ⟨h.outcomes, h.starts.imp_right fun ⟨h1, h2, _⟩ => ⟨c, h1, h2⟩, h.justified⟩

variable (H S) in
def runContract : Contract ProviderWorld :=
  Contract.alone (fun p => ∃ tasks receipts, Settled H S tasks receipts p) (Proceeds H)
    fun _ _ => ⟨fun _ h => h, .inl rfl, fun _ h hn => absurd h hn⟩

/-- The command a call is about. -/
def Call.commandId? : Call → Option String
  | .execute c _ _ _ => some c.commandId
  | .recover c _ _ _ => some c.commandId
  | _ => none

/-- A call of a command answers with its stored receipt, any other with none. -/
def Answered (k : Call) : Except Error (Option OutcomeReceipt) → ProviderWorld → Prop :=
  OnOk fun o p => ∀ r, o = some r → ∃ i, k.commandId? = some i ∧ Returned i r p

theorem call_safe {k : Call} (h : Settled H S tasks receipts p) (hk : k.commandId? = some c.commandId)
    (hx : Safe noGuard (contract H S c True) me (OnOk (Returned c.commandId)) x p) :
    Safe noGuard (runContract H S) me (Answered k) (do let r ← x; pure (some r)) p := by
  have hx' : Safe noGuard (runContract H S) me (OnOk (Returned c.commandId)) x p :=
    Safe.conseq (C := contract H S c True) (fun _ => Iff.rfl) (fun _ _ h => h)
      (fun _ _ _ (h : Does H c True _ _) => h.proceeds) hx
  refine Safe.bind_ok ⟨_, _, h⟩ hx' fun r p' _ hr => Safe.pure (.ok fun r' hr' => ?_)
  cases hr'
  exact ⟨_, hk, hr⟩

theorem reopen_safe (hi : (runContract H S).inv p) :
    Safe noGuard (runContract H S) me (Answered .reopen) (do reopen H S; pure none) p := by
  have hreopen : Safe noGuard (runContract H S) me (OnOk fun _ _ => True) (reopen H S) p :=
    Safe.ask fun _ _ _ _ _ _ => Safe.query fun _ _ _ _ _ _ => trivial
  exact Safe.bind_ok hi hreopen fun _ _ _ _ => Safe.pure (.ok nofun)

theorem external_safe (depth : Nat) {change : Live → Live} (h : Settled H S tasks receipts p) :
    Safe noGuard (runContract H S) me (Answered (.external change)) (body H S depth (.external change)) p := by
  refine Safe.modify_bind fun p1 _ hr1 _ => ?_
  obtain rfl : p1 = p := hr1
  exact ⟨⟨_, _, h.commands, h.outcomes, h.taskIds, h.receiptIds, h.receiptAnchor, h.receiptTask, h.committedReceipt,
    h.startIds, h.startTask⟩, ⟨fun _ h => h, .inl rfl, fun _ h hn => absurd h hn⟩, Safe.pure (.ok nofun)⟩

theorem settled_fresh (h : Fresh p) : Settled H S [] [] p := by
  obtain ⟨h1, h2, h3, -⟩ := h
  exact ⟨h1, h2, .nil, .nil, nofun, nofun, nofun, by simp [h3], by simp [h3]⟩

theorem system_meets (depth : Nat) : (system H S depth).Meets (runContract H S) Answered where
  init p h := ⟨_, _, settled_fresh h⟩
  body me k conf _ hinv := by
    obtain ⟨tasks, receipts, h⟩ := hinv
    cases k with
    | execute c a behaviour fault => exact call_safe h rfl ((calls_safe depth h).1 fun _ => trivial)
    | recover c a behaviour fault =>
      exact call_safe h rfl ((calls_safe depth h).2 fun _ => trivial)
    | reopen => exact reopen_safe ⟨_, _, h⟩
    | external change => exact external_safe depth h
  apart := .inl fun _ _ h => h
  stable _ k r p p' _ _ hg h := by
    intro o hr r' ho
    obtain ⟨i, hi, h1, row, h2, h3⟩ := h o hr r' ho
    exact ⟨i, hi, h1, row, (show Proceeds H p p' from hg).outcomes row h2, h3⟩

/-! ## The provider's accounts -/

section

variable (h : Settled H S tasks receipts p)
include h

theorem receipt_command {row : OutcomeRow} (hrow : row ∈ p.outcomeStore) :
    ∃ crow ∈ p.commandStore, crow.commandId = row.commandId ∧
      (crow.state = ProviderState.mutationStarted.value ∨ crow.state = ProviderState.committed.value) := by
  rw [h.outcomes] at hrow
  obtain ⟨r, hr, rfl⟩ := List.mem_map.mp hrow
  obtain ⟨t, hf, hp⟩ := h.receiptTask r hr
  refine ⟨t.row H S.commandKey, ?_, id_of_findTask hf, ?_⟩
  · rw [h.commands]
    exact List.mem_map_of_mem (Table.mem_of_lookup hf)
  · show t.progress.state.value = _ ∨ t.progress.state.value = _
    rcases hp with hp | hp
    · exact .inl (by rw [hp]; rfl)
    · cases hq : t.progress with
      | committed x hx => exact .inr rfl
      | prepared | started => rw [hq] at hp; cases hp

theorem committed_receipt {crow : ProviderRow} (hrow : crow ∈ p.commandStore)
    (hs : crow.state = ProviderState.committed.value) :
    ∃ row ∈ p.outcomeStore, row.commandId = crow.commandId ∧
      crow.anchorFingerprintAfter = some row.anchorFingerprintAfter := by
  rw [h.commands] at hrow
  obtain ⟨t, ht, rfl⟩ := List.mem_map.mp hrow
  have hstate : t.progress.state = .committed := ProviderState.value_injective hs
  cases hp : t.progress with
  | prepared | started => rw [hp] at hstate; cases hstate
  | committed x hx =>
    obtain ⟨r, hr, hra⟩ := h.committedReceipt t ht x (by rw [hp]; rfl)
    refine ⟨r.row H S.outcomeKey, ?_, id_of_findReceipt hr, ?_⟩
    · rw [h.outcomes]
      exact List.mem_map_of_mem (Table.mem_of_lookup hr)
    · show t.progress.anchor = some r.anchorFingerprintAfter
      rw [hp, hra]
      rfl

theorem outcomes_unique {row row' : OutcomeRow} (hrow : row ∈ p.outcomeStore)
    (hrow' : row' ∈ p.outcomeStore) (hid : row.commandId = row'.commandId) : row = row' := by
  rw [h.outcomes] at hrow hrow'
  obtain ⟨r, hr, rfl⟩ := List.mem_map.mp hrow
  obtain ⟨r', hr', rfl⟩ := List.mem_map.mp hrow'
  rw [List.inj_on_of_nodup_map h.receiptIds hr hr' hid]

end

/-- The accounts of the crash-safe provider, at every point of every run. -/
theorem provider_accounts {depth : Nat} {conf : Conf Call Label ProviderWorld Error (Option OutcomeReceipt)}
    (hc : (system H S depth).Reach conf) :
    (∀ i, (conf.st.inner.starts.map Command.commandId).count i ≤ 1) ∧
    (∀ conf', (system H S depth).Step conf conf' → conf'.st.inner.starts = conf.st.inner.starts ∨
      ∃ c, conf'.st.inner.starts = conf.st.inner.starts ++ [c] ∧
        c.expectedAnchorFingerprint = conf.st.inner.live.anchorFingerprint H) ∧
    (∀ row ∈ conf.st.outcomeStore, ∃ crow ∈ conf.st.commandStore, crow.commandId = row.commandId ∧
      (crow.state = ProviderState.mutationStarted.value ∨ crow.state = ProviderState.committed.value)) ∧
    (∀ crow ∈ conf.st.commandStore, crow.state = ProviderState.committed.value →
      ∃ row ∈ conf.st.outcomeStore, row.commandId = crow.commandId ∧
        crow.anchorFingerprintAfter = some row.anchorFingerprintAfter) ∧
    (∀ (i j : Nat) k k' r r' commandId, conf.clients[i]? = some (.returned k (.ok (some r))) →
      conf.clients[j]? = some (.returned k' (.ok (some r'))) → k.commandId? = some commandId →
      k'.commandId? = some commandId →
      r.commandId = commandId ∧ r.anchorFingerprintAfter = r'.anchorFingerprintAfter) ∧
    ∀ (c : Command) (a : Args) behaviour fault further,
      (executeLifecycleCommand H S (depth + 2) c a behaviour fault).run conf.st =
        (executeWith H S (recoverWith H S further c a) c a behaviour fault).run conf.st ∧
      (recoverLifecycleCommand H S (depth + 2) c a behaviour fault).run conf.st =
        (recoverWith H S (executeWith H S further c a behaviour fault) c a).run conf.st := by
  have hm := system_meets (H := H) (S := S) depth
  obtain ⟨tasks, receipts, h⟩ := hm.inv hc
  refine ⟨fun i => List.nodup_iff_count_le_one.mp h.startIds i, fun conf' hs => ?_, fun row => receipt_command h,
    fun crow => committed_receipt h, fun i j k k' r r' commandId hi hj hk hk' => ?_,
    fun c a behaviour fault further => ⟨execute_recursion h _ _ behaviour fault, recover_recursion h _ _ behaviour fault⟩⟩
  · rcases hm.step hc hs with heq | ⟨_, hg⟩
    · exact .inl (by rw [heq])
    · exact (show Proceeds H conf.st conf'.st from hg).starts
  · obtain ⟨_, hid, hr, row, hrow, hrid, hra⟩ := hm.returned hc hi _ rfl r rfl
    obtain ⟨_, hid', -, row', hrow', hrid', hra'⟩ := hm.returned hc hj _ rfl r' rfl
    rw [hk] at hid
    rw [hk'] at hid'
    cases hid
    cases hid'
    rw [← hra, ← hra', outcomes_unique h hrow hrow' (hrid.trans hrid'.symm)]
    exact ⟨hr, rfl⟩

/-! ## A run -/

instance (depth : Nat) (k : Call) (conf : Conf Call Label ProviderWorld Error (Option OutcomeReceipt)) :
    Decidable ((system H S depth).start k conf) := inferInstanceAs (Decidable conf.quiet)

instance (depth : Nat) (l : Label) (w : ProviderWorld) : Decidable ((system H S depth).ok l w) :=
  inferInstanceAs (Decidable True)

namespace Sample

def provider : CrashSafe := ⟨Lifecycle.Sample.operations, "command key", "outcome key"⟩

def world : ProviderWorld := ⟨[], [], Lifecycle.Sample.live, [], []⟩

/-- A migration that crashes before its receipt, a restart, and the recovery of the command. -/
def migrateAndRecover : List (System.Move Call) :=
  let c := Lifecycle.Sample.first .migration
  [.call (.execute c .none Lifecycle.Sample.migrate .afterMutationBeforeReceipt)] ++ List.replicate 6 (.txn 0) ++
  [.ret 0, .call .reopen, .txn 1, .txn 1, .ret 1, .call (.recover c .none Lifecycle.Sample.migrate .none)] ++
  List.replicate 6 (.txn 2) ++ [.ret 2]

end Sample

theorem provider_accounts_migrateAndRecover :
    ∃ conf, (system Hashing.light Sample.provider 2).Reach conf ∧ conf.st.outcomeStore.length = 1 ∧
      conf.clients.length = 3 ∧ ∀ i, (conf.st.inner.starts.map Command.commandId).count i ≤ 1 := by
  obtain ⟨conf, hc, h1, h2⟩ := System.exec_find (S := system Hashing.light Sample.provider 2) (s := Sample.world)
    Sample.migrateAndRecover (fun conf => conf.st.outcomeStore.length = 1 ∧ conf.clients.length = 3)
    ⟨rfl, rfl, rfl, rfl⟩ (by decide +kernel)
  exact ⟨conf, hc, h1, h2, (provider_accounts hc).1⟩

end Aegis.Lifecycle.CrashSafe
