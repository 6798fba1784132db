/-
  Aegis.Lifecycle.Recovering — `ProviderStateMachineRecoveringLifecycleCoordinator` over the
  crash-safe provider: `reconcile` asks the provider to recover the command.

  `execute` compares the command's fence with the highest committed one; `reconcile` does not,
  and `recover_lifecycle_command` executes a command it finds prepared.
  - `fencing_holds`: in every run in which `reconcile` is called for a command the provider
    would start only while its fence is above the highest committed one (`FenceCurrent`), no
    operation is started for a command at or below it.
  - `fencing_breaks`: otherwise it may be. The first command's provider call crashes between
    prepare and mutation, the second commits, and `reconcile` of the first starts it.
-/

import Aegis.Lifecycle.AtMostOnce
import Aegis.Lifecycle.ProviderRuns

namespace Aegis.Lifecycle.Recovering

open Data Txn Prog Coordinator

variable (H : Hashing) (key : String) (S : CrashSafe) (depth : Nat)

/-- The end of `reconcile`. -/
def resolve (command : Command) (args : Args) (behaviour : Behaviour) (providerFault : ProviderFault)
    (record : JournalRecord) : Prog Label (World ProviderWorld) Error CommandReceipt := do
  let r ← (CrashSafe.recoverLifecycleCommand H S depth command args behaviour providerFault).zoom providerLens
  raiseIf (r.providerId ≠ S.face.providerId) (.outcome .providerIdMismatch (some command.commandId))
  let anchor ← anchorFingerprint H (CrashSafe.asProvider H S depth)
  raiseIf (r.anchorFingerprintAfter ≠ anchor) (.outcome .anchorPostconditionMismatch (some command.commandId))
  let receipt ← commitReceipt H key record r.anchorFingerprintAfter
  pure { receipt with replayed := true }

/-- `reconcile` is called for a command the provider would start only above the committed fence. -/
def FenceCurrent : Call → World ProviderWorld → Prop
  | .reconcile command args _ providerFault, w =>
    CrashSafe.RecoveryStarts H S command args providerFault w.provider →
      w.journal.journalMeta.highestCommittedFence < command.fenceToken
  | _, _ => True

/-- One coordinator and its provider; `may` says which calls may be made. -/
def recoveringSystem (may : Call → World ProviderWorld → Prop) :
    System Call Label (World ProviderWorld) Error Answer where
  init w := Fresh H key w ∧ CrashSafe.Fresh w.provider
  body := body H key (CrashSafe.asProvider H S depth) (resolve H key S depth)
  start call c := c.quiet ∧ may call c.st
  ok _ _ := True

/-- An operation is started only for a command above the committed fence. -/
def StartsFenced (w w' : World ProviderWorld) : Prop :=
  w'.provider.inner.starts = w.provider.inner.starts ∨
    ∃ c : Command, w'.provider.inner.starts = w.provider.inner.starts ++ [c] ∧
      w.journal.journalMeta.highestCommittedFence < c.fenceToken

theorem highest_of_readMeta {j : Journal} {m : JournalMeta} (h : j.readMeta H key = .ok m) : j.journalMeta = m := by
  simp only [Journal.readMeta] at h
  split_ifs at h
  exact Except.ok.inj h

def fencedRegime : Regime H key (CrashSafe.asProvider H S depth) :=
  { soloRegime H key (CrashSafe.asProvider H S depth) with
    pinv := fun p => ∃ tasks receipts, CrashSafe.Settled H S tasks receipts p
    prov := fun c => CrashSafe.contract H S c True
    allowed := fun c w => w.journal.journalMeta.highestCommittedFence < c.fenceToken
    extra := StartsFenced
    prov_inv := Iff.rfl
    rely_provider := fun h => congrArg World.provider h
    allowed_check := fun hm hr hlt => by
      rw [show _ = _ from hr, highest_of_readMeta H key hm]
      exact hlt
    allowed_rely := fun h hr => by rwa [show _ = _ from hr]
    allowed_congr := fun hm h => by rwa [hm]
    extra_open := fun hp _ => .inl (congrArg (fun p => p.inner.starts) hp)
    extra_done := fun _ _ _ _ => .inl rfl
    extra_provider := fun hallow _ hg =>
      (show CrashSafe.Does H _ True _ _ from hg).starts.imp_right fun h => ⟨_, h.1, hallow⟩
    extra_disturb := .inl rfl
    inv_disturb := fun ⟨_, _, h⟩ => ⟨_, _, h.commands, h.outcomes, h.taskIds, h.receiptIds, h.receiptAnchor,
      h.receiptTask, h.committedReceipt, h.startIds, h.startTask⟩
    invoke_safe := fun me c args behaviour fault p ⟨_, _, h⟩ =>
      Safe.bind ⟨_, _, h⟩ ((CrashSafe.calls_safe depth h).1 fun _ => trivial) (fun _ _ _ _ => Safe.pure fun _ => trivial)
        fun _ _ _ _ => nofun }

variable {H key S depth}

theorem resolve_safe {c : Command} {args : Args} {behaviour : Behaviour} {pf : ProviderFault} {r : JournalRecord}
    {w0 w : World ProviderWorld} {me : Nat} (h : Regime.Ambiguous (fencedRegime H key S depth) c r w0 w)
    (hcurrent : FenceCurrent H S (.reconcile c args behaviour pf) w0) :
    Safe (fencedRegime H key S depth).ok (fencedRegime H key S depth).contract me (OnOk (Receipted H key))
      (resolve H key S depth c args behaviour pf r) w := by
  obtain ⟨hprov, hmeta⟩ := h.unmoved trivial
  obtain ⟨_, _, hsettled⟩ := h.inv.2
  have hmay : CrashSafe.RecoveryStarts H S c args pf w.provider →
      w.journal.journalMeta.highestCommittedFence < c.fenceToken := by
    rw [hprov, hmeta]
    exact hcurrent
  have hrecover : Safe (fencedRegime H key S depth).ok (fencedRegime H key S depth).contract me _
      ((CrashSafe.recoverLifecycleCommand H S depth c args behaviour pf).zoom providerLens) w := Safe.zoom (L := providerLens)
    (J := fun x => (fencedRegime H key S depth).held r x ∧ x.journal.journalMeta = w.journal.journalMeta)
    (fun x hx _ => hx.2) (fun x x' _ hx hr => ⟨by rwa [show _ = _ from hr], congrArg World.provider hr⟩)
    (fun _ _ _ => trivial)
    (fun x p hx hj hp hg => by
      obtain ⟨⟨b, hb⟩, -⟩ := hx
      refine ⟨⟨⟨b, hb.journal, hb.providers, hb.starters, hb.started, hb.invocations, hb.invoked⟩, hp⟩, ⟨fun i _ =>
        ⟨fun y hy => ⟨y, hy, .refl y⟩, fun _ hm => hm, fun _ _ hn => hn⟩, ?_⟩,
        (fencedRegime H key S depth).held_congr (w := x) rfl hj.1, hj.2⟩
      exact (show CrashSafe.Does H c _ _ _ from hg).starts.imp_right fun ⟨h1, _, hlt⟩ => ⟨c, h1, by rw [hj.2]; exact hlt⟩)
    ⟨h.held, rfl⟩ ((CrashSafe.calls_safe depth hsettled).2 hmay)
  unfold resolve
  refine Safe.bind_ok (M := fun _ x => (fencedRegime H key S depth).held r x) h.inv
    (hrecover.mono h.inv fun _ _ _ hx _ _ => hx.2.1) fun receipt w1 hi1 hheld => ?_
  refine Safe.guard fun _ => Safe.read_bind fun w2 hi2 hr2 _ => ?_
  refine Safe.guard fun hanchor => ?_
  have hne : receipt.anchorFingerprintAfter ≠ "" := by
    rw [not_not.mp hanchor]
    exact Live.anchorFingerprint_ne H _
  have hheld2 : (fencedRegime H key S depth).held r w2 :=
    @(fencedRegime H key S depth).held_rely me _ _ _ hheld hr2
  exact Safe.bind_ok hi2 (Regime.commitReceipt_safe me hheld2 hne fun _ _ _ _ _ _ _ _ => .inl rfl)
    fun rc w3 _ h => Safe.pure (.ok h.2)

theorem fenced_meets : (recoveringSystem H key S depth (FenceCurrent H S)).Meets (fencedRegime H key S depth).contract
    (Regime.Post (fencedRegime H key S depth)) :=
  Regime.meets (fun _ hw => ⟨hw.1, _, _, CrashSafe.settled_fresh hw.2⟩) rfl rfl
    (fun _ _ _ _ _ _ _ _ hstart h => resolve_safe h hstart.2) (.inl fun _ _ h => h.1)

/-- While `reconcile` is called with current fences only, every operation is started above the
    committed fence. -/
theorem fencing_holds {c c' : Conf Call Label (World ProviderWorld) Error Answer}
    (hc : (recoveringSystem H key S depth (FenceCurrent H S)).Reach c)
    (hs : (recoveringSystem H key S depth (FenceCurrent H S)).Step c c') :
    c'.st.provider.inner.starts = c.st.provider.inner.starts ∨
      ∃ command : Command, c'.st.provider.inner.starts = c.st.provider.inner.starts ++ [command] ∧
        c.st.journal.journalMeta.highestCommittedFence < command.fenceToken := by
  rcases fenced_meets.step hc hs with heq | ⟨_, hg⟩
  · exact .inl (by rw [heq])
  · exact hg.2

/-! ## A start behind the fence -/

instance (may : Call → World ProviderWorld → Prop) [∀ k w, Decidable (may k w)] (k : Call)
    (c : Conf Call Label (World ProviderWorld) Error Answer) :
    Decidable ((recoveringSystem H key S depth may).start k c) := inferInstanceAs (Decidable (_ ∧ _))

instance (may : Call → World ProviderWorld → Prop) (l : Label) (w : World ProviderWorld) :
    Decidable ((recoveringSystem H key S depth may).ok l w) := inferInstanceAs (Decidable True)

namespace Sample

def world : World ProviderWorld := ⟨Journal.create Hashing.light "key", CrashSafe.Sample.world, [], []⟩

def firstSnapshot : Command := Lifecycle.Sample.first .snapshot

def secondSnapshot : Command := Lifecycle.Sample.second .snapshot

/-- The provider crashes with the first command prepared; the second commits. -/
def prepareFirst : List (System.Move Call) :=
  ([.call (.issue "first" .snapshot "resource"), .txn 0, .txn 0, .txn 0, .ret 0,
    .call (.issue "second" .snapshot "resource"), .txn 1, .txn 1, .txn 1, .ret 1,
    .call (.execute firstSnapshot Lifecycle.Sample.args Lifecycle.Sample.snapshot .afterPrepareBeforeMutation .none)] :
      List (System.Move Call)) ++
  List.replicate 10 (.txn 2) ++
  [.ret 2, .call (.execute secondSnapshot Lifecycle.Sample.args Lifecycle.Sample.snapshot .none .none)] ++
  List.replicate 16 (.txn 3) ++ [.ret 3]

/-- `reconcile` of the first, up to its operation. -/
def reconcileFirst : List (System.Move Call) :=
  .call (.reconcile firstSnapshot Lifecycle.Sample.args Lifecycle.Sample.snapshot .none) :: List.replicate 9 (.txn 4)

end Sample

instance (call : Call) (w : World ProviderWorld) : Decidable (FenceCurrent H S call w) := by
  unfold FenceCurrent
  split <;> infer_instance

theorem fencing_holds_prepareFirst :
    ∃ c c' : Conf Call Label (World ProviderWorld) Error Answer, c.st.provider.inner.starts = [] ∧ c'.st.provider.inner.starts = [Sample.secondSnapshot] ∧
      (c'.st.provider.inner.starts = c.st.provider.inner.starts ∨
        ∃ command : Command, c'.st.provider.inner.starts = c.st.provider.inner.starts ++ [command] ∧
          c.st.journal.journalMeta.highestCommittedFence < command.fenceToken) := by
  obtain ⟨c, c', hc, hs, h1, h2⟩ := System.exec_find_step
    (S := recoveringSystem Hashing.light "key" CrashSafe.Sample.provider 2
      (FenceCurrent Hashing.light CrashSafe.Sample.provider))
    (s := Sample.world) (Sample.prepareFirst.take 33) (.txn 3)
    (fun c c' => c.st.provider.inner.starts = [] ∧ c'.st.provider.inner.starts = [Sample.secondSnapshot])
    ⟨⟨rfl, rfl, rfl⟩, rfl, rfl, rfl, rfl⟩ (by decide +kernel)
  exact ⟨c, c', h1, h2, fencing_holds hc hs⟩

/-- `reconcile` starts the first command after the second, with the higher fence, has committed. -/
theorem fencing_breaks :
    ∃ c c', (recoveringSystem Hashing.light "key" CrashSafe.Sample.provider 2 fun _ _ => True).Reach c ∧
      (recoveringSystem Hashing.light "key" CrashSafe.Sample.provider 2 fun _ _ => True).Step c c' ∧
      c'.st.provider.inner.starts = c.st.provider.inner.starts ++ [Sample.firstSnapshot] ∧
      Sample.firstSnapshot.fenceToken ≤ c.st.journal.journalMeta.highestCommittedFence :=
  System.exec_find_step (S := recoveringSystem Hashing.light "key" CrashSafe.Sample.provider 2 fun _ _ => True)
    (s := Sample.world) (Sample.prepareFirst ++ Sample.reconcileFirst) (.txn 4)
    (fun c c' => c'.st.provider.inner.starts = c.st.provider.inner.starts ++ [Sample.firstSnapshot] ∧
      Sample.firstSnapshot.fenceToken ≤ c.st.journal.journalMeta.highestCommittedFence)
    ⟨⟨rfl, rfl, rfl⟩, rfl, rfl, rfl, rfl⟩ (by decide +kernel)

end Aegis.Lifecycle.Recovering
