/-
  Aegis.Effects.RollbackFence — both local files may go back together, the protected
  checkpoint does not.

  - `Recorded`: the checkpoint is the head of the history it took in, and every yield of the
    fence found the local journal to be that history.
  - `rollback_fenced`: a local journal that forked off below the checkpoint is never yielded.
-/

import Aegis.Effects.ProtectedSafety

namespace Aegis.Effects

open Data Txn Prog

variable {H : Hashing} {authorityId : String}

/-! ## The invariant -/

namespace Protected

variable (H authorityId)

/-- What a fence that yielded had found. -/
structure Fenced (recorded : List Link) (y : Yield) : Prop where
  current : y.store.currentGeneration = some y.generation
  pending : y.store.pendingRows = []
  known : y.generation ≤ recorded.length + 1
  /-- The checkpoint was at that generation, and its head that of the history up to there. -/
  checkpoint : y.checkpoint = some ⟨y.generation, (journalChain H authorityId).head (recorded.take (y.generation - 1))⟩
  /-- The active changes in the journal were that history. -/
  journal : y.store.activeRows.map (fun r => (r.changeId, r.mutationJson))
    = (recorded.take (y.generation - 1)).map fun l => (l.changeId, l.mutation.1.toJson)

structure Recorded (w : World) : Prop where
  store : ∃ t : Timeline, w.generation = t.generation H
  snapshots : ∀ x ∈ w.history.snapshots, ∃ t : Timeline, x.1 = t.generation H
  checkpoint : Headed H authorityId w
  fenced : ∀ y ∈ w.history.protectedYields, Fenced H authorityId w.history.recorded y

/-- The checkpoint stays, or goes on by one generation with the head that one more change gives. -/
inductive Extends (w w' : World) : Prop
  | same : w'.checkpoint = w.checkpoint → w'.history.recorded = w.history.recorded → Extends w w'
  | next (g : Nat) (head : String) (link : Link) : w.checkpoint = some ⟨g, head⟩ →
      w'.checkpoint = some ⟨g + 1, extendJournalHead H authorityId head g (g + 1) link.changeId (link.mutation.sha256 H)⟩ →
      w'.history.recorded = w.history.recorded ++ [link] → Extends w w'

def contract : Contract World where
  inv := Recorded H authorityId
  rely _ _ _ := True
  guar _ := Extends H authorityId
  rely_refl _ _ := trivial
  rely_trans _ _ := trivial
  guar_refl _ _ _ := .same rfl rfl

variable {H authorityId} {w : World}

theorem Fenced.extend {recorded more : List Link} {y : Yield} (h : Fenced H authorityId recorded y) :
    Fenced H authorityId (recorded ++ more) y := by
  have htake : (recorded ++ more).take (y.generation - 1) = recorded.take (y.generation - 1) := by
    have := h.known
    exact List.take_append_of_le_length (by omega)
  refine ⟨h.current, h.pending, ?_, by rw [htake]; exact h.checkpoint, by rw [htake]; exact h.journal⟩
  have := h.known
  simp only [List.length_append]
  omega

/-- A step on the local files, as far as the checkpoint is concerned. -/
theorem Recorded.store_step {g : GenerationDb} (h : Recorded H authorityId w) (me : Nat)
    (hg : ∃ t : Timeline, g = t.generation H) :
    (contract H authorityId).inv { w with generation := g } ∧
      (contract H authorityId).guar me w { w with generation := g } :=
  ⟨⟨hg, h.snapshots, h.checkpoint, h.fenced⟩, .same rfl rfl⟩

theorem contract_admits : ControlPlane.Admits H (contract H authorityId) (fun _ _ => True) fun _ _ => True where
  onLoad _ _ := trivial
  onPending _ _ := trivial
  onRead _ := trivial
  knows_rely _ _ := trivial
  seen_rely _ _ := trivial
  onPrepare {me w i m o g} hi h := by
    obtain ⟨t, ht⟩ := hi.store
    have hstep := hi.store_step me (Timeline.store_prepare (ht ▸ h))
    exact ⟨hstep.1, hstep.2, fun _ _ => trivial⟩
  onMarkApplied {me w i s o g} hi _ h := by
    obtain ⟨t, ht⟩ := hi.store
    have hstep := hi.store_step me (Timeline.store_markApplied (ht ▸ h))
    exact ⟨hstep.1, hstep.2, fun _ _ => trivial⟩
  onActivate {me w i s o g} hi _ h := by
    obtain ⟨t, ht⟩ := hi.store
    have hstep := hi.store_step me (Timeline.store_activate (ht ▸ h))
    exact ⟨hstep.1, hstep.2, fun _ _ => trivial⟩
  onExecute {me w c b d} hi _ _ := by
    cases b
    · exact ⟨⟨hi.store, hi.snapshots, hi.checkpoint, hi.fenced⟩, .same rfl rfl, trivial⟩
    · exact ⟨⟨hi.store, hi.snapshots, hi.checkpoint, hi.fenced⟩, .same rfl rfl, trivial⟩
  onYield hi _ _ := ⟨⟨hi.store, hi.snapshots, hi.checkpoint, hi.fenced⟩, .same rfl rfl⟩

theorem contract_advances : Admits H authorityId (fun _ _ => True) (contract H authorityId) where
  headed hi := hi.checkpoint
  onAdvance {me w} link hi _ := by
    refine ⟨⟨hi.store, hi.snapshots, headed_advanced w link, fun y hy => (hi.fenced y hy).extend⟩,
      .next _ _ link hi.checkpoint ?_ rfl⟩
    simp only [advanced, HashChain.head_concat]
    rfl

/-! ## The fence -/

section Fence

variable {me : Nat} {s : World} {ok : Label → World → Prop}

/-- What the fence yields was the history of the checkpoint: equal heads are of equal journals. -/
theorem fenced_of_locked (hH : Function.Injective H.sha256) {state state' : Option ExecutionState} {n : Nat}
    (hi : Recorded H authorityId w)
    (h : lockedActiveGeneration H authorityId w.generation state state' w.checkpoint = .ok n) :
    Fenced H authorityId w.history.recorded ⟨n, w.generation, w.execution.state, w.checkpoint⟩ := by
  obtain ⟨hlocked, links, heads, head, hheads, hcp, hhead⟩ := lockedActiveGeneration_ok h
  obtain ⟨hnil, hcur, -⟩ := GenerationDb.lockedActiveGeneration_eq_ok.mp hlocked
  obtain ⟨t, ht⟩ := hi.store
  have hn : t.current = n := by
    rw [ht] at hcur
    exact Option.some.inj hcur
  rw [ht, ← hn, Timeline.activeJournalHeads_generation] at hheads
  cases hheads
  have hrec := hi.checkpoint
  unfold Headed at hrec
  rw [hcp, Option.some.injEq, Checkpoint.mk.injEq] at hrec
  obtain ⟨hgen, hhd⟩ := hrec
  have hlen := t.length_journal
  have hjournal : t.journal = w.history.recorded := by
    refine HashChain.head_injective (show (journalChain H authorityId).Injective from journalChain_injective hH) ?_
    rw [headAt, if_neg (by omega), ← hn, ← hlen, Nat.add_sub_cancel, HashChain.heads_getElem? _ (Nat.le_refl _),
      List.take_length, Option.some.injEq] at hhead
    rw [hhead, hhd]
  have htake : w.history.recorded.take (n - 1) = w.history.recorded := by
    rw [hgen, Nat.add_sub_cancel, List.take_length]
  refine ⟨hcur, hnil, hgen.le, ?_, ?_⟩
  · rw [htake, hcp, hhd]
  · rw [htake, ← hjournal, ht, Timeline.activeRows_generation, Timeline.filter_active, Timeline.journal, ← List.map_take,
      List.map_map, List.map_map]
    rfl

theorem currentActiveGeneration_safe (hH : Function.Injective H.sha256) :
    Safe ok (contract H authorityId) me (OnOk fun _ _ => True) (currentActiveGeneration H authorityId) s := by
  refine Safe.read_bind fun _ _ _ _ => Safe.read_bind fun _ _ _ _ =>
    Safe.write fun n w1 w hi _ _ hw => ?_
  obtain ⟨n, hn, hw⟩ := Checks.ok_bind.mp hw
  cases hw
  have hfenced := fenced_of_locked hH hi hn
  refine ⟨⟨hi.store, hi.snapshots, hi.checkpoint, fun y hy => ?_⟩, .same rfl rfl, .ok trivial⟩
  rcases List.mem_append.mp hy with hy | hy
  · exact hi.fenced y hy
  · rw [List.mem_singleton.mp hy]
    exact hfenced

end Fence

/-! ## Any run -/

theorem restore_step (n me : Nat) (hi : Recorded H authorityId w) :
    (contract H authorityId).inv (restore n w) ∧ (contract H authorityId).guar me w (restore n w) := by
  unfold restore
  split
  · rename_i g x hx
    exact ⟨⟨hi.snapshots _ (List.mem_of_getElem? hx), hi.snapshots, hi.checkpoint, hi.fenced⟩, .same rfl rfl⟩
  · exact ⟨hi, .same rfl rfl⟩

theorem backup_step (me : Nat) (hi : Recorded H authorityId w) :
    (contract H authorityId).inv (backup w) ∧ (contract H authorityId).guar me w (backup w) := by
  refine ⟨⟨hi.store, fun x hx => ?_, hi.checkpoint, hi.fenced⟩, .same rfl rfl⟩
  rcases List.mem_append.mp hx with hx | hx
  · exact hi.snapshots x hx
  · rw [List.mem_singleton.mp hx]
    exact hi.store

theorem recorded_of_initialized (h : Initialized H authorityId w) : Recorded H authorityId w where
  store := ⟨.genesis, h.generation⟩
  snapshots := by
    rw [h.snapshots]
    nofun
  checkpoint := by
    unfold Headed
    rw [h.recorded]
    exact h.checkpoint
  fenced := by
    rw [h.protectedYields]
    nofun

theorem system_meets (hH : Function.Injective H.sha256) :
    (system H authorityId).Meets (contract H authorityId) fun _ _ _ => True where
  init _ := recorded_of_initialized
  body me k c _ hi := by
    have hA : ControlPlane.Admits H (contract H authorityId) _ _ := contract_admits
    cases k with
    | commit i m crash =>
      exact Safe.discard hi (commit_safe contract_advances hH hA hi)
    | recover =>
      exact Safe.discard hi (recover_safe contract_advances hH hA hi)
    | currentActiveGeneration =>
      exact Safe.discard hi (currentActiveGeneration_safe hH)
    | backup =>
      intro w hi _ _
      exact ⟨(backup_step me hi).1, (backup_step me hi).2, trivial⟩
    | restore n =>
      intro w hi _ _
      exact ⟨(restore_step n me hi).1, (restore_step n me hi).2, trivial⟩
  apart := .inr fun _ _ _ _ _ _ _ _ => trivial
  stable _ _ _ _ _ _ _ _ h := h

/-- With nothing committed the fence yields the first generation. -/
theorem yields_genesis (H : Hashing) (authorityId : String) :
    ∃ c, (system H authorityId).Reach c ∧ c.st.history.protectedYields.map (·.generation) = [1] := by
  have h0 : (system H authorityId).Reach
      ⟨{ Sample.world with checkpoint := some ⟨1, genesisJournalHead H authorityId⟩ }, []⟩ :=
    .init _ ⟨rfl, rfl, rfl, rfl, rfl, rfl⟩
  have h1 := h0.step (.call _ .currentActiveGeneration trivial)
  have h2 := h1.step (.txn _ 0 _ _ _ _ rfl trivial)
  have h3 := h2.step (.txn _ 0 _ _ _ _ rfl trivial)
  have h4 := h3.step (.txn _ 0 _ _ _ _ rfl trivial)
  refine ⟨_, h4, ?_⟩
  simp [Prog.commit, lockedActiveGeneration, Sample.world, GenerationDb.lockedActiveGeneration, GenerationDb.pendingRows,
    GenerationDb.localHeads, GenerationDb.activeJournalHeads, currentCheckpoint, headAt, bind, Except.bind, pure,
    Except.pure]

end Protected

end Aegis.Effects
