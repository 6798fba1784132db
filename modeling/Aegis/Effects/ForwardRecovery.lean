/-
  Aegis.Effects.ForwardRecovery — coordinators on the same two files, interleaved transaction
  by transaction, with a crash after any of them.

  - `Encodes`: the files say what a timeline says, and the history that its executed changes
    were applied, each once and in order.
  - `contract_admits`: every transaction moves along the timeline, whatever its caller read
    before others went on. What a caller knows of a change it read stays true (`Holds`), since
    a stored row changes in nothing but its status.
  - `forward_recovery`: so the two files are never apart by more than the one pending change.
-/

import Aegis.Effects.CallSafety
import Aegis.Effects.Timeline

namespace Aegis.Effects

open Data Txn Prog

/-- The mutations of the changes, one after the other. -/
def AuthorizationState.replay (a : AuthorizationState) (links : List Link) : Except Error AuthorizationState :=
  links.foldlM (fun a l => a.applyMutation l.mutation.1) a

theorem AuthorizationState.replay_concat {a b c : AuthorizationState} {links : List Link} {l : Link}
    (h : a.replay links = .ok b) (hl : b.applyMutation l.mutation.1 = .ok c) : a.replay (links ++ [l]) = .ok c := by
  unfold replay at h ⊢
  rw [List.foldlM_append, h]
  simp [hl, bind, Except.bind, pure, Except.pure]

namespace ControlPlane

/-- No change is pending and both generations are the yielded one. -/
structure Converged (y : Yield) : Prop where
  pending : y.store.pendingRows = []
  current : y.store.currentGeneration = some y.generation
  applied : y.state.map (·.appliedGeneration) = some y.generation

variable (H : Hashing)

structure Encodes (t : Timeline) (w : World) : Prop where
  generation : w.generation = t.generation H
  state : w.execution.state = some (t.state H)
  replayed : w.history.origin.replay t.done = .ok w.execution.authorization
  applications : w.history.applications = t.done.map Link.changeId
  yields : ∀ y ∈ w.history.yields, Converged y

/-- A stored change, but for its status. -/
def Holds (c : Change) (w : World) : Prop := c.bare ∈ w.generation.changes.map ChangeRow.bare

def applied (w : World) : Nat := w.execution.state.elim 0 (·.appliedGeneration)

/-- What other coordinators may do. -/
structure Onward (w w' : World) : Prop where
  rows : ∀ r ∈ w.generation.changes.map ChangeRow.bare, r ∈ w'.generation.changes.map ChangeRow.bare
  applied : applied w ≤ applied w'

/-- An execution state read earlier. -/
def Seen (s : Option ExecutionState) (w : World) : Prop := ∀ s', s = some s' → s'.appliedGeneration ≤ applied w

variable {H} {t : Timeline} {w w' : World} {c : Change}

theorem Onward.refl (w : World) : Onward w w := ⟨fun _ h => h, Nat.le_refl _⟩

theorem Onward.trans {w'' : World} (h : Onward w w') (h' : Onward w' w'') : Onward w w'' :=
  ⟨fun r hr => h'.rows r (h.rows r hr), h.applied.trans h'.applied⟩

theorem Holds.onward (h : Holds c w) (ho : Onward w w') : Holds c w' := ho.rows _ h

namespace Encodes

section

variable (h : Encodes H t w)
include h

theorem applied_eq : applied w = t.executed + 1 := by
  unfold applied
  rw [h.state]
  rfl

theorem item_of_holds (hc : Holds c w) : ∃ x ∈ t.items, (x.row H).bare = c.bare := by
  unfold Holds at hc
  rw [h.generation] at hc
  simpa [Timeline.generation] using hc

theorem holds_of_item {x : Item} (hx : x ∈ t.items) : Holds (x.change H) w := by
  unfold Holds
  rw [h.generation]
  exact List.mem_map.mpr ⟨x.row H, List.mem_map_of_mem hx, rfl⟩

/-- A transaction on the generation store. -/
theorem move {t' : Timeline} (hm : t.Moves H t') :
    Encodes H t' { w with generation := t'.generation H } ∧ Onward w { w with generation := t'.generation H } := by
  refine ⟨⟨rfl, ?_, ?_, ?_, h.yields⟩, ?_, Nat.le_refl _⟩
  · have hlen : t'.executed = t.executed := by
      have := congrArg List.length hm.done
      simpa [Timeline.done, Nat.min_eq_left t.executed_le, Nat.min_eq_left t'.executed_le] using this
    rw [h.state]
    unfold Timeline.state
    rw [hm.done, hlen]
  · rw [hm.done]
    exact h.replayed
  · rw [hm.done]
    exact h.applications
  · rw [h.generation]
    exact hm.rows

theorem seen_executed {s : Option ExecutionState} (hs : Seen s w) : ∀ s' x, s = some s' →
    x ∈ t.items → s'.appliedGeneration = x.fromGeneration + 1 → x.fromGeneration ≤ t.executed := by
  intro s' x hs' _ hx
  have := hs s' hs'
  rw [h.applied_eq] at this
  omega

end

end Encodes

/-! ## Transactions -/

variable (H) in
def contract : Contract World where
  inv w := ∃ t, Encodes H t w
  rely _ := Onward
  guar _ := Onward
  rely_refl _ := .refl
  rely_trans := .trans
  guar_refl _ _ _ := .refl _

/-- A transaction on the generation store that moves along the timeline. -/
theorem store_moves {me : Nat} {o : Option Change} {g : GenerationDb} (h : Encodes H t w) (hk : t.Keeps H o g) :
    (contract H).inv { w with generation := g } ∧ (contract H).guar me w { w with generation := g } ∧
      ∀ c, o = some c → Holds c { w with generation := g } := by
  obtain ⟨hitem, t', hm, rfl⟩ := hk
  obtain ⟨he, ho⟩ := h.move hm
  refine ⟨⟨t', he⟩, ho, fun c hc => ?_⟩
  obtain ⟨x, hx, rfl⟩ := hitem c hc
  exact (h.holds_of_item hx).onward ho

theorem execute_moves {me : Nat} {b : Bool} {d : ExecutionDb} (h : Encodes H t w) (hc : Holds c w)
    (hd : w.execution.applyExecution c = .ok (b, d)) :
    (contract H).inv (executed w c b d) ∧ (contract H).guar me w (executed w c b d) ∧ Holds c (executed w c b d) := by
  obtain ⟨x, hx, hxc⟩ := h.item_of_holds hc
  rcases Timeline.applyExecution_state hx hxc h.state hd with ⟨rfl, rfl⟩ | ⟨hlt, a, rfl, hitem, ha, rfl⟩
  · exact ⟨⟨t, h⟩, .refl w, hc⟩
  · have hdone : (t.execute hlt).done = t.done ++ [x.link] := by rw [Timeline.done_execute, hitem]
    refine ⟨⟨t.execute hlt, h.generation, rfl, ?_, ?_, h.yields⟩, ⟨fun _ hr => hr, ?_⟩, hc⟩
    · rw [hdone]
      exact AuthorizationState.replay_concat h.replayed ha
    · rw [hdone, List.map_append, ← h.applications, List.map_singleton]
      show w.history.applications ++ [c.changeId] = w.history.applications ++ [x.changeId]
      rw [(Item.eq_of_bare hxc).1]
    · rw [h.applied_eq]
      exact Nat.le_succ _

/-- What a fence yields is converged: the marker was read before, but with no change pending the one
    stored now is the same. -/
theorem converged_of_locked {s : Option ExecutionState} {g : Nat} (h : Encodes H t w)
    (hg : w.generation.lockedActiveGeneration s = .ok g) :
    Converged ⟨g, w.generation, w.execution.state, w.checkpoint⟩ := by
  rw [h.generation] at hg ⊢
  obtain ⟨hnil, hcur, -⟩ := GenerationDb.lockedActiveGeneration_eq_ok.mp hg
  refine ⟨hnil, hcur, ?_⟩
  have hlen := Timeline.length_of_closed (Timeline.pendingRows_eq_nil.mp hnil)
  have h1 := t.executed_le
  have h2 := t.current_le
  rw [h.state, ← hcur]
  show some (t.executed + 1) = some t.current
  rw [Option.some.injEq]
  omega

theorem contract_admits : Admits H (contract H) Holds Seen where
  onLoad {w i c} := by
    rintro ⟨t, ht⟩ hc
    simp only [GenerationDb.getChange, ht.generation, Timeline.row?_generation] at hc
    cases hf : Table.lookup Item.changeId t.items i with
    | none => simp [hf] at hc
    | some x =>
      simp only [hf, Option.map_some, Item.rowToChange_row, Except.ok.injEq] at hc
      exact hc ▸ ht.holds_of_item (Table.mem_of_lookup hf)
  onPending {w c} := by
    rintro ⟨t, ht⟩ hc
    rw [ht.generation] at hc
    obtain ⟨x, hx, rfl⟩ := Timeline.pendingChange_generation hc c rfl
    exact ht.holds_of_item hx
  onRead {w} _ s' hs' := by
    unfold applied
    rw [hs']
    exact Nat.le_refl _
  knows_rely hr hc := hc.onward hr
  seen_rely hr hs s' hs' := (hs s' hs').trans hr.applied
  onPrepare {me w i m o g} := fun ⟨t, ht⟩ h => store_moves ht (Timeline.prepare_keeps (ht.generation ▸ h))
  onMarkApplied {me w i s o g} := fun ⟨t, ht⟩ hs h =>
    store_moves ht (Timeline.markApplied_keeps (ht.seen_executed hs) (ht.generation ▸ h))
  onActivate {me w i s o g} := fun ⟨t, ht⟩ _ h => store_moves ht (Timeline.activate_keeps (ht.generation ▸ h))
  onExecute {me w c b d} := fun ⟨t, ht⟩ hc h => execute_moves ht hc h
  onYield {me w s g} := by
    rintro ⟨t, ht⟩ - hg
    refine ⟨⟨t, ht.generation, ht.state, ht.replayed, ht.applications, fun y hy => ?_⟩, fun _ h => h, Nat.le_refl _⟩
    rcases List.mem_append.mp hy with hy | hy
    · exact ht.yields y hy
    · rw [List.mem_singleton.mp hy]
      exact converged_of_locked ht hg

/-! ## Any run -/

theorem encodes_of_initialized (h : Initialized w) : Encodes H .genesis w where
  generation := h.generation
  state := h.state
  replayed := by
    rw [h.origin]
    rfl
  applications := h.applications
  yields := by
    rw [h.yields]
    nofun

theorem system_meets : (system H).Meets (contract H) fun _ _ _ => True where
  init _ hw := ⟨_, encodes_of_initialized hw⟩
  body me k c _ hi := by
    have hA := contract_admits (H := H)
    cases k with
    | prepare i m => exact Safe.discard hi (hA.prepare_safe hi)
    | apply i => exact Safe.discard hi (hA.apply_safe hi)
    | activate i => exact Safe.discard hi hA.activate_safe
    | commit i m crashAt => exact Safe.discard hi (hA.commit_safe hi)
    | recover => exact Safe.discard hi hA.recover_safe
    | currentActiveGeneration => exact Safe.discard hi hA.currentActiveGeneration_safe
  apart := .inr fun _ _ _ _ _ _ _ h => h
  stable _ _ _ _ _ _ _ _ h := h

/-- The stored changes up to generation `g` are `changes`: one for each generation, and the mutation
    of each was applied once, in order. -/
structure Executed (w : World) (g : Nat) (changes : List Change) : Prop where
  rows : List.Forall₂ (fun row change => rowToChange row = .ok change)
    (w.generation.changes.filter (·.targetGeneration ≤ g)) changes
  generations : changes.map (·.targetGeneration) = List.range' 2 (g - 1)
  applications : w.history.applications = changes.map (·.changeId)
  once : w.history.applications.Nodup
  replayed : w.history.origin.replay (changes.map fun c => ⟨c.changeId, c.mutation⟩) = .ok w.execution.authorization

theorem executed_of_encodes (h : Encodes H t w) :
    Executed w (t.executed + 1) ((t.items.take t.executed).map (Item.change H)) := by
  have hdone : t.done = (t.items.take t.executed).map Item.link := List.map_take.symm
  have happ : w.history.applications = ((t.items.take t.executed).map (Item.change H)).map (·.changeId) := by
    rw [h.applications, hdone, List.map_map, List.map_map]
    rfl
  refine ⟨?_, ?_, happ, ?_, ?_⟩
  · have hrows : w.generation.changes.filter (·.targetGeneration ≤ t.executed + 1)
        = (t.items.take t.executed).map (Item.row H) := by
      rw [h.generation, ← Timeline.filter_from t.executed_le]
      simp only [Timeline.generation, List.filter_map]
      congr 2
      funext x
      simp [Item.row]
    rw [hrows, List.forall₂_map_left_iff, List.forall₂_map_right_iff]
    exact List.forall₂_same.mpr fun x _ => Item.rowToChange_row H x
  · rw [List.map_map]
    exact Timeline.targets_take t.executed_le
  · rw [happ, List.map_map]
    exact Timeline.ids_take t.executed
  · rw [List.map_map]
    refine Eq.trans ?_ h.replayed
    rw [hdone]
    rfl

/-- Whatever the coordinators do and wherever they crash: at most one change is not active; the
    active ones have the generations 2, …, g; the execution database is at g, or at g + 1 with a
    change pending; it has applied every change up to there once, in order; and no generation was
    yielded with a change pending or the two generations apart. -/
theorem forward_recovery {c : Conf Call Label World Error Unit} (hc : (system H).Reach c) :
    ∃ g s changes, c.st.generation.currentGeneration = some g ∧ c.st.execution.state = some s ∧
      c.st.generation.pendingRows.length ≤ 1 ∧
      c.st.generation.activeRows.map (·.targetGeneration) = List.range' 2 (g - 1) ∧
      (s.appliedGeneration = g ∨ s.appliedGeneration = g + 1 ∧ c.st.generation.pendingRows ≠ []) ∧
      Executed c.st s.appliedGeneration changes ∧
      (∀ row ∈ c.st.generation.activeRows, c.st.history.applications.count row.changeId = 1) ∧
      ∀ y ∈ c.st.history.yields, Converged y := by
  obtain ⟨t, ht⟩ := system_meets.inv hc
  have h1 := t.executed_le
  have h2 := t.current_le
  have h3 := t.length_le
  have h4 := t.positive
  have hactive : c.st.generation.activeRows = (t.items.take (t.current - 1)).map (Item.row H) := by
    rw [ht.generation, Timeline.activeRows_generation, Timeline.filter_active]
  have hex := executed_of_encodes ht
  refine ⟨t.current, t.state H, _, by rw [ht.generation]; rfl, ht.state, ?_, ?_, ?_, hex, ?_, ht.yields⟩
  · rw [ht.generation]
    exact Timeline.pendingRows_length
  · rw [hactive, List.map_map]
    exact Timeline.targets_take (by omega)
  · by_cases h : t.executed + 1 = t.current
    · exact .inl h
    · refine .inr ⟨show t.executed + 1 = t.current + 1 by omega, fun hnil => ?_⟩
      rw [ht.generation] at hnil
      have := Timeline.length_of_closed (Timeline.pendingRows_eq_nil.mp hnil)
      omega
  · intro row hrow
    rw [hactive, List.mem_map] at hrow
    obtain ⟨x, hx, rfl⟩ := hrow
    refine List.count_eq_one_of_mem hex.once ?_
    rw [hex.applications, List.map_map]
    exact List.mem_map_of_mem (f := Item.changeId) (List.take_subset_take_left _ (by omega) hx)

/-- Two commits of one change overlap, one crashes after the other has applied it, and a third
    call recovers it. -/
def crashAndRecover : List (System.Move Call) :=
  [.call (.commit "first" Sample.disablePasswordReset none), .call (.commit "first" Sample.disablePasswordReset none),
    .txn 0, .txn 0, .txn 1, .txn 1, .txn 0, .crash 0, .txn 1, .crash 1, .call .recover] ++ List.replicate 8 (.txn 2) ++
  [.ret 2, .call .currentActiveGeneration, .txn 3, .txn 3]

theorem forward_recovery_crashAndRecover :
    ∃ c, (system Hashing.light).Reach c ∧ c.st.history.yields.map (·.generation) = [2] ∧
      ∃ changes, Executed c.st 2 changes ∧ changes.map (·.changeId) = ["first"] := by
  obtain ⟨c, hc, hs, hy, ha⟩ := System.exec_find (S := system Hashing.light) (s := Sample.world) crashAndRecover
    (fun c => c.st.execution.state.map (·.appliedGeneration) = some 2 ∧ c.st.history.yields.map (·.generation) = [2] ∧
      c.st.history.applications = ["first"]) Sample.world_initialized (by decide +kernel)
  obtain ⟨g, s, changes, -, hs', -, -, -, hex, -⟩ := forward_recovery hc
  rw [hs', Option.map_some, Option.some.injEq] at hs
  exact ⟨c, hc, hy, changes, hs ▸ hex, hex.applications.symm.trans ha⟩

/-- Nothing prepared is lost: a stored change stays what it is but for its status, and the execution
    database does not go back behind a generation it has applied. -/
theorem changes_onward {c c' : Conf Call Label World Error Unit} (hc : (system H).Reach c)
    (hl : (system H).Later c c') : Onward c.st c'.st :=
  system_meets.later Onward .refl .trans id hc hl

theorem changes_onward_crashAndRecover :
    ∃ c c', (system Hashing.light).Later c c' ∧ c.st.generation.pendingRows.length = 1 ∧ applied c.st = 1 ∧
      applied c'.st = 2 ∧ Onward c.st c'.st := by
  obtain ⟨c, c', hc, hl, h, h1, h2⟩ := System.exec_find₂ (S := system Hashing.light) (s := Sample.world)
    (crashAndRecover.take 4) (crashAndRecover.drop 4)
    (fun c c' => c.st.generation.pendingRows.length = 1 ∧ applied c.st = 1 ∧ applied c'.st = 2)
    Sample.world_initialized (by decide +kernel)
  exact ⟨c, c', hl, h, h1, h2, changes_onward hc hl⟩

end ControlPlane

end Aegis.Effects
