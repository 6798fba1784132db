/-
  Aegis.Effects.RejectedMutation — `commit` alone on files with no pending change, whatever runs
  came before (control_plane_recovery.py).

  The change is journalled in one file before the preconditions of its mutation are read in the
  other.

  - `commit_known`: a change the journal knows is not touched again.
  - `commit_applied`: a new change whose mutation applies becomes active.
  - `commit_rejected`: a new change whose mutation does not stays in the journal as prepared.
  - `leaves_no_trace_iff`: so a failed commit leaves nothing behind exactly for changes of the first
    kind; `stuck` is one of the third, after which no change gets in.
-/

import Aegis.Effects.ForwardRecovery

namespace Aegis.Effects.ControlPlane

open Data Txn Prog

variable {H : Hashing} {w w' : World} {g : Nat} {id : String} {m : ControlPlaneMutation}
  {α : Type} {f : GenerationDb → Except Error (α × GenerationDb)}

/-! ## Files with no pending change -/

/-- No change is pending and both files are at this generation. -/
structure Settled (w : World) (g : Nat) : Prop where
  current : w.generation.currentGeneration = some g
  state : ∃ s, w.execution.state = some s ∧ s.appliedGeneration = g
  pending : w.generation.pendingRows = []
  rows : ∀ row ∈ w.generation.changes, ∃ x : Item, row = x.row H ∧ x.status = .active ∧ x.fromGeneration < g

theorem settled_of_encodes {t : Timeline} (h : Encodes H t w) (hp : w.generation.pendingRows = []) : Settled (H := H) w t.current := by
  rw [h.generation] at hp
  have hactive := Timeline.pendingRows_eq_nil.mp hp
  have hlength := Timeline.length_of_closed hactive
  have h1 := t.executed_le
  have h2 := t.current_le
  refine ⟨by rw [h.generation]; rfl, ⟨t.state H, h.state, ?_⟩, h.generation ▸ hp, ?_⟩
  · show t.executed + 1 = t.current
    omega
  · intro row hrow
    rw [h.generation] at hrow
    obtain ⟨x, hx, rfl⟩ := List.mem_map.mp hrow
    exact ⟨x, rfl, hactive x hx, (t.active_iff x hx).mp (hactive x hx)⟩

/-! ## Programs that change nothing -/

/-- A program that leaves the files as they are. -/
def Idle {α : Type} (p : Prog Label World Error α) (w : World) : Prop := (p.run w).2 = w

theorem idle_bind {β : Type} {p : Prog Label World Error α} {f : α → Prog Label World Error β} (h : Idle p w)
    (hf : ∀ a, (p.run w).1 = .ok a → Idle (f a) w) : Idle (p >>= f) w := by
  unfold Idle at h ⊢
  rw [run_bind]
  cases hp : p.run w with
  | mk r s =>
    rw [hp] at h hf
    dsimp only at h
    subst h
    cases r with
    | ok a => exact hf a rfl
    | error e => rfl

theorem onStore_ok {a : α} {d : GenerationDb} (h : f w.generation = .ok (a, d)) :
    (onStore f).run w = (.ok a, { w with generation := d }) := by
  unfold onStore
  rw [run_atomic]
  simp only [answer, Prog.commit, h]
  rfl

theorem onStore_error {e : Error} (h : f w.generation = .error e) : (onStore f).run w = (.error e, w) := by
  unfold onStore
  rw [run_atomic]
  simp only [answer, Prog.commit, h]
  rfl

theorem onStore_idle (h : ∀ a d, f w.generation = .ok (a, d) → d = w.generation) : Idle (onStore f) w := by
  unfold Idle
  cases hf : f w.generation with
  | error e => rw [onStore_error hf]
  | ok r =>
    rw [onStore_ok hf, h r.1 r.2 hf]

theorem changeOr_idle {change : Option Change} : Idle (changeOr id change) w := by
  cases change with
  | none => rfl
  | some change => rfl

/-! ## A change the journal knows -/

variable {x : Item} {s : ExecutionState} {a : AuthorizationState}

theorem prepare_known (hrow : w.generation.row? id = some (x.row H)) {r : Option Change × GenerationDb}
    (h : w.generation.prepare H id m = .ok r) : r = (some (x.change H), w.generation) := by
  unfold GenerationDb.prepare at h
  simp only [hrow, Item.rowToChange_row, bind, Except.bind] at h
  split_ifs at h
  cases h
  rfl

theorem applyExecution_known (hw : Settled (H := H) w g) (hlt : x.fromGeneration < g) : Idle (applyExecution (x.change H)) w := by
  obtain ⟨s, hs, hsg⟩ := hw.state
  have hkept : ∀ r, w.execution.applyExecution (x.change H) = .ok r → r = (false, w.execution) := by
    intro r h
    unfold ExecutionDb.applyExecution at h
    simp only [hs] at h
    split at h
    · split_ifs at h
      cases h
      rfl
    · have hne : s.appliedGeneration ≠ (x.change H).fromGeneration := by
        show s.appliedGeneration ≠ x.fromGeneration
        omega
      rw [if_pos hne] at h
      cases h
  unfold applyExecution
  refine idle_bind ?_ fun applied _ => ?_
  · unfold Idle
    rw [run_atomic]
    cases h : w.execution.applyExecution (x.change H) with
    | error e => simp only [Prog.commit, h, bind, Except.bind]
    | ok r =>
      obtain rfl := hkept r h
      simp only [Prog.commit, h, bind, Except.bind, pure, Except.pure]
      rfl
  · cases applied with
    | true => exact idle_bind rfl fun _ _ => rfl
    | false => rfl

theorem markApplied_known (hrow : w.generation.row? id = some (x.row H)) (hx : x.status = .active) : Idle (markApplied id) w := by
  unfold markApplied
  refine idle_bind rfl fun state _ => idle_bind (onStore_idle ?_) fun _ _ => changeOr_idle
  intro a d h
  unfold GenerationDb.markApplied at h
  simp only [hrow, Item.rowToChange_row, bind, Except.bind] at h
  rw [if_pos (show (x.change H).status = .active from hx)] at h
  cases h
  rfl

theorem activate_known (hrow : w.generation.row? id = some (x.row H)) (hx : x.status = .active) : Idle (activate id) w := by
  unfold activate
  refine idle_bind rfl fun state _ => idle_bind (onStore_idle ?_) fun _ _ => changeOr_idle
  intro a d h
  unfold GenerationDb.activate at h
  simp only [hrow, Item.rowToChange_row, bind, Except.bind] at h
  rw [if_pos (show (x.change H).status = .active from hx)] at h
  split_ifs at h
  cases h
  rfl

/-- A change that is in the journal is active, and nothing happens to it. -/
theorem commit_known (hw : Settled (H := H) w g) (hrow : (w.generation.row? id).isSome = true) : Idle (commit H id m none) w := by
  obtain ⟨row, hrow⟩ := Option.isSome_iff_exists.mp hrow
  obtain ⟨x, rfl, hx, hlt⟩ := hw.rows row (Table.mem_of_lookup hrow)
  have hprepare : Idle (prepare H id m) w := by
    unfold prepare
    refine idle_bind (onStore_idle ?_) fun _ _ => changeOr_idle
    intro a d h
    exact congrArg Prod.snd (prepare_known hrow h)
  unfold commit
  refine idle_bind hprepare fun change hchange => ?_
  have hsame : change = x.change H := by
    unfold prepare at hchange
    cases h : w.generation.prepare H id m with
    | error e =>
      rw [run_bind, onStore_error h] at hchange
      cases hchange
    | ok r =>
      rw [run_bind, onStore_ok h] at hchange
      obtain rfl := prepare_known hrow h
      exact (Except.ok.inj hchange).symm
  rw [hsame]
  refine idle_bind rfl fun _ _ => idle_bind (applyExecution_known hw hlt) fun _ _ => idle_bind rfl fun _ _ => ?_
  exact idle_bind (markApplied_known hrow hx) fun _ _ => idle_bind rfl fun _ _ => activate_known hrow hx

/-! ## A new change -/

/-- The row `prepare` writes. -/
def new (id : String) (m : ControlPlaneMutation) (g : Nat) : Item := ⟨id, m, g, .prepared⟩

/-- The files once it is written. -/
def journalled (H : Hashing) (w : World) (x : Item) : World :=
  { w with generation := { w.generation with changes := w.generation.changes ++ [x.row H] } }

theorem journalled_row (hnew : w.generation.row? id = none) : (journalled H w (new id m g)).generation.row? id = some ((new id m g).row H) :=
  Table.lookup_append_new hnew

theorem prepare_new (hw : Settled (H := H) w g) (hnew : w.generation.row? id = none) :
    (prepare H id m).run w = (.ok ((new id m g).change H), journalled H w (new id m g)) := by
  have hfree : (w.generation.changes.any fun row => decide (row.targetGeneration = g + 1)) = false := by
    rw [List.any_eq_false]
    intro row hrow
    obtain ⟨x, rfl, -, hlt⟩ := hw.rows row hrow
    have hne : x.fromGeneration + 1 ≠ g + 1 := by omega
    simpa [Item.row] using hne
  have hprepare : w.generation.prepare H id m = .ok (none, (journalled H w (new id m g)).generation) := by
    unfold GenerationDb.prepare
    simp only [hnew, hw.pending, ne_eq, not_true_eq_false, if_false, hw.current, hfree, Bool.false_eq_true]
    rw [← hw.current]
    rfl
  unfold prepare
  rw [run_bind_ok (onStore_ok hprepare)]
  show ((journalled H w (new id m g)).generation.getChange id, journalled H w (new id m g)) = _
  unfold GenerationDb.getChange
  simp only [journalled_row hnew, Item.rowToChange_row]

/-- A new change whose mutation does not apply. -/
theorem commit_rejected (hw : Settled (H := H) w g) (hnew : w.generation.row? id = none) {e : Error}
    (he : w.execution.authorization.applyMutation m.1 = .error e) :
    (commit H id m none).run w = (.error e, journalled H w (new id m g)) := by
  obtain ⟨s, hs, hsg⟩ := hw.state
  have hexecute : (journalled H w (new id m g)).execution.applyExecution ((new id m g).change H) = .error e := by
    have htarget : s.appliedGeneration ≠ ((new id m g).change H).targetGeneration := by
      show s.appliedGeneration ≠ g + 1
      omega
    have hfrom : s.appliedGeneration = ((new id m g).change H).fromGeneration := hsg
    unfold ExecutionDb.applyExecution journalled
    simp only [hs, if_neg htarget, if_neg (not_not_intro hfrom)]
    show (w.execution.authorization.applyMutation m.1 >>= _) = _
    rw [he]
    rfl
  unfold commit
  rw [run_bind_ok (prepare_new hw hnew)]
  refine run_bind_ok (t := journalled H w (new id m g)) (a := ()) rfl |>.trans ?_
  refine run_bind_error ?_
  unfold applyExecution
  refine run_bind_error ?_
  rw [run_atomic]
  simp only [answer, Prog.commit, hexecute, bind, Except.bind]
  rfl

theorem row_setStatus (d : GenerationDb) (id : String) (old next : ChangeStatus) :
    (d.setStatus id old next).row? id = (d.row? id).map fun r => if r.status = old then { r with status := next } else r := by
  refine Table.lookup_update_self fun r hr => ?_
  by_cases h : r.status = old
  · rw [if_pos h]
    exact hr
  · rw [if_neg h]
    exact hr

theorem getChange_ok (hrow : w.generation.row? id = some (x.row H)) : (getChange id).run w = (.ok (x.change H), w) := by
  show (w.generation.getChange id, w) = _
  unfold GenerationDb.getChange
  simp only [hrow, Item.rowToChange_row]

theorem applyExecution_ok {c : Change} {d : ExecutionDb} (h : w.execution.applyExecution c = .ok (true, d))
    (hs : d.state = some s) : (applyExecution c).run w = (.ok (), executed w c true d) := by
  unfold applyExecution
  refine (run_bind_ok (a := true) (t := executed w c true d) ?_).trans ?_
  · rw [run_atomic]
    simp only [answer, Prog.commit, h, bind, Except.bind]
    rfl
  · rw [if_pos rfl]
    refine run_bind_ok (a := s) ?_
    show (d.executionState, executed w c true d) = _
    unfold ExecutionDb.executionState
    rw [hs]

theorem markApplied_ok (hrow : w.generation.row? id = some (x.row H)) (hx : x.status = .prepared)
    (hs : w.execution.state = some s) (hshows : s.shows (x.change H)) : ∃ c, (markApplied id).run w =
      (.ok c, { w with generation := w.generation.setStatus id .prepared .applied }) := by
  have hmark : w.generation.markApplied id w.execution.state = .ok (none, w.generation.setStatus id .prepared .applied) := by
    unfold GenerationDb.markApplied
    simp only [hrow, Item.rowToChange_row, hs, bind, Except.bind]
    have hstatus : (x.change H).status = .prepared := hx
    rw [if_neg (by rw [hstatus]; decide), if_neg (not_not_intro hshows), if_pos hstatus]
  have hmarked : ({ w with generation := w.generation.setStatus id .prepared .applied } : World).generation.row? id =
      some ((x.withStatus .applied).row H) := by
    show (w.generation.setStatus id .prepared .applied).row? id = _
    rw [row_setStatus, hrow, Option.map_some, if_pos (show (x.row H).status = .prepared from hx)]
    rfl
  refine ⟨(x.withStatus .applied).change H, ?_⟩
  unfold markApplied
  refine (run_bind_ok (a := w.execution.state) (t := w) rfl).trans ?_
  refine (run_bind_ok (onStore_ok hmark)).trans ?_
  exact getChange_ok hmarked

/-- The generation store once a change is activated. -/
def activated (d : GenerationDb) (x : Item) : GenerationDb :=
  { d with currentGeneration := some (x.fromGeneration + 1) }.setStatus x.changeId .applied .active

theorem activate_ok (hrow : w.generation.row? id = some (x.row H)) (hx : x.status = .applied)
    (hs : w.execution.state = some s) (hshows : s.shows (x.change H)) (hcurrent : w.generation.currentGeneration = some x.fromGeneration) :
    ∃ c w', (activate id).run w = (.ok c, w') := by
  have hkey := Table.key_of_lookup hrow
  have hid : x.changeId = id := hkey
  have hactivate : w.generation.activate id w.execution.state = .ok (none, activated w.generation x) := by
    unfold GenerationDb.activate
    simp only [hrow, Item.rowToChange_row, hs, bind, Except.bind]
    have hstatus : (x.change H).status = .applied := hx
    have hfrom : w.generation.currentGeneration = some (x.change H).fromGeneration := hcurrent
    rw [if_neg (by rw [hstatus]; decide), if_neg (not_not_intro hstatus), if_neg (not_not_intro hshows), if_neg (not_not_intro hfrom), ← hid]
    rfl
  have hactive : (activated w.generation x).row? id = some ((x.withStatus .active).row H) := by
    unfold activated
    rw [hid]
    rw [row_setStatus, show GenerationDb.row? { w.generation with currentGeneration := some (x.fromGeneration + 1) } id = some (x.row H) from hrow,
      Option.map_some, if_pos (show (x.row H).status = .applied from hx)]
    rfl
  refine ⟨(x.withStatus .active).change H, { w with generation := activated w.generation x }, ?_⟩
  unfold activate
  refine (run_bind_ok (a := w.execution.state) (t := w) rfl).trans ?_
  refine (run_bind_ok (onStore_ok hactivate)).trans ?_
  exact getChange_ok hactive

/-- A new change whose mutation applies. -/
theorem commit_applied (hw : Settled (H := H) w g) (hnew : w.generation.row? id = none)
    (ha : w.execution.authorization.applyMutation m.1 = .ok a) : ∃ c w', (commit H id m none).run w = (.ok c, w') := by
  obtain ⟨s, hs, hsg⟩ := hw.state
  let next : ExecutionState := ⟨g + 1, some id, some (m.sha256 H)⟩
  let w1 := journalled H w (new id m g)
  let w2 := executed w1 ((new id m g).change H) true { w.execution with authorization := a, state := some next }
  have hexecute : w1.execution.applyExecution ((new id m g).change H) = .ok (true, { w.execution with authorization := a, state := some next }) := by
    have htarget : s.appliedGeneration ≠ ((new id m g).change H).targetGeneration := by
      show s.appliedGeneration ≠ g + 1
      omega
    have hfrom : s.appliedGeneration = ((new id m g).change H).fromGeneration := hsg
    show w.execution.applyExecution ((new id m g).change H) = _
    unfold ExecutionDb.applyExecution
    simp only [hs, if_neg htarget, if_neg (not_not_intro hfrom)]
    show (w.execution.authorization.applyMutation m.1 >>= _) = _
    rw [ha]
    rfl
  have hshows : next.shows ((new id m g).change H) := ⟨rfl, rfl, rfl⟩
  have hrow : w2.generation.row? id = some ((new id m g).row H) := journalled_row hnew
  obtain ⟨c, hmark⟩ := markApplied_ok hrow rfl (s := next) rfl hshows
  have hrow' : ({ w2 with generation := w2.generation.setStatus id .prepared .applied } : World).generation.row? id =
      some (((new id m g).withStatus .applied).row H) := by
    show (w2.generation.setStatus id .prepared .applied).row? id = _
    rw [row_setStatus, hrow]
    rfl
  obtain ⟨c', w', hactivate⟩ := activate_ok hrow' rfl (s := next) rfl ⟨rfl, rfl, rfl⟩ hw.current
  refine ⟨c', w', ?_⟩
  unfold commit
  rw [run_bind_ok (prepare_new hw hnew)]
  refine (run_bind_ok (a := ()) (t := w1) rfl).trans ?_
  refine (run_bind_ok (applyExecution_ok (s := next) hexecute rfl)).trans ?_
  refine (run_bind_ok (a := ()) (t := w2) rfl).trans ?_
  refine (run_bind_ok hmark).trans ?_
  exact (run_bind_ok (a := ()) rfl).trans hactivate

/-! ## What a failed commit leaves -/

/-- The rows a mutation is about are there, and a new key is for a later epoch. -/
def Applies (a : AuthorizationState) : Mutation → Prop
  | .subjectActive tenantId userId _ =>
    (∃ row, Table.lookup SubjectRow.userId a.subjects userId = some row ∧ row.tenantId = tenantId) ∧ (a.version? tenantId).isSome = true
  | .passwordResetEnabled tenantId _ => (a.version? tenantId).isSome = true
  | .signingKeyRotation issuerId audience _ keyEpoch _ => ∃ current, a.currentEpoch? issuerId audience = some current ∧ current < keyEpoch

theorem applyMutation_ok_iff {m : Mutation} : (∃ a', a.applyMutation m = .ok a') ↔ Applies a m := by
  cases m with
  | subjectActive tenantId userId active =>
    unfold AuthorizationState.applyMutation Applies
    cases hrow : Table.lookup SubjectRow.userId a.subjects userId with
    | none => simp only [hrow]; simp
    | some row =>
      simp only [hrow]
      by_cases htenant : row.tenantId = tenantId
      · cases hversion : a.version? tenantId with
        | none => simp [htenant]
        | some v => simp [htenant]
      · simp [htenant]
  | passwordResetEnabled tenantId enabled =>
    unfold AuthorizationState.applyMutation Applies
    cases hversion : a.version? tenantId with
    | none => simp [hversion]
    | some v => simp [hversion]
  | signingKeyRotation issuerId audience keyId keyEpoch publicKeyHex =>
    unfold AuthorizationState.applyMutation Applies
    cases hcurrent : a.currentEpoch? issuerId audience with
    | none => simp only [hcurrent]; simp
    | some current =>
      simp only [hcurrent]
      by_cases hle : keyEpoch ≤ current
      · simp [hle]
      · simp [hle, Nat.lt_of_not_le hle]

/-- A new change whose mutation applies. -/
def Applicable (w : World) (id : String) (m : ControlPlaneMutation) : Prop :=
  w.generation.row? id = none ∧ Applies w.execution.authorization m.1

/-- No change is pending, both generations are as before, and applicable changes get in. -/
structure NoTrace (H : Hashing) (w w' : World) : Prop where
  pending : w'.generation.pendingRows = []
  current : w'.generation.currentGeneration = w.generation.currentGeneration
  applied : w'.execution.state.map (·.appliedGeneration) = w.execution.state.map (·.appliedGeneration)
  applicable : ∀ id m, Applicable w' id m → ∃ c w'', (commit H id m none).run w' = (.ok c, w'')

/-- Where `commit` raises, nothing is left behind. -/
def LeavesNoTrace (H : Hashing) (w : World) (id : String) (m : ControlPlaneMutation) : Prop :=
  ∀ e w', (commit H id m none).run w = (.error e, w') → NoTrace H w w'

/-- On files any run led to, with no change pending: the change is known, or its mutation applies. -/
theorem leaves_no_trace_iff {c : Conf Call Label World Error Unit} (hc : (system H).Reach c) (hp : c.st.generation.pendingRows = []) :
    LeavesNoTrace H c.st id m ↔
      (c.st.generation.row? id).isSome = true ∨ Applies c.st.execution.authorization m.1 := by
  obtain ⟨t, ht⟩ := system_meets.inv hc
  have hw := settled_of_encodes ht hp
  constructor
  · intro hleaves
    cases hrow : c.st.generation.row? id with
    | some row => exact .inl rfl
    | none =>
      cases happly : c.st.execution.authorization.applyMutation m.1 with
      | ok a => exact .inr (applyMutation_ok_iff.mp ⟨a, happly⟩)
      | error e =>
        have hpending := (hleaves e _ (commit_rejected hw hrow happly)).pending
        have hin : (new id m t.current).row H ∈ (journalled H c.st (new id m t.current)).generation.pendingRows :=
          List.mem_filter.mpr ⟨List.mem_append_right _ (List.mem_singleton_self _), by simp [new, Item.row]⟩
        rw [hpending] at hin
        cases hin
  · intro h e w' hrun
    cases hrow : c.st.generation.row? id with
    | some row =>
      have hidle : Idle (commit H id m none) c.st := commit_known hw (by rw [hrow]; rfl)
      unfold Idle at hidle
      rw [hrun] at hidle
      dsimp only at hidle
      subst hidle
      refine ⟨hp, rfl, rfl, fun id' m' happlicable => ?_⟩
      obtain ⟨a, ha⟩ := applyMutation_ok_iff.mpr happlicable.2
      exact commit_applied hw happlicable.1 ha
    | none =>
      rw [hrow] at h
      rcases h with h | h
      · cases h
      · obtain ⟨a, ha⟩ := applyMutation_ok_iff.mpr h
        obtain ⟨c', w'', hok⟩ := commit_applied hw hrow ha
        rw [hok] at hrun
        cases hrun

/-! ## A subject that does not exist -/

def deactivateNobody : ControlPlaneMutation := ⟨.subjectActive "tenant" "nobody" false, by decide⟩

/-- The change stays pending, no other change gets in, and `recover` fails as `commit` did. -/
theorem stuck : ¬ LeavesNoTrace Hashing.light Sample.world "first" deactivateNobody ∧
    (((commit Hashing.light "second" Sample.disablePasswordReset none).run
      ((commit Hashing.light "first" deactivateNobody none).run Sample.world).2).1.toOption.isNone = true) ∧
    ((recover.run ((commit Hashing.light "first" deactivateNobody none).run Sample.world).2).1.toOption.isNone = true) := by
  refine ⟨fun hleaves => ?_, by decide +kernel, by decide +kernel⟩
  have hpending := (hleaves _ _ rfl).pending
  revert hpending
  decide +kernel

/-- A change of a tenant that is there. -/
theorem leaves_no_trace_tenant : LeavesNoTrace Hashing.light Sample.world "first" Sample.disablePasswordReset := by
  have hreach : (system Hashing.light).Reach ⟨Sample.world, []⟩ := System.Reach.init Sample.world Sample.world_initialized
  exact (leaves_no_trace_iff hreach (by decide)).mpr (.inr rfl)

end Aegis.Effects.ControlPlane
