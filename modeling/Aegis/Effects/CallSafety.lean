/-
  Aegis.Effects.CallSafety — when the calls of `CrashSafeControlPlaneCoordinator` keep a
  contract: when each of their transactions does. `Admits` lists the transactions with what
  the caller knows at each; the lemmas put the calls together. `Knows` is what a caller keeps
  of a change it read and `Seen` what it keeps of an execution state.

  A contract that does not look at the local files admits them all (`Admits.of_beside`).
-/

import Aegis.Txn.Safe
import Aegis.Effects.ControlPlane

namespace Aegis.Effects.ControlPlane

open Data Txn Prog

/-- What the calls leave alone: all but the local files and the notes on them. -/
structure Beside (w w' : World) : Prop where
  ledger : w'.execution.ledger = w.execution.ledger
  denials : w'.execution.denials = w.execution.denials
  checkpoint : w'.checkpoint = w.checkpoint
  receipts : w'.receipts = w.receipts
  witness : w'.witness = w.witness
  outbox : w'.outbox = w.outbox
  history : ∃ applications yields, w'.history = { w.history with applications, yields }

/-- The store after the transaction of `_apply_execution`. -/
def executed (w : World) (change : Change) (applied : Bool) (execution : ExecutionDb) : World :=
  { w with
    execution
    history := if applied then { w.history with applications := w.history.applications ++ [change.changeId] }
      else w.history }

/-- The store after a generation was yielded. -/
def yielded (w : World) (g : Nat) : World :=
  { w with history := { w.history with yields := w.history.yields ++ [⟨g, w.generation, w.execution.state, w.checkpoint⟩] } }

variable (H : Hashing) (C : Contract World)

structure Admits (Knows : Change → World → Prop) (Seen : Option ExecutionState → World → Prop) : Prop where
  onLoad : ∀ {w i c}, C.inv w → w.generation.getChange i = .ok c → Knows c w
  onPending : ∀ {w c}, C.inv w → w.generation.pendingChange = .ok (some c) → Knows c w
  onRead : ∀ {w}, C.inv w → Seen w.execution.state w
  knows_rely : ∀ {me c w w'}, C.rely me w w' → Knows c w → Knows c w'
  seen_rely : ∀ {me s w w'}, C.rely me w w' → Seen s w → Seen s w'
  onPrepare : ∀ {me w i m o g}, C.inv w → w.generation.prepare H i m = .ok (o, g) →
    C.inv { w with generation := g } ∧ C.guar me w { w with generation := g } ∧
      ∀ c, o = some c → Knows c { w with generation := g }
  onMarkApplied : ∀ {me w i s o g}, C.inv w → Seen s w → w.generation.markApplied i s = .ok (o, g) →
    C.inv { w with generation := g } ∧ C.guar me w { w with generation := g } ∧
      ∀ c, o = some c → Knows c { w with generation := g }
  onActivate : ∀ {me w i s o g}, C.inv w → Seen s w → w.generation.activate i s = .ok (o, g) →
    C.inv { w with generation := g } ∧ C.guar me w { w with generation := g } ∧
      ∀ c, o = some c → Knows c { w with generation := g }
  onExecute : ∀ {me w c b d}, C.inv w → Knows c w → w.execution.applyExecution c = .ok (b, d) →
    C.inv (executed w c b d) ∧ C.guar me w (executed w c b d) ∧ Knows c (executed w c b d)
  onYield : ∀ {me w s g}, C.inv w → Seen s w → w.generation.lockedActiveGeneration s = .ok g →
    C.inv (yielded w g) ∧ C.guar me w (yielded w g)

variable {H C} {Knows : Change → World → Prop} {Seen : Option ExecutionState → World → Prop}
  {ok : Label → World → Prop} {me : Nat} {s : World} {c : Change} {i : String}

namespace Admits

theorem of_beside (h : ∀ {me w w'}, C.inv w → Beside w w' → C.inv w' ∧ C.guar me w w') :
    Admits H C (fun _ _ => True) fun _ _ => True := by
  have store : ∀ {me w} (g : GenerationDb) (o : Option Change), C.inv w →
      C.inv { w with generation := g } ∧ C.guar me w { w with generation := g } ∧ ∀ c, o = some c → True := by
    intro me w g o hi
    obtain ⟨h1, h2⟩ := @h me w { w with generation := g } hi ⟨rfl, rfl, rfl, rfl, rfl, rfl, _, _, rfl⟩
    exact ⟨h1, h2, fun _ _ => trivial⟩
  refine ⟨fun _ _ => trivial, fun _ _ => trivial, fun _ => trivial, fun _ _ => trivial, fun _ _ => trivial,
    fun hi _ => store _ _ hi, fun hi _ _ => store _ _ hi, fun hi _ _ => store _ _ hi, ?_,
    fun hi _ _ => h hi ⟨rfl, rfl, rfl, rfl, rfl, rfl, _, _, rfl⟩⟩
  intro me w c b d hi _ hd
  obtain ⟨h1, h2⟩ := ExecutionDb.applyExecution_frame hd
  have hb : Beside w (executed w c b d) := by
    refine ⟨h1, h2, rfl, rfl, rfl, rfl, ?_⟩
    cases b
    · exact ⟨_, _, rfl⟩
    · exact ⟨_, _, rfl⟩
  obtain ⟨h3, h4⟩ := @h me _ _ hi hb
  exact ⟨h3, h4, trivial⟩

variable (hA : Admits H C Knows Seen) {m : ControlPlaneMutation}
include hA

theorem getChange_safe : Safe ok C me (OnOk Knows) (getChange i) s :=
  Safe.query fun _ hi _ _ _ hc => hA.onLoad hi hc

theorem changeOr_safe {o : Option Change} (ho : ∀ c, o = some c → Knows c s) :
    Safe ok C me (OnOk Knows) (changeOr i o) s := by
  cases o with
  | none => exact hA.getChange_safe
  | some c => exact Safe.pure (.ok (ho c rfl))

/-- A transaction on the generation store and the answer after it. -/
theorem onStore_safe {f : GenerationDb → Except Error (Option Change × GenerationDb)} (hs : C.inv s)
    (hf : ∀ w o g, C.inv w → C.rely me s w → f w.generation = .ok (o, g) →
      C.inv { w with generation := g } ∧ C.guar me w { w with generation := g } ∧
        ∀ c, o = some c → Knows c { w with generation := g }) :
    Safe ok C me (OnOk Knows) (onStore f >>= changeOr i) s := by
  refine Safe.bind_ok (M := fun o w => ∀ c, o = some c → Knows c w) hs ?_ fun o w _ ho => hA.changeOr_safe ho
  refine Safe.write fun o w1 w hi hr _ hw => ?_
  obtain ⟨⟨o, g⟩, hx, hw⟩ := Checks.ok_bind.mp hw
  cases hw
  obtain ⟨h1, h2, h3⟩ := hf w o g hi hr hx
  exact ⟨h1, h2, .ok h3⟩

theorem prepare_safe (hs : C.inv s) : Safe ok C me (OnOk Knows) (prepare H i m) s :=
  hA.onStore_safe hs fun _ _ _ hi _ h => hA.onPrepare hi h

theorem markApplied_safe : Safe ok C me (OnOk Knows) (markApplied i) s :=
  Safe.read_bind fun _ hi _ _ => hA.onStore_safe hi fun _ _ _ hi' hr h =>
    hA.onMarkApplied hi' (hA.seen_rely hr (hA.onRead hi)) h

theorem activate_safe : Safe ok C me (OnOk Knows) (activate i) s :=
  Safe.read_bind fun _ hi _ _ => hA.onStore_safe hi fun _ _ _ hi' hr h =>
    hA.onActivate hi' (hA.seen_rely hr (hA.onRead hi)) h

theorem applyExecution_safe (hs : C.inv s) (hc : Knows c s) :
    Safe ok C me (OnOk fun _ w => Knows c w) (applyExecution c) s := by
  refine Safe.bind_ok (M := fun _ w => Knows c w) hs ?_ fun applied w hi hm => ?_
  · refine Safe.write fun b w1 w hi hr _ hw => ?_
    obtain ⟨⟨b, d⟩, hx, hw⟩ := Checks.ok_bind.mp hw
    cases hw
    obtain ⟨h1, h2, h3⟩ := @hA.onExecute me _ _ _ _ hi (hA.knows_rely hr hc) hx
    exact ⟨h1, h2, .ok h3⟩
  · split
    · exact Safe.ask fun _ _ _ hr _ _ => Safe.pure (.ok (hA.knows_rely hr hm))
    · exact Safe.pure (.ok hm)

theorem apply_safe (hs : C.inv s) : Safe ok C me (OnOk Knows) (apply i) s :=
  Safe.bind_ok hs hA.getChange_safe fun _ _ hi hc =>
    Safe.bind_ok hi (hA.applyExecution_safe hi hc) fun _ _ _ _ => hA.markApplied_safe

theorem commit_safe {crashAt : Option CrashPoint} (hs : C.inv s) :
    Safe ok C me (OnOk Knows) (commit H i m crashAt) s := by
  refine Safe.bind_ok hs (hA.prepare_safe hs) fun c w hi hc => Safe.guard fun _ => ?_
  refine Safe.bind_ok hi (hA.applyExecution_safe hi hc) fun _ w hi _ => Safe.guard fun _ => ?_
  refine Safe.bind_ok hi hA.markApplied_safe fun _ w hi _ => Safe.guard fun _ => ?_
  exact hA.activate_safe

theorem currentActiveGeneration_safe : Safe ok C me (OnOk fun _ _ => True) currentActiveGeneration s := by
  refine Safe.read_bind fun w0 hi0 _ _ => Safe.write fun g w1 w hi hr _ hw => ?_
  obtain ⟨g, hg, hw⟩ := Checks.ok_bind.mp hw
  cases hw
  obtain ⟨h1, h2⟩ := @hA.onYield me _ _ _ hi (hA.seen_rely hr (hA.onRead hi0)) hg
  exact ⟨h1, h2, .ok trivial⟩

theorem recoverChange_safe (hc : Knows c s) : Safe ok C me (OnOk fun _ _ => True) (recoverChange c) s := by
  refine Safe.ask fun st w hi hr _ _ => ?_
  have hrest : ∀ w', C.inv w' → Safe ok C me (OnOk fun _ _ => True) (do
      let _ ← markApplied c.changeId
      let change ← activate c.changeId
      pure (some change)) w' := fun w' hi' =>
    Safe.bind_ok hi' hA.markApplied_safe fun _ _ hi2 _ =>
      Safe.bind_ok hi2 hA.activate_safe fun _ _ _ _ => Safe.pure (.ok trivial)
  split
  · exact Safe.bind_ok hi (hA.applyExecution_safe hi (hA.knows_rely hr hc)) fun _ w' hi' _ => hrest w' hi'
  · exact Safe.guard fun _ => Safe.guard fun _ => hrest w hi

theorem recover_safe : Safe ok C me (OnOk fun _ _ => True) recover s := by
  refine Safe.ask fun o w hi _ _ ho => ?_
  cases o with
  | some c => exact hA.recoverChange_safe (hA.onPending hi ho)
  | none => exact Safe.bind_ok hi hA.currentActiveGeneration_safe fun _ _ _ _ => Safe.pure (.ok trivial)

end Admits

end Aegis.Effects.ControlPlane
