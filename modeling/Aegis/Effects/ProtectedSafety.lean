/-
  Aegis.Effects.ProtectedSafety — the calls of `ExternallyCheckpointedControlPlaneCoordinator`
  one transaction at a time, under any contract that admits them.

  - The heads that `active_journal_heads` computes are those of the active changes; in a store
    that follows a timeline it always computes them.
  - `advance_safe`: a compare-and-swap that succeeds was made for a journal that begins with
    the checkpoint's history, since digests do not collide; so it adds the journal's next
    change to it.
-/

import Aegis.Effects.CallSafety
import Aegis.Effects.Protected
import Aegis.Effects.Timeline

namespace Aegis.Effects

open Data Txn Prog

variable {H : Hashing} {authorityId : String}

/-! ## Heads -/

theorem journalChain_injective (hH : Function.Injective H.sha256) : (journalChain H authorityId).Injective where
  extend_inj {n m h k x y} he := by
    have hj := hH he
    simp only [Json.obj_cons, Json.field.injEq, Json.str.injEq, true_and] at hj
    obtain ⟨hid, -, -, hm, hh, -⟩ := hj
    refine ⟨hh, ?_⟩
    have hmut : x.mutation = y.mutation := Subtype.ext (Mutation.toJson_injective (hH hm))
    cases x
    cases y
    simp_all
  extend_ne n h x he := by
    have hj := hH he
    simp only [Json.obj_cons, Json.field.injEq, Json.str.injEq, true_and] at hj
    exact absurd hj.2.1 (by decide)

namespace GenerationDb

theorem journalLinks_reached {expected reached : Nat} {rows : List ChangeRow} {links : List Link}
    (h : journalLinks H expected rows = .ok (links, reached)) : reached = expected + links.length := by
  induction rows generalizing expected links with
  | nil =>
    cases h
    rfl
  | cons row rows ih =>
    unfold journalLinks at h
    split_ifs at h with hrow
    split at h
    · cases h
    · split_ifs at h
      split at h
      · rename_i tail r htail
        cases h
        rw [ih htail, (not_or.mp hrow).2 |> not_not.mp, List.length_cons]
        omega
      · cases h

theorem activeJournalHeads_ok {g : GenerationDb} {current : Nat} {links : List Link} {heads : List String}
    (h : g.activeJournalHeads H authorityId current = .ok (links, heads)) :
    heads = (journalChain H authorityId).heads links ∧ links.length + 1 = current := by
  unfold activeJournalHeads at h
  split at h
  · cases h
  · split at h
    · rename_i h1
      cases h
      exact ⟨rfl, h1.symm⟩
    · obtain ⟨⟨links', reached⟩, hl, h⟩ := Data.Checks.ok_bind.mp h
      dsimp only at h
      split_ifs at h with hr
      cases h
      exact ⟨rfl, by rw [Nat.add_comm, ← journalLinks_reached hl]; exact not_not.mp hr⟩

theorem localHeads_ok {g : GenerationDb} {state : Option ExecutionState} {current : Nat} {x : List Link × List String}
    (h : g.localHeads H authorityId state current = .ok x) : g.activeJournalHeads H authorityId current = .ok x := by
  unfold localHeads at h
  obtain ⟨y, hx, h⟩ := Data.Checks.ok_bind.mp h
  split at h
  · cases h
  · split_ifs at h
    · split at h
      · cases h
      · split_ifs at h
        exact hx.trans h
    · exact hx.trans h

end GenerationDb

/-! ## Heads of a timeline -/

namespace Timeline

variable {t : Timeline}

def journal (t : Timeline) : List Link := (t.items.map Item.link).take (t.current - 1)

theorem length_journal : t.journal.length + 1 = t.current := by
  have h1 := t.positive
  have h2 := t.current_le
  have h3 := t.executed_le
  simp only [journal, List.length_take, List.length_map]
  omega

theorem activeJournal_generation :
    (t.generation H).activeJournal t.current = (t.items.take (t.current - 1)).map (Item.row H) := by
  have hrows : (t.generation H).changes.filter (fun r => r.status = .active ∧ r.targetGeneration ≤ t.current)
      = (t.items.take (t.current - 1)).map (Item.row H) := by
    rw [← filter_active]
    simp only [generation, List.filter_map]
    congr 1
    exact List.filter_congr fun x hx => decide_eq_decide.mpr ⟨And.left, fun h => ⟨h, (t.active_iff x hx).mp h⟩⟩
  unfold GenerationDb.activeJournal
  rw [hrows]
  refine List.Pairwise.insertionSort_eq (List.pairwise_map.mpr ?_)
  have h1 := t.current_le
  have h2 := t.executed_le
  have hsorted : ((t.items.take (t.current - 1)).map fun x => x.fromGeneration + 1).Pairwise (· ≤ ·) := by
    rw [targets_take (by omega)]
    exact List.pairwise_le_range'
  exact List.pairwise_map.mp hsorted

theorem journalLinks_rows {xs : List Item} {expected : Nat}
    (h : xs.map Item.fromGeneration = List.range' expected xs.length) :
    GenerationDb.journalLinks H expected (xs.map (Item.row H)) = .ok (xs.map Item.link, expected + xs.length) := by
  induction xs generalizing expected with
  | nil => rfl
  | cons x xs ih =>
    simp only [List.map_cons, List.length_cons, List.range'_succ, List.cons.injEq] at h
    obtain ⟨rfl, h⟩ := h
    have := ih h
    simp only [List.map_cons, GenerationDb.journalLinks, Item.row, ControlPlaneMutation.ofJson?_toJson] at this ⊢
    simp only [ne_eq, not_true_eq_false, or_self, ↓reduceIte, this, List.length_cons]
    rw [Nat.add_assoc, Nat.add_comm 1]
    rfl

theorem activeJournalHeads_generation : (t.generation H).activeJournalHeads H authorityId t.current =
      .ok (t.journal, (journalChain H authorityId).heads t.journal) := by
  have hpos := t.positive
  have hlen := t.length_journal
  unfold GenerationDb.activeJournalHeads
  rw [if_neg (by omega)]
  split
  · rename_i h1
    have : t.journal = [] := List.eq_nil_of_length_eq_zero (by omega)
    rw [this]
    rfl
  · have h1 := t.current_le
    have h2 := t.executed_le
    have hrows : (t.items.take (t.current - 1)).map Item.fromGeneration =
        List.range' 1 (t.items.take (t.current - 1)).length := by
      rw [List.map_take, t.generations, List.take_range'_of_length_ge (by omega), List.length_take]
      congr 1
      omega
    have hreach : 1 + (t.items.take (t.current - 1)).length = t.current := by
      rw [List.length_take]
      omega
    rw [activeJournal_generation, journalLinks_rows hrows, hreach]
    simp [bind, Except.bind, journal, List.map_take]

end Timeline

/-! ## Synchronizing -/

namespace Protected

variable (H authorityId)

/-- The checkpoint is the head of the history it took in. -/
def Headed (w : World) : Prop :=
  w.checkpoint = some ⟨w.history.recorded.length + 1, (journalChain H authorityId).head w.history.recorded⟩

/-- The store after the checkpoint took in one more change. -/
def advanced (w : World) (link : Link) : World :=
  { w with
    checkpoint := some ⟨w.history.recorded.length + 2, (journalChain H authorityId).head (w.history.recorded ++ [link])⟩
    history := { w.history with recorded := w.history.recorded ++ [link] } }

/-- A contract under which the checkpoint may go on. -/
structure Admits (ok : Label → World → Prop) (C : Contract World) : Prop where
  headed : ∀ {w}, C.inv w → Headed H authorityId w
  onAdvance : ∀ {me w} link, C.inv w → ok (.advance (w.history.recorded.length + 1)) w →
    C.inv (advanced H authorityId w link) ∧ C.guar me w (advanced H authorityId w link)

/-- The journal a call compared the checkpoint with: its heads are those of its changes. -/
structure Compared (journal : Journal) (checkpoint : Checkpoint) : Prop where
  heads : journal.heads = (journalChain H authorityId).heads journal.links
  head : headAt journal.heads checkpoint.generation = some checkpoint.journalHeadSha256

variable {H authorityId} {ok : Label → World → Prop} {C : Contract World} {me : Nat} {s : World}
  {checkpoint : Option Checkpoint} {g : GenerationDb}

theorem headed_advanced (w : World) (link : Link) : Headed H authorityId (advanced H authorityId w link) := by
  simp [Headed, advanced]

theorem compare_ok {state state' : Option ExecutionState} {journal : Journal} {current : Checkpoint}
    (h : compare H authorityId g state checkpoint state' = .ok (journal, current)) :
    Compared H authorityId journal current := by
  simp only [compare, Data.Checks.ok_bind] at h
  obtain ⟨_, -, _, -, h⟩ := h
  split_ifs at h
  obtain ⟨x, hx, h⟩ := Data.Checks.ok_bind.mp h
  split_ifs at h with hhead
  cases h
  exact ⟨(GenerationDb.activeJournalHeads_ok (GenerationDb.localHeads_ok hx)).1, not_not.mp hhead⟩

section Calls

variable (hA : Admits H authorityId ok C) (hH : Function.Injective H.sha256)
include hA hH

theorem advance_safe {journal : Journal} {checkpoint : Checkpoint} (hc : Compared H authorityId journal checkpoint) :
    Safe ok C me (OnOk fun next _ => Compared H authorityId journal next) (advance journal checkpoint) s := by
  unfold advance
  dsimp only
  split
  · rename_i head link hhead hlink
    refine Safe.write fun next w1 w hi _ ho hw => ?_
    have hcp := hA.headed hi
    unfold Headed at hcp
    unfold advanceCheckpoint at hw
    simp only [ne_eq, not_true_eq_false, ↓reduceIte, hcp] at hw
    split at hw
    · cases hw
    · rename_i hsame
      cases hw
      obtain ⟨hgen, hcur⟩ := not_or.mp hsame
      have hgen : w.history.recorded.length + 1 = checkpoint.generation := not_not.mp hgen
      have hcur : (journalChain H authorityId).head w.history.recorded = checkpoint.journalHeadSha256 := not_not.mp hcur
      -- the heads agree, so the journal begins with the history
      rw [← hgen, Nat.add_sub_cancel] at hlink
      obtain ⟨hlt, -⟩ := List.getElem?_eq_some_iff.mp hlink
      have hold := hc.head
      simp only [headAt, ← hgen, Nat.add_sub_cancel, hc.heads, HashChain.heads_getElem? _ hlt.le] at hold
      rw [if_neg (by omega), Option.some.injEq, ← hcur] at hold
      have hprefix := HashChain.head_injective (journalChain_injective hH) hold
      have hnew : journal.links.take (w.history.recorded.length + 1) = w.history.recorded ++ [link] := by
        rw [List.take_add_one, hprefix, hlink]
        rfl
      have hhead' : head = (journalChain H authorityId).head (w.history.recorded ++ [link]) := by
        simp only [headAt, ← hgen, Nat.add_sub_cancel, hc.heads,
          HashChain.heads_getElem? _ (Nat.succ_le_of_lt hlt)] at hhead
        rw [if_neg (by omega), Option.some.injEq, hnew] at hhead
        exact hhead.symm
      obtain ⟨h1, h2⟩ := hA.onAdvance link hi (hgen ▸ ho)
      unfold advanced at h1 h2
      rw [← hhead', show w.history.recorded.length + 2 = checkpoint.generation + 1 by omega] at h1 h2
      exact ⟨h1, h2, .ok ⟨hc.heads, hhead⟩⟩
  · exact Safe.fail .error

theorem advanceAll_safe {journal : Journal} {turns : Nat} {checkpoint : Checkpoint} (hs : C.inv s)
    (hc : Compared H authorityId journal checkpoint) :
    Safe ok C me (OnOk fun _ _ => True) (advanceAll journal turns checkpoint) s := by
  induction turns generalizing checkpoint s with
  | zero => exact Safe.pure (.ok trivial)
  | succ turns ih =>
    unfold advanceAll
    split
    · exact Safe.bind_ok hs (advance_safe hA hH hc) fun _ _ hi hc' => ih hi hc'
    · exact Safe.pure (.ok trivial)

theorem synchronizeCheckpoint_safe : Safe ok C me (OnOk fun _ _ => True) (synchronizeCheckpoint H authorityId) s :=
  Safe.read_bind fun _ _ _ _ => Safe.read_bind fun _ _ _ _ => Safe.read_bind fun _ _ _ _ =>
    Safe.ask fun _ _ hi _ _ hx => advanceAll_safe hA hH hi (compare_ok hx)

variable {Knows : Change → World → Prop} {Seen : Option ExecutionState → World → Prop}
  (hL : ControlPlane.Admits H C Knows Seen)
include hL

theorem commit_safe {i : String} {m : ControlPlaneMutation} {crash : Bool} (hs : C.inv s) :
    Safe ok C me (OnOk fun _ _ => True) (commit H authorityId i m crash) s :=
  Safe.bind_ok hs (hL.commit_safe hs) fun _ _ hi _ => Safe.guard fun _ =>
    Safe.bind_ok hi (synchronizeCheckpoint_safe hA hH) fun _ _ _ _ => Safe.pure (.ok trivial)

theorem recover_safe (hs : C.inv s) : Safe ok C me (OnOk fun _ _ => True) (recover H authorityId) s :=
  Safe.bind_ok hs hL.recover_safe fun _ _ hi _ =>
    Safe.bind_ok hi (synchronizeCheckpoint_safe hA hH) fun _ _ _ _ => Safe.pure (.ok trivial)

end Calls

/-! ## The fence -/

theorem lockedActiveGeneration_ok {state state' : Option ExecutionState} {n : Nat}
    (h : lockedActiveGeneration H authorityId g state state' checkpoint = .ok n) :
    g.lockedActiveGeneration state = .ok n ∧ ∃ links heads head, g.activeJournalHeads H authorityId n = .ok (links, heads) ∧
      checkpoint = some ⟨n, head⟩ ∧ headAt heads n = some head := by
  simp only [lockedActiveGeneration, Data.Checks.ok_bind] at h
  obtain ⟨n', hn, x, hx, current, hcur, h⟩ := h
  unfold currentCheckpoint at hcur
  split at hcur
  · cases hcur
  · cases hcur
    split_ifs at h with h1 h2 h3
    cases h
    have heq : current.generation = n := by omega
    refine ⟨hn, x.1, x.2, current.journalHeadSha256, GenerationDb.localHeads_ok hx, ?_, not_not.mp h3⟩
    rw [← heq]

end Protected

end Aegis.Effects
