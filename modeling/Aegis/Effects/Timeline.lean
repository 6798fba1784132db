/-
  Aegis.Effects.Timeline — what the two local files say, as one line of changes.

  A `Timeline` is the changes in the order of their generations, how many are active
  (`current`) and how many the execution database has executed: all active ones, and the one
  that is not yet active or not. `Encodes` is that the files say what a timeline says; the
  lemmas are what each transaction does to the timeline.
-/

import Aegis.Effects.Databases
import Mathlib.Data.List.Range

namespace Aegis.Effects

open Data

structure Item where
  changeId : String
  mutation : ControlPlaneMutation
  fromGeneration : Nat
  status : ChangeStatus

namespace Item

variable (H : Hashing)

def row (x : Item) : ChangeRow :=
  ⟨x.changeId, x.fromGeneration, x.fromGeneration + 1, x.mutation.sha256 H, x.mutation.1.toJson, x.status⟩

def change (x : Item) : Change :=
  ⟨x.changeId, x.fromGeneration, x.fromGeneration + 1, x.mutation.sha256 H, x.mutation, x.status⟩

def withStatus (s : ChangeStatus) (x : Item) : Item := { x with status := s }

def link (x : Item) : Link := ⟨x.changeId, x.mutation⟩

@[simp] theorem rowToChange_row (x : Item) : rowToChange (x.row H) = .ok (x.change H) := by
  simp [rowToChange, row, change]

end Item

/-! ## Rows but for their status -/

def ChangeRow.bare (r : ChangeRow) : ChangeRow := { r with status := .prepared }

def Change.bare (c : Change) : ChangeRow :=
  ⟨c.changeId, c.fromGeneration, c.targetGeneration, c.mutationSha256, c.mutation.1.toJson, .prepared⟩

theorem Item.eq_of_bare {H : Hashing} {x : Item} {c : Change} (h : (x.row H).bare = c.bare) :
    x.changeId = c.changeId ∧ x.fromGeneration = c.fromGeneration ∧ x.fromGeneration + 1 = c.targetGeneration ∧
      x.mutation.sha256 H = c.mutationSha256 ∧ x.mutation = c.mutation := by
  simp only [ChangeRow.bare, Item.row, Change.bare, ChangeRow.mk.injEq] at h
  obtain ⟨h1, h2, h3, h4, h5, -⟩ := h
  exact ⟨h1, h2, h3, h4, Subtype.ext (Mutation.toJson_injective h5)⟩

structure Timeline where
  items : List Item
  current : Nat
  executed : Nat
  ids : (items.map Item.changeId).Nodup
  generations : items.map Item.fromGeneration = List.range' 1 items.length
  active_iff : ∀ x ∈ items, x.status = .active ↔ x.fromGeneration < current
  applied_executed : ∀ x ∈ items, x.status = .applied → x.fromGeneration ≤ executed
  positive : 1 ≤ current
  current_le : current ≤ executed + 1
  executed_le : executed ≤ items.length
  length_le : items.length ≤ current

namespace Timeline

variable (H : Hashing) (t : Timeline)

/-- Nothing has happened since initialization. -/
def genesis : Timeline where
  items := []
  current := 1
  executed := 0
  ids := List.nodup_nil
  generations := rfl
  active_iff := nofun
  applied_executed := nofun
  positive := Nat.le_refl 1
  current_le := Nat.le_refl 1
  executed_le := Nat.le_refl 0
  length_le := Nat.zero_le 1

def generation : GenerationDb := ⟨some t.current, t.items.map (Item.row H)⟩

/-- The executed changes. -/
def done : List Link := (t.items.map Item.link).take t.executed

def state : ExecutionState :=
  ⟨t.executed + 1, t.done.getLast?.map Link.changeId, t.done.getLast?.map fun l => l.mutation.sha256 H⟩

variable {H t} {x y : Item}

/-! ## Generations -/

theorem from_nodup : (t.items.map Item.fromGeneration).Nodup := t.generations ▸ List.nodup_range'

theorem from_bounds (hx : x ∈ t.items) : 1 ≤ x.fromGeneration ∧ x.fromGeneration ≤ t.items.length := by
  have := List.mem_map_of_mem (f := Item.fromGeneration) hx
  rw [t.generations, List.mem_range'_1] at this
  omega

theorem from_getElem {n : Nat} (hn : n < t.items.length) : t.items[n].fromGeneration = n + 1 := by
  have h : (t.items.map Item.fromGeneration).get ⟨n, by simpa using hn⟩ = n + 1 := by
    simp only [List.get_eq_getElem, t.generations, List.getElem_range']
    omega
  simpa using h

/-- A change that is not active is the last one. -/
theorem open_from (hx : x ∈ t.items) (hs : x.status ≠ .active) :
    x.fromGeneration = t.current ∧ t.items.length = t.current := by
  have hb := from_bounds hx
  have hl := t.length_le
  have hn : ¬ x.fromGeneration < t.current := fun h => hs ((t.active_iff x hx).mpr h)
  omega

theorem activeRows_generation : (t.generation H).activeRows = (t.items.filter (·.status = .active)).map (Item.row H) := by
  simp only [GenerationDb.activeRows, generation, List.filter_map]
  rfl

theorem eq_of_from (hx : x ∈ t.items) (hy : y ∈ t.items) (h : x.fromGeneration = y.fromGeneration) : x = y :=
  List.inj_on_of_nodup_map from_nodup hx hy h

theorem eq_of_id (hx : x ∈ t.items) (hy : y ∈ t.items) (h : x.changeId = y.changeId) : x = y :=
  List.inj_on_of_nodup_map t.ids hx hy h

theorem row?_generation (i : String) :
    (t.generation H).row? i = (Table.lookup Item.changeId t.items i).map (Item.row H) :=
  Table.lookup_map (Item.row H) Item.changeId (fun _ => rfl) i

theorem pendingRows_generation : (t.generation H).pendingRows = (t.items.filter (·.status ≠ .active)).map (Item.row H) := by
  simp only [GenerationDb.pendingRows, generation, List.filter_map]
  rfl

theorem pendingRows_eq_nil : (t.generation H).pendingRows = [] ↔ ∀ x ∈ t.items, x.status = .active := by
  simp [pendingRows_generation, List.filter_eq_nil_iff]

/-- At most one change is not active. -/
theorem pendingRows_length : (t.generation H).pendingRows.length ≤ 1 := by
  rw [pendingRows_generation, List.length_map]
  have hn : (t.items.filter (·.status ≠ .active)).Nodup := (List.Nodup.of_map _ t.ids).filter _
  have hmem : ∀ x ∈ t.items.filter (·.status ≠ .active), x ∈ t.items ∧ x.status ≠ .active :=
    fun x hx => by simpa using List.mem_filter.mp hx
  generalize t.items.filter (·.status ≠ .active) = l at hn hmem ⊢
  match l with
  | [] => exact Nat.zero_le 1
  | [_] => exact Nat.le_refl 1
  | a :: b :: rest =>
    obtain ⟨ha, hsa⟩ := hmem a (by simp)
    obtain ⟨hb, hsb⟩ := hmem b (by simp)
    rw [eq_of_from ha hb ((open_from ha hsa).1.trans (open_from hb hsb).1.symm)] at hn
    simp at hn

variable {o : Option Change} {i : String} {m : ControlPlaneMutation} {g : GenerationDb} {s : Option ExecutionState}
  {hx : x ∈ t.items}

theorem pendingChange_generation (h : (t.generation H).pendingChange = .ok o) :
    ∀ c, o = some c → ∃ x ∈ t.items, c = x.change H := by
  rintro c rfl
  unfold GenerationDb.pendingChange at h
  cases hh : (t.generation H).pendingRows.argmin (·.targetGeneration) with
  | none => simp [hh] at h
  | some row =>
    have hmem : row ∈ (t.generation H).pendingRows := List.argmin_mem hh
    rw [pendingRows_generation] at hmem
    obtain ⟨x, hx, rfl⟩ := List.mem_map.mp hmem
    simp only [hh, Item.rowToChange_row, Except.map, Except.ok.injEq, Option.some.injEq] at h
    exact ⟨x, (List.mem_filter.mp hx).1, h.symm⟩

/-! ## Prepare -/

def prepared (t : Timeline) (i : String) (m : ControlPlaneMutation) (hid : i ∉ t.items.map Item.changeId)
    (hlen : t.items.length + 1 = t.current) : Timeline where
  items := t.items ++ [⟨i, m, t.current, .prepared⟩]
  current := t.current
  executed := t.executed
  ids := by
    rw [List.map_append, List.map_singleton]
    exact t.ids.append (List.nodup_singleton _) (by simpa [List.disjoint_singleton] using hid)
  generations := by
    rw [List.map_append, t.generations, List.length_append, List.length_singleton, List.range'_append_1.symm]
    simp [← hlen, Nat.add_comm]
  active_iff x hx := by
    rcases List.mem_append.mp hx with hx | hx
    · exact t.active_iff x hx
    · rw [List.mem_singleton.mp hx]
      simp
  applied_executed x hx hs := by
    rcases List.mem_append.mp hx with hx | hx
    · exact t.applied_executed x hx hs
    · rw [List.mem_singleton.mp hx] at hs
      cases hs
  positive := t.positive
  current_le := t.current_le
  executed_le := by
    have := t.executed_le
    simp only [List.length_append, List.length_singleton]
    omega
  length_le := by
    simp only [List.length_append, List.length_singleton]
    omega

@[simp] theorem done_prepared {hid : i ∉ t.items.map Item.changeId}
    {hlen : t.items.length + 1 = t.current} : (t.prepared i m hid hlen).done = t.done := by
  unfold done prepared
  rw [List.map_append, List.take_append_of_le_length (by simpa using t.executed_le)]

theorem length_of_closed (h : ∀ x ∈ t.items, x.status = .active) : t.items.length + 1 = t.current := by
  have h1 := t.current_le
  have h2 := t.executed_le
  have h3 := t.length_le
  rcases Nat.lt_or_ge t.items.length t.current with hlt | hge
  · omega
  · -- the last change would be active from the current generation on
    have hpos := t.positive
    have hn : t.items.length - 1 < t.items.length := by omega
    have hlt := (t.active_iff _ (List.getElem_mem hn)).mp (h _ (List.getElem_mem hn))
    rw [from_getElem hn] at hlt
    omega

theorem prepare_generation (h : (t.generation H).prepare H i m = .ok (o, g)) :
    (∃ x ∈ t.items, o = some (x.change H) ∧ g = t.generation H) ∨
      ∃ hid hlen, o = none ∧ g = (t.prepared i m hid hlen).generation H := by
  unfold GenerationDb.prepare at h
  rw [row?_generation] at h
  cases hf : Table.lookup Item.changeId t.items i with
  | some x =>
    simp only [hf, Option.map_some, Item.rowToChange_row, bind, Except.bind] at h
    split_ifs at h
    cases h
    exact .inl ⟨x, Table.mem_of_lookup hf, rfl, rfl⟩
  | none =>
    simp only [hf, Option.map_none] at h
    split_ifs at h with h1
    have hlen := length_of_closed (pendingRows_eq_nil.mp (not_not.mp h1))
    rw [show (t.generation H).currentGeneration = some t.current from rfl] at h
    dsimp only at h
    split_ifs at h
    cases h
    refine .inr ⟨Table.lookup_eq_none.mp hf, hlen, rfl, ?_⟩
    simp [generation, prepared, Item.row]

/-! ## Status updates -/

theorem map_update_status {α : Type} {f : Item → α} (i : String) (s : ChangeStatus)
    (hf : ∀ x, f (Item.withStatus s x) = f x) :
    (Table.update Item.changeId t.items i (Item.withStatus s)).map f = t.items.map f := by
  unfold Table.update
  rw [List.map_map]
  refine List.map_congr_left fun x _ => ?_
  by_cases h : x.changeId = i
  · simp [h, hf]
  · simp [h]

theorem setStatus_generation (hx : x ∈ t.items) {old : ChangeStatus} (hs : x.status = old) (new : ChangeStatus)
    (g : Option Nat) :
    (GenerationDb.mk g (t.items.map (Item.row H))).setStatus x.changeId old new =
      ⟨g, (Table.update Item.changeId t.items x.changeId (Item.withStatus new)).map (Item.row H)⟩ := by
  unfold GenerationDb.setStatus
  congr 1
  refine Table.update_map (Item.row H) Item.changeId (fun _ => rfl) fun y hy hid => ?_
  obtain rfl := eq_of_id hy hx hid
  simp [Item.row, Item.withStatus, hs]

def marked (t : Timeline) (x : Item) (hx : x ∈ t.items) (hs : x.status ≠ .active) (he : x.fromGeneration ≤ t.executed) :
    Timeline where
  items := Table.update Item.changeId t.items x.changeId (Item.withStatus .applied)
  current := t.current
  executed := t.executed
  ids := by rw [map_update_status _ _ fun _ => rfl]; exact t.ids
  generations := by
    rw [map_update_status _ _ fun _ => rfl, t.generations]
    simp [Table.update]
  active_iff y hy := by
    rcases Table.mem_update hy with ⟨hy, -⟩ | ⟨z, hz, hid, rfl⟩
    · exact t.active_iff y hy
    · obtain rfl := eq_of_id hz hx hid
      have := (t.active_iff z hz).not.mp hs
      simpa [Item.withStatus] using this
  applied_executed y hy hya := by
    rcases Table.mem_update hy with ⟨hy, -⟩ | ⟨z, hz, hid, rfl⟩
    · exact t.applied_executed y hy hya
    · obtain rfl := eq_of_id hz hx hid
      exact he
  positive := t.positive
  current_le := t.current_le
  executed_le := by simpa [Table.update] using t.executed_le
  length_le := by simpa [Table.update] using t.length_le

def activated (t : Timeline) (x : Item) (hx : x ∈ t.items) (hs : x.status = .applied) : Timeline where
  items := Table.update Item.changeId t.items x.changeId (Item.withStatus .active)
  current := t.current + 1
  executed := t.executed
  ids := by rw [map_update_status _ _ fun _ => rfl]; exact t.ids
  generations := by
    rw [map_update_status _ _ fun _ => rfl, t.generations]
    simp [Table.update]
  active_iff y hy := by
    have hopen := open_from hx (by rw [hs]; nofun)
    rcases Table.mem_update hy with ⟨hy, hne⟩ | ⟨z, hz, hid, rfl⟩
    · have hlt : y.fromGeneration ≠ t.current := fun h => hne (congrArg Item.changeId (eq_of_from hy hx (h.trans hopen.1.symm)))
      rw [t.active_iff y hy]
      omega
    · obtain rfl := eq_of_id hz hx hid
      simp [Item.withStatus, hopen.1]
  applied_executed y hy hya := by
    rcases Table.mem_update hy with ⟨hy, -⟩ | ⟨z, hz, -, rfl⟩
    · exact t.applied_executed y hy hya
    · cases hya
  positive := by
    have := t.positive
    omega
  current_le := by
    have h1 := open_from hx (by rw [hs]; nofun)
    have h2 := t.applied_executed x hx hs
    omega
  executed_le := by simpa [Table.update] using t.executed_le
  length_le := by
    have := t.length_le
    simp only [Table.update, List.length_map]
    omega

@[simp] theorem done_marked {hs : x.status ≠ .active} {he : x.fromGeneration ≤ t.executed} :
    (t.marked x hx hs he).done = t.done := by
  unfold done marked
  rw [map_update_status _ _ fun _ => rfl]

@[simp] theorem done_activated {hs : x.status = .applied} : (t.activated x hx hs).done = t.done := by
  unfold done activated
  rw [map_update_status _ _ fun _ => rfl]

/-- What `_mark_applied` may do to the store, for an execution state read before. -/
theorem markApplied_generation
    (hseen : ∀ s' x, s = some s' → x ∈ t.items → s'.appliedGeneration = x.fromGeneration + 1 → x.fromGeneration ≤ t.executed)
    (h : (t.generation H).markApplied i s = .ok (o, g)) :
    (∀ c, o = some c → ∃ x ∈ t.items, c = x.change H) ∧
      (g = t.generation H ∨ ∃ x hx hs he, g = (t.marked x hx hs he).generation H) := by
  unfold GenerationDb.markApplied at h
  rw [row?_generation] at h
  cases hf : Table.lookup Item.changeId t.items i with
  | none => simp [hf] at h
  | some x =>
    have hx := Table.mem_of_lookup hf
    have hid : x.changeId = i := Table.key_of_lookup hf
    simp only [hf, Option.map_some, Item.rowToChange_row, bind, Except.bind, Item.change] at h
    split at h
    · cases h
      exact ⟨fun c hc => ⟨x, hx, by cases hc; rfl⟩, .inl rfl⟩
    · rename_i h1
      cases s with
      | none => cases h
      | some s =>
        dsimp only at h
        split_ifs at h with h2 h3
        · cases h
          have he : x.fromGeneration ≤ t.executed := hseen s x rfl hx h2.1
          refine ⟨fun _ hc => (by cases hc), .inr ⟨x, hx, h1, he, ?_⟩⟩
          rw [← hid]
          exact setStatus_generation hx h3 .applied (some t.current)
        · cases h
          exact ⟨fun _ hc => (by cases hc), .inl rfl⟩

/-- What `activate` may do. -/
theorem activate_generation (h : (t.generation H).activate i s = .ok (o, g)) :
    (∀ c, o = some c → ∃ x ∈ t.items, c = x.change H) ∧
      (g = t.generation H ∨ ∃ x hx hs, g = (t.activated x hx hs).generation H) := by
  unfold GenerationDb.activate at h
  rw [row?_generation] at h
  cases hf : Table.lookup Item.changeId t.items i with
  | none => simp [hf] at h
  | some x =>
    have hx := Table.mem_of_lookup hf
    have hid : x.changeId = i := Table.key_of_lookup hf
    simp only [hf, Option.map_some, Item.rowToChange_row, bind, Except.bind, Item.change] at h
    split at h
    · split_ifs at h
      cases h
      exact ⟨fun c hc => ⟨x, hx, by cases hc; rfl⟩, .inl rfl⟩
    · split at h
      · cases h
      · rename_i h3
        cases s with
        | none => cases h
        | some s =>
          dsimp only at h
          split_ifs at h with h4 h5
          cases h
          have hcur : t.current = x.fromGeneration := by simpa [generation] using h5
          refine ⟨fun _ hc => (by cases hc), .inr ⟨x, hx, not_not.mp h3, ?_⟩⟩
          rw [← hid, ← hcur]
          exact setStatus_generation hx (not_not.mp h3) .active (some (t.current + 1))

/-! ## What a transaction on the generation store may do -/

variable (H t) in
/-- It leaves the executed changes and the stored rows, but for new ones and for their status. -/
structure Moves (t' : Timeline) : Prop where
  done : t'.done = t.done
  rows : ∀ r ∈ (t.generation H).changes.map ChangeRow.bare, r ∈ (t'.generation H).changes.map ChangeRow.bare

theorem bare_update_status (i : String) (s : ChangeStatus) :
    ((Table.update Item.changeId t.items i (Item.withStatus s)).map (Item.row H)).map ChangeRow.bare =
      (t.items.map (Item.row H)).map ChangeRow.bare := by
  rw [List.map_map, List.map_map]
  exact map_update_status i s fun _ => rfl

variable (H t) in
/-- A transaction that answered `o` and left `g`. -/
def Keeps (o : Option Change) (g : GenerationDb) : Prop :=
  (∀ c, o = some c → ∃ x ∈ t.items, c = x.change H) ∧ ∃ t', t.Moves H t' ∧ g = t'.generation H

theorem Moves.refl : t.Moves H t := ⟨rfl, fun _ h => h⟩

theorem prepare_keeps (h : (t.generation H).prepare H i m = .ok (o, g)) : t.Keeps H o g := by
  rcases prepare_generation h with ⟨x, hx, rfl, rfl⟩ | ⟨hid, hlen, rfl, rfl⟩
  · exact ⟨fun c hc => ⟨x, hx, (Option.some.inj hc).symm⟩, t, .refl, rfl⟩
  · refine ⟨fun _ hc => (by cases hc), _, ⟨done_prepared, fun r hr => ?_⟩, rfl⟩
    simp only [generation, prepared, List.map_append, List.mem_append]
    exact .inl hr

theorem markApplied_keeps
    (hseen : ∀ s' x, s = some s' → x ∈ t.items → s'.appliedGeneration = x.fromGeneration + 1 → x.fromGeneration ≤ t.executed)
    (h : (t.generation H).markApplied i s = .ok (o, g)) : t.Keeps H o g := by
  obtain ⟨hc, rfl | ⟨x, hx, hs, he, rfl⟩⟩ := markApplied_generation hseen h
  · exact ⟨hc, t, .refl, rfl⟩
  · exact ⟨hc, _, ⟨done_marked, fun r hr => (bare_update_status (H := H) x.changeId .applied).symm ▸ hr⟩, rfl⟩

theorem activate_keeps (h : (t.generation H).activate i s = .ok (o, g)) : t.Keeps H o g := by
  obtain ⟨hc, rfl | ⟨x, hx, hs, rfl⟩⟩ := activate_generation h
  · exact ⟨hc, t, .refl, rfl⟩
  · exact ⟨hc, _, ⟨done_activated, fun r hr => (bare_update_status (H := H) x.changeId .active).symm ▸ hr⟩, rfl⟩

/-! ## The changes in order -/

theorem filter_from {k : Nat} (hk : k ≤ t.items.length) :
    t.items.filter (fun x => x.fromGeneration ≤ k) = t.items.take k := by
  have htake : ∀ x ∈ t.items.take k, x.fromGeneration ≤ k := by
    intro x hx
    obtain ⟨n, hn, rfl⟩ := List.getElem_of_mem hx
    rw [List.getElem_take, from_getElem]
    simp only [List.length_take] at hn
    omega
  have hdrop : ∀ x ∈ t.items.drop k, ¬ x.fromGeneration ≤ k := by
    intro x hx
    obtain ⟨n, hn, rfl⟩ := List.getElem_of_mem hx
    rw [List.getElem_drop, from_getElem]
    omega
  conv_lhs => rw [← List.take_append_drop k t.items]
  rw [List.filter_append, List.filter_eq_self.mpr (by simpa using htake), List.filter_eq_nil_iff.mpr (by simpa using hdrop),
    List.append_nil]

theorem filter_active : t.items.filter (fun x => x.status = .active) = t.items.take (t.current - 1) := by
  have h1 := t.positive
  have h2 := t.current_le
  have h3 := t.executed_le
  rw [← filter_from (by omega)]
  refine List.filter_congr fun x hx => ?_
  rw [decide_eq_decide, t.active_iff x hx]
  omega

theorem targets_take {k : Nat} (hk : k ≤ t.items.length) :
    (t.items.take k).map (fun x => x.fromGeneration + 1) = List.range' 2 k := by
  have h : (t.items.take k).map Item.fromGeneration = List.range' 1 k := by
    rw [List.map_take, t.generations, List.take_range'_of_length_ge hk]
  calc (t.items.take k).map (fun x => x.fromGeneration + 1)
      = ((t.items.take k).map Item.fromGeneration).map (1 + ·) := by
        rw [List.map_map]
        exact List.map_congr_left fun x _ => Nat.add_comm _ _
    _ = List.range' 2 k := by rw [h, List.map_add_range']

theorem ids_take (k : Nat) : ((t.items.take k).map Item.changeId).Nodup := by
  rw [List.map_take]
  exact t.ids.sublist (List.take_sublist _ _)

/-! ## The generation store by itself -/

/-- The same changes, with all of them executed: which ones are does not show in the store. -/
def caughtUp (t : Timeline) : Timeline :=
  { t with
    executed := t.items.length
    applied_executed := fun _ hx _ => (from_bounds hx).2
    current_le := t.current_le.trans (Nat.succ_le_succ t.executed_le)
    executed_le := Nat.le_refl _ }

theorem store_prepare (h : (t.generation H).prepare H i m = .ok (o, g)) : ∃ t' : Timeline, g = t'.generation H := by
  obtain ⟨-, t', -, hg⟩ := prepare_keeps h
  exact ⟨t', hg⟩

theorem store_markApplied (h : (t.generation H).markApplied i s = .ok (o, g)) : ∃ t' : Timeline, g = t'.generation H := by
  obtain ⟨-, t', -, hg⟩ := markApplied_keeps (t := t.caughtUp) (fun _ _ _ hx _ => (from_bounds (t := t) hx).2) h
  exact ⟨t', hg⟩

theorem store_activate (h : (t.generation H).activate i s = .ok (o, g)) : ∃ t' : Timeline, g = t'.generation H := by
  obtain ⟨-, t', -, hg⟩ := activate_keeps h
  exact ⟨t', hg⟩

/-! ## Execution -/

def execute (t : Timeline) (h : t.executed < t.items.length) : Timeline :=
  { t with
    executed := t.executed + 1
    applied_executed := fun x hx hs => (t.applied_executed x hx hs).trans (Nat.le_succ _)
    current_le := t.current_le.trans (Nat.le_succ _)
    executed_le := h }

theorem done_execute (h : t.executed < t.items.length) : (t.execute h).done = t.done ++ [t.items[t.executed].link] := by
  unfold done execute
  rw [List.take_add_one, List.getElem?_map, List.getElem?_eq_getElem h]
  rfl

/-- What the transaction of `_apply_execution` does for a stored change. -/
theorem applyExecution_state {d d' : ExecutionDb} {c : Change} {applied : Bool} (hx : x ∈ t.items)
    (hc : (x.row H).bare = c.bare) (hd : d.state = some (t.state H)) (h : d.applyExecution c = .ok (applied, d')) :
    (applied = false ∧ d' = d) ∨
      ∃ (hlt : t.executed < t.items.length) (a : AuthorizationState), applied = true ∧ t.items[t.executed] = x ∧
        d.authorization.applyMutation x.mutation.1 = .ok a ∧
        d' = { d with authorization := a, state := some ((t.execute hlt).state H) } := by
  obtain ⟨h1, h2, h3, h4, h5⟩ := Item.eq_of_bare hc
  unfold ExecutionDb.applyExecution at h
  simp only [hd] at h
  split_ifs at h with hg hs hf
  · cases h
    exact .inl ⟨rfl, rfl⟩
  · have hfrom : t.executed + 1 = x.fromGeneration := by
      rw [h2]
      exact not_not.mp hf
    have hlt : t.executed < t.items.length := by
      have := (from_bounds hx).2
      omega
    have hitem : t.items[t.executed] = x :=
      eq_of_from (List.getElem_mem hlt) hx (by rw [from_getElem hlt, hfrom])
    rw [← h5] at h
    obtain ⟨a, ha, he⟩ := Data.Checks.ok_bind.mp h
    obtain ⟨rfl, rfl⟩ := Prod.mk.inj (Except.ok.inj he)
    have hstate : (t.execute hlt).state H = ⟨c.targetGeneration, some c.changeId, some c.mutationSha256⟩ := by
      unfold state
      rw [done_execute, hitem, List.getLast?_concat, ← h1, ← h3, ← h4, ← hfrom]
      rfl
    exact .inr ⟨hlt, a, rfl, hitem, ha, by rw [hstate]⟩

end Timeline

end Aegis.Effects
