/-
  Aegis.Checkpoints.Listing — the checkpoints `list` yields (agent/checkpoint_durability.py).

  The ids are asked for in one query, and each is read in turn; the limit is compared after an item is yielded.
  - `emit_eq`: the loop gives the first items that match, as many as the limit says, but one at the least.
  - `listed_iff`: it gives the first `limit` ones exactly when the limit is positive, or nothing matches.
  - `Sample.one_too_many`: a limit of zero, and one item.
-/

import Aegis.Checkpoints.InterruptedPut

namespace Aegis.Checkpoints

open Data Data.Checks

/-! ## The query -/

/-- The rows that are asked for: of one namespace or all, and before an id or all. -/
def asked (s : Store) (config : Option Namespace) (before : Option String) : List CheckpointRow :=
  s.db.checkpoints.filter fun r => (∀ ns ∈ config, r.ns = ns) ∧ ∀ id ∈ before, r.checkpointId < id

/-- What a query may answer: the rows in descending order of their ids, and in any order where these are equal. -/
structure Answers (s : Store) (config : Option Namespace) (before : Option String) (identifiers : List (String × String × String)) : Prop where
  perm : identifiers.Perm ((asked s config before).map CheckpointRow.key)
  descending : identifiers.Pairwise fun a b => b.2.2 ≤ a.2.2

/-! ## The filter -/

/-- The number a value counts as. -/
def number : Json → Option Int
  | .bool b => some (if b then 1 else 0)
  | .int n => some n
  | _ => none

/-- `a == b` of two JSON values: booleans are numbers, and a dict has no order. -/
def equal : Json → Json → Bool
  | .str s, other => other = .str s
  | .null, other => other = .null
  | .nil, other => other = .nil
  | .cons x xs, .cons y ys => equal x y && equal xs ys
  | .empty, other => other = .empty
  | .field name value rest, other =>
    match other.get? name with
    | none => false
    | some value' => equal value value' && equal rest (other.pop name)
  | x, other => (number x).isSome && number x = number other

/-- `not any(metadata.get(key) != value)`. -/
def matched (filter : Option (List (String × Json))) (metadata : Json) : Bool :=
  (filter.getD []).all fun item => equal ((metadata.get? item.1).getD .null) item.2

/-! ## The loop -/

section

variable {δ : Type} (rt : Runtime δ) (saver : Saver) (s : Store)

/-- `for identifier in identifiers`, after `emitted` items. -/
def emit (filter : Option (List (String × Json))) (limit : Option Int) : Int → List (String × String × String) → Check (List (CheckpointTuple δ))
  | _, [] => .ok []
  | emitted, identifier :: identifiers =>
    match getTuple rt saver s (identifier.1, identifier.2.1) (some identifier.2.2) with
    | .error e => .error e
    | .ok none => emit filter limit emitted identifiers
    | .ok (some item) =>
      if matched filter item.metadata = false then emit filter limit emitted identifiers
      else if ∃ n ∈ limit, emitted + 1 ≥ n then .ok [item]
      else (emit filter limit (emitted + 1) identifiers).map (item :: ·)

/-- `list`, of what its query answered. -/
def list (filter : Option (List (String × Json))) (limit : Option Int) (identifiers : List (String × String × String)) :
    Check (List (CheckpointTuple δ)) :=
  emit rt saver s filter limit 0 identifiers

/-- The rows verify, and can be read. -/
def RowsVerify : Prop := ∀ r ∈ s.db.checkpoints, ∃ item, getTuple rt saver s r.ns (some r.checkpointId) = .ok (some item)

end

/-- The first `limit` items, or all of them. -/
def firstOf {α : Type} (limit : Option Int) (items : List α) : List α :=
  match limit with
  | none => items
  | some n => items.take n.toNat

variable {δ : Type} {rt : Runtime δ} {saver : Saver} {s : Store} {filter : Option (List (String × Json))}
variable {identifiers : List (String × String × String)} {items : List (CheckpointTuple δ)}

/-- The items are what the identifiers are read as. -/
def ReadAs (rt : Runtime δ) (saver : Saver) (s : Store) (identifiers : List (String × String × String)) (items : List (CheckpointTuple δ)) : Prop :=
  List.Forall₂ (fun identifier item => getTuple rt saver s (identifier.1, identifier.2.1) (some identifier.2.2) = .ok (some item)) identifiers items

theorem emit_eq {limit : Option Int} (h : ReadAs rt saver s identifiers items) (emitted : Int) :
    emit rt saver s filter limit emitted identifiers =
      .ok (firstOf (limit.map fun n => max 1 (n - emitted)) (items.filter fun item => matched filter item.metadata)) := by
  induction h generalizing emitted with
  | nil => cases limit <;> simp [emit, firstOf]
  | cons hread hrest ih =>
    rename_i identifier item identifiers items
    simp only [emit, hread]
    by_cases hmatch : matched filter item.metadata = false
    · rw [if_pos hmatch, ih, List.filter_cons_of_neg (by simp [hmatch])]
    · rw [if_neg hmatch, List.filter_cons_of_pos (by simpa using hmatch)]
      cases limit with
      | none =>
        rw [if_neg (by simp), ih]
        rfl
      | some n =>
        by_cases hend : emitted + 1 ≥ n
        · rw [if_pos ⟨n, rfl, hend⟩]
          have hone : max 1 (n - emitted) = 1 := by omega
          simp [firstOf, hone]
        · rw [if_neg (by simpa using hend), ih]
          have hmore : (max 1 (n - emitted)).toNat = (max 1 (n - (emitted + 1))).toNat + 1 := by omega
          simp [firstOf, hmore, Except.map]

/-- Whatever the query answers, its rows are read. -/
theorem readAs_of_rows (hrows : RowsVerify rt saver s) {config : Option Namespace} {before : Option String}
    (hanswers : Answers s config before identifiers) : ∃ items, ReadAs rt saver s identifiers items := by
  have hall : ∀ identifier ∈ identifiers, ∃ item, getTuple rt saver s (identifier.1, identifier.2.1) (some identifier.2.2) = .ok (some item) := by
    intro identifier hin
    obtain ⟨r, hr, rfl⟩ := List.mem_map.mp (hanswers.perm.mem_iff.mp hin)
    exact hrows r (List.mem_of_mem_filter hr)
  clear hanswers
  induction identifiers with
  | nil => exact ⟨[], .nil⟩
  | cons identifier identifiers ih =>
    obtain ⟨item, hitem⟩ := hall identifier List.mem_cons_self
    obtain ⟨items, hitems⟩ := ih fun other hin => hall other (List.mem_cons_of_mem _ hin)
    exact ⟨item :: items, .cons hitem hitems⟩

/-- `list` gives the first `limit` items that match exactly when the limit is positive, or there are none. -/
theorem listed_iff (hrows : RowsVerify rt saver s) (config : Option Namespace) (before : Option String) (limit : Option Int)
    (filter : Option (List (String × Json))) (hanswers : Answers s config before identifiers) :
    ∃ items, ReadAs rt saver s identifiers items ∧
      (list rt saver s filter limit identifiers = .ok (firstOf limit (items.filter fun item => matched filter item.metadata)) ↔
        ∀ n ∈ limit, n ≤ 0 → ∀ item ∈ items, matched filter item.metadata = false) := by
  obtain ⟨items, hread⟩ := readAs_of_rows hrows hanswers
  refine ⟨items, hread, ?_⟩
  rw [list, emit_eq hread, Except.ok.injEq]
  cases limit with
  | none => simp [firstOf]
  | some n =>
    have hnone : items.filter (fun item => matched filter item.metadata) = [] ↔ ∀ item ∈ items, matched filter item.metadata = false := by
      rw [List.filter_eq_nil_iff]
      exact forall₂_congr fun _ _ => Bool.not_eq_true _ ▸ Iff.rfl
    simp only [firstOf, Option.map_some, Option.mem_some_iff, forall_eq', ← hnone]
    constructor
    · intro h hn
      have hone : (max 1 (n - 0)).toNat = 1 := by omega
      have hzero : n.toNat = 0 := by omega
      rw [hone, hzero, List.take_zero, List.take_eq_nil_iff] at h
      exact h.resolve_left Nat.one_ne_zero
    · intro h
      by_cases hn : n ≤ 0
      · rw [h hn, List.take_nil, List.take_nil]
      · have hmax : (max 1 (n - 0)).toNat = n.toNat := by omega
        rw [hmax]

namespace Sample

def described : Runtime Blob := { runtime with loadsMetadata := fun _ => .ok (.obj [("source", .str "loop")]) }

/-- One checkpoint. -/
def single : Store := (put described .durable fresh first 0).1

theorem single_answers : Answers single (some ("thread", "")) none [("thread", "", "one")] := ⟨by decide +kernel, List.pairwise_singleton _ _⟩

theorem single_verifies : RowsVerify described .durable single := by
  have hread : ∀ r ∈ single.db.checkpoints, ((getTuple described .durable single r.ns (some r.checkpointId)).toOption.join).isSome = true := by
    decide +kernel
  intro r hr
  have hr' := hread r hr
  cases hget : getTuple described .durable single r.ns (some r.checkpointId) with
  | error e => simp [hget, Except.toOption] at hr'
  | ok item => cases item with
    | none => simp [hget, Except.toOption] at hr'
    | some item => exact ⟨item, rfl⟩

/-- Nothing is asked for, and one checkpoint is given. -/
theorem one_too_many : RowsVerify described .durable single ∧ Answers single (some ("thread", "")) none [("thread", "", "one")] ∧
    ∃ item, list described .durable single none (some 0) [("thread", "", "one")] = .ok [item] ∧
      ∀ items : List (CheckpointTuple Blob), list described .durable single none (some 0) [("thread", "", "one")] ≠
        .ok (firstOf (some 0) items) := by
  obtain ⟨items, hread⟩ := readAs_of_rows single_verifies single_answers
  cases hread with
  | cons hitem hrest =>
    cases hrest
    refine ⟨single_verifies, single_answers, _, emit_eq (.cons hitem .nil) 0, fun items he => ?_⟩
    rw [list, emit_eq (.cons hitem .nil)] at he
    cases Except.ok.inj he

theorem listed_one : ∃ items, ReadAs described .durable single [("thread", "", "one")] items ∧
    (list described .durable single (some [("source", .str "loop")]) (some 1) [("thread", "", "one")] =
      .ok (firstOf (some 1) (items.filter fun item => matched (some [("source", .str "loop")]) item.metadata)) ↔
        ∀ n ∈ some (1 : Int), n ≤ 0 → ∀ item ∈ items, matched (some [("source", .str "loop")]) item.metadata = false) :=
  listed_iff single_verifies _ _ _ _ single_answers

end Sample

end Aegis.Checkpoints
