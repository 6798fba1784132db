/-
  Data.Table — a table with a primary key, as the list of its rows in insertion order.

  `lookup` is `SELECT … WHERE key = k`, `update` is `UPDATE … WHERE key = k` and a row is
  inserted by appending it. A table is often the image, row by row, of a list of abstract
  entries (`rows = entries.map enc`); the last section says that lookups and updates then
  act on the entries.
-/

import Mathlib.Data.List.Nodup

namespace Data.Table

variable {ρ κ α : Type} [DecidableEq κ] (key : ρ → κ)

def lookup (rows : List ρ) (k : κ) : Option ρ := rows.find? fun r => key r = k

def update (rows : List ρ) (k : κ) (f : ρ → ρ) : List ρ := rows.map fun r => if key r = k then f r else r

variable {key} {rows : List ρ} {k k' : κ} {r x : ρ} {f : ρ → ρ}

theorem key_of_lookup (h : lookup key rows k = some r) : key r = k := by
  simpa using List.find?_some h

theorem mem_of_lookup (h : lookup key rows k = some r) : r ∈ rows := List.mem_of_find?_eq_some h

theorem lookup_eq_none : lookup key rows k = none ↔ k ∉ rows.map key := by
  simp [lookup, List.find?_eq_none]

theorem lookup_of_mem (hn : (rows.map key).Nodup) (hr : r ∈ rows) : lookup key rows (key r) = some r := by
  induction rows with
  | nil => cases hr
  | cons x rows ih =>
    simp only [List.map_cons, List.nodup_cons] at hn
    unfold lookup
    rcases List.mem_cons.mp hr with rfl | hr
    · simp
    · have hne : key x ≠ key r := fun he => hn.1 (he ▸ List.mem_map_of_mem hr)
      simpa [hne] using show List.find? _ rows = _ from ih hn.2 hr

/-! ## Inserting -/

theorem lookup_append (rows : List ρ) (x : ρ) (k : κ) :
    lookup key (rows ++ [x]) k = (lookup key rows k).or (if key x = k then some x else none) := by
  unfold lookup
  rw [List.find?_append]
  congr 1
  by_cases h : key x = k <;> simp [h]

theorem lookup_append_of_some (h : lookup key rows k = some r) : lookup key (rows ++ [x]) k = some r := by
  rw [lookup_append, h, Option.some_or]

theorem lookup_append_new (h : lookup key rows (key x) = none) : lookup key (rows ++ [x]) (key x) = some x := by
  rw [lookup_append, h, Option.none_or, if_pos rfl]

theorem lookup_append_ne (h : key x ≠ k) : lookup key (rows ++ [x]) k = lookup key rows k := by
  rw [lookup_append, if_neg h, Option.or_none]

theorem nodup_append (hn : (rows.map key).Nodup) (h : lookup key rows (key x) = none) :
    ((rows ++ [x]).map key).Nodup := by
  rw [List.map_append, List.map_singleton]
  refine hn.append (List.nodup_singleton _) ?_
  simpa [List.disjoint_singleton] using lookup_eq_none.mp h

/-! ## Updating -/

section

variable (hf : ∀ r, key r = k → key (f r) = k)
include hf

theorem map_key_update : (update key rows k f).map key = rows.map key := by
  unfold update
  rw [List.map_map]
  refine List.map_congr_left fun r _ => ?_
  by_cases h : key r = k
  · simp [h, hf r h]
  · simp [h]

theorem lookup_update_self : lookup key (update key rows k f) k = (lookup key rows k).map f := by
  unfold lookup update
  induction rows with
  | nil => rfl
  | cons x rows ih =>
    by_cases h : key x = k
    · simp [h, hf x h]
    · simp [h, ih]

theorem lookup_update_ne (hk : k' ≠ k) : lookup key (update key rows k f) k' = lookup key rows k' := by
  unfold lookup update
  induction rows with
  | nil => rfl
  | cons x rows ih =>
    by_cases h : key x = k
    · have : key x ≠ k' := fun he => hk (he.symm.trans h)
      simp [h, hf x h, Ne.symm hk, ih]
    · by_cases h' : key x = k' <;> simp [h, h', ih, hk]

end

theorem mem_update (h : x ∈ update key rows k f) : (x ∈ rows ∧ key x ≠ k) ∨ ∃ r ∈ rows, key r = k ∧ x = f r := by
  obtain ⟨r, hr, rfl⟩ := List.mem_map.mp h
  by_cases hk : key r = k
  · exact .inr ⟨r, hr, hk, if_pos hk⟩
  · simp only [if_neg hk]
    exact .inl ⟨hr, hk⟩

/-- A statement about every row is one about the row with key `k` and one about the others. -/
theorem forall_mem_split (hn : (rows.map key).Nodup) (h : lookup key rows k = some r) (P : ρ → Prop) :
    (∀ x ∈ rows, P x) ↔ P r ∧ ∀ x ∈ rows, key x ≠ k → P x := by
  refine ⟨fun hp => ⟨hp r (mem_of_lookup h), fun x hx _ => hp x hx⟩, fun ⟨hr, ho⟩ x hx => ?_⟩
  by_cases hk : key x = k
  · have := lookup_of_mem hn hx
    rw [hk, h] at this
    cases this
    exact hr
  · exact ho x hx hk

theorem forall_mem_update (hn : (rows.map key).Nodup) (h : lookup key rows k = some r) (P : ρ → Prop) :
    (∀ x ∈ update key rows k f, P x) ↔ P (f r) ∧ ∀ x ∈ rows, key x ≠ k → P x := by
  constructor
  · intro hp
    have hr := mem_of_lookup h
    have hk := key_of_lookup h
    refine ⟨hp _ (List.mem_map.mpr ⟨r, hr, if_pos hk⟩), fun x hx hne => hp _ (List.mem_map.mpr ⟨x, hx, if_neg hne⟩)⟩
  · rintro ⟨hr, ho⟩ x hx
    rcases mem_update hx with ⟨hx, hne⟩ | ⟨r', hr', hk, rfl⟩
    · exact ho x hx hne
    · have := lookup_of_mem hn hr'
      rw [hk, h] at this
      cases this
      exact hr

/-! ## Putting -/

/-- `INSERT … ON CONFLICT (key) DO UPDATE`, and the assignment to a key of a dict. -/
def put (key : ρ → κ) (rows : List ρ) (r : ρ) : List ρ :=
  match lookup key rows (key r) with
  | none => rows ++ [r]
  | some _ => update key rows (key r) fun _ => r

theorem lookup_put_self : lookup key (put key rows r) (key r) = some r := by
  unfold put
  cases h : lookup key rows (key r) with
  | none => exact lookup_append_new h
  | some old => rw [lookup_update_self fun _ _ => rfl, h, Option.map_some]

theorem lookup_put_ne (hk : key r ≠ k) : lookup key (put key rows r) k = lookup key rows k := by
  unfold put
  cases lookup key rows (key r) with
  | none => exact lookup_append_ne hk
  | some old => exact lookup_update_ne (fun _ _ => rfl) hk.symm

theorem mem_keys_iff : k ∈ rows.map key ↔ (lookup key rows k).isSome = true := by
  rw [← Option.ne_none_iff_isSome, Ne, lookup_eq_none, not_not]

theorem mem_keys_put : k ∈ (put key rows r).map key ↔ k ∈ rows.map key ∨ k = key r := by
  rw [mem_keys_iff, mem_keys_iff]
  by_cases hk : k = key r
  · subst hk
    simp [lookup_put_self]
  · rw [lookup_put_ne (Ne.symm hk)]
    simp [hk]

/-! ## Rows that encode entries -/

variable (enc : α → ρ) (key' : α → κ) {entries : List α}

theorem lookup_map (he : ∀ a, key (enc a) = key' a) (k : κ) :
    lookup key (entries.map enc) k = (lookup key' entries k).map enc := by
  unfold lookup
  rw [List.find?_map]
  congr 2
  funext a
  simp [he]

theorem update_map (he : ∀ a, key (enc a) = key' a) {g : α → α}
    (hg : ∀ a ∈ entries, key' a = k → f (enc a) = enc (g a)) :
    update key (entries.map enc) k f = (update key' entries k g).map enc := by
  unfold update
  rw [List.map_map, List.map_map]
  refine List.map_congr_left fun a ha => ?_
  by_cases h : key' a = k
  · simp [he, h, hg a ha h]
  · simp [he, h]

end Data.Table
