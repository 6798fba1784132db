/-
  Aegis.Agentic.Decision — what the message, memory, artifact and recovery analyzers share: the
  rows of `_validate_upstreams`, `_map`, `_unique`, `_safe`, a decision that denies whatever
  carries a risk, and the attributes of an enumeration member.

  Each of these modules has its own copy of the functions; the copies differ in the reason they
  raise only.
-/

import Aegis.Agentic.Evidence
import Aegis.Data.Checks

namespace Aegis.Agentic.Decision

open Data Evidence Checked

variable {α ρ : Type} {raised : Option String → ρ} {message : String} {items xs : List α} {c : Prop} {r : ρ}

/-- A risk that is added under a condition. -/
def flag (c : Prop) [Decidable c] (r : α) : List α := if c then [r] else []

@[simp] theorem flag_eq_nil [Decidable c] {r : α} : flag c r = [] ↔ ¬ c := by
  unfold flag
  by_cases h : c
  · simp [h]
  · simp [h]

theorem mem_flag [Decidable c] {r x : α} : x ∈ flag c r ↔ c ∧ x = r := by
  unfold flag
  by_cases h : c
  · simp [h]
  · simp [h]

/-- A set of risks as the tuple `sorted(risks, key=value)`. -/
def sorted [DecidableEq α] (value : α → String) (risks : List α) : List α := sortOn value risks.dedup

@[simp] theorem sorted_eq_nil [DecidableEq α] {value : α → String} {risks : List α} : sorted value risks = [] ↔ risks = [] := by
  rw [sorted, ← List.length_eq_zero_iff, (perm_sortOn value _).length_eq, List.length_eq_zero_iff, List.dedup_eq_nil]

/-- `max((score[r] for r in risks), default=0)`. -/
def maxScore (score : α → Nat) (risks : List α) : Nat := (risks.map score).foldl max 0

/-- `_map`: every item has an identifier of its own. -/
def unique (coverageMismatch : ρ) (id : α → String) (items : List α) : Checked ρ Unit :=
  keysFrom (fun seen key => rejectIf (key ∈ seen) coverageMismatch "duplicate identifier" (some key)) id [] items

@[simp] theorem unique_ok {id : α → String} {u : Unit} : unique r id items = .ok u ↔ (items.map id).Nodup := by
  unfold unique
  rw [keysFrom_ok (P := fun _ => True) (by simp)]
  simp

/-- A member of a `StrEnum` as an object. -/
def member (value : String) : Json := .obj [("value", .str value)]

/-- The loop that fills a dict of items whose identifiers are not empty; `raised` gets the identifier, if there is one. -/
def keyed (raised : Option String → ρ) (message : String) (id : α → String) (items : List α) : Checked ρ Unit :=
  keysFrom (fun seen key => rejectIf (key = "" ∨ key ∈ seen) (raised (if key = "" then none else some key)) message none) id [] items

@[simp] theorem keyed_ok {id : α → String} {u : Unit} :
    keyed raised message id items = .ok u ↔ (items.map id).Nodup ∧ ∀ x ∈ items, id x ≠ "" := by
  unfold keyed
  rw [keysFrom_ok (P := fun key => key ≠ "") (by simp only [rejectIf_ok]; tauto)]
  simp

theorem gather_shallow {β : Type} {f : α → Checked ρ β} (h : ∀ x, Shallow (f x)) : Shallow (Checks.gather f xs) := by
  induction xs with
  | nil => exact .ok
  | cons x xs ih => exact .bind (h x) fun _ _ => .bind ih fun _ _ => .ok

variable (rt : Runtime) {value : Json}

/-- The items of an attribute, by the identifier each has of its own. -/
def itemsOf (value : Json) (name attr : String) : Dict Json :=
  Dict.ofItems (fun item => text rt (getattr item attr (.str ""))) (elements (getattr value name .nil))

/-- `_unique`: the items of an upstream attribute, each with an identifier of its own. -/
def uniqueItems (reason : ρ) (value : Json) (name attr : String) : Checked ρ (Dict Json) := do
  let items := elements (getattr value name .nil)
  let key (item : Json) := text rt (getattr item attr (.str ""))
  keysFrom (fun seen id => rejectIf (id = "" ∨ id ∈ seen) reason "upstream evidence contains duplicate or empty identifiers" none)
    key [] items
  rejectIf (items = []) reason "upstream evidence inventory is empty" none
  pure (Dict.ofItems key items)

theorem uniqueItems_eq {name attr : String} {d : Dict Json}
    (h : uniqueItems rt r value name attr = .ok d) : d = itemsOf rt value name attr := by
  simp only [uniqueItems, bind_ok] at h
  obtain ⟨-, -, -, -, h⟩ := h
  exact (Except.ok.inj h).symm

/-- `_state`. -/
def stateOf (value : Json) : String :=
  rt.casefold (text rt (enumValue (getattr value "decision" (getattr value "outcome" (getattr value "state" (.str ""))))))

/-- `_safe`. -/
def safe (value : Json) : Prop := stateOf rt value ∈ ["allow", "allowed", "safe", "holds"]

instance decidableSafe (value : Json) : Decidable (safe rt value) := inferInstanceAs (Decidable (_ ∈ _))

/-- `item is not None and _safe(item)`. -/
def Vouched (item : Option Json) : Prop := ∃ x ∈ item, safe rt x

instance decidableVouched (item : Option Json) : Decidable (Vouched rt item) := inferInstanceAs (Decidable (∃ x ∈ item, _))

/-- One row of `checks` in `_validate_upstreams`. -/
def validateUpstream (upstreamInvalid : ρ) (value : Json) (pin manifestPin : String) (flags : List String) (callerFlag : String) :
    Checked ρ Unit := do
  rejectIf (digest rt value ≠ rt.casefold pin ∨ rt.casefold manifestPin ≠ rt.casefold pin) upstreamInvalid
    "upstream digest mismatch" none
  rejectIf ((∃ f ∈ flags, truthy (getattr value f (.bool false)) = false) ∨ truthy (getattr value callerFlag (.bool true)) = true)
    upstreamInvalid "upstream verification boundary invalid" none

/-! ## What is raised -/

/-- The rejection of an analyzer, and not a lookup that failed. -/
def IsRejection : Raised ρ → Prop
  | .rejected _ _ _ => True
  | _ => False

theorem rejectIf_rejects [Decidable c] {reason : ρ} {itemId : Option String} :
    Checks.Raises IsRejection (rejectIf c reason message itemId) := by
  unfold rejectIf
  by_cases h : c
  · rw [if_pos h]
    exact .error trivial
  · rw [if_neg h]
    exact .ok

theorem rejectIf_bind [Decidable c] {reason : ρ} {itemId : Option String} {f : Unit → Checked ρ α}
    (h : Checks.Raises IsRejection (f ())) : Checks.Raises IsRejection (rejectIf c reason message itemId >>= f) :=
  .bind rejectIf_rejects fun _ _ => h

variable {P : Raised ρ → Prop}

theorem getItem_raises {d : Dict α} {k : String} (h : d k = none → P (.key k)) :
    Checks.Raises P (getItem d k : Checked ρ α) := by
  unfold getItem
  cases hk : d k with
  | none => exact .error (h hk)
  | some a => exact .ok

theorem forEach_raises {check : α → Checked ρ Unit} (h : ∀ x ∈ xs, Checks.Raises P (check x)) :
    Checks.Raises P (forEach check xs) := by
  induction xs with
  | nil => exact .ok
  | cons x xs ih =>
    have hx := h x List.mem_cons_self
    unfold forEach
    cases hcheck : check x with
    | error e => exact .error (hx e hcheck)
    | ok u => exact ih fun y hy => h y (List.mem_cons_of_mem _ hy)

theorem keysFrom_raises {check : List String → String → Checked ρ Unit} {id : α → String} {seen : List String} (h : ∀ seen key, Checks.Raises P (check seen key)) : Checks.Raises P (keysFrom check id seen xs) := by
  induction xs generalizing seen with
  | nil => exact .ok
  | cons x xs ih =>
    unfold keysFrom
    cases hcheck : check seen (id x) with
    | error e => exact .error (h seen (id x) e hcheck)
    | ok u => exact ih

theorem keyed_rejects {id : α → String} :
    Checks.Raises IsRejection (keyed raised message id items) := keysFrom_raises fun _ _ => rejectIf_rejects

theorem uniqueItems_rejects {name attr : String} : Checks.Raises IsRejection (uniqueItems rt r value name attr) :=
  .bind (keysFrom_raises fun _ _ => rejectIf_rejects) fun _ _ => rejectIf_bind .ok

/-! ## Manifests -/

/-- `_norm` of a tuple of dataclasses: they are sorted by the text of their dicts, and the texts in each are normalised.
    `toDict` gives the dict of an item with its texts and its tuples of texts as they are shown. -/
def normTuple (toDict : (String → Json) → (List String → Json) → α → Json) (items : List α) : Json :=
  .arr ((sortOn (fun x => rt.str (toDict .str (fun ts => .arr (ts.map .str)) x)) items).map fun x =>
    (toDict (fun s => .str (Canonical.normText rt s)) (fun ts => .arr ((sortOn id ts).map fun s => .str (Canonical.normText rt s))) x).sorted)

end Aegis.Agentic.Decision
