/-
  Aegis.Agentic.Evidence — what the analyzers of agentic evidence share: upstream assessments,
  which they read attribute by attribute, digests of manifests, and rejections.

  An upstream assessment is any object; the analyzers use `getattr` with a default. It is
  represented by a Json object of its attributes, an enumeration member among them by an object
  with a field `value`. `Runtime` is what else they take from Python.
-/

import Aegis.Data.Dumps
import Aegis.Data.Sorted

namespace Aegis.Agentic

open Data

/-- `str.casefold`, and `str` of a dict, which tells dicts apart. -/
structure Runtime extends Hashing where
  casefold : String → String
  str : Json → String
  str_injective : Function.Injective str

theorem code_text_injective : Function.Injective fun j : Json => String.ofList j.code := by
  intro a b h
  have hl : a.code ++ [] = b.code ++ [] := by
    simpa using congrArg String.toList h
  exact (Json.code_inj hl).1

/-- A runtime for texts in small letters and one manifest, whose digest is given. -/
def Runtime.folded (digest : String) (h : blank digest = false) : Runtime where
  sha256 _ := digest
  hmac _ _ := digest
  sha256_not_blank _ := h
  casefold s := s
  str j := String.ofList j.code
  str_injective := code_text_injective

/-- A digest that is one letter all over. -/
def hex (c : Char) : String := String.ofList (List.replicate 64 c)

theorem hex_not_blank : blank (hex '0') = false := rfl

/-- `dict` as a map; the order of its keys is not observed. -/
abbrev Dict (α : Type) := String → Option α

namespace Dict

variable {α : Type} {key : α → String} {items : List α}

def set (d : Dict α) (k : String) (a : α) : Dict α := fun k' => if k' = k then some a else d k'

@[simp] theorem set_self (d : Dict α) (k : String) (a : α) : d.set k a k = some a := if_pos rfl

theorem set_ne {d : Dict α} {k k' : String} {a : α} (h : k' ≠ k) : d.set k a k' = d k' := if_neg h

/-- `{key(x): x for x in items}` for items with keys of their own. -/
def ofItems (key : α → String) (items : List α) : Dict α := fun k => items.find? fun x => key x = k

/-- A dict given by its items. -/
def mapping (pairs : List (String × α)) : Dict α := fun k => (pairs.find? fun p => p.1 = k).map (·.2)

theorem ofItems_mem {k : String} {x : α} (h : ofItems key items k = some x) :
    x ∈ items ∧ key x = k := ⟨List.mem_of_find?_eq_some h, by simpa using List.find?_some h⟩

theorem ofItems_self {x : α} (hn : (items.map key).Nodup) (hx : x ∈ items) : ofItems key items (key x) = some x := by
  cases hf : ofItems key items (key x) with
  | none =>
    have hall := List.find?_eq_none.mp hf
    exact absurd (by simp) (hall x hx)
  | some y =>
    obtain ⟨hy, hk⟩ := ofItems_mem hf
    rw [List.inj_on_of_nodup_map hn hy hx hk]

end Dict

/-- `set(xs) == set(ys)`. -/
def sameSet (xs ys : List String) : Prop := (∀ x ∈ xs, x ∈ ys) ∧ ∀ y ∈ ys, y ∈ xs

instance (xs ys : List String) : Decidable (sameSet xs ys) := inferInstanceAs (Decidable (_ ∧ _))

def optText (s : Option String) : Json := Json.opt .str s

theorem optText_injective : Function.Injective optText :=
  Json.opt_injective (fun _ _ h => Json.str.inj h) fun _ => nofun

/-! ## Duck-typed evidence -/

namespace Evidence

variable (rt : Runtime)

def getattr (value : Json) (name : String) (default : Json) : Json := (value.get? name).getD default

/-- `str(value)`. -/
def text : Json → String
  | .str s => s
  | .int n => toString n
  | .bool b => if b then "True" else "False"
  | .null => "None"
  | j => rt.str j

/-- `bool(value)`. -/
def truthy : Json → Bool
  | .null | .nil | .empty => false
  | .bool b => b
  | .int n => n ≠ 0
  | .str s => s ≠ ""
  | .cons _ _ | .field _ _ _ => true

def elements : Json → List Json
  | .cons x xs => x :: elements xs
  | _ => []

/-- `{str(getattr(x, attr, "")): x for x in getattr(value, name, ())}`: a later item takes the place of an earlier
    one of the same id. -/
def inventory (value : Json) (name attr : String) : Dict Json := fun k =>
  (elements (getattr value name .nil)).reverse.find? fun x => text rt (getattr x attr (.str "")) = k

/-- `_digest`. -/
def digest (value : Json) : String := rt.casefold (text rt (getattr value "assessment_evidence_sha256" (.str "")))

def hexDigits : List Char := "0123456789abcdef".toList

/-- `_sha`. -/
def sha (value : String) : Prop := value.length = 64 ∧ ∀ c ∈ (rt.casefold value).toList, c ∈ hexDigits

/-- Whether a letter is one of `hexDigits`, by its code. -/
def hexDigit (c : Char) : Bool := (48 ≤ c.toNat && c.toNat ≤ 57) || (97 ≤ c.toNat && c.toNat ≤ 102)

theorem mem_hexDigits (c : Char) : c ∈ hexDigits ↔ hexDigit c = true := by
  constructor
  · intro h
    have hall : hexDigits.all hexDigit = true := by decide
    exact List.all_eq_true.mp hall c h
  · intro h
    have hcode : ∀ n < 103, hexDigit (Char.ofNat n) = true → Char.ofNat n ∈ hexDigits := by decide
    have hlt : c.toNat < 103 := by
      simp only [hexDigit, Bool.or_eq_true, Bool.and_eq_true, decide_eq_true_eq] at h
      omega
    rw [← Char.ofNat_toNat c] at h ⊢
    exact hcode c.toNat hlt h

instance decidableSha (value : String) : Decidable (sha rt value) :=
  decidable_of_iff ((letters value).length = 64 ∧ (letters (rt.casefold value)).all hexDigit = true) (by
    rw [sha, letters_eq, letters_eq, String.length_toList, List.all_eq_true]
    simp only [mem_hexDigits])

/-- `getattr(raw, "value", raw)`. -/
def enumValue (raw : Json) : Json := getattr raw "value" raw

end Evidence

/-! ## Canonical manifests -/

namespace Canonical

variable (rt : Runtime)

/-- Checked item by item. -/
local instance decidableEvery (P : Char → Prop) [DecidablePred P] (cs : List Char) : Decidable (∀ c ∈ cs, P c) := List.decidableBAll P cs

/-- `_norm` of a text. -/
def normText (s : String) : String :=
  if s.length = 64 ∧ ∀ c ∈ s.toList, c ∈ "0123456789abcdefABCDEF".toList then rt.casefold s else s

/-- `_norm` of the fields of an item. -/
def normItem : Json → Json
  | .field n v rest => .field n (normValue v) (normItem rest)
  | j => j
where
  normValue : Json → Json
    | .str s => .str (normText rt s)
    | j => j

/-- `_norm` of a tuple of items, each as its dict. -/
def normItems (toDict : α → Json) (items : List α) : Json :=
  .arr ((sortOn (fun x => rt.str (toDict x)) items).map fun x => (normItem rt (toDict x)).sorted)

theorem normItems_perm {toDict : α → Json} {items items' : List α} (h : items.Perm items')
    (hd : ∀ a ∈ items, ∀ b ∈ items, toDict a = toDict b → a = b) : normItems rt toDict items = normItems rt toDict items' := by
  unfold normItems
  rw [sortOn_perm h fun a ha b hb he => hd a ha b hb (rt.str_injective he)]

end Canonical

/-! ## Checks -/

/-- What an analyzer raises: its own rejection, a KeyError, or a RecursionError. -/
inductive Raised (ρ : Type) where
  | rejected (reason : ρ) (message : String) (itemId : Option String)
  | key (k : String)
  | recursion
  deriving DecidableEq, Repr

abbrev Checked (ρ α : Type) := Except (Raised ρ) α

namespace Checked

variable {ρ α β : Type} {u : Unit}

def rejectIf (c : Prop) [Decidable c] (reason : ρ) (message : String) (itemId : Option String) : Checked ρ Unit :=
  if c then .error (.rejected reason message itemId) else .ok ()

/-- `d[k]`. -/
def getItem (d : Dict α) (k : String) : Checked ρ α :=
  match d k with
  | some a => .ok a
  | none => .error (.key k)

/-- `for x in xs: check(x)`. -/
def forEach (check : α → Checked ρ Unit) : List α → Checked ρ Unit
  | [] => .ok ()
  | x :: xs =>
    match check x with
    | .error e => .error e
    | .ok () => forEach check xs

/-- A dict is made of items: `check` sees every key after those before it. -/
def keysFrom (check : List String → String → Checked ρ Unit) (id : α → String) (seen : List String) :
    List α → Checked ρ Unit
  | [] => .ok ()
  | x :: xs =>
    match check seen (id x) with
    | .error e => .error e
    | .ok () => keysFrom check id (seen ++ [id x]) xs

@[simp] theorem rejectIf_ok {c : Prop} [Decidable c] {reason : ρ} {message : String} {itemId : Option String} :
    rejectIf c reason message itemId = .ok u ↔ ¬ c := by
  unfold rejectIf
  split <;> simp_all

@[simp] theorem getItem_ok {d : Dict α} {k : String} {a : α} : (getItem d k : Checked ρ α) = .ok a ↔ d k = some a := by
  unfold getItem
  split <;> simp_all

@[simp] theorem forEach_ok {check : α → Checked ρ Unit} {xs : List α} :
    forEach check xs = .ok u ↔ ∀ x ∈ xs, check x = .ok () := by
  induction xs with
  | nil => simp [forEach]
  | cons x xs ih =>
    unfold forEach
    cases h : check x with
    | error e => simp [h]
    | ok u => simp [h, ih]

/-- What one step of a computation that may raise comes to. -/
@[simp] theorem bind_ok {x : Checked ρ α} {f : α → Checked ρ β} {b : β} :
    (x >>= f) = .ok b ↔ ∃ a, x = .ok a ∧ f a = .ok b := by
  cases x with
  | error e => simp [bind, Except.bind]
  | ok a => simp [bind, Except.bind]

/-- It does not end in a RecursionError. -/
def Shallow (x : Checked ρ α) : Prop := x ≠ .error .recursion

namespace Shallow

theorem ok {a : α} : Shallow (.ok a : Checked ρ α) := by
  intro h
  cases h

theorem bind {x : Checked ρ α} {f : α → Checked ρ β} (hx : Shallow x) (hf : ∀ a, x = .ok a → Shallow (f a)) : Shallow (x >>= f) := by
  cases x with
  | error e =>
    intro he
    cases he
    exact hx rfl
  | ok a => exact hf a rfl

theorem rejectIf {c : Prop} [Decidable c] {reason : ρ} {message : String} {itemId : Option String} :
    Shallow (Checked.rejectIf c reason message itemId) := by
  unfold Shallow Checked.rejectIf
  split <;> simp

theorem getItem {d : Dict α} {k : String} : Shallow (Checked.getItem d k : Checked ρ α) := by
  unfold Shallow Checked.getItem
  split <;> simp

theorem forEach {check : α → Checked ρ Unit} (h : ∀ x, Shallow (check x)) (xs : List α) : Shallow (Checked.forEach check xs) := by
  induction xs with
  | nil => exact ok
  | cons x xs ih =>
    unfold Checked.forEach
    split
    · rename_i e he
      intro hr
      exact h x (he.trans hr)
    · exact ih

theorem keysFrom {check : List String → String → Checked ρ Unit} (h : ∀ seen key, Shallow (check seen key)) (id : α → String)
    (seen : List String) (xs : List α) : Shallow (Checked.keysFrom check id seen xs) := by
  induction xs generalizing seen with
  | nil => exact ok
  | cons x xs ih =>
    unfold Checked.keysFrom
    split
    · rename_i e he
      intro hr
      exact h seen (id x) (he.trans hr)
    · exact ih _

end Shallow

theorem keysFrom_ok {check : List String → String → Checked ρ Unit} {P : String → Prop}
    (hc : ∀ seen key, check seen key = .ok () ↔ key ∉ seen ∧ P key) {id : α → String} {seen : List String} {items : List α} :
    keysFrom check id seen items = .ok u ↔ (items.map id).Nodup ∧ ∀ x ∈ items, id x ∉ seen ∧ P (id x) := by
  induction items generalizing seen with
  | nil => simp [keysFrom]
  | cons x xs ih =>
    unfold keysFrom
    rw [List.map_cons, List.nodup_cons, List.forall_mem_cons]
    cases hx : check seen (id x) with
    | error e =>
      have hno : ¬ (id x ∉ seen ∧ P (id x)) := fun h => by
        rw [(hc seen (id x)).mpr h] at hx
        cases hx
      simp [hno]
    | ok v =>
      have hyes := (hc seen (id x)).mp hx
      have hsplit : (∀ y ∈ xs, id y ∉ seen ++ [id x] ∧ P (id y)) ↔
          (∀ y ∈ xs, id y ∉ seen ∧ P (id y)) ∧ id x ∉ xs.map id := by
        constructor
        · intro h
          refine ⟨fun y hy => ⟨fun hm => (h y hy).1 (List.mem_append_left _ hm), (h y hy).2⟩, fun hm => ?_⟩
          obtain ⟨y, hy, he⟩ := List.mem_map.mp hm
          exact (h y hy).1 (List.mem_append_right _ (by simp [he]))
        · rintro ⟨h, hn⟩ y hy
          refine ⟨fun hm => ?_, (h y hy).2⟩
          rcases List.mem_append.mp hm with hm | hm
          · exact (h y hy).1 hm
          · exact hn (List.mem_singleton.mp hm ▸ List.mem_map_of_mem hy)
      dsimp only
      rw [ih, hsplit]
      tauto

end Checked

end Aegis.Agentic
