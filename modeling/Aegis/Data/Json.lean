/-
  Data.Json — the values a program serialises before it hashes, signs or stores them.

  A stored or hashed text is represented by the value it encodes: `json.dumps` with sorted
  keys and fixed separators gives equal texts for equal values, and `json.loads` gives the
  value back. Objects list their fields in the order the text has them. Arrays and objects
  are cons cells, so that equality of values is decidable and values can be enumerated.

  `Hashing` is a pair of digest functions on such texts; nothing is assumed of them but that
  a digest is never blank. That two texts never share a digest is a hypothesis of the results
  that need it.
-/

import Aegis.Data.Text
import Mathlib.Logic.Equiv.List
import Mathlib.Tactic.DeriveEncodable

namespace Data

instance encodableChar : Encodable Char := Encodable.ofLeftInverse Char.toNat Char.ofNat fun c => Char.ofNat_toNat c

instance encodableString : Encodable String :=
  Encodable.ofLeftInverse String.toList String.ofList fun _ => String.ofList_toList

inductive Json where
  | null
  | bool (b : Bool)
  | int (n : Int)
  | str (s : String)
  | nil
  | cons (head tail : Json)
  | empty
  | field (name : String) (value rest : Json)
  deriving DecidableEq, Repr, Encodable

namespace Json

def arr (xs : List Json) : Json := xs.foldr cons nil

def obj (fields : List (String × Json)) : Json := fields.foldr (fun f j => field f.1 f.2 j) empty

def opt (f : α → Json) : Option α → Json
  | some a => f a
  | none => null

def isObj : Json → Bool
  | empty => true
  | field _ _ rest => rest.isObj
  | _ => false

def names : Json → List String
  | field n _ rest => n :: rest.names
  | _ => []

/-- `d[name]`; `none` is a KeyError. -/
def get? : Json → String → Option Json
  | field n v rest, name => if n = name then some v else rest.get? name
  | _, _ => none

/-- `int(d[name])` of an integer field. -/
def int? (j : Json) (name : String) : Option Int :=
  match j.get? name with
  | some (int n) => some n
  | _ => none

/-- `str(d[name])` of a text field. -/
def str? (j : Json) (name : String) : Option String :=
  match j.get? name with
  | some (str s) => some s
  | _ => none

/-- The items of an array; `none` for any other value. -/
def elems? : Json → Option (List Json)
  | nil => some []
  | cons x xs => xs.elems?.map (x :: ·)
  | _ => none

/-- `d.pop(name, None)`, as what is left of `d`. -/
def pop : Json → String → Json
  | field n v rest, name => if n = name then rest.pop name else field n v (rest.pop name)
  | j, _ => j

@[simp] theorem elems?_arr (xs : List Json) : (arr xs).elems? = some xs := by
  induction xs with
  | nil => rfl
  | cons x xs ih =>
    show (arr xs).elems?.map (x :: ·) = _
    rw [ih]
    rfl

theorem arr_injective : Function.Injective arr := by
  intro xs
  induction xs with
  | nil => intro ys h; cases ys with
    | nil => rfl
    | cons y ys => cases h
  | cons x xs ih => intro ys h; cases ys with
    | nil => cases h
    | cons y ys =>
      obtain ⟨rfl, ht⟩ := Json.cons.inj h
      rw [ih ht]

@[simp] theorem arr_inj {xs ys : List Json} : arr xs = arr ys ↔ xs = ys := arr_injective.eq_iff

@[simp] theorem isObj_obj (fs : List (String × Json)) : (obj fs).isObj = true := by
  induction fs with
  | nil => rfl
  | cons f fs ih => exact ih

@[simp] theorem obj_nil : obj [] = empty := rfl

@[simp] theorem obj_cons (n : String) (v : Json) (fs : List (String × Json)) :
    obj ((n, v) :: fs) = field n v (obj fs) := rfl

theorem opt_injective {f : α → Json} (hf : Function.Injective f) (hn : ∀ a, f a ≠ null) :
    Function.Injective (opt f) := by
  intro a b h
  cases a with
  | none => cases b with
    | none => rfl
    | some b => exact absurd h.symm (hn b)
  | some a => cases b with
    | none => exact absurd h (hn a)
    | some b => rw [hf h]

end Json

structure Hashing where
  sha256 : Json → String
  hmac : String → Json → String
  sha256_not_blank : ∀ j, blank (sha256 j) = false

/-- The sum of the letters and numbers of a text. -/
def Json.weight : Json → Nat
  | null | nil | empty => 1
  | bool b => if b then 2 else 3
  | int n => n.natAbs + 2
  | str s => (letters s).foldl (fun n c => n + c.toNat) 2
  | cons x xs => x.weight + xs.weight
  | field _ v rest => v.weight + rest.weight

/-- One letter from a block of the alphabet that has no blanks. -/
def letter (n : Nat) : String := String.ofList [Char.ofNat (n % 9973 + 20000)]

theorem letter_not_blank (n : Nat) : blank (letter n) = false := by
  have hv : (n % 9973 + 20000).isValidChar := by
    left
    omega
  have hn : (Char.ofNat (n % 9973 + 20000)).toNat = n % 9973 + 20000 := by
    rw [Char.ofNat, dif_pos hv]
    rfl
  simp only [blank, letter, String.toList_ofList, List.all_cons, List.all_nil, Bool.and_true, isSpace, hn]
  simp only [Bool.or_eq_false_iff, Bool.and_eq_false_iff, decide_eq_false_iff_not, beq_eq_false_iff_ne]
  omega

/-- A digest quick to compute, which tells apart most texts of different weight. -/
def Hashing.light : Hashing where
  sha256 j := letter j.weight
  hmac _ j := letter (j.weight + 1)
  sha256_not_blank _ := letter_not_blank _

/-- A digest that tells all values apart. -/
def Hashing.unary : Hashing where
  sha256 j := String.ofList (List.replicate (Encodable.encode j + 1) 'h')
  hmac k j := String.ofList (List.replicate (Encodable.encode (Json.cons (.str k) j) + 1) 'm')
  sha256_not_blank j := by simp [blank, List.replicate_succ, isSpace]

theorem Hashing.unary_injective : Function.Injective Hashing.unary.sha256 := by
  intro a b h
  have := congrArg String.length h
  simpa [unary] using this

end Data
