/-
  Data.PosixPath — paths as texts: `split("/")`, `posixpath.normpath`, `join` and `dirname`.

  A path below a directory is in a scope that the directory is outside of only where the scope
  itself is below the directory (`below_iff`).
-/

import Mathlib.Data.List.Basic
import Mathlib.Tactic.Common

namespace Data.PosixPath

/-- A component of a path. -/
abbrev Name := List Char

def up : Name := ['.', '.']

def here : Name := ['.']

/-- `path.split("/")`. -/
def components : List Char → List Name
  | [] => [[]]
  | c :: cs =>
    if c = '/' then [] :: components cs
    else
      match components cs with
      | [] => [[c]]
      | name :: names => (c :: name) :: names

theorem components_ne_nil (cs : List Char) : components cs ≠ [] := by
  cases cs with
  | nil => exact List.cons_ne_nil _ _
  | cons c cs =>
    unfold components
    split_ifs
    · exact List.cons_ne_nil _ _
    · cases components cs with
      | nil => exact List.cons_ne_nil _ _
      | cons name names => exact List.cons_ne_nil _ _

/-- A path that ends with a slash ends with an empty component. -/
theorem components_snoc_slash (cs : List Char) : components (cs ++ ['/']) = components cs ++ [[]] := by
  induction cs with
  | nil => rfl
  | cons c cs ih =>
    rw [List.cons_append]
    unfold components
    split_ifs
    · rw [ih, List.cons_append]
    · rw [ih]
      cases h : components cs with
      | nil => exact absurd h (components_ne_nil cs)
      | cons name names => rfl

/-- `"/".join(names)`. -/
def joined : List Name → List Char
  | [] => []
  | [name] => name
  | name :: names => name ++ '/' :: joined names

/-- One turn of the loop of `normpath` over `new_comps`. -/
def collapse (absolute : Bool) (kept : List Name) (name : Name) : List Name :=
  if name = [] ∨ name = here then kept
  else if name ≠ up ∨ (absolute = false ∧ kept = []) ∨ kept.getLast? = some up then kept ++ [name]
  else kept.dropLast

def initialSlashes : List Char → Nat
  | '/' :: '/' :: '/' :: _ => 1
  | '/' :: '/' :: _ => 2
  | '/' :: _ => 1
  | _ => 0

/-- `posixpath.normpath`. -/
def normpath (path : List Char) : List Char :=
  let slashes := initialSlashes path
  let result := List.replicate slashes '/' ++ joined ((components path).foldl (collapse (slashes ≠ 0)) [])
  if result = [] then here else result

/-- `posixpath.join`. -/
def join (a b : List Char) : List Char :=
  if b.head? = some '/' then b
  else if a = [] ∨ a.getLast? = some '/' then a ++ b
  else a ++ '/' :: b

/-- A relative path is joined with a slash. -/
theorem join_eq {a b : List Char} (hb : b.head? ≠ some '/') (ha : a ≠ []) (hlast : a.getLast? ≠ some '/') : join a b = a ++ '/' :: b := by
  rw [join, if_neg hb, if_neg (not_or.mpr ⟨ha, hlast⟩)]

/-- What is below a path is at or below a scope, which that path is not, if and only if the scope is below the
path and it is at or below what is left of the scope. -/
theorem below_iff {scope path rest : List Char} (hpath : path ≠ scope) (hbelow : ¬ scope ++ ['/'] <+: path) :
    (path ++ '/' :: rest = scope ∨ scope ++ ['/'] <+: path ++ '/' :: rest) ↔
      ∃ left, scope = path ++ '/' :: left ∧ (rest = left ∨ left ++ ['/'] <+: rest) := by
  have hsplit : path ++ '/' :: rest = (path ++ ['/']) ++ rest := by simp
  constructor
  · intro h
    rcases h with rfl | h
    · exact ⟨rest, rfl, .inl rfl⟩
    · have hslash : path ++ ['/'] <+: path ++ '/' :: rest := hsplit ▸ List.prefix_append _ _
      rcases List.prefix_or_prefix_of_prefix h hslash with hp | hp
      · rcases List.prefix_concat_iff.mp hp with he | hp
        · exact absurd (List.append_cancel_right he).symm hpath
        · exact absurd hp hbelow
      · rcases List.prefix_concat_iff.mp hp with he | hp
        · exact absurd (List.append_cancel_right he) hpath
        · obtain ⟨left, rfl⟩ := hp
          refine ⟨left, by simp, .inr ?_⟩
          rw [hsplit, List.append_assoc] at h
          exact (List.prefix_append_right_inj _).mp h
  · intro h
    obtain ⟨left, rfl, rfl | hleft⟩ := h
    · exact .inl rfl
    · refine .inr ?_
      have hinside := (List.prefix_append_right_inj (path ++ ['/'])).mpr hleft
      simpa using hinside

/-- `text.rstrip("/")`. -/
def rstrip (text : List Char) : List Char := (text.reverse.dropWhile (· = '/')).reverse

/-- `posixpath.dirname`. -/
def dirname (path : List Char) : List Char :=
  let head := (path.reverse.dropWhile (· ≠ '/')).reverse
  if rstrip head = [] then head else rstrip head

end Data.PosixPath
