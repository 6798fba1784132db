/-
  Aegis.Agentic.CanonicalForm — what the canonical form of a manifest tells of its tuples.

  `_norm` sorts every tuple and writes the texts that look like digests in small letters. A tuple
  can therefore be told up to its order, and its items up to the letters of such texts and to the
  order of the tuples in them (`paired_of_normTuple`, `paired_of_normItems`); reordering a tuple
  does not show (`normTuple_perm`). Texts that `_norm` writes alike are the same, or look like the
  same digest (`normText_eq`).
-/

import Aegis.Agentic.Decision
import Aegis.Data.Reordering

namespace Aegis.Agentic.Decision

open Data

variable {α : Type} {rt : Runtime}

/-- The fields of an item, given how texts and tuples of texts are written. -/
abbrev Fields (α : Type) := (String → Json) → (List String → Json) → α → List (String × Json)

/-- A text as a canonical form writes it, and a tuple of texts. -/
def written (rt : Runtime) (s : String) : Json := .str (Canonical.normText rt s)

def writtenAll (rt : Runtime) (ts : List String) : Json := .arr ((sortOn id ts).map fun s => .str (Canonical.normText rt s))

/-- The texts of an item are those its canonical form shows. -/
def InLetters (rt : Runtime) (fields : Fields α) (x : α) : Prop := ∀ texts, fields (written rt) texts x = fields .str texts x

/-- The values of an item, as its canonical form shows them. -/
def shown (rt : Runtime) (fields : Fields α) (x : α) : List Json := (fields .str (writtenAll rt) x).map (·.2.sorted)

theorem normTuple_perm {toDict : (String → Json) → (List String → Json) → α → Json} {xs ys : List α} (h : xs.Perm ys)
    (hd : ∀ a ∈ xs, ∀ b ∈ xs, toDict .str (fun ts => .arr (ts.map .str)) a = toDict .str (fun ts => .arr (ts.map .str)) b → a = b) :
    normTuple rt toDict xs = normTuple rt toDict ys := by
  unfold normTuple
  rw [sortOn_perm h fun a ha b hb he => hd a ha b hb (rt.str_injective he)]

theorem paired_of_normTuple {fields : Fields α} {xs ys : List α}
    (h : normTuple rt (fun text texts x => .obj (fields text texts x)) xs = normTuple rt (fun text texts x => .obj (fields text texts x)) ys)
    (hxs : ∀ x ∈ xs, InLetters rt fields x) (hys : ∀ y ∈ ys, InLetters rt fields y)
    (hnames : ∀ x y : α, (fields .str (writtenAll rt) x).map (·.1) = (fields .str (writtenAll rt) y).map (·.1))
    (hnodup : ∀ x : α, ((fields .str (writtenAll rt) x).map (·.1)).Nodup) :
    ∃ zs, zs.Perm ys ∧ List.Forall₂ (fun x z => shown rt fields x = shown rt fields z) xs zs := by
  have hmaps := Json.arr_injective h
  have hperm : (xs.map fun x => (Json.obj (fields (written rt) (writtenAll rt) x)).sorted).Perm
      (ys.map fun y => (Json.obj (fields (written rt) (writtenAll rt) y)).sorted) :=
    ((perm_sortOn _ xs).map _).symm.trans ((List.Perm.of_eq hmaps).trans ((perm_sortOn _ ys).map _))
  refine forall₂_of_map hperm fun x hx y hy he => ?_
  rw [hxs x hx, hys y hy] at he
  exact Json.sorted_inj (hnames x y) (hnodup x) he

@[simp] theorem sorted_opt_str (o : Option String) : (Json.opt .str o).sorted = Json.opt .str o := by
  cases o with
  | none => rfl
  | some s => rfl

@[simp] theorem opt_str_inj {a b : Option String} : Json.opt Json.str a = Json.opt Json.str b ↔ a = b := optText_injective.eq_iff

/-! ## The letters of a text -/

/-- What `_norm` takes for a digest. -/
def DigestLike (s : String) : Prop := s.length = 64 ∧ ∀ c ∈ s.toList, c ∈ "0123456789abcdefABCDEF".toList

/-- `str.casefold` of what looks like a digest looks like one. -/
def Folds (rt : Runtime) : Prop := ∀ s, DigestLike s → DigestLike (rt.casefold s)

/-- Texts that pass for the same digest. -/
structure SameDigest (rt : Runtime) (s s' : String) : Prop where
  length : s.length = s'.length
  casefold : rt.casefold s = rt.casefold s'

/-- No two of the texts differ in what `_norm` erases. -/
def OneSpelling (rt : Runtime) (ts : List String) : Prop :=
  ∀ s ∈ ts, ∀ s' ∈ ts, Canonical.normText rt s = Canonical.normText rt s' → s = s'

theorem SameDigest.refl (s : String) : SameDigest rt s s := ⟨rfl, rfl⟩

variable {s s' : String} {ts ts' : List String}

theorem SameDigest.sha_iff (h : SameDigest rt s s') : Evidence.sha rt s ↔ Evidence.sha rt s' := by
  rw [Evidence.sha, Evidence.sha, h.length, h.casefold]

theorem normText_digestLike (h : DigestLike s) : Canonical.normText rt s = rt.casefold s := if_pos h

theorem normText_plain (h : ¬ DigestLike s) : Canonical.normText rt s = s := if_neg h

theorem normText_short (h : s.length ≠ 64) : Canonical.normText rt s = s := normText_plain fun hlike => h hlike.1

theorem digestLike_hex {c : Char} (h : c ∈ "0123456789abcdefABCDEF".toList) : DigestLike (hex c) := by
  have hlist : (hex c).toList = List.replicate 64 c := String.toList_ofList
  refine ⟨?_, fun x hx => ?_⟩
  · rw [← String.length_toList, hlist, List.length_replicate]
  · rw [hlist, List.mem_replicate] at hx
    exact hx.2 ▸ h

theorem normText_eq (hfolds : Folds rt) (h : Canonical.normText rt s = Canonical.normText rt s') :
    s = s' ∨ DigestLike s ∧ DigestLike s' ∧ rt.casefold s = rt.casefold s' := by
  by_cases hs : DigestLike s
  · rw [normText_digestLike hs] at h
    by_cases hs' : DigestLike s'
    · rw [normText_digestLike hs'] at h
      exact .inr ⟨hs, hs', h⟩
    · rw [normText_plain hs'] at h
      exact absurd (h ▸ hfolds s hs) hs'
  · rw [normText_plain hs] at h
    by_cases hs' : DigestLike s'
    · rw [normText_digestLike hs'] at h
      exact absurd (h ▸ hfolds s' hs') hs
    · rw [normText_plain hs'] at h
      exact .inl h

theorem sameDigest_of_normText (hfolds : Folds rt) (h : Canonical.normText rt s = Canonical.normText rt s') :
    SameDigest rt s s' := by
  rcases normText_eq hfolds h with rfl | ⟨hs, hs', hcase⟩
  · exact .refl s
  · exact ⟨hs.1.trans hs'.1.symm, hcase⟩

/-- A text that does not look like a digest is told. -/
theorem eq_of_normText (hfolds : Folds rt) (h : Canonical.normText rt s = Canonical.normText rt s')
    (hs : s.length ≠ 64) : s = s' := by
  rcases normText_eq hfolds h with he | ⟨hlike, -⟩
  · exact he
  · exact absurd hlike.1 hs

/-- Texts of two lists that `_norm` writes alike are the same. -/
def Told (rt : Runtime) (ts ts' : List String) : Prop :=
  ∀ s ∈ ts, ∀ s' ∈ ts', Canonical.normText rt s = Canonical.normText rt s' → s = s'

theorem Told.opt (h : Told rt ts ts') {o o' : Option String} (ho : ∀ s ∈ o, s ∈ ts) (ho' : ∀ s ∈ o', s ∈ ts')
    (he : o.map (Canonical.normText rt) = o'.map (Canonical.normText rt)) : o = o' := by
  cases o with
  | none =>
    cases o' with
    | none => rfl
    | some s' => cases he
  | some s =>
    cases o' with
    | none => cases he
    | some s' => rw [h s (ho s rfl) s' (ho' s' rfl) (Option.some.inj he)]

theorem Told.all (h : Told rt ts ts') (he : ts.map (Canonical.normText rt) = ts'.map (Canonical.normText rt)) :
    ts = ts' := by
  rw [← List.forall₂_eq_eq_eq]
  rw [← List.forall₂_eq_eq_eq, List.forall₂_map_left_iff, List.forall₂_map_right_iff] at he
  exact forall₂_mem he fun s hs s' hs' => h s hs s' hs'

theorem rel_of_normText (hfolds : Folds rt) {o o' : Option String}
    (he : o.map (Canonical.normText rt) = o'.map (Canonical.normText rt)) : Option.Rel (SameDigest rt) o o' := by
  cases o with
  | none =>
    cases o' with
    | none => exact .none
    | some s' => cases he
  | some s =>
    cases o' with
    | none => cases he
    | some s' => exact .some (sameDigest_of_normText hfolds (Option.some.inj he))

/-- An enumeration whose values are no digests. -/
theorem member_of_normText (hfolds : Folds rt) {value : α → String} (hvalue : Function.Injective value)
    (hlength : ∀ x, (value x).length ≠ 64) {x y : α}
    (h : Canonical.normText rt (value x) = Canonical.normText rt (value y)) : x = y :=
  hvalue (eq_of_normText hfolds h (hlength x))

theorem told_of_oneSpelling (h : OneSpelling rt (ts ++ ts')) : Told rt ts ts' := fun s hs s' hs' =>
  h s (List.mem_append_left ts' hs) s' (List.mem_append_right ts hs')

theorem Told.mono {ts ts' us us' : List String} (h : Told rt ts ts') (hu : us ⊆ ts) (hu' : us' ⊆ ts') : Told rt us us' :=
  fun s hs s' hs' => h s (hu hs) s' (hu' hs')

/-! ## Items whose dicts are flat -/

@[simp] theorem normItem_obj (fs : List (String × Json)) :
    Canonical.normItem rt (Json.obj fs) = Json.obj (fs.map fun f => (f.1, Canonical.normItem.normValue rt f.2)) := by
  induction fs with
  | nil => rfl
  | cons f fs ih => exact congrArg (Json.field f.1 (Canonical.normItem.normValue rt f.2)) ih

@[simp] theorem normValue_opt (o : Option String) :
    Canonical.normItem.normValue rt (optText o) = optText (o.map (Canonical.normText rt)) := by
  cases o with
  | none => rfl
  | some s => rfl

@[simp] theorem sorted_optText (o : Option String) : (optText o).sorted = optText o := sorted_opt_str o

@[simp] theorem optText_inj {a b : Option String} : optText a = optText b ↔ a = b := optText_injective.eq_iff

@[simp] theorem normValue_optInt (o : Option Int) : (Canonical.normItem.normValue rt (Json.opt .int o)).sorted = Json.opt .int o := by
  cases o with
  | none => rfl
  | some n => rfl

section Congr

variable {rt' : Runtime} (hcase : rt.casefold = rt'.casefold)

include hcase

theorem normText_congr : Canonical.normText rt = Canonical.normText rt' := by
  funext s
  unfold Canonical.normText
  rw [hcase]

theorem normItem_congr (j : Json) : Canonical.normItem rt j = Canonical.normItem rt' j := by
  induction j with
  | field n v rest _ ih =>
    rw [Canonical.normItem, Canonical.normItem, ih]
    cases v with
    | str s => rw [Canonical.normItem.normValue, Canonical.normItem.normValue, normText_congr hcase]
    | _ => rfl
  | _ => rfl

theorem normItems_congr (hstr : rt.str = rt'.str) (toDict : α → Json) (xs : List α) :
    Canonical.normItems rt toDict xs = Canonical.normItems rt' toDict xs := by
  simp only [Canonical.normItems, normItem_congr hcase, hstr]

end Congr

/-- The values of an item, as its canonical form shows them. -/
def shownItem (rt : Runtime) (toDict : α → Json) (x : α) : List Json :=
  (toDict x).entries.map fun f => (Canonical.normItem.normValue rt f.2).sorted

theorem paired_of_normItems {toDict : α → Json} {xs ys : List α} (h : Canonical.normItems rt toDict xs = Canonical.normItems rt toDict ys)
    (hobj : ∀ x, Json.obj (toDict x).entries = toDict x)
    (hnames : ∀ x y : α, (toDict x).entries.map (·.1) = (toDict y).entries.map (·.1))
    (hnodup : ∀ x : α, ((toDict x).entries.map (·.1)).Nodup) :
    ∃ zs, zs.Perm ys ∧ List.Forall₂ (fun x z => shownItem rt toDict x = shownItem rt toDict z) xs zs := by
  have hmaps := Json.arr_injective h
  have hperm : (xs.map fun x => (Canonical.normItem rt (toDict x)).sorted).Perm (ys.map fun y => (Canonical.normItem rt (toDict y)).sorted) :=
    ((perm_sortOn _ xs).map _).symm.trans ((List.Perm.of_eq hmaps).trans ((perm_sortOn _ ys).map _))
  refine forall₂_of_map hperm fun x _ y _ he => ?_
  rw [← hobj x, ← hobj y, normItem_obj, normItem_obj] at he
  have hvalues := Json.sorted_inj (by simpa [List.map_map, Function.comp_def] using hnames x y)
    (by simpa [List.map_map, Function.comp_def] using hnodup x) he
  simpa [shownItem, List.map_map, Function.comp_def] using hvalues

end Aegis.Agentic.Decision
