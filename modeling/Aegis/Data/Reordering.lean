/-
  Data.Reordering — what a canonical form forgets: the order of the fields of an object, and the
  order of the items of a list.

  - `same_iff_sorted`: two values have the same sorted form exactly when they differ in the order of fields only.
  - `values_inj`, `sorted_inj`: two objects with the same names that are equal once sorted have equal values.
  - `forall₂_of_map`: lists whose images are permutations of each other have their items paired off;
    where a pair is one of equals the lists are permutations themselves (`perm_of_paired`).
  - `forall₂_sortOn`: lists paired off stay so when both are sorted by a key that pairs share.
  - `AlikeBy`: lists with the same items in some order, as far as a view of them tells; what is
    read through the view is the same for both.
-/

import Aegis.Data.Dumps
import Aegis.Data.Sorted
import Mathlib.Data.List.Perm.Basic
import Mathlib.Data.List.Forall2

namespace Data

namespace Json

theorem get?_insertField (n : String) (v : Json) (j : Json) (name : String) :
    (insertField n v j).get? name = if n = name then some v else j.get? name := by
  induction j with
  | field m w rest _ ih =>
    unfold insertField
    by_cases hlt : m < n
    · rw [if_pos hlt, get?, ih, get?]
      by_cases hm : m = name
      · have hn : n ≠ name := by
          intro he
          exact absurd hlt (by simp [hm, he])
        rw [if_pos hm, if_neg hn, if_pos hm]
      · rw [if_neg hm, if_neg hm]
    · rw [if_neg hlt, get?]
  | _ => simp [insertField, get?]

theorem get?_sorted (j : Json) (name : String) : j.sorted.get? name = (j.get? name).map sorted := by
  induction j with
  | field n v rest _ ih =>
    rw [sorted, get?_insertField, get?, ih]
    by_cases h : n = name
    · rw [if_pos h, if_pos h, Option.map_some]
    · rw [if_neg h, if_neg h]
  | _ => simp [sorted, get?]

theorem get?_obj {fs : List (String × Json)} (hn : (fs.map (·.1)).Nodup) {f : String × Json} (hf : f ∈ fs) :
    (obj fs).get? f.1 = some f.2 := by
  induction fs with
  | nil => cases hf
  | cons g fs ih =>
    rw [List.map_cons, List.nodup_cons] at hn
    show (field g.1 g.2 (obj fs)).get? f.1 = some f.2
    rw [get?]
    rcases List.mem_cons.mp hf with rfl | hf
    · rw [if_pos rfl]
    · have hne : g.1 ≠ f.1 := fun he => hn.1 (he ▸ List.mem_map_of_mem hf)
      rw [if_neg hne, ih hn.2 hf]

/-- The fields of an object. -/
def entries : Json → List (String × Json)
  | .field n v rest => (n, v) :: entries rest
  | _ => []

@[simp] theorem entries_obj (fs : List (String × Json)) : entries (obj fs) = fs := by
  induction fs with
  | nil => rfl
  | cons f fs ih => exact congrArg (List.cons f) ih

/-- The values of an object can be told from any form that keeps them under their names. -/
theorem values_inj {f g : Json → Json} (hfg : ∀ j name, (f j).get? name = (j.get? name).map g) {fs gs : List (String × Json)}
    (hnames : fs.map (·.1) = gs.map (·.1)) (hn : (fs.map (·.1)).Nodup) (h : f (obj fs) = f (obj gs)) :
    fs.map (fun x => g x.2) = gs.map fun x => g x.2 := by
  have hlength : fs.length = gs.length := by
    simpa using congrArg List.length hnames
  apply List.ext_getElem
  · simpa using hlength
  · intro i hi hi'
    rw [List.length_map] at hi hi'
    have hname : fs[i].1 = gs[i].1 := by
      have hat := List.getElem_of_eq hnames (by simpa using hi)
      simpa using hat
    have hfs := get?_obj hn (List.getElem_mem hi)
    have hgs := get?_obj (hnames ▸ hn) (List.getElem_mem hi')
    have hget := congrArg (fun j => j.get? fs[i].1) h
    simp only [hfg, hfs] at hget
    rw [hname, hgs] at hget
    simpa using Option.some.inj hget

theorem sorted_inj {fs gs : List (String × Json)} (hnames : fs.map (·.1) = gs.map (·.1)) (hn : (fs.map (·.1)).Nodup)
    (h : (obj fs).sorted = (obj gs).sorted) : fs.map (·.2.sorted) = gs.map (·.2.sorted) := values_inj get?_sorted hnames hn h

/-- Fields put in their places in either order. -/
theorem insertField_comm {m n : String} (h : m < n) (v w : Json) (j : Json) :
    insertField m w (insertField n v j) = insertField n v (insertField m w j) := by
  have hn : ¬ n < m := fun h' => lt_asymm h h'
  induction j with
  | field k u rest _ ih =>
    by_cases hkm : k < m
    · have hkn : k < n := lt_trans hkm h
      rw [insertField, if_pos hkn, insertField, if_pos hkm, insertField, if_pos hkm, insertField, if_pos hkn, ih]
    · rw [show insertField m w (field k u rest) = field m w (field k u rest) by rw [insertField, if_neg hkm]]
      rw [insertField.eq_1 n v m w, if_pos h]
      by_cases hkn : k < n
      · rw [insertField, if_pos hkn, insertField, if_neg hkm]
      · rw [insertField, if_neg hkn, insertField, if_neg hn]
  | _ => simp [insertField, h, hn]

theorem sorted_insertField (n : String) (v : Json) (j : Json) :
    (insertField n v j).sorted = insertField n v.sorted j.sorted := by
  induction j with
  | field m w rest _ ih =>
    by_cases hm : m < n
    · rw [insertField, if_pos hm, sorted, ih, sorted, insertField_comm hm]
    · rw [insertField, if_neg hm, sorted]
  | _ => simp [insertField, sorted]

/-- A sorted value is read back as it is. -/
@[simp] theorem sorted_sorted (j : Json) : j.sorted.sorted = j.sorted := by
  induction j with
  | field n v rest hv hrest => rw [sorted, sorted_insertField, hv, hrest]
  | cons x xs hx hxs => rw [sorted, sorted, hx, hxs]
  | _ => rfl

/-- The same value, but for the order of the fields of its objects. -/
inductive Same : Json → Json → Prop
  | refl (j : Json) : Same j j
  | symm {a b : Json} : Same a b → Same b a
  | trans {a b c : Json} : Same a b → Same b c → Same a c
  | cons {x y xs ys : Json} : Same x y → Same xs ys → Same (cons x xs) (cons y ys)
  | field (n : String) {v w rest more : Json} : Same v w → Same rest more → Same (field n v rest) (field n w more)
  | swap {m n : String} (h : m ≠ n) (v w rest : Json) :
      Same (.field m v (.field n w rest)) (.field n w (.field m v rest))

theorem same_insertField (n : String) (v : Json) (j : Json) : Same (field n v j) (insertField n v j) := by
  induction j with
  | field m w rest _ ih =>
    unfold insertField
    split
    · rename_i hm
      exact .trans (.swap (ne_of_gt hm) v w rest) (.field m (.refl w) ih)
    · exact .refl _
  | _ => exact .refl _

theorem same_sorted (j : Json) : Same j j.sorted := by
  induction j with
  | field n v rest hv hrest => exact .trans (.field n hv hrest) (same_insertField n v.sorted rest.sorted)
  | cons x xs hx hxs => exact .cons hx hxs
  | _ => exact .refl _

theorem Same.sorted_eq {a b : Json} (h : Same a b) : a.sorted = b.sorted := by
  induction h with
  | refl j => rfl
  | symm _ ih => exact ih.symm
  | trans _ _ ih ih' => exact ih.trans ih'
  | cons _ _ ih ih' => rw [sorted, sorted, ih, ih']
  | field n _ _ ih ih' => rw [sorted, sorted, ih, ih']
  | @swap m n hne v w rest =>
    simp only [sorted]
    rcases lt_or_gt_of_ne hne with h | h
    · exact insertField_comm h _ _ _
    · exact (insertField_comm h _ _ _).symm

theorem same_iff_sorted {a b : Json} : Same a b ↔ a.sorted = b.sorted := by
  constructor
  · exact Same.sorted_eq
  · intro h
    have hb : Same a.sorted b := h ▸ .symm (same_sorted b)
    exact .trans (same_sorted a) hb

variable {j v : Json}

theorem isObj_insertField {n : String} (h : j.isObj = true) : (insertField n v j).isObj = true := by
  induction j with
  | field m w rest _ ih =>
    unfold insertField
    split
    · exact ih h
    · exact h
  | empty => rfl
  | _ => cases h

theorem proper_insertField {n : String} (hv : v.Proper) (hj : j.Proper) (h : j.isObj = true) :
    (insertField n v j).Proper := by
  induction j with
  | field m w rest _ ih =>
    obtain ⟨hw, hrest, hobj⟩ := hj
    unfold insertField
    split
    · exact ⟨hw, ih hrest hobj, isObj_insertField hobj⟩
    · exact ⟨hv, ⟨hw, hrest, hobj⟩, h⟩
  | empty => exact ⟨hv, trivial, rfl⟩
  | _ => cases h

theorem isObj_sorted (h : j.isObj = true) : j.sorted.isObj = true := by
  induction j with
  | field n v rest _ ih => exact isObj_insertField (ih h)
  | empty => rfl
  | _ => cases h

theorem isArr_sorted (h : j.isArr = true) : j.sorted.isArr = true := by
  induction j with
  | cons x xs _ ih => exact ih h
  | nil => rfl
  | _ => cases h

theorem proper_sorted (h : j.Proper) : j.sorted.Proper := by
  induction j with
  | field n v rest ihv ihrest =>
    obtain ⟨hv, hrest, hobj⟩ := h
    exact proper_insertField (ihv hv) (ihrest hrest) (isObj_sorted hobj)
  | cons x xs ihx ihxs =>
    obtain ⟨hx, hxs, harr⟩ := h
    exact ⟨ihx hx, ihxs hxs, isArr_sorted harr⟩
  | _ => exact trivial

theorem sorted_arr (xs : List Json) : (arr xs).sorted = arr (xs.map sorted) := by
  induction xs with
  | nil => rfl
  | cons x xs ih => exact congrArg (cons x.sorted) ih

@[simp] theorem sorted_arr_map {α : Type} (f : α → String) (xs : List α) :
    (arr (xs.map fun x => .str (f x))).sorted = arr (xs.map fun x => .str (f x)) := by
  rw [sorted_arr, List.map_map]
  rfl

end Json

variable {α β κ : Type} {R : α → β → Prop} {xs : List α} {ys : List β} {f : α → κ} {g : β → κ}

/-- Lists whose images are permutations of each other have their items paired off. -/
theorem forall₂_of_map (h : (xs.map f).Perm (ys.map g)) (hR : ∀ x ∈ xs, ∀ y ∈ ys, f x = g y → R x y) :
    ∃ zs, zs.Perm ys ∧ List.Forall₂ R xs zs := by
  induction xs generalizing ys with
  | nil =>
    have hnil : ys = [] := by simpa using h.symm
    subst hnil
    exact ⟨[], .nil, .nil⟩
  | cons x xs ih =>
    have hin : f x ∈ ys.map g := h.subset (by simp)
    obtain ⟨y, hy, he⟩ := List.mem_map.mp hin
    obtain ⟨before, after, rfl⟩ := List.append_of_mem hy
    have hmiddle : (before ++ y :: after).Perm (y :: (before ++ after)) := List.perm_middle
    have hrest : (xs.map f).Perm ((before ++ after).map g) := by
      have hall := h.trans (hmiddle.map g)
      rw [List.map_cons, List.map_cons, he] at hall
      exact hall.cons_inv
    obtain ⟨zs, hperm, hzs⟩ := ih hrest fun x' hx' y' hy' =>
      hR x' (List.mem_cons_of_mem _ hx') y' (hmiddle.mem_iff.mpr (List.mem_cons_of_mem _ hy'))
    exact ⟨y :: zs, (hperm.cons y).trans hmiddle.symm, .cons (hR x List.mem_cons_self y hy he.symm) hzs⟩

theorem forall₂_orderedInsert [LinearOrder κ] (hR : ∀ x y, R x y → f x = g y) {x : α} {y : β} (hxy : R x y) (h : List.Forall₂ R xs ys) :
    List.Forall₂ R (xs.orderedInsert (fun a b => f a ≤ f b) x) (ys.orderedInsert (fun a b => g a ≤ g b) y) := by
  induction h with
  | nil => exact .cons hxy .nil
  | cons hab hrest ih =>
    simp only [List.orderedInsert_cons, hR _ _ hxy, hR _ _ hab]
    split
    · exact .cons hxy (.cons hab hrest)
    · exact .cons hab ih

/-- Lists paired off stay so when both are sorted by what pairs share. -/
theorem forall₂_sortOn [LinearOrder κ] (hR : ∀ x y, R x y → f x = g y) (h : List.Forall₂ R xs ys) : List.Forall₂ R (sortOn f xs) (sortOn g ys) := by
  induction h with
  | nil => exact .nil
  | cons hab _ ih => exact forall₂_orderedInsert hR hab ih

/-- What holds of the items of each pair, given where they are. -/
theorem forall₂_mem {R S : α → β → Prop} (h : List.Forall₂ R xs ys)
    (hS : ∀ x ∈ xs, ∀ y ∈ ys, R x y → S x y) : List.Forall₂ S xs ys := by
  induction h with
  | nil => exact .nil
  | cons hxy _ ih =>
    refine .cons (hS _ List.mem_cons_self _ List.mem_cons_self hxy) (ih fun x hx y hy => ?_)
    exact hS x (List.mem_cons_of_mem _ hx) y (List.mem_cons_of_mem _ hy)

theorem find?_of_forall₂ {p : α → Bool} {q : β → Bool} (hR : ∀ x y, R x y → p x = q y)
    (h : List.Forall₂ R xs ys) : Option.Rel R (xs.find? p) (ys.find? q) := by
  induction h with
  | nil => exact .none
  | cons hxy _ ih =>
    rw [List.find?_cons, List.find?_cons, hR _ _ hxy]
    split
    · exact .some hxy
    · exact ih

/-- Items that are paired off with their equals. -/
theorem perm_of_paired {R : α → α → Prop} {xs ys : List α} (h : ∃ zs, zs.Perm ys ∧ List.Forall₂ R xs zs)
    (hR : ∀ x ∈ xs, ∀ y ∈ ys, R x y → x = y) : xs.Perm ys := by
  obtain ⟨zs, hperm, hzs⟩ := h
  have heq : xs = zs := by
    have hR' : ∀ x ∈ xs, ∀ z ∈ zs, R x z → x = z := fun x hx z hz => hR x hx z (hperm.mem_iff.mp hz)
    clear hperm hR
    induction hzs with
    | nil => rfl
    | cons hxz _ ih =>
      rw [hR' _ List.mem_cons_self _ List.mem_cons_self hxz,
        ih fun x hx z hz => hR' x (List.mem_cons_of_mem _ hx) z (List.mem_cons_of_mem _ hz)]
  exact heq ▸ hperm

/-! ## Lists that are alike -/

/-- The same items in some order, as far as `view` tells. -/
def AlikeBy (view : α → β) (xs ys : List α) : Prop := (xs.map view).Perm (ys.map view)

namespace AlikeBy

variable {view : α → β} {xs ys : List α}

theorem of_paired {R : α → α → Prop} (h : ∃ zs, zs.Perm ys ∧ List.Forall₂ R xs zs) (hR : ∀ x ∈ xs, ∀ y ∈ ys, R x y → view x = view y) :
    AlikeBy view xs ys := by
  obtain ⟨zs, hperm, hzs⟩ := h
  have hviews : List.Forall₂ (fun x z => view x = view z) xs zs := forall₂_mem hzs fun x hx z hz => hR x hx z (hperm.subset hz)
  have hmaps : xs.map view = zs.map view := by
    rw [← List.forall₂_eq_eq_eq, List.forall₂_map_left_iff, List.forall₂_map_right_iff]
    exact hviews
  unfold AlikeBy
  rw [hmaps]
  exact hperm.map view

section

variable (h : AlikeBy view xs ys)
include h

theorem symm : AlikeBy view ys xs := List.Perm.symm h

theorem length_eq : xs.length = ys.length := by
  simpa using List.Perm.length_eq h

theorem map (f : β → κ) : (xs.map fun x => f (view x)).Perm (ys.map fun y => f (view y)) := by
  have hmaps := List.Perm.map f h
  rw [List.map_map, List.map_map] at hmaps
  exact hmaps

theorem filter (p : β → Bool) : AlikeBy view (xs.filter fun x => p (view x)) (ys.filter fun y => p (view y)) := by
  have hfilter := List.Perm.filter p h
  rw [List.filter_map, List.filter_map] at hfilter
  exact hfilter

theorem exists_mem {x : α} (hx : x ∈ xs) : ∃ y ∈ ys, view x = view y := by
  obtain ⟨y, hy, he⟩ := List.mem_map.mp (h.subset (List.mem_map_of_mem hx))
  exact ⟨y, hy, he.symm⟩

theorem exists_iff {P Q : α → Prop} (hP : ∀ x y, view x = view y → (P x ↔ Q y)) : (∃ y ∈ ys, Q y) ↔ ∃ x ∈ xs, P x := by
  constructor
  · intro hys
    obtain ⟨y, hy, hQ⟩ := hys
    obtain ⟨x, hx, he⟩ := h.symm.exists_mem hy
    exact ⟨x, hx, (hP x y he.symm).mpr hQ⟩
  · intro hxs
    obtain ⟨x, hx, hPx⟩ := hxs
    obtain ⟨y, hy, he⟩ := h.exists_mem hx
    exact ⟨y, hy, (hP x y he).mp hPx⟩

/-- Sorted by a key of their own, alike lists have their items paired off. -/
theorem forall₂_sortOn [LinearOrder κ] (key : β → κ) (hn : (ys.map fun y => key (view y)).Nodup) :
    List.Forall₂ (fun x y => view x = view y) (sortOn (fun x => key (view x)) xs) (sortOn (fun y => key (view y)) ys) := by
  obtain ⟨zs, hperm, hzs⟩ := forall₂_of_map (R := fun x y => view x = view y) h fun _ _ _ _ he => he
  have hsorted : sortOn (fun y => key (view y)) zs = sortOn (fun y => key (view y)) ys :=
    sortOn_perm hperm fun a ha b hb he => List.inj_on_of_nodup_map hn (hperm.subset ha) (hperm.subset hb) he
  rw [← hsorted]
  exact Data.forall₂_sortOn (fun x y he => congrArg key he) hzs

theorem find? [DecidableEq κ] (key : β → κ) (hn : (xs.map fun x => key (view x)).Nodup) (k : κ) :
    (xs.find? fun x => key (view x) = k).map view = (ys.find? fun y => key (view y) = k).map view := by
  have hnodup : ((xs.map view).map key).Nodup := by
    rw [List.map_map]
    exact hn
  have hfind := find?_perm h hnodup k
  rw [List.find?_map, List.find?_map] at hfind
  exact hfind

end

end AlikeBy

end Data
