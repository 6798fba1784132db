/-
  Data.DepthFirst — depth-first search that stops at a cycle.

  A node that is met while it is being visited closes a cycle. With one turn more than there are
  nodes the search finds a cycle exactly when there is one (`search_ok`), so its answer does not
  depend on the order of the nodes or of their successors. Where the visits may nest up to a limit
  only, what a search accepts has no cycle whatever the limit is (`searchWithin_acyclic`), and a
  limit above the number of nodes is never met (`searchWithin_ok`, `searchWithin_deep`).
-/

import Mathlib.Data.List.Perm.Subperm
import Mathlib.Logic.Relation
import Aegis.Data.Checks

namespace Data.DepthFirst

open Checks

variable {α : Type} [DecidableEq α]

/-- A visit of `x`, below the nodes in `visiting`: the nodes visited after it, or a node that is met again. -/
def visit (succ : α → List α) : Nat → List α → List α → α → Except α (List α)
  | 0, _, _, x => .error x
  | n + 1, visiting, visited, x =>
    if x ∈ visiting then .error x
    else if x ∈ visited then .ok visited
    else do
      let visited ← (succ x).foldlM (visit succ n (x :: visiting)) visited
      return x :: visited

def search (succ : α → List α) (nodes : List α) : Except α (List α) := nodes.foldlM (visit succ (nodes.length + 1) []) []

/-- `y` is a successor of `x`. -/
def Edge (succ : α → List α) (x y : α) : Prop := y ∈ succ x

def Acyclic (succ : α → List α) (nodes : List α) : Prop := ∀ x ∈ nodes, ¬ Relation.TransGen (Edge succ) x x

/-- Visited nodes, the latest first: the successors of each were visited before it. -/
def Ordered (succ : α → List α) : List α → Prop
  | [] => True
  | x :: visited => x ∉ visited ∧ (∀ y ∈ succ x, y ∈ visited) ∧ Ordered succ visited

variable {succ : α → List α}

/-! ## What is visited has no cycle -/

section
omit [DecidableEq α]

theorem Ordered.closed {visited : List α} (h : Ordered succ visited) {x y : α} (hx : x ∈ visited)
    (hxy : Relation.ReflTransGen (Edge succ) x y) : y ∈ visited := by
  have hstep : ∀ {visited : List α}, Ordered succ visited → ∀ x ∈ visited, ∀ y ∈ succ x, y ∈ visited := by
    intro visited h
    induction visited with
    | nil => simp
    | cons a visited ih =>
      intro x hx y hy
      rcases List.mem_cons.mp hx with rfl | hx
      · exact List.mem_cons_of_mem _ (h.2.1 y hy)
      · exact List.mem_cons_of_mem _ (ih h.2.2 x hx y hy)
  induction hxy with
  | refl => exact hx
  | tail _ hyz ih => exact hstep h _ ih _ hyz

theorem Ordered.acyclic {visited : List α} (h : Ordered succ visited) : Acyclic succ visited := by
  induction visited with
  | nil => simp [Acyclic]
  | cons a visited ih =>
    intro x hx hcycle
    rcases List.mem_cons.mp hx with rfl | hx
    · obtain ⟨y, hxy, hyx⟩ := (Relation.TransGen.head'_iff).mp hcycle
      exact h.1 (h.2.2.closed (h.2.1 y hxy) hyx)
    · exact ih h.2.2 x hx hcycle

end

/-- What a visit leaves: `visited` was only added to, by nodes that are not being visited. -/
structure Visited (succ : α → List α) (visiting visited visited' : List α) (starts : List α) : Prop where
  ordered : Ordered succ visited'
  kept : ∀ y ∈ visited, y ∈ visited'
  starts : ∀ x ∈ starts, x ∈ visited'
  fresh : ∀ v ∈ visiting, v ∉ visited → v ∉ visited'

theorem Visited.foldlM {n : Nat} {visiting : List α}
    (hvisit : ∀ {visited visited' : List α} {x : α}, Ordered succ visited → visit succ n visiting visited x = .ok visited' →
      Visited succ visiting visited visited' [x]) {xs visited visited' : List α} (h : Ordered succ visited)
    (hxs : xs.foldlM (visit succ n visiting) visited = .ok visited') : Visited succ visiting visited visited' xs := by
  induction xs generalizing visited with
  | nil =>
    obtain rfl : visited = visited' := Except.ok.inj hxs
    exact ⟨h, fun y hy => hy, by simp, fun v _ hv => hv⟩
  | cons x xs ih =>
    rw [List.foldlM_cons] at hxs
    obtain ⟨visited1, hx, hxs⟩ := ok_bind.mp hxs
    have h1 := hvisit h hx
    have h2 := ih h1.ordered hxs
    refine ⟨h2.ordered, fun y hy => h2.kept y (h1.kept y hy), fun y hy => ?_, fun v hv hn => h2.fresh v hv (h1.fresh v hv hn)⟩
    rcases List.mem_cons.mp hy with rfl | hy
    · exact h2.kept y (h1.starts y List.mem_cons_self)
    · exact h2.starts y hy

theorem visit_visited {n : Nat} {visiting visited visited' : List α} {x : α} (h : Ordered succ visited)
    (hx : visit succ n visiting visited x = .ok visited') : Visited succ visiting visited visited' [x] := by
  induction n generalizing visiting visited visited' x with
  | zero => simp [visit] at hx
  | succ n ih =>
    unfold visit at hx
    by_cases hvisiting : x ∈ visiting
    · simp [hvisiting] at hx
    rw [if_neg hvisiting] at hx
    by_cases hvisited : x ∈ visited
    · rw [if_pos hvisited] at hx
      obtain rfl : visited = visited' := Except.ok.inj hx
      exact ⟨h, fun y hy => hy, by simpa using hvisited, fun v _ hv => hv⟩
    · rw [if_neg hvisited] at hx
      obtain ⟨below, hbelow, hx⟩ := ok_bind.mp hx
      obtain rfl : x :: below = visited' := Except.ok.inj hx
      have hall := Visited.foldlM ih h hbelow
      -- `x` was being visited all the while, so it is not among what was visited below it
      have hfresh : x ∉ below := hall.fresh x List.mem_cons_self hvisited
      refine ⟨⟨hfresh, hall.starts, hall.ordered⟩, fun y hy => List.mem_cons_of_mem _ (hall.kept y hy), by simp, ?_⟩
      intro v hv hn hmem
      rcases List.mem_cons.mp hmem with rfl | hmem
      · exact hvisiting hv
      · exact hall.fresh v (List.mem_cons_of_mem _ hv) hn hmem

/-! ## A search that stops has met a cycle -/

/-- The nodes being visited when `x` is: each leads to `x`, and the turns suffice for the nodes that are left. -/
structure Path (succ : α → List α) (nodes : List α) (n : Nat) (visiting : List α) (x : α) : Prop where
  mem : x ∈ nodes
  leads : ∀ v ∈ visiting, v ∈ nodes ∧ Relation.TransGen (Edge succ) v x
  nodup : visiting.Nodup
  turns : nodes.length < n + visiting.length

omit [DecidableEq α] in
theorem foldlM_returns {ε β : Type} {f : β → α → Except ε β} {xs : List α} (hf : ∀ x ∈ xs, ∀ b, ∃ b', f b x = .ok b') (b : β) :
    ∃ b', xs.foldlM f b = .ok b' := by
  induction xs generalizing b with
  | nil => exact ⟨b, rfl⟩
  | cons x xs ih =>
    obtain ⟨c, hc⟩ := hf x List.mem_cons_self b
    obtain ⟨b', hb'⟩ := ih (fun y hy => hf y (List.mem_cons_of_mem _ hy)) c
    exact ⟨b', by rw [List.foldlM_cons]; exact ok_bind.mpr ⟨c, hc, hb'⟩⟩

variable {nodes : List α}

theorem visit_returns (hacyclic : Acyclic succ nodes) (hclosed : ∀ x ∈ nodes, ∀ y ∈ succ x, y ∈ nodes) {n : Nat}
    {visiting : List α} {x : α} (h : Path succ nodes n visiting x) (visited : List α) :
    ∃ visited', visit succ n visiting visited x = .ok visited' := by
  induction n generalizing visiting x visited with
  | zero =>
    have hlength : visiting.length ≤ nodes.length := (h.nodup.subperm fun v hv => (h.leads v hv).1).length_le
    exact absurd h.turns (by omega)
  | succ n ih =>
    have hvisiting : x ∉ visiting := fun hx => hacyclic x h.mem (h.leads x hx).2
    unfold visit
    rw [if_neg hvisiting]
    by_cases hvisited : x ∈ visited
    · exact ⟨visited, by rw [if_pos hvisited]⟩
    · rw [if_neg hvisited]
      have hbelow : ∀ y ∈ succ x, ∀ visited, ∃ visited', visit succ n (x :: visiting) visited y = .ok visited' := by
        intro y hy
        refine ih ⟨hclosed x h.mem y hy, ?_, List.nodup_cons.mpr ⟨hvisiting, h.nodup⟩, ?_⟩
        · intro v hv
          rcases List.mem_cons.mp hv with rfl | hv
          · exact ⟨h.mem, .single hy⟩
          · exact ⟨(h.leads v hv).1, (h.leads v hv).2.tail hy⟩
        · have := h.turns
          rw [List.length_cons]
          omega
      obtain ⟨below, hbelow⟩ := foldlM_returns hbelow visited
      exact ⟨x :: below, ok_bind.mpr ⟨below, hbelow, rfl⟩⟩

/-! ## The search -/

theorem search_ok (hclosed : ∀ x ∈ nodes, ∀ y ∈ succ x, y ∈ nodes) :
    (∃ visited, search succ nodes = .ok visited) ↔ Acyclic succ nodes := by
  constructor
  · rintro ⟨visited, h⟩
    have hall : Visited succ [] [] visited nodes := Visited.foldlM visit_visited trivial h
    exact fun x hx => hall.ordered.acyclic x (hall.starts x hx)
  · intro hacyclic
    exact foldlM_returns (fun x hx visited => visit_returns hacyclic hclosed ⟨hx, by simp, List.nodup_nil, by simp⟩ visited) []

/-! ## Visits that nest up to a limit -/

/-- `visit`, with so many visits at most one inside the other; one more raises `none`. -/
def visitWithin (succ : α → List α) : Nat → List α → List α → α → Except (Option α) (List α)
  | 0, _, _, _ => .error none
  | n + 1, visiting, visited, x =>
    if x ∈ visiting then .error (some x)
    else if x ∈ visited then .ok visited
    else do
      let visited ← (succ x).foldlM (visitWithin succ n (x :: visiting)) visited
      return x :: visited

def searchWithin (succ : α → List α) (limit : Nat) (nodes : List α) : Except (Option α) (List α) :=
  nodes.foldlM (visitWithin succ limit []) []

omit [DecidableEq α] in
theorem foldlM_ok_congr {ε ε' β : Type} {f : β → α → Except ε β} {g : β → α → Except ε' β}
    (h : ∀ b x b', f b x = .ok b' ↔ g b x = .ok b') (xs : List α) (b b' : β) :
    xs.foldlM f b = .ok b' ↔ xs.foldlM g b = .ok b' := by
  induction xs generalizing b with
  | nil => exact ⟨fun hb => congrArg _ (Except.ok.inj hb), fun hb => congrArg _ (Except.ok.inj hb)⟩
  | cons x xs ih => simp only [List.foldlM_cons, ok_bind, h, ih]

theorem visitWithin_ok {n : Nat} {visiting visited visited' : List α} {x : α} :
    visitWithin succ n visiting visited x = .ok visited' ↔ visit succ n visiting visited x = .ok visited' := by
  induction n generalizing visiting visited visited' x with
  | zero => simp [visitWithin, visit]
  | succ n ih =>
    unfold visitWithin visit
    by_cases hvisiting : x ∈ visiting
    · simp [hvisiting]
    by_cases hvisited : x ∈ visited
    · simp [hvisiting, hvisited]
    · rw [if_neg hvisiting, if_neg hvisited, if_neg hvisiting, if_neg hvisited, ok_bind, ok_bind]
      refine exists_congr fun below => and_congr (foldlM_ok_congr (fun _ _ _ => ih) _ _ _) ?_
      exact ⟨fun h => congrArg _ (Except.ok.inj h), fun h => congrArg _ (Except.ok.inj h)⟩

theorem searchWithin_acyclic {limit : Nat} {nodes visited : List α} (h : searchWithin succ limit nodes = .ok visited) :
    Acyclic succ nodes := by
  have hsearch : nodes.foldlM (visit succ limit []) [] = .ok visited :=
    (foldlM_ok_congr (fun _ _ _ => visitWithin_ok) nodes [] visited).mp h
  have hall : Visited succ [] [] visited nodes := Visited.foldlM visit_visited trivial hsearch
  exact fun x hx => hall.ordered.acyclic x (hall.starts x hx)

theorem searchWithin_ok {limit : Nat} (hclosed : ∀ x ∈ nodes, ∀ y ∈ succ x, y ∈ nodes)
    (hlimit : nodes.length < limit) : (∃ visited, searchWithin succ limit nodes = .ok visited) ↔ Acyclic succ nodes := by
  constructor
  · rintro ⟨visited, h⟩
    exact searchWithin_acyclic h
  · intro hacyclic
    refine foldlM_returns (fun x hx visited => ?_) []
    obtain ⟨visited', h⟩ := visit_returns hacyclic hclosed (n := limit) ⟨hx, by simp, List.nodup_nil, by simpa using hlimit⟩ visited
    exact ⟨visited', visitWithin_ok.mpr h⟩

omit [DecidableEq α] in
theorem foldlM_ne_none {β : Type} {f : β → α → Except (Option α) β} {xs : List α} (h : ∀ x ∈ xs, ∀ b, f b x ≠ .error none) (b : β) :
    xs.foldlM f b ≠ .error none := by
  induction xs generalizing b with
  | nil =>
    intro hc
    cases hc
  | cons x xs ih =>
    rw [List.foldlM_cons]
    cases hx : f b x with
    | error e =>
      intro hc
      obtain rfl := Except.error.inj hc
      exact h x List.mem_cons_self b hx
    | ok b' => exact ih (fun y hy => h y (List.mem_cons_of_mem _ hy)) b'

/-- Nested visits are of different nodes, so they are no more than there are nodes. -/
theorem visitWithin_ne_none (hclosed : ∀ x ∈ nodes, ∀ y ∈ succ x, y ∈ nodes) {n : Nat} {visiting : List α} {x : α}
    (hx : x ∈ nodes) (hvisiting : ∀ v ∈ visiting, v ∈ nodes) (hn : visiting.Nodup) (hturns : nodes.length < n + visiting.length)
    (visited : List α) : visitWithin succ n visiting visited x ≠ .error none := by
  induction n generalizing visiting x visited with
  | zero =>
    have hlength : visiting.length ≤ nodes.length := (hn.subperm hvisiting).length_le
    omega
  | succ n ih =>
    unfold visitWithin
    by_cases hmem : x ∈ visiting
    · simp [hmem]
    by_cases hvisited : x ∈ visited
    · simp [hmem, hvisited]
    rw [if_neg hmem, if_neg hvisited]
    have hbelow : (succ x).foldlM (visitWithin succ n (x :: visiting)) visited ≠ .error none := by
      refine foldlM_ne_none (fun y hy visited => ?_) visited
      refine ih (hclosed x hx y hy) (List.forall_mem_cons.mpr ⟨hx, hvisiting⟩) (List.nodup_cons.mpr ⟨hmem, hn⟩) ?_ visited
      rw [List.length_cons]
      omega
    cases hfold : (succ x).foldlM (visitWithin succ n (x :: visiting)) visited with
    | error e =>
      intro hc
      obtain rfl := Except.error.inj hc
      exact hbelow hfold
    | ok below =>
      intro hc
      cases hc

theorem searchWithin_deep {limit : Nat} (hclosed : ∀ x ∈ nodes, ∀ y ∈ succ x, y ∈ nodes)
    (hlimit : nodes.length < limit) : searchWithin succ limit nodes ≠ .error none :=
  foldlM_ne_none (fun x hx visited => visitWithin_ne_none hclosed hx (by simp) List.nodup_nil (by simpa using hlimit) visited) []

example : search (fun n => if n = 0 then [1, 2] else if n = 1 then [2] else []) [0, 1, 2] = .ok [0, 1, 2] := by decide

example : search (fun n => if n = 0 then [1] else [0]) [0, 1] = .error 0 := by decide

end Data.DepthFirst
