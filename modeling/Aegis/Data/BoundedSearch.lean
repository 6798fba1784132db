/-
  Data.BoundedSearch — the enumeration of the simple paths of a graph, with a bound on their
  length and one on the number of results.

  `walk` is the search: it appends what it finds at every node, backtracks, notes that it was cut
  off at the bound and raises when there are too many results. `trails` are the paths it goes along.
  - `mem_trails`, `nodup_trails`: these are the open paths (`Open`) within the bound, each once.
  - `cut_iff`: the walk is cut off exactly when there is an open path that is one edge longer.
  - `walk_eq`: the results are those of all trails, or there are too many of them.
  - `walk_ok`: a walk that returns has visited every trail and found what is there.
  - `exists_simple`: where a path leads, a path that repeats no node leads too.
  - `open_clear_iff`: which targets a walk comes to that stops at the first it meets.
-/

import Mathlib.Data.List.Nodup
import Mathlib.Data.List.Flatten
import Aegis.Data.Checks

namespace Data.BoundedSearch

open Checks

variable {ν ε φ ω : Type} [DecidableEq ν]

/-- A graph, and whether a walk stops at a node it reaches along a path. -/
structure Graph (ν ε : Type) where
  outgoing : ν → List ε
  target : ε → ν
  halts : ν → List ε → Bool

/-- What a search does: what it appends at a node it reaches along a path, and how much. -/
structure Search (ν ε φ ω : Type) extends Graph ν ε where
  emits : ν → List ε → Except ω (List φ)
  maxResults : Int
  tooMany : ω

variable (g : Graph ν ε) (s : Search ν ε φ ω)

/-- `results.append(x)`, and the check after it. -/
def append (results : List φ) (x : φ) : Except ω (List φ) :=
  if s.maxResults < (results ++ [x]).length then .error s.tooMany else .ok (results ++ [x])

/-- The edges out of `current` to nodes that were not visited. -/
def fresh (current : ν) (visited : List ν) : List ε := (g.outgoing current).filter fun e => g.target e ∉ visited

/-- The search below `current`, with `left` edges to go; whether it was cut off is the second part of the state. -/
def walk (left : Nat) (current : ν) (path : List ε) (visited : List ν) (state : List φ × Bool) : Except ω (List φ × Bool) := do
  let found ← s.emits current path
  let results ← found.foldlM (append s) state.1
  if s.halts current path then return (results, state.2)
  match left with
  | 0 => return (results, state.2 || !(fresh s.toGraph current visited).isEmpty)
  | left + 1 =>
    (fresh s.toGraph current visited).foldlM (fun st e => walk left (s.target e) (path ++ [e]) (s.target e :: visited) st)
      (results, state.2)

/-! ## The paths of a walk -/

/-- The paths a walk goes along, in its order. -/
def trails (left : Nat) (current : ν) (path : List ε) (visited : List ν) : List (List ε) :=
  [] :: if g.halts current path then [] else
    match left with
    | 0 => []
    | left + 1 => (fresh g current visited).flatMap fun e =>
        (trails left (g.target e) (path ++ [e]) (g.target e :: visited)).map (e :: ·)

def cut (left : Nat) (current : ν) (path : List ε) (visited : List ν) : Bool :=
  if g.halts current path then false else
    match left with
    | 0 => !(fresh g current visited).isEmpty
    | left + 1 => (fresh g current visited).any fun e => cut left (g.target e) (path ++ [e]) (g.target e :: visited)

/-- `tail` continues `path` along nodes that were not visited, and the walk goes on at each node before its last. -/
def Open (current : ν) (path : List ε) (visited : List ν) : List ε → Prop
  | [] => True
  | e :: tail => g.halts current path = false ∧ e ∈ fresh g current visited ∧
      Open (g.target e) (path ++ [e]) (g.target e :: visited) tail

/-- The node a path leads to. -/
def arrival (current : ν) (tail : List ε) : ν := tail.foldl (fun _ e => g.target e) current

omit [DecidableEq ν] in
@[simp] theorem arrival_nil (current : ν) : arrival g current [] = current := rfl

omit [DecidableEq ν] in
@[simp] theorem arrival_cons (current : ν) (e : ε) (tail : List ε) : arrival g current (e :: tail) = arrival g (g.target e) tail := rfl

/-- `tail` is a path of the graph from `current`. -/
def Trail (current : ν) : List ε → Prop
  | [] => True
  | e :: tail => e ∈ g.outgoing current ∧ Trail (g.target e) tail

variable {g} {s} {left : Nat} {current : ν} {path : List ε} {visited : List ν}

section
omit [DecidableEq ν]

theorem arrival_append (pre post : List ε) : arrival g current (pre ++ post) = arrival g (arrival g current pre) post :=
  List.foldl_append

theorem arrival_mem (tail : List ε) : arrival g current tail ∈ current :: tail.map g.target := by
  induction tail generalizing current with
  | nil => exact List.mem_cons_self
  | cons e tail ih =>
    rw [arrival_cons, List.map_cons]
    exact List.mem_cons_of_mem _ ih

/-- A path without repeated nodes does not arrive before its end. -/
theorem arrival_ne {pre post : List ε} {e : ε} (h : (current :: (pre ++ e :: post).map g.target).Nodup) :
    arrival g current pre ≠ arrival g current (pre ++ e :: post) := by
  intro heq
  rw [arrival_append, arrival_cons] at heq
  rw [List.map_append, ← List.cons_append] at h
  have hpost : arrival g (g.target e) post ∈ (e :: post).map g.target := arrival_mem post
  exact (List.nodup_append.mp h).2.2 _ (arrival_mem pre) _ hpost heq

end

theorem mem_fresh {e : ε} : e ∈ fresh g current visited ↔ e ∈ g.outgoing current ∧ g.target e ∉ visited := by
  simp [fresh]

theorem nil_mem_trails : [] ∈ trails g left current path visited := by
  unfold trails
  exact List.mem_cons_self

variable {tail : List ε}

theorem cons_mem_trails {e : ε} : e :: tail ∈ trails g (left + 1) current path visited ↔
    g.halts current path = false ∧ e ∈ fresh g current visited ∧
      tail ∈ trails g left (g.target e) (path ++ [e]) (g.target e :: visited) := by
  rw [trails, List.mem_cons]
  by_cases hhalt : g.halts current path = true
  · simp [hhalt]
  · rw [if_neg hhalt, List.mem_flatMap]
    rw [Bool.not_eq_true] at hhalt
    constructor
    · rintro (h | ⟨d, hd, h⟩)
      · cases h
      · obtain ⟨rest, hrest, h⟩ := List.mem_map.mp h
        obtain ⟨rfl, rfl⟩ := List.cons.inj h
        exact ⟨hhalt, hd, hrest⟩
    · rintro ⟨-, he, htail⟩
      exact .inr ⟨e, he, List.mem_map.mpr ⟨tail, htail, rfl⟩⟩

theorem mem_trails : tail ∈ trails g left current path visited ↔ Open g current path visited tail ∧ tail.length ≤ left := by
  induction left generalizing current path visited tail with
  | zero =>
    cases tail with
    | nil => simp [nil_mem_trails, Open]
    | cons e tail =>
      rw [trails]
      simp
  | succ left ih =>
    cases tail with
    | nil => simp [nil_mem_trails, Open]
    | cons e tail =>
      rw [cons_mem_trails, ih, Open, List.length_cons, Nat.add_le_add_iff_right]
      simp only [and_assoc]

theorem nodup_trails (hout : ∀ v, (g.outgoing v).Nodup) : (trails g left current path visited).Nodup := by
  induction left generalizing current path visited with
  | zero =>
    rw [trails]
    split_ifs <;> simp
  | succ left ih =>
    rw [trails]
    split_ifs with hhalt
    · simp
    · rw [List.nodup_cons]
      constructor
      · simp
      · rw [List.nodup_flatMap]
        constructor
        · exact fun e _ => (ih).map fun _ _ h => (List.cons.inj h).2
        · refine ((hout current).filter _).imp fun {e d} hne => ?_
          -- trails along different edges differ in their first edge
          intro tail he hd
          obtain ⟨_, -, rfl⟩ := List.mem_map.mp he
          obtain ⟨_, -, h⟩ := List.mem_map.mp hd
          exact hne (List.cons.inj h).1.symm

theorem cut_iff : cut g left current path visited = true ↔ ∃ tail, Open g current path visited tail ∧ tail.length = left + 1 := by
  induction left generalizing current path visited with
  | zero =>
    rw [cut]
    by_cases hhalt : g.halts current path = true
    · rw [if_pos hhalt]
      refine ⟨nofun, fun ⟨tail, hopen, hlength⟩ => ?_⟩
      cases tail with
      | nil => cases hlength
      | cons e tail => exact absurd hhalt (by simp [hopen.1])
    · rw [if_neg hhalt]
      rw [Bool.not_eq_true] at hhalt
      constructor
      · intro h
        have hne : fresh g current visited ≠ [] := by
          intro hnil
          simp [hnil] at h
        obtain ⟨e, he⟩ := List.exists_mem_of_ne_nil _ hne
        exact ⟨[e], ⟨hhalt, he, trivial⟩, rfl⟩
      · rintro ⟨tail, hopen, hlength⟩
        cases tail with
        | nil => cases hlength
        | cons e tail =>
          have hne := List.ne_nil_of_mem hopen.2.1
          simpa using hne
  | succ left ih =>
    rw [cut]
    by_cases hhalt : g.halts current path = true
    · rw [if_pos hhalt]
      refine ⟨nofun, fun ⟨tail, hopen, hlength⟩ => ?_⟩
      cases tail with
      | nil => cases hlength
      | cons e tail => exact absurd hhalt (by simp [hopen.1])
    · rw [if_neg hhalt, List.any_eq_true]
      rw [Bool.not_eq_true] at hhalt
      constructor
      · rintro ⟨e, he, h⟩
        obtain ⟨tail, hopen, hlength⟩ := ih.mp h
        exact ⟨e :: tail, ⟨hhalt, he, hopen⟩, by rw [List.length_cons, hlength]⟩
      · rintro ⟨tail, hopen, hlength⟩
        cases tail with
        | nil => cases hlength
        | cons e tail =>
          exact ⟨e, hopen.2.1, ih.mpr ⟨tail, hopen.2.2, by simpa using hlength⟩⟩

theorem open_prefix {pre post : List ε} (h : Open g current path visited (pre ++ post)) : Open g current path visited pre := by
  induction pre generalizing current path visited with
  | nil => trivial
  | cons e pre ih => exact ⟨h.1, h.2.1, ih h.2.2⟩

/-- Unless the walk is cut off, every open path is within the bound. -/
theorem length_le_of_not_cut (hcut : cut g left current path visited = false) (h : Open g current path visited tail) :
    tail.length ≤ left := by
  by_contra hlong
  rw [← List.take_append_drop (left + 1) tail] at h
  have hlength : (tail.take (left + 1)).length = left + 1 := by
    rw [List.length_take]
    omega
  rw [cut_iff.mpr ⟨tail.take (left + 1), open_prefix h, hlength⟩] at hcut
  cases hcut

theorem mem_trails_of_not_cut (hcut : cut g left current path visited = false) :
    tail ∈ trails g left current path visited ↔ Open g current path visited tail :=
  ⟨fun h => (mem_trails.mp h).1, fun h => mem_trails.mpr ⟨h, length_le_of_not_cut hcut h⟩⟩

/-- The open paths are the paths of the graph through new nodes, no two of them the same, that the walk does not stop on. -/
theorem open_iff : Open g current path visited tail ↔
    Trail g current tail ∧ (tail.map g.target).Nodup ∧ (∀ e ∈ tail, g.target e ∉ visited) ∧
      ∀ pre e post, tail = pre ++ e :: post → g.halts (arrival g current pre) (path ++ pre) = false := by
  induction tail generalizing current path visited with
  | nil => simp [Open, Trail]
  | cons d tail ih =>
    rw [Open, ih, mem_fresh, Trail, List.map_cons, List.nodup_cons, List.forall_mem_cons]
    constructor
    · rintro ⟨hhalt, ⟨hout, hnew⟩, htrail, hnodup, havoid, hgo⟩
      have hfresh : g.target d ∉ tail.map g.target := by
        intro hmem
        obtain ⟨e, he, heq⟩ := List.mem_map.mp hmem
        exact havoid e he (heq ▸ List.mem_cons_self)
      refine ⟨⟨hout, htrail⟩, ⟨hfresh, hnodup⟩, ⟨hnew, fun e he => fun hv => havoid e he (List.mem_cons_of_mem _ hv)⟩, ?_⟩
      intro pre e post heq
      cases pre with
      | nil => simpa using hhalt
      | cons d' pre =>
        obtain ⟨rfl, hrest⟩ := List.cons.inj heq
        simpa using hgo pre e post hrest
    · rintro ⟨⟨hout, htrail⟩, ⟨hfresh, hnodup⟩, ⟨hnew, havoid⟩, hgo⟩
      refine ⟨by simpa using hgo [] d tail rfl, ⟨hout, hnew⟩, htrail, hnodup, ?_, ?_⟩
      · intro e he hv
        rcases List.mem_cons.mp hv with heq | hv
        · exact hfresh (heq ▸ List.mem_map_of_mem he)
        · exact havoid e he hv
      · intro pre e post heq
        simpa using hgo (d :: pre) e post (by rw [heq, List.cons_append])

/-! ## Paths that repeat no node -/

section
omit [DecidableEq ν]

theorem trail_append {pre post : List ε} : Trail g current (pre ++ post) ↔ Trail g current pre ∧ Trail g (arrival g current pre) post := by
  induction pre generalizing current with
  | nil => simp [Trail]
  | cons e pre ih => rw [List.cons_append, Trail, Trail, ih, arrival_cons, and_assoc]

/-- A path meets each of its nodes at the end of a part of it. -/
theorem exists_prefix {tail : List ε} {v : ν} (h : v ∈ current :: tail.map g.target) :
    ∃ pre post, tail = pre ++ post ∧ arrival g current pre = v := by
  induction tail generalizing current with
  | nil => exact ⟨[], [], rfl, (List.mem_singleton.mp h).symm⟩
  | cons e tail ih =>
    rcases List.mem_cons.mp h with rfl | h
    · exact ⟨[], e :: tail, rfl, rfl⟩
    · obtain ⟨pre, post, rfl, harrive⟩ := ih h
      exact ⟨e :: pre, post, rfl, harrive⟩

/-- What is left of a simple path after a part of it is simple. -/
theorem nodup_suffix {pre post : List ε} (h : (current :: (pre ++ post).map g.target).Nodup) :
    (arrival g current pre :: post.map g.target).Nodup := by
  induction pre generalizing current with
  | nil => exact h
  | cons e pre ih => exact ih (List.nodup_cons.mp h).2

end

/-- A path can be shortened to one that repeats no node: it is cut at the last visit of its start. -/
theorem exists_simple (h : Trail g current tail) : ∃ simple, Trail g current simple ∧
    arrival g current simple = arrival g current tail ∧ (current :: simple.map g.target).Nodup ∧
      ∀ v ∈ simple.map g.target, v ∈ tail.map g.target := by
  induction tail generalizing current with
  | nil => exact ⟨[], trivial, rfl, List.nodup_singleton current, fun _ hv => hv⟩
  | cons e tail ih =>
    obtain ⟨hout, htail⟩ := h
    obtain ⟨simple, hsimple, harrive, hnodup, hsubset⟩ := ih htail
    rw [arrival_cons, List.map_cons]
    by_cases hmem : current ∈ g.target e :: simple.map g.target
    · obtain ⟨pre, post, rfl, hback⟩ := exists_prefix hmem
      refine ⟨post, hback ▸ (trail_append.mp hsimple).2, ?_, hback ▸ nodup_suffix hnodup, fun v hv => ?_⟩
      · rw [← harrive, arrival_append, hback]
      · rw [List.map_append] at hsubset
        exact List.mem_cons_of_mem _ (hsubset v (List.mem_append_right _ hv))
    · refine ⟨e :: simple, ⟨hout, hsimple⟩, harrive, List.nodup_cons.mpr ⟨hmem, hnodup⟩, fun v hv => ?_⟩
      rcases List.mem_cons.mp hv with rfl | hv
      · exact List.mem_cons_self
      · exact List.mem_cons_of_mem _ (hsubset v hv)

/-! ## Walks that stop at targets -/

/-- `tail` passes no target before its end. -/
def Clear (g : Graph ν ε) (targets : List ν) (tail : List ε) : Prop := ∀ v ∈ (tail.map g.target).dropLast, v ∉ targets

omit [DecidableEq ν] in
theorem clear_append {targets : List ν} {e : ε} : Clear g targets (tail ++ [e]) ↔ ∀ d ∈ tail, g.target d ∉ targets := by
  simp [Clear]

omit [DecidableEq ν] in
theorem arrival_concat {e : ε} : arrival g current (tail ++ [e]) = g.target e := by
  rw [arrival_append, arrival_cons, arrival_nil]

/-- A walk that stops at targets comes to those that a path leads to without passing another, unless it starts there. -/
theorem open_clear_iff {targets : List ν} (hhalts : ∀ v path, g.halts v path = true ↔ v ∈ targets ∧ path ≠ []) {t : ν} :
    (∃ tail, Open g current [] [current] tail ∧ tail ≠ [] ∧ arrival g current tail = t) ↔
      t ≠ current ∧ ∃ tail, Trail g current tail ∧ arrival g current tail = t ∧ Clear g targets tail := by
  have hgo : ∀ v path, g.halts v path = false ↔ ¬ (v ∈ targets ∧ path ≠ []) := by
    intro v path
    rw [← hhalts, Bool.not_eq_true]
  constructor
  · rintro ⟨tail, hopen, hne, rfl⟩
    obtain ⟨htrail, hnodup, havoid, hclear⟩ := open_iff.mp hopen
    obtain ⟨init, e, rfl⟩ := (List.eq_nil_or_concat tail).resolve_left hne
    rw [List.concat_eq_append] at *
    refine ⟨?_, init ++ [e], htrail, rfl, clear_append.mpr fun d hd htarget => ?_⟩
    · rw [arrival_concat]
      exact fun heq => havoid e (List.mem_append_right _ List.mem_cons_self) (List.mem_singleton.mpr heq)
    · -- the walk would have stopped after `d`
      obtain ⟨pre, post, rfl⟩ := List.append_of_mem hd
      obtain ⟨d', rest, hrest⟩ : ∃ d' rest, post ++ [e] = d' :: rest := List.exists_cons_of_ne_nil (by simp)
      have hstop := hclear (pre ++ [d]) d' rest (by rw [← hrest]; simp)
      rw [hgo, arrival_concat] at hstop
      exact hstop ⟨htarget, by simp⟩
  · rintro ⟨hstart, tail, htrail, rfl, hclear⟩
    obtain ⟨simple, hsimple, harrive, hnodup, hsubset⟩ := exists_simple htrail
    have hne : simple ≠ [] := by
      rintro rfl
      exact hstart harrive.symm
    refine ⟨simple, open_iff.mpr ⟨hsimple, (List.nodup_cons.mp hnodup).2, ?_, ?_⟩, hne, harrive⟩
    · intro e he hmem
      exact (List.nodup_cons.mp hnodup).1 (List.mem_singleton.mp hmem ▸ List.mem_map_of_mem he)
    · rintro pre e post rfl
      rw [hgo]
      rintro ⟨htarget, hpre⟩
      -- a node before the end is not the end, and so it is one that the path passes
      have hbefore := arrival_ne hnodup
      rw [harrive] at hbefore
      obtain ⟨init, d, rfl⟩ := (List.eq_nil_or_concat pre).resolve_left hpre
      rw [List.concat_eq_append] at *
      rw [arrival_concat] at htarget
      rw [arrival_concat] at hbefore
      have hmem : g.target d ∈ tail.map g.target := hsubset _ (List.mem_map_of_mem (by simp))
      rcases List.eq_nil_or_concat tail with rfl | ⟨init', e', rfl⟩
      · cases hmem
      · rw [List.concat_eq_append] at *
        rw [arrival_concat] at hbefore
        rw [List.map_append, List.mem_append] at hmem
        rcases hmem with hmem | hmem
        · obtain ⟨d', hd', heq⟩ := List.mem_map.mp hmem
          exact clear_append.mp hclear d' hd' (heq ▸ htarget)
        · exact hbefore (List.mem_singleton.mp hmem)

/-! ## The search -/

section
omit [DecidableEq ν]

theorem foldlM_append {found results : List φ} (hresults : (results.length : Int) ≤ s.maxResults) :
    found.foldlM (append s) results =
      if s.maxResults < (results ++ found).length then .error s.tooMany else .ok (results ++ found) := by
  induction found generalizing results with
  | nil =>
    rw [List.append_nil, if_neg (by omega)]
    rfl
  | cons x found ih =>
    rw [List.foldlM_cons, append]
    by_cases hlt : s.maxResults < (results ++ [x]).length
    · have hlt' : s.maxResults < (results ++ x :: found).length := by
        simp only [List.length_append, List.length_cons, List.length_nil] at hlt ⊢
        omega
      rw [if_pos hlt, if_pos hlt']
      rfl
    · rw [if_neg hlt]
      show List.foldlM (append s) (results ++ [x]) found = _
      rw [ih (by omega), List.append_assoc, List.singleton_append]

/-- A state after `found` was appended, unless there are too many results. -/
def extend (maxResults : Int) (tooMany : ω) (state : List φ × Bool) (found : List φ) (truncated : Bool) : Except ω (List φ × Bool) :=
  if maxResults < (state.1 ++ found).length then .error tooMany else .ok (state.1 ++ found, state.2 || truncated)

variable {maxResults : Int} {tooMany : ω} {state : List φ × Bool} {f : List φ × Bool → Except ω (List φ × Bool)}

theorem extend_nil (hstate : (state.1.length : Int) ≤ maxResults) (truncated : Bool) :
    extend maxResults tooMany state [] truncated = .ok (state.1, state.2 || truncated) := by
  rw [extend, List.append_nil, if_neg (by omega)]

/-- What extends a state twice extends it by both. -/
theorem extend_bind {found rest : List φ} {here below : Bool}
    (hf : ∀ st : List φ × Bool, (st.1.length : Int) ≤ maxResults → f st = extend maxResults tooMany st rest below) :
    (extend maxResults tooMany state found here >>= f) = extend maxResults tooMany state (found ++ rest) (here || below) := by
  rw [extend, extend]
  by_cases hlt : maxResults < (state.1 ++ found).length
  · have hlt' : maxResults < (state.1 ++ (found ++ rest)).length := by
      simp only [List.length_append] at hlt ⊢
      omega
    rw [if_pos hlt, if_pos hlt']
    rfl
  · rw [if_neg hlt]
    show f (state.1 ++ found, state.2 || here) = _
    rw [hf _ (by simpa using hlt), extend, List.append_assoc, Bool.or_assoc]

theorem extend_then {found rest : List φ} {below : Bool}
    (hf : ∀ st : List φ × Bool, (st.1.length : Int) ≤ maxResults → f st = extend maxResults tooMany st rest below) :
    (extend maxResults tooMany state found false >>= f) = extend maxResults tooMany state (found ++ rest) below := by
  rw [extend_bind hf, Bool.false_or]

/-- A loop whose turns extend the state extends it by all they found. -/
theorem foldlM_extend {α : Type} {turn : List φ × Bool → α → Except ω (List φ × Bool)} {found : α → List φ} {truncated : α → Bool}
    {xs : List α} (hturn : ∀ x ∈ xs, ∀ state : List φ × Bool, (state.1.length : Int) ≤ maxResults →
      turn state x = extend maxResults tooMany state (found x) (truncated x))
    (hstate : (state.1.length : Int) ≤ maxResults) :
    xs.foldlM turn state = extend maxResults tooMany state (xs.flatMap found) (xs.any truncated) := by
  induction xs generalizing state with
  | nil =>
    rw [List.flatMap_nil, extend_nil hstate, List.any_nil, Bool.or_false]
    rfl
  | cons x xs ih =>
    rw [List.foldlM_cons, hturn x List.mem_cons_self state hstate, List.flatMap_cons, List.any_cons]
    exact extend_bind fun st hst => ih (fun y hy => hturn y (List.mem_cons_of_mem _ hy)) hst

end

/-- A walk appends what it finds at `current`, and goes on below it. -/
theorem walk_here {found : List φ} (hfound : s.emits current path = .ok found) {state : List φ × Bool}
    (hstate : (state.1.length : Int) ≤ s.maxResults) :
    walk s left current path visited state = (extend s.maxResults s.tooMany state found false >>= fun st =>
      if s.halts current path then .ok st else
        match left with
        | 0 => .ok (st.1, st.2 || !(fresh s.toGraph current visited).isEmpty)
        | left + 1 => (fresh s.toGraph current visited).foldlM
            (fun st e => walk s left (s.target e) (path ++ [e]) (s.target e :: visited) st) st) := by
  rw [walk.eq_def, hfound]
  show (List.foldlM (append s) state.1 found >>= _) = _
  rw [foldlM_append hstate, extend, Bool.or_false]
  by_cases hlt : s.maxResults < (state.1 ++ found).length
  · rw [if_pos hlt, if_pos hlt]
    rfl
  · rw [if_neg hlt, if_neg hlt]
    cases left <;> rfl

theorem walk_eq {facts : List ε → List φ}
    (hfacts : ∀ tail ∈ trails s.toGraph left current path visited, s.emits (arrival s.toGraph current tail) (path ++ tail) = .ok (facts (path ++ tail)))
    {state : List φ × Bool} (hstate : (state.1.length : Int) ≤ s.maxResults) :
    walk s left current path visited state =
      extend s.maxResults s.tooMany state ((trails s.toGraph left current path visited).flatMap fun tail => facts (path ++ tail))
        (cut s.toGraph left current path visited) := by
  induction left generalizing current path visited state with
  | zero =>
    have hhere := hfacts [] nil_mem_trails
    rw [arrival_nil, List.append_nil] at hhere
    rw [walk_here hhere hstate, trails, cut, List.flatMap_cons, List.append_nil]
    refine extend_then fun st hst => ?_
    split_ifs with hhalt
    · rw [List.flatMap_nil, extend_nil hst, Bool.or_false]
    · rw [List.flatMap_nil, extend_nil hst]
  | succ left ih =>
    have hhere := hfacts [] nil_mem_trails
    rw [arrival_nil, List.append_nil] at hhere
    rw [walk_here hhere hstate, trails, cut, List.flatMap_cons, List.append_nil]
    refine extend_then fun st hst => ?_
    split_ifs with hhalt
    · rw [List.flatMap_nil, extend_nil hst, Bool.or_false]
    · rw [Bool.not_eq_true] at hhalt
      have hbelow : ∀ e ∈ fresh s.toGraph current visited, ∀ st : List φ × Bool, (st.1.length : Int) ≤ s.maxResults →
          walk s left (s.target e) (path ++ [e]) (s.target e :: visited) st = extend s.maxResults s.tooMany st
            ((trails s.toGraph left (s.target e) (path ++ [e]) (s.target e :: visited)).flatMap fun tail => facts (path ++ [e] ++ tail))
            (cut s.toGraph left (s.target e) (path ++ [e]) (s.target e :: visited)) := by
        intro e he st hst
        refine ih (fun tail htail => ?_) hst
        have h := hfacts (e :: tail) (cons_mem_trails.mpr ⟨hhalt, he, htail⟩)
        rw [arrival_cons] at h
        rw [List.append_assoc, List.singleton_append]
        exact h
      dsimp only
      rw [foldlM_extend hbelow hst, List.flatMap_assoc]
      congr 1
      refine List.flatMap_congr fun e _ => ?_
      rw [List.flatMap_map]
      refine List.flatMap_congr fun tail _ => ?_
      rw [List.append_assoc, List.singleton_append]

/-! ## A search that returns -/

section
omit [DecidableEq ν]

theorem foldlM_append_ok {found results results' : List φ} (h : found.foldlM (append s) results = .ok results') :
    results' = results ++ found := by
  induction found generalizing results with
  | nil =>
    obtain rfl := Except.ok.inj h
    rw [List.append_nil]
  | cons x found ih =>
    rw [List.foldlM_cons, append] at h
    split_ifs at h
    · cases h
    · rw [ih h, List.append_assoc, List.singleton_append]

/-- What a loop has done when it returns, from what its turns do when they return. -/
theorem foldlM_ok {α : Type} {turn : List φ × Bool → α → Except ω (List φ × Bool)} {P : α → Prop} {found : α → List φ}
    {truncated : α → Bool} {xs : List α} (hturn : ∀ x ∈ xs, ∀ st st', turn st x = .ok st' →
      P x ∧ st' = (st.1 ++ found x, st.2 || truncated x)) {st st' : List φ × Bool} (h : xs.foldlM turn st = .ok st') :
    (∀ x ∈ xs, P x) ∧ st' = (st.1 ++ xs.flatMap found, st.2 || xs.any truncated) := by
  induction xs generalizing st with
  | nil =>
    obtain rfl := Except.ok.inj h
    simp
  | cons x xs ih =>
    rw [List.foldlM_cons, ok_bind] at h
    obtain ⟨st₁, hx, h⟩ := h
    obtain ⟨hP, rfl⟩ := hturn x List.mem_cons_self st st₁ hx
    obtain ⟨hall, rfl⟩ := ih (fun y hy => hturn y (List.mem_cons_of_mem _ hy)) h
    refine ⟨List.forall_mem_cons.mpr ⟨hP, hall⟩, ?_⟩
    rw [List.flatMap_cons, List.append_assoc, List.any_cons, Bool.or_assoc]

end

/-- A walk that returns looked at every path it goes along, and its results are what it found there. -/
theorem walk_ok {st st' : List φ × Bool} (h : walk s left current path visited st = .ok st') :
    (∀ tail ∈ trails s.toGraph left current path visited, ∃ fs, s.emits (arrival s.toGraph current tail) (path ++ tail) = .ok fs) ∧
      st' = (st.1 ++ (trails s.toGraph left current path visited).flatMap fun tail =>
        (s.emits (arrival s.toGraph current tail) (path ++ tail)).toOption.getD [],
        st.2 || cut s.toGraph left current path visited) := by
  induction left generalizing current path visited st st' with
  | zero =>
    rw [walk.eq_def, ok_bind] at h
    obtain ⟨fs, hfs, h⟩ := h
    rw [ok_bind] at h
    obtain ⟨results, hresults, h⟩ := h
    obtain rfl := foldlM_append_ok hresults
    rw [trails, cut]
    split_ifs at h ⊢ with hhalt <;> obtain rfl := Except.ok.inj h <;> simp [hfs, Except.toOption]
  | succ left ih =>
    rw [walk.eq_def, ok_bind] at h
    obtain ⟨fs, hfs, h⟩ := h
    rw [ok_bind] at h
    obtain ⟨results, hresults, h⟩ := h
    obtain rfl := foldlM_append_ok hresults
    rw [trails, cut]
    split_ifs at h ⊢ with hhalt
    · obtain rfl := Except.ok.inj h
      simp [hfs, Except.toOption]
    · have hbelow : ∀ e ∈ fresh s.toGraph current visited, ∀ st st',
          walk s left (s.target e) (path ++ [e]) (s.target e :: visited) st = .ok st' → _ := fun e _ st st' => ih
      obtain ⟨hall, rfl⟩ := foldlM_ok hbelow h
      constructor
      · intro tail htail
        rcases List.mem_cons.mp htail with rfl | htail
        · exact ⟨fs, by simpa using hfs⟩
        · obtain ⟨e, he, htail⟩ := List.mem_flatMap.mp htail
          obtain ⟨rest, hrest, rfl⟩ := List.mem_map.mp htail
          obtain ⟨fs', hfs'⟩ := hall e he rest hrest
          exact ⟨fs', by simpa using hfs'⟩
      · simp [hfs, Except.toOption, List.flatMap_assoc, List.flatMap_map]

/-! ## A search from several starts -/

/-- What a walk appends at the end of a path from its start. -/
def found (s : Search ν ε φ ω) (start : ν) (tail : List ε) : List φ := (s.emits (arrival s.toGraph start tail) tail).toOption.getD []

omit [DecidableEq ν] in
theorem emits_eq {start : ν} (h : ∃ fs, s.emits (arrival s.toGraph start tail) tail = .ok fs) :
    s.emits (arrival s.toGraph start tail) tail = .ok (found s start tail) := by
  obtain ⟨fs, hfs⟩ := h
  rw [found, hfs]
  rfl

/-- What one walk for each `x` has found when all of them return. -/
theorem walks_ok {α : Type} (search : α → Search ν ε φ ω) (start : α → ν) {hops : Nat} {xs : List α} {st' : List φ × Bool}
    (h : xs.foldlM (fun st x => walk (search x) hops (start x) [] [start x] st) ([], false) = .ok st') :
    (∀ x ∈ xs, ∀ tail ∈ trails (search x).toGraph hops (start x) [] [start x],
      (search x).emits (arrival (search x).toGraph (start x) tail) tail = .ok (found (search x) (start x) tail)) ∧
    st' = (xs.flatMap fun x => (trails (search x).toGraph hops (start x) [] [start x]).flatMap (found (search x) (start x)),
      xs.any fun x => cut (search x).toGraph hops (start x) [] [start x]) := by
  obtain ⟨hall, hst⟩ := foldlM_ok (fun x _ st st' h => walk_ok h) h
  refine ⟨fun x hx tail htail => emits_eq (hall x hx tail htail), ?_⟩
  rw [hst, List.nil_append, Bool.false_or]
  rfl

/-- Walks that stop at targets, and were not cut off, report for each start the targets it leads to without passing another. -/
theorem walks_reach {α κ : Type} (search : α → Search ν ε φ ω) (start : α → ν) {targets : List ν} {key : α → κ} {keyOf : φ → κ}
    {ends : φ → ν → Prop} {hops : Nat} {xs : List α} {results : List φ}
    (hhalts : ∀ x v path, (search x).halts v path = true ↔ v ∈ targets ∧ path ≠ [])
    (hemits : ∀ x tail fs, (search x).emits (arrival (search x).toGraph (start x) tail) tail = .ok fs →
      (∀ f ∈ fs, tail ≠ [] ∧ keyOf f = key x ∧ ∀ t, ends f t ↔ arrival (search x).toGraph (start x) tail = t) ∧
        (arrival (search x).toGraph (start x) tail ∈ targets → tail ≠ [] → fs ≠ []))
    (h : xs.foldlM (fun st x => walk (search x) hops (start x) [] [start x] st) ([], false) = .ok (results, false))
    (hkeys : ∀ x ∈ xs, ∀ y ∈ xs, key x = key y → x = y) {x : α} (hx : x ∈ xs) {t : ν} (ht : t ∈ targets) :
    (∃ f ∈ results, keyOf f = key x ∧ ends f t) ↔ t ≠ start x ∧ ∃ tail, Trail (search x).toGraph (start x) tail ∧
      arrival (search x).toGraph (start x) tail = t ∧ Clear (search x).toGraph targets tail := by
  obtain ⟨hall, hst⟩ := walks_ok search start h
  obtain ⟨rfl, htrunc⟩ := Prod.mk.inj hst
  have hcut : ∀ x ∈ xs, cut (search x).toGraph hops (start x) [] [start x] = false :=
    fun x hx => (Bool.not_eq_true _).mp (List.any_eq_false.mp htrunc.symm x hx)
  rw [← open_clear_iff (hhalts x)]
  constructor
  · rintro ⟨f, hf, hkey, hends⟩
    obtain ⟨y, hy, hf⟩ := List.mem_flatMap.mp hf
    obtain ⟨tail, htail, hf⟩ := List.mem_flatMap.mp hf
    obtain ⟨hne, hkey', hsink⟩ := (hemits y tail _ (hall y hy tail htail)).1 f hf
    obtain rfl := hkeys x hx y hy (hkey.symm.trans hkey')
    exact ⟨tail, (mem_trails.mp htail).1, hne, (hsink t).mp hends⟩
  · rintro ⟨tail, hopen, hne, rfl⟩
    have htail := (mem_trails_of_not_cut (hcut x hx)).mpr hopen
    obtain ⟨hnames, hsome⟩ := hemits x tail _ (hall x hx tail htail)
    obtain ⟨f, hf⟩ := List.exists_mem_of_ne_nil _ (hsome ht hne)
    obtain ⟨-, hkey, hsink⟩ := hnames f hf
    exact ⟨f, List.mem_flatMap.mpr ⟨x, hx, List.mem_flatMap.mpr ⟨tail, htail, hf⟩⟩, hkey, (hsink _).mpr rfl⟩

/-- One walk for each `x`, all with the same bound on the results: `maxResults` and its error. -/
theorem walks_eq {α : Type} {search : α → Search ν ε φ ω} {start : α → ν} {hops : Nat} {xs : List α}
    (hbound : ∀ x, (search x).maxResults = maxResults ∧ (search x).tooMany = tooMany) (hpos : 0 ≤ maxResults)
    (hok : ∀ x ∈ xs, ∀ tail ∈ trails (search x).toGraph hops (start x) [] [start x],
      ∃ fs, (search x).emits (arrival (search x).toGraph (start x) tail) tail = .ok fs) :
    xs.foldlM (fun st x => walk (search x) hops (start x) [] [start x] st) ([], false) =
      extend maxResults tooMany ([], false)
        (xs.flatMap fun x => (trails (search x).toGraph hops (start x) [] [start x]).flatMap (found (search x) (start x)))
        (xs.any fun x => cut (search x).toGraph hops (start x) [] [start x]) := by
  refine foldlM_extend (fun x hx st hst => ?_) (by simpa using hpos)
  obtain ⟨hmax, htoo⟩ := hbound x
  rw [← hmax, ← htoo]
  have hfacts : ∀ tail ∈ trails (search x).toGraph hops (start x) [] [start x],
      (search x).emits (arrival (search x).toGraph (start x) tail) ([] ++ tail) = .ok (found (search x) (start x) ([] ++ tail)) :=
    fun tail htail => emits_eq (hok x hx tail htail)
  exact walk_eq hfacts (by rwa [hmax])

end Data.BoundedSearch
