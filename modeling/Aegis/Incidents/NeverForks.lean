/-
  Aegis.Incidents.NeverForks — what a lifecycle boundary returns over any sequence of calls.

  For each intake root the boundary records a digest at the positions 1, …, m (`Dense`). Binding a
  record either finds each of its digests recorded or adds those after m; a fork is found before
  anything is added (`bindItems_spec`), so a call that raises it changes nothing. Every record
  returned is recorded item by item (`Recorded`), and a digest determines its item: of two records
  of one root one continues the other (`never_forks`).

  Items are the same up to the letter case of their digests (`folded`): the boundary returns a
  record that repeats its last transition as it came, in whatever case it is written
  (`replay_keeps_case`).
-/

import Aegis.Incidents.Lifecycle
import Aegis.Data.Lineage

namespace Aegis.Incidents

open Data Data.Checks
open Assurance (Runtime)
open Agentic (Dict hex)

section
variable {rt : Runtime} {r r' : IncidentLifecycleRecord} {items rest xs ys : List IncidentLifecycleTransition} {n : Int} {m : Nat}
  {s s' : IncidentLifecycleState} {previous previous' : String} {item t t' : IncidentLifecycleTransition}
  {intake : IncidentIntakeRecord} {chain chain' : Chain} {b b' : IncidentLifecycleBoundary} {toState : IncidentLifecycleState}

/-! ## Paths -/

theorem PathFrom.follows (h : PathFrom rt r n s previous items s') {i : Nat} (hi : items[i]? = some t) :
    ∃ q p, Follows rt r (n + i) q p t := by
  induction items generalizing n s previous i with
  | nil => simp at hi
  | cons item rest ih =>
    obtain ⟨hitem, hrest⟩ := h
    cases i with
    | zero =>
      cases hi
      exact ⟨s, previous, by simpa using hitem⟩
    | succ i =>
      obtain ⟨q, p, ht⟩ := ih hrest hi
      refine ⟨q, p, ?_⟩
      have hpos : n + 1 + (i : Int) = n + ((i + 1 : Nat) : Int) := by omega
      rwa [hpos] at ht

theorem PathFrom.append_singleton (h : PathFrom rt r n s previous items s')
    (ht : Follows rt r (n + items.length) s' ((items.getLast?.map fun x => rt.casefold x.transitionSha256).getD previous) t) :
    PathFrom rt r n s previous (items ++ [t]) t.toState := by
  induction items generalizing n s previous with
  | nil =>
    obtain rfl : s = s' := h
    refine ⟨?_, rfl⟩
    simpa using ht
  | cons item rest ih =>
    obtain ⟨hitem, hrest⟩ := h
    refine ⟨hitem, ih hrest ?_⟩
    have hpos : n + 1 + (rest.length : Int) = n + ((item :: rest).length : Int) := by
      rw [List.length_cons]
      omega
    rw [hpos]
    cases rest with
    | nil => exact ht
    | cons x xs =>
      rw [List.getLast?_cons_cons] at ht
      obtain ⟨y, hy⟩ : ∃ y, (x :: xs).getLast? = some y := ⟨_, List.getLast?_eq_some_getLast (List.cons_ne_nil x xs)⟩
      rw [hy] at ht ⊢
      exact ht

/-- A path is one of every record with the same intake root. -/
theorem PathFrom.of_same (hid : r'.incidentId = r.incidentId) (hroot : r'.intakeRootSha256 = r.intakeRootSha256)
    (h : PathFrom rt r n s previous items s') : PathFrom rt r' n s previous items s' := by
  induction items generalizing n s previous with
  | nil => exact h
  | cons item rest ih =>
    obtain ⟨hitem, hrest⟩ := h
    exact ⟨{ hitem with incidentId := hitem.incidentId.trans hid.symm, root := hroot ▸ hitem.root }, ih hrest⟩

theorem extend_valid (hl : Lowercase rt) (h : r.Valid rt) (ht : toState ∈ allowedTransitions r.state) :
    (extend rt r toState).Valid rt where
  intake := h.intake
  schemaVersion := rfl
  root := h.root
  path := by
    have hpath : PathFrom rt (extend rt r toState) 1 .open ZERO_SHA256 r.transitions r.state :=
      PathFrom.of_same (r := r) rfl rfl h.path
    refine hpath.append_singleton ?_
    refine ⟨rfl, rfl, ?_, rfl, ht, ?_, hl.digest _⟩
    · show (r.transitions.length : Int) + 1 = 1 + r.transitions.length
      omega
    · show rt.casefold (head r) = _
      unfold head
      cases r.transitions.getLast? with
      | none => exact hl.zero
      | some x => rfl

/-- Paths are compared item by item, up to the letter case of the digests. -/
def IncidentLifecycleTransition.folded (rt : Runtime) (t : IncidentLifecycleTransition) : IncidentLifecycleTransition :=
  { t with
    intakeRootSha256 := rt.casefold t.intakeRootSha256
    previousTransitionSha256 := rt.casefold t.previousTransitionSha256
    transitionSha256 := rt.casefold t.transitionSha256 }

/-- The history of a record. -/
def IncidentLifecycleRecord.history (rt : Runtime) (r : IncidentLifecycleRecord) : List IncidentLifecycleTransition :=
  r.transitions.map (·.folded rt)

/-- The digest of an item determines it. -/
theorem folded_of_digest (hH : Function.Injective rt.sha256) (h : rt.casefold t.transitionSha256 = t.digest rt)
    (h' : rt.casefold t'.transitionSha256 = t'.digest rt) (he : rt.casefold t.transitionSha256 = rt.casefold t'.transitionSha256) :
    t.folded rt = t'.folded rt := by
  have hmaterial := hH (h.symm.trans (he.trans h'))
  simp only [transitionMaterial, Json.obj_cons, Json.obj_nil, Json.field.injEq, Json.str.injEq, Json.int.injEq, true_and,
    and_true] at hmaterial
  obtain ⟨hfrom, hid, hroot, hprevious, hsequence, hto⟩ := hmaterial
  simp only [IncidentLifecycleTransition.folded, IncidentLifecycleTransition.mk.injEq]
  exact ⟨hid, hroot, hsequence, IncidentLifecycleState.value_injective hfrom, IncidentLifecycleState.value_injective hto,
    hprevious, he⟩

/-- Nothing follows a closed incident. -/
theorem PathFrom.closed (h : PathFrom rt r n s previous xs .closed) (h' : PathFrom rt r' n s previous' ys s')
    (hp : xs.map (·.folded rt) <+: ys.map (·.folded rt)) : ys.map (·.folded rt) = xs.map (·.folded rt) := by
  induction xs generalizing n s previous previous' ys with
  | nil =>
    obtain rfl : s = .closed := h
    cases ys with
    | nil => rfl
    | cons y ys => exact absurd h'.1.toState (by simp [allowedTransitions])
  | cons x xs ih =>
    cases ys with
    | nil => exact absurd hp (by simp)
    | cons y ys =>
      rw [List.map_cons, List.map_cons, List.cons_prefix_cons] at hp
      obtain ⟨hxy, hp⟩ := hp
      have hto : y.toState = x.toState := (congrArg IncidentLifecycleTransition.toState hxy).symm
      rw [List.map_cons, List.map_cons, hxy, ih h.2 (hto ▸ h'.2) hp]

/-- Lists that agree where both have an item. -/
theorem prefix_or_prefix {α : Type} {xs ys : List α} (h : ∀ (i : Nat) x y, xs[i]? = some x → ys[i]? = some y → x = y) :
    xs <+: ys ∨ ys <+: xs := by
  induction xs generalizing ys with
  | nil => exact .inl (List.nil_prefix)
  | cons x xs ih =>
    cases ys with
    | nil => exact .inr (List.nil_prefix)
    | cons y ys =>
      obtain rfl : x = y := h 0 x y rfl rfl
      rw [List.cons_prefix_cons, List.cons_prefix_cons]
      rcases @ih ys fun i a b ha hb => h (i + 1) a b (by simpa using ha) (by simpa using hb) with hp | hp
      · exact .inl ⟨rfl, hp⟩
      · exact .inr ⟨rfl, hp⟩

/-! ## Binding -/

/-- Digests are recorded at the positions from 1 to `m`. -/
def Dense (m : Nat) (chain : Chain) : Prop := ∀ k, (chain k).isSome = true ↔ 1 ≤ k ∧ k ≤ m

def Grows (chain chain' : Chain) : Prop := ∀ k d, chain k = some d → chain' k = some d

/-- The items are recorded. -/
def Bound (rt : Runtime) (chain : Chain) (items : List IncidentLifecycleTransition) : Prop :=
  ∀ t ∈ items, chain t.sequence = some (rt.casefold t.transitionSha256)

theorem Bound.grows (h : Bound rt chain items) (hg : Grows chain chain') : Bound rt chain' items := fun t ht => hg _ _ (h t ht)

theorem bindItems_append : bindItems rt chain (xs ++ ys) = match bindItems rt chain xs with
    | (.ok (), chain') => bindItems rt chain' ys
    | (.error e, chain') => (.error e, chain') := by
  induction xs generalizing chain with
  | nil => rfl
  | cons x xs ih =>
    simp only [List.cons_append, bindItems]
    split_ifs with h
    · rfl
    · exact ih

theorem bindItems_bound (h : Bound rt chain items) : bindItems rt chain items = (.ok (), chain) := by
  induction items with
  | nil => rfl
  | cons item rest ih =>
    have hitem := h item List.mem_cons_self
    rw [bindItems, if_neg, Chain.set_recorded hitem]
    · exact ih fun t ht => h t (List.mem_cons_of_mem _ ht)
    · rintro ⟨-, hne⟩
      exact hne hitem

/-- Binding a path that starts within the recorded positions or right after them: all its items are recorded, and if any were
    added the last of them is now the last of all; or there is a fork, and nothing was added. -/
theorem bindItems_spec (hp : PathFrom rt r n s previous items s') (hd : Dense m chain) (h1 : 1 ≤ n) (hm : n ≤ m + 1) :
    (∃ chain', bindItems rt chain items = (.ok (), chain') ∧ Grows chain chain' ∧ Bound rt chain' items ∧
      ((chain' = chain ∧ n + items.length ≤ m + 1) ∨ ∃ m' : Nat, Dense m' chain' ∧ (m' : Int) + 1 = n + items.length)) ∨
    (bindItems rt chain items = (.error FORK_INVALID, chain) ∧ n ≤ m) := by
  induction items generalizing n s previous m chain with
  | nil => exact .inl ⟨chain, rfl, fun _ _ h => h, nofun, .inl ⟨rfl, by simpa using hm⟩⟩
  | cons item rest ih =>
    obtain ⟨hitem, hrest⟩ := hp
    have hlength : n + ((item :: rest).length : Int) = n + 1 + rest.length := by
      rw [List.length_cons]
      omega
    rw [hlength]
    cases hc : chain item.sequence with
    | some d =>
      have hle : n ≤ m := by
        have hsome := (hd item.sequence).mp (by rw [hc]; rfl)
        rw [hitem.sequence] at hsome
        exact hsome.2
      by_cases hsame : d = rt.casefold item.transitionSha256
      · -- recorded already
        subst hsame
        have hstep : bindItems rt chain (item :: rest) = bindItems rt chain rest := by
          rw [bindItems, if_neg, Chain.set_recorded hc]
          rintro ⟨-, hne⟩
          exact hne hc
        rw [hstep]
        rcases ih hrest hd (by omega) (by omega) with ⟨chain', hbind, hg, hbound, hshape⟩ | ⟨hbind, -⟩
        · refine .inl ⟨chain', hbind, hg, ?_, hshape⟩
          intro t ht
          rcases List.mem_cons.mp ht with rfl | ht
          · exact hg _ _ hc
          · exact hbound t ht
        · exact .inr ⟨hbind, hle⟩
      · refine .inr ⟨?_, hle⟩
        rw [bindItems, if_pos]
        refine ⟨by rw [hc]; rfl, fun he => hsame ?_⟩
        rw [hc] at he
        exact Option.some.inj he
    | none =>
      -- a new position, which is the next one; nothing after it is recorded
      have hnext : n = m + 1 := by
        have hnone : ¬ (1 ≤ item.sequence ∧ item.sequence ≤ m) := by
          rw [← hd, hc]
          exact nofun
        rw [hitem.sequence] at hnone
        omega
      have hstep : bindItems rt chain (item :: rest) =
          bindItems rt (Chain.set chain item.sequence (rt.casefold item.transitionSha256)) rest := by
        rw [bindItems, if_neg]
        rintro ⟨hsome, -⟩
        rw [hc] at hsome
        cases hsome
      have hd' : Dense (m + 1) (Chain.set chain item.sequence (rt.casefold item.transitionSha256)) := by
        intro k
        by_cases hk : k = item.sequence
        · rw [hk, Chain.set_self, hitem.sequence]
          simp only [Option.isSome_some, true_iff]
          omega
        · rw [Chain.set_ne hk, hd k]
          rw [hitem.sequence] at hk
          omega
      have hg' : Grows chain (Chain.set chain item.sequence (rt.casefold item.transitionSha256)) := by
        intro k d hk
        have hne : k ≠ item.sequence := by
          rintro rfl
          rw [hc] at hk
          cases hk
        rw [Chain.set_ne hne]
        exact hk
      rw [hstep]
      rcases ih hrest hd' (by omega) (by omega) with ⟨chain', hbind, hg, hbound, hshape⟩ | ⟨-, hle⟩
      · refine .inl ⟨chain', hbind, fun k d hk => hg k d (hg' k d hk), ?_, .inr ?_⟩
        · intro t ht
          rcases List.mem_cons.mp ht with rfl | ht
          · exact hg _ _ (Chain.set_self _ _ _)
          · exact hbound t ht
        · rcases hshape with ⟨rfl, hle⟩ | ⟨m', hm', hlast⟩
          · refine ⟨m + 1, hd', ?_⟩
            omega
          · exact ⟨m', hm', hlast⟩
      · omega

/-! ## Calls -/

def Good (b : IncidentLifecycleBoundary) : Prop := ∀ root, ∃ m, Dense m (b.chain root)

/-- Every item of the record is recorded. -/
def Recorded (rt : Runtime) (b : IncidentLifecycleBoundary) (r : IncidentLifecycleRecord) : Prop :=
  Bound rt (b.chain (rt.casefold r.intakeRootSha256)) r.transitions

theorem good_fresh : Good .fresh := by
  refine fun root => ⟨0, fun k => ?_⟩
  show (none : Option String).isSome = true ↔ _
  simp only [Option.isSome_none, Bool.false_eq_true, false_iff]
  omega

theorem chain_set {dict : Dict Chain} {root root' : String} :
    IncidentLifecycleBoundary.chain ⟨dict.set root chain⟩ root' =
      if root' = root then chain else IncidentLifecycleBoundary.chain ⟨dict⟩ root' := by
  show (dict.set root chain root').getD _ = _
  by_cases h : root' = root
  · rw [if_pos h, h, Dict.set_self, Option.getD_some]
  · rw [if_neg h, Dict.set_ne h]
    rfl

/-- What binding a record does; the last position recorded is that of the record's last item when anything was added. -/
theorem bindChain_spec (hg : Good b) (h : r.Valid rt) :
    (∃ b', bindChain rt b r = (.ok (), b') ∧ Good b' ∧ (∀ root, Grows (b.chain root) (b'.chain root)) ∧ Recorded rt b' r ∧
      (b'.chain = b.chain ∨ Dense r.transitions.length (b'.chain (rt.casefold r.intakeRootSha256)))) ∨
    ∃ b', bindChain rt b r = (.error FORK_INVALID, b') ∧ b'.chain = b.chain := by
  obtain ⟨m, hd⟩ := hg (rt.casefold r.intakeRootSha256)
  have hset : ∀ chain, b.chain (rt.casefold r.intakeRootSha256) = chain →
      IncidentLifecycleBoundary.chain ⟨b.canonicalTransitions.set (rt.casefold r.intakeRootSha256) chain⟩ = b.chain := by
    rintro chain rfl
    funext root
    rw [chain_set]
    by_cases hroot : root = rt.casefold r.intakeRootSha256
    · rw [if_pos hroot, hroot]
    · rw [if_neg hroot]
  rcases bindItems_spec h.path hd le_rfl (by omega) with ⟨chain', hbind, hgrows, hbound, hshape⟩ | ⟨hbind, -⟩
  · refine .inl ⟨_, by rw [bindChain, hbind], ?_, ?_, ?_, ?_⟩
    · intro root
      rw [chain_set]
      by_cases hroot : root = rt.casefold r.intakeRootSha256
      · rw [if_pos hroot]
        rcases hshape with ⟨rfl, -⟩ | ⟨m', hm', -⟩
        · exact ⟨m, hd⟩
        · exact ⟨m', hm'⟩
      · rw [if_neg hroot]
        exact hg root
    · intro root
      rw [chain_set]
      by_cases hroot : root = rt.casefold r.intakeRootSha256
      · rw [if_pos hroot, hroot]
        exact hgrows
      · rw [if_neg hroot]
        exact fun _ _ h => h
    · rw [Recorded, chain_set, if_pos rfl]
      exact hbound
    · rcases hshape with ⟨rfl, -⟩ | ⟨m', hm', hlast⟩
      · exact .inl (hset _ rfl)
      · obtain rfl : m' = r.transitions.length := by omega
        refine .inr ?_
        rw [chain_set, if_pos rfl]
        exact hm'
  · exact .inr ⟨_, by rw [bindChain, hbind], hset _ rfl⟩

/-- What a call leaves. -/
structure Kept (rt : Runtime) (b : IncidentLifecycleBoundary) (res : Checked IncidentLifecycleRecord)
    (b' : IncidentLifecycleBoundary) : Prop where
  good : Good b'
  grows : ∀ root, Grows (b.chain root) (b'.chain root)
  returned : ∀ x, res = .ok x → x.Valid rt ∧ Recorded rt b' x
  fork : res = .error FORK_INVALID → b'.chain = b.chain

theorem Good.of_chain (hg : Good b) (h : b'.chain = b.chain) : Good b' := fun root => h ▸ hg root

/-- A call that raised and left the chains as they were. -/
theorem Kept.raised (hg : Good b) (h : b'.chain = b.chain) {e : String} : Kept rt b (.error e) b' where
  good := hg.of_chain h
  grows _ := h ▸ fun _ _ h => h
  returned _ := nofun
  fork _ := h

theorem openIncident_kept (hl : Lowercase rt) (hg : Good b) :
    Kept rt b (openIncident rt b intake).1 (openIncident rt b intake).2 := by
  unfold openIncident
  cases hintake : validateIntake intake with
  | error e => exact .raised hg rfl
  | ok u =>
    have hroot : intakeRootDigest rt intake = .ok (rt.sha256 (intakeRootMaterial intake)) := intakeRootDigest_ok.mpr ⟨hintake, rfl⟩
    rw [hroot]
    have hvalid := openRecord_valid hl hintake
    rcases bindChain_spec hg hvalid with ⟨b', hbind, hg', hgrows, hrecorded, -⟩ | ⟨b', hbind, hsame⟩
    · simp only [hbind]
      exact ⟨hg', hgrows, fun x hx => Except.ok.inj hx ▸ ⟨hvalid, hrecorded⟩, nofun⟩
    · simp only [hbind]
      exact .raised hg hsame

/-- After a record is bound its next item is refused only if something was recorded beyond it before. -/
theorem fork_changes_nothing (hg : Good b) (h : r.Valid rt) (hbind : bindChain rt b r = (.ok (), b'))
    (hfork : (bindChain rt b' (extend rt r toState)).1 = .error FORK_INVALID) : b'.chain = b.chain := by
  rcases bindChain_spec hg h with ⟨b1, h1, -, -, hrecorded, hshape⟩ | ⟨b1, h1, -⟩
  · obtain rfl : b1 = b' := by
      rw [h1] at hbind
      exact (Prod.mk.inj hbind).2
    rcases hshape with hsame | hdense
    · exact hsame
    · exfalso
      have hnone : b1.chain (rt.casefold r.intakeRootSha256) (newItem rt r toState).sequence = none := by
        rw [← Option.not_isSome_iff_eq_none, hdense]
        show ¬ (1 ≤ (r.transitions.length : Int) + 1 ∧ (r.transitions.length : Int) + 1 ≤ r.transitions.length)
        omega
      have hitems : bindItems rt (b1.chain (rt.casefold r.intakeRootSha256)) (r.transitions ++ [newItem rt r toState]) =
          bindItems rt (b1.chain (rt.casefold r.intakeRootSha256)) [newItem rt r toState] := by
        rw [bindItems_append, bindItems_bound hrecorded]
      have hok : (bindItems rt (b1.chain (rt.casefold r.intakeRootSha256)) [newItem rt r toState]).1 = .ok () := by
        rw [bindItems, if_neg]
        · rfl
        · rintro ⟨hsome, -⟩
          rw [hnone] at hsome
          cases hsome
      have hfork' : (bindItems rt (b1.chain (rt.casefold r.intakeRootSha256)) (r.transitions ++ [newItem rt r toState])).1 =
          .error FORK_INVALID := hfork
      rw [hitems, hok] at hfork'
      cases hfork'
  · rw [h1] at hbind
    cases (Prod.mk.inj hbind).1

theorem transition_kept (hl : Lowercase rt) (hg : Good b) :
    Kept rt b (transition rt b r toState).1 (transition rt b r toState).2 := by
  unfold transition
  cases hrecord : validateRecord rt r with
  | error e => exact .raised hg rfl
  | ok u =>
    have hvalid : r.Valid rt := validateRecord_ok.mp hrecord
    rcases bindChain_spec hg hvalid with ⟨b', hbind, hg', hgrows, hrecorded, -⟩ | ⟨b', hbind, hsame⟩
    · simp only [hbind]
      split_ifs with hreplay hallowed
      · exact ⟨hg', hgrows, fun x hx => Except.ok.inj hx ▸ ⟨hvalid, hrecorded⟩, nofun⟩
      · have hextend := extend_valid hl hvalid hallowed
        rcases bindChain_spec hg' hextend with ⟨b'', hbind', hg'', hgrows', hrecorded', -⟩ | ⟨b'', hbind', hsame⟩
        · simp only [hbind']
          exact ⟨hg'', fun root k d hk => hgrows' root k d (hgrows root k d hk),
            fun x hx => Except.ok.inj hx ▸ ⟨hextend, hrecorded'⟩, nofun⟩
        · simp only [hbind']
          exact .raised hg (hsame.trans (fork_changes_nothing hg hvalid hbind (by rw [hbind'])))
      · refine ⟨hg', hgrows, fun _ => nofun, fun he => ?_⟩
        exact absurd (Except.error.inj he) (by simp [FORK_INVALID])
    · simp only [hbind]
      exact .raised hg hsame

/-! ## Calls that return -/

theorem bindChain_bound (hr : Recorded rt b r) : ∃ b', bindChain rt b r = (.ok (), b') ∧ b'.chain = b.chain := by
  refine ⟨_, by rw [bindChain, bindItems_bound hr], ?_⟩
  funext root
  rw [chain_set]
  by_cases hroot : root = rt.casefold r.intakeRootSha256
  · rw [if_pos hroot, hroot]
  · rw [if_neg hroot]

theorem openIncident_returns (hintake : validateIntake intake = .ok ()) :
    ∃ b', openIncident rt b intake = (.ok (openRecord intake (rt.sha256 (intakeRootMaterial intake))), b') ∧ b'.chain = b.chain := by
  have hroot : intakeRootDigest rt intake = .ok (rt.sha256 (intakeRootMaterial intake)) := intakeRootDigest_ok.mpr ⟨hintake, rfl⟩
  have hrecorded : Recorded rt b (openRecord intake (rt.sha256 (intakeRootMaterial intake))) := nofun
  obtain ⟨b', hbind, hsame⟩ := bindChain_bound hrecorded
  exact ⟨b', by simp only [openIncident, hintake, hroot, hbind], hsame⟩

/-- The latest transition may be applied again, to any record that the boundary has recorded. -/
theorem transition_replay (hv : r.Valid rt) (hr : Recorded rt b r) (hne : r.transitions ≠ []) :
    ∃ b', transition rt b r r.state = (.ok r, b') := by
  obtain ⟨b', hbind, -⟩ := bindChain_bound hr
  refine ⟨b', ?_⟩
  simp only [transition, validateRecord_ok.mpr hv, hbind]
  rw [if_pos ⟨hne, trivial⟩]

/-- A record may be taken on while nothing is recorded after it. -/
theorem transition_next (hl : Lowercase rt) (hg : Good b) (hv : r.Valid rt) (hr : Recorded rt b r)
    (ht : toState ∈ allowedTransitions r.state) (hne : toState ≠ r.state)
    (hnew : b.chain (rt.casefold r.intakeRootSha256) (r.transitions.length + 1) = none) :
    ∃ b', transition rt b r toState = (.ok (extend rt r toState), b') ∧ Recorded rt b' (extend rt r toState) := by
  obtain ⟨b1, hbind, hsame⟩ := bindChain_bound hr
  have hr1 : Recorded rt b1 r := by
    rw [Recorded, hsame]
    exact hr
  rcases bindChain_spec (hg.of_chain hsame) (extend_valid hl hv ht) with ⟨b2, hbind2, -, -, hrecorded, -⟩ | ⟨b2, hbind2, -⟩
  · refine ⟨b2, ?_, hrecorded⟩
    simp only [transition, validateRecord_ok.mpr hv, hbind, hbind2]
    rw [if_neg fun h => hne h.2, if_neg (not_not.mpr ht)]
  · exfalso
    have hitems : (bindItems rt (b1.chain (rt.casefold r.intakeRootSha256)) (r.transitions ++ [newItem rt r toState])).1 =
        .error FORK_INVALID := congrArg Prod.fst hbind2
    rw [bindItems_append, bindItems_bound hr1] at hitems
    have hlast : (bindItems rt (b1.chain (rt.casefold r.intakeRootSha256)) [newItem rt r toState]).1 = .error FORK_INVALID := hitems
    have hnone : b1.chain (rt.casefold r.intakeRootSha256) (newItem rt r toState).sequence = none := by
      rw [hsame]
      exact hnew
    rw [bindItems, if_neg] at hlast
    · cases hlast
    · rintro ⟨hsome, -⟩
      rw [hnone] at hsome
      cases hsome

end

/-! ## Runs -/

inductive Call where
  | open (intake : IncidentIntakeRecord)
  | transition (record : IncidentLifecycleRecord) (toState : IncidentLifecycleState)

def perform (rt : Runtime) (b : IncidentLifecycleBoundary) : Call → Checked IncidentLifecycleRecord × IncidentLifecycleBoundary
  | .open intake => openIncident rt b intake
  | .transition r toState => Incidents.transition rt b r toState

/-- A call, and what came of it. -/
abbrev Event := Call × Checked IncidentLifecycleRecord

def Performs (rt : Runtime) (b : IncidentLifecycleBoundary) (e : Event) (b' : IncidentLifecycleBoundary) : Prop :=
  perform rt b e.1 = (e.2, b')

/-- The record that an event returned. -/
def Event.Returns (e : Event) (r : IncidentLifecycleRecord) : Prop := e.2 = .ok r

section
variable {rt : Runtime} {r r' : IncidentLifecycleRecord} {b b' : IncidentLifecycleBoundary} {e : Event} {es : List Event}

theorem performs_kept (hl : Lowercase rt) (hg : Good b) (h : Performs rt b e b') : Kept rt b e.2 b' := by
  obtain ⟨call, res⟩ := e
  cases call with
  | «open» intake =>
    have h : openIncident rt b intake = (res, b') := h
    have hk : Kept rt b (openIncident rt b intake).1 (openIncident rt b intake).2 := openIncident_kept hl hg
    rwa [h] at hk
  | transition r toState =>
    have h : transition rt b r toState = (res, b') := h
    have hk : Kept rt b (transition rt b r toState).1 (transition rt b r toState).2 := transition_kept hl hg
    rwa [h] at hk

/-- Everything returned so far is recorded. -/
structure Invariant (rt : Runtime) (es : List Event) (b : IncidentLifecycleBoundary) : Prop where
  good : Good b
  recorded : ∀ e ∈ es, ∀ r, Event.Returns e r → r.Valid rt ∧ Recorded rt b r

theorem invariant (hl : Lowercase rt) (h : Along (Performs rt) .fresh es b) : Invariant rt es b := by
  have hfresh : Invariant rt [] .fresh := ⟨good_fresh, fun _ he => absurd he List.not_mem_nil⟩
  refine Along.history (I := Invariant rt) ?_ h hfresh
  intro ts a e c hstep hinv
  have hk := performs_kept hl hinv.good hstep
  refine ⟨hk.good, fun e' he' r hr => ?_⟩
  rcases List.mem_append.mp he' with he' | he'
  · obtain ⟨hvalid, hrecorded⟩ := hinv.recorded e' he' r hr
    exact ⟨hvalid, hrecorded.grows (hk.grows _)⟩
  · obtain rfl := List.mem_singleton.mp he'
    exact hk.returned r hr

/-- Two records of one root with the items recorded: one continues the other. -/
theorem prefix_of_recorded (hH : Function.Injective rt.sha256) (hv : r.Valid rt) (hv' : r'.Valid rt) (hr : Recorded rt b r)
    (hr' : Recorded rt b r') (hroot : rt.casefold r.intakeRootSha256 = rt.casefold r'.intakeRootSha256) :
    r.history rt <+: r'.history rt ∨ r'.history rt <+: r.history rt := by
  refine prefix_or_prefix fun i x y hx hy => ?_
  unfold IncidentLifecycleRecord.history at hx hy
  rw [List.getElem?_map, Option.map_eq_some_iff] at hx hy
  obtain ⟨t, ht, rfl⟩ := hx
  obtain ⟨t', ht', rfl⟩ := hy
  obtain ⟨q, p, hf⟩ := hv.path.follows ht
  obtain ⟨q', p', hf'⟩ := hv'.path.follows ht'
  have hd := hr t (List.mem_of_getElem? ht)
  have hd' := hr' t' (List.mem_of_getElem? ht')
  rw [hf.sequence, hroot] at hd
  rw [hf'.sequence, hd] at hd'
  exact folded_of_digest hH hf.digest hf'.digest (Option.some.inj hd')

/-- The incident lifecycle never forks. -/
theorem never_forks (hH : Function.Injective rt.sha256) (hl : Lowercase rt) (h : Along (Performs rt) .fresh es b) :
    (∀ e ∈ es, ∀ r, Event.Returns e r → PathFrom rt r 1 .open ZERO_SHA256 r.transitions r.state) ∧
    (∀ e ∈ es, ∀ e' ∈ es, ∀ r r', Event.Returns e r → Event.Returns e' r' →
      rt.casefold r.intakeRootSha256 = rt.casefold r'.intakeRootSha256 →
      (r.history rt <+: r'.history rt ∨ r'.history rt <+: r.history rt) ∧
      (r.state = .closed → r'.history rt <+: r.history rt)) ∧
    ∀ before call after, es = before ++ (call, .error FORK_INVALID) :: after →
      ∀ c d, Along (Performs rt) .fresh before c → Performs rt c (call, .error FORK_INVALID) d → d.chain = c.chain := by
  have hinv := invariant hl h
  refine ⟨fun e he r hr => (hinv.recorded e he r hr).1.path, ?_, ?_⟩
  · intro e he e' he' r r' hr hr' hroot
    obtain ⟨hv, hrec⟩ := hinv.recorded e he r hr
    obtain ⟨hv', hrec'⟩ := hinv.recorded e' he' r' hr'
    have hpre := prefix_of_recorded hH hv hv' hrec hrec' hroot
    refine ⟨hpre, fun hclosed => ?_⟩
    rcases hpre with hp | hp
    · have hpath := hv.path
      rw [hclosed] at hpath
      have heq : r'.history rt = r.history rt := hpath.closed hv'.path hp
      rw [heq]
    · exact hp
  · intro before call after _ c d hbefore hstep
    exact (performs_kept hl (invariant hl hbefore).good hstep).fork rfl

end

/-! ## A record in capital letters -/

namespace Sample

/-- A digest in capital letters. -/
def capitals (j : Json) : String := String.ofList (List.replicate (Encodable.encode j + 1) 'H')

theorem casefold_capitals (j : Json) : runtime.casefold (capitals j) = runtime.sha256 j := casefold_replicate _ 'H'

theorem capitals_ne (j : Json) : capitals j ≠ runtime.sha256 j := by
  intro h
  have htext := congrArg String.toList h
  rw [capitals, String.toList_ofList, List.replicate_succ] at htext
  have hdigest : (runtime.sha256 j).toList = 'h' :: List.replicate (Encodable.encode j) 'h' := by
    show (String.ofList _).toList = _
    rw [String.toList_ofList, List.replicate_succ]
  rw [hdigest] at htext
  exact absurd (List.cons.inj htext).1 (by decide)

section
variable (rt : Runtime) (capitals : Json → String)

def acknowledged : IncidentLifecycleRecord := extend rt (opened rt) .acknowledged

/-- What the digest of the transition covers. -/
def material : Json :=
  transitionMaterial rt (opened rt).incidentId (opened rt).intakeRootSha256 1 .open .acknowledged (head (opened rt))

/-- The transition with its digest in capital letters. -/
def rewrittenItem : IncidentLifecycleTransition :=
  { newItem rt (opened rt) .acknowledged with transitionSha256 := capitals (material rt) }

def rewritten : IncidentLifecycleRecord := { acknowledged rt with transitions := [rewrittenItem rt capitals] }

end

section
variable {rt : Runtime} {capitals : Json → String} (hl : Lowercase rt) (hc : ∀ j, rt.casefold (capitals j) = rt.sha256 j)
include hl hc

theorem casefold_rewritten :
    rt.casefold (rewrittenItem rt capitals).transitionSha256 = rt.casefold (newItem rt (opened rt) .acknowledged).transitionSha256 :=
  (hc (material rt)).trans (hl.digest (material rt)).symm

theorem rewritten_valid : (rewritten rt capitals).Valid rt := by
  have hacknowledged : (acknowledged rt).Valid rt := extend_valid hl (opened_valid hl) (by simp [opened, openRecord, allowedTransitions])
  refine ⟨hacknowledged.intake, rfl, hacknowledged.root, ?_, rfl⟩
  have hitem : Follows rt (acknowledged rt) 1 .open ZERO_SHA256 (newItem rt (opened rt) .acknowledged) := hacknowledged.path.1
  exact ⟨hitem.incidentId, hitem.root, hitem.sequence, hitem.fromState, hitem.toState, hitem.previous,
    (casefold_rewritten hl hc).trans hitem.digest⟩

/-- Opened, acknowledged, and acknowledged once more in capital letters. -/
theorem rewritten_run : ∃ es b, Along (Performs rt) .fresh es b ∧ ∃ e ∈ es, ∃ e' ∈ es, Event.Returns e (acknowledged rt) ∧
    Event.Returns e' (rewritten rt capitals) := by
  obtain ⟨b1, hopen, hsame⟩ := @openIncident_returns rt _ .fresh intake_valid
  have hg1 : Good b1 := good_fresh.of_chain hsame
  have hopened : (opened rt).Valid rt := opened_valid hl
  have hallowed : IncidentLifecycleState.acknowledged ∈ allowedTransitions (opened rt).state := by
    simp [opened, openRecord, allowedTransitions]
  obtain ⟨b2, hnext, hrecorded⟩ := transition_next hl hg1 hopened nofun hallowed (by simp [opened, openRecord]) (by rw [hsame]; rfl)
  have hrewritten : Recorded rt b2 (rewritten rt capitals) := by
    intro t ht
    obtain rfl := List.mem_singleton.mp ht
    rw [casefold_rewritten hl hc]
    exact hrecorded (newItem rt (opened rt) .acknowledged) (by simp [extend])
  obtain ⟨b3, hreplay⟩ := transition_replay (rewritten_valid hl hc) hrewritten (List.cons_ne_nil _ _)
  refine ⟨[(.open intake, .ok (opened rt)), (.transition (opened rt) .acknowledged, .ok (acknowledged rt)),
    (.transition (rewritten rt capitals) .acknowledged, .ok (rewritten rt capitals))], b3, ⟨b1, hopen, b2, hnext, b3, hreplay, rfl⟩,
    _, List.mem_cons_of_mem _ List.mem_cons_self, _, List.mem_cons_of_mem _ (List.mem_cons_of_mem _ List.mem_cons_self), rfl, rfl⟩

end

theorem rewritten_no_prefix {rt : Runtime} {capitals : Json → String} (hne : ∀ j, capitals j ≠ rt.sha256 j) :
    ¬ (acknowledged rt).transitions <+: (rewritten rt capitals).transitions ∧
      ¬ (rewritten rt capitals).transitions <+: (acknowledged rt).transitions := by
  have hitem : rewrittenItem rt capitals ≠ newItem rt (opened rt) .acknowledged := fun he =>
    hne (material rt) (congrArg IncidentLifecycleTransition.transitionSha256 he)
  have hacknowledged : (acknowledged rt).transitions = [newItem rt (opened rt) .acknowledged] := rfl
  have hrewritten : (rewritten rt capitals).transitions = [rewrittenItem rt capitals] := rfl
  rw [hacknowledged, hrewritten, List.cons_prefix_cons, List.cons_prefix_cons]
  exact ⟨fun h => hitem h.1.symm, fun h => hitem h.1⟩

theorem rewritten_root {rt : Runtime} {capitals : Json → String} :
    (acknowledged rt).intakeRootSha256 = (rewritten rt capitals).intakeRootSha256 := rfl

end Sample

open Sample

/-- The boundary returns a record as it came: two of one root that differ in the letter case of a digest. -/
theorem replay_keeps_case : Function.Injective runtime.sha256 ∧ Lowercase runtime ∧
    ∃ (es : List Event) (b : IncidentLifecycleBoundary), Along (Performs runtime) .fresh es b ∧
      ∃ e ∈ es, ∃ e' ∈ es, ∃ r r', Event.Returns e r ∧ Event.Returns e' r' ∧ r.intakeRootSha256 = r'.intakeRootSha256 ∧
        ¬ r.transitions <+: r'.transitions ∧ ¬ r'.transitions <+: r.transitions := by
  obtain ⟨es, b, hrun, e, he, e', he', hr, hr'⟩ := rewritten_run lowercase casefold_capitals
  exact ⟨injective, lowercase, es, b, hrun, e, he, e', he', _, _, hr, hr', rewritten_root, rewritten_no_prefix capitals_ne⟩

/-- In that run the two have one history. -/
theorem never_forks_acknowledged : (acknowledged runtime).history runtime <+: (rewritten runtime capitals).history runtime ∨
    (rewritten runtime capitals).history runtime <+: (acknowledged runtime).history runtime := by
  obtain ⟨es, b, hrun, e, he, e', he', hr, hr'⟩ := rewritten_run lowercase casefold_capitals
  obtain ⟨-, hpre, -⟩ := never_forks injective lowercase hrun
  exact (hpre e he e' he' _ _ hr hr' (congrArg runtime.casefold rewritten_root)).1

end Aegis.Incidents
