/-
  Aegis.Detection.AlertChain — the store over whole runs of `ingest`.

  An alert is chained to the row a query for the largest detection sequence returns. All alerts of
  one event carry its sequence, and the query returns the first of them:
  - `Sound`, `ingest_sound`: what every call keeps: the event chain, the events an alert refers to,
    and the counters.
  - `ingest_appends`: no call changes or removes an alert.
  - `run_integrity`: the alert chain verifies too, after every run in which an event with two alerts
    is the last to make one, and none makes three.
  - `Sample.tampered`: two rules fire on one event, and one of them on the next.
-/

import Aegis.Assurance.Regression
import Aegis.Detection.Analytics

namespace Aegis.Detection

open Data Checks

variable {rt : Runtime}

/-! ## Chained rows -/

section Linked

variable {α : Type} {link : String → α → String} {stored : α → String} {tampered prior : String} {rows : List α}

/-- Every row carries the digest of itself after the row before. -/
def Linked (link : String → α → String) (stored : α → String) : String → List α → Prop
  | _, [] => True
  | prior, row :: rows => stored row = link prior row ∧ Linked link stored (stored row) rows

theorem verifyChain_ok :
    (∃ h, verifyChain link stored tampered prior rows = .ok h) ↔ Linked link stored prior rows := by
  induction rows generalizing prior with
  | nil => exact ⟨fun _ => trivial, fun _ => ⟨prior, rfl⟩⟩
  | cons row rows ih =>
    unfold verifyChain Linked
    by_cases h : stored row = link prior row
    · rw [if_neg (not_not_intro h), ih]
      exact ⟨fun hrest => ⟨h, hrest⟩, fun hall => hall.2⟩
    · rw [if_pos h]
      exact ⟨fun ⟨_, he⟩ => absurd he nofun, fun hall => absurd hall.1 h⟩

/-- The digest the next row is chained to. -/
def head (stored : α → String) (prior : String) (rows : List α) : String := (rows.getLast?.map stored).getD prior

theorem linked_concat {row : α} :
    Linked link stored prior (rows ++ [row]) ↔ Linked link stored prior rows ∧ stored row = link (head stored prior rows) row := by
  induction rows generalizing prior with
  | nil => simp [Linked, head]
  | cons r rows ih =>
    have hhead : head stored prior (r :: rows) = head stored (stored r) rows := by
      unfold head
      cases rows with
      | nil => rfl
      | cons r' rows => rw [List.getLast?_cons_cons, List.getLast?_cons, Option.map_some, Option.getD_some, Option.getD_some]
    rw [List.cons_append, Linked, Linked, ih, hhead, and_assoc]

end Linked

/-! ## The rows -/

theorem sortOn_self {α κ : Type} [LinearOrder κ] {key : α → κ} {xs : List α} (h : xs.Pairwise fun a b => key a ≤ key b) :
    sortOn key xs = xs := h.insertionSort_eq

variable {rows : List AlertRow} {s : EventStore} {ordered events chosen : List SecurityEvent} {current e : SecurityEvent} {sequence : Nat}
  {v : SignedEventEnvelope} {reg : SourceRegistry} {r : Rule}

theorem latest_mem {b : AlertRow} (h : latest rows = some b) : b ∈ rows := by
  refine List.foldlRecOn (motive := fun best => ∀ b, best = some b → b ∈ rows) rows _ (by simp) (fun best hbest r hr b hb => ?_) b h
  cases best with
  | none => exact Option.some.inj hb ▸ hr
  | some b' =>
    dsimp only at hb
    by_cases hlt : b'.detectionSequence < r.detectionSequence
    · rw [if_pos hlt] at hb
      exact Option.some.inj hb ▸ hr
    · rw [if_neg hlt] at hb
      exact hbest b hb

/-- The last row is the one with the largest sequence, and the only one. -/
def Ready (rows : List AlertRow) : Prop :=
  ∀ before row, rows = before ++ [row] → ∀ r ∈ before, r.detectionSequence < row.detectionSequence

/-- Then the next alert is chained to the last row. -/
theorem Ready.latest (h : Ready rows) :
    ((latest rows).map (·.chainHash)).getD genesis = head (·.chainHash) genesis rows := by
  rcases List.eq_nil_or_concat rows with rfl | ⟨before, row, hrows⟩
  · rfl
  · rw [List.concat_eq_append] at hrows
    subst hrows
    have hlast : Detection.latest (before ++ [row]) = some row := by
      unfold Detection.latest
      rw [List.foldl_append, List.foldl_cons, List.foldl_nil]
      cases hb : before.foldl _ none with
      | none => rfl
      | some b => exact if_pos (h before row rfl b (latest_mem hb))
    rw [hlast, head, List.getLast?_concat]

theorem ready_concat {row : AlertRow} (h : ∀ r ∈ rows, r.detectionSequence < row.detectionSequence) :
    Ready (rows ++ [row]) := by
  intro before row' he r hr
  obtain ⟨rfl, hrow⟩ := List.append_inj' he rfl
  obtain rfl := List.singleton_injective hrow
  exact h r hr

/-! ## What a call does -/

/-- The row that keeps an alert of `events` out. -/
def Blocked (rt : Runtime) (r : Rule) (events : List SecurityEvent) (rows : List AlertRow) : Prop :=
  ∃ row ∈ rows, row.alertId = alertIdOf (dedupKey rt r events) ∨ row.dedupKey = dedupKey rt r events

instance decidableBlocked (r : Rule) (events : List SecurityEvent) (rows : List AlertRow) : Decidable (Blocked rt r events rows) :=
  inferInstanceAs (Decidable (∃ row ∈ rows, _))

/-- What `persist_alert` leaves: the store with one candidate more, and either the alert deduplicated or its row added. -/
theorem persistAlert_cases (rt : Runtime) (r : Rule) (events : List SecurityEvent) (sequence : Nat) (s : EventStore) :
    (Blocked rt r events s.alerts ∧ persistAlert rt r events sequence s =
      ({ s with stats := { s.stats with alertCandidates := s.stats.alertCandidates + 1,
                                        alertsDeduplicated := s.stats.alertsDeduplicated + 1 } }, false)) ∨
    (¬ Blocked rt r events s.alerts ∧ ∃ row : AlertRow, row.ruleId = r.ruleId ∧ row.detectionSequence = sequence ∧
      row.alertId = alertIdOf (dedupKey rt r events) ∧ row.dedupKey = dedupKey rt r events ∧
      row.firstTime = firstTime events ∧ row.lastTime = lastTime events ∧ row.eventRefs = sortOn id (events.map (·.eventId)).dedup ∧
      row.chainHash = alertLink rt (((latest s.alerts).map (·.chainHash)).getD genesis) row.material ∧
      persistAlert rt r events sequence s = ({ s with alerts := s.alerts ++ [row],
                                                      stats := { s.stats with alertCandidates := s.stats.alertCandidates + 1,
                                                                              alertsCreated := s.stats.alertsCreated + 1 } }, true)) := by
  by_cases h : Blocked rt r events s.alerts
  · exact .inl ⟨h, if_pos h⟩
  · exact .inr ⟨h, _, rfl, rfl, rfl, rfl, rfl, rfl, rfl, rfl, if_neg h⟩

/-- A rule that fires for `current` and whose alert is new. -/
def Fresh (rt : Runtime) (ordered : List SecurityEvent) (current : SecurityEvent) (rows : List AlertRow) (r : Rule) : Prop :=
  matched r current ordered ≠ [] ∧ ¬ Blocked rt r (matched r current ordered) rows

instance decidableFresh (ordered : List SecurityEvent) (current : SecurityEvent) (rows : List AlertRow) (r : Rule) :
    Decidable (Fresh rt ordered current rows r) := inferInstanceAs (Decidable (_ ∧ _))

theorem Blocked.append {rows more : List AlertRow} (h : Blocked rt r events rows) :
    Blocked rt r events (rows ++ more) := by
  obtain ⟨row, hrow, hkey⟩ := h
  exact ⟨row, List.mem_append_left _ hrow, hkey⟩

/-- What the rules leave: the events and what was counted of them as it was, and alerts after those there were. -/
structure Evaluated (sequence : Nat) (s s' : EventStore) : Prop where
  events : s'.events = s.events
  alerts : ∃ new, s'.alerts = s.alerts ++ new ∧ ∀ a ∈ new, a.detectionSequence = sequence
  attempted : s'.stats.attempted = s.stats.attempted
  accepted : s'.stats.accepted = s.stats.accepted
  rejected : s'.stats.rejected = s.stats.rejected
  deduplicated : s'.stats.deduplicated = s.stats.deduplicated

theorem Evaluated.refl (sequence : Nat) (s : EventStore) : Evaluated sequence s s :=
  ⟨rfl, ⟨[], by simp, nofun⟩, rfl, rfl, rfl, rfl⟩

theorem Evaluated.trans {s t u : EventStore} (h : Evaluated sequence s t) (h' : Evaluated sequence t u) :
    Evaluated sequence s u := by
  obtain ⟨new, hnew, hseq⟩ := h.alerts
  obtain ⟨new', hnew', hseq'⟩ := h'.alerts
  refine ⟨h'.events.trans h.events, ⟨new ++ new', by rw [hnew', hnew, List.append_assoc], fun a ha => ?_⟩,
    h'.attempted.trans h.attempted, h'.accepted.trans h.accepted, h'.rejected.trans h.rejected, h'.deduplicated.trans h.deduplicated⟩
  rcases List.mem_append.mp ha with ha | ha
  · exact hseq a ha
  · exact hseq' a ha

theorem persistAlert_evaluated (rt : Runtime) (r : Rule) (events : List SecurityEvent) (sequence : Nat) (s : EventStore) :
    Evaluated sequence s (persistAlert rt r events sequence s).1 := by
  rcases persistAlert_cases rt r events sequence s with ⟨-, he⟩ | ⟨-, row, -, hseq, -, -, -, -, -, -, he⟩
  · rw [he]
    exact ⟨rfl, ⟨[], by simp, nofun⟩, rfl, rfl, rfl, rfl⟩
  · rw [he]
    exact ⟨rfl, ⟨[row], rfl, by simpa using hseq⟩, rfl, rfl, rfl, rfl⟩

theorem evaluateRules_evaluated (rt : Runtime) (ordered : List SecurityEvent) (current : SecurityEvent) (sequence : Nat) (rules : List Rule)
    (s : EventStore) : Evaluated sequence s (evaluateRules rt ordered current sequence rules s).1 := by
  induction rules generalizing s with
  | nil => exact .refl sequence s
  | cons r rules ih =>
    unfold evaluateRules
    cases r.groupBy.find? fun x => x ∉ fieldNames with
    | some x => exact .refl sequence s
    | none =>
      dsimp only
      cases matched r current ordered with
      | nil => exact ih s
      | cons e events => exact (persistAlert_evaluated rt r _ sequence s).trans (ih _)

/-! ## What every call keeps -/

/-- The events of an alert are stored, and are of one grouping of its rule. -/
def Grouped (rules : List Rule) (s : EventStore) (a : AlertRow) : Prop :=
  ∃ r ∈ rules, r.ruleId = a.ruleId ∧ ∃ group, ∀ ref ∈ a.eventRefs, ∃ row ∈ s.events, row.event.eventId = ref ∧ groupOf r row.event = group

/-- What holds of every store that calls of `ingest` lead to. -/
structure Sound (rt : Runtime) (rules : List Rule) (s : EventStore) : Prop where
  orders : s.events.Pairwise fun a b => a.storeOrder < b.storeOrder
  linked : Linked (fun prior (r : EventRow) => eventLink rt prior r.event) (·.chainHash) genesis s.events
  sequences : s.alerts.Pairwise fun a b => a.detectionSequence ≤ b.detectionSequence
  detected : ∀ a ∈ s.alerts, ∃ row ∈ s.events, row.storeOrder = a.detectionSequence
  grouped : ∀ a ∈ s.alerts, Grouped rules s a
  attempted : s.stats.attempted = s.stats.accepted + s.stats.rejected + s.stats.deduplicated
  accepted : s.stats.accepted = s.events.length
  candidates : s.stats.alertCandidates = s.stats.alertsCreated + s.stats.alertsDeduplicated
  created : s.stats.alertsCreated = s.alerts.length

theorem sound_empty (rules : List Rule) : Sound rt rules .empty :=
  ⟨.nil, trivial, .nil, nofun, nofun, rfl, rfl, rfl, rfl⟩

theorem mem_ordered : e ∈ s.ordered ↔ ∃ row ∈ s.events, row.event = e := by
  simp [EventStore.ordered]

/-- The next number is larger than those in use. -/
theorem lt_next {rows : List EventRow} (h : rows.Pairwise fun a b => a.storeOrder < b.storeOrder) {r : EventRow} (hr : r ∈ rows) :
    r.storeOrder < ((rows.getLast?.map (·.storeOrder)).getD 0) + 1 := by
  rcases List.eq_nil_or_concat rows with rfl | ⟨before, row, hrows⟩
  · cases hr
  · rw [List.concat_eq_append] at hrows
    subst hrows
    rw [List.getLast?_concat, Option.map_some, Option.getD_some]
    rcases List.mem_append.mp hr with hr | hr
    · have := (List.pairwise_append.mp h).2.2 r hr row List.mem_cons_self
      omega
    · rw [List.mem_singleton.mp hr]
      omega

/-- The last row is that of an event, and no row has a larger number. -/
structure Newest (current : SecurityEvent) (sequence : Nat) (s : EventStore) : Prop where
  row : ∃ row ∈ s.events, row.event = current ∧ row.storeOrder = sequence
  largest : ∀ row ∈ s.events, row.storeOrder ≤ sequence

theorem stages_subset {types : List String} (h : stages types events = some chosen) : chosen ⊆ events := by
  induction types generalizing events chosen with
  | nil =>
    obtain rfl := Option.some.inj h
    exact List.nil_subset _
  | cons type types ih =>
    unfold stages at h
    cases hdrop : events.dropWhile fun e => e.eventType ≠ type with
    | nil =>
      rw [hdrop] at h
      cases h
    | cons x rest =>
      rw [hdrop] at h
      obtain ⟨later, hlater, rfl⟩ := Option.map_eq_some_iff.mp h
      have hsub : x :: rest ⊆ events := fun y hy => (List.dropWhile_suffix _).subset (hdrop ▸ hy)
      exact List.cons_subset.mpr ⟨hsub List.mem_cons_self, fun y hy => hsub (List.mem_cons_of_mem _ (ih hlater hy))⟩

/-- Every event that matches is the one that arrived or one of its grouping and window. -/
theorem matched_relevant (h : e ∈ matched r current ordered) : e = current ∨ e ∈ relevant r current ordered := by
  unfold matched at h
  cases hk : r.kind with
  | single =>
    rw [hk] at h
    dsimp only at h
    split at h
    · exact .inl (List.mem_singleton.mp h)
    · cases h
  | threshold =>
    rw [hk] at h
    dsimp only at h
    split at h
    · cases h
    · exact .inr (List.mem_filter.mp h).1
  | correlation =>
    rw [hk] at h
    dsimp only at h
    cases hs : stages r.eventTypes (relevant r current ordered) with
    | none =>
      rw [hs] at h
      cases h
    | some chosen =>
      rw [hs] at h
      exact .inr (stages_subset hs h)

/-- Every event that matches is stored and of the grouping of the event that arrived. -/
theorem matched_mem (hcurrent : current ∈ ordered)
    (h : e ∈ matched r current ordered) : e ∈ ordered ∧ groupOf r e = groupOf r current := by
  rcases matched_relevant h with rfl | h
  · exact ⟨hcurrent, rfl⟩
  · simp only [relevant, List.mem_filter, decide_eq_true_eq, List.all_eq_true] at h
    obtain ⟨hmem, -, -, hgroup⟩ := h
    exact ⟨hmem, List.filterMap_congr hgroup⟩

theorem Grouped.mono {rules : List Rule} {s s' : EventStore} {a : AlertRow} (hevents : s.events ⊆ s'.events) (h : Grouped rules s a) :
    Grouped rules s' a := by
  obtain ⟨r, hr, hid, group, hall⟩ := h
  refine ⟨r, hr, hid, group, fun ref href => ?_⟩
  obtain ⟨row, hrow, hrest⟩ := hall ref href
  exact ⟨row, hevents hrow, hrest⟩

theorem persistAlert_sound {rules : List Rule} (hr : r ∈ rules) (h : Sound rt rules s) (hnew : Newest current sequence s) :
    Sound rt rules (persistAlert rt r (matched r current s.ordered) sequence s).1 := by
  rcases persistAlert_cases rt r (matched r current s.ordered) sequence s with
    ⟨-, he⟩ | ⟨-, row, hid, hseq, -, -, -, -, hrefs, -, he⟩
  · rw [he]
    exact { h with candidates := by have := h.candidates; dsimp only; omega }
  · rw [he]
    obtain ⟨newest, hnewest, hevent, horder⟩ := hnew.row
    have hcurrent : current ∈ s.ordered := mem_ordered.mpr ⟨newest, hnewest, hevent⟩
    have hgrouped : Grouped rules s row := by
      refine ⟨r, hr, hid.symm, groupOf r current, fun ref href => ?_⟩
      rw [hrefs, mem_sortOn, List.mem_dedup] at href
      obtain ⟨e, hmatched, rfl⟩ := List.mem_map.mp href
      obtain ⟨hstored, hgroup⟩ := matched_mem hcurrent hmatched
      obtain ⟨stored, hrow, rfl⟩ := mem_ordered.mp hstored
      exact ⟨stored, hrow, rfl, hgroup⟩
    have hcandidates := h.candidates
    have hcreated := h.created
    refine { h with sequences := ?_, detected := ?_, grouped := ?_, candidates := ?_, created := ?_ }
    · refine List.pairwise_append.mpr ⟨h.sequences, List.pairwise_singleton _ _, fun a ha b hb => ?_⟩
      obtain ⟨stored, hstored, horder'⟩ := h.detected a ha
      rw [List.mem_singleton.mp hb, hseq, ← horder']
      exact hnew.largest stored hstored
    · intro a ha
      rcases List.mem_append.mp ha with ha | ha
      · exact h.detected a ha
      · rw [List.mem_singleton.mp ha]
        exact ⟨newest, hnewest, horder.trans hseq.symm⟩
    · intro a ha
      rcases List.mem_append.mp ha with ha | ha
      · exact h.grouped a ha
      · rw [List.mem_singleton.mp ha]
        exact hgrouped
    · dsimp only
      omega
    · rw [List.length_append, List.length_singleton]
      dsimp only
      omega

theorem evaluateRules_sound {rules : List Rule} {part : List Rule}
    (hpart : part ⊆ rules) (hordered : s.ordered = ordered) (h : Sound rt rules s)
    (hnew : Newest current sequence s) : Sound rt rules (evaluateRules rt ordered current sequence part s).1 := by
  induction part generalizing s with
  | nil => exact h
  | cons r part ih =>
    have hr : r ∈ rules := hpart List.mem_cons_self
    have hrest : part ⊆ rules := fun x hx => hpart (List.mem_cons_of_mem _ hx)
    unfold evaluateRules
    cases r.groupBy.find? fun x => x ∉ fieldNames with
    | some x => exact h
    | none =>
      dsimp only
      cases hm : matched r current ordered with
      | nil => exact ih hrest hordered h hnew
      | cons e events =>
        have hpersisted := persistAlert_sound hr h hnew
        have hsame := (persistAlert_evaluated rt r (matched r current s.ordered) sequence s).events
        rw [hordered, hm] at hpersisted hsame
        refine ih hrest ?_ hpersisted ⟨?_, ?_⟩
        · rw [EventStore.ordered, hsame]
          exact hordered
        · rw [hsame]
          exact hnew.row
        · rw [hsame]
          exact hnew.largest

/-- What `append` leaves: the event was there already, or its row is the newest. -/
theorem append_cases {rules : List Rule} (e : SecurityEvent) (h : Sound rt rules s) :
    (e.eventId ∈ s.events.map (·.event.eventId) ∧ (append rt e s).2 = none ∧ (append rt e s).1.alerts = s.alerts ∧
      (append rt e s).1.events = s.events ∧ Sound rt rules (append rt e s).1) ∨
    (e.eventId ∉ s.events.map (·.event.eventId) ∧ ∃ order, (append rt e s).2 = some order ∧ (append rt e s).1.alerts = s.alerts ∧
      (∃ hash, (append rt e s).1.events = s.events ++ [⟨order, e, hash⟩]) ∧ (∀ row ∈ s.events, row.storeOrder < order) ∧
      Sound rt rules (append rt e s).1 ∧ Newest e order (append rt e s).1) := by
  have hattempted := h.attempted
  have haccepted := h.accepted
  by_cases hin : e.eventId ∈ s.events.map (·.event.eventId)
  · refine .inl ⟨hin, ?_⟩
    unfold append
    rw [if_pos hin]
    refine ⟨rfl, rfl, rfl, { h with attempted := ?_ }⟩
    dsimp only
    omega
  · refine .inr ⟨hin, ?_⟩
    have hlt := fun row hrow => lt_next (r := row) h.orders hrow
    unfold append
    rw [if_neg hin]
    refine ⟨_, rfl, rfl, ⟨_, rfl⟩, hlt, ?_, ?_⟩
    · refine { h with orders := ?_, linked := ?_, detected := ?_, grouped := ?_, attempted := ?_, accepted := ?_ }
      · refine List.pairwise_append.mpr ⟨h.orders, List.pairwise_singleton _ _, fun a ha b hb => ?_⟩
        rw [List.mem_singleton.mp hb]
        exact hlt a ha
      · exact linked_concat.mpr ⟨h.linked, rfl⟩
      · intro a ha
        obtain ⟨row, hrow, horder⟩ := h.detected a ha
        exact ⟨row, List.mem_append_left _ hrow, horder⟩
      · exact fun a ha => (h.grouped a ha).mono (List.subset_append_left _ _)
      · dsimp only
        omega
      · rw [List.length_append, List.length_singleton]
        dsimp only
        omega
    · refine ⟨⟨_, List.mem_append_right _ List.mem_cons_self, rfl, rfl⟩, fun row hrow => ?_⟩
      rcases List.mem_append.mp hrow with hrow | hrow
      · exact Nat.le_of_lt (hlt row hrow)
      · rw [List.mem_singleton.mp hrow]

theorem ingestEvent_sound {rules : List Rule} (h : Sound rt rules s) : Sound rt rules (ingestEvent rt rules e s).1 := by
  unfold ingestEvent
  rcases append_cases e h with ⟨-, hnone, -, -, hsound⟩ | ⟨-, order, hsome, -, -, -, hsound, hnew⟩
  · generalize append rt e s = appended at hnone hsound ⊢
    obtain ⟨s', o⟩ := appended
    obtain rfl : o = none := hnone
    exact hsound
  · generalize append rt e s = appended at hsome hsound hnew ⊢
    obtain ⟨s', o⟩ := appended
    obtain rfl : o = some order := hsome
    exact evaluateRules_sound (List.Subset.refl _) rfl hsound hnew

/-- Every call keeps the event chain, the references of the alerts, and the counters. -/
theorem ingest_sound {rules : List Rule} {now : Int}
    (h : Sound rt rules s) : Sound rt rules (ingest rt reg rules v now s).1 := by
  unfold ingest
  cases reg.verify rt v now with
  | ok e => exact ingestEvent_sound h
  | error e =>
    have hattempted := h.attempted
    cases e with
    | denied reason => exact { h with attempted := by dsimp only; omega }
    | typeError => exact h
    | attributeError name => exact h

/-- No call changes or removes an alert. -/
theorem ingest_appends {rules : List Rule} {now : Int} : s.alerts <+: (ingest rt reg rules v now s).1.alerts := by
  unfold ingest
  cases reg.verify rt v now with
  | error e => cases e <;> exact List.prefix_refl _
  | ok e =>
    have happend : (append rt e s).1.alerts = s.alerts := by
      unfold append
      split <;> rfl
    dsimp only
    unfold ingestEvent
    generalize append rt e s = appended at happend ⊢
    obtain ⟨s', o⟩ := appended
    rw [← happend]
    cases o with
    | none => exact List.prefix_refl _
    | some order =>
      obtain ⟨new, hnew, -⟩ := (evaluateRules_evaluated rt s'.ordered e order rules s').alerts
      exact ⟨new, hnew.symm⟩

/-! ## The alert chain -/

/-- Every alert carries the digest of itself after the alert before. -/
def AlertsLinked (rt : Runtime) (rows : List AlertRow) : Prop :=
  Linked (fun prior (r : AlertRow) => alertLink rt prior r.material) (·.chainHash) genesis rows

theorem verifyEventChain_ok {rules : List Rule} (h : Sound rt rules s) : ∃ hash, verifyEventChain rt s = .ok hash := by
  unfold verifyEventChain
  rw [sortOn_self (h.orders.imp fun hlt => Nat.le_of_lt hlt), verifyChain_ok]
  exact h.linked

theorem verifyAlertChain_ok {rules : List Rule} (h : Sound rt rules s) :
    (∃ hash, verifyAlertChain rt s = .ok hash) ↔ AlertsLinked rt s.alerts := by
  unfold verifyAlertChain
  rw [sortOn_self h.sequences, verifyChain_ok]
  rfl

/-- The rules that make an alert for an event. -/
def freshRules (rt : Runtime) (rules : List Rule) (ordered : List SecurityEvent) (current : SecurityEvent) (rows : List AlertRow) :
    List Rule := rules.filter fun r => Fresh rt ordered current rows r

/-- Of at most two new alerts, the first is chained to the last row there was, and the second to the first. -/
theorem evaluateRules_linked {n : Nat} {rules : List Rule} (hfresh : (freshRules rt rules ordered current s.alerts).length ≤ n) (hn : n ≤ 2)
    (hready : 0 < n → Ready s.alerts) (holder : n = 2 → ∀ a ∈ s.alerts, a.detectionSequence < sequence)
    (h : AlertsLinked rt s.alerts) : AlertsLinked rt (evaluateRules rt ordered current sequence rules s).1.alerts := by
  induction rules generalizing s n with
  | nil => exact h
  | cons r rules ih =>
    unfold evaluateRules
    cases r.groupBy.find? fun x => x ∉ fieldNames with
    | some x => exact h
    | none =>
      have hrest : (freshRules rt rules ordered current s.alerts).length ≤ (freshRules rt (r :: rules) ordered current s.alerts).length :=
        ((List.sublist_cons_self r rules).filter _).length_le
      dsimp only
      cases hm : matched r current ordered with
      | nil => exact ih (hrest.trans hfresh) hn hready holder h
      | cons e events =>
        dsimp only
        rw [← hm]
        rcases persistAlert_cases rt r (matched r current ordered) sequence s with
          ⟨-, he⟩ | ⟨hnew, row, -, hseq, -, -, -, -, -, hhash, he⟩
        · rw [he]
          exact ih (hrest.trans hfresh) hn hready holder h
        · -- the alert is new: one rule less is left to fire
          have hfires : Fresh rt ordered current s.alerts r := ⟨by rw [hm]; exact List.cons_ne_nil _ _, hnew⟩
          have hcount : (freshRules rt (r :: rules) ordered current s.alerts).length =
              (freshRules rt rules ordered current s.alerts).length + 1 := by
            unfold freshRules
            rw [List.filter_cons_of_pos (by simpa using hfires), List.length_cons]
          have hfewer : (freshRules rt rules ordered current (s.alerts ++ [row])).length ≤
              (freshRules rt rules ordered current s.alerts).length := by
            refine (List.monotone_filter_right rules fun x hx => ?_).length_le
            have hx' : Fresh rt ordered current (s.alerts ++ [row]) x := by simpa using hx
            exact decide_eq_true ⟨hx'.1, fun hb => hx'.2 hb.append⟩
          have hlinked : AlertsLinked rt (s.alerts ++ [row]) := by
            refine linked_concat.mpr ⟨h, ?_⟩
            rw [hhash, (hready (by omega)).latest]
          rw [he]
          refine ih (n := n - 1) (by dsimp only; omega) (by omega) (fun hpos => ?_) (fun htwo => by omega) hlinked
          exact ready_concat fun a ha => hseq ▸ holder (by omega) a ha

/-- An event that makes an alert comes after alerts of different events, and makes two at most. -/
def Quiet (rt : Runtime) (rules : List Rule) (e : SecurityEvent) (s : EventStore) : Prop :=
  e.eventId ∈ s.events.map (·.event.eventId) ∨ freshRules rt rules (append rt e s).1.ordered e s.alerts = [] ∨
    ((s.alerts.map (·.detectionSequence)).Nodup ∧ (freshRules rt rules (append rt e s).1.ordered e s.alerts).length ≤ 2)

theorem ready_of_nodup (hle : rows.Pairwise fun a b => a.detectionSequence ≤ b.detectionSequence)
    (hn : (rows.map (·.detectionSequence)).Nodup) : Ready rows := by
  intro before row he r hr
  subst he
  have hle' := (List.pairwise_append.mp hle).2.2 r hr row List.mem_cons_self
  have hne := (List.pairwise_append.mp (List.pairwise_map.mp hn)).2.2 r hr row List.mem_cons_self
  omega

theorem ingestEvent_linked {rules : List Rule} (hs : Sound rt rules s) (hq : Quiet rt rules e s)
    (h : AlertsLinked rt s.alerts) : AlertsLinked rt (ingestEvent rt rules e s).1.alerts := by
  rcases append_cases e hs with ⟨-, hnone, halerts, -, -⟩ | ⟨hin, order, hsome, halerts, -, hlt, -, -⟩
  · unfold ingestEvent
    generalize append rt e s = appended at hnone halerts ⊢
    obtain ⟨s', o⟩ := appended
    obtain rfl : o = none := hnone
    dsimp only at halerts ⊢
    rw [halerts]
    exact h
  · have hfresh := hq.resolve_left hin
    unfold ingestEvent
    generalize append rt e s = appended at hsome halerts hfresh ⊢
    obtain ⟨s', o⟩ := appended
    obtain rfl : o = some order := hsome
    dsimp only at halerts hfresh ⊢
    rw [← halerts] at h hfresh
    rcases hfresh with hnil | ⟨hnodup, htwo⟩
    · exact evaluateRules_linked (n := 0) (by rw [hnil]; rfl) (by omega) (fun hpos => absurd hpos (Nat.lt_irrefl 0)) nofun h
    · have hsequences := hs.sequences
      rw [← halerts] at hsequences
      refine evaluateRules_linked (n := 2) htwo (Nat.le_refl 2) (fun _ => ready_of_nodup hsequences hnodup) (fun _ a ha => ?_) h
      obtain ⟨row, hrow, horder⟩ := hs.detected a (halerts ▸ ha)
      rw [← horder]
      exact hlt row hrow

/-! ## Whole runs -/

/-- The store after a sequence of calls, each an envelope and the time it arrives at. -/
def run (rt : Runtime) (reg : SourceRegistry) (rules : List Rule) : EventStore → List (SignedEventEnvelope × Int) → EventStore
  | s, [] => s
  | s, (v, now) :: calls => run rt reg rules (ingest rt reg rules v now s).1 calls

/-- Every call of a run that brings an event is a quiet one. -/
def QuietRun (rt : Runtime) (reg : SourceRegistry) (rules : List Rule) : EventStore → List (SignedEventEnvelope × Int) → Prop
  | _, [] => True
  | s, (v, now) :: calls =>
    (∀ e, reg.verify rt v now = .ok e → Quiet rt rules e s) ∧ QuietRun rt reg rules (ingest rt reg rules v now s).1 calls

/-- What both verifications, the alerts and the counters of a store are to show. -/
structure Integrity (rt : Runtime) (rules : List Rule) (s : EventStore) : Prop where
  eventChain : ∃ hash, verifyEventChain rt s = .ok hash
  alertChain : ∃ hash, verifyAlertChain rt s = .ok hash
  grouped : ∀ a ∈ s.alerts, Grouped rules s a
  attempted : s.stats.attempted = s.stats.accepted + s.stats.rejected + s.stats.deduplicated
  accepted : s.stats.accepted = s.events.length
  candidates : s.stats.alertCandidates = s.stats.alertsCreated + s.stats.alertsDeduplicated
  created : s.stats.alertsCreated = s.alerts.length

section Runs

variable {reg : SourceRegistry} {rules : List Rule}

theorem run_sound (h : Sound rt rules s) (calls : List (SignedEventEnvelope × Int)) :
    Sound rt rules (run rt reg rules s calls) := by
  induction calls generalizing s with
  | nil => exact h
  | cons call calls ih => exact ih (ingest_sound h)

theorem run_append (s : EventStore) (calls more : List (SignedEventEnvelope × Int)) :
    run rt reg rules s (calls ++ more) = run rt reg rules (run rt reg rules s calls) more := by
  induction calls generalizing s with
  | nil => rfl
  | cons call calls ih => exact ih _

theorem run_prefix (s : EventStore) (calls : List (SignedEventEnvelope × Int)) : s.alerts <+: (run rt reg rules s calls).alerts := by
  induction calls generalizing s with
  | nil => exact List.prefix_refl _
  | cons call calls ih => exact ingest_appends.trans (ih _)

theorem run_linked (hs : Sound rt rules s) (h : AlertsLinked rt s.alerts) {calls : List (SignedEventEnvelope × Int)}
    (hq : QuietRun rt reg rules s calls) : AlertsLinked rt (run rt reg rules s calls).alerts := by
  induction calls generalizing s with
  | nil => exact h
  | cons call calls ih =>
    obtain ⟨v, now⟩ := call
    obtain ⟨hquiet, hrest⟩ := hq
    refine ih (ingest_sound hs) ?_ hrest
    unfold ingest
    cases hv : reg.verify rt v now with
    | ok e => exact ingestEvent_linked hs (hquiet e hv) h
    | error e => cases e <;> exact h

/-- In a run of quiet calls every store keeps its integrity, and no alert is ever changed or removed. -/
theorem run_integrity {calls : List (SignedEventEnvelope × Int)} (hq : QuietRun rt reg rules .empty calls) :
    Integrity rt rules (run rt reg rules .empty calls) ∧ ∀ before after, calls = before ++ after →
      (run rt reg rules .empty before).alerts <+: (run rt reg rules .empty calls).alerts := by
  have hsound : Sound rt rules (run rt reg rules .empty calls) := run_sound (sound_empty rules) calls
  have hlinked : AlertsLinked rt (run rt reg rules .empty calls).alerts := run_linked (sound_empty rules) trivial hq
  refine ⟨⟨verifyEventChain_ok hsound, (verifyAlertChain_ok hsound).mpr hlinked, hsound.grouped, hsound.attempted, hsound.accepted,
    hsound.candidates, hsound.created⟩, fun before after he => ?_⟩
  rw [he, run_append]
  exact run_prefix _ after

end Runs

/-! ## Two rules fire on one event -/

namespace Sample

open Agentic (hex)

def rule (id domain : String) (types : List String) : Rule where
  ruleId := id
  title := ""
  version := 1
  enabled := true
  severity := "high"
  domain := domain
  kind := .single
  eventTypes := types
  windowSeconds := 300
  groupBy := ["tenant_ref"]
  threshold := 1
  responseCategory := ""

def injection : Rule := rule "injection" "application_agent" ["PROMPT_INJECTION_BLOCKED"]

def abuse : Rule := rule "abuse" "application_agent" ["PROMPT_INJECTION_BLOCKED", "TOOL_DENIED"]

/-- Two rules for what happens here, and one for every other domain. -/
def rules : List Rule :=
  [injection, abuse] ++ (domains.tail.map fun domain => rule ("none." ++ domain.map fun c => if c = '_' then '-' else c) domain ["NEVER_SEEN"])

def event (id type : String) (time sequence : Int) : SecurityEvent where
  schemaVersion := eventSchema
  eventId := id
  eventTime := time
  sourceId := "agent"
  sourceKind := "AGENT"
  eventType := type
  category := "application_agent"
  action := "BLOCK"
  outcome := "DENIED"
  severity := "high"
  reasonCode := "POLICY"
  tenantRef := "ref:tenant"
  principalRef := "ref:principal"
  workloadRef := "ref:workload"
  namespaceRef := "ref:namespace"
  resourceRef := "ref:resource"
  requestRef := "ref:request"
  sessionRef := "ref:session"
  traceRef := "ref:trace"
  policyVersion := Detection.policyVersion
  sequence := sequence
  provenanceClassification := "DETERMINISTIC_FIXTURE"
  attributes := []

def first : SecurityEvent := event "event-1" "PROMPT_INJECTION_BLOCKED" 1000 1

def second : SecurityEvent := event "event-2" "TOOL_DENIED" 2000 2

def dedup (r : Rule) (bucket : Int) : Json :=
  .obj [("bucket", .int bucket), ("group", .arr [.str "ref:tenant"]), ("rule", .str r.ruleId)]

/-- The alert of one event whose dedup key is `c` all over. -/
def alert (c : Char) (r : Rule) (e : SecurityEvent) (order : Nat) : Json :=
  AlertRow.material { alertId := alertIdOf (hex c), ruleId := r.ruleId, dedupKey := "", severity := "high", firstTime := e.eventTime,
                      lastTime := e.eventTime, eventRefs := [e.eventId], detectionSequence := order, chainHash := "" }

def chained (kind prior : String) (j : Json) : Json := .arr [.str kind, .str prior, j]

/-- What is hashed, in the order it is; the third alert is chained to the first. -/
def documents : List Json :=
  [first.toDict, chained "p11f-event-chain" genesis first.toDict, dedup injection 3, chained "p11f-alert-chain" genesis (alert '2' injection first 1),
    dedup abuse 3, chained "p11f-alert-chain" (hex '3') (alert '4' abuse first 1), second.toDict,
    chained "p11f-event-chain" (hex '1') second.toDict, dedup abuse 6, chained "p11f-alert-chain" (hex '3') (alert '8' abuse second 2)]

def runtime : Runtime where
  sha256 := Assurance.tabledDigest documents
  hmac _ := Assurance.tabledDigest documents
  sha256_not_blank := Assurance.tabledDigest_not_blank documents
  canonicalBytes _ := 700
  sensitiveMaterialFree _ := true
  verifies _ _ _ := true

def registry : SourceRegistry where
  policies := [⟨"agent", "AGENT", "key", ["application_agent"], ["DETERMINISTIC_FIXTURE"]⟩]
  nodup := by decide

def call (e : SecurityEvent) : SignedEventEnvelope × Int :=
  (⟨e.sourceId, e.eventId, e.eventTime, e.sequence, runtime.sha256 e.toDict, e.toDict, "signature"⟩, e.eventTime)

/-- The rules are accepted and both events are, and the alert chain does not verify. -/
theorem tampered : loadRules rules = .ok () ∧
    (ingest runtime registry rules (call first).1 1000 .empty).2 = .ok (.accepted ["injection", "abuse"]) ∧
    verifyAlertChain runtime (run runtime registry rules .empty [call first, call second]) = .error (.denied "ALERT_CHAIN_TAMPERED") := by
  decide +kernel

theorem quiet : QuietRun runtime registry rules .empty [call first] := by
  refine ⟨fun e he => ?_, trivial⟩
  have hverified : registry.verify runtime (call first).1 (call first).2 = .ok first := by
    decide +kernel
  obtain rfl : first = e := Except.ok.inj (hverified.symm.trans he)
  refine .inr (.inr ⟨by decide, ?_⟩)
  decide +kernel

end Sample

open Sample in
theorem run_integrity_first : Integrity runtime rules (run runtime registry rules .empty [call first]) :=
  (run_integrity quiet).1

end Aegis.Detection
