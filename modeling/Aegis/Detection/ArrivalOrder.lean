/-
  Aegis.Detection.ArrivalOrder — what is detected of events that arrive in any order.

  The rules are evaluated once for an event, when its row is new, against what is not later:
  - `matched_of_completes`: an event that is the latest of what a rule asks for makes the rule fire.
  - `evaluateRules_made`, `evaluateRules_blocked`: whatever fires leaves an alert of its key.
  - `detected_of_punctual`: so in a run without crashes, where events that complete something are
    the latest of it and the alert of the key overlaps it, everything a rule asks for is detected.
  - `Sample.late`: the earlier of two events arrives last, and the threshold is met unseen.
-/

import Aegis.Detection.AlertChain

namespace Aegis.Detection

open Data Checks

section Deliveries

variable {rt : Runtime} {rules : List Rule}

/-! ## What is asked, and what is detected -/

/-- The events a rule asks for. -/
def Asks (r : Rule) (es : List SecurityEvent) : Prop :=
  es.Nodup ∧ match r.kind with
    | .single => ∃ e, es = [e] ∧ e.eventType ∈ r.eventTypes
    | .threshold => r.threshold ≤ es.length ∧ ∀ e ∈ es, e.eventType ∈ r.eventTypes
    | .correlation => es.map (·.eventType) = r.eventTypes ∧ es.Pairwise fun e e' => e.eventTime ≤ e'.eventTime

/-- An alert of a rule for a grouping. -/
def AlertOf (r : Rule) (group : List Json) (s : EventStore) (a : AlertRow) : Prop :=
  a.ruleId = r.ruleId ∧ ∀ ref ∈ a.eventRefs, ∃ row ∈ s.events, row.event.eventId = ref ∧ groupOf r row.event = group

/-- Whatever a rule asks for, stored in one grouping and within one window of the rule's length, has an alert that overlaps the
    window. -/
def Detected (rules : List Rule) (s : EventStore) : Prop :=
  ∀ r ∈ rules, ∀ es, Asks r es → (∀ e ∈ es, e ∈ s.events.map (·.event)) → ∀ group, (∀ e ∈ es, groupOf r e = group) →
    ∀ start, (∀ e ∈ es, start ≤ e.eventTime ∧ e.eventTime ≤ start + r.windowSeconds) →
      ∃ a ∈ s.alerts, AlertOf r group s a ∧ a.firstTime ≤ start + r.windowSeconds ∧ start ≤ a.lastTime

/-! ## Deliveries -/

/-- A verified event reaches the collector, which stores it and evaluates the rules, or fails between the two. -/
inductive Delivery where
  | ingest (e : SecurityEvent)
  | crash (e : SecurityEvent)

def deliver (rt : Runtime) (rules : List Rule) (d : Delivery) (s : EventStore) : EventStore :=
  match d with
  | .ingest e => (ingestEvent rt rules e s).1
  | .crash e => (append rt e s).1

def deliverAll (rt : Runtime) (rules : List Rule) (s : EventStore) : List Delivery → EventStore
  | [] => s
  | d :: ds => deliverAll rt rules (deliver rt rules d s) ds

/-- The match of a rule for an event that is stored next. -/
def matchAt (rt : Runtime) (r : Rule) (e : SecurityEvent) (s : EventStore) : List SecurityEvent :=
  matched r e (append rt e s).1.ordered

/-- `e` is the last to arrive of events a rule asks for, in one grouping and within one window. -/
structure Completes (r : Rule) (e : SecurityEvent) (s : EventStore) (es : List SecurityEvent) : Prop where
  asks : Asks r es
  mem : e ∈ es
  stored : ∀ x ∈ es, x = e ∨ x ∈ s.events.map (·.event)
  grouped : ∀ x ∈ es, groupOf r x = groupOf r e
  within : ∀ x ∈ es, ∀ y ∈ es, y.eventTime ≤ x.eventTime + r.windowSeconds

/-- The range of an alert and that of the events overlap. -/
def Overlaps (first last : Int) (es : List SecurityEvent) : Prop :=
  (∃ x ∈ es, first ≤ x.eventTime) ∧ ∃ x ∈ es, x.eventTime ≤ last

/-- An event that is new comes in time. Of what it completes it is the latest, and the stages are in the order of the store;
    the alert that has the key of the match already, or else the match, overlaps what it completes; and the alerts of
    different rules have different names. -/
structure InTime (rt : Runtime) (rules : List Rule) (e : SecurityEvent) (s : EventStore) : Prop where
  latest : ∀ r ∈ rules, ∀ es, Completes r e s es → ∀ x ∈ es, x.eventTime ≤ e.eventTime
  inOrder : ∀ r ∈ rules, ∀ es, Completes r e s es → r.kind = .correlation → es.Sublist (append rt e s).1.ordered
  taken : ∀ r ∈ rules, ∀ es, Completes r e s es → ∀ a ∈ s.alerts,
    a.alertId = alertIdOf (dedupKey rt r (matchAt rt r e s)) ∨ a.dedupKey = dedupKey rt r (matchAt rt r e s) →
      AlertOf r (groupOf r e) s a ∧ Overlaps a.firstTime a.lastTime es
  ends : ∀ r ∈ rules, ∀ es, Completes r e s es → r.kind = .correlation → ∃ x ∈ es, x.eventTime ≤ lastTime (matchAt rt r e s)
  named : ∀ r ∈ rules, ∀ r' ∈ rules, matchAt rt r e s ≠ [] → matchAt rt r' e s ≠ [] →
    alertIdOf (dedupKey rt r (matchAt rt r e s)) = alertIdOf (dedupKey rt r' (matchAt rt r' e s)) → r = r'

/-- A delivery of an event that is stored already, or one that is evaluated and in time. -/
def Punctual (rt : Runtime) (rules : List Rule) (s : EventStore) : Delivery → Prop
  | .ingest e => e.eventId ∈ s.events.map (·.event.eventId) ∨ InTime rt rules e s
  | .crash e => e.eventId ∈ s.events.map (·.event.eventId)

def AllPunctual (rt : Runtime) (rules : List Rule) : EventStore → List Delivery → Prop
  | _, [] => True
  | s, d :: ds => Punctual rt rules s d ∧ AllPunctual rt rules (deliver rt rules d s) ds

/-! ## Matching -/

/-- `group_by` names fields of an event. -/
def GroupsByFields (r : Rule) : Prop := ∀ x ∈ r.groupBy, x ∈ fieldNames

variable {e current e' : SecurityEvent} {r : Rule} {es events : List SecurityEvent} {s : EventStore} {a : AlertRow}

theorem getattr_isSome {x : String} (hx : x ∈ fieldNames) : (e.getattr x).isSome = true := by
  unfold SecurityEvent.getattr
  by_cases ha : x = "attributes"
  · rw [if_pos ha]
    rfl
  · rw [if_neg ha, Option.isSome_map, List.find?_isSome]
    have hnames : e.fields.map (·.1) ++ ["attributes"] = fieldNames := rfl
    rw [← hnames, List.mem_append, List.mem_singleton] at hx
    obtain ⟨f, hf, hname⟩ := List.mem_map.mp (hx.resolve_right ha)
    exact ⟨f, hf, by simpa using hname⟩

/-- Events of one grouping agree on every field they are grouped by. -/
theorem getattr_of_group (hr : GroupsByFields r) (h : groupOf r e = groupOf r e') :
    ∀ x ∈ r.groupBy, e.getattr x = e'.getattr x := by
  unfold groupOf at h
  unfold GroupsByFields at hr
  generalize r.groupBy = names at h hr ⊢
  induction names with
  | nil => exact nofun
  | cons x xs ih =>
    obtain ⟨v, hv⟩ := Option.isSome_iff_exists.mp (getattr_isSome (e := e) (hr x List.mem_cons_self))
    obtain ⟨v', hv'⟩ := Option.isSome_iff_exists.mp (getattr_isSome (e := e') (hr x List.mem_cons_self))
    rw [List.filterMap_cons_some hv, List.filterMap_cons_some hv'] at h
    obtain ⟨hhead, htail⟩ := List.cons.inj h
    intro y hy
    rcases List.mem_cons.mp hy with rfl | hy
    · rw [hv, hv', hhead]
    · exact ih htail (fun z hz => hr z (List.mem_cons_of_mem _ hz)) y hy

/-- The first event of a type comes no later than any other, and leaves what comes after that one. -/
theorem dropWhile_of_sublist {es xs : List SecurityEvent} (h : (e :: es).Sublist xs) :
    ∃ x rest, (xs.dropWhile fun y => y.eventType ≠ e.eventType) = x :: rest ∧ es.Sublist rest := by
  induction xs with
  | nil => cases h
  | cons x xs ih =>
    by_cases hx : x.eventType = e.eventType
    · refine ⟨x, xs, by simp [hx], ?_⟩
      cases h with
      | cons _ h => exact (List.sublist_cons_self e es).trans h
      | cons_cons _ h => exact h
    · have hrest : (e :: es).Sublist xs := by
        cases h with
        | cons _ h => exact h
        | cons_cons _ h => exact absurd rfl hx
      obtain ⟨y, rest, hdrop, hsub⟩ := ih hrest
      exact ⟨y, rest, by simpa [List.dropWhile_cons, hx] using hdrop, hsub⟩

/-- The stages are found where they occur at all. -/
theorem stages_of_sublist {es xs : List SecurityEvent} (h : es.Sublist xs) :
    ∃ chosen, stages (es.map (·.eventType)) xs = some chosen ∧ chosen.length = es.length := by
  induction es generalizing xs with
  | nil => exact ⟨[], rfl, rfl⟩
  | cons e es ih =>
    obtain ⟨x, rest, hdrop, hsub⟩ := dropWhile_of_sublist h
    obtain ⟨chosen, hchosen, hlength⟩ := ih hsub
    refine ⟨x :: chosen, ?_, by rw [List.length_cons, List.length_cons, hlength]⟩
    rw [List.map_cons, stages, hdrop]
    dsimp only
    rw [hchosen]
    rfl

/-- What an event completes is all stored when its row is. -/
theorem Completes.ordered (h : Completes r e s es)
    (hin : e.eventId ∉ s.events.map (·.event.eventId)) : ∀ x ∈ es, x ∈ (append rt e s).1.ordered := by
  intro x hx
  rw [mem_ordered]
  unfold append
  rw [if_neg hin]
  rcases h.stored x hx with rfl | hstored
  · exact ⟨_, List.mem_append_right _ List.mem_cons_self, rfl⟩
  · obtain ⟨row, hrow, hevent⟩ := List.mem_map.mp hstored
    exact ⟨row, List.mem_append_left _ hrow, hevent⟩

/-- An event that is the latest of what it completes makes the rule fire. -/
theorem matched_of_completes (hr : GroupsByFields r)
    (hin : e.eventId ∉ s.events.map (·.event.eventId)) (h : Completes r e s es) (hlatest : ∀ x ∈ es, x.eventTime ≤ e.eventTime)
    (horder : r.kind = .correlation → es.Sublist (append rt e s).1.ordered) :
    matchAt rt r e s ≠ [] ∧ (r.kind ≠ .correlation → e ∈ matchAt rt r e s) := by
  have hrelevant : ∀ x ∈ es, x ∈ relevant r e (append rt e s).1.ordered := by
    intro x hx
    have hwithin := h.within x hx e h.mem
    rw [relevant, List.mem_filter, decide_eq_true_eq, List.all_eq_true]
    refine ⟨h.ordered hin x hx, by omega, hlatest x hx, fun name hname => ?_⟩
    exact decide_eq_true (getattr_of_group hr (h.grouped x hx) name hname)
  have hasks := h.asks
  unfold Asks at hasks
  obtain ⟨hnodup, hasks⟩ := hasks
  unfold matchAt matched
  cases hk : r.kind with
  | single =>
    rw [hk] at hasks
    obtain ⟨x, rfl, hx⟩ := hasks
    obtain rfl := List.mem_singleton.mp h.mem
    simp [hx]
  | threshold =>
    rw [hk] at hasks
    obtain ⟨hcount, htypes⟩ := hasks
    have hsub : es ⊆ (relevant r e (append rt e s).1.ordered).filter fun x => x.eventType ∈ r.eventTypes := fun x hx =>
      List.mem_filter.mpr ⟨hrelevant x hx, decide_eq_true (htypes x hx)⟩
    have hlength := (hnodup.subperm hsub).length_le
    dsimp only
    rw [if_neg (by omega)]
    exact ⟨List.ne_nil_of_mem (hsub h.mem), fun _ => hsub h.mem⟩
  | correlation =>
    rw [hk] at hasks
    have hsub : es.Sublist (relevant r e (append rt e s).1.ordered) := by
      have hfilter : es.filter (fun x => decide (e.eventTime - r.windowSeconds ≤ x.eventTime ∧ x.eventTime ≤ e.eventTime ∧
          r.groupBy.all fun name => x.getattr name = e.getattr name)) = es :=
        List.filter_eq_self.mpr fun x hx => (List.mem_filter.mp (hrelevant x hx)).2
      rw [← hfilter]
      exact (horder hk).filter _
    obtain ⟨chosen, hchosen, hlength⟩ := stages_of_sublist hsub
    rw [hasks.1] at hchosen
    refine ⟨?_, fun hne => absurd rfl hne⟩
    dsimp only
    rw [hchosen, Option.getD_some, ne_eq, ← List.length_eq_zero_iff, hlength, List.length_eq_zero_iff]
    exact List.ne_nil_of_mem h.mem

/-! ## What is made of a match -/

/-- The alert of a match. -/
structure Made (rt : Runtime) (r : Rule) (events : List SecurityEvent) (a : AlertRow) : Prop where
  rule : a.ruleId = r.ruleId
  alertId : a.alertId = alertIdOf (dedupKey rt r events)
  key : a.dedupKey = dedupKey rt r events
  first : a.firstTime = firstTime events
  last : a.lastTime = lastTime events
  refs : a.eventRefs = sortOn id (events.map (·.eventId)).dedup

/-- Every alert there is after the rules were evaluated was there, or is of a rule that matched. -/
theorem evaluateRules_made {ordered : List SecurityEvent} {sequence : Nat}
    (h : a ∈ (evaluateRules rt ordered current sequence rules s).1.alerts) :
    a ∈ s.alerts ∨ ∃ r ∈ rules, matched r current ordered ≠ [] ∧ Made rt r (matched r current ordered) a := by
  induction rules generalizing s with
  | nil => exact .inl h
  | cons r rules ih =>
    have hlater : (a ∈ s.alerts ∨ ∃ r' ∈ rules, matched r' current ordered ≠ [] ∧ Made rt r' (matched r' current ordered) a) →
        a ∈ s.alerts ∨ ∃ r' ∈ r :: rules, matched r' current ordered ≠ [] ∧ Made rt r' (matched r' current ordered) a :=
      Or.imp_right fun ⟨r', hr', hmade⟩ => ⟨r', List.mem_cons_of_mem _ hr', hmade⟩
    unfold evaluateRules at h
    cases hg : r.groupBy.find? fun x => x ∉ fieldNames with
    | some x =>
      rw [hg] at h
      exact .inl h
    | none =>
      rw [hg] at h
      dsimp only at h
      cases hm : matched r current ordered with
      | nil =>
        rw [hm] at h
        exact hlater (ih h)
      | cons e events =>
        rw [hm] at h
        dsimp only at h
        rw [← hm] at h
        rcases persistAlert_cases rt r (matched r current ordered) sequence s with
          ⟨-, he⟩ | ⟨-, row, hrule, -, hid, hkey, hfirst, hlast, hrefs, -, he⟩
        · rw [he] at h
          have hthere := ih h
          exact hlater hthere
        · rw [he] at h
          rcases ih h with hin | hmade
          · rcases List.mem_append.mp hin with hin | hin
            · exact .inl hin
            · rw [List.mem_singleton.mp hin]
              exact .inr ⟨r, List.mem_cons_self, by rw [hm]; exact List.cons_ne_nil _ _, hrule, hid, hkey, hfirst, hlast, hrefs⟩
          · exact hlater (.inr hmade)

/-- A rule that matched has an alert of its key afterwards. -/
theorem evaluateRules_blocked {ordered : List SecurityEvent} (sequence : Nat) (s : EventStore)
    (hfields : ∀ r ∈ rules, GroupsByFields r) (hr : r ∈ rules) (hm : matched r current ordered ≠ []) :
    Blocked rt r (matched r current ordered) (evaluateRules rt ordered current sequence rules s).1.alerts := by
  induction rules generalizing s with
  | nil => cases hr
  | cons r' rules ih =>
    have hfields' : ∀ r ∈ rules, GroupsByFields r := fun x hx => hfields x (List.mem_cons_of_mem _ hx)
    have hnone : (r'.groupBy.find? fun x => x ∉ fieldNames) = none := by
      rw [List.find?_eq_none]
      intro x hx
      simpa using hfields r' List.mem_cons_self x hx
    unfold evaluateRules
    rw [hnone]
    dsimp only
    rcases List.mem_cons.mp hr with rfl | hr
    · cases hevents : matched r current ordered with
      | nil => exact absurd hevents hm
      | cons e events =>
        dsimp only
        rw [← hevents]
        have hpersisted : Blocked rt r (matched r current ordered) (persistAlert rt r (matched r current ordered) sequence s).1.alerts := by
          rcases persistAlert_cases rt r (matched r current ordered) sequence s with
            ⟨hblocked, he⟩ | ⟨-, row, -, -, hid, -, -, -, -, -, he⟩
          · rw [he]
            exact hblocked
          · rw [he]
            exact ⟨row, List.mem_append_right _ List.mem_cons_self, .inl hid⟩
        obtain ⟨new, hnew, -⟩ := (evaluateRules_evaluated rt ordered current sequence rules
          (persistAlert rt r (matched r current ordered) sequence s).1).alerts
        rw [hnew]
        exact hpersisted.append
    · cases matched r' current ordered with
      | nil => exact ih _ hfields' hr
      | cons e events => exact ih _ hfields' hr

/-! ## Whole runs -/

theorem AlertOf.mono {group : List Json} {s s' : EventStore} (hevents : s.events ⊆ s'.events)
    (h : AlertOf r group s a) : AlertOf r group s' a := by
  refine ⟨h.1, fun ref href => ?_⟩
  obtain ⟨row, hrow, hrest⟩ := h.2 ref href
  exact ⟨row, hevents hrow, hrest⟩

/-- A range that overlaps the events overlaps every window that holds them. -/
theorem Overlaps.window {first last start length : Int} (h : Overlaps first last es)
    (hwindow : ∀ e ∈ es, start ≤ e.eventTime ∧ e.eventTime ≤ start + length) : first ≤ start + length ∧ start ≤ last := by
  obtain ⟨⟨x, hx, hfirst⟩, y, hy, hlast⟩ := h
  have hx' := hwindow x hx
  have hy' := hwindow y hy
  omega

theorem firstTime_le (h : e ∈ events) : firstTime events ≤ e.eventTime := by
  have hmem : e.eventTime ∈ events.map (·.eventTime) := List.mem_map_of_mem h
  unfold firstTime
  cases hmin : (events.map (·.eventTime)).min? with
  | none => exact absurd (List.min?_eq_none_iff.mp hmin) (List.ne_nil_of_mem hmem)
  | some m => exact (List.min?_eq_some_iff.mp hmin).2 _ hmem

theorem le_lastTime (h : e ∈ events) : e.eventTime ≤ lastTime events := by
  have hmem : e.eventTime ∈ events.map (·.eventTime) := List.mem_map_of_mem h
  unfold lastTime
  cases hmax : (events.map (·.eventTime)).max? with
  | none => exact absurd (List.max?_eq_none_iff.mp hmax) (List.ne_nil_of_mem hmem)
  | some m => exact (List.max?_eq_some_iff.mp hmax).2 _ hmem

/-- Nothing that matches is later than the event that arrived. -/
theorem matched_le {ordered : List SecurityEvent} (h : e ∈ matched r current ordered) :
    e.eventTime ≤ current.eventTime := by
  rcases matched_relevant h with rfl | h
  · exact Int.le_refl _
  · simp only [relevant, List.mem_filter, decide_eq_true_eq] at h
    exact h.2.2.1

/-- The match of an event that is in time leaves an alert that overlaps what the event completes. -/
theorem evaluateRules_detected (sequence : Nat) (hfields : ∀ r ∈ rules, GroupsByFields r)
    (hin : e.eventId ∉ s.events.map (·.event.eventId)) (ht : InTime rt rules e s) (hr : r ∈ rules) (h : Completes r e s es) :
    ∃ a ∈ (evaluateRules rt (append rt e s).1.ordered e sequence rules (append rt e s).1).1.alerts,
      AlertOf r (groupOf r e) (append rt e s).1 a ∧ Overlaps a.firstTime a.lastTime es := by
  have hevents : s.events ⊆ (append rt e s).1.events := by
    unfold append
    rw [if_neg hin]
    exact List.subset_append_left _ _
  have halerts : (append rt e s).1.alerts = s.alerts := by
    unfold append
    rw [if_neg hin]
  obtain ⟨hm, hmem⟩ := matched_of_completes (hfields r hr) hin h (ht.latest r hr es h) (ht.inOrder r hr es h)
  obtain ⟨a, ha, hkey⟩ := evaluateRules_blocked sequence (append rt e s).1 hfields hr hm
  refine ⟨a, ha, ?_⟩
  rcases evaluateRules_made ha with hold | ⟨r', hr', hm', hmade⟩
  · obtain ⟨hof, hover⟩ := ht.taken r hr es h a (halerts ▸ hold) hkey
    exact ⟨hof.mono hevents, hover⟩
  · -- the alert is new, and no other rule makes one of this name
    have hname : alertIdOf (dedupKey rt r (matchAt rt r e s)) = alertIdOf (dedupKey rt r' (matchAt rt r' e s)) := by
      rcases hkey with hid | hdedup
      · exact hid.symm.trans hmade.alertId
      · exact congrArg alertIdOf (hdedup.symm.trans hmade.key)
    obtain rfl := ht.named r hr r' hr' hm hm' hname
    have hcurrent : e ∈ (append rt e s).1.ordered := h.ordered hin e h.mem
    refine ⟨⟨hmade.rule, fun ref href => ?_⟩, ⟨e, h.mem, ?_⟩, ?_⟩
    · rw [hmade.refs, mem_sortOn, List.mem_dedup] at href
      obtain ⟨x, hx, rfl⟩ := List.mem_map.mp href
      obtain ⟨hstored, hgroup⟩ := matched_mem hcurrent hx
      obtain ⟨row, hrow, rfl⟩ := mem_ordered.mp hstored
      exact ⟨row, hrow, rfl, hgroup⟩
    · obtain ⟨x, hx⟩ := List.exists_mem_of_ne_nil _ hm
      rw [hmade.first]
      exact (firstTime_le hx).trans (matched_le hx)
    · rw [hmade.last]
      by_cases hk : r.kind = .correlation
      · exact ht.ends r hr es h hk
      · exact ⟨e, h.mem, le_lastTime (hmem hk)⟩

/-- A delivery in time leaves nothing undetected. -/
theorem deliver_detected {d : Delivery} (hfields : ∀ r ∈ rules, GroupsByFields r) (hp : Punctual rt rules s d)
    (h : Detected rules s) : Detected rules (deliver rt rules d s) := by
  have hagain : ∀ e : SecurityEvent, e.eventId ∈ s.events.map (·.event.eventId) →
      (append rt e s).2 = none ∧ (append rt e s).1.events = s.events ∧ (append rt e s).1.alerts = s.alerts := by
    intro e hin
    unfold append
    rw [if_pos hin]
    exact ⟨rfl, rfl, rfl⟩
  have hsame : ∀ s' : EventStore, s'.events = s.events → s'.alerts = s.alerts → Detected rules s' := by
    intro s' hevents halerts
    unfold Detected AlertOf
    rw [hevents, halerts]
    exact h
  cases d with
  | crash e =>
    obtain ⟨-, hevents, halerts⟩ := hagain e hp
    exact hsame _ hevents halerts
  | ingest e =>
    show Detected rules (ingestEvent rt rules e s).1
    by_cases hin : e.eventId ∈ s.events.map (·.event.eventId)
    · obtain ⟨hnone, hevents, halerts⟩ := hagain e hin
      unfold ingestEvent
      generalize append rt e s = appended at hnone hevents halerts ⊢
      obtain ⟨s', o⟩ := appended
      obtain rfl : o = none := hnone
      exact hsame _ hevents halerts
    · have ht := hp.resolve_left hin
      obtain ⟨order, hash, happend, hevents, halerts⟩ : ∃ order hash, (append rt e s).2 = some order ∧
          (append rt e s).1.events = s.events ++ [⟨order, e, hash⟩] ∧ (append rt e s).1.alerts = s.alerts := by
        unfold append
        rw [if_neg hin]
        exact ⟨_, _, rfl, rfl, rfl⟩
      have hresult : (ingestEvent rt rules e s).1 =
          (evaluateRules rt (append rt e s).1.ordered e order rules (append rt e s).1).1 := by
        unfold ingestEvent
        generalize append rt e s = appended at happend ⊢
        obtain ⟨s', o⟩ := appended
        obtain rfl : o = some order := happend
        rfl
      have hevaluated := evaluateRules_evaluated rt (append rt e s).1.ordered e order rules (append rt e s).1
      obtain ⟨new, hnew, -⟩ := hevaluated.alerts
      rw [hresult]
      intro r hr es hasks hstored group hgroup start hwindow
      have hstored' : ∀ x ∈ es, x = e ∨ x ∈ s.events.map (·.event) := by
        intro x hx
        have hx' := hstored x hx
        rw [hevaluated.events, hevents, List.map_append, List.mem_append] at hx'
        exact hx'.symm.imp_left List.mem_singleton.mp
      by_cases hmem : e ∈ es
      · have hcompletes : Completes r e s es := by
          refine ⟨hasks, hmem, hstored', fun x hx => (hgroup x hx).trans (hgroup e hmem).symm, fun x hx y hy => ?_⟩
          have hx' := hwindow x hx
          have hy' := hwindow y hy
          omega
        obtain ⟨a, ha, hof, hover⟩ := evaluateRules_detected order hfields hin ht hr hcompletes
        refine ⟨a, ha, ?_, hover.window hwindow⟩
        rw [hgroup e hmem] at hof
        exact hof.mono (by rw [hevaluated.events]; exact List.Subset.refl _)
      · -- nothing of it arrived now
        have hbefore : ∀ x ∈ es, x ∈ s.events.map (·.event) := fun x hx =>
          (hstored' x hx).resolve_left fun heq => hmem (heq ▸ hx)
        obtain ⟨a, ha, hof, hover⟩ := h r hr es hasks hbefore group hgroup start hwindow
        refine ⟨a, ?_, hof.mono ?_, hover⟩
        · rw [hnew, halerts]
          exact List.mem_append_left _ ha
        · rw [hevaluated.events, hevents]
          exact List.subset_append_left _ _

/-- What an accepted rule asks for is never nothing. -/
theorem Asks.ne_nil (hr : validateRule r = .ok ()) (h : Asks r es) : es ≠ [] := by
  simp only [validateRule, ok_seq, raiseIf_ok, not_or, not_and] at hr
  obtain ⟨⟨-, -, -, -, -, hthreshold, -⟩, hstages⟩ := hr
  rintro rfl
  unfold Asks at h
  cases hk : r.kind with
  | single =>
    rw [hk] at h
    obtain ⟨-, e, he, -⟩ := h
    cases he
  | threshold =>
    rw [hk] at h
    have hzero := h.2.1
    rw [List.length_nil] at hzero
    omega
  | correlation =>
    rw [hk] at h
    have hnone := congrArg List.length h.2.1
    rw [List.map_nil, List.length_nil] at hnone
    have := hstages hk
    omega

theorem detected_empty (hrules : loadRules rules = .ok ()) : Detected rules .empty := by
  simp only [loadRules, ok_seq, forEach_ok] at hrules
  intro r hr es hasks hstored
  obtain ⟨e, he⟩ := List.exists_mem_of_ne_nil es (hasks.ne_nil (hrules.2.1 r hr))
  cases hstored e he

theorem deliverAll_detected (hfields : ∀ r ∈ rules, GroupsByFields r) {ds : List Delivery}
    (hp : AllPunctual rt rules s ds) (h : Detected rules s) : Detected rules (deliverAll rt rules s ds) := by
  induction ds generalizing s with
  | nil => exact h
  | cons d ds ih => exact ih hp.2 (deliver_detected hfields hp.1 h)

/-- In a run of deliveries in time, with rules that are accepted and group by fields, everything a rule asks for is detected. -/
theorem detected_of_punctual {ds : List Delivery} (hrules : loadRules rules = .ok ()) (hfields : ∀ r ∈ rules, GroupsByFields r)
    (hp : AllPunctual rt rules .empty ds) : Detected rules (deliverAll rt rules .empty ds) :=
  deliverAll_detected hfields hp (detected_empty hrules)

end Deliveries

/-! ## The first of two comes last -/

namespace Sample

open Agentic (hex)

/-- Two denials within a minute. -/
def burst : Rule := { rule "burst" "application_agent" ["TOOL_DENIED"] with kind := .threshold, windowSeconds := 60, threshold := 2 }

def burstRules : List Rule := burst :: rules.drop 2

def earlier : SecurityEvent := event "event-1" "TOOL_DENIED" 1010 1

def later : SecurityEvent := event "event-2" "TOOL_DENIED" 1020 2

/-- The digests of what is hashed when `a` is stored before `b`, and of the alert of both. -/
def burstRuntime (a b : SecurityEvent) : Runtime :=
  let documents := [a.toDict, chained "p11f-event-chain" genesis a.toDict, b.toDict, chained "p11f-event-chain" (hex '1') b.toDict,
    dedup burst 16]
  { runtime with sha256 := Assurance.tabledDigest documents, sha256_not_blank := Assurance.tabledDigest_not_blank documents }

def burstCall (rt : Runtime) (e : SecurityEvent) : SignedEventEnvelope :=
  ⟨e.sourceId, e.eventId, e.eventTime, e.sequence, rt.sha256 e.toDict, e.toDict, "signature"⟩

/-- Both events are verified when they arrive, and two within a minute are stored, and no alert is there. -/
theorem late : loadRules burstRules = .ok () ∧
    registry.verify (burstRuntime later earlier) (burstCall (burstRuntime later earlier) later) 1020 = .ok later ∧
    registry.verify (burstRuntime later earlier) (burstCall (burstRuntime later earlier) earlier) 1025 = .ok earlier ∧
    ¬ Detected burstRules (deliverAll (burstRuntime later earlier) burstRules .empty [.ingest later, .ingest earlier]) := by
  refine ⟨by decide +kernel, by decide +kernel, by decide +kernel, fun h => ?_⟩
  have hasks : Asks burst [earlier, later] := ⟨by decide, by decide, by decide⟩
  obtain ⟨a, ha, -⟩ := h burst List.mem_cons_self [earlier, later] hasks (by decide +kernel) [.str "ref:tenant"] (by decide +kernel) 1000
    (by decide +kernel)
  have hnone : (deliverAll (burstRuntime later earlier) burstRules .empty [.ingest later, .ingest earlier]).alerts = [] := by
    decide +kernel
  rw [hnone] at ha
  cases ha

theorem burst_kinds : ∀ r ∈ burstRules, r.kind ≠ .correlation := by
  decide

theorem burst_fields : ∀ r ∈ burstRules, GroupsByFields r := by
  unfold GroupsByFields
  decide

theorem punctual : AllPunctual (burstRuntime earlier later) burstRules .empty [.ingest earlier, .ingest later] := by
  have hfirst : (deliver (burstRuntime earlier later) burstRules (.ingest earlier) .empty).alerts = [] := by
    decide +kernel
  have hstored : (deliver (burstRuntime earlier later) burstRules (.ingest earlier) .empty).events.map (·.event) = [earlier] := by
    decide +kernel
  have hnamed : ∀ r ∈ burstRules, matchAt (burstRuntime earlier later) r earlier .empty = [] := by
    decide +kernel
  have hnamed' : ∀ r ∈ burstRules, matchAt (burstRuntime earlier later) r later
      (deliver (burstRuntime earlier later) burstRules (.ingest earlier) .empty) ≠ [] → r = burst := by
    decide +kernel
  refine ⟨.inr ⟨?_, ?_, ?_, ?_, ?_⟩, .inr ⟨?_, ?_, ?_, ?_, ?_⟩, trivial⟩
  · intro r hr es h x hx
    rw [(h.stored x hx).resolve_right nofun]
  · exact fun r hr es h hk => absurd hk (burst_kinds r hr)
  · exact fun r hr es h a ha => nomatch ha
  · exact fun r hr es h hk => absurd hk (burst_kinds r hr)
  · exact fun r hr r' hr' hm => absurd (hnamed r hr) hm
  · intro r hr es h x hx
    have hx' := h.stored x hx
    rw [hstored, List.mem_singleton] at hx'
    rcases hx' with rfl | rfl
    · exact Int.le_refl _
    · decide
  · exact fun r hr es h hk => absurd hk (burst_kinds r hr)
  · intro r hr es h a ha
    rw [hfirst] at ha
    cases ha
  · exact fun r hr es h hk => absurd hk (burst_kinds r hr)
  · exact fun r hr r' hr' hm hm' _ => (hnamed' r hr hm).trans (hnamed' r' hr' hm').symm

end Sample

open Sample in
theorem detected_of_punctual_burst :
    Detected burstRules (deliverAll (burstRuntime earlier later) burstRules .empty [.ingest earlier, .ingest later]) :=
  detected_of_punctual (by decide +kernel) burst_fields punctual

end Aegis.Detection
