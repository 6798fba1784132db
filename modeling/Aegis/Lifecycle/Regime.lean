/-
  Aegis.Lifecycle.Regime — the coordinator's calls, verified once for every way of running
  them.

  A `Regime` says under which conditions transactions commit, what a call may assume of the
  others, what it knows of the row it loaded (`held`), what lets the provider be called
  (`allowed`), what a completed provider call leaves (`done`) and what every step is to
  guarantee beyond the journal's own invariant (`extra`). Under any regime the journal is the
  encoding of a book, no command is handed to the provider twice (`Keeps`), rows only move
  forward (`Evolves`) and every receipt returned is that of the stored record (`Receipted`).
-/

import Aegis.Txn.Safe
import Aegis.Lifecycle.Book
import Aegis.Lifecycle.Coordinator

namespace Aegis.Lifecycle.Coordinator

open Data Txn Prog

variable {π : Type} (H : Hashing) (key : String) {me : Nat}

/-- The journal says what `b` says, and the histories agree with it. -/
structure Keeps (pid : String) (b : Book) (w : World π) : Prop where
  journal : w.journal = b.encode H key
  providers : b.Provided pid
  starters : (w.starters.map Prod.fst).Nodup
  started : ∀ i ∈ w.starters.map Prod.fst, ∃ e, b.find i = some e ∧ 0 < e.status.rank
  invocations : w.invocations.Nodup
  invoked : ∀ i ∈ w.invocations, i ∈ w.starters.map Prod.fst

/-- What other calls' steps do, as call `me` sees it. -/
structure Evolves (me : Nat) (w w' : World π) : Prop where
  grows : ∀ b : Book, w.journal = b.encode H key → ∃ b' : Book, w'.journal = b'.encode H key ∧ b.Grows b'
  starters : ∀ i, (i, me) ∈ w.starters → (i, me) ∈ w'.starters
  invoked : ∀ i, (i, me) ∈ w.starters → i ∉ w.invocations → i ∉ w'.invocations

/-- `me` moved row `i` to PROVIDER_STARTED and has not called the provider yet. -/
def Token (me : Nat) (i : String) (w : World π) : Prop := (i, me) ∈ w.starters ∧ i ∉ w.invocations

/-- The receipt is the one the stored, committed record gives. -/
def Receipted (r : CommandReceipt) (w : World π) : Prop :=
  ∃ (b : Book) (e : Entry), w.journal = b.encode H key ∧ b.find r.commandId = some e ∧ e.status.state = .committed ∧
    receiptFromRecord H e.record r.replayed = .ok r

/-- `e` is stored under the id and the digest of `c`. -/
structure Stores (b : Book) (e : Entry) (c : Command) : Prop where
  find : b.find c.commandId = some e
  digest : e.command.digest H = c.digest H

theorem Evolves.refl (me : Nat) (w : World π) : Evolves H key me w w :=
  ⟨fun b hb => ⟨b, hb, .refl b⟩, fun _ h => h, fun _ _ h => h⟩

theorem Evolves.trans {a b c : World π} (h : Evolves H key me a b) (h' : Evolves H key me b c) :
    Evolves H key me a c := by
  refine ⟨fun x hx => ?_, fun i hi => h'.starters i (h.starters i hi),
    fun i hi hn => h'.invoked i (h.starters i hi) (h.invoked i hi hn)⟩
  obtain ⟨y, hy, hxy⟩ := h.grows x hx
  obtain ⟨z, hz, hyz⟩ := h'.grows y hy
  exact ⟨z, hz, hxy.trans hyz⟩

variable {H key}

theorem Token.evolves {i : String} {w w' : World π} (h : Token me i w) (he : Evolves H key me w w') : Token me i w' :=
  ⟨he.starters i h.1, he.invoked i h.1 h.2⟩

theorem Receipted.evolves {r : CommandReceipt} {w w' : World π} (h : Receipted H key r w)
    (he : Evolves H key me w w') : Receipted H key r w' := by
  obtain ⟨b, e, hb, hf, hc, hr⟩ := h
  obtain ⟨b', hb', hg⟩ := he.grows b hb
  obtain ⟨e', hf', hge⟩ := hg _ e hf
  exact ⟨b', e', hb', hf', by rwa [hge.of_committed hc], by rwa [hge.of_committed hc]⟩

/-! ## Regimes -/

variable (H key)

structure Regime (P : Provider π) where
  /-- Calls do not overlap. -/
  steady : Prop
  ok : Label → World π → Prop
  rely : Nat → World π → World π → Prop
  /-- What holds of the provider's state, and its contract for a call with command `c`. -/
  pinv : π → Prop
  prov : Command → Contract π
  held : JournalRecord → World π → Prop
  allowed : Command → World π → Prop
  done : Command → π → Prop
  extra : World π → World π → Prop
  rely_refl : ∀ me w, rely me w w
  rely_trans : ∀ {me a b c}, rely me a b → rely me b c → rely me a c
  rely_steady : ∀ {me w w'}, steady → rely me w w' → w' = w
  rely_evolves : ∀ {me w w'}, rely me w w' → Evolves H key me w w'
  prov_inv : ∀ {c p}, (prov c).inv p ↔ pinv p
  rely_provider : ∀ {me c w w'}, rely me w w' → (prov c).rely me w.provider w'.provider
  held_stored : ∀ {w : World π} {b : Book} {e : Entry}, w.journal = b.encode H key → b.find e.id = some e →
    e.status.state ≠ .committed → held e.record w
  held_rely : ∀ {me r w w'}, held r w → rely me w w' → held r w'
  held_congr : ∀ {r} {w w' : World π}, w'.journal = w.journal → held r w → held r w'
  held_ok : ∀ {r} {w : World π} {b : Book}, w.journal = b.encode H key → held r w → ok (.write r) w →
    ∃ e, b.find r.command.commandId = some e ∧ e.record = r ∧ e.status.state ≠ .committed
  allowed_check : ∀ {me c m} {w w' : World π}, w.journal.readMeta H key = .ok m → rely me w w' →
    m.highestCommittedFence < c.fenceToken → allowed c w'
  allowed_rely : ∀ {me c w w'}, allowed c w → rely me w w' → allowed c w'
  allowed_congr : ∀ {c} {w w' : World π}, w'.journal.journalMeta = w.journal.journalMeta → allowed c w → allowed c w'
  done_rely : ∀ {me c w w'}, done c w.provider → rely me w w' → done c w'.provider
  extra_open : ∀ {w w' : World π}, w'.provider = w.provider → (∀ b b' : Book, w.journal = b.encode H key →
    w'.journal = b'.encode H key → ∀ i e, b'.find i = some e → e.status.state = .committed → b.find i = some e) →
    extra w w'
  extra_done : ∀ {c : Command} {w : World π} {b : Book} {e : Entry} {a : String} {ha : a ≠ ""},
    w.journal = b.encode H key → Stores H b e c → e.status.state ≠ .committed → done c w.provider →
    extra w { w with journal := (b.setStatus e.id (.committed a ha)).encode H key }
  extra_provider : ∀ {me c w p}, allowed c w → pinv p → (prov c).guar me w.provider p → extra w { w with provider := p }
  extra_disturb : ∀ {f w}, extra w { w with provider := P.disturb f w.provider }
  inv_disturb : ∀ {f p}, pinv p → pinv (P.disturb f p)
  invoke_safe : ∀ me c args behaviour fault p, pinv p →
    Safe (fun _ _ => True) (prov c) me (fun r p' => r = .ok () → done c p') (P.invoke c args behaviour fault) p

namespace Regime

/-! What a regime that asks nothing of the provider has to say about it. -/

theorem free_prov_inv (_ : Command) (p : π) : (Contract.free π).inv p ↔ True := Iff.rfl

theorem free_invoke_safe (P : Provider π) (me : Nat) (c : Command) (args : Args) (behaviour : Behaviour)
    (fault : ProviderFault) (p : π) (_ : True) :
    Safe (fun _ _ => True) (Contract.free π) me (fun r _ => r = .ok () → True) (P.invoke c args behaviour fault) p :=
  (Safe.free _ me _ p).mono trivial fun _ _ _ _ _ => trivial

variable {H key} {P : Provider π} (R : Regime H key P)

def contract : Contract (World π) where
  inv w := (∃ b, Keeps H key P.face.providerId b w) ∧ R.pinv w.provider
  rely := R.rely
  guar me w w' := (∀ i, i ≠ me → Evolves H key i w w') ∧ R.extra w w'
  rely_refl := R.rely_refl
  rely_trans := R.rely_trans
  guar_refl me w h := by
    refine ⟨fun i _ => .refl H key i w, R.extra_open rfl fun b b' hb hb' i e he _ => ?_⟩
    rw [Book.encode_injective H key (hb.symm.trans hb')]
    exact he

variable {R} {me : Nat} {w : World π}
  {w' : World π} {b : Book} {c : Command} {r : JournalRecord} {e : Entry} {behaviour : Behaviour} {pf : ProviderFault} {fault : JournalFault}
  {args : Args} {i provider : String} {x : JournalRecord × Nat} {s : Status}

theorem evolves_of_guar {j : Nat} (h : R.contract.guar me w w') (hj : j ≠ me) : Evolves H key j w w' :=
  h.1 j hj

/-- When calls do not overlap, all that has changed since `w` is rows of the journal. -/
def Unmoved (R : Regime H key P) (w w' : World π) : Prop :=
  R.steady → w'.provider = w.provider ∧ w'.journal.journalMeta = w.journal.journalMeta

theorem Unmoved.trans {a b c : World π} (h : Unmoved R a b) (h' : Unmoved R b c) : Unmoved R a c :=
  fun hs => ⟨(h' hs).1.trans (h hs).1, (h' hs).2.trans (h hs).2⟩

theorem unmoved_rely (h : R.rely me w w') : Unmoved R w w' := by
  intro hs
  rw [R.rely_steady hs h]
  exact ⟨rfl, rfl⟩

/-! ## Reading -/

/-- What `_load_record_for_command` gives: a stored record of this command and this provider,
    and a committed fence that settles whether the command may start. -/
structure Loaded (R : Regime H key P) (c : Command) (x : JournalRecord × Nat) (w : World π) : Prop where
  stored : ∃ (b : Book) (e : Entry), w.journal = b.encode H key ∧ Stores H b e c ∧ e.providerId = P.face.providerId ∧
    x.1 = e.record
  allowed : ∀ c', x.2 < c'.fenceToken → R.allowed c' w

theorem loadRecord_of_book (h : (b.encode H key).loadRecord H key c provider = .ok r) :
    ∃ e, Stores H b e c ∧ e.providerId = provider ∧ r = e.record := by
  simp only [Journal.loadRecord, Book.loadRow_encode] at h
  cases hf : b.find c.commandId with
  | none => simp [hf] at h
  | some e =>
    simp only [hf, Option.map_some, Entry.rowToRecord_row, bind, Except.bind] at h
    split_ifs at h with h1 h2
    cases h
    exact ⟨e, ⟨hf, not_not.mp h1⟩, not_not.mp h2, rfl⟩

theorem loadRecord_encode (hs : Stores H b e c)
    (hp : e.providerId = provider) : (b.encode H key).loadRecord H key c provider = .ok e.record := by
  have h1 : e.record.command.digest H = c.digest H := hs.digest
  have h2 : e.record.providerId = provider := hp
  simp [Journal.loadRecord, Book.loadRow_encode, hs.find, Entry.rowToRecord_row, bind, Except.bind, h1, h2]

theorem load_run (hb : w.journal = b.encode H key) (hs : Stores H b e c) (hp : e.providerId = P.face.providerId) :
    (loadRecordForCommand H key P c).run w = (.ok (e.record, b.committed), w) := by
  unfold loadRecordForCommand
  rw [run_bind_ok (a := (b.encode H key).journalMeta) (t := w) (by rw [run_query, hb, Book.readMeta_encode]),
    run_bind_ok (a := e.record) (t := w) (by rw [run_query, hb, loadRecord_encode hs hp])]
  rfl

theorem load_safe (c : Command) :
    Safe R.ok R.contract me (OnOk fun x w' => Loaded R c x w' ∧ Unmoved R w w') (loadRecordForCommand H key P c) w := by
  unfold loadRecordForCommand
  refine Safe.ask fun m w1 hi1 hr1 _ hm => ?_
  refine Safe.ask fun r w2 hi2 hr2 _ hr => ?_
  obtain ⟨⟨b, hb⟩, -⟩ := hi2
  rw [hb.journal] at hr
  obtain ⟨e, hs, hp, rfl⟩ := loadRecord_of_book hr
  exact .ok ⟨⟨⟨b, e, hb.journal, hs, hp, rfl⟩, fun c' hc => R.allowed_check hm hr2 hc⟩,
    (unmoved_rely hr1).trans (unmoved_rely hr2)⟩

theorem receipt_of_stored {r : CommandReceipt} (hb : w.journal = b.encode H key)
    (hs : Stores H b e c) (hc : e.status.state = .committed) (hr : receiptFromRecord H e.record true = .ok r) :
    Receipted H key r w := by
  have hid : e.command.commandId = c.commandId := Book.id_of_find hs.find
  have : r.commandId = c.commandId ∧ r.replayed = true := by
    unfold receiptFromRecord at hr
    split at hr <;> cases hr
    exact ⟨hid, rfl⟩
  exact ⟨b, e, hb, by rw [this.1, hs.find], hc, by rw [this.2, hr]⟩

/-! ## Writing -/

/-- A step of the journal alone that commits nothing. -/
theorem guar_journal {b b' : Book} (hb : w.journal = b.encode H key) (hb' : w'.journal = b'.encode H key)
    (hg : b.Grows b') (hp : w'.provider = w.provider) (hst : ∀ x ∈ w.starters, x ∈ w'.starters)
    (hin : w'.invocations = w.invocations)
    (hopen : ∀ i e, b'.find i = some e → e.status.state = .committed → b.find i = some e) :
    R.contract.guar me w w' := by
  refine ⟨fun i _ => ⟨fun x hx => ?_, fun j hj => hst _ hj, fun j _ hn => by rwa [hin]⟩, R.extra_open hp ?_⟩
  · rw [Book.encode_injective H key (hx.symm.trans hb)]
    exact ⟨b', hb', hg⟩
  · intro x x' hx hx'
    rw [Book.encode_injective H key (hx.symm.trans hb), Book.encode_injective H key (hx'.symm.trans hb')]
    exact hopen

theorem open_setStatus (h : b.find i = some e) (hs : s.state ≠ .committed) :
    ∀ j x, (b.setStatus i s).find j = some x → x.status.state = .committed → b.find j = some x := by
  intro j x hx hc
  by_cases hj : j = i
  · subst hj
    rw [Book.find_setStatus_self h s] at hx
    cases hx
    exact absurd hc hs
  · rwa [Book.find_setStatus_ne hj s] at hx

theorem keeps_grow {b b' : Book} (h : Keeps H key P.face.providerId b w) (hb' : w'.journal = b'.encode H key) (hg : b.Grows b')
    (hp : b'.Provided P.face.providerId) (hst : w'.starters = w.starters) (hin : w'.invocations = w.invocations) : Keeps H key P.face.providerId b' w' := by
  refine ⟨hb', hp, hst ▸ h.starters, fun i hi => ?_, hin ▸ h.invocations, fun i hi => hst ▸ h.invoked i (hin ▸ hi)⟩
  obtain ⟨e, he, hr⟩ := h.started i (hst ▸ hi)
  obtain ⟨e', he', hge⟩ := hg i e he
  exact ⟨e', he', hr.trans_le hge.rank_le⟩

variable (me) in
/-- The row `r` of a prepared command moves to PROVIDER_STARTED, and `me` is entered as the one who did it. -/
theorem keeps_start (h : Keeps H key P.face.providerId b w) (hf : b.find i = some e) (he : e.status.rank = 0) :
    Keeps H key P.face.providerId (b.setStatus i .started)
        { w with journal := (b.setStatus i .started).encode H key, starters := w.starters ++ [(i, me)] } ∧
      i ∉ w.starters.map Prod.fst := by
  have hnot : i ∉ w.starters.map Prod.fst := by
    intro hi
    obtain ⟨e', he', hr⟩ := h.started i hi
    rw [hf] at he'
    cases he'
    omega
  refine ⟨⟨rfl, h.providers.setStatus _ _, ?_, ?_, h.invocations, ?_⟩, hnot⟩
  · rw [List.map_append, List.map_singleton]
    exact h.starters.append (List.nodup_singleton _) (by simpa [List.disjoint_singleton] using hnot)
  · intro j hj
    by_cases hji : j = i
    · subst hji
      exact ⟨_, Book.find_setStatus_self hf _, by simp [Entry.withStatus, Status.rank]⟩
    · have hj' : j ∈ w.starters.map Prod.fst := by simpa [hji] using hj
      rw [Book.find_setStatus_ne hji]
      exact h.started j hj'
  · intro j hj
    rw [List.map_append]
    exact List.mem_append_left _ (h.invoked j hj)

theorem setState_eq (hb : w.journal = b.encode H key) (hf : b.find e.id = some e)
    (hc : e.status.state ≠ .committed) (hs : s.state ≠ .committed) :
    w.journal.setState H key e.record s.state = .ok ((e.withStatus s).record, (b.setStatus e.id s).encode H key) := by
  rw [hb]
  exact Book.setState_encode H key hf hc hs

variable (me) in
/-- `_set_state` by a caller that holds the row. -/
theorem setState_safe (hheld : R.held r w) (hs : s.state ≠ .committed)
    (hrank : ∀ e : Entry, e.record = r → e.status.rank < s.rank) (hstart : s.state = .providerStarted → r.state = .prepared) :
    Safe R.ok R.contract me (OnOk fun r' w' => R.held r' w' ∧ r' = { r with state := s.state } ∧
        (s.state = .providerStarted → Token me r.command.commandId w') ∧
        (∀ c, R.allowed c w → R.allowed c w') ∧ Unmoved R w w')
      (setState H key me r s.state) w := by
  refine Safe.write fun r' w2 w1 hi1 hr1 hok hstep => ?_
  obtain ⟨⟨b, hk⟩, hpi⟩ := hi1
  obtain ⟨e, hf, hrec, hopen⟩ := R.held_ok hk.journal (R.held_rely hheld hr1) hok
  have hid : r.command.commandId = e.id := by rw [← hrec]; rfl
  rw [hid] at hf
  have hlt := hrank e hrec
  have hgrow := Book.grows_setStatus hf hlt
  rw [← hrec, setState_eq hk.journal hf hopen hs] at hstep
  obtain ⟨rfl, rfl⟩ := Prod.mk.inj (Except.ok.inj hstep)
  have hr' : (e.withStatus s).record = { r with state := s.state } := by
    rw [← hrec]
    simp [Entry.record, Entry.withStatus, Status.anchor_of_not_committed hopen, Status.anchor_of_not_committed hs]
  have hmeta : ((b.setStatus e.id s).encode H key).journalMeta = w1.journal.journalMeta := by
    rw [hk.journal]
    simp [Book.encode, Book.committed_setStatus_open hf hopen hs]
  have hfind : (b.setStatus e.id s).find (e.withStatus s).id = some (e.withStatus s) := Book.find_setStatus_self hf s
  have hallow : ∀ c, R.allowed c w → ∀ st, R.allowed c { w1 with
      journal := (b.setStatus e.id s).encode H key, starters := st } :=
    fun c hc st => R.allowed_congr hmeta (R.allowed_rely hc hr1)
  have hunmoved : ∀ st, Unmoved R w { w1 with journal := (b.setStatus e.id s).encode H key, starters := st } :=
    fun st => (unmoved_rely hr1).trans fun _ => ⟨rfl, hmeta⟩
  by_cases hst : s.state = .providerStarted
  · have hsrt : s = .started := by cases s <;> simp_all [Status.state]
    subst hsrt
    have hprep : e.status.rank = 0 := by
      have := hstart rfl
      rw [← hrec] at this
      cases hes : e.status <;> simp_all [Entry.record, Status.state, Status.rank]
    obtain ⟨hk', hnot⟩ := keeps_start me hk hf hprep
    rw [if_pos hst]
    refine ⟨⟨⟨_, hk'⟩, hpi⟩, guar_journal hk.journal rfl hgrow rfl (fun x hx => List.mem_append_left _ hx) rfl
      (open_setStatus hf hs), .ok ⟨R.held_stored rfl hfind hs, hr', fun _ => ⟨?_, fun hmem => ?_⟩, fun c hc => hallow c hc _, hunmoved _⟩⟩
    · rw [hid]
      exact List.mem_append_right _ List.mem_cons_self
    · rw [hid] at hmem
      exact hnot (hk.invoked _ hmem)
  · rw [if_neg hst]
    exact ⟨⟨⟨_, keeps_grow hk rfl hgrow (hk.providers.setStatus _ _) rfl rfl⟩, hpi⟩, guar_journal hk.journal rfl hgrow rfl (fun x hx => hx) rfl
      (open_setStatus hf hs), .ok ⟨R.held_stored rfl hfind hs, hr', fun h => absurd h hst, fun c hc => hallow c hc _, hunmoved _⟩⟩

variable (me) in
/-- `_commit_receipt` by a caller that holds the row and can answer for the commit. -/
theorem commitReceipt_safe {a : String} (hheld : R.held r w) (ha : a ≠ "")
    (hx : ∀ (w' : World π) (b : Book) (e : Entry), R.rely me w w' → w'.journal = b.encode H key → b.find e.id = some e →
      e.record = r → e.status.state ≠ .committed →
      R.extra w' { w' with journal := (b.setStatus e.id (.committed a ha)).encode H key }) :
    Safe R.ok R.contract me (OnOk fun rc w' => Receipted H key rc w' ∧ Receipted H key { rc with replayed := true } w')
      (commitReceipt H key r a) w := by
  refine Safe.write fun rc w2 w1 hi1 hr1 hok hstep => ?_
  obtain ⟨⟨b, hk⟩, hpi⟩ := hi1
  obtain ⟨e, hf, hrec, hopen⟩ := R.held_ok hk.journal (R.held_rely hheld hr1) hok
  have hid : r.command.commandId = e.id := by rw [← hrec]; rfl
  rw [hid] at hf
  have hgrow : b.Grows (b.setStatus e.id (.committed a ha)) :=
    Book.grows_setStatus hf (Status.rank_lt_three.mpr hopen)
  rw [← hrec, hk.journal, Book.commitReceipt_encode H key hf hopen ha] at hstep
  obtain ⟨rfl, rfl⟩ := Prod.mk.inj (Except.ok.inj hstep)
  refine ⟨⟨⟨_, keeps_grow hk rfl hgrow (hk.providers.setStatus _ _) rfl rfl⟩, hpi⟩, ⟨fun i _ => ⟨fun x hx' => ?_, fun j hj => hj, fun j _ hn => hn⟩,
    hx w1 b e hr1 hk.journal hf hrec hopen⟩, .ok ⟨?_, ?_⟩⟩
  · rw [Book.encode_injective H key (hx'.symm.trans hk.journal)]
    exact ⟨_, rfl, hgrow⟩
  · exact ⟨_, _, rfl, Book.find_setStatus_self hf _, rfl, rfl⟩
  · exact ⟨_, _, rfl, Book.find_setStatus_self hf _, rfl, rfl⟩

/-! ## Calling the provider -/

theorem guar_log (h : Keeps H key P.face.providerId b w) (ht : Token me i w) :
    Keeps H key P.face.providerId b { w with invocations := w.invocations ++ [i] } ∧
      R.contract.guar me w { w with invocations := w.invocations ++ [i] } := by
  refine ⟨⟨h.journal, h.providers, h.starters, h.started, ?_, ?_⟩, fun j hj => ⟨fun x hx => ⟨x, hx, .refl x⟩, fun _ hm => hm, ?_⟩,
    R.extra_open rfl fun x x' hx hx' k e he _ => ?_⟩
  · exact h.invocations.append (List.nodup_singleton _) (by simpa [List.disjoint_singleton] using ht.2)
  · intro k hk
    rcases List.mem_append.mp hk with hk | hk
    · exact h.invoked k hk
    · rw [List.mem_singleton.mp hk]
      exact List.mem_map_of_mem (f := Prod.fst) ht.1
  · intro k hk hn hmem
    rcases List.mem_append.mp hmem with hmem | hmem
    · exact hn hmem
    · -- two calls cannot both have started the row
      rw [List.mem_singleton.mp hmem] at hk
      exact hj (congrArg Prod.snd (List.inj_on_of_nodup_map h.starters hk ht.1 rfl))
  · rw [Book.encode_injective H key (hx.symm.trans hx')]
    exact he

/-- `_invoke_provider` by the call that started the row, with leave to do so. -/
theorem invokeProvider_safe (hheld : R.held r w) (htoken : Token me c.commandId w) (hallow : R.allowed c w) :
    Safe R.ok R.contract me (fun res w' => R.held r w' ∧ (res = .ok () → R.done c w'.provider))
      (invokeProvider P c args behaviour pf) w := by
  refine Safe.modify_bind fun w1 hi1 hr1 _ => ?_
  obtain ⟨⟨b, hk⟩, hpi⟩ := hi1
  obtain ⟨hk', hguar⟩ := guar_log (R := R) hk (htoken.evolves (R.rely_evolves hr1))
  refine ⟨⟨⟨b, hk'⟩, hpi⟩, hguar, ?_⟩
  have hheld1 := R.held_rely hheld hr1
  have hallow1 := R.allowed_rely hallow hr1
  have hzoom : Safe R.ok R.contract me _ _ { w1 with invocations := w1.invocations ++ [c.commandId] } := Safe.zoom
    (L := providerLens) (J := fun x => R.held r x ∧ R.allowed c x)
    (fun x hx _ => R.prov_inv.mpr hx.2) (fun x x' _ hx hr => ⟨⟨R.held_rely hx.1 hr, R.allowed_rely hx.2 hr⟩, R.rely_provider hr⟩)
    (fun _ _ _ => trivial)
    (fun x p hx hj hp hg => by
      obtain ⟨⟨b, hb⟩, -⟩ := hx
      exact ⟨⟨⟨b, hb.journal, hb.providers, hb.starters, hb.started, hb.invocations, hb.invoked⟩, R.prov_inv.mp hp⟩,
        ⟨fun i _ => ⟨fun y hy => ⟨y, hy, .refl y⟩, fun _ hm => hm, fun _ _ hn => hn⟩,
          R.extra_provider hj.2 (R.prov_inv.mp hp) hg⟩,
        R.held_congr (w := x) rfl hj.1, R.allowed_congr (w := x) rfl hj.2⟩)
    ⟨R.held_congr (w := w1) rfl hheld1, R.allowed_congr (w := w1) rfl hallow1⟩ (R.invoke_safe me c args behaviour pf _ hpi)
  exact hzoom.mono ⟨⟨b, hk'⟩, hpi⟩ fun res w' _ h => ⟨h.2.1, h.1⟩

/-! ## The calls -/

/-- The copy `r` of a row is one of the command `c`. -/
def CopyOf (H : Hashing) (r : JournalRecord) (c : Command) : Prop :=
  r.command.commandId = c.commandId ∧ r.command.digest H = c.digest H

theorem stores_of_copy (hf : b.find e.id = some e) (hrec : e.record = r) (hc : CopyOf H r c) : Stores H b e c := by
  subst hrec
  exact ⟨hc.1 ▸ hf, hc.2⟩

theorem settleStarted_safe (hi : R.contract.inv w) (hheld : R.held r w) :
    Safe R.ok R.contract me (OnOk fun r' w' => R.held r' w' ∧ r'.command = r.command ∧
        (r'.state = .reconciliationRequired ∨ r' = r ∧ ∀ c, R.allowed c w → R.allowed c w') ∧ Unmoved R w w')
      (settleStarted H key me r) w := by
  unfold settleStarted
  split
  · rename_i hs
    have hset := setState_safe me (s := .reconciling) hheld (by simp [Status.state])
      (fun e he => by
        subst he
        cases hes : e.status <;> simp_all [Entry.record, Status.state, Status.rank])
      (fun h => by cases h)
    refine hset.mono hi fun res w' _ h a ha => ?_
    obtain ⟨h1, h2, -, -, h3⟩ := h a ha
    exact ⟨h1, by rw [h2], .inl (by rw [h2]; rfl), h3⟩
  · exact .ok ⟨hheld, rfl, .inr ⟨rfl, fun _ h => h⟩, fun _ => ⟨rfl, rfl⟩⟩

theorem startProvider_safe (hi : R.contract.inv w) (hheld : R.held r w) (hr : r.state = .prepared) (hc : CopyOf H r c)
    (hallow : R.allowed c w) :
    Safe R.ok R.contract me (OnOk (Receipted H key)) (startProvider H key P me c r args behaviour pf fault) w := by
  unfold startProvider
  have hset := setState_safe me (s := .started) hheld (by simp [Status.state])
    (fun e he => by
      subst he
      cases hes : e.status <;> simp_all [Entry.record, Status.state, Status.rank])
    (fun _ => hr)
  refine Safe.bind_ok hi hset fun r' w1 hi1 hset' => ?_
  obtain ⟨hheld', hr', htoken, hallow', _⟩ := hset'
  have hstarted : r'.state = .providerStarted := by rw [hr']; rfl
  have hc' : CopyOf H r' c := by rw [hr']; exact hc
  have htok : Token me c.commandId w1 := hc.1 ▸ htoken rfl
  refine Safe.bind_ok (M := fun _ w' => R.held r' w' ∧ R.done c w'.provider) hi1 ?_ fun _ w2 hi2 hinvoked => ?_
  · refine Safe.handle hi1 (invokeProvider_safe hheld' htok (hallow' c hallow))
      (fun _ w' _ h => .ok ⟨h.1, h.2 rfl⟩) fun _ w' hi' h => ?_
    have hset2 := setState_safe me (s := .reconciling) h.1 (by simp [Status.state])
      (fun e he => by
        rw [← he] at hstarted
        cases hes : e.status <;> simp_all [Entry.record, Status.state, Status.rank])
      (fun h => by cases h)
    exact Safe.bind_ok hi' hset2 fun _ _ _ _ => OnOk.error
  obtain ⟨hheld2, hdone⟩ := hinvoked
  refine Safe.guard fun _ => ?_
  refine Safe.read_bind fun w3 hi3 hr3 _ => ?_
  have hcommit := commitReceipt_safe me (R.held_rely hheld2 hr3) (Live.anchorFingerprint_ne H (P.live w3.provider))
    fun w' b e hr4 hb hf hrec hopen =>
      R.extra_done hb (stores_of_copy hf hrec hc') hopen (R.done_rely (R.done_rely hdone hr3) hr4)
  refine Safe.bind_ok hi3 hcommit fun rc w4 _ h => ?_
  exact Safe.guard fun _ => OnOk.ok h.1

theorem executeOpen_safe {n : Nat} (hi : R.contract.inv w) (hheld : R.held r w) (hc : CopyOf H r c)
    (hallow : ∀ c', n < c'.fenceToken → R.allowed c' w) :
    Safe R.ok R.contract me (OnOk (Receipted H key)) (executeOpen H key P me c r n args behaviour pf fault) w := by
  unfold executeOpen
  refine Safe.bind_ok hi (settleStarted_safe hi hheld) fun r' w1 hi1 ⟨hheld', hcmd, hcase, _⟩ => ?_
  refine Safe.guard fun hnr => ?_
  refine Safe.guard fun hprep => ?_
  refine Safe.guard fun hfence => ?_
  obtain ⟨rfl, hallow'⟩ := hcase.resolve_left hnr
  refine Safe.read_bind fun w2 hi2 hr2 _ => ?_
  refine Safe.guard fun _ => ?_
  refine Safe.guard fun _ => ?_
  refine Safe.ofResult_bind (fun _ _ => .error) fun _ _ => ?_
  refine Safe.guard fun _ => ?_
  exact startProvider_safe hi2 (R.held_rely hheld' hr2) (not_not.mp hprep) hc
    (R.allowed_rely (hallow' c (hallow c (Nat.lt_of_not_le hfence))) hr2)

/-- What a loaded row that is not committed gives its caller. -/
theorem held_of_loaded (h : Loaded R c x w) (hx : x.1.state ≠ .committed) : R.held x.1 w ∧ CopyOf H x.1 c := by
  obtain ⟨r, n⟩ := x
  obtain ⟨b, e, hb, hs, -, hr⟩ := h.stored
  cases hr
  have hid : e.command.commandId = c.commandId := Book.id_of_find hs.find
  exact ⟨R.held_stored hb ((congrArg b.find hid).trans hs.find) hx, hid, hs.digest⟩

theorem receipted_of_loaded (h : Loaded R c x w) (hx : x.1.state = .committed) :
    OnOk (ε := Error) (Receipted H key) (receiptFromRecord H x.1 true) w := by
  obtain ⟨r, n⟩ := x
  obtain ⟨b, e, hb, hs, -, hr⟩ := h.stored
  cases hr
  exact fun rc hrc => receipt_of_stored hb hs hx hrc

theorem execute_safe (hi : R.contract.inv w) :
    Safe R.ok R.contract me (OnOk (Receipted H key)) (execute H key P me c args behaviour pf fault) w := by
  unfold execute
  refine Safe.bind_ok hi (load_safe c) fun x w1 hi1 ⟨hload, _⟩ => ?_
  dsimp only
  split
  · rename_i hcommitted
    exact receipted_of_loaded hload hcommitted
  · rename_i hopen
    obtain ⟨hheld, hcopy⟩ := held_of_loaded hload hopen
    exact executeOpen_safe hi1 hheld hcopy hload.allowed

/-- What `reconcile` called at `w` has established when it comes to `resolve`. -/
structure Ambiguous (R : Regime H key P) (c : Command) (r : JournalRecord) (w w' : World π) : Prop where
  inv : R.contract.inv w'
  held : R.held r w'
  copy : CopyOf H r c
  state : r.state = .reconciliationRequired
  unmoved : Unmoved R w w'

theorem reconcileWith_safe {resolve : JournalRecord → Prog Label (World π) Error CommandReceipt} (hi : R.contract.inv w)
    (hresolve : ∀ r w', Ambiguous R c r w w' → Safe R.ok R.contract me (OnOk (Receipted H key)) (resolve r) w') :
    Safe R.ok R.contract me (OnOk (Receipted H key)) (reconcileWith H key P resolve me c) w := by
  unfold reconcileWith
  refine Safe.bind_ok hi (load_safe c) fun x w1 hi1 ⟨hload, hunmoved⟩ => ?_
  dsimp only
  split
  · rename_i hcommitted
    exact receipted_of_loaded hload hcommitted
  · rename_i hopen
    obtain ⟨hheld, hcopy⟩ := held_of_loaded hload hopen
    refine Safe.bind_ok hi1 (settleStarted_safe hi1 hheld) fun r' w2 hi2 ⟨hheld', hcmd, _, hunmoved'⟩ => ?_
    refine Safe.guard fun hrec => ?_
    exact hresolve r' w2 ⟨hi2, hheld', by rw [CopyOf, hcmd]; exact hcopy, not_not.mp hrec, hunmoved.trans hunmoved'⟩

/-- A migration found committed by `_migration_commit_proven`. -/
def ProvesMigration (R : Regime H key P) : Prop :=
  ∀ {me : Nat} {w w' : World π} {b : Book} {e : Entry} {c : Command} {current : Json} {a : String} {ha : a ≠ ""},
    R.rely me w w' → (P.live w.provider).migrationObservation H = .ok current →
    migrationCommitProven e.preObservation current = true → w'.journal = b.encode H key → Stores H b e c →
    e.status.state = .reconciliationRequired → c.operation = .migration →
    R.extra w' { w' with journal := (b.setStatus e.id (.committed a ha)).encode H key }

theorem proveCommit_safe (hproves : ProvesMigration R) {w0 : World π} (h : Ambiguous R c r w0 w) :
    Safe R.ok R.contract me (OnOk (Receipted H key)) (proveCommit H key P c r) w := by
  unfold proveCommit
  split
  · rename_i hop
    refine Safe.ask fun current w1 hi1 hr1 _ hobs => ?_
    split
    · rename_i hproven
      have ha : (current.str? "anchor_fingerprint").getD "" ≠ "" := by
        rw [Live.observeMigration_anchor H hobs]
        exact Live.anchorFingerprint_ne H _
      have hcommit := commitReceipt_safe me (R.held_rely h.held hr1) ha fun w' b e hr2 hb hf hrec hopen =>
        hproves hr2 hobs (by rw [← hrec] at hproven; exact hproven) hb (stores_of_copy hf hrec h.copy)
          (by rw [← hrec] at h; exact h.state) hop
      exact Safe.bind_ok hi1 hcommit fun rc w2 _ h => OnOk.ok h.2
    · exact OnOk.error
  · exact OnOk.error

theorem issueCommand_safe {o : Operation} {res : String} :
    Safe R.ok R.contract me (OnOk fun _ _ => True) (issueCommand H key P i o res) w := by
  unfold issueCommand
  refine Safe.guard fun _ => ?_
  refine Safe.read_bind fun w1 _ _ _ => ?_
  refine Safe.ask fun pre w2 _ _ _ hpre => ?_
  refine Safe.guard fun _ => ?_
  refine Safe.write fun c w4 w3 hi3 _ _ hstep => ?_
  obtain ⟨⟨b, hk⟩, hpi⟩ := hi3
  rw [hk.journal] at hstep
  obtain ⟨⟨c', j⟩, hiss, he⟩ := Data.Checks.ok_bind.mp hstep
  obtain ⟨rfl, rfl⟩ := Prod.mk.inj (Except.ok.inj he)
  rcases Book.issueCommand_encode H key (Live.operationObservation_isObj H hpre) hiss with
    ⟨e, -, -, rfl⟩ | ⟨e, hid, hf, hst, -, -, -, -, hpid, rfl⟩
  · refine ⟨⟨⟨b, keeps_grow hk rfl (.refl b) hk.providers rfl rfl⟩, hpi⟩, ?_, .ok trivial⟩
    exact guar_journal hk.journal rfl (.refl b) rfl (fun x hx => hx) rfl fun _ _ h _ => h
  · have hg := Book.grows_issue hid hf
    refine ⟨⟨⟨_, keeps_grow hk rfl hg (hk.providers.issue hpid) rfl rfl⟩, hpi⟩, ?_, .ok trivial⟩
    refine guar_journal hk.journal rfl hg rfl (fun x hx => hx) rfl fun k x hx hc => ?_
    by_cases hke : e.id = k
    · subst hke
      have hnew : (b.issue e hid hf).find e.id = some e := Table.lookup_append_new hid
      rw [hnew] at hx
      cases hx
      rw [hst] at hc
      cases hc
    · exact (Table.lookup_append_ne hke).symm.trans hx

theorem verifyStore_safe : Safe R.ok R.contract me (fun r _ => R.steady → r = .ok ()) (verifyStore H key) w := by
  unfold verifyStore
  have hmeta : ∀ w', R.contract.inv w' → w'.journal.readMeta H key = .ok w'.journal.journalMeta := by
    rintro w' ⟨⟨b, hk⟩, -⟩
    rw [hk.journal]
    exact Book.readMeta_encode H key b
  refine Safe.query_bind (fun e w1 hi1 _ _ he => by rw [hmeta w1 hi1] at he; cases he) fun m w1 hi1 _ _ hm => ?_
  rw [hmeta w1 hi1] at hm
  cases hm
  refine Safe.query fun w2 hi2 hr2 _ hsteady => ?_
  obtain ⟨⟨b, hk⟩, -⟩ := hi1
  rw [R.rely_steady hsteady hr2, hk.journal, Book.verifyRows_encode]

/-- Reopening succeeds when nothing else runs. -/
theorem reopen_safe (hi : R.contract.inv w) :
    Safe R.ok R.contract me (fun r _ => R.steady → r = .ok ()) (reopen H key) w := by
  unfold reopen
  refine Safe.bind hi verifyStore_safe (fun _ w1 _ _ => ?_) fun e w1 _ h hs => absurd (h hs) nofun
  refine Safe.atomic (fun e w3 hi3 _ _ he => ?_) fun a w4 w3 hi3 _ _ hstep => ?_
  · obtain ⟨⟨b, hk⟩, -⟩ := hi3
    rw [hk.journal, (Book.recoverStartedCommands_encode H key b).1] at he
    cases he
  · obtain ⟨⟨b, hk⟩, hpi⟩ := hi3
    obtain ⟨hrec, hg⟩ := Book.recoverStartedCommands_encode H key b
    rw [hk.journal, hrec] at hstep
    obtain ⟨-, rfl⟩ := Prod.mk.inj (Except.ok.inj hstep)
    refine ⟨⟨⟨_, keeps_grow hk rfl hg hk.providers.recoverStarted rfl rfl⟩, hpi⟩, ?_, fun _ => rfl⟩
    exact guar_journal hk.journal rfl hg rfl (fun x hx => hx) rfl (Book.open_recoverStarted b)

/-! ## Every run -/

/-- What a call's result says about the store, then and ever after. -/
structure Post (R : Regime H key P) (call : Call) (r : Except Error Answer) (w : World π) : Prop where
  receipt : ∀ rc, r = .ok (.receipt rc) → Receipted H key rc w
  reopen : call = .reopen → R.steady → r = .ok .done

variable {resolve : Command → Args → Behaviour → ProviderFault → JournalRecord → Prog Label (World π) Error CommandReceipt}

theorem body_safe (call : Call) (hresolve : ∀ c args behaviour pf r w', call = .reconcile c args behaviour pf →
      Ambiguous R c r w w' → Safe R.ok R.contract me (OnOk (Receipted H key)) (resolve c args behaviour pf r) w')
    (hi : R.contract.inv w) :
    Safe R.ok R.contract me (Post R call) (body H key P resolve me call) w := by
  cases call with
  | issue i o res =>
    exact Safe.bind hi issueCommand_safe (fun c w' _ _ => ⟨nofun, nofun⟩)
      fun e w' _ _ => ⟨nofun, nofun⟩
  | execute c args behaviour pf fault =>
    refine Safe.bind hi (execute_safe hi) (fun rc w' _ h => ⟨fun rc' he => ?_, nofun⟩)
      fun e w' _ _ => ⟨nofun, nofun⟩
    cases he
    exact h rc rfl
  | reconcile c args behaviour pf =>
    refine Safe.bind hi (reconcileWith_safe hi fun r w' => hresolve c args behaviour pf r w' rfl)
      (fun rc w' _ h => ⟨fun rc' he => ?_, nofun⟩)
      fun e w' _ _ => ⟨nofun, nofun⟩
    cases he
    exact h rc rfl
  | reopen =>
    refine Safe.bind hi (reopen_safe hi) (fun _ w' _ h => ⟨nofun, fun _ _ => rfl⟩)
      fun e w' _ h => ⟨nofun, fun _ hs => absurd (h hs) nofun⟩
  | external change =>
    refine Safe.modify_bind fun w1 hi1 _ _ => ⟨⟨?_, R.inv_disturb hi1.2⟩, ⟨fun i _ => ?_, R.extra_disturb⟩,
      ⟨nofun, nofun⟩⟩
    · obtain ⟨b, hk⟩ := hi1.1
      exact ⟨b, hk.journal, hk.providers, hk.starters, hk.started, hk.invocations, hk.invoked⟩
    · exact ⟨fun b hb => ⟨b, hb, .refl b⟩, fun _ h => h, fun _ _ h => h⟩

theorem keeps_fresh (h : Fresh H key w) : Keeps H key P.face.providerId Book.empty w where
  journal := h.1
  providers := nofun
  starters := by rw [h.2.2]; exact List.nodup_nil
  started := by rw [h.2.2]; intro i hi; cases hi
  invocations := by rw [h.2.1]; exact List.nodup_nil
  invoked := by rw [h.2.1]; intro i hi; cases hi

theorem meets {S : System Call Label (World π) Error Answer}
    (hinit : ∀ w, S.init w → Fresh H key w ∧ R.pinv w.provider) (hbody : S.body = body H key P resolve)
    (hok : S.ok = R.ok)
    (hresolve : ∀ me c args behaviour pf r conf w', S.start (.reconcile c args behaviour pf) conf →
      Ambiguous R c r conf.st w' → Safe R.ok R.contract me (OnOk (Receipted H key)) (resolve c args behaviour pf r) w')
    (hapart : S.Solo ∨ ∀ i j s s', i ≠ j → R.contract.inv s → R.contract.inv s' → R.contract.guar j s s' → R.rely i s s') :
    S.Meets R.contract (Post R) where
  init w hw := ⟨⟨_, keeps_fresh (hinit w hw).1⟩, (hinit w hw).2⟩
  body me call c hstart hi := by
    rw [hbody, hok]
    exact body_safe call (fun c' args behaviour pf r w' he => hresolve me c' args behaviour pf r c w' (he ▸ hstart)) hi
  apart := hapart
  stable _ _ _ _ _ _ _ hg h :=
    ⟨fun rc hrc => (h.receipt rc hrc).evolves (evolves_of_guar hg (Nat.succ_ne_self _)), h.reopen⟩

end Regime

end Aegis.Lifecycle.Coordinator
