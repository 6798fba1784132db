/-
  Aegis.Assurance.Regression — the versioned assurance corpus (P6-A), which the gates of Phase 6
  govern, and its digests.

  Every gate reads a corpus through the same checks and keeps its cases in a dict by id
  (`validateCorpus`, with the rejections of the gate); ids are then keys, so the dict is the list of
  cases. A corpus digest covers the cases in the order of their ids: corpora of one digest have the
  same cases (`same_of_digest`).
-/

import Aegis.Agentic.Evidence
import Aegis.Data.Checks

namespace Aegis.Assurance

open Data Data.Checks

/-- What the gates take from Python: digests, and `str.casefold`. -/
structure Runtime extends Hashing where
  casefold : String → String

/-- A digest of sixty-four letters for each of up to sixteen texts, and a longer one for every other. -/
def tabledDigest (docs : List Json) (j : Json) : String :=
  if docs.idxOf j < docs.length ∧ docs.idxOf j < 16 then Agentic.hex (Nat.digitChar (docs.idxOf j))
  else String.ofList ('z' :: j.code)

theorem digitChar_inj : ∀ m < 16, ∀ n < 16, Nat.digitChar m = Nat.digitChar n → m = n := by decide

theorem digitChar_ne : ∀ n < 16, Nat.digitChar n ≠ 'z' := by decide

theorem hex_toList (c : Char) : (Agentic.hex c).toList = c :: List.replicate 63 c := String.toList_ofList

theorem tabledDigest_injective (docs : List Json) : Function.Injective (tabledDigest docs) := by
  intro a b h
  unfold tabledDigest at h
  have htext := congrArg String.toList h
  by_cases ha : docs.idxOf a < docs.length ∧ docs.idxOf a < 16
  · by_cases hb : docs.idxOf b < docs.length ∧ docs.idxOf b < 16
    · rw [if_pos ha, if_pos hb, hex_toList, hex_toList] at htext
      have hidx := digitChar_inj _ ha.2 _ hb.2 (List.cons.inj htext).1
      exact (List.idxOf_inj (List.idxOf_lt_length_iff.mp ha.1)).mp hidx
    · rw [if_pos ha, if_neg hb, hex_toList, String.toList_ofList] at htext
      exact absurd (List.cons.inj htext).1 (digitChar_ne _ ha.2)
  · by_cases hb : docs.idxOf b < docs.length ∧ docs.idxOf b < 16
    · rw [if_neg ha, if_pos hb, hex_toList, String.toList_ofList] at htext
      exact absurd (List.cons.inj htext).1.symm (digitChar_ne _ hb.2)
    · rw [if_neg ha, if_neg hb, String.toList_ofList, String.toList_ofList] at htext
      have hcode : a.code ++ [] = b.code ++ [] := by
        rw [(List.cons.inj htext).2]
      exact (Json.code_inj hcode).1

theorem tabledDigest_not_blank (docs : List Json) (j : Json) : blank (tabledDigest docs j) = false := by
  unfold tabledDigest
  split_ifs with h
  · rw [blank, hex_toList, List.all_cons]
    have hdigit : ∀ n < 16, isSpace (Nat.digitChar n) = false := by decide
    rw [hdigit _ h.2, Bool.false_and]
  · rw [blank, String.toList_ofList, List.all_cons]
    rfl

theorem tabledDigest_one_not_blank (doc j : Json) : blank (tabledDigest [doc] j) = false := tabledDigest_not_blank [doc] j

/-- A runtime for texts in small letters and a few documents, whose digests look like those of SHA-256. -/
def Runtime.tabled (docs : List Json) : Runtime where
  sha256 := tabledDigest docs
  hmac _ := tabledDigest docs
  sha256_not_blank := tabledDigest_not_blank docs
  casefold s := s

theorem idxOf_fresh {docs : List Json} {j : Json} {n : Nat} (hj : docs[n]? = some j) (hfresh : j ∉ docs.take n) :
    docs.idxOf j = n := by
  induction docs generalizing n with
  | nil => cases hj
  | cons d docs ih =>
    cases n with
    | zero =>
      cases hj
      exact List.idxOf_cons_self
    | succ n =>
      rw [List.take_succ_cons, List.mem_cons, not_or] at hfresh
      rw [List.idxOf_cons_ne docs (Ne.symm hfresh.1), ih hj hfresh.2]

/-- The `n`th text has the `n`th digest. -/
theorem tabled_digest {docs : List Json} {j : Json} (n : Nat) (hn : n < 16) (hj : docs[n]? = some j) (hfresh : j ∉ docs.take n) :
    (Runtime.tabled docs).sha256 j = Agentic.hex (Nat.digitChar n) := by
  have hlt : n < docs.length := (List.getElem?_eq_some_iff.mp hj).1
  show tabledDigest docs j = _
  rw [tabledDigest, idxOf_fresh hj hfresh, if_pos ⟨hlt, hn⟩]

@[simp] theorem hex_inj {a b : Char} : Agentic.hex a = Agentic.hex b ↔ a = b := by
  constructor
  · intro h
    have htext := congrArg String.toList h
    rw [hex_toList, hex_toList] at htext
    exact (List.cons.inj htext).1
  · rintro rfl
    rfl

inductive AssuranceExpectation where
  | block
  | allow
  deriving DecidableEq, Repr

def AssuranceExpectation.value : AssuranceExpectation → String
  | block => "block"
  | allow => "allow"

inductive AssuranceSeverity where
  | critical
  | high
  | medium
  | low
  deriving DecidableEq, Repr

def AssuranceSeverity.value : AssuranceSeverity → String
  | critical => "critical"
  | high => "high"
  | medium => "medium"
  | low => "low"

/-- `_severity_rank`, `_SEVERITY_RANK`. -/
def severityRank : AssuranceSeverity → Nat
  | .low => 1
  | .medium => 2
  | .high => 3
  | .critical => 4

structure AssuranceCase where
  caseId : String
  boundary : String
  attackClass : String
  severity : AssuranceSeverity
  expectation : AssuranceExpectation
  invariant : String
  deriving DecidableEq, Repr

def P6A_CORPUS_SCHEMA_VERSION : String := "aegis-cross-boundary-corpus-v1"

structure AssuranceCorpus where
  corpusId : String
  version : String
  cases : List AssuranceCase
  schemaVersion : String
  deriving DecidableEq, Repr

/-- `case.expectation == BLOCK`. -/
def AssuranceCase.Blocks (c : AssuranceCase) : Prop := c.expectation = .block

/-- `case.severity in {HIGH, CRITICAL}`. -/
def AssuranceCase.Grave (c : AssuranceCase) : Prop := c.severity = .high ∨ c.severity = .critical

instance decidableBlocks (c : AssuranceCase) : Decidable c.Blocks := inferInstanceAs (Decidable (_ = _))

instance decidableGrave (c : AssuranceCase) : Decidable c.Grave := inferInstanceAs (Decidable (_ ∨ _))

/-- `{case.case_id: case for case in corpus.cases}`. -/
def AssuranceCorpus.find (corpus : AssuranceCorpus) (caseId : String) : Option AssuranceCase :=
  corpus.cases.find? fun c => c.caseId = caseId

def AssuranceCorpus.ids (corpus : AssuranceCorpus) : List String := corpus.cases.map (·.caseId)

/-! ## Canonical documents -/

section
variable (rt : Runtime)

/-- `_is_sha256`. -/
def isSha256 (value : String) : Prop :=
  (rt.casefold value).length = 64 ∧ ∀ c ∈ (rt.casefold value).toList, c ∈ Agentic.Evidence.hexDigits

/-- `n` letters, all of them hexadecimal digits. -/
def hexText : Nat → List Char → Bool
  | 0, [] => true
  | n + 1, c :: cs => Agentic.Evidence.hexDigit c && hexText n cs
  | _, _ => false

theorem hexText_iff {n : Nat} {cs : List Char} : hexText n cs = true ↔ cs.length = n ∧ ∀ c ∈ cs, Agentic.Evidence.hexDigit c = true := by
  induction cs generalizing n with
  | nil => cases n <;> simp [hexText]
  | cons c cs ih =>
    cases n with
    | zero => simp [hexText]
    | succ n =>
      rw [hexText, Bool.and_eq_true, ih, List.length_cons, List.forall_mem_cons]
      constructor
      · rintro ⟨hc, hlen, hcs⟩
        exact ⟨by omega, hc, hcs⟩
      · rintro ⟨hlen, hc, hcs⟩
        exact ⟨hc, by omega, hcs⟩

instance decidableIsSha256 (value : String) : Decidable (isSha256 rt value) :=
  decidable_of_iff (hexText 64 (letters (rt.casefold value)) = true) (by
    rw [isSha256, letters_eq, hexText_iff, String.length_toList]
    simp only [Agentic.Evidence.mem_hexDigits])

theorem hex_digits {c : Char} (hc : Agentic.Evidence.hexDigit c = true) :
    (Agentic.hex c).length = 64 ∧ ∀ d ∈ (Agentic.hex c).toList, d ∈ Agentic.Evidence.hexDigits := by
  rw [← String.length_toList, hex_toList]
  refine ⟨by simp, fun d hd => ?_⟩
  have hd : d = c := by
    rcases List.mem_cons.mp hd with hd | hd
    · exact hd
    · exact List.eq_of_mem_replicate hd
  exact (Agentic.Evidence.mem_hexDigits d).mpr (hd ▸ hc)

theorem isSha256_hex {docs : List Json} {c : Char} (hc : Agentic.Evidence.hexDigit c = true) :
    isSha256 (.tabled docs) (Agentic.hex c) := hex_digits hc

/-- Digests are sixty-four small hexadecimal digits, which `casefold` leaves alone. -/
structure Runtime.Hex : Prop where
  digest : ∀ j, (rt.sha256 j).length = 64 ∧ ∀ c ∈ (rt.sha256 j).toList, c ∈ Agentic.Evidence.hexDigits
  casefold : ∀ s : String, (∀ c ∈ s.toList, c ∈ Agentic.Evidence.hexDigits) → rt.casefold s = s

namespace Runtime.Hex

variable {rt} (h : rt.Hex)
include h

theorem casefold_digest (j : Json) : rt.casefold (rt.sha256 j) = rt.sha256 j := h.casefold _ (h.digest j).2

theorem isSha256_digest (j : Json) : isSha256 rt (rt.sha256 j) := by
  rw [isSha256, h.casefold_digest]
  exact h.digest j

theorem casefold_casefold {s : String} (hs : isSha256 rt s) : rt.casefold (rt.casefold s) = rt.casefold s := h.casefold _ hs.2

theorem isSha256_casefold {s : String} (hs : isSha256 rt s) : isSha256 rt (rt.casefold s) := by
  rw [isSha256, h.casefold_casefold hs]
  exact hs

end Runtime.Hex

def canonicalCase (c : AssuranceCase) : Json := .obj [
  ("attack_class", .str c.attackClass), ("boundary", .str c.boundary), ("case_id", .str c.caseId),
  ("expectation", .str c.expectation.value), ("invariant", .str c.invariant), ("severity", .str c.severity.value)]

def caseDefinitionDigest (c : AssuranceCase) : String := rt.sha256 (canonicalCase c)

def canonicalCorpus (corpus : AssuranceCorpus) : Json := .obj [
  ("cases", .arr ((sortOn AssuranceCase.caseId corpus.cases).map canonicalCase)), ("corpus_id", .str corpus.corpusId),
  ("schema_version", .str corpus.schemaVersion), ("version", .str corpus.version)]

def corpusDigest (corpus : AssuranceCorpus) : String := rt.sha256 (canonicalCorpus corpus)

end

theorem AssuranceExpectation.value_injective : Function.Injective AssuranceExpectation.value := by
  intro a b
  cases a <;> cases b <;> simp [value]

theorem AssuranceSeverity.value_injective : Function.Injective AssuranceSeverity.value := by
  intro a b
  cases a <;> cases b <;> simp [value]

theorem canonicalCase_injective : Function.Injective canonicalCase := by
  intro a b h
  simp only [canonicalCase, Json.obj_cons, Json.obj_nil, Json.field.injEq, Json.str.injEq, true_and, and_true] at h
  obtain ⟨hclass, hboundary, hid, hexp, hinv, hsev⟩ := h
  cases a
  cases b
  simp only [AssuranceCase.mk.injEq]
  exact ⟨hid, hboundary, hclass, AssuranceSeverity.value_injective hsev, AssuranceExpectation.value_injective hexp, hinv⟩

/-- Corpora that differ in the order of their cases at most. -/
structure AssuranceCorpus.Same (a b : AssuranceCorpus) : Prop where
  corpusId : a.corpusId = b.corpusId
  version : a.version = b.version
  schemaVersion : a.schemaVersion = b.schemaVersion
  cases : a.cases.Perm b.cases

namespace AssuranceCorpus.Same

variable {a b c : AssuranceCorpus}

theorem mem (h : a.Same b) {k : AssuranceCase} : k ∈ a.cases ↔ k ∈ b.cases := h.cases.mem_iff

end AssuranceCorpus.Same

section
variable {rt : Runtime}

theorem case_of_digest (hH : Function.Injective rt.sha256) {a b : AssuranceCase}
    (h : caseDefinitionDigest rt a = caseDefinitionDigest rt b) : a = b :=
  canonicalCase_injective (hH h)

theorem same_of_digest (hH : Function.Injective rt.sha256) {a b : AssuranceCorpus} (h : corpusDigest rt a = corpusDigest rt b) :
    a.Same b := by
  have hdoc := hH h
  simp only [canonicalCorpus, Json.obj_cons, Json.obj_nil, Json.field.injEq, Json.str.injEq, Json.arr_inj, true_and,
    and_true] at hdoc
  obtain ⟨hcases, hid, hschema, hversion⟩ := hdoc
  have hsorted := List.map_injective_iff.mpr canonicalCase_injective hcases
  refine ⟨hid, hversion, hschema, ?_⟩
  exact (perm_sortOn _ a.cases).symm.trans (hsorted ▸ perm_sortOn _ b.cases)

end

/-! ## Validation -/

/-- The checks of a case that do not look at others. -/
structure AssuranceCase.Complete (c : AssuranceCase) : Prop where
  caseId : c.caseId ≠ ""
  boundary : c.boundary ≠ ""
  attackClass : c.attackClass ≠ ""
  invariant : c.invariant ≠ ""

structure AssuranceCorpus.WellFormed (corpus : AssuranceCorpus) : Prop where
  schemaVersion : corpus.schemaVersion = P6A_CORPUS_SCHEMA_VERSION
  corpusId : corpus.corpusId ≠ ""
  version : corpus.version ≠ ""
  cases : corpus.cases ≠ []
  complete : ∀ c ∈ corpus.cases, c.Complete
  nodup : corpus.ids.Nodup

/-- `_validate_corpus` of a gate, which rejects the metadata, an incomplete case, and a second case of one id. -/
def validateCorpus {ε : Type} (metadata : ε) (invalid duplicate : AssuranceCase → ε) (corpus : AssuranceCorpus) :
    Except ε Unit := do
  raiseIf (corpus.schemaVersion ≠ P6A_CORPUS_SCHEMA_VERSION ∨ corpus.corpusId = "" ∨ corpus.version = "" ∨
    corpus.cases = []) metadata
  scan (fun seen c => do
    raiseIf (c.caseId = "" ∨ c.boundary = "" ∨ c.attackClass = "" ∨ c.invariant = "") (invalid c)
    raiseIf (c.caseId ∈ seen.map AssuranceCase.caseId) (duplicate c)) [] corpus.cases

@[simp] theorem validateCorpus_ok {ε : Type} {metadata : ε} {invalid duplicate : AssuranceCase → ε} {corpus : AssuranceCorpus}
    {u : Unit} : validateCorpus metadata invalid duplicate corpus = .ok u ↔ corpus.WellFormed := by
  have hcase : ∀ (seen : List AssuranceCase) (c : AssuranceCase), ((do
      raiseIf (c.caseId = "" ∨ c.boundary = "" ∨ c.attackClass = "" ∨ c.invariant = "") (invalid c)
      raiseIf (c.caseId ∈ seen.map AssuranceCase.caseId) (duplicate c)) : Except ε Unit) = .ok () ↔
        c.Complete ∧ c.caseId ∉ seen.map AssuranceCase.caseId := by
    intro seen c
    simp only [ok_seq, raiseIf_ok, not_or]
    constructor
    · rintro ⟨⟨h1, h2, h3, h4⟩, h5⟩
      exact ⟨⟨h1, h2, h3, h4⟩, h5⟩
    · rintro ⟨⟨h1, h2, h3, h4⟩, h5⟩
      exact ⟨⟨h1, h2, h3, h4⟩, h5⟩
  simp only [validateCorpus, ok_seq, raiseIf_ok, scan_keys_ok hcase, not_or, not_not]
  constructor
  · rintro ⟨⟨h1, h2, h3, h4⟩, h5, h6⟩
    exact ⟨h1, h2, h3, h4, h5, h6⟩
  · rintro ⟨h1, h2, h3, h4, h5, h6⟩
    exact ⟨⟨h1, h2, h3, h4⟩, h5, h6⟩

namespace AssuranceCorpus

variable {corpus : AssuranceCorpus} {c k : AssuranceCase} {caseId : String}

theorem mem_of_find (h : corpus.find caseId = some c) : c ∈ corpus.cases ∧ c.caseId = caseId :=
  ⟨List.mem_of_find?_eq_some h, by simpa using List.find?_some h⟩

theorem WellFormed.find (h : corpus.WellFormed) (hc : c ∈ corpus.cases) : corpus.find c.caseId = some c :=
  Agentic.Dict.ofItems_self h.nodup hc

theorem WellFormed.unique (h : corpus.WellFormed) (hc : c ∈ corpus.cases) (hk : k ∈ corpus.cases) (he : c.caseId = k.caseId) :
    c = k :=
  List.inj_on_of_nodup_map h.nodup hc hk he

theorem mem_ids : caseId ∈ corpus.ids ↔ ∃ c ∈ corpus.cases, c.caseId = caseId := List.mem_map

end AssuranceCorpus

end Aegis.Assurance
