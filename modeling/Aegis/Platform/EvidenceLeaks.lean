/-
  Aegis.Platform.EvidenceLeaks — the leak scanner for evidence (serving_security.py), which searches the
  JSON text of a payload.

  A forbidden value is searched for as it is, and stands in the text as JSON escapes it.
  - `Has.quoted`: every key and value of a payload stands in its text, escaped and in quotation marks.
  - `scanner_complete_iff`: no payload leaks a value exactly when the value is part of its own escaped
    form, or a sensitive pattern is found in that.
  - `quoted_leaks`: a value with a quotation mark in the middle is missed.
-/

import Aegis.Data.JsonText
import Aegis.Data.Regex
import Aegis.Data.Sorted

namespace Aegis.Platform.Evidence

open Data
open Data.Json (escapedText quotedText quotedText_toList)

/-! ## The text of a payload -/

inductive Payload where
  /-- `null`, a truth value or a number, as JSON writes it. -/
  | literal (text : String)
  | str (s : String)
  | arr (items : List Payload)
  | obj (fields : List (String × Payload))

def joined : List (List Char) → List Char
  | [] => []
  | [x] => x
  | x :: y :: ys => x ++ ',' :: joined (y :: ys)

mutual

/-- `json.dumps(payload, sort_keys=True, separators=(",", ":"), ensure_ascii=False)`. -/
def Payload.dumps : Payload → List Char
  | .literal text => text.toList
  | .str s => (quotedText s).toList
  | .arr items => '[' :: (joined (dumpsItems items) ++ [']'])
  | .obj fields => '\x7b' :: (joined ((sortOn Prod.fst (dumpsFields fields)).map fun f => (quotedText f.1).toList ++ ':' :: f.2) ++ ['\x7d'])

def dumpsItems : List Payload → List (List Char)
  | [] => []
  | p :: ps => p.dumps :: dumpsItems ps

def dumpsFields : List (String × Payload) → List (String × List Char)
  | [] => []
  | (name, p) :: fields => (name, p.dumps) :: dumpsFields fields

end

/-- The strings of a payload, keys and values, at any depth. -/
inductive Payload.Has : Payload → String → Prop where
  | str (s : String) : Has (.str s) s
  | item {items : List Payload} {p : Payload} {s : String} : p ∈ items → Has p s → Has (.arr items) s
  | key {fields : List (String × Payload)} {f : String × Payload} : f ∈ fields → Has (.obj fields) f.1
  | value {fields : List (String × Payload)} {f : String × Payload} {s : String} : f ∈ fields → Has f.2 s → Has (.obj fields) s

/-! ## The scanner -/

/-- `re.IGNORECASE`: what a character is compared as. -/
def folded (c : Char) : Char :=
  if 'A' ≤ c ∧ c ≤ 'Z' then Char.ofNat (c.toNat + 32)
  else if c.toNat = 0x130 ∨ c.toNat = 0x131 then 'i' else if c.toNat = 0x17f then 's' else if c.toNat = 0x212a then 'k'
  else c

/-- A literal in small letters. -/
def literal (text : String) : Regex := .seqs (text.toList.map fun c => .letter fun d => folded d = c)

/-- `[A-Za-z0-9_-]`. -/
def tokenLetter (c : Char) : Bool := (folded c).isLower || c.isDigit || c = '_' || c = '-'

def SENSITIVE_EVIDENCE_PATTERNS : List Regex := [
  .seqs [literal "-----begin ", .alt (.alt (literal "rsa ") (literal "ec ")) .empty, literal "private key-----"],
  .seqs [literal "authorization", .many Data.isSpace, literal ":", .many Data.isSpace, literal "bearer", .alt (.letter Data.isSpace) .atEnd],
  .seqs [literal "bearer", .atLeast Data.isSpace 1, literal "eyj", .atLeast tokenLetter 8, literal ".", literal "eyj", .atLeast tokenLetter 8,
    literal ".", .atLeast tokenLetter 8],
  .seqs [literal "eyj", .atLeast tokenLetter 16, literal ".", literal "eyj", .atLeast tokenLetter 16, literal ".", .atLeast tokenLetter 16]]

/-- A pattern is found in the text. -/
def sensitive (serialized : List Char) : Bool := SENSITIVE_EVIDENCE_PATTERNS.any fun pattern => pattern.search serialized

def evidenceIsSensitiveMaterialFree (payload : Payload) (forbiddenValues : List String) : Bool :=
  if sensitive payload.dumps then false
  else !(forbiddenValues.any fun value => value ≠ "" ∧ value.toList <:+: payload.dumps)

/-! ## Strings in the text -/

theorem infix_joined {x : List Char} {xs : List (List Char)} (h : x ∈ xs) : x <:+: joined xs := by
  induction xs with
  | nil => cases h
  | cons y ys ih =>
    cases ys with
    | nil =>
      obtain rfl := List.mem_singleton.mp h
      exact List.infix_refl _
    | cons z zs =>
      rw [joined]
      rcases List.mem_cons.mp h with rfl | h
      · exact (List.prefix_append _ _).isInfix
      · exact ((ih h).trans (List.suffix_cons _ _).isInfix).trans (List.suffix_append _ _).isInfix

variable {p : Payload}

theorem mem_dumpsItems {items : List Payload} (h : p ∈ items) : p.dumps ∈ dumpsItems items := by
  induction items with
  | nil => cases h
  | cons q items ih =>
    rw [dumpsItems, List.mem_cons]
    rcases List.mem_cons.mp h with rfl | h
    · exact .inl rfl
    · exact .inr (ih h)

variable {fields : List (String × Payload)} {f : String × Payload} {a v : List Char} {z : Char}

theorem mem_dumpsFields (h : f ∈ fields) : (f.1, f.2.dumps) ∈ dumpsFields fields := by
  induction fields with
  | nil => cases h
  | cons g fields ih =>
    rw [dumpsFields, List.mem_cons]
    rcases List.mem_cons.mp h with rfl | h
    · exact .inl rfl
    · exact .inr (ih h)

theorem infix_enclosed {x xs : List Char} (h : x <:+: xs) (c d : Char) : x <:+: c :: (xs ++ [d]) :=
  (h.trans (List.prefix_append _ _).isInfix).trans (List.suffix_cons _ _).isInfix

theorem infix_field (h : f ∈ fields) : (quotedText f.1).toList ++ ':' :: f.2.dumps <:+: (Payload.obj fields).dumps := by
  have hmem : (f.1, f.2.dumps) ∈ sortOn Prod.fst (dumpsFields fields) := mem_sortOn.mpr (mem_dumpsFields h)
  rw [Payload.dumps]
  refine infix_enclosed (infix_joined (List.mem_map.mpr ⟨_, hmem, ?_⟩)) _ _
  rfl

theorem Payload.Has.quoted {s : String} (h : p.Has s) : (quotedText s).toList <:+: p.dumps := by
  induction h with
  | str s => rw [Payload.dumps]
  | item hin _ ih =>
    rw [Payload.dumps]
    exact infix_enclosed (ih.trans (infix_joined (mem_dumpsItems hin))) _ _
  | key hin => exact (List.prefix_append _ _).isInfix.trans (infix_field hin)
  | value hin _ ih => exact (ih.trans ((List.suffix_cons _ _).isInfix.trans (List.suffix_append _ _).isInfix)).trans (infix_field hin)

/-- A part of a string stands escaped in the text. -/
theorem escaped_infix {s : String} (h : p.Has s) (hv : v <:+: s.toList) : escapedText v <:+: p.dumps := by
  obtain ⟨x, y, hs⟩ := hv
  have hpart : escapedText v <:+: escapedText s.toList := by
    rw [← hs, escapedText, escapedText, List.flatMap_append, List.flatMap_append]
    exact ⟨_, _, rfl⟩
  have hquoted := h.quoted
  rw [quotedText_toList] at hquoted
  exact (infix_enclosed hpart _ _).trans hquoted

/-! ## What is found between letters that no pattern uses -/

/-- Letters that JSON writes as they are. -/
def plain : List Char := ['~', '!', '#', '%', '&']

theorem patterns_use : ∀ pattern ∈ SENSITIVE_EVIDENCE_PATTERNS, pattern.consumes = true ∧
    ∀ z ∈ '"' :: plain, pattern.uses z = false := by
  simp only [plain, List.forall_mem_cons, List.not_mem_nil, false_implies, implies_true, and_true]
  decide +kernel

theorem plain_written : ∀ z ∈ plain, escapedText [z] = [z] ∧ z ≠ '\n' := by
  simp only [plain, List.forall_mem_cons, List.not_mem_nil, false_implies, implies_true, and_true]
  decide +kernel

theorem sensitive_iff {cs : List Char} : sensitive cs = true ↔ ∃ pattern ∈ SENSITIVE_EVIDENCE_PATTERNS, pattern.search cs = true := by
  rw [sensitive, List.any_eq_true]

/-- What is found before a quotation mark is found wherever the text stands. -/
theorem sensitive_between (hz : z ∈ '"' :: plain) (hline : z ≠ '\n') (h : sensitive (a ++ [z]) = true)
    (pre post : List Char) : sensitive (pre ++ (a ++ post)) = true := by
  obtain ⟨pattern, hpattern, hfound⟩ := sensitive_iff.mp h
  obtain ⟨hconsumes, huses⟩ := patterns_use pattern hpattern
  exact sensitive_iff.mpr ⟨pattern, hpattern, Regex.search_between (huses z hz) hline hconsumes hfound pre post⟩

theorem sensitive_enclosed (hz : z ∈ plain) (h : sensitive ('"' :: z :: (a ++ [z, '"'])) = true) :
    sensitive (a ++ ['"']) = true := by
  obtain ⟨pattern, hpattern, hfound⟩ := sensitive_iff.mp h
  obtain ⟨hconsumes, huses⟩ := patterns_use pattern hpattern
  have hline := (plain_written z hz).2
  have hz' := huses z (List.mem_cons_of_mem _ hz)
  have hquote := huses '"' List.mem_cons_self
  rcases Regex.search_cut (a := ['"']) hz' hline hconsumes hfound with hleft | hrest
  · rw [Regex.not_search (by simp [hz', hquote]) hconsumes] at hleft
    cases hleft
  · rcases Regex.search_cut hz' hline hconsumes hrest with ha | hright
    · exact sensitive_iff.mpr ⟨pattern, hpattern, Regex.search_between hz' hline hconsumes ha [] ['"']⟩
    · rw [Regex.not_search (by simp [hquote]) hconsumes] at hright
      cases hright

/-- A piece that does not begin with `z`, nor has it second, is the letter before it or comes after. -/
theorem after_of_append {x y : List Char} {q : Char} (h : x ++ (v ++ y) = q :: z :: a) (hv : v ≠ []) (hz : z ∉ v.take 2) :
    v = [q] ∨ ∃ x', x' ++ (v ++ y) = a := by
  cases v with
  | nil => exact absurd rfl hv
  | cons c v =>
    cases x with
    | nil =>
      obtain ⟨rfl, htail⟩ := List.cons.inj h
      cases v with
      | nil => exact .inl rfl
      | cons d v => exact absurd (by simp [(List.cons.inj htail).1]) hz
    | cons b x =>
      obtain ⟨-, htail⟩ := List.cons.inj h
      cases x with
      | nil => exact absurd (by simp [(List.cons.inj htail).1]) hz
      | cons b' x => exact .inr ⟨x, (List.cons.inj htail).2⟩

/-- Some plain letter is neither among the first two nor the last two. -/
theorem exists_plain (v : List Char) : ∃ z ∈ plain, z ∉ v.take 2 ∧ z ∉ v.reverse.take 2 := by
  by_contra hno
  push Not at hno
  have hsub : plain ⊆ v.take 2 ++ v.reverse.take 2 := by
    intro z hz
    by_cases hin : z ∈ v.take 2
    · exact List.mem_append_left _ hin
    · exact List.mem_append_right _ (hno z hz hin)
  have hlength := (List.subperm_of_subset (by decide : plain.Nodup) hsub).length_le
  simp only [List.length_append, List.length_take, plain, List.length_cons, List.length_nil] at hlength
  omega

theorem infix_enclosed_iff (h : v <:+: '"' :: z :: (a ++ [z, '"'])) (hv : v ≠ []) (hfirst : z ∉ v.take 2)
    (hlast : z ∉ v.reverse.take 2) : v = ['"'] ∨ v <:+: a := by
  obtain ⟨x, y, hxy⟩ := h
  rw [List.append_assoc] at hxy
  rcases after_of_append hxy hv hfirst with hq | ⟨x', hx'⟩
  · exact .inl hq
  · -- the same from behind
    have hback : y.reverse ++ (v.reverse ++ x'.reverse) = '"' :: z :: a.reverse := by
      have hreversed := congrArg List.reverse hx'
      simpa using hreversed
    rcases after_of_append hback (by simpa using hv) hlast with hq | ⟨y', hy'⟩
    · exact .inl (List.reverse_eq_iff.mp hq)
    · refine .inr ⟨x', y'.reverse, ?_⟩
      have hreversed := congrArg List.reverse hy'
      simpa using hreversed

/-! ## Values -/

/-- A value is found in every payload that has it exactly when it is part of its own escaped form, or that is sensitive. -/
theorem scanner_complete_iff (value : String) :
    (∀ payload forbiddenValues, value ∈ forbiddenValues → evidenceIsSensitiveMaterialFree payload forbiddenValues = true →
      ∀ s, payload.Has s → value ≠ "" → ¬ value.toList <:+: s.toList) ↔
      (value = "" ∨ value.toList <:+: escapedText value.toList ∨ sensitive (escapedText value.toList ++ ['"']) = true) := by
  constructor
  · intro hcomplete
    by_contra hno
    push Not at hno
    obtain ⟨hne, hnot, hsensitive⟩ := hno
    obtain ⟨z, hz, hfirst, hlast⟩ := exists_plain value.toList
    have hv : value.toList ≠ [] := fun hnil => hne (String.toList_inj.mp hnil)
    -- the value between two plain letters
    have hdumps : (Payload.str (String.ofList (z :: (value.toList ++ [z])))).dumps = '"' :: z :: (escapedText value.toList ++ [z, '"']) := by
      have hwritten := (plain_written z hz).1
      simp only [escapedText, List.flatMap_cons, List.flatMap_nil, List.append_nil] at hwritten
      rw [Payload.dumps, quotedText_toList, String.toList_ofList]
      simp [escapedText, hwritten]
    refine hcomplete (.str (String.ofList (z :: (value.toList ++ [z])))) [value] List.mem_cons_self ?_ _ (.str _) hne ⟨[z], [z], by simp⟩
    rw [evidenceIsSensitiveMaterialFree, hdumps, if_neg fun h => hsensitive (sensitive_enclosed hz h), List.any_cons, List.any_nil]
    rw [decide_eq_false fun h => ?_]
    · rfl
    · rcases infix_enclosed_iff h.2 hv hfirst hlast with hquote | hself
      · rw [hquote] at hnot
        exact hnot ⟨['\\'], [], by decide +kernel⟩
      · exact hnot hself
  · intro hfound payload forbiddenValues hvalue hfree s hs hne hin
    have hescaped : escapedText value.toList <:+: payload.dumps := escaped_infix hs hin
    rw [evidenceIsSensitiveMaterialFree] at hfree
    split_ifs at hfree with hsensitive
    rcases hfound with hempty | hself | hpattern
    · exact hne hempty
    · rw [Bool.not_eq_true', List.any_eq_false] at hfree
      exact hfree value hvalue (decide_eq_true ⟨hne, hself.trans hescaped⟩)
    · obtain ⟨pre, post, hdumps⟩ := hescaped
      rw [← hdumps, List.append_assoc] at hsensitive
      exact hsensitive (sensitive_between List.mem_cons_self (by decide) hpattern pre post)

namespace Sample

/-- The payload is the value, and the value is missed. -/
theorem quoted_leaks : ∃ payload s, Payload.Has payload s ∧ "a\"b".toList <:+: s.toList ∧
    evidenceIsSensitiveMaterialFree payload ["a\"b"] = true :=
  ⟨.str "a\"b", _, .str _, List.infix_refl _, by decide +kernel⟩

end Sample

end Aegis.Platform.Evidence
