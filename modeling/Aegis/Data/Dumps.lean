/-
  Data.Dumps — the text of a value: `json.dumps(…, sort_keys=True, separators=(",", ":"),
  ensure_ascii=True)`.

  A text that is only stored, compared or read back is represented by its value (`Data.Json`).
  Where a program joins it with other texts before it hashes, the text itself matters.
  `sorted` orders the fields of every object; `dumps` writes a value as it stands.

  A text is read from left to right, so equal texts are of equal values (`dumps_inj`), and it
  holds no unit separator (`plain_dumps`): where one joins texts, the parts can be told apart.
-/

import Aegis.Data.Json

namespace Data

namespace Json

/-- A field put in its place among sorted ones; code points order names. -/
def insertField (name : String) (value : Json) : Json → Json
  | field m v rest => if m < name then field m v (insertField name value rest) else field name value (field m v rest)
  | j => field name value j

/-- `sort_keys=True`. -/
def sorted : Json → Json
  | field name value rest => insertField name value.sorted rest.sorted
  | cons x xs => cons x.sorted xs.sorted
  | j => j

def hex4 (n : Nat) : String :=
  String.ofList [Nat.digitChar (n / 4096 % 16), Nat.digitChar (n / 256 % 16), Nat.digitChar (n / 16 % 16), Nat.digitChar (n % 16)]

/-- `ensure_ascii=True`: what is not printable ASCII is written by its UTF-16 units. -/
def escape (c : Char) : String :=
  let n := c.toNat
  if n = 0x22 then "\\\"" else if n = 0x5c then "\\\\"
  else if n = 0x0a then "\\n" else if n = 0x0d then "\\r" else if n = 0x09 then "\\t"
  else if n = 0x08 then "\\b" else if n = 0x0c then "\\f"
  else if 0x20 ≤ n ∧ n ≤ 0x7e then c.toString
  else if n < 0x10000 then "\\u" ++ hex4 n
  else "\\u" ++ hex4 (0xd800 + (n - 0x10000) / 0x400) ++ "\\u" ++ hex4 (0xdc00 + (n - 0x10000) % 0x400)

def quoted (s : String) : String := "\"" ++ String.join (s.toList.map escape) ++ "\""

/-- The text of a value, and what it adds after the first item of an array or an object. -/
def render : Json → String × String
  | null => ("null", "")
  | bool b => (if b then "true" else "false", "")
  | int n => (toString n, "")
  | str s => (quoted s, "")
  | nil => ("[]", "]")
  | cons x xs => ("[" ++ x.render.1 ++ xs.render.2, "," ++ x.render.1 ++ xs.render.2)
  | empty => ("\x7b\x7d", "\x7d")
  | field name value rest =>
    ("\x7b" ++ quoted name ++ ":" ++ value.render.1 ++ rest.render.2,
      "," ++ quoted name ++ ":" ++ value.render.1 ++ rest.render.2)

def dumps (j : Json) : String := j.render.1

example : (sorted (obj [("b", arr [int 1, null]), ("a", str "x\n")])).dumps = "\x7b\"a\":\"x\\n\",\"b\":[1,null]\x7d" := by
  decide

/-- `"\x1f".join(…)`. -/
def unitJoin (parts : List String) : String := String.intercalate "\x1f" parts

/-! ## Equal texts have equal values -/

/-- The value of a hexadecimal digit. -/
def hexValue (c : Char) : Nat := if c.isDigit then c.toNat - 48 else c.toNat - 87

def hexValue4 (a b c d : Char) : Nat := ((hexValue a * 16 + hexValue b) * 16 + hexValue c) * 16 + hexValue d

theorem hexValue_digitChar : ∀ n < 16, hexValue (Nat.digitChar n) = n := by decide

theorem hex4_toList (n : Nat) : (hex4 n).toList =
    [Nat.digitChar (n / 4096 % 16), Nat.digitChar (n / 256 % 16), Nat.digitChar (n / 16 % 16), Nat.digitChar (n % 16)] :=
  String.toList_ofList

/-- The code point, or the first half of one, that an escape of four digits stands for. -/
def readUnit : List Char → Option (Nat × List Char)
  | '\\' :: 'u' :: a :: b :: c :: d :: rest => some (hexValue4 a b c d, rest)
  | _ => none

theorem readUnit_hex4 {n : Nat} (hn : n < 65536) (rest : List Char) :
    readUnit ('\\' :: 'u' :: (hex4 n).toList ++ rest) = some (n, rest) := by
  have h1 := hexValue_digitChar (n / 4096 % 16) (Nat.mod_lt _ (by decide))
  have h2 := hexValue_digitChar (n / 256 % 16) (Nat.mod_lt _ (by decide))
  have h3 := hexValue_digitChar (n / 16 % 16) (Nat.mod_lt _ (by decide))
  have h4 := hexValue_digitChar (n % 16) (Nat.mod_lt _ (by decide))
  simp only [hex4_toList, List.cons_append, List.nil_append, readUnit, hexValue4, h1, h2, h3, h4]
  congr 2
  omega

/-- The code point that a backslash and what follows it stand for. -/
def unescapeMark (c : Char) (rest : List Char) : Option (Nat × List Char) :=
  if c = 'u' then
    match readUnit ('\\' :: 'u' :: rest) with
    | none => none
    | some (n, rest) =>
      if 0xd800 ≤ n ∧ n < 0xdc00 then
        (readUnit rest).map fun (m, rest) => (0x10000 + (n - 0xd800) * 0x400 + (m - 0xdc00), rest)
      else some (n, rest)
  else some (if c = 'n' then 0x0a else if c = 'r' then 0x0d else if c = 't' then 0x09 else if c = 'b' then 0x08
    else if c = 'f' then 0x0c else c.toNat, rest)

/-- The code point an escaped text begins with; none at a quotation mark. -/
def unescape : List Char → Option (Nat × List Char)
  | [] => none
  | c :: rest =>
    if c = '\\' then
      match rest with
      | [] => none
      | d :: rest => unescapeMark d rest
    else if c = '"' then none
    else some (c.toNat, rest)

theorem unescape_mark {d : Char} {n : Nat} (rest : List Char) (hd : d ≠ 'u')
    (h : (if d = 'n' then 0x0a else if d = 'r' then 0x0d else if d = 't' then 0x09 else if d = 'b' then 0x08
      else if d = 'f' then 0x0c else d.toNat) = n) : unescape ('\\' :: d :: rest) = some (n, rest) := by
  simp only [unescape, unescapeMark, if_true, if_neg hd, h]

theorem unescape_unit {n : Nat} (hn : n < 0xd800 ∨ 0xdfff < n ∧ n < 0x10000) (rest : List Char) :
    unescape ('\\' :: 'u' :: (hex4 n).toList ++ rest) = some (n, rest) := by
  have hr := readUnit_hex4 (show n < 65536 by omega) rest
  simp only [hex4_toList, List.cons_append, List.nil_append] at hr ⊢
  simp only [unescape, unescapeMark, if_true, hr]
  rw [if_neg (by omega)]

theorem unescape_pair {x y : Nat} (hx : 0xd800 ≤ x ∧ x < 0xdc00) (hy : y < 65536) (rest : List Char) :
    unescape (("\\u" ++ hex4 x ++ "\\u" ++ hex4 y).toList ++ rest) =
      some (0x10000 + (x - 0xd800) * 0x400 + (y - 0xdc00), rest) := by
  have h1 := readUnit_hex4 (show x < 65536 by omega) ('\\' :: 'u' :: (hex4 y).toList ++ rest)
  have h2 := readUnit_hex4 hy rest
  have hu : "\\u".toList = ['\\', 'u'] := rfl
  simp only [List.cons_append] at h1 h2
  simp only [String.toList_append, hu, List.append_assoc, List.cons_append, List.nil_append, unescape, unescapeMark,
    if_true, h1]
  rw [if_pos hx, h2, Option.map_some]

theorem toNat_valid (c : Char) : c.toNat < 0xd800 ∨ 0xdfff < c.toNat ∧ c.toNat < 0x110000 := by
  rcases c.valid with h | ⟨h1, h2⟩
  · exact .inl h
  · exact .inr ⟨h1, h2⟩

theorem unescape_escape (c : Char) (rest : List Char) : unescape ((escape c).toList ++ rest) = some (c.toNat, rest) := by
  have hvalid := toNat_valid c
  have hu : "\\u".toList = ['\\', 'u'] := rfl
  unfold escape
  dsimp only
  split_ifs with h1 h2 h3 h4 h5 h6 h7 h8 h9
  · rw [h1]
    exact unescape_mark rest (by decide) rfl
  · rw [h2]
    exact unescape_mark rest (by decide) rfl
  · rw [h3]
    exact unescape_mark rest (by decide) rfl
  · rw [h4]
    exact unescape_mark rest (by decide) rfl
  · rw [h5]
    exact unescape_mark rest (by decide) rfl
  · rw [h6]
    exact unescape_mark rest (by decide) rfl
  · rw [h7]
    exact unescape_mark rest (by decide) rfl
  · have hq : c ≠ '"' := by
      rintro rfl
      exact h1 (by decide)
    have hb : c ≠ '\\' := by
      rintro rfl
      exact h2 (by decide)
    simp [Char.toString, unescape, hb, hq]
  · rw [String.toList_append, hu]
    exact unescape_unit (by omega) rest
  · rw [unescape_pair (by omega) (by omega), Option.some.injEq, Prod.mk.injEq]
    exact ⟨by omega, rfl⟩

variable {s t : List Char}

/-- Escapes are told apart by what they begin with. -/
theorem escape_inj {c d : Char} (h : (escape c).toList ++ s = (escape d).toList ++ t) : c = d ∧ s = t := by
  have hc := unescape_escape c s
  rw [h, unescape_escape d t, Option.some.injEq, Prod.mk.injEq] at hc
  exact ⟨Char.toNat_inj.mp hc.1.symm, hc.2.symm⟩

theorem escape_ne_quote (c : Char) (s t : List Char) : (escape c).toList ++ s ≠ '"' :: t := by
  intro h
  have hc := unescape_escape c s
  rw [h] at hc
  cases hc

def escaped (cs : List Char) : List Char := cs.flatMap fun c => (escape c).toList

theorem escaped_inj {cs ds s t : List Char} (h : escaped cs ++ '"' :: s = escaped ds ++ '"' :: t) : cs = ds ∧ s = t := by
  induction cs generalizing ds with
  | nil =>
    cases ds with
    | nil => exact ⟨rfl, (List.cons.inj h).2⟩
    | cons d ds =>
      simp only [escaped, List.flatMap_cons, List.append_assoc] at h
      exact absurd h.symm (escape_ne_quote d _ _)
  | cons c cs ih =>
    cases ds with
    | nil =>
      simp only [escaped, List.flatMap_cons, List.append_assoc] at h
      exact absurd h (escape_ne_quote c _ _)
    | cons d ds =>
      simp only [escaped, List.flatMap_cons, List.append_assoc] at h
      obtain ⟨hc, h⟩ := escape_inj h
      obtain ⟨hl, hs⟩ := ih h
      exact ⟨by rw [hc, hl], hs⟩

theorem quoted_toList (s : String) : (quoted s).toList = '"' :: (escaped s.toList ++ ['"']) := by
  simp [quoted, escaped, String.toList_append, String.toList_join, List.flatMap_map]

theorem quoted_inj {a b : String} (h : (quoted a).toList ++ s = (quoted b).toList ++ t) : a = b ∧ s = t := by
  simp only [quoted_toList, List.cons_append, List.append_assoc, List.nil_append] at h
  obtain ⟨hl, hs⟩ := escaped_inj (List.cons.inj h).2
  exact ⟨String.toList_inj.mp hl, hs⟩

/-- What may follow a value. -/
def Ends (s : List Char) : Prop := ∀ c, s.head? = some c → c = ',' ∨ c = ']' ∨ c = '}'

theorem ends_nil : Ends [] := nofun

theorem ends_cons {c : Char} {s : List Char} (h : c = ',' ∨ c = ']' ∨ c = '}') : Ends (c :: s) := by
  intro d hd
  cases hd
  exact h

theorem span_digits {ds s : List Char} (hd : ∀ c ∈ ds, c.isDigit = true) (hs : Ends s) :
    (ds ++ s).span Char.isDigit = (ds, s) := by
  have h0 : s.span Char.isDigit = ([], s) := by
    cases s with
    | nil => rfl
    | cons c s =>
      rcases hs c rfl with rfl | rfl | rfl <;> simp [List.span_eq_takeWhile_dropWhile]
  rw [List.span_eq_takeWhile_dropWhile] at h0 ⊢
  rw [List.takeWhile_append_of_pos hd, List.dropWhile_append_of_pos hd]
  simp only [Prod.mk.injEq] at h0 ⊢
  simp [h0]

theorem repr_inj {m n : Nat} (hs : Ends s) (ht : Ends t) (h : m.repr.toList ++ s = n.repr.toList ++ t) : m = n ∧ s = t := by
  have hd : ∀ k : Nat, ∀ c ∈ k.repr.toList, c.isDigit = true := by
    intro k c hc
    rw [Nat.toList_repr] at hc
    exact Nat.isDigit_of_mem_toDigits (by decide) (by decide) hc
  have hspan := span_digits (hd m) hs
  rw [h, span_digits (hd n) ht, Prod.mk.injEq] at hspan
  have hmn := congrArg (fun ds => Nat.ofDigitChars 10 ds 0) hspan.1.symm
  simp only [Nat.toList_repr, Nat.ofDigitChars_ten_toDigits] at hmn
  exact ⟨hmn, hspan.2.symm⟩

/-! The value is read off its text from left to right. -/

def isArr : Json → Bool
  | nil => true
  | cons _ rest => rest.isArr
  | _ => false

/-- Arrays and objects end as such. -/
def Proper : Json → Prop
  | cons x rest => x.Proper ∧ rest.Proper ∧ rest.isArr = true
  | field _ v rest => v.Proper ∧ rest.Proper ∧ rest.isObj = true
  | _ => True

instance decidableProper : ∀ j : Json, Decidable j.Proper
  | null | bool _ | int _ | str _ | nil | empty => inferInstanceAs (Decidable True)
  | cons x rest =>
    have := decidableProper x
    have := decidableProper rest
    inferInstanceAs (Decidable (_ ∧ _ ∧ _))
  | field _ v rest =>
    have := decidableProper v
    have := decidableProper rest
    inferInstanceAs (Decidable (_ ∧ _ ∧ _))

/-- What the first character of a text says of the value. -/
def kindOfChar (c : Char) : Nat :=
  if c = 'n' then 0 else if c = 't' then 1 else if c = 'f' then 2 else if c = '"' then 3 else if c = '[' then 4
  else if c = '\x7b' then 5 else if c = '-' then 6 else if c.isDigit then 7 else 8

def kind : Json → Nat
  | null => 0
  | bool b => if b then 1 else 2
  | str _ => 3
  | nil | cons _ _ => 4
  | empty | field _ _ _ => 5
  | int n => if 0 ≤ n then 7 else 6

theorem kindOfChar_digit {c : Char} (h : c.isDigit = true) : kindOfChar c = 7 := by
  have hne : ∀ d : Char, d.isDigit = false → c ≠ d := by
    rintro d hd rfl
    rw [h] at hd
    cases hd
  simp only [kindOfChar, hne 'n' rfl, hne 't' rfl, hne 'f' rfl, hne '"' rfl, hne '[' rfl, hne '\x7b' rfl, hne '-' rfl, h,
    if_true, if_false]

theorem int_toList (n : Int) :
    (toString n).toList = if 0 ≤ n then n.toNat.repr.toList else '-' :: (-n).toNat.repr.toList := by
  rw [Int.toString_eq_repr, Int.repr_eq_if]
  split
  · rfl
  · rw [String.toList_append]
    rfl

theorem repr_cons (n : Nat) : ∃ c cs, n.repr.toList = c :: cs ∧ kindOfChar c = 7 := by
  cases h : n.repr.toList with
  | nil => simp at h
  | cons c cs =>
    refine ⟨c, cs, rfl, kindOfChar_digit ?_⟩
    have hc : c ∈ Nat.toDigits 10 n := by
      rw [← Nat.toList_repr, h]
      exact List.mem_cons_self
    exact Nat.isDigit_of_mem_toDigits (by decide) (by decide) hc

theorem render_cons (j : Json) : ∃ c cs, j.render.1.toList = c :: cs ∧ kindOfChar c = j.kind := by
  cases j with
  | null => exact ⟨'n', _, rfl, rfl⟩
  | bool b =>
    cases b
    · exact ⟨'f', _, rfl, rfl⟩
    · exact ⟨'t', _, rfl, rfl⟩
  | int n =>
    simp only [render, int_toList, kind]
    split
    · exact repr_cons _
    · exact ⟨'-', _, rfl, rfl⟩
  | str s => exact ⟨'"', _, quoted_toList s, rfl⟩
  | nil => exact ⟨'[', _, rfl, rfl⟩
  | cons x xs =>
    simp only [render, String.toList_append]
    exact ⟨'[', _, rfl, rfl⟩
  | empty => exact ⟨'\x7b', _, rfl, rfl⟩
  | field n v rest =>
    simp only [render, String.toList_append]
    exact ⟨'\x7b', _, rfl, rfl⟩

theorem kind_le (j : Json) : j.kind ≤ 7 := by
  cases j with
  | bool b => cases b <;> simp [kind]
  | int n =>
    simp only [kind]
    split <;> omega
  | _ => simp [kind]

/-- Equal texts begin alike. -/
theorem kind_eq {a b : Json} (h : a.render.1.toList ++ s = b.render.1.toList ++ t) : a.kind = b.kind := by
  obtain ⟨c, cs, hc, hk⟩ := render_cons a
  obtain ⟨d, ds, hd, hk'⟩ := render_cons b
  rw [hc, hd, List.cons_append, List.cons_append] at h
  rw [← hk, ← hk', (List.cons.inj h).1]

theorem render_ne {j : Json} {c : Char} (hc : kindOfChar c = 8) : j.render.1.toList ++ s ≠ c :: t := by
  intro h
  obtain ⟨d, ds, hd, hk⟩ := render_cons j
  rw [hd, List.cons_append] at h
  rw [(List.cons.inj h).1, hc] at hk
  have := kind_le j
  omega

theorem items_ends {j : Json} (h : j.isArr = true) (s : List Char) : Ends (j.render.2.toList ++ s) := by
  cases j with
  | nil => exact ends_cons (.inr (.inl rfl))
  | cons x xs =>
    simp only [render, String.toList_append]
    exact ends_cons (.inl rfl)
  | _ => cases h

theorem fields_ends {j : Json} (h : j.isObj = true) (s : List Char) : Ends (j.render.2.toList ++ s) := by
  cases j with
  | empty => exact ends_cons (.inr (.inr rfl))
  | field n v rest =>
    simp only [render, String.toList_append]
    exact ends_cons (.inl rfl)
  | _ => cases h

/-- The text of a value, and what it adds to an array or an object, is of no other. -/
structure ReadOff (a : Json) : Prop where
  value : ∀ {b s t}, a.Proper → b.Proper → Ends s → Ends t →
    a.render.1.toList ++ s = b.render.1.toList ++ t → a = b ∧ s = t
  items : ∀ {b s t}, a.isArr = true → b.isArr = true → a.Proper → b.Proper →
    a.render.2.toList ++ s = b.render.2.toList ++ t → a = b ∧ s = t
  fields : ∀ {b s t}, a.isObj = true → b.isObj = true → a.Proper → b.Proper →
    a.render.2.toList ++ s = b.render.2.toList ++ t → a = b ∧ s = t

theorem readOff_of_leaf {a : Json} (harr : a.isArr = false) (hobj : a.isObj = false)
    (h : ∀ {b s t}, b.Proper → Ends s → Ends t → a.render.1.toList ++ s = b.render.1.toList ++ t → a = b ∧ s = t) :
    a.ReadOff where
  value _ hb hs ht he := h hb hs ht he
  items ha := by
    rw [harr] at ha
    cases ha
  fields ha := by
    rw [hobj] at ha
    cases ha

theorem readOff_int (n : Int) : (int n).ReadOff := by
  refine readOff_of_leaf rfl rfl fun {b s t} _ hs ht h => ?_
  have hk := kind_eq h
  cases b with
  | int m =>
    simp only [kind] at hk
    simp only [render, int_toList] at h
    by_cases hn : 0 ≤ n
    · have hm : 0 ≤ m := by
        by_contra hm
        rw [if_pos hn, if_neg hm] at hk
        cases hk
      rw [if_pos hn, if_pos hm] at h
      obtain ⟨he, hst⟩ := repr_inj hs ht h
      exact ⟨congrArg int (by omega), hst⟩
    · have hm : ¬ 0 ≤ m := by
        intro hm
        rw [if_neg hn, if_pos hm] at hk
        cases hk
      rw [if_neg hn, if_neg hm, List.cons_append, List.cons_append] at h
      obtain ⟨he, hst⟩ := repr_inj hs ht (List.cons.inj h).2
      exact ⟨congrArg int (by omega), hst⟩
  | bool b =>
    simp only [kind] at hk
    split at hk <;> split at hk <;> cases hk
  | _ =>
    simp only [kind] at hk
    split at hk <;> cases hk

theorem eq_of_kind {p : Bool} {b : Json} :
    (b.kind = 0 → b = null) ∧ (b.kind = (if p then 1 else 2) → b = bool p) ∧ (b.kind = 3 → ∃ x, b = str x) := by
  cases b with
  | bool q => cases p <;> cases q <;> simp [kind]
  | int n => by_cases hn : 0 ≤ n <;> cases p <;> simp [kind, hn]
  | _ => cases p <;> simp [kind]

theorem arr_of_kind {b : Json} (h : b.kind = 4) (hb : b.Proper) : b.isArr = true := by
  cases b with
  | nil => rfl
  | cons y ys => exact hb.2.2
  | bool q => cases q <;> cases h
  | int n =>
    simp only [kind] at h
    split at h <;> cases h
  | _ => cases h

theorem obj_of_kind {b : Json} (h : b.kind = 5) (hb : b.Proper) : b.isObj = true := by
  cases b with
  | empty => rfl
  | field m w more => exact hb.2.2
  | bool q => cases q <;> cases h
  | int n =>
    simp only [kind] at h
    split at h <;> cases h
  | _ => cases h

theorem readOff_nil : nil.ReadOff := by
  refine ⟨fun {b s t} _ hb _ _ h => ?_, fun {b s t} _ hb _ _ h => ?_, nofun⟩
  · have harr := arr_of_kind (kind_eq h).symm hb
    cases b with
    | nil => exact ⟨rfl, List.append_cancel_left h⟩
    | cons y ys =>
      simp only [render, String.toList_append, List.append_assoc] at h
      exact absurd (List.cons.inj h).2.symm (render_ne rfl)
    | _ => cases harr
  · cases b with
    | nil => exact ⟨rfl, List.append_cancel_left h⟩
    | cons y ys =>
      simp only [render, String.toList_append, List.append_assoc] at h
      exact absurd (List.cons.inj h).1 (by decide)
    | _ => cases hb

theorem readOff_cons {x xs : Json} (hx : x.ReadOff) (hxs : xs.ReadOff) : (cons x xs).ReadOff := by
  -- after the bracket or the comma both begin with an item
  have next : ∀ {y ys : Json} {s t : List Char}, (cons x xs).Proper → (cons y ys).Proper →
      x.render.1.toList ++ (xs.render.2.toList ++ s) = y.render.1.toList ++ (ys.render.2.toList ++ t) →
      cons x xs = cons y ys ∧ s = t := by
    rintro y ys s t ⟨h1, h2, h3⟩ ⟨h1', h2', h3'⟩ h
    obtain ⟨hxy, hrest⟩ := hx.value h1 h1' (items_ends h3 s) (items_ends h3' t) h
    obtain ⟨hxys, hst⟩ := hxs.items h3 h3' h2 h2' hrest
    exact ⟨by rw [hxy, hxys], hst⟩
  refine ⟨fun {b s t} ha hb _ _ h => ?_, fun {b s t} _ hb ha hb' h => ?_, nofun⟩
  · have harr := arr_of_kind (kind_eq h).symm hb
    cases b with
    | nil =>
      simp only [render, String.toList_append, List.append_assoc] at h
      exact absurd (List.cons.inj h).2 (render_ne rfl)
    | cons y ys =>
      simp only [render, String.toList_append, List.append_assoc] at h
      exact next ha hb (List.cons.inj h).2
    | _ => cases harr
  · cases b with
    | nil =>
      simp only [render, String.toList_append, List.append_assoc] at h
      exact absurd (List.cons.inj h).1 (by decide)
    | cons y ys =>
      simp only [render, String.toList_append, List.append_assoc] at h
      exact next ha hb' (List.cons.inj h).2
    | _ => cases hb

theorem readOff_empty : empty.ReadOff := by
  refine ⟨fun {b s t} _ hb _ _ h => ?_, nofun, fun {b s t} _ hb _ _ h => ?_⟩
  · have hobj := obj_of_kind (kind_eq h).symm hb
    cases b with
    | empty => exact ⟨rfl, List.append_cancel_left h⟩
    | field m w more =>
      simp only [render, String.toList_append, List.append_assoc, quoted_toList, List.cons_append] at h
      exact absurd (List.cons.inj (List.cons.inj h).2).1 (by decide)
    | _ => cases hobj
  · cases b with
    | empty => exact ⟨rfl, List.append_cancel_left h⟩
    | field m w more =>
      simp only [render, String.toList_append, List.append_assoc] at h
      exact absurd (List.cons.inj h).1 (by decide)
    | _ => cases hb

theorem readOff_field {n : String} {v rest : Json} (hv : v.ReadOff) (hrest : rest.ReadOff) : (field n v rest).ReadOff := by
  have next : ∀ {m : String} {w more : Json} {s t : List Char}, (field n v rest).Proper → (field m w more).Proper →
      (quoted n).toList ++ (":".toList ++ (v.render.1.toList ++ (rest.render.2.toList ++ s))) =
        (quoted m).toList ++ (":".toList ++ (w.render.1.toList ++ (more.render.2.toList ++ t))) →
      field n v rest = field m w more ∧ s = t := by
    rintro m w more s t ⟨h1, h2, h3⟩ ⟨h1', h2', h3'⟩ h
    obtain ⟨hnm, hcolon⟩ := quoted_inj h
    obtain ⟨hvw, htail⟩ := hv.value h1 h1' (fields_ends h3 s) (fields_ends h3' t) (List.append_cancel_left hcolon)
    obtain ⟨hmore, hst⟩ := hrest.fields h3 h3' h2 h2' htail
    exact ⟨by rw [hnm, hvw, hmore], hst⟩
  refine ⟨fun {b s t} ha hb _ _ h => ?_, nofun, fun {b s t} _ hb ha hb' h => ?_⟩
  · have hobj := obj_of_kind (kind_eq h).symm hb
    cases b with
    | empty =>
      simp only [render, String.toList_append, List.append_assoc, quoted_toList, List.cons_append] at h
      exact absurd (List.cons.inj (List.cons.inj h).2).1 (by decide)
    | field m w more =>
      simp only [render, String.toList_append, List.append_assoc] at h
      exact next ha hb (List.cons.inj h).2
    | _ => cases hobj
  · cases b with
    | empty =>
      simp only [render, String.toList_append, List.append_assoc] at h
      exact absurd (List.cons.inj h).1 (by decide)
    | field m w more =>
      simp only [render, String.toList_append, List.append_assoc] at h
      exact next ha hb' (List.cons.inj h).2
    | _ => cases hb

theorem readOff (a : Json) : a.ReadOff := by
  induction a with
  | null =>
    refine readOff_of_leaf rfl rfl fun {b s t} _ _ _ h => ?_
    obtain rfl := (@eq_of_kind true b).1 (kind_eq h).symm
    exact ⟨rfl, List.append_cancel_left h⟩
  | bool p =>
    refine readOff_of_leaf rfl rfl fun {b s t} _ _ _ h => ?_
    obtain rfl := eq_of_kind.2.1 (kind_eq h).symm
    exact ⟨rfl, List.append_cancel_left h⟩
  | int n => exact readOff_int n
  | str x =>
    refine readOff_of_leaf rfl rfl fun {b s t} _ _ _ h => ?_
    obtain ⟨y, rfl⟩ := (@eq_of_kind true b).2.2 (kind_eq h).symm
    obtain ⟨rfl, hst⟩ := quoted_inj h
    exact ⟨rfl, hst⟩
  | nil => exact readOff_nil
  | cons x xs ihx ihxs => exact readOff_cons ihx ihxs
  | empty => exact readOff_empty
  | field n v rest ihv ihrest => exact readOff_field ihv ihrest

/-- Values of the same text are the same. -/
theorem dumps_inj {a b : Json} (ha : a.Proper) (hb : b.Proper) (h : a.dumps = b.dumps) : a = b := by
  have h' : a.render.1.toList ++ [] = b.render.1.toList ++ [] := congrArg (fun s => s.toList ++ []) h
  exact ((readOff a).value ha hb ends_nil ends_nil h').1

/-! ## Joined texts -/

/-- The unit separator. -/
def separator : Char := '\x1f'

/-- A text without the separator. -/
def Plain (s : String) : Prop := separator ∉ s.toList

instance (s : String) : Decidable (Plain s) := inferInstanceAs (Decidable (¬ _))

theorem Plain.append {a b : String} (ha : Plain a) (hb : Plain b) : Plain (a ++ b) := by
  unfold Plain
  rw [String.toList_append, List.mem_append]
  exact not_or.mpr ⟨ha, hb⟩

/-- At the first separator a text is cut into the same parts. -/
theorem cut_first {a b s t : List Char} (ha : separator ∉ a) (hb : separator ∉ b)
    (h : a ++ separator :: s = b ++ separator :: t) : a = b ∧ s = t := by
  induction a generalizing b with
  | nil =>
    cases b with
    | nil => exact ⟨rfl, (List.cons.inj h).2⟩
    | cons y b => exact absurd (List.cons.inj h).1 fun he => hb (he ▸ List.mem_cons_self)
  | cons x a ih =>
    cases b with
    | nil => exact absurd (List.cons.inj h).1.symm fun he => ha (he ▸ List.mem_cons_self)
    | cons y b =>
      obtain ⟨hxy, hrest⟩ := List.cons.inj h
      obtain ⟨hab, hst⟩ := ih (fun hm => ha (List.mem_cons_of_mem _ hm)) (fun hm => hb (List.mem_cons_of_mem _ hm)) hrest
      exact ⟨by rw [hxy, hab], hst⟩

/-- And at the last one. -/
theorem cut_last {a b s t : List Char} (ha : separator ∉ a) (hb : separator ∉ b)
    (h : s ++ separator :: a = t ++ separator :: b) : s = t ∧ a = b := by
  have hr : a.reverse ++ separator :: s.reverse = b.reverse ++ separator :: t.reverse := by
    have := congrArg List.reverse h
    simpa using this
  obtain ⟨hab, hst⟩ := cut_first (by simpa using ha) (by simpa using hb) hr
  exact ⟨List.reverse_injective hst, List.reverse_injective hab⟩

theorem unitJoin_cons_cons (a b : String) (parts : List String) :
    (unitJoin (a :: b :: parts)).toList = a.toList ++ separator :: (unitJoin (b :: parts)).toList := by
  simp only [unitJoin, String.intercalate_cons_cons, String.toList_append, List.append_assoc]
  rfl

theorem unitJoin_singleton (a : String) : unitJoin [a] = a := String.intercalate_singleton

theorem digitChar_ne_separator : ∀ n < 16, Nat.digitChar n ≠ separator := by decide

theorem plain_hex4 (n : Nat) : Plain (hex4 n) := by
  have hd : ∀ m, separator ≠ Nat.digitChar (m % 16) := fun m =>
    (digitChar_ne_separator _ (Nat.mod_lt m (by decide))).symm
  unfold Plain
  simp only [hex4_toList, List.mem_cons, hd, List.not_mem_nil, or_self, not_false_eq_true]

theorem plain_escape (c : Char) : Plain (escape c) := by
  unfold escape
  dsimp only
  split_ifs with h1 h2 h3 h4 h5 h6 h7 h8 h9
  · decide
  · decide
  · decide
  · decide
  · decide
  · decide
  · decide
  · intro hm
    simp only [Char.toString, String.toList_singleton, List.mem_singleton] at hm
    rw [← hm] at h8
    exact absurd h8.1 (by decide)
  · exact .append (by decide) (plain_hex4 _)
  · exact .append (.append (.append (by decide) (plain_hex4 _)) (by decide)) (plain_hex4 _)

theorem plain_quoted (s : String) : Plain (quoted s) := by
  unfold Plain
  simp only [quoted_toList, escaped, List.mem_cons, List.mem_append, List.mem_flatMap, List.not_mem_nil, or_false, not_or,
    not_exists, not_and]
  exact ⟨by decide, fun c _ => plain_escape c, by decide⟩

theorem plain_repr (n : Nat) : Plain n.repr := by
  intro hm
  rw [Nat.toList_repr] at hm
  exact absurd (Nat.isDigit_of_mem_toDigits (by decide) (by decide) hm) (by decide)

theorem plain_nothing : Plain "" := by decide

theorem plain_render (j : Json) : Plain j.render.1 ∧ Plain j.render.2 := by
  induction j with
  | null => exact ⟨by decide, by decide⟩
  | bool b => exact ⟨by cases b <;> decide, plain_nothing⟩
  | int n =>
    refine ⟨?_, plain_nothing⟩
    unfold Plain
    simp only [render, int_toList]
    split
    · exact plain_repr _
    · exact not_or.mpr ⟨by decide, plain_repr _⟩ ∘ List.mem_cons.mp
  | str s => exact ⟨plain_quoted s, plain_nothing⟩
  | nil => exact ⟨by decide, by decide⟩
  | cons x xs ihx ihxs =>
    exact ⟨.append (.append (by decide) ihx.1) ihxs.2, .append (.append (by decide) ihx.1) ihxs.2⟩
  | empty => exact ⟨by decide, by decide⟩
  | field n v rest ihv ihrest =>
    have hn := plain_quoted n
    exact ⟨.append (.append (.append (.append (by decide) hn) (by decide)) ihv.1) ihrest.2,
      .append (.append (.append (.append (by decide) hn) (by decide)) ihv.1) ihrest.2⟩

theorem plain_dumps (j : Json) : Plain j.dumps := (plain_render j).1

end Json

/-! ## A digest that tells all values apart, quick to compute -/

namespace Json

/-- A letter for the kind of the value, and its parts after each other. -/
def code : Json → List Char
  | null => ['n']
  | bool b => 'b' :: if b then ['1'] else ['0']
  | int n => 'i' :: ((toString n).toList ++ [','])
  | str s => 's' :: (quoted s).toList
  | nil => [']']
  | cons x xs => '[' :: (x.code ++ xs.code)
  | empty => ['\x7d']
  | field n v rest => '\x7b' :: ((quoted n).toList ++ (v.code ++ rest.code))

theorem code_inj {a b : Json} {s t : List Char} (h : a.code ++ s = b.code ++ t) : a = b ∧ s = t := by
  induction a generalizing b s t with
  | null =>
    cases b with
    | null => exact ⟨rfl, List.append_cancel_left h⟩
    | _ => exact absurd (List.cons.inj h).1 (by decide)
  | bool p =>
    cases b with
    | bool q => cases p <;> cases q <;> simp_all [code]
    | _ => exact absurd (List.cons.inj h).1 (by decide)
  | int n =>
    cases b with
    | int m =>
      simp only [code, List.cons_append, List.append_assoc, List.nil_append, List.cons.injEq, true_and] at h
      have he : ∀ u, Ends (',' :: u) := fun _ => ends_cons (.inl rfl)
      have hv := (readOff (int n)).value (b := int m) trivial trivial (he s) (he t) h
      exact ⟨hv.1, (List.cons.inj hv.2).2⟩
    | _ => exact absurd (List.cons.inj h).1 (by decide)
  | str x =>
    cases b with
    | str y =>
      obtain ⟨hxy, hst⟩ := quoted_inj (List.cons.inj h).2
      exact ⟨congrArg str hxy, hst⟩
    | _ => exact absurd (List.cons.inj h).1 (by decide)
  | nil =>
    cases b with
    | nil => exact ⟨rfl, List.append_cancel_left h⟩
    | _ => exact absurd (List.cons.inj h).1 (by decide)
  | cons x xs ihx ihxs =>
    cases b with
    | cons y ys =>
      simp only [code, List.cons_append, List.append_assoc, List.cons.injEq, true_and] at h
      obtain ⟨hxy, h1⟩ := ihx h
      obtain ⟨hxys, h2⟩ := ihxs h1
      exact ⟨by rw [hxy, hxys], h2⟩
    | _ => exact absurd (List.cons.inj h).1 (by decide)
  | empty =>
    cases b with
    | empty => exact ⟨rfl, List.append_cancel_left h⟩
    | _ => exact absurd (List.cons.inj h).1 (by decide)
  | field n v rest ihv ihrest =>
    cases b with
    | field m w more =>
      simp only [code, List.cons_append, List.append_assoc, List.cons.injEq, true_and] at h
      obtain ⟨hnm, h1⟩ := quoted_inj h
      obtain ⟨hvw, h2⟩ := ihv h1
      obtain ⟨hmore, h3⟩ := ihrest h2
      exact ⟨by rw [hnm, hvw, hmore], h3⟩
    | _ => exact absurd (List.cons.inj h).1 (by decide)

end Json

def Hashing.coded : Hashing where
  sha256 j := String.ofList ('h' :: j.code)
  hmac k j := String.ofList ('m' :: ((Json.quoted k).toList ++ j.code))
  sha256_not_blank j := by simp [blank, isSpace]

theorem Hashing.coded_injective : Function.Injective Hashing.coded.sha256 := by
  intro a b h
  have hl : a.code ++ [] = b.code ++ [] := by
    have := congrArg String.toList h
    simpa [coded] using this
  exact (Json.code_inj hl).1

end Data
