/-
  Data.JsonText — the text of a value: `json.dumps(…, separators=(",", ":"), ensure_ascii=False)`,
  and the reading of an object of texts.

  Only what JSON does not allow inside a text is escaped: quotation marks, backslashes and control
  characters. Anything else stands as it is.
  - `dumpsText_uncontrolled`: so the text of a value has no control character, a line break least of all.
  - `readTexts_dumps`: an object of texts is read back as it was, whatever the texts say.
-/

import Aegis.Data.Dumps

namespace Data

namespace Json

/-- `ensure_ascii=False`. -/
def escapeControl (c : Char) : String :=
  let n := c.toNat
  if n = 0x22 then "\\\"" else if n = 0x5c then "\\\\"
  else if n = 0x0a then "\\n" else if n = 0x0d then "\\r" else if n = 0x09 then "\\t"
  else if n = 0x08 then "\\b" else if n = 0x0c then "\\f"
  else if n < 0x20 then "\\u" ++ hex4 n
  else c.toString

def quotedText (s : String) : String := "\"" ++ String.join (s.toList.map escapeControl) ++ "\""

/-- The text of a value, and what it adds after the first item of an array or an object. -/
def renderText : Json → String × String
  | null => ("null", "")
  | bool b => (if b then "true" else "false", "")
  | int n => (toString n, "")
  | str s => (quotedText s, "")
  | nil => ("[]", "]")
  | cons x xs => ("[" ++ x.renderText.1 ++ xs.renderText.2, "," ++ x.renderText.1 ++ xs.renderText.2)
  | empty => ("\x7b\x7d", "\x7d")
  | field name value rest =>
    ("\x7b" ++ quotedText name ++ ":" ++ value.renderText.1 ++ rest.renderText.2,
      "," ++ quotedText name ++ ":" ++ value.renderText.1 ++ rest.renderText.2)

def dumpsText (j : Json) : String := j.renderText.1

example : (obj [("a", str "x\né\"")]).dumpsText = "\x7b\"a\":\"x\\né\\\"\"\x7d" := by
  decide

/-! ## No control characters -/

/-- A text without control characters. -/
def Uncontrolled (cs : List Char) : Prop := ∀ c ∈ cs, 0x20 ≤ c.toNat

theorem Uncontrolled.nil : Uncontrolled [] := by
  intro c h
  cases h

theorem Uncontrolled.append {cs ds : List Char} (hc : Uncontrolled cs) (hd : Uncontrolled ds) : Uncontrolled (cs ++ ds) := by
  intro c h
  rcases List.mem_append.mp h with h | h
  · exact hc c h
  · exact hd c h

instance decidableUncontrolled (cs : List Char) : Decidable (Uncontrolled cs) := List.decidableBAll (fun c : Char => 0x20 ≤ c.toNat) cs

theorem digitChar_uncontrolled : ∀ n < 16, 0x20 ≤ (Nat.digitChar n).toNat := by decide

theorem hex4_uncontrolled (n : Nat) : Uncontrolled (hex4 n).toList := by
  have h := fun k => digitChar_uncontrolled (k % 16) (Nat.mod_lt k (by decide))
  rw [hex4_toList]
  intro c hc
  simp only [List.mem_cons, List.not_mem_nil, or_false] at hc
  rcases hc with rfl | rfl | rfl | rfl
  · exact h (n / 4096)
  · exact h (n / 256)
  · exact h (n / 16)
  · exact h n

theorem escapeControl_uncontrolled (c : Char) : Uncontrolled (escapeControl c).toList := by
  unfold escapeControl
  dsimp only
  split_ifs with h1 h2 h3 h4 h5 h6 h7 h8
  · decide +kernel
  · decide +kernel
  · decide +kernel
  · decide +kernel
  · decide +kernel
  · decide +kernel
  · decide +kernel
  · rw [String.toList_append]
    exact Uncontrolled.append (by decide +kernel) (hex4_uncontrolled _)
  · intro d hd
    obtain rfl : d = c := by simpa [Char.toString] using hd
    omega

def escapedText (cs : List Char) : List Char := cs.flatMap fun c => (escapeControl c).toList

theorem quotedText_toList (s : String) : (quotedText s).toList = '"' :: (escapedText s.toList ++ ['"']) := by
  simp [quotedText, escapedText, String.toList_append, String.toList_join, List.flatMap_map]

theorem quotedText_uncontrolled (s : String) : Uncontrolled (quotedText s).toList := by
  rw [quotedText_toList]
  have hquote : Uncontrolled ['"'] := by decide +kernel
  refine hquote.append (Uncontrolled.append ?_ hquote)
  intro c hc
  obtain ⟨d, -, hd⟩ := List.mem_flatMap.mp hc
  exact escapeControl_uncontrolled d c hd

theorem int_uncontrolled (n : Int) : Uncontrolled (toString n).toList := by
  have hdigits : ∀ k : Nat, Uncontrolled k.repr.toList := by
    intro k c hc
    rw [Nat.toList_repr] at hc
    have hdigit : c.isDigit = true := Nat.isDigit_of_mem_toDigits (by decide) (by decide) hc
    simp only [Char.isDigit, Bool.and_eq_true, decide_eq_true_eq] at hdigit
    have hlow : 48 ≤ c.toNat := hdigit.1
    omega
  rw [int_toList]
  split
  · exact hdigits _
  · have hminus : Uncontrolled ['-'] := by decide +kernel
    exact hminus.append (hdigits _)

theorem renderText_uncontrolled (j : Json) : Uncontrolled j.renderText.1.toList ∧ Uncontrolled j.renderText.2.toList := by
  induction j with
  | null => exact ⟨by decide +kernel, by decide +kernel⟩
  | bool b => cases b <;> exact ⟨by decide +kernel, by decide +kernel⟩
  | int n => exact ⟨int_uncontrolled n, .nil⟩
  | str s => exact ⟨quotedText_uncontrolled s, .nil⟩
  | nil => exact ⟨by decide +kernel, by decide +kernel⟩
  | cons x xs hx hxs =>
    simp only [renderText, String.toList_append]
    exact ⟨.append (.append (by decide +kernel) hx.1) hxs.2, .append (.append (by decide +kernel) hx.1) hxs.2⟩
  | empty => exact ⟨by decide +kernel, by decide +kernel⟩
  | field n v rest hv hrest =>
    have hn := quotedText_uncontrolled n
    simp only [renderText, String.toList_append]
    exact ⟨.append (.append (.append (.append (by decide +kernel) hn) (by decide +kernel)) hv.1) hrest.2,
      .append (.append (.append (.append (by decide +kernel) hn) (by decide +kernel)) hv.1) hrest.2⟩

/-- The text of a value has no control character. -/
theorem dumpsText_uncontrolled (j : Json) : Uncontrolled j.dumpsText.toList := (renderText_uncontrolled j).1

/-! ## Sizes -/

/-- The text of a longer text is no shorter. -/
theorem utf8ByteSize_quotedText_append (xs ys : List Char) :
    (quotedText (String.ofList xs)).utf8ByteSize ≤ (quotedText (String.ofList (xs ++ ys))).utf8ByteSize := by
  simp only [quotedText, String.toList_ofList, List.map_append, String.join_append, String.utf8ByteSize_append]
  omega

/-- The text of an array grows with the text of its last item. -/
theorem utf8ByteSize_arr_snoc {x y : Json} (h : x.renderText.1.utf8ByteSize ≤ y.renderText.1.utf8ByteSize) (items : List Json) :
    (arr (items ++ [x])).renderText.1.utf8ByteSize ≤ (arr (items ++ [y])).renderText.1.utf8ByteSize ∧
      (arr (items ++ [x])).renderText.2.utf8ByteSize ≤ (arr (items ++ [y])).renderText.2.utf8ByteSize := by
  induction items with
  | nil =>
    simp only [List.nil_append, arr, List.foldr_cons, List.foldr_nil, renderText, String.utf8ByteSize_append]
    omega
  | cons item items ih =>
    simp only [List.cons_append, arr, List.foldr_cons, renderText, String.utf8ByteSize_append] at ih ⊢
    omega

/-! ## Reading an object of texts -/

def isSpace (c : Char) : Bool := c = ' ' || c = '\t' || c = '\n' || c = '\r'

def skip (cs : List Char) : List Char := cs.dropWhile isSpace

def hexDigit? (c : Char) : Option Nat :=
  if '0' ≤ c ∧ c ≤ '9' then some (c.toNat - 48)
  else if 'a' ≤ c ∧ c ≤ 'f' then some (c.toNat - 87)
  else if 'A' ≤ c ∧ c ≤ 'F' then some (c.toNat - 55)
  else none

def readHex4 : List Char → Option (Nat × List Char)
  | a :: b :: c :: d :: rest => do
    let a ← hexDigit? a
    let b ← hexDigit? b
    let c ← hexDigit? c
    let d ← hexDigit? d
    some (((a * 16 + b) * 16 + c) * 16 + d, rest)
  | _ => none

/-- What stands after a backslash; the two halves of a pair make one character, and one half alone none. -/
def readMark : List Char → Option (Char × List Char)
  | '"' :: rest => some ('"', rest)
  | '\\' :: rest => some ('\\', rest)
  | '/' :: rest => some ('/', rest)
  | 'b' :: rest => some ('\x08', rest)
  | 'f' :: rest => some ('\x0c', rest)
  | 'n' :: rest => some ('\n', rest)
  | 'r' :: rest => some ('\r', rest)
  | 't' :: rest => some ('\t', rest)
  | 'u' :: rest => do
    let (n, rest) ← readHex4 rest
    if 0xd800 ≤ n ∧ n < 0xdc00 then
      match rest with
      | '\\' :: 'u' :: rest => do
        let (m, rest) ← readHex4 rest
        if 0xdc00 ≤ m ∧ m < 0xe000 then some (Char.ofNat (0x10000 + (n - 0xd800) * 0x400 + (m - 0xdc00)), rest) else none
      | _ => none
    else if 0xdc00 ≤ n ∧ n < 0xe000 then none
    else some (Char.ofNat n, rest)
  | _ => none

/-- A text after its opening quotation mark, and what follows it. -/
def readChars : Nat → List Char → Option (List Char × List Char)
  | 0, _ => none
  | _ + 1, [] => none
  | fuel + 1, c :: rest =>
    if c = '"' then some ([], rest)
    else if c.toNat < 0x20 then none
    else if c = '\\' then do
      let (d, rest) ← readMark rest
      let (text, rest) ← readChars fuel rest
      some (d :: text, rest)
    else do
      let (text, rest) ← readChars fuel rest
      some (c :: text, rest)

/-- Every step of `readChars` takes a character, so the length is fuel enough. -/
def readText (cs : List Char) : Option (String × List Char) :=
  match skip cs with
  | '"' :: rest => (readChars (rest.length + 1) rest).map fun r => (String.ofList r.1, r.2)
  | _ => none

/-- The members of an object of texts, up to its end. -/
def readMembers : Nat → List Char → Option (List (String × String) × List Char)
  | 0, _ => none
  | fuel + 1, cs => do
    let (name, cs) ← readText cs
    match skip cs with
    | ':' :: cs => do
      let (value, cs) ← readText cs
      match skip cs with
      | ',' :: cs => do
        let (rest, cs) ← readMembers fuel cs
        some ((name, value) :: rest, cs)
      | '\x7d' :: cs => some ([(name, value)], cs)
      | _ => none
    | _ => none

/-- `json.loads` of a text that is to be an object of texts. -/
def readTexts (text : String) : Option (List (String × String)) :=
  match skip text.toList with
  | '\x7b' :: cs =>
    match skip cs with
    | '\x7d' :: rest => if skip rest = [] then some [] else none
    | cs => do
      let (members, rest) ← readMembers cs.length cs
      if skip rest = [] then some members else none
  | _ => none

example : readTexts "\x7b \"a\" : \"\\u00e9\\ud83d\\ude00\\n\" \x7d" = some [("a", "é😀\n")] := by
  decide

/-! ## It is read back -/

theorem hexDigit?_digitChar : ∀ n < 16, hexDigit? (Nat.digitChar n) = some n := by decide

theorem readHex4_hex4 {n : Nat} (hn : n < 65536) (rest : List Char) : readHex4 ((hex4 n).toList ++ rest) = some (n, rest) := by
  have h1 := hexDigit?_digitChar (n / 4096 % 16) (Nat.mod_lt _ (by decide))
  have h2 := hexDigit?_digitChar (n / 256 % 16) (Nat.mod_lt _ (by decide))
  have h3 := hexDigit?_digitChar (n / 16 % 16) (Nat.mod_lt _ (by decide))
  have h4 := hexDigit?_digitChar (n % 16) (Nat.mod_lt _ (by decide))
  simp only [hex4_toList, List.cons_append, List.nil_append, readHex4, h1, h2, h3, h4, bind, Option.bind, Option.some.injEq,
    Prod.mk.injEq, and_true]
  omega

/-- One escaped character is read as that character. -/
theorem readChars_cons (fuel : Nat) (c : Char) (s : List Char) :
    readChars (fuel + 1) ((escapeControl c).toList ++ s) = (readChars fuel s).map fun r => (c :: r.1, r.2) := by
  have hmark : ∀ (d : Char) (ds rest : List Char), readMark (d :: ds) = some (c, rest) →
      readChars (fuel + 1) ('\\' :: d :: ds) = (readChars fuel rest).map fun r => (c :: r.1, r.2) := by
    intro d ds rest hd
    conv_lhs => unfold readChars
    rw [if_neg (by decide), if_neg (by decide), if_pos rfl, hd]
    simp only [Option.bind_eq_bind, Option.bind_some]
    exact Option.map_eq_bind.symm
  have hcode : ∀ d : Char, c.toNat = d.toNat → c = d := fun d h => Char.toNat_inj.mp h
  unfold escapeControl
  dsimp only
  split_ifs with h1 h2 h3 h4 h5 h6 h7 h8
  · obtain rfl := hcode '"' h1
    exact hmark '"' s s rfl
  · obtain rfl := hcode '\\' h2
    exact hmark '\\' s s rfl
  · obtain rfl := hcode '\n' h3
    exact hmark 'n' s s rfl
  · obtain rfl := hcode '\r' h4
    exact hmark 'r' s s rfl
  · obtain rfl := hcode '\t' h5
    exact hmark 't' s s rfl
  · obtain rfl := hcode '\x08' h6
    exact hmark 'b' s s rfl
  · obtain rfl := hcode '\x0c' h7
    exact hmark 'f' s s rfl
  · have hunit : readMark ('u' :: ((hex4 c.toNat).toList ++ s)) = some (c, s) := by
      simp only [readMark, readHex4_hex4 (show c.toNat < 65536 by omega), Option.bind_eq_bind, Option.bind_some]
      rw [if_neg (by omega), if_neg (by omega), Char.ofNat_toNat]
    have hu : "\\u".toList = ['\\', 'u'] := rfl
    rw [String.toList_append, hu, List.append_assoc]
    exact hmark 'u' _ s hunit
  · have hq : c ≠ '"' := by
      rintro rfl
      exact h1 (by decide)
    have hb : c ≠ '\\' := by
      rintro rfl
      exact h2 (by decide)
    have hself : c.toString.toList ++ s = c :: s := by simp [Char.toString]
    rw [hself]
    conv_lhs => unfold readChars
    rw [if_neg hq, if_neg (by omega), if_neg hb]
    exact Option.map_eq_bind.symm

theorem readChars_escaped {fuel : Nat} {cs : List Char} (hfuel : cs.length < fuel) (s : List Char) :
    readChars fuel (escapedText cs ++ '"' :: s) = some (cs, s) := by
  induction cs generalizing fuel with
  | nil =>
    cases fuel with
    | zero => cases hfuel
    | succ fuel => rfl
  | cons c cs ih =>
    cases fuel with
    | zero => cases hfuel
    | succ fuel =>
      have hsplit : escapedText (c :: cs) ++ '"' :: s = (escapeControl c).toList ++ (escapedText cs ++ '"' :: s) := by
        simp only [escapedText, List.flatMap_cons, List.append_assoc]
      rw [hsplit, readChars_cons, ih (Nat.lt_of_succ_lt_succ hfuel)]
      rfl

theorem escapeControl_ne_nil (c : Char) : 1 ≤ (escapeControl c).toList.length := by
  cases h : (escapeControl c).toList with
  | nil =>
    -- an escape of nothing would be read as nothing
    have hread := readChars_cons 1 c ['"']
    rw [h] at hread
    cases hread
  | cons d ds => exact Nat.succ_le_succ (Nat.zero_le _)

theorem length_le_escapedText (cs : List Char) : cs.length ≤ (escapedText cs).length := by
  induction cs with
  | nil => exact Nat.le_refl _
  | cons c cs ih =>
    have hc := escapeControl_ne_nil c
    simp only [escapedText, List.flatMap_cons, List.length_append, List.length_cons] at ih ⊢
    omega

theorem skip_cons {c : Char} (h : isSpace c = false) (s : List Char) : skip (c :: s) = c :: s := by
  unfold skip
  rw [List.dropWhile_cons, h]
  rfl

theorem readText_quoted (t : String) (s : List Char) : readText ((quotedText t).toList ++ s) = some (t, s) := by
  have hlength := length_le_escapedText t.toList
  rw [quotedText_toList, List.cons_append, List.append_assoc]
  unfold readText
  rw [skip_cons rfl]
  show (readChars (_ + 1) (escapedText t.toList ++ '"' :: s)).map _ = _
  rw [readChars_escaped (by simp only [List.length_append]; omega), Option.map_some, String.ofList_toList]

/-- An object of texts. -/
def texts (members : List (String × String)) : Json := obj (members.map fun m => (m.1, str m.2))

theorem readMembers_dumps {fuel : Nat} {members : List (String × String)} (hfuel : members.length < fuel) (n v : String) (s : List Char) :
    readMembers fuel ((quotedText n).toList ++ ':' :: ((quotedText v).toList ++ ((texts members).renderText.2.toList ++ s))) =
      some ((n, v) :: members, s) := by
  induction members generalizing fuel n v with
  | nil =>
    cases fuel with
    | zero => cases hfuel
    | succ fuel =>
      have hend : (texts []).renderText.2.toList ++ s = '\x7d' :: s := rfl
      unfold readMembers
      simp only [readText_quoted, skip_cons (c := ':') rfl, skip_cons (c := '\x7d') rfl, hend, Option.bind_eq_bind, Option.bind_some]
  | cons m members ih =>
    cases fuel with
    | zero => cases hfuel
    | succ fuel =>
      have hmore : (texts (m :: members)).renderText.2.toList ++ s = ',' :: ((quotedText m.1).toList ++
          ':' :: ((quotedText m.2).toList ++ ((texts members).renderText.2.toList ++ s))) := by
        simp [texts, renderText, String.toList_append]
      have hrest := ih (Nat.lt_of_succ_lt_succ hfuel) m.1 m.2
      unfold readMembers
      simp only [readText_quoted, skip_cons (c := ':') rfl, hmore, skip_cons (c := ',') rfl, hrest, Option.bind_eq_bind, Option.bind_some]

/-- An object of texts is read back as it was. -/
theorem readTexts_dumps (members : List (String × String)) : readTexts (texts members).dumpsText = some members := by
  cases members with
  | nil => rfl
  | cons m members =>
    have htext : (texts (m :: members)).dumpsText.toList = '\x7b' :: ((quotedText m.1).toList ++
        ':' :: ((quotedText m.2).toList ++ ((texts members).renderText.2.toList ++ []))) := by
      simp [texts, dumpsText, renderText, String.toList_append]
    have hlength : members.length ≤ (texts members).renderText.2.toList.length := by
      clear htext
      induction members with
      | nil => exact Nat.zero_le _
      | cons n members ih =>
        simp only [texts, List.map_cons, obj_cons, renderText, String.toList_append, List.length_append, List.length_cons] at ih ⊢
        have hcomma : ",".toList.length = 1 := rfl
        omega
    have hread : ∀ body, body = (quotedText m.1).toList ++
        ':' :: ((quotedText m.2).toList ++ ((texts members).renderText.2.toList ++ [])) →
        readMembers body.length body = some (m :: members, []) := by
      intro body hbody
      rw [hbody]
      refine readMembers_dumps ?_ m.1 m.2 []
      simp only [List.length_append, List.length_cons]
      omega
    have hquote : (quotedText m.1).toList = '"' :: (escapedText m.1.toList ++ ['"']) := quotedText_toList m.1
    unfold readTexts
    rw [htext, skip_cons rfl]
    simp only [hquote, List.cons_append, skip_cons (c := '"') rfl] at hread ⊢
    show (readMembers _ _ >>= fun r => if skip r.2 = [] then some r.1 else none) = _
    rw [hread _ rfl]
    rfl

end Json

end Data
