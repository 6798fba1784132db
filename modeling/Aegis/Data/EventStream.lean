/-
  Data.EventStream — the parser of `text/event-stream`: how a client reads server-sent events.

  A stream is decoded as UTF-8 and taken line by line; a line ends with CR LF, CR or LF. A line
  names a field and its value, an empty line ends an event, and an event that is cut off by the end
  of the stream is dropped. The fields `id` and `retry` bear on reconnecting and are passed over.

  - `lines_line`: a text without line breaks and a line feed are one line.
  - `parse_event`: the fields `event` and `data` on a line each, and an empty line, are one event.
  - `ofBytes_concat`: the bytes of one such text after the other are read one after the other.
-/

import Mathlib.Data.String.Basic

namespace Data

namespace EventStream

structure Event where
  type : String
  data : String
  deriving DecidableEq, Repr

/-! ## Lines -/

/-- The lines of a stream, the first of which has begun; a last one without an end is dropped. -/
def lines (line : List Char) : List Char → List (List Char)
  | [] => []
  | '\r' :: '\n' :: rest => line :: lines [] rest
  | '\r' :: rest => line :: lines [] rest
  | '\n' :: rest => line :: lines [] rest
  | c :: rest => lines (line ++ [c]) rest

/-- A text on one line. -/
def Unbroken (cs : List Char) : Prop := ∀ c ∈ cs, c ≠ '\r' ∧ c ≠ '\n'

theorem Unbroken.append {cs ds : List Char} (hc : Unbroken cs) (hd : Unbroken ds) : Unbroken (cs ++ ds) := by
  intro c h
  rcases List.mem_append.mp h with h | h
  · exact hc c h
  · exact hd c h

instance decidableUnbroken (cs : List Char) : Decidable (Unbroken cs) := List.decidableBAll (fun c => c ≠ '\r' ∧ c ≠ '\n') cs

theorem lines_cons {c : Char} (hr : c ≠ '\r') (hn : c ≠ '\n') (line rest : List Char) :
    lines line (c :: rest) = lines (line ++ [c]) rest := by
  rw [lines]
  · intro rest' h
    exact absurd h hr
  · exact hr
  · exact hn

theorem lines_line {cs : List Char} (h : Unbroken cs) (line rest : List Char) :
    lines line (cs ++ '\n' :: rest) = (line ++ cs) :: lines [] rest := by
  induction cs generalizing line with
  | nil =>
    rw [List.nil_append, List.append_nil]
    rfl
  | cons c cs ih =>
    obtain ⟨hr, hn⟩ := h c List.mem_cons_self
    rw [List.cons_append, lines_cons hr hn, ih fun d hd => h d (List.mem_cons_of_mem _ hd), List.append_assoc]
    rfl

/-! ## Fields -/

/-- The event that is being read. -/
structure Pending where
  type : List Char
  data : List Char

def Pending.none : Pending := ⟨[], []⟩

/-- The name and the value of a field; one space after the colon is left out. -/
def field (line : List Char) : List Char × List Char :=
  let name := line.takeWhile (· ≠ ':')
  match line.dropWhile (· ≠ ':') with
  | [] => (name, [])
  | _ :: ' ' :: value => (name, value)
  | _ :: value => (name, value)

def Pending.add (p : Pending) : List Char × List Char → Pending
  | (name, value) =>
    if name = "event".toList then { p with type := value }
    else if name = "data".toList then { p with data := p.data ++ value ++ ['\n'] }
    else p

/-- What is dispatched at an empty line; nothing where there is no data. -/
def Pending.dispatch (p : Pending) : List Event :=
  if p.data = [] then [] else [⟨if p.type = [] then "message" else String.ofList p.type, String.ofList p.data.dropLast⟩]

def events (p : Pending) : List (List Char) → List Event
  | [] => []
  | [] :: rest => p.dispatch ++ events .none rest
  | (c :: line) :: rest => if c = ':' then events p rest else events (p.add (field (c :: line))) rest

/-- The byte order mark a stream may begin with. -/
def skipMark : List Char → List Char
  | '\ufeff' :: rest => rest
  | cs => cs

def parse (text : String) : List Event := events .none (lines [] (skipMark text.toList))

/-- The events of a stream; `none` where it is not UTF-8. -/
def ofBytes (bytes : ByteArray) : Option (List Event) := (String.fromUTF8? bytes).map parse

example : parse "data: a\r\ndata:b\r\n\r\n:x\nevent: t\ndata\n\n" = [⟨"message", "a\nb"⟩, ⟨"t", ""⟩] := by
  decide

/-! ## One event -/

theorem field_of_name {name : List Char} (h : ':' ∉ name) (value : List Char) : field (name ++ ':' :: ' ' :: value) = (name, value) := by
  have hall : ∀ c ∈ name, (decide (c ≠ ':')) = true := by
    intro c hc
    refine decide_eq_true fun he => ?_
    rw [he] at hc
    exact h hc
  unfold field
  rw [List.takeWhile_append_of_pos hall, List.dropWhile_append_of_pos hall]
  simp

/-- The text of an event with a type and one line of data. -/
def eventText (type data : String) : String := "event: " ++ type ++ "\ndata: " ++ data ++ "\n\n"

theorem eventText_toList (type data : String) : (eventText type data).toList =
    ("event".toList ++ ':' :: ' ' :: type.toList) ++ '\n' :: (("data".toList ++ ':' :: ' ' :: data.toList) ++ '\n' :: ['\n']) := by
  simp [eventText]

/-- One event and what follows it. -/
theorem events_eventText {type data : String} (htype : type ≠ "") (ht : Unbroken type.toList) (hd : Unbroken data.toList) (rest : List Char) :
    events .none (lines [] ((eventText type data).toList ++ rest)) = ⟨type, data⟩ :: events .none (lines [] rest) := by
  have hline : ∀ (name value : List Char), Unbroken name → Unbroken value → Unbroken (name ++ ':' :: ' ' :: value) := by
    intro name value hn hv
    have hcolon : Unbroken [':', ' '] := by decide +kernel
    exact hn.append (hcolon.append hv)
  have htype' : type.toList ≠ [] := by
    intro h
    exact htype (String.toList_eq_nil_iff.mp h)
  rw [eventText_toList, List.append_assoc, List.cons_append, lines_line (hline _ _ (by decide +kernel) ht), List.append_assoc, List.cons_append,
    lines_line (hline _ _ (by decide +kernel) hd)]
  show events ((Pending.none.add (field ("event".toList ++ ':' :: ' ' :: type.toList))).add
    (field ("data".toList ++ ':' :: ' ' :: data.toList))) ([] :: lines [] rest) = _
  rw [field_of_name (by decide), field_of_name (by decide)]
  show Pending.dispatch ⟨type.toList, [] ++ data.toList ++ ['\n']⟩ ++ _ = _
  unfold Pending.dispatch
  rw [if_neg (by simp), if_neg htype', List.dropLast_concat, List.nil_append, String.ofList_toList, String.ofList_toList]
  rfl

theorem skipMark_eventText (type data : String) (rest : List Char) :
    skipMark ((eventText type data).toList ++ rest) = (eventText type data).toList ++ rest := by
  rw [eventText_toList]
  rfl

/-- One event after the other. -/
theorem parse_join {es : List Event} (h : ∀ e ∈ es, e.type ≠ "" ∧ Unbroken e.type.toList ∧ Unbroken e.data.toList) :
    parse (String.join (es.map fun e => eventText e.type e.data)) = es := by
  have hevents : events .none (lines [] (es.flatMap fun e => (eventText e.type e.data).toList)) = es := by
    induction es with
    | nil => rfl
    | cons e es ih =>
      obtain ⟨htype, ht, hd⟩ := h e List.mem_cons_self
      rw [List.flatMap_cons, events_eventText htype ht hd, ih fun e' he' => h e' (List.mem_cons_of_mem _ he')]
  have hmark : skipMark (es.flatMap fun e => (eventText e.type e.data).toList) = es.flatMap fun e => (eventText e.type e.data).toList := by
    cases es with
    | nil => rfl
    | cons e es => exact skipMark_eventText e.type e.data _
  unfold parse
  rw [String.toList_join, List.flatMap_map, hmark, hevents]

theorem ofBytes_toUTF8 (text : String) : ofBytes text.toUTF8 = some (parse text) := by
  unfold ofBytes String.fromUTF8?
  rw [String.toUTF8_eq_toByteArray, dif_pos text.isValidUTF8]
  rfl

/-- `b"".join(chunks)`. -/
def concat (chunks : List ByteArray) : ByteArray := chunks.foldl (· ++ ·) ByteArray.empty

theorem concat_toUTF8 (texts : List String) : concat (texts.map String.toUTF8) = (String.join texts).toUTF8 := by
  have hfold : ∀ (ts : List String) (t : String),
      (ts.map String.toUTF8).foldl (· ++ ·) t.toUTF8 = (ts.foldl (· ++ ·) t).toUTF8 := by
    intro ts
    induction ts with
    | nil => exact fun t => rfl
    | cons s ts ih =>
      intro t
      rw [List.map_cons, List.foldl_cons, List.foldl_cons, ← ih (t ++ s)]
      rfl
  exact hfold texts ""

/-- The bytes of one event after the other are read as these events. -/
theorem ofBytes_concat {es : List Event} (h : ∀ e ∈ es, e.type ≠ "" ∧ Unbroken e.type.toList ∧ Unbroken e.data.toList) :
    ofBytes (concat (es.map fun e => (eventText e.type e.data).toUTF8)) = some es := by
  have htexts : (es.map fun e => (eventText e.type e.data).toUTF8) = (es.map fun e => eventText e.type e.data).map String.toUTF8 := by
    rw [List.map_map]
    rfl
  rw [htexts, concat_toUTF8, ofBytes_toUTF8, parse_join h]

end EventStream

end Data
