/-
  Aegis.Gateway.Proposals — tool calls a model proposes and what the gateway lets through
  (mcp_gateway/models.py, `ToolGateway.normalize_proposal`).

  The arguments of a call are the items of a dict, in its order. A value that is no integer may still
  be read as one, and every value has a text; both readings are parameters, `Reading`.
-/

import Aegis.Data.Json

namespace Aegis.Gateway

open Data

inductive ToolName where
  | searchKnowledgeBase | getMyAssets | createTicket | requestAccess | requestPasswordReset
  deriving DecidableEq, Repr

def ToolName.value : ToolName → String
  | searchKnowledgeBase => "search_knowledge_base"
  | getMyAssets => "get_my_assets"
  | createTicket => "create_ticket"
  | requestAccess => "request_access"
  | requestPasswordReset => "request_password_reset"

abbrev Arguments := List (String × Json)

namespace Arguments

/-- `arguments[name]`; `none` is a KeyError. -/
def get? (arguments : Arguments) (name : String) : Option Json := arguments.lookup name

/-- `arguments[name] = value`. -/
def set (arguments : Arguments) (name : String) (value : Json) : Arguments :=
  match arguments with
  | [] => [(name, value)]
  | item :: rest => if item.1 = name then (name, value) :: rest else item :: set rest name value

/-- `extra="forbid"`. -/
def Only (names : List String) (arguments : Arguments) : Prop := ∀ item ∈ arguments, item.1 ∈ names

instance decidableOnly (names : List String) (arguments : Arguments) : Decidable (Only names arguments) :=
  inferInstanceAs (Decidable (∀ item ∈ arguments, item.1 ∈ names))

@[simp] theorem get?_set_self (arguments : Arguments) (name : String) (value : Json) :
    (arguments.set name value).get? name = some value := by
  induction arguments with
  | nil => simp [set, get?]
  | cons item rest ih =>
    obtain ⟨first, v⟩ := item
    unfold set
    split_ifs with h
    · simp [get?]
    · have hne : (name == first) = false := beq_false_of_ne (Ne.symm h)
      simp only [get?, List.lookup_cons, hne] at ih ⊢
      exact ih

theorem get?_set_ne (arguments : Arguments) {name other : String} (value : Json) (hne : other ≠ name) :
    (arguments.set name value).get? other = arguments.get? other := by
  have hother : (other == name) = false := beq_false_of_ne hne
  induction arguments with
  | nil => simp only [set, get?, List.lookup_cons, hother]
  | cons item rest ih =>
    obtain ⟨first, v⟩ := item
    unfold set
    split_ifs with h
    · have h : first = name := h
      subst h
      simp only [get?, List.lookup_cons, hother]
    · simp only [get?, List.lookup_cons] at ih ⊢
      rw [ih]

/-- Setting an argument that stands there adds no name. -/
theorem Only.set {names : List String} {arguments : Arguments} (h : Only names arguments) {name : String} (hname : name ∈ names)
    (value : Json) : Only names (arguments.set name value) := by
  induction arguments with
  | nil =>
    intro item hitem
    obtain rfl := List.mem_singleton.mp hitem
    exact hname
  | cons first rest ih =>
    have hrest : Only names rest := fun item hitem => h item (List.mem_cons_of_mem first hitem)
    unfold Arguments.set
    split_ifs with heq
    · intro item hitem
      rcases List.mem_cons.mp hitem with rfl | hitem
      · exact hname
      · exact hrest item hitem
    · intro item hitem
      rcases List.mem_cons.mp hitem with rfl | hitem
      · exact h _ List.mem_cons_self
      · exact ih hrest item hitem

end Arguments

structure ToolCallProposal where
  name : ToolName
  arguments : Arguments
  deriving DecidableEq, Repr

/-- How a value of another kind is read as a text by `str()`, and as an integer by a model. -/
structure Reading where
  str : Json → String
  int? : Json → Option Int

/-- `str(value)`. -/
def Reading.text (reading : Reading) : Json → String
  | .str s => s
  | value => reading.str value

/-- A field of type `int`. -/
def Reading.integer? (reading : Reading) : Json → Option Int
  | .int n => some n
  | value => reading.int? value

/-! ## Argument models -/

/-- The characters `str_strip_whitespace` removes. -/
def isWhitespace (c : Char) : Bool := Data.isSpace c && !(28 ≤ c.toNat && c.toNat ≤ 31)

def stripWhitespace (s : String) : String :=
  String.ofList ((s.toList.dropWhile isWhitespace).reverse.dropWhile isWhitespace).reverse

/-- `Field(min_length=1, max_length=longest)` of type `str`. -/
def textField (longest : Nat) (value : String) : Option String :=
  if 1 ≤ value.length ∧ value.length ≤ longest then some value else none

/-- A required field of type `str`. -/
def requiredText (strip : String → String) (longest : Nat) (arguments : Arguments) (name : String) : Option String :=
  match arguments.get? name with
  | some (.str s) => textField longest (strip s)
  | _ => none

/-- The field `limit`, 3 where it is not given. -/
def limitOf (reading : Reading) (arguments : Arguments) : Option Int :=
  match arguments.get? "limit" with
  | none => some 3
  | some value => reading.integer? value

/-- `model_validate` and `model_dump`, of `SearchKnowledgeBaseArgs`. -/
def searchKnowledgeBaseArgs (reading : Reading) (arguments : Arguments) : Option Arguments := do
  let query ← requiredText id 500 arguments "query"
  let limit ← limitOf reading arguments
  if 1 ≤ limit ∧ limit ≤ 5 ∧ arguments.Only ["query", "limit"] then
    some [("query", .str query), ("limit", .int limit)]
  else none

def getMyAssetsArgs (arguments : Arguments) : Option Arguments := if arguments.Only [] then some [] else none

def createTicketArgs (arguments : Arguments) : Option Arguments := do
  let title ← requiredText stripWhitespace 120 arguments "title"
  let description ← requiredText stripWhitespace 2000 arguments "description"
  if arguments.Only ["title", "description"] then some [("title", .str title), ("description", .str description)] else none

def requestAccessArgs (arguments : Arguments) : Option Arguments := do
  let resource ← requiredText stripWhitespace 200 arguments "resource"
  let justification ← requiredText stripWhitespace 1000 arguments "justification"
  if arguments.Only ["resource", "justification"] then
    some [("resource", .str resource), ("justification", .str justification)]
  else none

def requestPasswordResetArgs (arguments : Arguments) : Option Arguments := do
  let reason ← requiredText stripWhitespace 1000 arguments "reason"
  if arguments.Only ["reason"] then some [("reason", .str reason)] else none

/-- `_ARGUMENT_MODELS[name].model_validate(arguments).model_dump()`; `none` is a ValidationError. -/
def validated (reading : Reading) : ToolName → Arguments → Option Arguments
  | .searchKnowledgeBase => searchKnowledgeBaseArgs reading
  | .getMyAssets => getMyAssetsArgs
  | .createTicket => createTicketArgs
  | .requestAccess => requestAccessArgs
  | .requestPasswordReset => requestPasswordResetArgs

inductive ToolGatewayError where
  | toolValidationError (text : String)
  deriving DecidableEq, Repr

/-- `ToolGateway.normalize_proposal`. -/
def normalize_proposal (reading : Reading) (proposal : ToolCallProposal) : Except ToolGatewayError ToolCallProposal :=
  match validated reading proposal.name proposal.arguments with
  | none => .error (.toolValidationError ("invalid arguments for tool " ++ proposal.name.value))
  | some arguments => .ok { proposal with arguments }

variable {reading : Reading} {proposal : ToolCallProposal} {arguments : Arguments}

theorem normalize_proposal_accepts :
    (∃ normal, normalize_proposal reading proposal = .ok normal) ↔ (validated reading proposal.name proposal.arguments).isSome := by
  unfold normalize_proposal
  cases validated reading proposal.name proposal.arguments with
  | none => simp
  | some arguments => simp

theorem requiredText_eq_some {strip : String → String} {longest : Nat} {name text : String} :
    requiredText strip longest arguments name = some text ↔
      ∃ s, arguments.get? name = some (.str s) ∧ strip s = text ∧ 1 ≤ text.length ∧ text.length ≤ longest := by
  unfold requiredText
  constructor
  · intro h
    split at h
    · rename_i s hs
      unfold textField at h
      split_ifs at h with hlength
      obtain rfl := Option.some.inj h
      exact ⟨s, hs, rfl, hlength⟩
    · cases h
  · rintro ⟨s, hs, rfl, hlength⟩
    rw [hs]
    exact if_pos hlength

/-- A search is let through when its query has 1 to 500 characters, its limit is from 1 to 5 and there is nothing else. -/
theorem search_accepts : (searchKnowledgeBaseArgs reading arguments).isSome ↔
    (∃ query, arguments.get? "query" = some (.str query) ∧ 1 ≤ query.length ∧ query.length ≤ 500) ∧
      (∃ limit, limitOf reading arguments = some limit ∧ 1 ≤ limit ∧ limit ≤ 5) ∧ arguments.Only ["query", "limit"] := by
  unfold searchKnowledgeBaseArgs
  constructor
  · intro h
    obtain ⟨normal, h⟩ := Option.isSome_iff_exists.mp h
    obtain ⟨query, hquery, h⟩ := Option.bind_eq_some_iff.mp h
    obtain ⟨limit, hlimit, h⟩ := Option.bind_eq_some_iff.mp h
    obtain ⟨s, hs, rfl, hlength⟩ := requiredText_eq_some.mp hquery
    split_ifs at h with hok
    exact ⟨⟨s, hs, hlength⟩, ⟨limit, hlimit, hok.1, hok.2.1⟩, hok.2.2⟩
  · rintro ⟨⟨query, hquery, hlength⟩, ⟨limit, hlimit, hlow, hhigh⟩, honly⟩
    have htext : requiredText id 500 arguments "query" = some query := requiredText_eq_some.mpr ⟨query, hquery, rfl, hlength⟩
    simp only [htext, hlimit, Option.bind_eq_bind, Option.bind_some, if_pos (And.intro hlow (And.intro hhigh honly))]
    rfl

end Aegis.Gateway
