/-
  Aegis.Memory.Planning — notes a user left, what a planning step makes of them, and the budget of the
  step (memory/store.py, memory/default_runtime.py, agent/execution_budget.py).

  A principal's notes come from the rows of one table, in the order of their ids. The newest few are cut
  to what the context budget leaves room for, and nothing but the query of a search sees them.
  - `fit_note_eq`: the halving finds the longest prefix of a note that fits.
  - `planning_context_notes`: the notes of a context, one after the other, are those prefixes.
-/

import Aegis.Gateway.Proposals
import Aegis.Approvals.Record
import Aegis.Data.JsonText
import Aegis.Data.LongestPrefix

namespace Aegis.Memory

open Data Gateway
open Approvals (Principal)

/-! ## The store -/

structure MemoryRecord where
  memoryId : Nat
  tenantId : String
  userId : String
  content : String
  deriving DecidableEq, Repr

/-- `SqliteMemoryStore`: its rows, in the order of their ids. -/
structure SqliteMemoryStore where
  rows : List MemoryRecord
  deriving DecidableEq, Repr

/-- `RememberNote(content=content).content`; `none` is a ValidationError. -/
def rememberNote (content : String) : Option String := textField 2000 (stripWhitespace content)

def SqliteMemoryStore.remember (store : SqliteMemoryStore) (principal : Principal) (content : String) : Option SqliteMemoryStore :=
  (rememberNote content).map fun content =>
    { rows := store.rows ++ [⟨store.rows.length + 1, principal.tenantId, principal.userId, content⟩] }

/-- `list_for_principal`, of a limit between 1 and 100. -/
def SqliteMemoryStore.list_for_principal (store : SqliteMemoryStore) (principal : Principal) (limit : Nat) : List MemoryRecord :=
  (store.rows.filter fun row => row.tenantId = principal.tenantId ∧ row.userId = principal.userId).take limit

/-! ## Budgets -/

inductive BudgetDimension where
  | steps | modelCalls | contextBytes | elapsedMs
  deriving DecidableEq, Repr

structure BudgetExceeded where
  dimension : BudgetDimension
  limit : Nat
  observed : Nat
  deriving DecidableEq, Repr

structure AgentExecutionLimits where
  max_steps : Nat
  max_model_calls : Nat
  max_context_bytes : Nat
  max_elapsed_ms : Nat
  deriving DecidableEq, Repr

/-- What `before_model` reads of an `ExecutionBudget`. -/
structure ExecutionBudget where
  limits : AgentExecutionLimits
  startedMs : Nat
  steps : Nat
  modelCalls : Nat
  maxContextBytesObserved : Nat
  deriving DecidableEq, Repr

/-- `byte_size` of a text. -/
def byte_size (value : String) : Nat := value.utf8ByteSize

/-- `_require`. -/
def require (dimension : BudgetDimension) (observed limit : Nat) : Except BudgetExceeded Unit :=
  Checks.raiseIf (observed > limit) ⟨dimension, limit, observed⟩

/-- `before_model`, at the time `now`. -/
def ExecutionBudget.before_model (budget : ExecutionBudget) (now : Nat) (context : String) : Except BudgetExceeded ExecutionBudget := do
  require .elapsedMs (now - budget.startedMs) budget.limits.max_elapsed_ms
  let contextBytes := byte_size context
  require .contextBytes contextBytes budget.limits.max_context_bytes
  require .steps (budget.steps + 1) budget.limits.max_steps
  require .modelCalls (budget.modelCalls + 1) budget.limits.max_model_calls
  return { budget with
    steps := budget.steps + 1
    modelCalls := budget.modelCalls + 1
    maxContextBytesObserved := max budget.maxContextBytesObserved contextBytes }

/-! ## The planning context -/

def memoryContextLabel : String := "untrusted_user_memory"

structure PlanningMemoryContext where
  notes : List String
  rendered_context : String
  deriving DecidableEq, Repr

/-- A list of notes as an array. -/
def noteArray (notes : List String) : Json := Json.arr (notes.map Json.str)

/-- `_render`; the label stands before the message in the order of the keys. -/
def render (message : String) (notes : List String) : String :=
  (Json.obj [(memoryContextLabel, noteArray notes), ("user_message", .str message)]).dumpsText

/-- Whether a prefix still fits after the notes selected before it. -/
def Fits (message : String) (max_context_bytes : Nat) (selected : List String) (candidate : List Char) : Prop :=
  byte_size (render message (selected ++ [String.ofList candidate])) ≤ max_context_bytes

instance decidableFits (message : String) (max_context_bytes : Nat) (selected : List String) :
    DecidablePred (Fits message max_context_bytes selected) :=
  fun candidate => inferInstanceAs (Decidable (byte_size (render message (selected ++ [String.ofList candidate])) ≤ max_context_bytes))

/-- `_fit_note`; every turn halves what is left of the content, so one more than its length is enough of them. -/
def fit_note (message : String) (selected : List String) (content : String) (max_context_bytes : Nat) : String :=
  if byte_size (render message (selected ++ [content])) ≤ max_context_bytes then content
  else String.ofList (search (Fits message max_context_bytes selected) content.toList (content.toList.length + 1) 0 content.toList.length [])

/-- `for content in candidates`. -/
def selectNotes (message : String) (max_context_bytes : Nat) (selected : List String) : List String → List String
  | [] => selected
  | content :: candidates =>
    let fitted := fit_note message selected content max_context_bytes
    selectNotes message max_context_bytes (if fitted = "" then selected else selected ++ [fitted]) candidates

/-- `DefaultMemoryContextService`. -/
structure MemoryContextService where
  store : SqliteMemoryStore
  max_planning_records : Nat
  positive : 1 ≤ max_planning_records

/-- The contents a context is made from, the newest first. -/
def MemoryContextService.candidates (service : MemoryContextService) (principal : Principal) : List String :=
  let records := service.store.list_for_principal principal 100
  ((records.drop (records.length - service.max_planning_records)).map MemoryRecord.content).reverse

def MemoryContextService.planning_context (service : MemoryContextService) (principal : Principal) (message : String)
    (max_context_bytes : Nat) : PlanningMemoryContext :=
  let base := render message []
  if byte_size base > max_context_bytes then { notes := [], rendered_context := base }
  else
    let notes := selectNotes message max_context_bytes [] (service.candidates principal)
    { notes, rendered_context := render message notes }

/-- `enrich_proposal`; `none` is the KeyError of a search without a query. -/
def enrich_proposal (reading : Reading) (proposal : ToolCallProposal) (context : PlanningMemoryContext) : Option ToolCallProposal :=
  if proposal.name ≠ .searchKnowledgeBase ∨ context.notes = [] then some proposal
  else
    (proposal.arguments.get? "query").map fun value =>
      let query := reading.text value
      let memoryBlob := (noteArray context.notes).dumpsText
      { proposal with arguments := proposal.arguments.set "query" (.str (query ++ "\n" ++ memoryContextLabel ++ "=" ++ memoryBlob)) }

/-! ## What fits -/

section

variable {message : String} {max_context_bytes : Nat}

/-- A longer note at the end makes no shorter rendering. -/
theorem render_snoc_le (notes : List String) {short long : String}
    (h : (Json.quotedText short).utf8ByteSize ≤ (Json.quotedText long).utf8ByteSize) :
    byte_size (render message (notes ++ [short])) ≤ byte_size (render message (notes ++ [long])) := by
  have harray := Json.utf8ByteSize_arr_snoc (x := .str short) (y := .str long) h (notes.map Json.str)
  simp only [byte_size, render, noteArray, List.map_append, List.map_cons, List.map_nil, Json.obj, List.foldr_cons, List.foldr_nil,
    Json.dumpsText, Json.renderText, String.utf8ByteSize_append] at harray ⊢
  omega

theorem fits_shortens (selected : List String) : Shortens (Fits message max_context_bytes selected) := by
  intro xs ys h
  exact (render_snoc_le selected (Json.utf8ByteSize_quotedText_append xs ys)).trans h

/-- The longest prefix of a note that fits after the notes selected before it. -/
def fitted (message : String) (max_context_bytes : Nat) (selected : List String) (content : String) : String :=
  String.ofList (longestPrefix (Fits message max_context_bytes selected) content.toList)

theorem fit_note_eq (selected : List String) (content : String) :
    fit_note message selected content max_context_bytes = fitted message max_context_bytes selected content := by
  unfold fit_note fitted
  split_ifs with h
  · have hfits : Fits message max_context_bytes selected content.toList := by
      rw [Fits, String.ofList_toList]
      exact h
    rw [longestPrefix_of_fits hfits, String.ofList_toList]
  · rw [search_eq (fits_shortens selected)]

/-- The notes of a context, one after the other; a note of which nothing fits is left out. -/
def fittedNotes (message : String) (max_context_bytes : Nat) (selected : List String) : List String → List String
  | [] => selected
  | content :: candidates =>
    let note := fitted message max_context_bytes selected content
    fittedNotes message max_context_bytes (if note = "" then selected else selected ++ [note]) candidates

theorem selectNotes_eq (selected candidates : List String) :
    selectNotes message max_context_bytes selected candidates = fittedNotes message max_context_bytes selected candidates := by
  induction candidates generalizing selected with
  | nil => rfl
  | cons content candidates ih =>
    unfold selectNotes fittedNotes
    simp only [fit_note_eq, ih]

/-- Whatever is selected fits. -/
theorem fittedNotes_fit {selected : List String} (h : byte_size (render message selected) ≤ max_context_bytes)
    (candidates : List String) : byte_size (render message (fittedNotes message max_context_bytes selected candidates)) ≤ max_context_bytes := by
  induction candidates generalizing selected with
  | nil => exact h
  | cons content candidates ih =>
    unfold fittedNotes
    dsimp only
    split_ifs with hnote
    · exact ih h
    · have hfits : Fits message max_context_bytes selected (longestPrefix (Fits message max_context_bytes selected) content.toList) := by
        apply longestPrefix_fits
        intro hnil
        apply hnote
        rw [fitted, hnil]
      exact ih hfits

variable {service : MemoryContextService} {principal : Principal}

theorem planning_context_notes (h : byte_size (render message []) ≤ max_context_bytes) :
    service.planning_context principal message max_context_bytes =
      { notes := fittedNotes message max_context_bytes [] (service.candidates principal)
        rendered_context := render message (fittedNotes message max_context_bytes [] (service.candidates principal)) } := by
  unfold MemoryContextService.planning_context
  dsimp only
  rw [if_neg (Nat.not_lt.mpr h), selectNotes_eq]

theorem planning_context_without (h : max_context_bytes < byte_size (render message [])) :
    service.planning_context principal message max_context_bytes = { notes := [], rendered_context := render message [] } := if_pos h

end

/-! ## Planning steps -/

inductive PlanError where
  | budget (exceeded : BudgetExceeded)
  | keyError
  deriving DecidableEq, Repr

/-- `DefaultBudgetedAgentRunner._plan`, without any memory. -/
def budgetedPlan (propose : String → ToolCallProposal) (budget : ExecutionBudget) (now : Nat) (message : String) :
    Except PlanError (ToolCallProposal × ExecutionBudget) :=
  match budget.before_model now message with
  | .error exceeded => .error (.budget exceeded)
  | .ok budget => .ok (propose message, budget)

/-- `DefaultMemoryAwareAgentRunner._plan`. -/
def memoryAwarePlan (reading : Reading) (propose : String → ToolCallProposal) (service : MemoryContextService) (principal : Principal)
    (budget : ExecutionBudget) (now : Nat) (message : String) : Except PlanError (ToolCallProposal × ExecutionBudget) :=
  let context := service.planning_context principal message budget.limits.max_context_bytes
  match budget.before_model now context.rendered_context with
  | .error exceeded => .error (.budget exceeded)
  | .ok budget =>
    match enrich_proposal reading (propose message) context with
    | none => .error .keyError
    | some proposal => .ok (proposal, budget)

end Aegis.Memory
