/-
  Aegis.Agent.BoundedLoop — the budgets of one agent run (agent/bounded_loop.py, agent/execution_budget.py).

  The readings of the clock, the proposals and the gateway's answers are given. A charge that is refused ends the
  run with the budget it left, whose counts are those there were (`Charges`); a result is kept before it is charged.

  - `turns_ends`: what holds wherever a run ends.
  - `accounted_iff`: the bytes counted are those of the results kept unless the last of them was refused.
-/

import Aegis.Data.Checks
import Aegis.Data.JsonText
import Aegis.Gateway.Proposals
import Mathlib.Algebra.GroupWithZero.Nat

namespace Aegis.Agent

open Data Data.Checks
open Gateway (ToolCallProposal)

/-! ## Budgets -/

inductive BudgetDimension where
  | steps | modelCalls | toolCalls | retries | inputBytes | contextBytes | resultBytes | elapsedMs | sameToolCalls
  deriving DecidableEq, Repr

structure BudgetExceeded where
  dimension : BudgetDimension
  limit : Nat
  observed : Nat

structure AgentExecutionLimits where
  maxSteps : Nat := 20
  maxModelCalls : Nat := 8
  maxToolCalls : Nat := 5
  maxRetries : Nat := 2
  maxInputBytes : Nat := 1024
  maxContextBytes : Nat := 900
  maxResultBytes : Nat := 4096
  maxElapsedMs : Nat := 5000
  maxSameToolCallCount : Nat := 1

/-- What a budget counts, against its limits. -/
structure Counts where
  limits : AgentExecutionLimits
  modelCalls : Nat
  toolCalls : Nat
  retries : Nat
  resultBytes : Nat
  sameCallCounts : String → Nat

/-- One more tool call, of this fingerprint. -/
def Counts.attempt (c : Counts) (fingerprint : String) : Counts :=
  { c with
    toolCalls := c.toolCalls + 1
    sameCallCounts := fun other => if other = fingerprint then c.sameCallCounts fingerprint + 1 else c.sameCallCounts other }

structure ExecutionBudget extends Counts where
  clockMs : Nat → Int
  /-- How often the clock was read. -/
  readings : Nat
  startedMs : Int
  steps : Nat
  maxContextBytesObserved : Nat

abbrev Document := List (String × Json)

/-- `json.dumps(…, sort_keys=True)` -/
def dumpsSorted (value : Document) : String := (Json.obj value).sorted.dumpsText

/-- `byte_size` of a dict. -/
def byteSize (value : Document) : Nat := (dumpsSorted value).utf8ByteSize

/-- What raises leaves a budget too. -/
abbrev Charge := Except (BudgetExceeded × ExecutionBudget)

/-- `_require` -/
def require (dimension : BudgetDimension) (observed limit : Nat) (budget : ExecutionBudget) : Charge Unit :=
  raiseIf (observed > limit) (⟨dimension, limit, observed⟩, budget)

namespace ExecutionBudget

def new (limits : AgentExecutionLimits) (clockMs : Nat → Int) : ExecutionBudget :=
  { limits, modelCalls := 0, toolCalls := 0, retries := 0, resultBytes := 0, sameCallCounts := fun _ => 0
    clockMs, readings := 1, startedMs := clockMs 0, steps := 0, maxContextBytesObserved := 0 }

variable (budget : ExecutionBudget)

def elapsedMs : Nat := (budget.clockMs budget.readings - budget.startedMs).toNat

/-- `_consume_step` -/
def consumeStep : Charge ExecutionBudget := do
  require .steps (budget.steps + 1) budget.limits.maxSteps budget
  return { budget with steps := budget.steps + 1 }

/-- `_check_elapsed` -/
def checkElapsed : Charge ExecutionBudget := do
  let read := { budget with readings := budget.readings + 1 }
  require .elapsedMs budget.elapsedMs budget.limits.maxElapsedMs read
  return read

def validateInput (text : String) : Charge ExecutionBudget := do
  let budget ← budget.checkElapsed
  require .inputBytes text.utf8ByteSize budget.limits.maxInputBytes budget
  return budget

def beforeModel (context : String) : Charge ExecutionBudget := do
  let budget ← budget.checkElapsed
  let contextBytes := context.utf8ByteSize
  let budget := { budget with maxContextBytesObserved := max budget.maxContextBytesObserved contextBytes }
  require .contextBytes contextBytes budget.limits.maxContextBytes budget
  let budget ← budget.consumeStep
  require .modelCalls (budget.modelCalls + 1) budget.limits.maxModelCalls budget
  return { budget with modelCalls := budget.modelCalls + 1 }

/-- `before_tool`, of the fingerprint of the proposal. -/
def beforeTool (fingerprint : String) : Charge ExecutionBudget := do
  let budget ← budget.checkElapsed
  require .toolCalls (budget.toolCalls + 1) budget.limits.maxToolCalls budget
  require .sameToolCalls (budget.sameCallCounts fingerprint + 1) budget.limits.maxSameToolCallCount budget
  let budget ← budget.consumeStep
  return { budget with toCounts := budget.toCounts.attempt fingerprint }

def afterTool (result : Document) : Charge ExecutionBudget := do
  let budget ← budget.checkElapsed
  require .resultBytes (budget.resultBytes + byteSize result) budget.limits.maxResultBytes budget
  return { budget with resultBytes := budget.resultBytes + byteSize result }

def recordRetry : Charge ExecutionBudget := do
  let budget ← budget.checkElapsed
  require .retries (budget.retries + 1) budget.limits.maxRetries budget
  let budget ← budget.consumeStep
  return { budget with retries := budget.retries + 1 }

end ExecutionBudget

/-! ## The loop -/

inductive LoopRunStatus where
  | completed | blocked | labCeiling
  deriving DecidableEq, Repr

structure LoopRunOutcome where
  status : LoopRunStatus
  blockedDimension : Option BudgetDimension
  modelCalls : Nat
  toolAttempts : Nat
  executedToolCalls : Nat
  retries : Nat
  resultBytes : Nat
  maxContextBytesObserved : Nat
  elapsedMs : Nat
  toolNames : List String
  toolResults : List Document
  labCeilingReached : Bool

structure LoopState where
  budget : ExecutionBudget
  /-- The proposals the gateway was given. -/
  attempted : List ToolCallProposal
  executed : Nat
  toolNames : List String
  toolResults : List Document
  context : String

/-- What ends the loop leaves a state; without a budget exceeded, the model proposed nothing. -/
abbrev Turn := Except (Option BudgetExceeded × LoopState)

def LoopState.charge (s : LoopState) : Charge ExecutionBudget → Turn LoopState
  | .ok budget => .ok { s with budget }
  | .error (exceeded, budget) => .error (some exceeded, { s with budget })

/-- A result is kept before it is charged. -/
def LoopState.keep (s : LoopState) (proposal : ToolCallProposal) (result : Document) : LoopState :=
  { s with
    executed := s.executed + 1
    toolNames := s.toolNames ++ [proposal.name.value]
    toolResults := s.toolResults ++ [result] }

/-- `context_entry` -/
def contextEntry (proposal : ToolCallProposal) (result : Document) : String :=
  "\n" ++ dumpsSorted [("tool", .str proposal.name.value), ("result", .obj result)]

/-- What the loop does with an answer of the gateway; `none` is a ToolGatewayError. -/
def settle (proposal : ToolCallProposal) (s : LoopState) : Option Document → Turn LoopState
  | none => do
    let s ← s.charge s.budget.recordRetry
    return { s with context := s.context ++ "\nTOOL_ERROR" }
  | some result => do
    let s ← (s.keep proposal result).charge (s.budget.afterTool result)
    return { s with context := s.context ++ contextEntry proposal result }

/-- The runner, with what the model proposes and the gateway answers in each turn. -/
structure BoundedLoopAgentRunner where
  propose : String → Nat → Option ToolCallProposal
  dispatch : Nat → ToolCallProposal → Option Document
  limits : AgentExecutionLimits
  labSafetyCeiling : Nat
  clockMs : Nat → Int
  sha256 : String → String

/-- Where a loop ends. -/
def last : Turn LoopState → LoopState
  | .ok s | .error (_, s) => s

/-- `_outcome` -/
def outcome (s : LoopState) (status : LoopRunStatus) (blockedDimension : Option BudgetDimension) (labCeilingReached : Bool)
    (extraContextBytes : Option Nat) : LoopRunOutcome where
  status
  blockedDimension
  modelCalls := s.budget.modelCalls
  toolAttempts := s.budget.toolCalls
  executedToolCalls := s.executed
  retries := s.budget.retries
  resultBytes := s.budget.resultBytes
  maxContextBytesObserved := max s.budget.maxContextBytesObserved (extraContextBytes.getD 0)
  elapsedMs := s.budget.elapsedMs
  toolNames := s.toolNames
  toolResults := s.toolResults
  labCeilingReached

namespace BoundedLoopAgentRunner

variable (runner : BoundedLoopAgentRunner) (message : String)

def proposalFingerprint (proposal : ToolCallProposal) : String :=
  runner.sha256 (dumpsSorted [("name", .str proposal.name.value), ("arguments", .obj proposal.arguments)])

/-- A turn up to the call of the gateway. -/
def attempt (iteration : Nat) (s : LoopState) : Turn (ToolCallProposal × LoopState) := do
  let s ← s.charge (s.budget.beforeModel s.context)
  match runner.propose message iteration with
  | none => .error (none, s)
  | some proposal =>
    let s ← s.charge (s.budget.beforeTool (runner.proposalFingerprint proposal))
    return (proposal, { s with attempted := s.attempted ++ [proposal] })

/-- `n` turns from this one on. -/
def turns (iteration : Nat) : Nat → LoopState → Turn LoopState
  | 0, s => .ok s
  | n + 1, s => do
    let (proposal, s) ← runner.attempt message iteration s
    let s ← settle proposal s (runner.dispatch iteration proposal)
    turns (iteration + 1) n s

def start : LoopState := ⟨.new runner.limits runner.clockMs, [], 0, [], [], message⟩

def loop : Turn LoopState := do
  let s ← (runner.start message).charge ((runner.start message).budget.validateInput message)
  runner.turns message 0 runner.labSafetyCeiling s

def run : LoopRunOutcome :=
  match runner.loop message with
  | .ok s => outcome s .labCeiling none true (some s.context.utf8ByteSize)
  | .error (none, s) => outcome s .completed none false none
  | .error (some exceeded, s) => outcome s .blocked (some exceeded.dimension) false
      (if exceeded.dimension = .contextBytes then some exceeded.observed else none)

end BoundedLoopAgentRunner

/-! ## What a charge counts -/

/-- A charge leaves counts of which `P` holds, and where it is refused the counts there were. -/
def Charges (c : Counts) (P : Counts → Prop) : Charge ExecutionBudget → Prop
  | .ok budget => P budget.toCounts
  | .error (_, budget) => budget.toCounts = c

/-- The result is charged in time, and there is room for its bytes. -/
def Fits (budget : ExecutionBudget) (result : Document) : Prop :=
  budget.elapsedMs ≤ budget.limits.maxElapsedMs ∧ budget.resultBytes + byteSize result ≤ budget.limits.maxResultBytes

section Charges

variable {budget : ExecutionBudget} {c : Counts} {P Q : Counts → Prop}

theorem Charges.bind {x : Charge ExecutionBudget} {f : ExecutionBudget → Charge ExecutionBudget} (hx : Charges c P x)
    (hf : ∀ b, P b.toCounts → Charges c Q (f b)) : Charges c Q (x >>= f) := by
  cases x with
  | error r => exact hx
  | ok b => exact hf b hx

theorem Charges.require {dimension : BudgetDimension} {observed limit : Nat} {f : Unit → Charge ExecutionBudget}
    (hb : budget.toCounts = c) (hf : observed ≤ limit → Charges c P (f ())) :
    Charges c P (Agent.require dimension observed limit budget >>= f) := by
  unfold Agent.require raiseIf
  by_cases h : observed > limit
  · rw [if_pos h]
    exact hb
  · rw [if_neg h]
    exact hf (Nat.not_lt.mp h)

theorem checkElapsed_charges (hb : budget.toCounts = c) : Charges c (· = c) budget.checkElapsed := .require hb fun _ => hb

theorem consumeStep_charges (hb : budget.toCounts = c) : Charges c (· = c) budget.consumeStep := .require hb fun _ => hb

theorem validateInput_charges (budget : ExecutionBudget) (text : String) : Charges budget.toCounts (· = budget.toCounts) (budget.validateInput text) :=
  .bind (checkElapsed_charges rfl) fun _ h1 => .require h1 fun _ => h1

theorem beforeModel_charges (context : String) : Charges budget.toCounts (fun c =>
    budget.modelCalls + 1 ≤ budget.limits.maxModelCalls ∧ c = { budget.toCounts with modelCalls := budget.modelCalls + 1 })
    (budget.beforeModel context) := by
  refine .bind (checkElapsed_charges rfl) fun b1 h1 => .require h1 fun _ => .bind (consumeStep_charges h1) fun b2 h2 => ?_
  refine .require h2 fun hle => ?_
  rw [← h2]
  exact ⟨hle, rfl⟩

theorem beforeTool_charges (fingerprint : String) : Charges budget.toCounts (fun c =>
    budget.toolCalls + 1 ≤ budget.limits.maxToolCalls ∧
      budget.sameCallCounts fingerprint + 1 ≤ budget.limits.maxSameToolCallCount ∧ c = budget.toCounts.attempt fingerprint)
    (budget.beforeTool fingerprint) := by
  refine .bind (checkElapsed_charges rfl) fun b1 h1 => .require h1 fun htool => .require h1 fun hsame => ?_
  refine .bind (consumeStep_charges h1) fun b2 h2 => ?_
  rw [h1] at htool hsame
  exact ⟨htool, hsame, congrArg (Counts.attempt · fingerprint) h2⟩

theorem afterTool_charges (budget : ExecutionBudget) (result : Document) : Charges budget.toCounts (fun c =>
    budget.resultBytes + byteSize result ≤ budget.limits.maxResultBytes ∧
      c = { budget.toCounts with resultBytes := budget.resultBytes + byteSize result }) (budget.afterTool result) := by
  refine .bind (checkElapsed_charges rfl) fun b1 h1 => .require h1 fun hle => ?_
  rw [← h1]
  exact ⟨hle, rfl⟩

theorem recordRetry_charges : Charges budget.toCounts (fun c =>
    budget.retries + 1 ≤ budget.limits.maxRetries ∧ c = { budget.toCounts with retries := budget.retries + 1 }) budget.recordRetry := by
  refine .bind (checkElapsed_charges rfl) fun b1 h1 => .require h1 fun hle => .bind (consumeStep_charges h1) fun b2 h2 => ?_
  rw [h1] at hle
  rw [← h2] at hle ⊢
  exact ⟨hle, rfl⟩

theorem afterTool_fits (budget : ExecutionBudget) (result : Document) : (∃ after, budget.afterTool result = .ok after) ↔ Fits budget result := by
  simp [ExecutionBudget.afterTool, ExecutionBudget.checkElapsed, require, Fits, pure, Except.pure]

/-- A dict is written in braces. -/
theorem byteSize_pos (value : Document) : 0 < byteSize value := by
  have hfield : ∀ name value rest, 0 < (Json.field name value rest).dumpsText.utf8ByteSize := by
    intro name value rest
    simp only [Json.dumpsText, Json.renderText, String.utf8ByteSize_append, show "\x7b".utf8ByteSize = 1 by decide]
    omega
  cases value with
  | nil => decide
  | cons item items =>
    show 0 < (Json.insertField item.1 item.2.sorted (Json.obj items).sorted).dumpsText.utf8ByteSize
    unfold Json.insertField
    split
    · split <;> exact hfield _ _ _
    · exact hfield _ _ _

end Charges

/-! ## Wherever a run ends -/

/-- The counts of a run that has attempted these proposals and executed so many. -/
structure Within (runner : BoundedLoopAgentRunner) (c : Counts) (attempted : List ToolCallProposal) (executed : Nat) : Prop where
  limits : c.limits = runner.limits
  modelCalls : c.modelCalls ≤ runner.limits.maxModelCalls
  toolCalls : c.toolCalls ≤ runner.limits.maxToolCalls
  retries : c.retries ≤ runner.limits.maxRetries
  resultBytes : c.resultBytes ≤ runner.limits.maxResultBytes
  sameCalls : ∀ fingerprint, c.sameCallCounts fingerprint ≤ runner.limits.maxSameToolCallCount
  attempted : ∀ proposal, attempted.count proposal ≤ c.sameCallCounts (runner.proposalFingerprint proposal)
  executed : executed ≤ c.toolCalls

/-- Within the limits, whether or not the last result was refused. -/
def Bounded (runner : BoundedLoopAgentRunner) (s : LoopState) : Prop := Within runner s.budget.toCounts s.attempted s.executed

/-- The bytes counted are those of the results kept. -/
def Exact (s : LoopState) : Prop := s.budget.resultBytes = (s.toolResults.map byteSize).sum

/-- What a part of a run comes to: `E` holds if the run ends there, `P` if it goes on. -/
def Ends {α : Type} (E : LoopState → Prop) (P : α → Prop) : Turn α → Prop
  | .ok a => P a
  | .error (_, s) => E s

/-- Every result of the next `n` turns is charged in time and has room. -/
def Charged (runner : BoundedLoopAgentRunner) (message : String) (iteration : Nat) : Nat → LoopState → Prop
  | 0, _ => True
  | n + 1, s =>
    match runner.attempt message iteration s with
    | .error _ => True
    | .ok (proposal, s) =>
      (∀ result ∈ runner.dispatch iteration proposal, Fits s.budget result) ∧
        match settle proposal s (runner.dispatch iteration proposal) with
        | .error _ => True
        | .ok s => Charged runner message (iteration + 1) n s

/-- Every result of the run is charged in time and has room. -/
def AllCharged (runner : BoundedLoopAgentRunner) (message : String) : Prop :=
  ∀ s, (runner.start message).charge ((runner.start message).budget.validateInput message) = .ok s →
    Charged runner message 0 runner.labSafetyCeiling s

section Runs

variable {runner : BoundedLoopAgentRunner} {message : String} {s : LoopState} {proposal : ToolCallProposal} {b : ExecutionBudget} {c : Counts}

theorem ends_charge {α : Type} {E : LoopState → Prop} {P : α → Prop} {C : Counts → Prop} {x : Charge ExecutionBudget} {f : LoopState → Turn α}
    (hx : Charges s.budget.toCounts C x) (herr : ∀ b : ExecutionBudget, b.toCounts = s.budget.toCounts → E { s with budget := b })
    (hok : ∀ b : ExecutionBudget, C b.toCounts → Ends E P (f { s with budget := b })) : Ends E P (s.charge x >>= f) := by
  cases x with
  | error r => exact herr r.2 hx
  | ok b => exact hok b hx

theorem good_of_counts (hb : b.toCounts = c) (hw : Within runner c s.attempted s.executed) (hs : c.resultBytes = (s.toolResults.map byteSize).sum) :
    Bounded runner { s with budget := b } ∧ Exact { s with budget := b } := by
  subst hb
  exact ⟨hw, hs⟩

theorem Within.attempts {attempted : List ToolCallProposal} {executed : Nat} (h : Within runner c attempted executed)
    (htool : c.toolCalls + 1 ≤ c.limits.maxToolCalls)
    (hsame : c.sameCallCounts (runner.proposalFingerprint proposal) + 1 ≤ c.limits.maxSameToolCallCount) :
    Within runner (c.attempt (runner.proposalFingerprint proposal)) (attempted ++ [proposal]) executed where
  __ := h
  toolCalls := h.limits ▸ htool
  sameCalls fingerprint := by
    unfold Counts.attempt
    dsimp only
    split
    · exact h.limits ▸ hsame
    · exact h.sameCalls fingerprint
  attempted other := by
    have hother := h.attempted other
    unfold Counts.attempt
    rw [List.count_append, List.count_singleton]
    by_cases he : proposal = other
    · subst he
      simpa using hother
    · rw [if_neg (by simpa using he)]
      dsimp only
      split
      · rename_i hsame
        rw [← hsame]
        omega
      · exact hother
  executed := Nat.le_succ_of_le h.executed

theorem attempt_ends (message : String) (iteration : Nat) (h : Bounded runner s ∧ Exact s) : Ends (fun s' => Bounded runner s' ∧ Exact s')
    (fun x => (Bounded runner x.2 ∧ Exact x.2) ∧ x.2.executed < x.2.budget.toolCalls) (runner.attempt message iteration s) := by
  refine ends_charge (beforeModel_charges s.context) (fun b hb => good_of_counts hb h.1 h.2) fun b hb => ?_
  have h1 := good_of_counts hb.2 (s := s) { h.1 with modelCalls := h.1.limits ▸ hb.1 } h.2
  cases runner.propose message iteration with
  | none => exact h1
  | some proposal =>
    refine ends_charge (beforeTool_charges _) (fun b2 hb2 => good_of_counts hb2 h1.1 h1.2) fun b2 hb2 => ?_
    obtain ⟨htool, hsame, hc⟩ := hb2
    refine ⟨good_of_counts (s := { s with attempted := s.attempted ++ [proposal] }) hc (h1.1.attempts htool hsame) h1.2, ?_⟩
    show s.executed < b2.toolCalls
    rw [hc]
    exact Nat.lt_succ_of_le h1.1.executed

/-- The count is exact after an answer unless that is a result which is refused: it was kept all the same. -/
theorem settle_ends (proposal : ToolCallProposal) (answer : Option Document) (h : Bounded runner s ∧ Exact s) (hlt : s.executed < s.budget.toolCalls) :
    Ends (fun s' => Bounded runner s' ∧ (Exact s' ↔ ∀ result ∈ answer, Fits s.budget result))
      (fun s' => (Bounded runner s' ∧ Exact s') ∧ ∀ result ∈ answer, Fits s.budget result) (settle proposal s answer) := by
  cases answer with
  | none =>
    refine ends_charge recordRetry_charges (fun b hb => ?_) fun b hb => ?_
    · have h1 := good_of_counts hb h.1 h.2
      exact ⟨h1.1, iff_of_true h1.2 (by simp)⟩
    · exact ⟨good_of_counts hb.2 (s := s) { h.1 with retries := h.1.limits ▸ hb.1 } h.2, by simp⟩
  | some result =>
    have hcharges := afterTool_charges s.budget result
    have hfits := afterTool_fits s.budget result
    have hw : Within runner s.budget.toCounts s.attempted (s.executed + 1) := { h.1 with executed := hlt }
    have hsum : ((s.toolResults ++ [result]).map byteSize).sum = s.budget.resultBytes + byteSize result := by
      rw [List.map_append, List.sum_append, List.map_singleton, List.sum_singleton, ← show s.budget.resultBytes = _ from h.2]
    show Ends _ _ ((s.keep proposal result).charge (s.budget.afterTool result) >>= _)
    cases hx : s.budget.afterTool result with
    | error r =>
      rw [hx] at hcharges hfits
      have hc : r.2.toCounts = s.budget.toCounts := hcharges
      have hexact : r.2.resultBytes ≠ ((s.toolResults ++ [result]).map byteSize).sum := by
        have hpos := byteSize_pos result
        rw [hsum, hc]
        omega
      refine ⟨show Within runner r.2.toCounts s.attempted (s.executed + 1) from hc ▸ hw, iff_of_false hexact fun hall => ?_⟩
      simpa using hfits.mpr (hall result rfl)
    | ok b =>
      rw [hx] at hcharges
      have hgood := good_of_counts (s := s.keep proposal result) hcharges.2 { hw with resultBytes := h.1.limits ▸ hcharges.1 } hsum.symm
      exact ⟨hgood, fun other ho => Option.some.inj ho ▸ hfits.mp ⟨b, hx⟩⟩

theorem turns_ends (message : String) (n iteration : Nat) (h : Bounded runner s ∧ Exact s) :
    Ends (fun s' => Bounded runner s' ∧ (Exact s' ↔ Charged runner message iteration n s))
      (fun s' => (Bounded runner s' ∧ Exact s') ∧ Charged runner message iteration n s) (runner.turns message iteration n s) := by
  induction n generalizing iteration s with
  | zero => exact ⟨h, trivial⟩
  | succ n ih =>
    simp only [BoundedLoopAgentRunner.turns, Charged]
    have hattempt := attempt_ends message iteration h
    cases ha : runner.attempt message iteration s with
    | error r =>
      rw [ha] at hattempt
      exact ⟨hattempt.1, iff_of_true hattempt.2 trivial⟩
    | ok x =>
      rw [ha] at hattempt
      have hsettle := settle_ends x.1 (runner.dispatch iteration x.1) hattempt.1 hattempt.2
      cases hs : settle x.1 x.2 (runner.dispatch iteration x.1) with
      | error r =>
        rw [hs] at hsettle
        simpa [bind, Except.bind, hs, Ends] using hsettle
      | ok s2 =>
        rw [hs] at hsettle
        simp only [bind, Except.bind, hs, and_iff_right hsettle.2]
        exact ih _ hsettle.1

theorem loop_ends : Ends (fun s => Bounded runner s ∧ (Exact s ↔ AllCharged runner message))
    (fun s => (Bounded runner s ∧ Exact s) ∧ AllCharged runner message) (runner.loop message) := by
  have hstart : Within runner (runner.start message).budget.toCounts [] 0 :=
    ⟨rfl, Nat.zero_le _, Nat.zero_le _, Nat.zero_le _, Nat.zero_le _, fun _ => Nat.zero_le _, fun _ => Nat.zero_le _, Nat.zero_le _⟩
  unfold BoundedLoopAgentRunner.loop AllCharged
  have hcharges := validateInput_charges (runner.start message).budget message
  cases hv : (runner.start message).budget.validateInput message with
  | error r =>
    rw [hv] at hcharges
    have hgood := good_of_counts (s := runner.start message) hcharges hstart rfl
    exact ⟨hgood.1, iff_of_true hgood.2 fun _ he => by cases he⟩
  | ok b =>
    rw [hv] at hcharges
    have hgood := good_of_counts (s := runner.start message) hcharges hstart rfl
    simpa [LoopState.charge, bind, Except.bind] using turns_ends message runner.labSafetyCeiling 0 hgood

end Runs

/-- What an outcome says of a run that attempted these proposals. -/
structure Accounted (limits : AgentExecutionLimits) (outcome : LoopRunOutcome) (attempted : List ToolCallProposal) : Prop where
  modelCalls : outcome.modelCalls ≤ limits.maxModelCalls
  toolAttempts : outcome.toolAttempts ≤ limits.maxToolCalls
  retries : outcome.retries ≤ limits.maxRetries
  executed : outcome.executedToolCalls ≤ outcome.toolAttempts
  repeated : ∀ proposal, attempted.count proposal ≤ limits.maxSameToolCallCount
  resultBytes : outcome.resultBytes = (outcome.toolResults.map byteSize).sum
  results : (outcome.toolResults.map byteSize).sum ≤ limits.maxResultBytes

theorem outcome_accounted {runner : BoundedLoopAgentRunner} {s : LoopState} {status : LoopRunStatus} {dimension : Option BudgetDimension}
    {reached : Bool} {extra : Option Nat} (h : Bounded runner s) :
    Accounted runner.limits (outcome s status dimension reached extra) s.attempted ↔ Exact s :=
  ⟨fun ha => ha.resultBytes, fun he => ⟨h.modelCalls, h.toolCalls, h.retries, h.executed,
    fun p => (h.attempted p).trans (h.sameCalls _), he, he ▸ h.resultBytes⟩⟩

/-- The bytes counted are those of the results exactly when no result is refused after it was kept, late or too long; the rest
of the account is always right. -/
theorem accounted_iff (runner : BoundedLoopAgentRunner) (message : String) :
    Accounted runner.limits (runner.run message) (last (runner.loop message)).attempted ↔ AllCharged runner message := by
  have hends := @loop_ends runner message
  unfold BoundedLoopAgentRunner.run
  rcases hl : runner.loop message with ⟨_ | exceeded, s⟩ | s
  · rw [hl] at hends
    exact (outcome_accounted hends.1).trans hends.2
  · rw [hl] at hends
    exact (outcome_accounted hends.1).trans hends.2
  · rw [hl] at hends
    exact (outcome_accounted hends.1.1).trans (iff_of_true hends.1.2 hends.2)

namespace Sample

/-- The gateway answers when the time is over. -/
def late : BoundedLoopAgentRunner where
  propose _ _ := some ⟨.getMyAssets, []⟩
  dispatch _ _ := some []
  limits := {}
  labSafetyCeiling := 6
  clockMs n := if n ≤ 3 then 0 else 6000
  sha256 := id

theorem late_kept : ¬ Accounted late.limits (late.run "") (last (late.loop "")).attempted := by
  intro h
  have hbytes := h.resultBytes
  revert hbytes
  decide +kernel

end Sample

end Aegis.Agent
