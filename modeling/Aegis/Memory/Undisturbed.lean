/-
  Aegis.Memory.Undisturbed — what memory does to a planning step that would go through without it.

  The memoryless step puts the bare message to the budget, the step with memory a rendering of it, which is
  longer. Notes are cut so that the rendering fits, but the query they are added to is the gateway's to check.
  - `enriched_kept`: memory changes no tool, and no argument but the query of a search, whose start it leaves.
  - `undisturbed_iff`: a step the budget and the gateway let through without memory goes through with it
    exactly when the rendering of the message alone fits and the query with the notes has at most 500 characters.
-/

import Aegis.Memory.Planning

namespace Aegis.Memory

open Data Gateway
open Approvals (Principal)

section

variable {reading : Reading} {propose : String → ToolCallProposal} {service : MemoryContextService} {principal : Principal}
variable {budget after : ExecutionBudget} {now : Nat} {message query : String} {limit : Nat} {proposal enriched normal : ToolCallProposal}
  {context : PlanningMemoryContext}

/-! ## Budgets -/

theorem require_ok {dimension : BudgetDimension} {observed limit : Nat} :
    require dimension observed limit = .ok () ↔ observed ≤ limit := by
  rw [require, Checks.raiseIf_ok, Nat.not_lt]

theorem before_model_ok {context : String} : budget.before_model now context = .ok after ↔
    now - budget.startedMs ≤ budget.limits.max_elapsed_ms ∧ byte_size context ≤ budget.limits.max_context_bytes ∧
      budget.steps + 1 ≤ budget.limits.max_steps ∧ budget.modelCalls + 1 ≤ budget.limits.max_model_calls ∧ { budget with
        steps := budget.steps + 1
        modelCalls := budget.modelCalls + 1
        maxContextBytesObserved := max budget.maxContextBytesObserved (byte_size context) } = after := by
  unfold ExecutionBudget.before_model
  simp only [Checks.ok_seq, require_ok, pure, Except.pure, Except.ok.injEq]

/-- A call that passes with one context passes with another if and only if that one is not too long. -/
theorem before_model_iff {context other : String} (h : budget.before_model now other = .ok after) :
    (∃ after', budget.before_model now context = .ok after') ↔ byte_size context ≤ budget.limits.max_context_bytes := by
  obtain ⟨helapsed, -, hsteps, hcalls, -⟩ := before_model_ok.mp h
  constructor
  · rintro ⟨after', h'⟩
    exact (before_model_ok.mp h').2.1
  · intro hcontext
    exact ⟨_, before_model_ok.mpr ⟨helapsed, hcontext, hsteps, hcalls, rfl⟩⟩

/-! ## Proposals -/

/-- What a step with memory is to leave of a proposal that was planned without. -/
structure Kept (reading : Reading) (proposal enriched : ToolCallProposal) : Prop where
  name : enriched.name = proposal.name
  others : proposal.name ≠ .searchKnowledgeBase → enriched.arguments = proposal.arguments
  arguments : ∀ argument ≠ "query", enriched.arguments.get? argument = proposal.arguments.get? argument
  query : ∀ query, proposal.arguments.get? "query" = some (.str query) →
    ∃ more, enriched.arguments.get? "query" = some (.str (query ++ more))
  accepted : ∃ normal, normalize_proposal reading enriched = .ok normal

theorem Kept.refl (h : normalize_proposal reading proposal = .ok normal) : Kept reading proposal proposal where
  name := rfl
  others _ := rfl
  arguments _ _ := rfl
  query query h := ⟨"", by rw [h, String.append_empty]⟩
  accepted := ⟨normal, h⟩

/-- What the notes add to a query. -/
def memoryText (notes : List String) : String := "\n" ++ memoryContextLabel ++ "=" ++ (noteArray notes).dumpsText

theorem memoryText_length (notes : List String) : (memoryText notes).length = 23 + (noteArray notes).dumpsText.length := by
  have hlabel : ("\n" ++ memoryContextLabel ++ "=").length = 23 := by decide
  rw [memoryText, String.length_append, hlabel]

/-- A proposal whose query has more at its end. -/
def extended (proposal : ToolCallProposal) (query more : String) : ToolCallProposal :=
  { proposal with arguments := proposal.arguments.set "query" (.str (query ++ more)) }

theorem enrich_proposal_without (h : proposal.name ≠ .searchKnowledgeBase ∨ context.notes = []) :
    enrich_proposal reading proposal context = some proposal := if_pos h

section

variable (hname : proposal.name = .searchKnowledgeBase)
include hname

theorem enrich_proposal_search
    (hnotes : context.notes ≠ []) (hquery : proposal.arguments.get? "query" = some (.str query)) :
    enrich_proposal reading proposal context = some (extended proposal query (memoryText context.notes)) := by
  unfold enrich_proposal
  rw [if_neg (not_or.mpr ⟨not_not.mpr hname, hnotes⟩), hquery]
  simp only [Option.map_some, Reading.text, extended, memoryText, String.append_assoc]

/-- The longer search is let through when its query has room for what is added. -/
theorem extended_accepts (hok : normalize_proposal reading proposal = .ok normal) (hquery : proposal.arguments.get? "query" = some (.str query)) (more : String) :
    (∃ normal, normalize_proposal reading (extended proposal query more) = .ok normal) ↔ query.length + more.length ≤ 500 := by
  have hbefore := normalize_proposal_accepts.mp ⟨normal, hok⟩
  rw [hname, validated, search_accepts] at hbefore
  obtain ⟨⟨q, hq, hlow, -⟩, ⟨limit, hlimit, hbounds⟩, honly⟩ := hbefore
  obtain rfl : query = q := by
    rw [hquery] at hq
    exact Json.str.inj (Option.some.inj hq)
  rw [normalize_proposal_accepts]
  show (validated reading proposal.name (proposal.arguments.set "query" (.str (query ++ more)))).isSome ↔ _
  rw [hname, validated, search_accepts]
  constructor
  · rintro ⟨⟨q, hq, -, hhigh⟩, -⟩
    rw [Arguments.get?_set_self] at hq
    obtain rfl : query ++ more = q := Json.str.inj (Option.some.inj hq)
    rwa [String.length_append] at hhigh
  · intro hroom
    refine ⟨⟨query ++ more, Arguments.get?_set_self _ _ _, ?_, ?_⟩, ⟨limit, ?_, hbounds⟩, honly.set (by decide) _⟩
    · rw [String.length_append]
      omega
    · rw [String.length_append]
      exact hroom
    · rw [← hlimit]
      unfold limitOf
      rw [Arguments.get?_set_ne _ _ (by decide)]

theorem extended_kept (hok : normalize_proposal reading proposal = .ok normal) (hquery : proposal.arguments.get? "query" = some (.str query)) {more : String}
    (hroom : query.length + more.length ≤ 500) : Kept reading proposal (extended proposal query more) where
  name := rfl
  others h := absurd hname h
  arguments argument hne := Arguments.get?_set_ne _ _ hne
  query q hq := by
    obtain rfl : query = q := by
      rw [hquery] at hq
      exact Json.str.inj (Option.some.inj hq)
    exact ⟨more, Arguments.get?_set_self _ _ _⟩
  accepted := (extended_accepts hname hok hquery more).mpr hroom

/-! ## Planning steps -/

end

theorem budgetedPlan_ok (h : budgetedPlan propose budget now message = .ok (proposal, after)) :
    propose message = proposal ∧ budget.before_model now message = .ok after := by
  unfold budgetedPlan at h
  split at h
  · cases h
  · rename_i b hb
    cases h
    exact ⟨rfl, hb⟩

theorem memoryAwarePlan_ok : memoryAwarePlan reading propose service principal budget now message = .ok (enriched, after) ↔
    budget.before_model now (service.planning_context principal message budget.limits.max_context_bytes).rendered_context = .ok after ∧
      enrich_proposal reading (propose message) (service.planning_context principal message budget.limits.max_context_bytes) =
        some enriched := by
  unfold memoryAwarePlan
  dsimp only
  cases budget.before_model now (service.planning_context principal message budget.limits.max_context_bytes).rendered_context with
  | error exceeded => simp
  | ok b =>
    cases enrich_proposal reading (propose message) (service.planning_context principal message budget.limits.max_context_bytes) with
    | none => simp
    | some p => simp [and_comm]

/-- The step with memory passes its budget if and only if the message alone, rendered, is not too long. -/
theorem rendered_fits_iff : byte_size (service.planning_context principal message limit).rendered_context ≤ limit ↔
    byte_size (render message []) ≤ limit := by
  by_cases h : byte_size (render message []) ≤ limit
  · rw [planning_context_notes h]
    simp only [h, iff_true]
    exact fittedNotes_fit h _
  · rw [planning_context_without (Nat.lt_of_not_le h)]

/-- The notes a step has room for: the newest ones, each cut to the longest prefix that fits. -/
def planningNotes (service : MemoryContextService) (principal : Principal) (message : String) (limit : Nat) : List String :=
  fittedNotes message limit [] (service.candidates principal)

/-- Memory lets a step pass, and keeps what it planned. -/
def Undisturbed (reading : Reading) (propose : String → ToolCallProposal) (service : MemoryContextService) (principal : Principal)
    (budget : ExecutionBudget) (now : Nat) (message : String) : Prop :=
  ∃ enriched after, memoryAwarePlan reading propose service principal budget now message = .ok (enriched, after) ∧
    Kept reading (propose message) enriched

/-- A search has room for the notes in its query. -/
def Room (notes : List String) (proposal : ToolCallProposal) : Prop :=
  proposal.name = .searchKnowledgeBase → notes ≠ [] → ∀ query, proposal.arguments.get? "query" = some (.str query) →
    query.length + (23 + (noteArray notes).dumpsText.length) ≤ 500

/-- A step memory left alone had the room. -/
theorem Undisturbed.room (h : Undisturbed reading propose service principal budget now message)
    (hplan : budgetedPlan propose budget now message = .ok (proposal, after))
    (hok : normalize_proposal reading proposal = .ok normal) :
    byte_size (render message []) ≤ budget.limits.max_context_bytes ∧
      Room (planningNotes service principal message budget.limits.max_context_bytes) proposal := by
  obtain ⟨hpropose, hmodel⟩ := budgetedPlan_ok hplan
  obtain ⟨enriched, after', hmemory, hkept⟩ := h
  obtain ⟨hbudget, henrich⟩ := memoryAwarePlan_ok.mp hmemory
  have hbase := rendered_fits_iff.mp ((before_model_iff hmodel).mp ⟨after', hbudget⟩)
  refine ⟨hbase, ?_⟩
  intro hname hnotes query hquery
  rw [hpropose, planning_context_notes hbase, enrich_proposal_search hname hnotes hquery] at henrich
  obtain rfl := Option.some.inj henrich
  have hroom := (extended_accepts hname hok hquery _).mp hkept.accepted
  rwa [memoryText_length] at hroom

/-- Where there is room, memory leaves the step alone. -/
theorem Room.undisturbed (hplan : budgetedPlan propose budget now message = .ok (proposal, after))
    (hok : normalize_proposal reading proposal = .ok normal) (hbase : byte_size (render message []) ≤ budget.limits.max_context_bytes)
    (hroom : Room (planningNotes service principal message budget.limits.max_context_bytes) proposal) :
    Undisturbed reading propose service principal budget now message := by
  obtain ⟨hpropose, hmodel⟩ := budgetedPlan_ok hplan
  have hrendered : byte_size (service.planning_context principal message budget.limits.max_context_bytes).rendered_context ≤
      budget.limits.max_context_bytes := rendered_fits_iff.mpr hbase
  obtain ⟨after', hbudget⟩ := (before_model_iff hmodel).mpr hrendered
  by_cases hsearch : proposal.name = .searchKnowledgeBase ∧ planningNotes service principal message budget.limits.max_context_bytes ≠ []
  · obtain ⟨hname, hnotes⟩ := hsearch
    -- what the gateway lets through has a query
    have haccepts := normalize_proposal_accepts.mp ⟨normal, hok⟩
    rw [hname, validated, search_accepts] at haccepts
    obtain ⟨⟨query, hquery, -⟩, -⟩ := haccepts
    have hremembered : (service.planning_context principal message budget.limits.max_context_bytes).notes ≠ [] := by
      rw [planning_context_notes hbase]
      exact hnotes
    have henrich : enrich_proposal reading proposal _ = _ := enrich_proposal_search hname hremembered hquery
    refine ⟨_, after', memoryAwarePlan_ok.mpr ⟨hbudget, by rw [hpropose]; exact henrich⟩, ?_⟩
    rw [hpropose]
    refine extended_kept hname hok hquery ?_
    rw [planning_context_notes hbase, memoryText_length]
    exact hroom hname hnotes query hquery
  · have hwithout : proposal.name ≠ .searchKnowledgeBase ∨
        (service.planning_context principal message budget.limits.max_context_bytes).notes = [] := by
      rw [planning_context_notes hbase]
      exact (not_and_or.mp hsearch).imp_right not_not.mp
    refine ⟨proposal, after', memoryAwarePlan_ok.mpr ⟨hbudget, ?_⟩, ?_⟩
    · rw [hpropose]
      exact enrich_proposal_without hwithout
    · rw [hpropose]
      exact .refl hok

/-- Memory leaves a step that goes through without it alone exactly when the message alone still fits once it is rendered,
and the query of a search has room for the notes. -/
theorem undisturbed_iff (hplan : budgetedPlan propose budget now message = .ok (proposal, after))
    (hok : normalize_proposal reading proposal = .ok normal) :
    Undisturbed reading propose service principal budget now message ↔
      byte_size (render message []) ≤ budget.limits.max_context_bytes ∧
        Room (planningNotes service principal message budget.limits.max_context_bytes) proposal := by
  constructor
  · intro h
    exact h.room hplan hok
  · rintro ⟨hbase, hroom⟩
    exact hroom.undisturbed hplan hok hbase

end

namespace Sample

def principal : Principal := ⟨"dana", "dynamics", [.employee]⟩

/-- `P2G_EXECUTION_LIMITS`. -/
def limits : AgentExecutionLimits := ⟨20, 8, 900, 5000⟩

def budget : ExecutionBudget := ⟨limits, 0, 0, 0, 0⟩

/-- The last lines of the planner: a plain message is searched for. -/
def propose (message : String) : ToolCallProposal := ⟨.searchKnowledgeBase, [("query", .str message), ("limit", .int 3)]⟩

def reading : Reading := ⟨fun _ => "", fun _ => none⟩

/-- A note left before, in a store of its own. -/
def service (note : String) : MemoryContextService where
  store := ⟨[⟨1, "dynamics", "dana", note⟩]⟩
  max_planning_records := 3
  positive := by decide

/-- A long note. -/
def longNote : String := String.ofList (List.replicate 490 'x')

theorem planned : budgetedPlan propose budget 0 "vpn" = .ok (propose "vpn", { budget with steps := 1, modelCalls := 1, maxContextBytesObserved := 3 }) := by
  decide +kernel

theorem lets_through : normalize_proposal reading (propose "vpn") = .ok (propose "vpn") := by decide +kernel

theorem undisturbed_iff_short : Undisturbed reading propose (service "wifi") principal budget 0 "vpn" ↔
    byte_size (render "vpn" []) ≤ 900 ∧ Room (planningNotes (service "wifi") principal "vpn" 900) (propose "vpn") :=
  undisturbed_iff planned lets_through

/-- A plain text stands as it is, between its quotation marks. -/
theorem quotedText_longNote : (Json.quotedText longNote).utf8ByteSize = 492 ∧ (Json.quotedText longNote).length = 492 := by
  have hplain : ∀ n, (String.join ((List.replicate n 'x').map Json.escapeControl)).utf8ByteSize = n ∧
      (String.join ((List.replicate n 'x').map Json.escapeControl)).length = n := by
    intro n
    induction n with
    | zero => exact ⟨rfl, rfl⟩
    | succ n ih =>
      have hx : (Json.escapeControl 'x').utf8ByteSize = 1 ∧ (Json.escapeControl 'x').length = 1 := by decide
      rw [List.replicate_succ, List.map_cons, String.join_cons, String.utf8ByteSize_append, String.length_append, hx.1, hx.2, ih.1, ih.2]
      omega
  have hquote : ("\"" : String).utf8ByteSize = 1 ∧ ("\"" : String).length = 1 := by decide
  unfold Json.quotedText longNote
  rw [String.toList_ofList, String.utf8ByteSize_append, String.utf8ByteSize_append, String.length_append, String.length_append,
    (hplain 490).1, (hplain 490).2, hquote.1, hquote.2]
  decide

theorem longNote_fits : fit_note "vpn" [] longNote 900 = longNote := by
  refine if_pos ?_
  have hsizes : ("\x7b" ++ Json.quotedText memoryContextLabel ++ ":" ++ "[").utf8ByteSize = 26 ∧
      ("]" ++ ("," ++ Json.quotedText "user_message" ++ ":" ++ Json.quotedText "vpn" ++ "\x7d")).utf8ByteSize = 23 := by
    decide +kernel
  simp only [String.utf8ByteSize_append] at hsizes
  simp only [byte_size, render, noteArray, List.nil_append, List.map_cons, List.map_nil, Json.obj, Json.arr, List.foldr_cons, List.foldr_nil,
    Json.dumpsText, Json.renderText, String.utf8ByteSize_append, quotedText_longNote.1]
  omega

theorem longNote_length : (noteArray [longNote]).dumpsText.length = 494 := by
  have hbrackets : ("[" : String).length = 1 ∧ ("]" : String).length = 1 := by decide
  simp only [noteArray, List.map_cons, List.map_nil, Json.arr, List.foldr_cons, List.foldr_nil, Json.dumpsText, Json.renderText,
    String.length_append, quotedText_longNote.2, hbrackets.1, hbrackets.2]

/-- A note of 490 characters leaves no room in the query for the message it is remembered for. -/
theorem too_long : budgetedPlan propose budget 0 "vpn" =
      .ok (propose "vpn", { budget with steps := 1, modelCalls := 1, maxContextBytesObserved := 3 }) ∧
    normalize_proposal reading (propose "vpn") = .ok (propose "vpn") ∧
    ¬ Undisturbed reading propose (service longNote) principal budget 0 "vpn" := by
  refine ⟨planned, lets_through, ?_⟩
  intro h
  obtain ⟨-, hroom⟩ := h.room planned lets_through
  have hnotes : planningNotes (service longNote) principal "vpn" 900 = [longNote] := by
    have hcandidates : (service longNote).candidates principal = [longNote] := rfl
    have hne : longNote ≠ "" := by decide +kernel
    unfold planningNotes fittedNotes
    rw [hcandidates]
    simp only [← fit_note_eq, longNote_fits, if_neg hne]
    rfl
  have hlength := hroom rfl (by rw [show budget.limits.max_context_bytes = 900 from rfl, hnotes]; exact List.cons_ne_nil _ _) "vpn" rfl
  rw [show budget.limits.max_context_bytes = 900 from rfl, hnotes, longNote_length] at hlength
  exact absurd hlength (by decide)

end Sample

end Aegis.Memory
