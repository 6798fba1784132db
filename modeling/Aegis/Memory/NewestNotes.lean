/-
  Aegis.Memory.NewestNotes — which notes a planning step is given, and how much of each.

  The store is asked for a hundred notes in the order of their ids, so what is newest among them is not what is newest.
  - `fitted_iff`: the notes of a context are the longest prefixes that fit, one after the other.
  - `newest_planned_iff`: they are of the principal's newest notes, whatever the message and the budget, exactly when
    the newest notes have the texts of the newest among the oldest hundred.
  - `Sample.oldest_planned`: with a hundred and one notes the newest is left out.
-/

import Aegis.Memory.Planning

namespace Aegis.Memory

open Data
open Approvals (Principal)

variable {message : String} {max_context_bytes : Nat} {service : MemoryContextService} {principal : Principal}
variable {selected contents notes : List String}

/-- The longest prefix of a note that fits after the notes selected before it. -/
structure LongestFit (message : String) (max_context_bytes : Nat) (selected : List String) (content note : String) : Prop where
  shortened : note.toList <+: content.toList
  fits : Fits message max_context_bytes selected note.toList
  longest : ∀ candidate : List Char, candidate <+: content.toList → Fits message max_context_bytes selected candidate →
    candidate.length ≤ note.toList.length

/-- The notes made of contents, one after the other; a content is skipped if none of its prefixes fits. -/
inductive Fitted (message : String) (max_context_bytes : Nat) : List String → List String → List String → Prop where
  | nil (selected : List String) : Fitted message max_context_bytes selected [] selected
  | take {selected contents notes : List String} {content note : String} (h : LongestFit message max_context_bytes selected content note)
      (hne : note ≠ "") (hrest : Fitted message max_context_bytes (selected ++ [note]) contents notes) :
      Fitted message max_context_bytes selected (content :: contents) notes
  | skip {selected contents notes : List String} {content : String}
      (h : ∀ candidate : List Char, candidate ≠ [] → candidate <+: content.toList → ¬ Fits message max_context_bytes selected candidate)
      (hrest : Fitted message max_context_bytes selected contents notes) :
      Fitted message max_context_bytes selected (content :: contents) notes

/-- The contents of a principal's notes, the oldest first. -/
def SqliteMemoryStore.notesOf (store : SqliteMemoryStore) (principal : Principal) : List String :=
  (store.rows.filter fun row => row.tenantId = principal.tenantId ∧ row.userId = principal.userId).map MemoryRecord.content

/-- The newest `count` contents of some, the newest first. -/
def newest (count : Nat) (contents : List String) : List String := contents.reverse.take count

/-- A context within its budget, of the principal's newest notes, and of no other's. -/
structure Planned (service : MemoryContextService) (principal : Principal) (message : String) (max_context_bytes : Nat) : Prop where
  bounded : byte_size (service.planning_context principal message max_context_bytes).rendered_context ≤ max_context_bytes
  rendered : (service.planning_context principal message max_context_bytes).rendered_context =
    render message (service.planning_context principal message max_context_bytes).notes
  fitted : Fitted message max_context_bytes [] (newest service.max_planning_records (service.store.notesOf principal))
    (service.planning_context principal message max_context_bytes).notes
  own : ∀ other : MemoryContextService, other.max_planning_records = service.max_planning_records →
    other.store.notesOf principal = service.store.notesOf principal →
      other.planning_context principal message max_context_bytes = service.planning_context principal message max_context_bytes

/-! ## What is fitted -/

theorem fitted_longest {content : String} (hne : fitted message max_context_bytes selected content ≠ "") :
    LongestFit message max_context_bytes selected content (fitted message max_context_bytes selected content) := by
  have hlist : (fitted message max_context_bytes selected content).toList =
      longestPrefix (Fits message max_context_bytes selected) content.toList := String.toList_ofList
  refine ⟨?_, ?_, fun candidate hshort hfits => ?_⟩
  · rw [hlist]
    exact longestPrefix_prefix
  · rw [hlist]
    refine longestPrefix_fits fun hnil => hne ?_
    rw [fitted, hnil]
  · rw [hlist]
    exact longestPrefix_longest hshort hfits

theorem LongestFit.eq {content note : String} (h : LongestFit message max_context_bytes selected content note) :
    note = fitted message max_context_bytes selected content := by
  have hle : note.toList.length ≤ (longestPrefix (Fits message max_context_bytes selected) content.toList).length :=
    longestPrefix_longest h.shortened h.fits
  rw [fitted, ← String.ofList_toList (s := note)]
  congr 1
  by_cases hnil : longestPrefix (Fits message max_context_bytes selected) content.toList = []
  · rw [hnil, List.length_nil, Nat.le_zero, List.length_eq_zero_iff] at hle
    rw [hnil, hle]
  · have hshort : longestPrefix (Fits message max_context_bytes selected) content.toList <+: content.toList := longestPrefix_prefix
    have hge := h.longest _ hshort (longestPrefix_fits hnil)
    rcases List.prefix_or_prefix_of_prefix h.shortened hshort with hpre | hpre
    · exact hpre.eq_of_length_le hge
    · exact (hpre.eq_of_length_le hle).symm

theorem fitted_iff : Fitted message max_context_bytes selected contents notes ↔ notes = fittedNotes message max_context_bytes selected contents := by
  constructor
  · intro h
    induction h with
    | nil selected => rfl
    | take h hne hrest ih =>
      rw [fittedNotes, ← h.eq, if_neg hne]
      exact ih
    | skip h hrest ih =>
      rename_i selected _ _ content
      have hnone : fitted message max_context_bytes selected content = "" := by
        by_contra hne
        have hlongest := fitted_longest hne
        exact h _ (fun hnil => hne (String.toList_eq_nil_iff.mp hnil)) hlongest.shortened hlongest.fits
      rw [fittedNotes, if_pos hnone]
      exact ih
  · intro h
    induction contents generalizing selected with
    | nil => exact h ▸ .nil selected
    | cons content contents ih =>
      rw [fittedNotes] at h
      by_cases hnone : fitted message max_context_bytes selected content = ""
      · rw [if_pos hnone] at h
        refine .skip (fun candidate hne hshort hfits => hne ?_) (ih h)
        have hle := longestPrefix_longest hshort hfits
        have hnil : longestPrefix (Fits message max_context_bytes selected) content.toList = [] := by
          rw [fitted] at hnone
          exact String.ofList_eq_empty_iff.mp hnone
        rw [hnil, List.length_nil, Nat.le_zero] at hle
        exact List.length_eq_zero_iff.mp hle
      · rw [if_neg hnone] at h
        exact .take (fitted_longest hnone) hnone (ih h)

/-- Of a blank content nothing is fitted. -/
theorem fittedNotes_filter : fittedNotes message max_context_bytes selected (contents.filter (· ≠ "")) =
    fittedNotes message max_context_bytes selected contents := by
  induction contents generalizing selected with
  | nil => rfl
  | cons content contents ih =>
    by_cases hblank : content = ""
    · have hnone : fitted message max_context_bytes selected "" = "" := by
        have hshort : longestPrefix (Fits message max_context_bytes selected) "".toList <+: "".toList := longestPrefix_prefix
        rw [fitted, List.prefix_nil.mp hshort]
      rw [List.filter_cons_of_neg (by simpa using hblank), ih, hblank]
      conv_rhs => rw [fittedNotes, if_pos hnone]
    · rw [List.filter_cons_of_pos (by simpa using hblank), fittedNotes, fittedNotes, ih]

/-- A budget that is large enough leaves everything. -/
theorem exists_budget (message : String) (selected contents : List String) :
    ∃ budget, ∀ limit ≥ budget, fittedNotes message limit selected contents = selected ++ contents.filter (· ≠ "") := by
  induction contents generalizing selected with
  | nil => exact ⟨0, fun _ _ => (List.append_nil selected).symm⟩
  | cons content contents ih =>
    have hwhole : ∀ limit ≥ byte_size (render message (selected ++ [content])), fitted message limit selected content = content := by
      intro limit hlimit
      have hfits : Fits message limit selected content.toList := by
        rw [Fits, String.ofList_toList]
        exact hlimit
      rw [fitted, longestPrefix_of_fits hfits, String.ofList_toList]
    by_cases hblank : content = ""
    · obtain ⟨budget, hbudget⟩ := ih selected
      refine ⟨max budget (byte_size (render message (selected ++ [content]))), fun limit hlimit => ?_⟩
      rw [fittedNotes, hwhole limit (le_of_max_le_right hlimit), if_pos hblank, hbudget limit (le_of_max_le_left hlimit),
        List.filter_cons_of_neg (by simpa using hblank)]
    · obtain ⟨budget, hbudget⟩ := ih (selected ++ [content])
      refine ⟨max budget (byte_size (render message (selected ++ [content]))), fun limit hlimit => ?_⟩
      rw [fittedNotes, hwhole limit (le_of_max_le_right hlimit), if_neg hblank, hbudget limit (le_of_max_le_left hlimit),
        List.filter_cons_of_pos (by simpa using hblank), List.append_assoc, List.singleton_append]

/-! ## The newest notes -/

/-- The store gives the oldest hundred. -/
theorem candidates_eq : service.candidates principal = newest service.max_planning_records ((service.store.notesOf principal).take 100) := by
  unfold MemoryContextService.candidates SqliteMemoryStore.list_for_principal SqliteMemoryStore.notesOf newest
  rw [← List.map_take, List.take_reverse, List.length_map, ← List.map_drop]

/-- The notes are of the newest, for every message that fits by itself, exactly when these are the newest of the oldest hundred. -/
theorem newest_planned_iff (service : MemoryContextService) (principal : Principal) :
    (∀ message max_context_bytes, byte_size (render message []) ≤ max_context_bytes → Planned service principal message max_context_bytes) ↔
      (newest service.max_planning_records ((service.store.notesOf principal).take 100)).filter (· ≠ "") =
        (newest service.max_planning_records (service.store.notesOf principal)).filter (· ≠ "") := by
  constructor
  · intro h
    obtain ⟨budget, hbudget⟩ := exists_budget "" [] (service.candidates principal)
    obtain ⟨budget', hbudget'⟩ := exists_budget "" [] (newest service.max_planning_records (service.store.notesOf principal))
    have hbase : byte_size (render "" []) ≤ max (max budget budget') (byte_size (render "" [])) := le_max_right _ _
    have hnotes := fitted_iff.mp (h "" _ hbase).fitted
    rw [planning_context_notes hbase, hbudget _ ((le_max_left _ _).trans (le_max_left _ _)),
      hbudget' _ ((le_max_right _ _).trans (le_max_left _ _)), candidates_eq] at hnotes
    exact List.append_cancel_left hnotes
  · intro h message max_context_bytes hbase
    have hnotes : fittedNotes message max_context_bytes [] (service.candidates principal) =
        fittedNotes message max_context_bytes [] (newest service.max_planning_records (service.store.notesOf principal)) := by
      rw [candidates_eq, ← fittedNotes_filter, h, fittedNotes_filter]
    refine ⟨?_, ?_, ?_, fun other hcount hown => ?_⟩
    · rw [planning_context_notes hbase]
      exact fittedNotes_fit hbase _
    · rw [planning_context_notes hbase]
    · rw [planning_context_notes hbase, fitted_iff]
      exact hnotes
    · rw [planning_context_notes hbase, planning_context_notes hbase, candidates_eq, candidates_eq, hcount, hown]

namespace Sample

/-- A hundred notes, and one more. -/
def crowded : MemoryContextService where
  store := ⟨(List.range 100).map (fun n => ⟨n + 1, "dynamics", "dana", "old"⟩) ++ [⟨101, "dynamics", "dana", "new"⟩]⟩
  max_planning_records := 1
  positive := Nat.one_pos

/-- The newest note is not among those a context is made of. -/
theorem oldest_planned : (crowded.planning_context ⟨"dana", "dynamics", []⟩ "vpn" 900).notes = ["old"] ∧
    byte_size (render "vpn" []) ≤ 900 ∧ ¬ Planned crowded ⟨"dana", "dynamics", []⟩ "vpn" 900 := by
  have hbase : byte_size (render "vpn" []) ≤ 900 := by decide +kernel
  have hnotes : (crowded.planning_context ⟨"dana", "dynamics", []⟩ "vpn" 900).notes = ["old"] := by decide +kernel
  refine ⟨hnotes, hbase, fun h => ?_⟩
  have hnewest : fittedNotes "vpn" 900 [] (newest crowded.max_planning_records (crowded.store.notesOf ⟨"dana", "dynamics", []⟩)) = ["new"] := by
    decide +kernel
  have hfitted := fitted_iff.mp h.fitted
  rw [hnotes, hnewest] at hfitted
  exact absurd hfitted (by decide)

end Sample

end Aegis.Memory
