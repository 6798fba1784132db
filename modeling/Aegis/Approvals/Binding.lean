/-
  Aegis.Approvals.Binding — what the binding hash of an approval tells apart (`_binding_hash` and
  `_verify_binding` of approvals/store.py).

  The hashed text joins its parts by the unit separator. Nonce, action and canonical arguments
  never hold one, so they are read off the text; the two ids in between may, and then the text
  does not say where the first ends.

  - `joined_iff`: two pairs of texts join to the same one when they are equal, or when one of
    them reaches over into the other (`Straddles`).
  - `binding_iff`: with that exception, what is verified is what the approval was created with.
-/

import Aegis.Approvals.Authority
import Aegis.Data.Reordering

namespace Aegis.Approvals

open Data
open Effects (Error)

/-! ## Joined pairs -/

/-- The second pair's first text holds the first pair's, a separator, and the beginning of its second. -/
def Straddles (first second first' second' : String) : Prop :=
  ∃ middle, first' = first ++ "\x1f" ++ middle ∧ second = middle ++ "\x1f" ++ second'

variable {first second first' second' : String}

theorem joined_straddle (h : Straddles first second first' second') :
    first.toList ++ Json.separator :: second.toList = first'.toList ++ Json.separator :: second'.toList := by
  obtain ⟨middle, rfl, rfl⟩ := h
  simp only [String.toList_append, List.append_assoc]
  rfl

theorem straddle_of_append {rest : List Char} (hne : rest ≠ [])
    (h : first'.toList = first.toList ++ rest) (h' : Json.separator :: second.toList = rest ++ Json.separator :: second'.toList) :
    Straddles first second first' second' := by
  cases rest with
  | nil => exact absurd rfl hne
  | cons c middle =>
    obtain ⟨hc, hsecond⟩ := List.cons.inj h'
    subst hc
    refine ⟨String.ofList middle, ?_, ?_⟩
    · apply String.toList_inj.mp
      simp only [String.toList_append, String.toList_ofList, List.append_assoc]
      exact h
    · apply String.toList_inj.mp
      simp only [String.toList_append, String.toList_ofList, List.append_assoc]
      exact hsecond

theorem joined_iff :
    first.toList ++ Json.separator :: second.toList = first'.toList ++ Json.separator :: second'.toList ↔
      (first' = first ∧ second' = second) ∨ Straddles first second first' second' ∨ Straddles first' second' first second := by
  constructor
  · intro h
    rcases List.append_eq_append_iff.mp h with ⟨rest, h1, h2⟩ | ⟨rest, h1, h2⟩
    · by_cases hne : rest = []
      · subst hne
        rw [List.append_nil] at h1
        exact .inl ⟨String.toList_inj.mp h1, (String.toList_inj.mp (List.cons.inj h2).2).symm⟩
      · exact .inr (.inl (straddle_of_append hne h1 h2))
    · by_cases hne : rest = []
      · subst hne
        rw [List.append_nil] at h1
        exact .inl ⟨(String.toList_inj.mp h1).symm, String.toList_inj.mp (List.cons.inj h2).2⟩
      · exact .inr (.inr (straddle_of_append hne h1 h2))
  · intro h
    rcases h with ⟨rfl, rfl⟩ | h | h
    · rfl
    · exact joined_straddle h
    · exact (joined_straddle h).symm

/-! ## What is verified -/

variable {H : Hashing} {nonce userId tenantId userId' tenantId' : String} {action action' : ApprovalAction}
  {arguments arguments' : Json}

theorem plain_value (a : ApprovalAction) : Json.Plain a.value := by
  cases a <;> decide

theorem value_injective : Function.Injective Effects.Action.value := by
  intro a b h
  cases a <;> cases b <;> first | rfl | exact absurd h (by decide)

theorem bindingHash_inj (hH : Function.Injective H.sha256) (ha : arguments.Proper) (ha' : arguments'.Proper) :
    bindingHash H nonce userId' tenantId' action' (canonicalize arguments') =
        bindingHash H nonce userId tenantId action (canonicalize arguments) ↔
      ((userId' = userId ∧ tenantId' = tenantId) ∨ Straddles userId tenantId userId' tenantId' ∨
        Straddles userId' tenantId' userId tenantId) ∧ action' = action ∧ Json.Same arguments' arguments := by
  rw [← joined_iff]
  constructor
  · intro h
    have htext := congrArg String.toList (Json.str.inj (hH h))
    simp only [Json.unitJoin_cons_cons, Json.unitJoin_singleton] at htext
    have hrest := (List.cons.inj (List.append_cancel_left htext)).2
    simp only [← List.cons_append, ← List.append_assoc] at hrest
    -- the arguments and the action are cut off at the end
    obtain ⟨hids, hargs⟩ := Json.cut_last (Json.plain_dumps _) (Json.plain_dumps _) hrest
    obtain ⟨hids, haction⟩ := Json.cut_last (plain_value _) (plain_value _) hids
    refine ⟨hids.symm, value_injective (String.toList_inj.mp haction), Json.same_iff_sorted.mpr ?_⟩
    exact Json.dumps_inj (Json.proper_sorted ha') (Json.proper_sorted ha) (String.toList_inj.mp hargs)
  · intro h
    obtain ⟨hids, rfl, hsame⟩ := h
    have hsorted : canonicalize arguments' = canonicalize arguments := hsame.sorted_eq
    rw [hsorted]
    unfold bindingHash
    refine congrArg (fun t => H.sha256 (.str t)) (String.toList_inj.mp ?_)
    have htext := congrArg (· ++ Json.separator :: (action'.value.toList ++
      Json.separator :: (canonicalize arguments).dumps.toList)) hids
    simp only [List.append_assoc, List.cons_append] at htext
    simp only [Json.unitJoin_cons_cons, Json.unitJoin_singleton, htext]

theorem verifyBinding_iff {r : ApprovalRecord} {requester : Principal} :
    verifyBinding H r requester action arguments = .ok () ↔ r.Matches H requester action arguments := by
  constructor
  · exact DurableApprovalStore.matches_of_verified
  · intro h
    exact if_neg (not_not_intro h)

/-- The requester, the action and the arguments are those the approval was created with. -/
structure Original (requester : Principal) (action : ApprovalAction) (arguments : Json) (requester' : Principal)
    (action' : ApprovalAction) (arguments' : Json) : Prop where
  userId : requester'.userId = requester.userId
  tenantId : requester'.tenantId = requester.tenantId
  action : action' = action
  arguments : Json.Same arguments' arguments

/-- Action and arguments are the approval's, and the ids are others that join to the same text. -/
structure Confused (requester : Principal) (action : ApprovalAction) (arguments : Json) (requester' : Principal)
    (action' : ApprovalAction) (arguments' : Json) : Prop where
  ids : Straddles requester.userId requester.tenantId requester'.userId requester'.tenantId ∨
    Straddles requester'.userId requester'.tenantId requester.userId requester.tenantId
  action : action' = action
  arguments : Json.Same arguments' arguments

theorem not_original_of_confused {requester requester' : Principal}
    (h : Confused requester action arguments requester' action' arguments') :
    ¬ Original requester action arguments requester' action' arguments' := by
  intro ho
  have hlength : ∀ {first second first' second' : String}, Straddles first second first' second' → first' ≠ first := by
    intro first second first' second' hs he
    obtain ⟨middle, h1, -⟩ := hs
    have := congrArg String.length (h1.symm.trans he)
    simp only [String.length_append] at this
    have hone : "\x1f".length = 1 := rfl
    omega
  rcases h.ids with hs | hs
  · exact hlength hs ho.userId
  · exact hlength hs ho.userId.symm

/-- Whatever has become of a record since it was created: its binding is verified exactly for the
    requester, action and arguments it was created with, unless the ids of requester and tenant are
    confused. -/
theorem binding_iff (hH : Function.Injective H.sha256) {approvalId nonce : String} {requester : Principal} {now : Int}
    {ttl : Ttl} {r : ApprovalRecord} (hr : Kept (.fresh H approvalId nonce requester action arguments now ttl) r)
    (ha : arguments.Proper) (requester' : Principal) (action' : ApprovalAction) {arguments' : Json} (ha' : arguments'.Proper) :
    (verifyBinding H r requester' action' arguments' = .ok () ↔
        Original requester action arguments requester' action' arguments') ↔
      ¬ Confused requester action arguments requester' action' arguments' := by
  have hverify : verifyBinding H r requester' action' arguments' = .ok () ↔
      bindingHash H nonce requester'.userId requester'.tenantId action' (canonicalize arguments') =
        bindingHash H nonce requester.userId requester.tenantId action (canonicalize arguments) := by
    rw [verifyBinding_iff]
    unfold ApprovalRecord.Matches
    rw [hr.nonce, hr.bindingHash]
    rfl
  rw [hverify, bindingHash_inj hH ha ha']
  constructor
  · intro hiff hc
    exact not_original_of_confused hc (hiff.mp ⟨.inr hc.ids, hc.action, hc.arguments⟩)
  · intro hc
    constructor
    · intro h
      obtain ⟨⟨h1, h2⟩ | hs, haction, hsame⟩ := h
      · exact ⟨h1, h2, haction, hsame⟩
      · exact absurd ⟨hs, haction, hsame⟩ hc
    · intro h
      exact ⟨.inl ⟨h.userId, h.tenantId⟩, h.action, h.arguments⟩

/-! ## Two requesters of one text -/

namespace Sample

def resource : Json := .obj [("resource", .str "vpn")]

/-- A user whose id ends where the tenant's begins. -/
def one : Principal := ⟨"alice", "eu\x1facme", [.employee]⟩

def other : Principal := ⟨"alice\x1feu", "acme", [.employee]⟩

theorem binding_of_one : verifyBinding Hashing.coded
    (.fresh Hashing.coded "apr" "nonce" one .requestAccess resource 0 ⟨600, by decide⟩) one .requestAccess resource = .ok () := by
  have hplain : ¬ Confused one .requestAccess resource one .requestAccess resource :=
    fun h => not_original_of_confused h ⟨rfl, rfl, rfl, .refl _⟩
  exact ((binding_iff Hashing.coded_injective (.refl _) (by decide) one .requestAccess (by decide)).mpr hplain).mpr
    ⟨rfl, rfl, rfl, .refl _⟩

/-- One requester's approval is verified for another user of another tenant. -/
theorem other_verified :
    ¬ ∀ (H : Hashing), Function.Injective H.sha256 →
      ∀ (i nonce : String) (requester requester' : Principal) (action action' : ApprovalAction) (arguments arguments' : Json)
        (now : Int) (ttl : Ttl), arguments.Proper → arguments'.Proper →
      (verifyBinding H (.fresh H i nonce requester action arguments now ttl) requester' action' arguments' = .ok () ↔
        Original requester action arguments requester' action' arguments') := by
  intro h
  have hmatches : verifyBinding Hashing.coded
      (.fresh Hashing.coded "apr" "nonce" one .requestAccess resource 0 ⟨600, by decide⟩) other .requestAccess resource = .ok () := by
    unfold verifyBinding
    exact if_neg (not_not_intro (congrArg Hashing.coded.sha256 rfl))
  have horiginal := (h Hashing.coded Hashing.coded_injective "apr" "nonce" one other .requestAccess .requestAccess resource
    resource 0 ⟨600, by decide⟩ (by decide) (by decide)).mp hmatches
  exact absurd horiginal.userId (by decide)

end Sample

end Aegis.Approvals
