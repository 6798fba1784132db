/-
  Aegis.Incidents.IntakeRoot — what the root of an intake binds (lifecycle.py, types.py).

  The root is the digest of the five fields that an intake has to fill: who the incident is about and what opened it.
  How severe it was found to be, and of which categories, is carried along beside them.
  - `intakeRootDigest_inj`: intakes of one root agree in the five fields.
  - `root_binds`: so whatever validates against a root, a lifecycle, governance or execution record, carries the
    identity and the evidence that were taken in.
  - `Sample.severity_changed`: one root for an intake of high severity and one of low severity.
-/

import Aegis.Incidents.Intake
import Aegis.Incidents.Ledger

namespace Aegis.Incidents

open Data Data.Checks
open Assurance (Runtime)

section
variable {rt : Runtime} {a b taken : IncidentIntakeRecord} {root : String}

theorem intakeRootMaterial_injective : Function.Injective intakeRootMaterial := by
  intro a b h
  have hstr : Function.Injective Json.str := fun x y hxy => Json.str.inj hxy
  simp only [intakeRootMaterial, Json.obj_cons, Json.field.injEq, Json.str.injEq, Json.arr_inj,
    (List.map_injective_iff.mpr hstr).eq_iff, references_injective.eq_iff, true_and, and_true] at h
  obtain ⟨hevents, hreferences, hid, htenant, hworkload⟩ := h
  cases a
  cases b
  cases hevents
  cases hreferences
  cases hid
  cases htenant
  cases hworkload
  rfl

section

variable (hinj : Function.Injective rt.sha256)
include hinj

/-- A root is that of one intake only. -/
theorem intakeRootDigest_inj (ha : intakeRootDigest rt a = .ok root)
    (hb : intakeRootDigest rt b = .ok root) : a = b := by
  obtain ⟨-, ha⟩ := intakeRootDigest_ok.mp ha
  obtain ⟨-, hb⟩ := intakeRootDigest_ok.mp hb
  exact intakeRootMaterial_injective (hinj (ha.trans hb.symm))

theorem intake_of_lifecycle {r : IncidentLifecycleRecord} (h : r.Valid rt)
    (hroot : intakeRootDigest rt taken = .ok root) (hr : rt.casefold r.intakeRootSha256 = root) : r.intake = taken := by
  have hown : intakeRootDigest rt r.intake = .ok root := intakeRootDigest_ok.mpr ⟨h.intake, h.root.symm.trans hr⟩
  exact intakeRootDigest_inj hinj hown hroot

/-- What a governance record passes on is what was taken in. -/
theorem taken_of_governance {g : IncidentGovernanceRecord} (h : g.Valid rt)
    (hroot : intakeRootDigest rt taken = .ok root) (hr : rt.casefold g.lifecycle.intakeRootSha256 = root) :
    g.lifecycle.intake = taken ∧ g.tenantRef = taken.tenantRef ∧ g.workloadRef = taken.workloadRef := by
  have hintake := intake_of_lifecycle hinj h.lifecycle hroot hr
  exact ⟨hintake, h.tenantRef.trans (congrArg _ hintake), h.workloadRef.trans (congrArg _ hintake)⟩

/-- What an execution request passes on is what was taken in. -/
theorem taken_of_request {request : IncidentExecutionRequest} (h : request.Valid rt)
    (hroot : intakeRootDigest rt taken = .ok root)
    (hr : rt.casefold request.governance.lifecycle.intakeRootSha256 = root) :
    request.governance.lifecycle.intake = taken ∧ request.incidentId = taken.incidentId ∧
      request.evidenceReferences = taken.evidenceReferences := by
  have hintake := intake_of_lifecycle hinj h.governance.lifecycle hroot hr
  refine ⟨hintake, ?_, h.evidenceReferences.trans (congrArg _ hintake)⟩
  rw [h.incidentId, IncidentGovernanceRecord.incidentId, IncidentLifecycleRecord.incidentId, hintake]

end

end

/-- Intakes have one root exactly when they agree in the five fields, and the records that validate against the root of
    an intake carry these as they were taken in. -/
theorem root_binds (rt : Runtime) (hinj : Function.Injective rt.sha256) (taken : IntakeRecord) (root : String)
    (hroot : intakeRootDigest rt taken.toIncidentIntakeRecord = .ok root) :
    (∀ other : IntakeRecord, intakeRootDigest rt other.toIncidentIntakeRecord = .ok root ↔
      other.toIncidentIntakeRecord = taken.toIncidentIntakeRecord) ∧
    (∀ r, validateRecord rt r = .ok () → rt.casefold r.intakeRootSha256 = root → r.intake = taken.toIncidentIntakeRecord) ∧
    (∀ g head, validateGovernance rt g = .ok head → rt.casefold g.lifecycle.intakeRootSha256 = root →
      g.lifecycle.intake = taken.toIncidentIntakeRecord ∧ g.tenantRef = taken.tenantRef ∧ g.workloadRef = taken.workloadRef) ∧
    ∀ request, validateRequest rt request = .ok () → rt.casefold request.governance.lifecycle.intakeRootSha256 = root →
      request.governance.lifecycle.intake = taken.toIncidentIntakeRecord ∧ request.incidentId = taken.incidentId ∧
        request.evidenceReferences = taken.evidenceReferences := by
  refine ⟨fun other => ⟨fun h => intakeRootDigest_inj hinj h hroot, fun h => h ▸ hroot⟩, fun r h hr => ?_, fun g head h hr => ?_,
    fun request h hr => ?_⟩
  · exact intake_of_lifecycle hinj (validateRecord_ok.mp h) hroot hr
  · exact taken_of_governance hinj (validateGovernance_ok.mp h).1 hroot hr
  · exact taken_of_request hinj (validateRequest_ok.mp h) hroot hr

namespace Sample

/-- The incident, found to be of a severity. -/
def found (severity : String) : IntakeRecord :=
  { intake with severities := [severity], highestSeverity := severity, categories := ["application_agent"] }

theorem root_binds_opened : validateRecord runtime (opened runtime) = .ok () ∧
    (opened runtime).intake = (found "high").toIncidentIntakeRecord := by
  have hroot : intakeRootDigest runtime (found "high").toIncidentIntakeRecord = .ok (runtime.sha256 (intakeRootMaterial intake)) :=
    intakeRootDigest_ok.mpr ⟨intake_valid, rfl⟩
  have hvalid : validateRecord runtime (opened runtime) = .ok () := validateRecord_ok.mpr (opened_valid lowercase)
  exact ⟨hvalid, (root_binds runtime injective (found "high") _ hroot).2.1 _ hvalid (lowercase.digest _)⟩

/-- The lifecycle record of an incident of high severity is valid with the intake of low severity in its place. -/
theorem severity_changed : ∃ root, intakeRootDigest runtime (found "high").toIncidentIntakeRecord = .ok root ∧
    intakeRootDigest runtime (found "low").toIncidentIntakeRecord = .ok root ∧
    validateRecord runtime { opened runtime with intake := (found "low").toIncidentIntakeRecord } = .ok () ∧
    Function.Injective runtime.sha256 ∧ (found "high").severities ≠ (found "low").severities ∧
    (found "high").highestSeverity ≠ (found "low").highestSeverity :=
  ⟨runtime.sha256 (intakeRootMaterial intake), intakeRootDigest_ok.mpr ⟨intake_valid, rfl⟩, intakeRootDigest_ok.mpr ⟨intake_valid, rfl⟩,
    validateRecord_ok.mpr (opened_valid lowercase), injective, by decide, by decide⟩

end Sample

end Aegis.Incidents
