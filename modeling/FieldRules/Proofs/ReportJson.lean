import Mathlib.Data.List.Basic
import FieldRules.Report
import FieldRules.Proofs.JsonGrammar

/-!
Reports as JSON. Main statement: the text of a report is one line, read as an array with one object
of three members for each entry and as nothing else, so no two reports with different entries have
the same text.
-/

set_option autoImplicit false

namespace FieldRules

open Text.Json

namespace Rejection

theorem members_eq_code (r : Rejection) :
    r.members = [("field", r.field), ("kind", r.reason.code), ("condition", r.condition)] := by
  rw [members, Reason.written_eq_code]

theorem members_injective : Function.Injective members := by
  rintro ⟨field, reason, condition⟩ ⟨field', reason', condition'⟩ h
  simp only [members_eq_code, List.cons.injEq, Prod.mk.injEq, true_and, and_true] at h
  obtain ⟨rfl, hcode, rfl⟩ := h
  have hreason : some reason = some reason' := by
    rw [← Reason.ofCode?_code reason, hcode, Reason.ofCode?_code]
  rw [Option.some.inj hreason]

end Rejection

namespace Report

theorem readsArray_json (p : Report) : ReadsArray p.json (p.entries.map Rejection.members) [] := by
  have h := readsArray_array (p.entries.map Rejection.members) []
  rwa [List.append_nil] at h

/-- The text of a report is one line, from which its entries can be read back and nothing else. -/
theorem json_lossless (p : Report) :
    let objects := p.entries.map fun r =>
      [("field", r.field), ("kind", r.reason.code), ("condition", r.condition)]
    ReadsArray p.json objects [] ∧
    (∀ os rest, ReadsArray p.json os rest → os = objects ∧ rest = []) ∧
    (∀ c ∈ p.json, 0x20 ≤ c.toNat) ∧
    ∀ q : Report, p.json = q.json ↔ p.entries = q.entries := by
  have hobjects : p.entries.map Rejection.members = p.entries.map fun r =>
      [("field", r.field), ("kind", r.reason.code), ("condition", r.condition)] :=
    List.map_congr_left fun r _ => r.members_eq_code
  have hread := p.readsArray_json
  refine ⟨hobjects ▸ hread, fun os rest h => hobjects ▸ unambiguous_readsArray h hread,
    oneLine_array _, fun q => ⟨fun h => ?_, fun h => ?_⟩⟩
  · have hq := q.readsArray_json
    rw [← h] at hq
    exact List.map_injective_iff.mpr Rejection.members_injective
      (unambiguous_readsArray hread hq).1
  · rw [json, json, h]

example : (ofList [⟨"a\"b", .tooSmall, "\n"⟩]).json =
    "[\x7b\"field\":\"a\\\"b\",\"kind\":\"cant_be_less\",\"condition\":\"\\n\"\x7d]".toList := by
  decide +kernel

end Report

end FieldRules
