import Mathlib.Algebra.GroupWithZero.Nat
import Mathlib.Data.List.Dedup
import FieldRules.Report
import FieldRules.Proofs.Pieces

/-!
Reports as they are collected and as they are read. Main statement: a report has what it was given
since it was last replaced, in order; its text has one line for each entry, its parts by field
together have every entry once, and it is a failure exactly if it has entries.
-/

set_option autoImplicit false

namespace FieldRules

namespace Report

inductive Operation where
  | add (r : Rejection)
  | append (q : Report)
  | extend (rs : List Rejection)
  | replace (rs : List Rejection)
  | reset

namespace Operation

def given : Operation → List Rejection
  | add r => [r]
  | append q => q.entries
  | extend rs => rs
  | replace rs => rs
  | reset => []

def replaces : Operation → Bool
  | replace _ => true
  | reset => true
  | _ => false

end Operation

def apply (p : Report) : Operation → Report
  | .add r => p.add r
  | .append q => p ++ q
  | .extend rs => p.extend rs
  | .replace rs => .ofList rs
  | .reset => ∅

def run (ops : List Operation) : Report := ops.foldl apply ∅

/-- The operations from the last one on that replaces, or all if none does. -/
def sinceReplaced : List Operation → List Operation
  | [] => []
  | op :: ops => if ops.any Operation.replaces then sinceReplaced ops else op :: ops

theorem entries_apply (p : Report) (op : Operation) :
    (p.apply op).entries = (if op.replaces then [] else p.entries) ++ op.given := by
  cases op <;> simp [apply, Operation.replaces, Operation.given]

theorem sinceReplaced_of_not_any {ops : List Operation}
    (h : ops.any Operation.replaces = false) : sinceReplaced ops = ops := by
  cases ops with
  | nil => rfl
  | cons op ops =>
    rw [List.any_cons, Bool.or_eq_false_iff] at h
    simp [sinceReplaced, h.2]

theorem entries_foldl_apply (ops : List Operation) (p : Report) :
    (ops.foldl apply p).entries =
      (if ops.any Operation.replaces then [] else p.entries) ++
        (sinceReplaced ops).flatMap Operation.given := by
  -- what is there at the start is dropped if any later operation replaces
  induction ops generalizing p with
  | nil => simp [sinceReplaced]
  | cons op ops ih =>
    rw [List.foldl_cons, ih, entries_apply, List.any_cons, sinceReplaced]
    cases h : ops.any Operation.replaces with
    | true => simp
    | false => simp [sinceReplaced_of_not_any h]

theorem entries_run (ops : List Operation) :
    (run ops).entries = (sinceReplaced ops).flatMap Operation.given := by
  rw [run, entries_foldl_apply]
  simp

end Report

namespace Rejection

variable (r : Rejection)

theorem toList_text : r.text.toList =
    (if r.field = "" then [] else r.field.toList ++ ": ".toList) ++
      r.reason.message.toList ++ ' ' :: r.condition.toList := by
  rw [text]
  split <;> simp [detail]

theorem newline_not_mem_message (reason : Reason) : '\n' ∉ reason.message.toList := by
  cases reason <;> decide

theorem count_newline_text : r.text.toList.count '\n' =
    r.field.toList.count '\n' + r.condition.toList.count '\n' := by
  have hm : r.reason.message.toList.count '\n' = 0 :=
    List.count_eq_zero.mpr (newline_not_mem_message r.reason)
  rw [toList_text]
  by_cases h : r.field = ""
  · simp [h, hm]
  · simp [h, hm]

theorem newline_mem_text_iff :
    '\n' ∈ r.text.toList ↔ '\n' ∈ r.field.toList ∨ '\n' ∈ r.condition.toList := by
  simp only [← List.count_pos_iff, count_newline_text]
  omega

end Rejection

namespace Report

theorem toList_text (p : Report) :
    p.text.toList = p.entries.flatMap fun r => r.text.toList ++ ['\n'] := by
  rw [text, String.toList_join, List.flatMap_map]
  simp

theorem text_append (p q : Report) : (p ++ q).text = p.text ++ q.text := by
  rw [text, entries_append, List.map_append, String.join_append, text, text]

theorem count_newline_toList_text (p : Report) : p.text.toList.count '\n' =
    p.size + (p.entries.map fun r =>
      r.field.toList.count '\n' + r.condition.toList.count '\n').sum := by
  rw [toList_text, size]
  generalize p.entries = rs
  induction rs with
  | nil => rfl
  | cons r rs ih =>
    simp only [List.flatMap_cons, List.count_append, ih, r.count_newline_text,
      List.count_singleton_self, List.length_cons, List.map_cons, List.sum_cons]
    omega

theorem splitOn_toList_text {p : Report} (h : ∀ r ∈ p.entries, '\n' ∉ r.text.toList) :
    p.text.toList.splitOn '\n' = (p.entries.map fun r => r.text.toList) ++ [[]] := by
  have hj : p.text.toList =
      Text.joined '\n' ((p.entries.map fun r => r.text.toList) ++ [[]]) := by
    rw [toList_text, Text.joined_concat_nil, List.flatMap_map]
  rw [← Text.pieces_eq_splitOn, hj]
  exact Text.pieces_joined (by simp) (by simpa [or_imp, forall_and] using h)

theorem count_forField (p : Report) (field : String) (r : Rejection) :
    (p.forField field).count r = if r.field = field then p.entries.count r else 0 := by
  split
  · exact List.count_filter (by simpa)
  · rename_i h
    refine List.count_eq_zero.mpr fun hm => h ?_
    simpa using (List.mem_filter.mp hm).2

theorem forField_append (p q : Report) (field : String) :
    (p ++ q).forField field = p.forField field ++ q.forField field := by
  rw [forField, entries_append, List.filter_append, forField, forField]

def fields (p : Report) : List String := (p.entries.map Rejection.field).dedup

theorem mem_fields_iff {p : Report} {field : String} :
    field ∈ p.fields ↔ p.forField field ≠ [] := by
  simp [fields, forField]

theorem sum_count_forField (p : Report) (fs : List String) (r : Rejection) :
    (fs.map fun f => (p.forField f).count r).sum = fs.count r.field * p.entries.count r := by
  induction fs with
  | nil => simp
  | cons f fs ih =>
    rw [List.map_cons, List.sum_cons, ih, count_forField, List.count_cons, Nat.add_mul,
      Nat.add_comm]
    by_cases h : r.field = f
    · simp [h]
    · simp [h, Ne.symm h]

theorem flatMap_forField_perm (p : Report) : (p.fields.flatMap p.forField).Perm p.entries := by
  rw [List.perm_iff_count]
  intro r
  -- of the fields that are named only that of the entry has it
  have hsum : (p.fields.flatMap p.forField).count r =
      p.fields.count r.field * p.entries.count r := by
    rw [List.count_flatMap]
    exact p.sum_count_forField p.fields r
  rw [hsum, fields, List.count_dedup]
  split
  · exact Nat.one_mul _
  · rename_i h
    have hr : r ∉ p.entries := fun hm => h (List.mem_map_of_mem hm)
    rw [List.count_eq_zero.mpr hr]

theorem disjoint_forField (p : Report) {f f' : String} (h : f ≠ f') :
    (p.forField f).Disjoint (p.forField f') := by
  intro r hr hr'
  have hf : r.field = f := by simpa using (List.mem_filter.mp hr).2
  have hf' : r.field = f' := by simpa using (List.mem_filter.mp hr').2
  exact h (hf.symm.trans hf')

theorem hasErrors_iff {p : Report} : p.hasErrors = true ↔ 0 < p.size := by
  simp [hasErrors, size, List.length_pos_iff]

theorem toExcept_eq_error_iff {p q : Report} : p.toExcept = .error q ↔ q = p ∧ 0 < p.size := by
  rw [toExcept, isEmpty, size, List.length_pos_iff]
  cases h : p.entries with
  | nil => simp
  | cons r rs => simp [eq_comm]

theorem toExcept_eq_ok_iff {p : Report} : p.toExcept = .ok () ↔ p.size = 0 := by
  rw [toExcept, isEmpty, size, List.length_eq_zero_iff]
  cases h : p.entries <;> simp

/-- A report has what it was given since it was last replaced, and is read off its entries: line by
line, field by field, and as a failure or none. -/
theorem read_off_entries :
    (∀ ops, (run ops).entries = (sinceReplaced ops).flatMap Operation.given) ∧
    ∀ p : Report,
      (p.text.toList = p.entries.flatMap (fun r => r.text.toList ++ ['\n']) ∧
        (∀ q : Report, (p ++ q).text = p.text ++ q.text) ∧
        p.text.toList.count '\n' = p.size + (p.entries.map fun r =>
          r.field.toList.count '\n' + r.condition.toList.count '\n').sum ∧
        ((∀ r ∈ p.entries, '\n' ∉ r.field.toList ∧ '\n' ∉ r.condition.toList) →
          p.text.toList.splitOn '\n' = (p.entries.map fun r => r.text.toList) ++ [[]])) ∧
      ((∀ f, (p.forField f).Sublist p.entries ∧
          ∀ r, (p.forField f).count r = if r.field = f then p.entries.count r else 0) ∧
        (∀ f, ∀ q : Report, (p ++ q).forField f = p.forField f ++ q.forField f) ∧
        (p.fields.flatMap p.forField).Perm p.entries ∧
        p.fields.Pairwise (fun f f' => (p.forField f).Disjoint (p.forField f')) ∧
        ∀ f, f ∈ p.fields ↔ p.forField f ≠ []) ∧
      (∀ q, p.toExcept = .error q ↔ q = p ∧ 0 < p.size) ∧
      (p.toExcept = .ok () ↔ p.size = 0) ∧
      (0 < p.size ↔ p.hasErrors = true) := by
  refine ⟨entries_run, fun p => ⟨⟨p.toList_text, text_append p, p.count_newline_toList_text, ?_⟩,
    ⟨?_, fun f q => forField_append p q f, p.flatMap_forField_perm, ?_, fun _ => mem_fields_iff⟩,
    fun _ => toExcept_eq_error_iff, toExcept_eq_ok_iff, hasErrors_iff.symm⟩⟩
  · intro h
    refine splitOn_toList_text fun r hr => ?_
    rw [r.newline_mem_text_iff, not_or]
    exact h r hr
  · exact fun f => ⟨List.filter_sublist, p.count_forField f⟩
  · exact (List.nodup_dedup _).imp fun h => p.disjoint_forField h

theorem read_off_entries_separators :
    let p : Report := run [.add ⟨"old", .noMatch, "x"⟩, .reset, .add ⟨"a: b", .lengthDiffers, ""⟩,
      .extend [⟨"", .tooSmall, ": "⟩]]
    (∀ r ∈ p.entries, '\n' ∉ r.field.toList ∧ '\n' ∉ r.condition.toList) ∧
      p.text.toList.splitOn '\n' = (p.entries.map fun r => r.text.toList) ++ [[]] ∧
      p.text = "a: b: length of the string not equal to \ncannot be less : \n" := by
  intro p
  have hplain : ∀ r ∈ p.entries, '\n' ∉ r.field.toList ∧ '\n' ∉ r.condition.toList := by
    decide +kernel
  exact ⟨hplain, (read_off_entries.2 p).1.2.2.2 hplain, by decide +kernel⟩

end Report

end FieldRules
