import Mathlib.Data.List.Forall2
import FieldRules.Proofs.FlatTrace
import FieldRules.Proofs.Reference

/-!
One value under two registries. A registry shows in a trace only through its verdicts, so the traces
of a value go step by step together, with verdicts in whatever relation the verdicts of the two
registries are in. Registries with the same look-ups validate alike.
-/

set_option autoImplicit false

namespace FieldRules

/-- Entries that open the same field, or have verdicts in the given relation. -/
inductive Entry.Alike (R : Verdict → Verdict → Prop) : Entry → Entry → Prop where
  | opened (e : Event) : Alike R (.opened e) (.opened e)
  | judged {v w : Verdict} (h : R v w) : Alike R (.judged v) (.judged w)

theorem Entry.Alike.eq {a b : Entry} (h : Alike (· = ·) a b) : a = b := by
  cases h with
  | opened e => rfl
  | judged h => rw [h]

theorem Trace.eq_of_alike {s t : Trace} (h : List.Forall₂ (Entry.Alike (· = ·)) s t) : s = t := by
  induction h with
  | nil => rfl
  | cons h _ ih => rw [h.eq, ih]

namespace Registry

variable {g g' : Registry} {R : Verdict → Verdict → Prop}

theorem alike_flatMap {α : Type} {l : List α} {s t : α → Trace}
    (h : ∀ a ∈ l, List.Forall₂ (Entry.Alike R) (s a) (t a)) :
    List.Forall₂ (Entry.Alike R) (l.flatMap s) (l.flatMap t) := by
  induction l with
  | nil => exact .nil
  | cons a l ih =>
    rw [List.flatMap_cons, List.flatMap_cons]
    rw [List.forall_mem_cons] at h
    exact List.rel_append h.1 (ih h.2)

theorem traceRules_alike
    (hv : ∀ field v r, R ((g.verdict v r).stamp field) ((g'.verdict v r).stamp field))
    (field : String) (v : Value) (rules : List Rule) :
    List.Forall₂ (Entry.Alike R) (g.traceRules field v rules) (g'.traceRules field v rules) := by
  rw [traceRules, traceRules, List.forall₂_map_left_iff, List.forall₂_map_right_iff,
    List.forall₂_same]
  intro r _
  exact .judged (hv field v r)

theorem traceField_alike (hf : ∀ e, R (.fault e) (.fault e)) (typeName : String) {f : Field Value}
    (h : ∀ rules, List.Forall₂ (Entry.Alike R) (g.traceValue rules f.value)
      (g'.traceValue rules f.value)) :
    List.Forall₂ (Entry.Alike R) (g.traceField typeName f) (g'.traceField typeName f) := by
  unfold traceField
  split
  · split
    · exact .cons (.judged (hf _)) .nil
    · split
      · exact .nil
      · exact .cons (.opened _) (h _)
  · exact .nil

theorem traceValue_alike (hf : ∀ e, R (.fault e) (.fault e))
    (hv : ∀ field v r, R ((g.verdict v r).stamp field) ((g'.verdict v r).stamp field))
    (v : Value) : ∀ rules,
      List.Forall₂ (Entry.Alike R) (g.traceValue rules v) (g'.traceValue rules v) ∧
      List.Forall₂ (Entry.Alike R) (g.traceItem rules v) (g'.traceItem rules v) := by
  induction v using Value.induct with
  | nil => exact fun _ => ⟨.nil, .nil⟩
  | record t fs ih =>
    intro rules
    have hfs : List.Forall₂ (Entry.Alike R) (g.traceFields t fs) (g'.traceFields t fs) := by
      rw [traceFields_eq_flatMap, traceFields_eq_flatMap]
      exact alike_flatMap fun f hm => traceField_alike hf t fun rs => (ih f hm rs).1
    rw [traceValue, traceValue, traceItem, traceItem]
    by_cases hn : rules.hasNested = true
    · rw [if_pos hn, if_pos hn, if_pos hn, if_pos hn]
      exact ⟨hfs, hfs⟩
    · rw [if_neg hn, if_neg hn, if_neg hn, if_neg hn]
      exact ⟨.nil, traceRules_alike hv _ _ _⟩
  | sequence items ih =>
    intro rules
    rw [traceValue, traceValue, traceItems_eq_flatMap, traceItems_eq_flatMap]
    exact ⟨alike_flatMap fun w hw => (ih w hw rules).2, traceRules_alike hv _ _ _⟩
  | sealed => exact fun _ => ⟨traceRules_alike hv _ _ _, traceRules_alike hv _ _ _⟩
  | string s => exact fun _ => ⟨traceRules_alike hv _ _ _, traceRules_alike hv _ _ _⟩
  | int n => exact fun _ => ⟨traceRules_alike hv _ _ _, traceRules_alike hv _ _ _⟩
  | float x => exact fun _ => ⟨traceRules_alike hv _ _ _, traceRules_alike hv _ _ _⟩
  | bool b => exact fun _ => ⟨traceRules_alike hv _ _ _, traceRules_alike hv _ _ _⟩

theorem traceFields_alike (hf : ∀ e, R (.fault e) (.fault e))
    (hv : ∀ field v r, R ((g.verdict v r).stamp field) ((g'.verdict v r).stamp field))
    (typeName : String) (fs : List (Field Value)) :
    List.Forall₂ (Entry.Alike R) (g.traceFields typeName fs) (g'.traceFields typeName fs) := by
  rw [traceFields_eq_flatMap, traceFields_eq_flatMap]
  exact alike_flatMap fun f _ =>
    traceField_alike hf typeName fun rules => (traceValue_alike hf hv f.value rules).1

/-- A registry shows in a validation only through its look-ups. -/
theorem validate_congr (h : ∀ kind rule, g.lookup kind rule = g'.lookup kind rule) (v : Value) :
    g.validate v = g'.validate v := by
  cases v with
  | record t fs =>
    have hv : ∀ field (v : Value) r,
        (g.verdict v r).stamp field = (g'.verdict v r).stamp field := by
      intro field v r
      rw [verdict, verdict, h]
    have ht : g.traceFields t fs = g'.traceFields t fs :=
      Trace.eq_of_alike (traceFields_alike (fun _ => rfl) hv t fs)
    rw [validate_record, validate_record, ht]
  | _ => rfl

end Registry

end FieldRules
