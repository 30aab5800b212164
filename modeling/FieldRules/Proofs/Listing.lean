import Mathlib.Data.List.Sort
import Mathlib.Data.String.Basic
import FieldRules.Proofs.Lookup

/-!
What one registration changes, and what a registry lists. A registration changes the answer for its
own kind and name alone. The names of a kind are listed in order, each once, and exactly those that
look-ups find, so every listing is told by the look-ups.
-/

set_option autoImplicit false

namespace FieldRules

namespace Registry

/-- What the empty registry has and registrations keep, all registries have. -/
theorem induct {P : Registry → Prop} (empty : P empty)
    (register : ∀ g name check, P g → P (g.register name check)) : ∀ g, P g
  | ⟨[]⟩ => empty
  | ⟨e :: es⟩ => register ⟨es⟩ e.name e.check (induct empty register ⟨es⟩)
termination_by g => g.entries.length

variable (g : Registry)

theorem ofKind_register (name : String) (check : Check) (kind : Kind) :
    (g.register name check).ofKind kind =
      if check.kind = kind then ⟨name, check⟩ :: g.ofKind kind else g.ofKind kind := by
  simp only [ofKind, entries_register, List.filter_cons, Registration.kind, beq_iff_eq]

theorem find?_register (name : String) (check : Check) (kind : Kind) (rule : String) :
    (g.register name check).find? kind rule =
      if check.kind = kind ∧ name = rule then some check else g.find? kind rule := by
  rw [find?, ofKind_register]
  by_cases hk : check.kind = kind
  · rw [if_pos hk, List.find?_cons]
    by_cases hn : name = rule
    · simp [hk, hn]
    · rw [beq_false_of_ne hn, if_neg fun h => hn h.2, find?]
  · rw [if_neg hk, if_neg fun h => hk h.1, find?]

theorem ruleNames_register (name : String) (check : Check) (kind : Kind) :
    (g.register name check).ruleNames kind =
      if check.kind = kind then insertName name (g.ruleNames kind) else g.ruleNames kind := by
  rw [ruleNames, ofKind_register]
  split <;> rfl

variable {g}

theorem lookup_eq_ok_iff {kind : Kind} {rule : String} {c : Check} :
    g.lookup kind rule = .ok c ↔ g.find? kind rule = some c := by
  unfold lookup
  cases g.find? kind rule with
  | some c' => simp
  | none => by_cases h : (g.ofKind kind).isEmpty <;> simp [h]

theorem find?_eq_none_iff {kind : Kind} {rule : String} :
    g.find? kind rule = none ↔ ∀ e ∈ g.entries, e.kind = kind → e.name ≠ rule := by
  simp [find?, ofKind]

theorem ofKind_eq_nil_iff {kind : Kind} :
    g.ofKind kind = [] ↔ ∀ e ∈ g.entries, e.kind ≠ kind := by
  simp [ofKind, List.filter_eq_nil_iff]

theorem lookup_eq_kindHasNoRules_iff {kind : Kind} {rule : String} :
    g.lookup kind rule = .error (.kindHasNoRules kind) ↔ g.ofKind kind = [] := by
  unfold lookup
  cases hf : g.find? kind rule with
  | some c =>
    have hne : g.ofKind kind ≠ [] := by
      intro h
      simp [find?, h] at hf
    simp [hne]
  | none => by_cases h : g.ofKind kind = [] <;> simp [h]

theorem lookup_eq_unknownRule_iff {kind : Kind} {rule : String} :
    g.lookup kind rule = .error (.unknownRule kind rule) ↔
      g.ofKind kind ≠ [] ∧ g.find? kind rule = none := by
  unfold lookup
  cases g.find? kind rule with
  | some c => simp
  | none => by_cases h : g.ofKind kind = [] <;> simp [h]

theorem ofKind_eq_nil_iff_find? {kind : Kind} :
    g.ofKind kind = [] ↔ ∀ rule, g.find? kind rule = none := by
  simp only [ofKind_eq_nil_iff, find?_eq_none_iff]
  constructor
  · intro h rule e he hk
    exact absurd hk (h e he)
  · intro h e he hk
    exact h e.name e he hk rfl

theorem ofKind_eq_nil_iff_contains {kind : Kind} :
    g.ofKind kind = [] ↔ ∀ rule, g.contains kind rule = false := by
  simp only [ofKind_eq_nil_iff_find?, contains, Option.isSome_eq_false_iff,
    Option.isNone_iff_eq_none]

theorem mem_insertName {name m : String} {names : List String} :
    m ∈ insertName name names ↔ m = name ∨ m ∈ names := by
  induction names with
  | nil => simp [insertName]
  | cons n names ih =>
    rw [insertName]
    split
    · simp
    · split
      · rename_i h
        simp [h]
      · simp only [List.mem_cons, ih]
        tauto

theorem pairwise_insertName (name : String) {names : List String}
    (h : names.Pairwise (· < ·)) : (insertName name names).Pairwise (· < ·) := by
  induction names with
  | nil => simp [insertName]
  | cons n names ih =>
    obtain ⟨hn, hs⟩ := List.pairwise_cons.mp h
    rw [insertName]
    split
    · rename_i hlt
      refine List.pairwise_cons.mpr ⟨?_, h⟩
      intro m hm
      rcases List.mem_cons.mp hm with rfl | hm
      · exact hlt
      · exact String.lt_trans hlt (hn m hm)
    · split
      · exact h
      · rename_i hlt hne
        refine List.pairwise_cons.mpr ⟨?_, ih hs⟩
        intro m hm
        rcases mem_insertName.mp hm with rfl | hm
        · exact lt_of_le_of_ne (not_lt.mp hlt) (Ne.symm hne)
        · exact hn m hm

theorem mem_ruleNames_iff {kind : Kind} {name : String} :
    name ∈ g.ruleNames kind ↔ (g.find? kind name).isSome = true := by
  induction g using induct with
  | empty => simp [ruleNames, find?, ofKind, empty]
  | register g n check ih =>
    rw [ruleNames_register, find?_register]
    by_cases hk : check.kind = kind
    · rw [if_pos hk, mem_insertName, ih]
      by_cases hn : n = name
      · simp [hk, hn]
      · simp [hk, hn, Ne.symm hn]
    · rw [if_neg hk, if_neg fun h => hk h.1, ih]

theorem pairwise_ruleNames (g : Registry) (kind : Kind) :
    (g.ruleNames kind).Pairwise (· < ·) := by
  induction g using induct with
  | empty => exact .nil
  | register g n check ih =>
    rw [ruleNames_register]
    split
    · exact pairwise_insertName n ih
    · exact ih

example : (standard Engine.words).ruleNames .string = ["in", "len", "regexp"] := by decide

variable {g' : Registry}

theorem lookup_congr {kind : Kind} (h : ∀ rule, g.find? kind rule = g'.find? kind rule)
    (rule : String) : g.lookup kind rule = g'.lookup kind rule := by
  have hk : g.ofKind kind = [] ↔ g'.ofKind kind = [] := by
    simp only [ofKind_eq_nil_iff_find?, h]
  simp only [lookup, h rule, List.isEmpty_iff, hk]

theorem kinds_congr_contains (h : ∀ kind rule, g.contains kind rule = g'.contains kind rule) :
    g.kinds = g'.kinds := by
  apply List.filter_congr
  intro kind _
  have hk : g.ofKind kind = [] ↔ g'.ofKind kind = [] := by
    simp only [ofKind_eq_nil_iff_contains, h]
  rw [Bool.eq_iff_iff]
  simp [hk]

theorem kinds_congr (h : ∀ kind rule, g.find? kind rule = g'.find? kind rule) :
    g.kinds = g'.kinds :=
  kinds_congr_contains fun kind rule => congrArg Option.isSome (h kind rule)

theorem ruleNames_congr_contains {kind : Kind}
    (h : ∀ rule, g.contains kind rule = g'.contains kind rule) :
    g.ruleNames kind = g'.ruleNames kind := by
  apply (g.pairwise_ruleNames kind).eq_of_mem_iff (g'.pairwise_ruleNames kind)
  intro name
  rw [mem_ruleNames_iff, mem_ruleNames_iff, ← contains, ← contains, h]

theorem ruleNames_congr {kind : Kind} (h : ∀ rule, g.find? kind rule = g'.find? kind rule) :
    g.ruleNames kind = g'.ruleNames kind :=
  ruleNames_congr_contains fun rule => congrArg Option.isSome (h rule)

end Registry

end FieldRules
