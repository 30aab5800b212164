import FieldRules.Proofs.ByteOrder
import FieldRules.Proofs.LastWrite

/-!
What a registry says of itself. Main statement: whatever the steps that build a registry, its kinds
and its rule names are listed in order, each once, and they are those for which look-ups find a
check, so the listings depend on nothing but the kinds and names that are registered. The tables
behind them are in order, and none is empty, after every step.
-/

set_option autoImplicit false

namespace FieldRules

theorem Table.mem_put {κ β : Type} [Ord κ] {k : κ} {b : β} {t : Table κ β} {p : κ × β}
    (h : p ∈ put k b t) : p = (k, b) ∨ p ∈ t := by
  induction t with
  | nil => exact Or.inl (List.mem_singleton.mp h)
  | cons q t ih =>
    obtain ⟨l, c⟩ := q
    rw [put] at h
    cases hc : compare k l with
    | lt =>
      simp only [hc] at h
      exact List.mem_cons.mp h
    | eq =>
      simp only [hc] at h
      exact (List.mem_cons.mp h).imp_right (List.mem_cons_of_mem _)
    | gt =>
      simp only [hc] at h
      rcases List.mem_cons.mp h with rfl | hm
      · exact Or.inr (List.mem_cons_self ..)
      · exact (ih hm).imp_right (List.mem_cons_of_mem _)

theorem Table.put_ne_nil {κ β : Type} [Ord κ] (k : κ) (b : β) (t : Table κ β) : put k b t ≠ [] := by
  cases t with
  | nil => simp [put]
  | cons q t =>
    rw [put]
    split <;> simp

/-- The kinds increase, and each has names, which increase. -/
structure Tables.Ordered (t : Tables) : Prop where
  kinds : (Table.keys t).Pairwise fun j k => compare j k = .lt
  inhabited : ∀ p ∈ t, p.2 ≠ []
  names : ∀ p ∈ t, (Table.keys p.2).Pairwise fun m n => compare m n = .lt

namespace Tables

theorem names_of_lookup {t : Tables} (h : t.Ordered) (kind : Kind) :
    (Table.keys ((List.lookup kind t).getD [])).Pairwise fun m n => compare m n = .lt := by
  cases hl : List.lookup kind t with
  | none => exact .nil
  | some rules =>
    obtain ⟨before, after, rfl, -⟩ := List.lookup_eq_some_iff.mp hl
    exact h.names (kind, rules) (List.mem_append_right before (List.mem_cons_self ..))

theorem ordered_register {t : Tables} (h : t.Ordered) (name : String) (check : Check) :
    (t.register name check).Ordered where
  kinds := Table.pairwise_keys_put _ _ h.kinds
  inhabited p hp := by
    rcases Table.mem_put hp with rfl | hp
    · exact Table.put_ne_nil name check _
    · exact h.inhabited p hp
  names p hp := by
    rcases Table.mem_put hp with rfl | hp
    · exact Table.pairwise_keys_put _ _ (names_of_lookup h check.kind)
    · exact h.names p hp

theorem ordered_ofSteps (engine : Engine) (steps : List Registry.Step) :
    (ofSteps engine steps).Ordered := by
  rw [ofSteps]
  generalize Registry.history engine steps = es
  have hrun : ∀ t : Tables, t.Ordered →
      (es.foldl (fun t e => t.register e.name e.check) t).Ordered := by
    induction es with
    | nil => exact fun t h => h
    | cons e es ih => exact fun t h => ih _ (ordered_register h e.name e.check)
  exact hrun [] ⟨.nil, by simp, by simp⟩

end Tables

def Registration.key (e : Registration) : Kind × String := (e.kind, e.name)

namespace Registry

def Step.keys : Step → List (Kind × String)
  | rule name check => [(check.kind, name)]
  | standard => BuiltIn.all.map fun b => (b.kind, b.ruleName)

theorem Step.map_key_registrations (engine : Engine) (s : Step) :
    (s.registrations engine).map Registration.key = s.keys := by
  cases s with
  | rule name check => rfl
  | standard =>
    simp only [registrations, List.map_map, keys]
    apply List.map_congr_left
    intro b _
    exact congrArg (·, b.ruleName) (b.kind_check engine)

theorem map_key_history (engine : Engine) (steps : List Step) :
    (history engine steps).map Registration.key = steps.flatMap Step.keys := by
  rw [history, List.map_flatMap]
  simp only [Step.map_key_registrations]

variable {engine : Engine} {g : Registry}

theorem contains_iff {kind : Kind} {rule : String} :
    g.contains kind rule = true ↔ ∃ c, g.lookup kind rule = .ok c := by
  simp only [contains, lookup_eq_ok_iff, Option.isSome_iff_exists]

theorem mem_ruleNames_iff_lookup {kind : Kind} {name : String} :
    name ∈ g.ruleNames kind ↔ ∃ c, g.lookup kind name = .ok c := by
  rw [mem_ruleNames_iff, ← contains_iff, contains]

theorem mem_kinds_iff_lookup {kind : Kind} (rule : String) :
    kind ∈ g.kinds ↔ g.lookup kind rule ≠ .error (.kindHasNoRules kind) := by
  rw [mem_kinds_iff, ne_eq, ne_eq, lookup_eq_kindHasNoRules_iff]

theorem isScalar_of_mem_kinds {kind : Kind} (h : kind ∈ g.kinds) : kind.isScalar = true := by
  cases hs : kind.isScalar with
  | true => rfl
  | false => exact absurd (g.lookup_of_not_isScalar hs "") ((mem_kinds_iff_lookup "").mp h)

theorem ruleNames_ne_nil_iff {kind : Kind} : g.ruleNames kind ≠ [] ↔ kind ∈ g.kinds := by
  have hnil : g.ruleNames kind = [] ↔ g.ofKind kind = [] := by
    rw [List.eq_nil_iff_forall_not_mem, ofKind_eq_nil_iff_find?]
    simp only [mem_ruleNames_iff, Option.not_isSome_iff_eq_none]
  rw [mem_kinds_iff, ne_eq, ne_eq, hnil]

theorem contains_ofSteps {steps : List Step} {kind : Kind} {name : String} :
    (ofSteps engine steps).contains kind name = true ↔
      (kind, name) ∈ steps.flatMap Step.keys := by
  have hnone : (ofSteps engine steps).find? kind name = none ↔
      ∀ e ∈ history engine steps, e.key ≠ (kind, name) := by
    simp only [find?_eq_none_iff, mem_entries_ofSteps, Registration.key, ne_eq, Prod.mk.injEq,
      not_and]
  rw [contains, Option.isSome_iff_ne_none, ne_eq, hnone, ← map_key_history engine, List.mem_map]
  push Not
  rfl

/-- The listings of a registry agree with its look-ups, and are those of ordered tables. Registries
with the same kinds and names are listed the same. -/
theorem listings_ofSteps (engine : Engine) (steps : List Step) :
    (∀ kind rule, (ofSteps engine steps).contains kind rule = true ↔
      ∃ c, (ofSteps engine steps).lookup kind rule = .ok c) ∧
    ((ofSteps engine steps).kinds.Pairwise (fun j k => compare j k = .lt) ∧
      (∀ kind rule, kind ∈ (ofSteps engine steps).kinds ↔
        (ofSteps engine steps).lookup kind rule ≠ .error (.kindHasNoRules kind)) ∧
      ∀ kind ∈ (ofSteps engine steps).kinds, kind.isScalar = true) ∧
    (∀ kind, ((ofSteps engine steps).ruleNames kind).Pairwise
        (fun m n => Text.bytes m < Text.bytes n) ∧
      (∀ name, name ∈ (ofSteps engine steps).ruleNames kind ↔
        ∃ c, (ofSteps engine steps).lookup kind name = .ok c) ∧
      ((ofSteps engine steps).ruleNames kind ≠ [] ↔ kind ∈ (ofSteps engine steps).kinds)) ∧
    ((Tables.ofSteps engine steps).Ordered ∧
      Table.keys (Tables.ofSteps engine steps) = (ofSteps engine steps).kinds ∧
      ∀ kind, (Tables.ofSteps engine steps).ruleNames kind =
        (ofSteps engine steps).ruleNames kind) ∧
    ∀ steps', (∀ p, p ∈ steps.flatMap Step.keys ↔ p ∈ steps'.flatMap Step.keys) →
      (ofSteps engine steps).kinds = (ofSteps engine steps').kinds ∧
      (∀ kind, (ofSteps engine steps).ruleNames kind = (ofSteps engine steps').ruleNames kind) ∧
      ∀ kind rule, (ofSteps engine steps).contains kind rule =
        (ofSteps engine steps').contains kind rule := by
  have hkinds := (ofSteps engine steps).pairwise_kinds
  refine ⟨fun _ _ => contains_iff, ⟨hkinds, fun _ rule => mem_kinds_iff_lookup rule,
    fun _ h => isScalar_of_mem_kinds h⟩, ?_, ?_, ?_⟩
  · intro kind
    refine ⟨?_, fun _ => mem_ruleNames_iff_lookup, ruleNames_ne_nil_iff⟩
    exact ((ofSteps engine steps).pairwise_ruleNames kind).imp Text.bytes_lt_iff.mpr
  · rw [← tables_ofSteps]
    refine ⟨?_, keys_tables _, ruleNames_tables _⟩
    rw [tables_ofSteps]
    exact Tables.ordered_ofSteps engine steps
  · intro steps' h
    have hc : ∀ kind rule,
        (ofSteps engine steps).contains kind rule = (ofSteps engine steps').contains kind rule := by
      intro kind rule
      rw [Bool.eq_iff_iff, contains_ofSteps, contains_ofSteps, h]
    exact ⟨kinds_congr_contains hc, fun kind => ruleNames_congr_contains (hc kind), hc⟩

/-- Names are listed by their bytes, whatever the order in which they are registered. -/
theorem listings_ofSteps_letters :
    let check : Check := .bool fun _ _ => .pass
    let steps := [Step.rule "é" check, .rule "z" check, .rule "Z" check]
    let steps' := [Step.rule "z" check, .rule "Z" check, .rule "z" check, .rule "é" check]
    let engine := Engine.words
    (∀ p, p ∈ steps.flatMap Step.keys ↔ p ∈ steps'.flatMap Step.keys) ∧
      (ofSteps engine steps).ruleNames .bool = (ofSteps engine steps').ruleNames .bool ∧
      (ofSteps engine steps).ruleNames .bool = ["Z", "z", "é"] := by
  intro check steps steps' engine
  have hkeys : ∀ p, p ∈ steps.flatMap Step.keys ↔ p ∈ steps'.flatMap Step.keys := by
    intro p
    change p ∈ [(Kind.bool, "é"), (.bool, "z"), (.bool, "Z")] ↔
      p ∈ [(Kind.bool, "z"), (.bool, "Z"), (.bool, "z"), (.bool, "é")]
    simp only [List.mem_cons, List.not_mem_nil, or_false]
    tauto
  exact ⟨hkeys, ((listings_ofSteps engine steps).2.2.2.2 steps' hkeys).2.1 .bool, by decide⟩

end Registry

end FieldRules
