import FieldRules.Trace

/-!
What a look-up finds: a registration of the kind and the name asked for. Hence a check that is found
for the kind of a value judges that value and never takes it for one of another kind, and kinds that
are no scalars have no checks. A scalar is told by its kind.
-/

set_option autoImplicit false

namespace FieldRules

namespace Value

theorem eq_string_of_kind {v : Value} (h : v.kind = .string) : ∃ s, v = .string s := by
  cases v with
  | string s => exact ⟨s, rfl⟩
  | _ => contradiction

theorem eq_int_of_kind {v : Value} (h : v.kind = .int) : ∃ n, v = .int n := by
  cases v with
  | int n => exact ⟨n, rfl⟩
  | _ => contradiction

theorem eq_float_of_kind {v : Value} (h : v.kind = .float) : ∃ x, v = .float x := by
  cases v with
  | float x => exact ⟨x, rfl⟩
  | _ => contradiction

theorem eq_sequence_of_kind {v : Value} (h : v.kind = .sequence) :
    ∃ items, v = .sequence items := by
  cases v with
  | sequence items => exact ⟨items, rfl⟩
  | _ => contradiction

end Value

namespace Registry

theorem entries_foldl_step (engine : Engine) (steps : List Step) (g : Registry) :
    (steps.foldl (step engine) g).entries =
      (history engine steps).reverse ++ g.entries := by
  induction steps generalizing g with
  | nil => rfl
  | cons s steps ih =>
    rw [List.foldl_cons, ih, step_eq_registerAll, entries_registerAll, history, history,
      List.flatMap_cons, List.reverse_append, List.append_assoc]

theorem entries_ofSteps (engine : Engine) (steps : List Step) :
    (ofSteps engine steps).entries = (history engine steps).reverse := by
  rw [ofSteps, entries_foldl_step]
  exact List.append_nil _

theorem mem_entries_withStandard {engine : Engine} {g : Registry} {e : Registration}
    (h : e ∈ (g.withStandard engine).entries) :
    (∃ b, e = .ofBuiltIn engine b) ∨ e ∈ g.entries := by
  rcases List.mem_append.mp h with h | h
  · obtain ⟨b, -, rfl⟩ := List.mem_map.mp (List.mem_reverse.mp h)
    exact Or.inl ⟨b, rfl⟩
  · exact Or.inr h

theorem lookup_withStandard (engine : Engine) (g : Registry) (b : BuiltIn) :
    (g.withStandard engine).lookup b.kind b.ruleName = .ok (b.check engine) := by
  cases b <;> rfl

theorem exists_entry_of_lookup {g : Registry} {kind : Kind} {name : String} {c : Check}
    (h : g.lookup kind name = .ok c) :
    ∃ e ∈ g.entries, e.kind = kind ∧ e.name = name ∧ e.check = c := by
  unfold lookup at h
  split at h
  · rename_i check hf
    cases h
    obtain ⟨e, he, rfl⟩ := Option.map_eq_some_iff.mp hf
    obtain ⟨hm, hk⟩ := List.mem_filter.mp (List.mem_of_find?_eq_some he)
    have hn := List.find?_some he
    exact ⟨e, hm, eq_of_beq hk, eq_of_beq hn, rfl⟩
  · split at h <;> contradiction

theorem kind_of_lookup {g : Registry} {kind : Kind} {name : String} {c : Check}
    (h : g.lookup kind name = .ok c) : c.kind = kind := by
  obtain ⟨e, -, hk, -, rfl⟩ := exists_entry_of_lookup h
  exact hk

theorem lookup_eq_error {g : Registry} {kind : Kind} {name : String} {f : Fault}
    (h : g.lookup kind name = .error f) :
    f = .kindHasNoRules kind ∨ f = .unknownRule kind name := by
  unfold lookup at h
  split at h
  · contradiction
  · split at h
    · cases h
      exact Or.inl rfl
    · cases h
      exact Or.inr rfl

theorem lookup_of_not_isScalar (g : Registry) {kind : Kind} (h : kind.isScalar = false)
    (name : String) : g.lookup kind name = .error (.kindHasNoRules kind) := by
  have he : g.ofKind kind = [] := by
    rw [ofKind, List.filter_eq_nil_iff]
    intro e _ hk
    have hs := e.check.isScalar_kind
    rw [← eq_of_beq hk, Registration.kind, hs] at h
    contradiction
  simp [lookup, find?, he]

theorem verdict_of_lookup {g : Registry} {v : Value} {r : Rule} {c : Check}
    (h : g.lookup v.kind r.name = .ok c) : g.verdict v r = c.run r.name v r.condition := by
  simp only [verdict, h]

theorem verdict_of_lookup_error {g : Registry} {v : Value} {r : Rule} {f : Fault}
    (h : g.lookup v.kind r.name = .error f) : g.verdict v r = .fault f := by
  simp only [verdict, h]

theorem verdict_of_not_isScalar (g : Registry) {v : Value} (h : v.kind.isScalar = false)
    (r : Rule) : g.verdict v r = .fault (.kindHasNoRules v.kind) :=
  verdict_of_lookup_error (g.lookup_of_not_isScalar h r.name)

theorem traceRules_of_not_isScalar (g : Registry) {v : Value} (h : v.kind.isScalar = false)
    (field : String) (rules : List Rule) :
    g.traceRules field v rules = rules.map fun _ => .judged (.fault (.kindHasNoRules v.kind)) := by
  apply List.map_congr_left
  intro r _
  rw [g.verdict_of_not_isScalar h]
  rfl

/-- A value that is no scalar counts by its kind alone where it is judged. -/
theorem traceRules_congr_kind (g : Registry) {v w : Value} (hv : v.kind.isScalar = false)
    (h : v.kind = w.kind) (field : String) (rules : List Rule) :
    g.traceRules field v rules = g.traceRules field w rules := by
  have hw : w.kind.isScalar = false := h ▸ hv
  rw [g.traceRules_of_not_isScalar hv, g.traceRules_of_not_isScalar hw, h]

theorem verdict_eq_iff {g : Registry} {v : Value} {r : Rule} {o : Verdict}
    (ho : ∀ f, o ≠ .fault f) :
    g.verdict v r = o ↔
      ∃ c, g.lookup v.kind r.name = .ok c ∧ c.run r.name v r.condition = o := by
  cases h : g.lookup v.kind r.name with
  | error f => simp [verdict_of_lookup_error h, (ho f).symm]
  | ok c => simp [verdict_of_lookup h]

theorem verdict_eq_pass_iff {g : Registry} {v : Value} {r : Rule} :
    g.verdict v r = .pass ↔
      ∃ c, g.lookup v.kind r.name = .ok c ∧ c.run r.name v r.condition = .pass :=
  verdict_eq_iff fun _ => Verdict.noConfusion

end Registry

end FieldRules
