import FieldRules.Proofs.Conditions
import FieldRules.Proofs.Lookup
import FieldRules.Proofs.Reach
import FieldRules.Proofs.Reference

/-!
Kinds agree. Main statement, for a registry however it is built: a check that is found judges every
value of the kind asked for by its own function, and only scalars have checks. So no validation
takes a value for one of another kind, unless a registered check says so itself, and what no check
can look into is never accepted under rules.
-/

set_option autoImplicit false

namespace FieldRules

namespace Check

/-- What a check says of a value of its kind: the verdict of its function on the contents. -/
inductive Judges : Check → Value → String → Verdict → Prop where
  | string (judge : String → String → Verdict) (s condition : String) :
      Judges (.string judge) (.string s) condition (judge s condition)
  | int (judge : Int → String → Verdict) (n : Int) (condition : String) :
      Judges (.int judge) (.int n) condition (judge n condition)
  | float (judge : Number.Binary64 → String → Verdict) (x : Number.Binary64) (condition : String) :
      Judges (.float judge) (.float x) condition (judge x condition)
  | bool (judge : Bool → String → Verdict) (b : Bool) (condition : String) :
      Judges (.bool judge) (.bool b) condition (judge b condition)

theorem judges_run {c : Check} {v : Value} (h : c.kind = v.kind) (rule condition : String) :
    c.Judges v condition (c.run rule v condition) := by
  cases c <;> cases v <;> first | contradiction | constructor

theorem Judges.run_eq {c : Check} {v : Value} {condition : String} {o : Verdict}
    (h : c.Judges v condition o) :
    c.kind = v.kind ∧ ∀ rule, c.run rule v condition = o := by
  cases h <;> exact ⟨rfl, fun _ => rfl⟩

/-- The check never finds on its own that a value is of the wrong kind. -/
def NeverMismatches (c : Check) : Prop :=
  ∀ v condition rule expected actual,
    ¬ c.Judges v condition (.fault (.kindMismatch rule expected actual))

end Check

theorem BuiltIn.fault_of_judges {engine : Engine} {b : BuiltIn} {v : Value} {condition : String}
    {f : Fault} (h : (b.check engine).Judges v condition (.fault f)) :
    f = .invalidCondition b.ruleName condition ∨ ∃ d, f = .badPattern condition d := by
  obtain ⟨hk, hrun⟩ := h.run_eq
  rw [b.kind_check] at hk
  have hf := (run_eq_fault_iff hk b.ruleName condition).mp (hrun b.ruleName)
  cases hf with
  | unread _ _ => exact Or.inl rfl
  | uncompiled _ _ _ => exact Or.inr ⟨_, rfl⟩

theorem BuiltIn.neverMismatches (engine : Engine) (b : BuiltIn) :
    (b.check engine).NeverMismatches := by
  intro v condition rule expected actual h
  rcases fault_of_judges h with he | ⟨d, he⟩ <;> contradiction

namespace Field

/-- The field holds something that no check can look into, as its value or as an item of it. A
record among the items is only looked into where it is to be walked. -/
inductive Closed (f : Field Value) : Prop where
  | sealed (hv : f.value = .sealed)
  | sealedItem {items : List Value} (hv : f.value = .sequence items) (hi : .sealed ∈ items)
  | sequenceItem {items vs : List Value} (hv : f.value = .sequence items)
      (hi : .sequence vs ∈ items)
  | recordItem {items : List Value} {t : String} {fs : List (Field Value)}
      (hv : f.value = .sequence items) (hi : .record t fs ∈ items)
      (hn : f.rules.any Rule.isNested = false)

theorem Closed.exists_judged {f : Field Value} (h : f.Closed) :
    ∃ w ∈ f.value.judged (f.rules.any Rule.isNested), w.kind.isScalar = false := by
  cases h with
  | sealed hv =>
    rw [hv]
    exact ⟨.sealed, List.mem_singleton_self _, rfl⟩
  | sealedItem hv hi =>
    rw [hv]
    exact ⟨.sealed, List.mem_filter.mpr ⟨hi, rfl⟩, rfl⟩
  | @sequenceItem items vs hv hi =>
    rw [hv]
    exact ⟨.sequence vs, List.mem_filter.mpr ⟨hi, rfl⟩, rfl⟩
  | @recordItem items t fs hv hi hn =>
    rw [hv, hn]
    exact ⟨.record t fs, List.mem_filter.mpr ⟨hi, rfl⟩, rfl⟩

end Field

namespace Registry

variable {engine : Engine} {g : Registry}

theorem meets_fault_of_closed {f : Field Value} (hr : f.rules ≠ []) (hc : f.Closed) :
    ∃ e, g.Meets f (.fault e) := by
  obtain ⟨hv, hs⟩ := f.spells_rules hr
  obtain ⟨w, hw, hk⟩ := hc.exists_judged
  obtain ⟨r, hm⟩ := List.exists_mem_of_ne_nil _ hr
  have hmeet : g.Meets f ((g.verdict w r).stamp f.name) := .rule hv hs hw hm
  rw [g.verdict_of_not_isScalar hk] at hmeet
  exact ⟨_, hmeet⟩

theorem exists_fault_of_closed {v : Value} {t : String} {fs : List (Field Value)}
    (hr : Reached v (.record t fs)) {f : Field Value} (hf : f ∈ fs) (hn : f.rules ≠ [])
    (hc : f.Closed) : ∃ e, (g.validate v).outcome = .error (.fault e) := by
  obtain ⟨n, gs, rfl⟩ := hr.source_record
  obtain ⟨e, he⟩ := meets_fault_of_closed (g := g) hn hc
  rw [outcome_validate_record]
  exact Outcome.exists_fault_of_mem (g.mem_verdicts_iff.mpr ⟨t, fs, hr, f, hf, he⟩)

theorem verdict_eq_fault {w : Value} {r : Rule} {e : Fault} (h : g.verdict w r = .fault e) :
    e = .kindHasNoRules w.kind ∨ e = .unknownRule w.kind r.name ∨
      ∃ c, g.lookup w.kind r.name = .ok c ∧ c.Judges w r.condition (.fault e) := by
  cases hl : g.lookup w.kind r.name with
  | error e' =>
    rw [verdict_of_lookup_error hl] at h
    cases h
    exact (lookup_eq_error hl).imp_right Or.inl
  | ok c =>
    rw [verdict_of_lookup hl] at h
    -- the check is of the kind of the value, so the fault is that of its own function
    have hj := Check.judges_run (kind_of_lookup hl) r.name r.condition
    rw [h] at hj
    exact Or.inr (Or.inr ⟨c, rfl, hj⟩)

theorem not_meets_mismatch (hg : ∀ kind name c, g.lookup kind name = .ok c → c.NeverMismatches)
    {f : Field Value} {rule : String} {expected actual : Kind} :
    ¬ g.Meets f (.fault (.kindMismatch rule expected actual)) := by
  intro h
  generalize ho : Verdict.fault _ = o at h
  cases h with
  | malformed hv ht =>
    cases ho
    rcases Tag.parse_eq_error ht with ⟨t, he⟩ | ⟨p, he⟩ <;> contradiction
  | rule hv ht hw hr =>
    rcases verdict_eq_fault (Verdict.stamp_eq_fault_iff.mp ho.symm) with he | he | ⟨c, hl, hj⟩
    · contradiction
    · contradiction
    · exact hg _ _ c hl _ _ _ _ _ hj

theorem outcome_ne_mismatch (hg : ∀ kind name c, g.lookup kind name = .ok c → c.NeverMismatches)
    (v : Value) (rule : String) (expected actual : Kind) :
    (g.validate v).outcome ≠ .error (.fault (.kindMismatch rule expected actual)) := by
  intro h
  cases v with
  | record t fs =>
    rw [outcome_validate_record] at h
    obtain ⟨_, _, _, f, -, hm⟩ := g.mem_verdicts_iff.mp (Outcome.mem_of_ofVerdicts_eq_fault h)
    exact not_meets_mismatch hg hm
  | _ => simp [validate] at h

theorem named_or_builtIn_of_lookup {steps : List Step} {kind : Kind} {name : String} {c : Check}
    (h : (ofSteps engine steps).lookup kind name = .ok c) :
    .rule name c ∈ steps ∨ ∃ b : BuiltIn, c = b.check engine := by
  obtain ⟨e, he, -, rfl, rfl⟩ := exists_entry_of_lookup h
  rw [entries_ofSteps, List.mem_reverse] at he
  obtain ⟨s, hs, he⟩ := List.mem_flatMap.mp he
  cases s with
  | rule name c =>
    cases List.mem_singleton.mp he
    exact Or.inl hs
  | standard =>
    obtain ⟨b, -, rfl⟩ := List.mem_map.mp he
    exact Or.inr ⟨b, rfl⟩

/-- However a registry is built, its look-ups agree with the kinds of values: what is found judges
the values of the kind asked for, and only scalars have checks. Hence no fault of a validation is a
mismatch of kinds unless a check of its own is found that reports it, and a closed field under rules
is a fault. -/
theorem typed_ofSteps (engine : Engine) (steps : List Step) :
    (∀ kind name c, (ofSteps engine steps).lookup kind name = .ok c →
      c.kind = kind ∧ ∀ v, v.kind = kind → ∀ rule condition,
        c.Judges v condition (c.run rule v condition)) ∧
    (∀ kind ∈ [Kind.sequence, .record, .sealed, .nil], ∀ name,
      (ofSteps engine steps).lookup kind name = .error (.kindHasNoRules kind)) ∧
    ((∀ kind name c, (ofSteps engine steps).lookup kind name = .ok c → .rule name c ∈ steps →
      c.NeverMismatches) → ∀ v rule expected actual,
      ((ofSteps engine steps).validate v).outcome ≠
        .error (.fault (.kindMismatch rule expected actual))) ∧
    (∀ v t fs, Reached v (.record t fs) → ∀ f ∈ fs, f.rules ≠ [] → f.Closed →
      ∃ e, ((ofSteps engine steps).validate v).outcome = .error (.fault e)) := by
  refine ⟨?_, ?_, ?_, ?_⟩
  · intro kind name c h
    have hk := kind_of_lookup h
    refine ⟨hk, ?_⟩
    intro v hv rule condition
    exact Check.judges_run (hk.trans hv.symm) rule condition
  · intro kind hk name
    apply lookup_of_not_isScalar
    simp only [List.mem_cons, List.not_mem_nil, or_false] at hk
    rcases hk with rfl | rfl | rfl | rfl <;> rfl
  · intro h v rule expected actual
    refine outcome_ne_mismatch ?_ v rule expected actual
    intro kind name c hl
    rcases named_or_builtIn_of_lookup hl with hs | ⟨b, rfl⟩
    · exact h kind name c hl hs
    · exact b.neverMismatches engine
  · intro v t fs hr f hf hn hc
    exact exists_fault_of_closed hr hf hn hc

example : ((standard Engine.words).validate (.record "Grid" [.shown "rows" "min:1|nested"
    (.sequence [.record "Row" [], .sequence [.int 1]])])).outcome =
      .error (.fault (.kindHasNoRules .sequence)) := by
  decide +kernel

end Registry

end FieldRules
