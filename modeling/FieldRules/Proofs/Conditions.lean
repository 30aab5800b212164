import FieldRules.Proofs.Satisfaction

/-!
Conditions of the built-in checks. Main statement: all eight keep to one contract. Under a condition
that a check can read, a value passes or is rejected, for the one reason of the check and with the
whole condition. Any other condition is a fault, which has the whole condition too and is the same
for all values.
-/

set_option autoImplicit false

namespace FieldRules

namespace Check

variable {β : Type} {rule condition : String} {read : List Char → Option β} {P : Prop}

theorem readCondition_eq_error_iff_not (h : (∃ b, read condition.toList = some b) ↔ P)
    {f : Fault} :
    readCondition rule read condition = .error f ↔
      ¬ P ∧ f = .invalidCondition rule condition := by
  have hn : read condition.toList = none ↔ ¬ P := by
    rw [← h, Option.eq_none_iff_forall_ne_some, not_exists]
  rw [readCondition_eq_error_iff, hn]

theorem judge_eq_fault_iff_not (h : (∃ b, read condition.toList = some b) ↔ P)
    (accepts : β → Bool) (reason : Reason) :
    Verdict.judge (readCondition rule read condition) accepts reason condition =
      .fault (.invalidCondition rule condition) ↔ ¬ P := by
  rw [Verdict.judge_eq_fault_iff, readCondition_eq_error_iff_not h, and_iff_left rfl]

end Check

namespace BuiltIn

def Readable (engine : Engine) : BuiltIn → String → Prop
  | length, c => ∃ n, Number.LengthNumeral c.toList n
  | matching, c => c ≠ "" ∧ ∃ p, engine.compile c = .ok p
  | oneOf, c => c ≠ ""
  | intMin, c | intMax, c => ∃ m, Number.IntegerNumeral c.toList m
  | intOneOf, c => ∀ p ∈ c.toList.splitOn ',', ∃ m, Number.IntegerNumeral p m
  | floatMin, c | floatMax, c =>
    ∃ x, Number.Binary.ofText? .double c.toList = some x ∧ x.isFinite = true

/-- The fault of a condition that a built-in check cannot read. Only a pattern that is not empty is
blamed for more than that. -/
inductive Flawed (engine : Engine) (b : BuiltIn) (c : String) : Fault → Prop where
  | unread (h : ¬ b.Readable engine c) (hb : b = matching → c = "") :
      Flawed engine b c (.invalidCondition b.ruleName c)
  | uncompiled {diagnostic : String} (hb : b = matching) (hc : c ≠ "")
      (h : engine.compile c = .error diagnostic) : Flawed engine b c (.badPattern c diagnostic)

variable {engine : Engine} {b : BuiltIn} {v : Value} {c : String} {f : Fault}

theorem flawed_iff_of_ne (hb : b ≠ matching) :
    b.Flawed engine c f ↔ ¬ b.Readable engine c ∧ f = .invalidCondition b.ruleName c := by
  constructor
  · intro h
    cases h with
    | unread h _ => exact ⟨h, rfl⟩
    | uncompiled h _ _ => exact absurd h hb
  · intro h
    obtain ⟨h, rfl⟩ := h
    exact .unread h fun hm => absurd hm hb

theorem flawed_matching_iff : matching.Flawed engine c f ↔ Check.pattern engine c = .error f := by
  rw [Check.pattern_eq_error_iff]
  constructor
  · intro h
    cases h with
    | unread _ hc => exact Or.inl ⟨hc rfl, rfl⟩
    | uncompiled _ hc h => exact Or.inr ⟨hc, _, h, rfl⟩
  · intro h
    rcases h with ⟨hc, rfl⟩ | ⟨hc, flaw, h, rfl⟩
    · exact .unread (fun h => h.1 hc) fun _ => hc
    · exact .uncompiled rfl hc h

theorem flawed_iff_readCondition {β : Type} {read : List Char → Option β} (hb : b ≠ matching)
    (h : (∃ x, read c.toList = some x) ↔ b.Readable engine c) :
    b.Flawed engine c f ↔ Check.readCondition b.ruleName read c = .error f := by
  rw [flawed_iff_of_ne hb, Check.readCondition_eq_error_iff_not h]

/-- A built-in check reads its condition, under whatever name it is run, before it looks at the
value. -/
theorem exists_judge (hv : b.kind = v.kind) (c : String) :
    ∃ (β : Type) (bound : Except Fault β) (accepts : β → Bool),
      (∀ rule, (b.check engine).run rule v c = .judge bound accepts b.reason c) ∧
        ∀ f, b.Flawed engine c f ↔ bound = .error f := by
  cases b with
  | length =>
    obtain ⟨s, rfl⟩ := Value.eq_string_of_kind hv.symm
    refine ⟨_, _, _, fun _ => rfl, fun f => flawed_iff_readCondition (by decide) ?_⟩
    simp only [Number.length?_eq_some_iff, Readable]
  | matching =>
    obtain ⟨s, rfl⟩ := Value.eq_string_of_kind hv.symm
    exact ⟨_, _, _, fun _ => rfl, fun f => flawed_matching_iff⟩
  | oneOf =>
    obtain ⟨s, rfl⟩ := Value.eq_string_of_kind hv.symm
    refine ⟨_, _, _, fun _ => rfl, fun f => flawed_iff_readCondition (by decide) ?_⟩
    simp [Check.strings?, Readable]
  | intMin | intMax =>
    obtain ⟨n, rfl⟩ := Value.eq_int_of_kind hv.symm
    refine ⟨_, _, _, fun _ => rfl, fun f => flawed_iff_readCondition (by decide) ?_⟩
    simp only [Number.integer?_eq_some_iff, Readable]
  | intOneOf =>
    obtain ⟨n, rfl⟩ := Value.eq_int_of_kind hv.symm
    exact ⟨_, _, _, fun _ => rfl,
      fun f => flawed_iff_readCondition (by decide) Check.exists_integers?_iff⟩
  | floatMin | floatMax =>
    obtain ⟨x, rfl⟩ := Value.eq_float_of_kind hv.symm
    refine ⟨_, _, _, fun _ => rfl, fun f => flawed_iff_readCondition (by decide) ?_⟩
    simp only [Check.floatBound?_eq_some_iff, Readable]

theorem run_eq_fault_iff (hv : b.kind = v.kind) (rule c : String) :
    (b.check engine).run rule v c = .fault f ↔ b.Flawed engine c f := by
  obtain ⟨β, bound, accepts, hrun, hflaw⟩ := exists_judge hv c
  rw [hrun, Verdict.judge_eq_fault_iff, hflaw]

theorem run_eq_pass_or_reject (hv : b.kind = v.kind) (hc : ∀ f, ¬ b.Flawed engine c f)
    (rule : String) :
    (b.check engine).run rule v c = .pass ∨
      (b.check engine).run rule v c = .reject ⟨"", b.reason, c⟩ := by
  obtain ⟨β, bound, accepts, hrun, hflaw⟩ := exists_judge hv c
  rw [hrun]
  cases bound with
  | error f => exact absurd ((hflaw f).mpr rfl) (hc f)
  | ok x =>
    rw [Verdict.judge]
    split
    · exact Or.inl rfl
    · exact Or.inr rfl

theorem not_readable_empty (engine : Engine) (b : BuiltIn) : ¬ b.Readable engine "" := by
  cases b with
  | length =>
    intro h
    obtain ⟨n, h⟩ := h
    cases Number.length?_eq_some_iff.mpr h
  | matching | oneOf => simp [Readable]
  | intMin | intMax =>
    intro h
    obtain ⟨n, h⟩ := h
    cases Number.integer?_eq_some_iff.mpr h
  | intOneOf =>
    intro h
    obtain ⟨n, h⟩ := Check.exists_integers?_iff.mpr h
    cases h
  | floatMin | floatMax =>
    intro h
    obtain ⟨x, h, -⟩ := h
    cases h

/-- The contract of the built-in checks. Of a fault only the condition decides: another value gets
the same, a member that cannot be read makes the whole list the culprit, and the name by which a
registry knows the check has no part in it. -/
theorem run_uniform (engine : Engine) (hv : b.kind = v.kind) (rule c : String) :
    ((b.check engine).run rule v c = .pass ∨
      (b.check engine).run rule v c = .reject ⟨"", b.reason, c⟩ ∨
      (b.check engine).run rule v c = .fault (.invalidCondition b.ruleName c) ∨
      b = matching ∧ ∃ d, (b.check engine).run rule v c = .fault (.badPattern c d)) ∧
    (∀ f, (b.check engine).run rule v c = .fault f ↔ b.Flawed engine c f) ∧
    (∀ w, b.kind = w.kind → ∀ rule' f,
      (b.check engine).run rule v c = .fault f ↔ (b.check engine).run rule' w c = .fault f) ∧
    (b.check engine).run rule v "" = .fault (.invalidCondition b.ruleName "") ∧
    (b = intOneOf → (∃ p ∈ c.toList.splitOn ',', ∀ m, ¬ Number.IntegerNumeral p m) →
      (b.check engine).run rule v c = .fault (.invalidCondition "in" c)) ∧
    ∀ (g : Registry) name, g.lookup v.kind name = .ok (b.check engine) →
      g.verdict v ⟨name, c⟩ = (b.check engine).run b.ruleName v c := by
  refine ⟨?_, fun f => run_eq_fault_iff hv rule c, ?_, ?_, ?_, ?_⟩
  · by_cases hc : ∃ f, b.Flawed engine c f
    · obtain ⟨f, hc⟩ := hc
      have hrun := (run_eq_fault_iff hv rule c).mpr hc
      cases hc with
      | unread _ _ => exact Or.inr (Or.inr (Or.inl hrun))
      | uncompiled hb _ _ => exact Or.inr (Or.inr (Or.inr ⟨hb, _, hrun⟩))
    · rcases run_eq_pass_or_reject hv (not_exists.mp hc) rule with h | h
      · exact Or.inl h
      · exact Or.inr (Or.inl h)
  · intro w hw rule' f
    rw [run_eq_fault_iff hv, run_eq_fault_iff hw]
  · rw [run_eq_fault_iff hv]
    exact .unread (b.not_readable_empty engine) fun _ => rfl
  · rintro rfl ⟨p, hp, hm⟩
    rw [run_eq_fault_iff hv, flawed_iff_of_ne (by decide)]
    refine ⟨?_, rfl⟩
    intro h
    obtain ⟨m, h⟩ := h p hp
    exact hm m h
  · intro g name hl
    obtain ⟨β, bound, accepts, hrun, -⟩ := exists_judge hv c
    rw [Registry.verdict_of_lookup hl, hrun, hrun]

theorem run_uniform_lucky :
    let run (v : Value) : Verdict := (intOneOf.check Engine.words).run "status" v "200,4x4,404"
    intOneOf.kind = (Value.int 200).kind ∧
      run (.int 200) = .fault (.invalidCondition "in" "200,4x4,404") ∧
      run (.int 0) = run (.int 200) := by
  intro run
  obtain ⟨-, -, hsame, -, hmember, -⟩ :=
    run_uniform Engine.words (b := intOneOf) (v := .int 200) rfl "status" "200,4x4,404"
  have hbad : ∀ m, ¬ Number.IntegerNumeral "4x4".toList m := by
    intro m h
    cases Number.integer?_eq_some_iff.mpr h
  have hrun : run (.int 200) = .fault (.invalidCondition "in" "200,4x4,404") :=
    hmember rfl ⟨"4x4".toList, by decide, hbad⟩
  exact ⟨rfl, hrun, ((hsame (.int 0) rfl "status" _).mp hrun).trans hrun.symm⟩

end BuiltIn

end FieldRules
