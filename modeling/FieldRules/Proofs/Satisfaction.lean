import FieldRules.Proofs.Lookup
import FieldRules.Proofs.Numeral
import FieldRules.Proofs.Pieces

/-!
What the built-in rules ask of a value, said without the checks. Main statement: under the built-in
rules a value passes a rule exactly if it satisfies the rule.
-/

set_option autoImplicit false

namespace FieldRules

/-- The values that a rule accepts. No other kind of value and no other rule name has an entry. -/
inductive Satisfies (engine : Engine) : Value → Rule → Prop where
  | length {s c : String} (h : Number.LengthNumeral c.toList s.length) :
      Satisfies engine (.string s) ⟨"len", c⟩
  | matching {s c : String} {p : engine.Compiled} (hc : c ≠ "") (hp : engine.compile c = .ok p)
      (h : engine.search p s = true) : Satisfies engine (.string s) ⟨"regexp", c⟩
  | oneOf {s c : String} (hc : c ≠ "") (h : s.toList ∈ c.toList.splitOn ',') :
      Satisfies engine (.string s) ⟨"in", c⟩
  | intMin {n m : Int} {c : String} (hm : Number.IntegerNumeral c.toList m) (h : m ≤ n) :
      Satisfies engine (.int n) ⟨"min", c⟩
  | intMax {n m : Int} {c : String} (hm : Number.IntegerNumeral c.toList m) (h : n ≤ m) :
      Satisfies engine (.int n) ⟨"max", c⟩
  | intOneOf {n : Int} {c : String}
      (hc : ∀ p ∈ c.toList.splitOn ',', ∃ m, Number.IntegerNumeral p m)
      (h : ∃ p ∈ c.toList.splitOn ',', Number.IntegerNumeral p n) :
      Satisfies engine (.int n) ⟨"in", c⟩
  | floatMin {x b : Number.Binary64} {c : String}
      (hb : Number.Binary.ofText? .double c.toList = some b) (hf : b.isFinite = true)
      (hx : x.isNaN = false) (h : b.units ≤ x.units) : Satisfies engine (.float x) ⟨"min", c⟩
  | floatMax {x b : Number.Binary64} {c : String}
      (hb : Number.Binary.ofText? .double c.toList = some b) (hf : b.isFinite = true)
      (hx : x.isNaN = false) (h : x.units ≤ b.units) : Satisfies engine (.float x) ⟨"max", c⟩

theorem Satisfies.isScalar {engine : Engine} {v : Value} {r : Rule} (h : Satisfies engine v r) :
    v.kind.isScalar = true := by
  cases h <;> rfl

theorem Verdict.judge_eq_pass_iff {β : Type} {bound : Except Fault β} {accepts : β → Bool}
    {reason : Reason} {condition : String} :
    judge bound accepts reason condition = .pass ↔ ∃ b, bound = .ok b ∧ accepts b = true := by
  cases bound with
  | error f => simp [judge_error]
  | ok b => simp [judge_ok_eq_pass_iff]

theorem Verdict.judge_eq_fault_iff {β : Type} {bound : Except Fault β} {accepts : β → Bool}
    {reason : Reason} {condition : String} {f : Fault} :
    judge bound accepts reason condition = .fault f ↔ bound = .error f := by
  cases bound with
  | error e => simp [judge]
  | ok b =>
    simp only [judge]
    split <;> simp

theorem Verdict.ite_eq_pass_iff {p : Prop} [Decidable p] {r : Rejection} :
    (if p then pass else reject r) = .pass ↔ p := by
  split <;> simp_all

theorem mapM_eq_some_iff {α β : Type} {f : α → Option β} {as : List α} {bs : List β} :
    as.mapM f = some bs ↔ as.map f = bs.map some := by
  induction as generalizing bs with
  | nil => cases bs <;> simp
  | cons a as ih =>
    cases bs with
    | nil => simp [List.mapM_cons, Option.bind_eq_some_iff]
    | cons b bs => simp [List.mapM_cons, Option.bind_eq_some_iff, ih]

namespace Check

theorem readCondition_eq_ok_iff {β : Type} {rule condition : String}
    {read : List Char → Option β} {b : β} :
    readCondition rule read condition = .ok b ↔ read condition.toList = some b := by
  unfold readCondition
  cases read condition.toList <;> simp

theorem readCondition_eq_error_iff {β : Type} {rule condition : String}
    {read : List Char → Option β} {f : Fault} :
    readCondition rule read condition = .error f ↔
      read condition.toList = none ∧ f = .invalidCondition rule condition := by
  unfold readCondition
  cases read condition.toList <;> simp [eq_comm]

theorem judge_of_read {β : Type} {condition : String} {read : List Char → Option β} {b : β}
    (h : read condition.toList = some b) (rule : String) (accepts : β → Bool) (reason : Reason) :
    Verdict.judge (readCondition rule read condition) accepts reason condition =
      if accepts b then .pass else .reject ⟨"", reason, condition⟩ := by
  rw [readCondition_eq_ok_iff.mpr h, Verdict.judge, Rejection.unstamped]

theorem judge_of_unread {β : Type} {condition : String} {read : List Char → Option β}
    (h : read condition.toList = none) (rule : String) (accepts : β → Bool) (reason : Reason) :
    Verdict.judge (readCondition rule read condition) accepts reason condition =
      .fault (.invalidCondition rule condition) := by
  rw [readCondition, h, Verdict.judge_error]

theorem length_eq_pass_iff {s c : String} :
    length s c = .pass ↔ Number.LengthNumeral c.toList s.length := by
  unfold length
  simp [Verdict.judge_eq_pass_iff, readCondition_eq_ok_iff, Number.length?_eq_some_iff]

theorem pattern_eq_ok_iff {engine : Engine} {c : String} {p : engine.Compiled} :
    pattern engine c = .ok p ↔ c ≠ "" ∧ engine.compile c = .ok p := by
  unfold pattern
  by_cases hc : c = ""
  · simp [hc]
  · rw [if_neg hc]
    cases engine.compile c <;> simp [hc]

theorem pattern_eq_error_iff {engine : Engine} {condition : String} {f : Fault} :
    pattern engine condition = .error f ↔
      condition = "" ∧ f = .invalidCondition "regexp" condition ∨
        condition ≠ "" ∧ ∃ diagnostic, engine.compile condition = .error diagnostic ∧
          f = .badPattern condition diagnostic := by
  unfold pattern
  by_cases hc : condition = ""
  · simp [hc, eq_comm]
  · rw [if_neg hc]
    cases engine.compile condition <;> simp [hc, eq_comm]

theorem matching_eq_pass_iff {engine : Engine} {s c : String} :
    matching engine s c = .pass ↔
      c ≠ "" ∧ ∃ p, engine.compile c = .ok p ∧ engine.search p s = true := by
  unfold matching
  simp [Verdict.judge_eq_pass_iff, pattern_eq_ok_iff, and_assoc]

theorem oneOf_eq_pass_iff {s c : String} :
    oneOf s c = .pass ↔ c ≠ "" ∧ s.toList ∈ c.toList.splitOn ',' := by
  unfold oneOf
  simp [Verdict.judge_eq_pass_iff, readCondition_eq_ok_iff, strings?, Text.pieces_eq_splitOn,
    and_assoc]

theorem intMin_eq_pass_iff {n : Int} {c : String} :
    intMin n c = .pass ↔ ∃ m, Number.IntegerNumeral c.toList m ∧ m ≤ n := by
  unfold intMin
  simp [Verdict.judge_eq_pass_iff, readCondition_eq_ok_iff, Number.integer?_eq_some_iff]

theorem intMax_eq_pass_iff {n : Int} {c : String} :
    intMax n c = .pass ↔ ∃ m, Number.IntegerNumeral c.toList m ∧ n ≤ m := by
  unfold intMax
  simp [Verdict.judge_eq_pass_iff, readCondition_eq_ok_iff, Number.integer?_eq_some_iff]

theorem integers?_eq_some_iff {s : List Char} {ns : List Int} :
    integers? s = some ns ↔ (s.splitOn ',').map Number.integer? = ns.map some := by
  rw [integers?, mapM_eq_some_iff, Text.pieces_eq_splitOn]

theorem exists_integers?_iff {s : List Char} :
    (∃ ns, integers? s = some ns) ↔ ∀ p ∈ s.splitOn ',', ∃ m, Number.IntegerNumeral p m := by
  simp only [integers?_eq_some_iff, ← Number.integer?_eq_some_iff]
  generalize s.splitOn ',' = ps
  constructor
  · intro h p hp
    obtain ⟨ns, hns⟩ := h
    have hm : Number.integer? p ∈ ns.map some := hns ▸ List.mem_map_of_mem hp
    obtain ⟨m, -, hm⟩ := List.mem_map.mp hm
    exact ⟨m, hm.symm⟩
  · intro h
    refine ⟨ps.filterMap Number.integer?, ?_⟩
    induction ps with
    | nil => rfl
    | cons p ps ih =>
      obtain ⟨m, hm⟩ := h p (List.mem_cons_self ..)
      rw [List.map_cons, ih fun q hq => h q (List.mem_cons_of_mem p hq),
        List.filterMap_cons_some hm, List.map_cons, hm]

theorem mem_of_integers? {s : List Char} {ns : List Int} (h : integers? s = some ns) {n : Int} :
    n ∈ ns ↔ ∃ p ∈ s.splitOn ',', Number.IntegerNumeral p n := by
  rw [integers?_eq_some_iff] at h
  have hn : n ∈ ns ↔ some n ∈ ns.map some := by simp
  simp only [hn, ← h, List.mem_map, Number.integer?_eq_some_iff]

theorem intOneOf_eq_pass_iff {n : Int} {c : String} :
    intOneOf n c = .pass ↔ (∀ p ∈ c.toList.splitOn ',', ∃ m, Number.IntegerNumeral p m) ∧
      ∃ p ∈ c.toList.splitOn ',', Number.IntegerNumeral p n := by
  unfold intOneOf
  simp only [Verdict.judge_eq_pass_iff, readCondition_eq_ok_iff, decide_eq_true_eq,
    ← exists_integers?_iff]
  constructor
  · intro h
    obtain ⟨ns, hns, hn⟩ := h
    exact ⟨⟨ns, hns⟩, (mem_of_integers? hns).mp hn⟩
  · intro h
    obtain ⟨⟨ns, hns⟩, hn⟩ := h
    exact ⟨ns, hns, (mem_of_integers? hns).mpr hn⟩

theorem floatBound?_eq_some_iff {s : List Char} {b : Number.Binary64} :
    floatBound? s = some b ↔
      Number.Binary.ofText? .double s = some b ∧ b.isFinite = true := by
  rw [floatBound?, Option.filter_eq_some_iff]

theorem floatMin_eq_pass_iff {x : Number.Binary64} {c : String} :
    floatMin x c = .pass ↔ ∃ b, Number.Binary.ofText? .double c.toList = some b ∧
      b.isFinite = true ∧ x.isNaN = false ∧ b.units ≤ x.units := by
  unfold floatMin
  simp only [Verdict.judge_eq_pass_iff, readCondition_eq_ok_iff, floatBound?_eq_some_iff,
    Number.Binary.le_iff, and_assoc]
  refine exists_congr fun b => and_congr_right fun _ => and_congr_right fun hf => ?_
  exact and_iff_right (Number.Binary.not_isNaN_of_isFinite hf)

theorem floatMax_eq_pass_iff {x : Number.Binary64} {c : String} :
    floatMax x c = .pass ↔ ∃ b, Number.Binary.ofText? .double c.toList = some b ∧
      b.isFinite = true ∧ x.isNaN = false ∧ x.units ≤ b.units := by
  unfold floatMax
  simp only [Verdict.judge_eq_pass_iff, readCondition_eq_ok_iff, floatBound?_eq_some_iff,
    Number.Binary.le_iff, and_assoc]
  refine exists_congr fun b => and_congr_right fun _ => and_congr_right fun hf => ?_
  exact and_congr_right fun _ => and_iff_right (Number.Binary.not_isNaN_of_isFinite hf)

end Check

namespace BuiltIn

variable {engine : Engine}

theorem satisfies_of_run {b : BuiltIn} {v : Value} {c : String} (hk : b.kind = v.kind)
    (h : (b.check engine).run b.ruleName v c = .pass) : Satisfies engine v ⟨b.ruleName, c⟩ := by
  cases b with
  | length =>
    obtain ⟨s, rfl⟩ := Value.eq_string_of_kind hk.symm
    exact .length (Check.length_eq_pass_iff.mp h)
  | matching =>
    obtain ⟨s, rfl⟩ := Value.eq_string_of_kind hk.symm
    obtain ⟨hc, p, hp, hs⟩ := Check.matching_eq_pass_iff.mp h
    exact .matching hc hp hs
  | oneOf =>
    obtain ⟨s, rfl⟩ := Value.eq_string_of_kind hk.symm
    obtain ⟨hc, hs⟩ := Check.oneOf_eq_pass_iff.mp h
    exact .oneOf hc hs
  | intMin =>
    obtain ⟨n, rfl⟩ := Value.eq_int_of_kind hk.symm
    obtain ⟨m, hm, hn⟩ := Check.intMin_eq_pass_iff.mp h
    exact .intMin hm hn
  | intMax =>
    obtain ⟨n, rfl⟩ := Value.eq_int_of_kind hk.symm
    obtain ⟨m, hm, hn⟩ := Check.intMax_eq_pass_iff.mp h
    exact .intMax hm hn
  | intOneOf =>
    obtain ⟨n, rfl⟩ := Value.eq_int_of_kind hk.symm
    obtain ⟨hc, hn⟩ := Check.intOneOf_eq_pass_iff.mp h
    exact .intOneOf hc hn
  | floatMin =>
    obtain ⟨x, rfl⟩ := Value.eq_float_of_kind hk.symm
    obtain ⟨b, hb, hf, hx, hu⟩ := Check.floatMin_eq_pass_iff.mp h
    exact .floatMin hb hf hx hu
  | floatMax =>
    obtain ⟨x, rfl⟩ := Value.eq_float_of_kind hk.symm
    obtain ⟨b, hb, hf, hx, hu⟩ := Check.floatMax_eq_pass_iff.mp h
    exact .floatMax hb hf hx hu

theorem run_of_satisfies {v : Value} {r : Rule} (h : Satisfies engine v r) :
    ∃ b : BuiltIn, b.kind = v.kind ∧ b.ruleName = r.name ∧
      (b.check engine).run b.ruleName v r.condition = .pass := by
  cases h with
  | length h => exact ⟨length, rfl, rfl, Check.length_eq_pass_iff.mpr h⟩
  | matching hc hp h =>
    exact ⟨matching, rfl, rfl, Check.matching_eq_pass_iff.mpr ⟨hc, _, hp, h⟩⟩
  | oneOf hc h => exact ⟨oneOf, rfl, rfl, Check.oneOf_eq_pass_iff.mpr ⟨hc, h⟩⟩
  | intMin hm h => exact ⟨intMin, rfl, rfl, Check.intMin_eq_pass_iff.mpr ⟨_, hm, h⟩⟩
  | intMax hm h => exact ⟨intMax, rfl, rfl, Check.intMax_eq_pass_iff.mpr ⟨_, hm, h⟩⟩
  | intOneOf hc h => exact ⟨intOneOf, rfl, rfl, Check.intOneOf_eq_pass_iff.mpr ⟨hc, h⟩⟩
  | floatMin hb hf hx h =>
    exact ⟨floatMin, rfl, rfl, Check.floatMin_eq_pass_iff.mpr ⟨_, hb, hf, hx, h⟩⟩
  | floatMax hb hf hx h =>
    exact ⟨floatMax, rfl, rfl, Check.floatMax_eq_pass_iff.mpr ⟨_, hb, hf, hx, h⟩⟩

end BuiltIn

namespace Registry

variable {engine : Engine}

theorem lookup_standard_eq_ok_iff {kind : Kind} {name : String} {c : Check} :
    (standard engine).lookup kind name = .ok c ↔
      ∃ b : BuiltIn, b.kind = kind ∧ b.ruleName = name ∧ b.check engine = c := by
  constructor
  · intro h
    obtain ⟨e, he, hk, hn, hc⟩ := exists_entry_of_lookup h
    rcases mem_entries_withStandard he with ⟨b, rfl⟩ | he
    · exact ⟨b, (b.kind_check engine).symm.trans hk, hn, hc⟩
    · contradiction
  · intro h
    obtain ⟨b, rfl, rfl, rfl⟩ := h
    exact lookup_withStandard engine empty b

theorem verdict_standard_eq_pass_iff {v : Value} {r : Rule} :
    (standard engine).verdict v r = .pass ↔ Satisfies engine v r := by
  rw [verdict_eq_pass_iff]
  simp only [lookup_standard_eq_ok_iff]
  constructor
  · intro h
    obtain ⟨_, ⟨b, hk, hn, rfl⟩, h⟩ := h
    rw [← hn] at h
    have hs := BuiltIn.satisfies_of_run hk h
    rwa [hn] at hs
  · intro h
    obtain ⟨b, hk, hn, hp⟩ := BuiltIn.run_of_satisfies h
    rw [hn] at hp
    exact ⟨b.check engine, ⟨b, hk, hn, rfl⟩, hp⟩

end Registry

end FieldRules
