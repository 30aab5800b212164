import Mathlib.Data.List.Forall2
import FieldRules.Proofs.Conditions
import FieldRules.Proofs.IntegerBounds

/-!
Lists in conditions, of strings and of integers. Main statements: a list of strings accepts exactly
its members, and every condition that is not empty is one list; a list of integers accepts exactly
the integers that its members denote, once every member has been read.
-/

set_option autoImplicit false

namespace FieldRules

namespace Text

theorem splitOn_intercalate {ms : List String} (h : ms ≠ []) (hs : ∀ m ∈ ms, ',' ∉ m.toList) :
    (",".intercalate ms).toList.splitOn ',' = ms.map String.toList := by
  rw [String.toList_intercalate]
  refine List.splitOn_intercalate ',' ?_ ?_
  · intro p hp
    obtain ⟨m, hm, rfl⟩ := List.mem_map.mp hp
    exact hs m hm
  · simpa using h

theorem intercalate_splitOn (c : String) :
    ",".intercalate ((c.toList.splitOn ',').map String.ofList) = c := by
  rw [← String.toList_inj, String.toList_intercalate, List.map_map]
  have hid : String.toList ∘ String.ofList = id := funext fun _ => String.toList_ofList
  rw [hid, List.map_id]
  exact List.intercalate_splitOn ','

end Text

namespace Number

theorem SignedDigits.comma_not_mem {s : List Char} {m : Int} (h : SignedDigits s m) :
    ',' ∉ s := by
  obtain ⟨t, n, ht, hs⟩ := h
  have hc : ',' ∉ t := by
    intro hc
    have hd : ','.isDigit = true := ht.isDigit _ hc
    contradiction
  obtain ⟨rfl | rfl, -⟩ | ⟨rfl, -⟩ := hs <;> simp [hc]

end Number

namespace Check

/-- The lists of strings that a condition can name. The list of one empty string would be written as
nothing at all, which is no condition. -/
structure Listable (ms : List String) : Prop where
  ne_nil : ms ≠ []
  comma_not_mem : ∀ m ∈ ms, ',' ∉ m.toList
  ne_blank : ms ≠ [""]

theorem Listable.splitOn {ms : List String} (h : Listable ms) :
    (",".intercalate ms).toList.splitOn ',' = ms.map String.toList :=
  Text.splitOn_intercalate h.ne_nil h.comma_not_mem

theorem Listable.intercalate_ne {ms : List String} (h : Listable ms) : ",".intercalate ms ≠ "" := by
  intro he
  have hs := h.splitOn
  rw [he] at hs
  have hm : ms.map String.toList = [""].map String.toList := hs.symm
  exact h.ne_blank (List.map_injective_iff.mpr (fun _ _ => String.toList_inj.mp) hm)

theorem listable_members {c : String} (h : c ≠ "") :
    Listable ((c.toList.splitOn ',').map String.ofList) where
  ne_nil := by simp [← Text.pieces_eq_splitOn, Text.pieces_ne_nil]
  comma_not_mem := by
    intro m hm
    obtain ⟨p, hp, rfl⟩ := List.mem_map.mp hm
    rw [← Text.pieces_eq_splitOn] at hp
    rw [String.toList_ofList]
    exact Text.not_mem_of_mem_pieces hp
  ne_blank := by
    intro hb
    have hc := Text.intercalate_splitOn c
    rw [hb, String.intercalate_singleton] at hc
    exact h hc.symm

theorem oneOf_of_ne {c : String} (h : c ≠ "") (v : String) :
    oneOf v c = if v.toList ∈ c.toList.splitOn ',' then .pass
      else .reject ⟨"", .textNotListed, c⟩ := by
  have hr : strings? c.toList = some (c.toList.splitOn ',') := by
    simp [strings?, Text.pieces_eq_splitOn, h]
  simp only [oneOf, judge_of_read hr, List.contains_iff_mem]

theorem oneOf_intercalate {ms : List String} (h : Listable ms) (v : String) :
    oneOf v (",".intercalate ms) = if v ∈ ms then .pass
      else .reject ⟨"", .textNotListed, ",".intercalate ms⟩ := by
  have hm : v.toList ∈ ms.map String.toList ↔ v ∈ ms :=
    List.mem_map_of_injective fun _ _ => String.toList_inj.mp
  simp only [oneOf_of_ne h.intercalate_ne, h.splitOn, hm]

theorem oneOf_intercalate_eq_pass_iff {ms : List String} (h : Listable ms) (v : String) :
    oneOf v (",".intercalate ms) = .pass ↔ v ∈ ms := by
  rw [oneOf_intercalate h, Verdict.ite_eq_pass_iff]

/-- A list of strings accepts its members and nothing else, in whatever order and however often they
stand in it. -/
theorem text_lists (v : String) :
    (∀ ms, Listable ms →
      oneOf v (",".intercalate ms) = if v ∈ ms then .pass
        else .reject ⟨"", .textNotListed, ",".intercalate ms⟩) ∧
    (∀ c, c ≠ "" → ∃! ms, Listable ms ∧ ",".intercalate ms = c) ∧
    (',' ∈ v.toList → ∀ c, oneOf v c ≠ .pass) ∧
    (∀ c, oneOf "" c = .pass ↔ c ≠ "" ∧ [] ∈ c.toList.splitOn ',') ∧
    (∀ c, oneOf "" c = .pass ↔
      [','] <+: c.toList ∨ [','] <:+ c.toList ∨ [',', ','] <:+: c.toList) ∧
    ∀ ms ns, Listable ms → Listable ns → (∀ m, m ∈ ms ↔ m ∈ ns) →
      (oneOf v (",".intercalate ms) = .pass ↔ oneOf v (",".intercalate ns) = .pass) := by
  refine ⟨fun ms h => oneOf_intercalate h v, ?_, ?_, fun c => oneOf_eq_pass_iff, ?_, ?_⟩
  · intro c hc
    refine ⟨_, ⟨listable_members hc, Text.intercalate_splitOn c⟩, ?_⟩
    rintro ms ⟨hm, rfl⟩
    rw [hm.splitOn, List.map_map]
    simp [Function.comp_def]
  · intro hv c hc
    have hp := (oneOf_eq_pass_iff.mp hc).2
    rw [← Text.pieces_eq_splitOn] at hp
    exact Text.not_mem_of_mem_pieces hp hv
  · intro c
    rw [oneOf_eq_pass_iff, ← Text.pieces_eq_splitOn]
    by_cases hc : c = ""
    · simp [hc]
    · rw [String.toList_empty, Text.nil_mem_pieces_iff (by simpa using hc), and_iff_right hc]
  · intro ms ns hm hn hs
    rw [oneOf_intercalate_eq_pass_iff hm, oneOf_intercalate_eq_pass_iff hn, hs v]

example : oneOf "" "a,,b" = .pass ∧ oneOf "A" "a,b" = .reject ⟨"", .textNotListed, "a,b"⟩ := by
  decide +kernel

section Integers

open Number

variable {v : Int} {c : String} {ps : List String} {ns : List Int}

theorem intOneOf_of_read (h : integers? c.toList = some ns) (v : Int) :
    intOneOf v c = if v ∈ ns then .pass else .reject ⟨"", .intNotListed, c⟩ := by
  simp only [intOneOf, judge_of_read h, decide_eq_true_eq]

theorem intOneOf_eq_fault_iff :
    intOneOf v c = .fault (.invalidCondition "in" c) ↔
      ∃ p ∈ c.toList.splitOn ',', ∀ n, ¬ IntegerNumeral p n := by
  rw [intOneOf, judge_eq_fault_iff_not exists_integers?_iff]
  push Not
  rfl

theorem int_bounds_eq_pass_iff {p : String} :
    intMin v p = .pass ∧ intMax v p = .pass ↔ IntegerNumeral p.toList v := by
  rw [intMin_eq_pass_iff, intMax_eq_pass_iff]
  constructor
  · intro h
    obtain ⟨⟨m, hm, hle⟩, n, hn, hge⟩ := h
    have he : m = n := hm.unique hn
    have hv : v = m := by omega
    exact hv ▸ hm
  · intro h
    exact ⟨⟨v, h, le_refl v⟩, v, h, le_refl v⟩

theorem int_bounds_eq_fault_iff {p : String} :
    intMin v p = .fault (.invalidCondition "min" p) ∧
        intMax v p = .fault (.invalidCondition "max" p) ↔ ∀ n, ¬ IntegerNumeral p.toList n := by
  constructor
  · intro h n hn
    rw [intMin_of_numeral hn] at h
    split at h <;> simp at h
  · intro h
    exact int_bounds_of_no_numeral h v

theorem integers?_intercalate (h : ps ≠ [])
    (hn : List.Forall₂ (fun p n => IntegerNumeral p.toList n) ps ns) :
    integers? (",".intercalate ps).toList = some ns := by
  have hc := hn.imp fun _ _ hp => And.intro (integerNumeral_iff.mp hp).2.2.comma_not_mem hp
  rw [integers?_eq_some_iff,
    Text.splitOn_intercalate h ((List.forall₂_and_left _ _).mp hc).1, List.map_map]
  clear h hc
  induction hn with
  | nil => rfl
  | cons hp _ ih =>
    rw [List.map_cons, List.map_cons, ih, Function.comp_apply, integer?_eq_some_iff.mpr hp]

theorem intOneOf_intercalate (h : ps ≠ [])
    (hn : List.Forall₂ (fun p n => IntegerNumeral p.toList n) ps ns) (v : Int) :
    intOneOf v (",".intercalate ps) = if v ∈ ns then .pass
      else .reject ⟨"", .intNotListed, ",".intercalate ps⟩ :=
  intOneOf_of_read (integers?_intercalate h hn) v

theorem intOneOf_intercalate_eq_pass_iff (h : ps ≠ [])
    (hn : List.Forall₂ (fun p n => IntegerNumeral p.toList n) ps ns) (v : Int) :
    intOneOf v (",".intercalate ps) = .pass ↔ v ∈ ns := by
  rw [intOneOf_intercalate h hn, Verdict.ite_eq_pass_iff]

theorem integerNumeral_toString (h : ∀ n ∈ ns, -2 ^ 127 ≤ n ∧ n < 2 ^ 127) :
    List.Forall₂ (fun p n => IntegerNumeral p.toList n) (ns.map toString) ns := by
  rw [List.forall₂_map_left_iff, List.forall₂_same]
  exact fun n hn => ⟨(h n hn).1, (h n hn).2, signedDigits_toString n⟩

/-- A list of integers is read to its end before any member counts. Then it accepts what its members
denote, which is what lies within both bounds of a member, however they are written and in whatever
order they stand. -/
theorem integer_lists (v : Int) :
    (∀ c, intOneOf v c = .fault (.invalidCondition "in" c) ↔
      c = "" ∨ ∃ p ∈ c.toList.splitOn ',', ∀ n, ¬ IntegerNumeral p n) ∧
    (∀ p : String, (∀ n, ¬ IntegerNumeral p.toList n) ↔
      intMin v p = .fault (.invalidCondition "min" p) ∧
        intMax v p = .fault (.invalidCondition "max" p)) ∧
    (∀ c, (∀ p ∈ c.toList.splitOn ',', ∃ n, IntegerNumeral p n) →
      (intOneOf v c = .pass ↔ ∃ p ∈ c.toList.splitOn ',', IntegerNumeral p v) ∧
      (intOneOf v c = .pass ↔ ∃ p ∈ c.toList.splitOn ',',
        intMin v (String.ofList p) = .pass ∧ intMax v (String.ofList p) = .pass) ∧
      (intOneOf v c ≠ .pass → intOneOf v c = .reject ⟨"", .intNotListed, c⟩)) ∧
    (∀ ps ns, ps ≠ [] → List.Forall₂ (fun p n => IntegerNumeral p.toList n) ps ns →
      intOneOf v (",".intercalate ps) = if v ∈ ns then .pass
        else .reject ⟨"", .intNotListed, ",".intercalate ps⟩) ∧
    (∀ ns : List Int, ns ≠ [] → (∀ n ∈ ns, -2 ^ 127 ≤ n ∧ n < 2 ^ 127) →
      (intOneOf v (",".intercalate (ns.map toString)) = .pass ↔ v ∈ ns)) ∧
    ∀ ps ns qs ms, ps ≠ [] → List.Forall₂ (fun p n => IntegerNumeral p.toList n) ps ns →
      qs ≠ [] → List.Forall₂ (fun p n => IntegerNumeral p.toList n) qs ms →
      (∀ n, n ∈ ns ↔ n ∈ ms) →
      (intOneOf v (",".intercalate ps) = .pass ↔ intOneOf v (",".intercalate qs) = .pass) := by
  refine ⟨?_, fun p => int_bounds_eq_fault_iff.symm, ?_, ?_, ?_, ?_⟩
  · intro c
    rw [intOneOf_eq_fault_iff, or_iff_right_of_imp]
    rintro rfl
    refine ⟨[], by simp, fun n hn => ?_⟩
    cases integer?_eq_some_iff.mpr hn
  · intro c hc
    obtain ⟨ns, hns⟩ := exists_integers?_iff.mpr hc
    have hpass : intOneOf v c = .pass ↔ ∃ p ∈ c.toList.splitOn ',', IntegerNumeral p v := by
      rw [intOneOf_eq_pass_iff, and_iff_right hc]
    refine ⟨hpass, ?_, ?_⟩
    · simp only [hpass, int_bounds_eq_pass_iff, String.toList_ofList]
    · intro h
      rw [intOneOf_of_read hns] at h ⊢
      split at h
      · contradiction
      · rename_i hv
        rw [if_neg hv]
  · exact fun ps ns h hn => intOneOf_intercalate h hn v
  · intro ns h hr
    exact intOneOf_intercalate_eq_pass_iff (by simpa using h) (integerNumeral_toString hr) v
  · intro ps ns qs ms hp hpn hq hqm hs
    rw [intOneOf_intercalate_eq_pass_iff hp hpn, intOneOf_intercalate_eq_pass_iff hq hqm, hs v]

example : intOneOf 7 "-0,+007" = .pass ∧
    intOneOf 7 "7,0x7" = .fault (.invalidCondition "in" "7,0x7") := by
  decide +kernel

end Integers

end Check

end FieldRules
