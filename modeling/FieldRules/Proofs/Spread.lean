import FieldRules.Proofs.Grammar
import FieldRules.Proofs.Lookup
import FieldRules.Proofs.Reference

/-!
Sequences and fields. Main statement: a sequence under rules counts as that many fields under the
same rules, one for each item, as long as no item is a sequence or a record that is not walked. Such
an item is a fault, though the value of a field may be either.
-/

set_option autoImplicit false

namespace FieldRules

/-- The value is treated alike as an item and as the value of a field: it is no sequence, and a
record only where records are walked. -/
def Value.FieldLike (nested : Bool) (v : Value) : Prop :=
  v.kind ≠ .sequence ∧ (v.kind = .record → nested = true)

namespace Registry

variable (g : Registry)

theorem traceItem_of_fieldLike {rules : RuleSet} {v : Value} (h : v.FieldLike rules.hasNested) :
    g.traceItem rules v = g.traceValue rules v := by
  cases v with
  | record t fs =>
    have hn := h.2 rfl
    rw [traceItem, traceValue, if_pos hn, if_pos hn]
  | sequence items => exact absurd rfl h.1
  | _ => rfl

theorem traceItem_of_not_fieldLike {rules : RuleSet} {v : Value}
    (h : ¬ v.FieldLike rules.hasNested) :
    g.traceItem rules v = rules.rules.map fun _ => .judged (.fault (.kindHasNoRules v.kind)) := by
  cases v with
  | record t fs =>
    have hn : ¬ rules.hasNested = true := fun hn => h ⟨Kind.noConfusion, fun _ => hn⟩
    rw [traceItem, if_neg hn, g.traceRules_of_not_isScalar rfl]
  | sequence items => rw [traceItem_sequence, g.traceRules_of_not_isScalar rfl]
  | _ => exact absurd ⟨Kind.noConfusion, Kind.noConfusion⟩ h

section Shown

variable {tag : String} {rules : List Rule} (ht : Tag.parse tag = .ok rules) (hr : rules ≠ [])
  (typeName name : String)
include ht hr

theorem verdicts_shown_sequence (items : List Value) :
    (g.traceFields typeName [.shown name tag (.sequence items)]).verdicts =
      items.flatMap fun v => (g.traceItem ⟨name, rules⟩ v).verdicts := by
  rw [verdicts_traceFields_eq_flatMap, List.flatMap_singleton,
    g.verdicts_traceField_shown typeName name ht hr, traceValue, traceItems_eq_flatMap,
    Trace.verdicts_flatMap]

theorem verdicts_map_shown (vs : List Value) :
    (g.traceFields typeName (vs.map (.shown name tag))).verdicts =
      vs.flatMap fun v => (g.traceValue ⟨name, rules⟩ v).verdicts := by
  rw [verdicts_traceFields_eq_flatMap, List.flatMap_map]
  simp only [g.verdicts_traceField_shown typeName name ht hr]

theorem verdicts_spread {items : List Value}
    (h : ∀ v ∈ items, v.FieldLike (rules.any Rule.isNested)) :
    (g.traceFields typeName [.shown name tag (.sequence items)]).verdicts =
      (g.traceFields typeName (items.map (.shown name tag))).verdicts := by
  rw [g.verdicts_shown_sequence ht hr, g.verdicts_map_shown ht hr]
  apply List.flatMap_congr
  intro v hv
  have hi : g.traceItem ⟨name, rules⟩ v = g.traceValue ⟨name, rules⟩ v :=
    g.traceItem_of_fieldLike (h v hv)
  rw [hi]

theorem verdicts_spread_singly (items : List Value) :
    (g.traceFields typeName [.shown name tag (.sequence items)]).verdicts =
      (g.traceFields typeName (items.map fun v => .shown name tag (.sequence [v]))).verdicts := by
  have hm : (items.map fun v => Field.shown name tag (.sequence [v])) =
      (items.map fun v => .sequence [v]).map (.shown name tag) := List.map_map.symm
  rw [g.verdicts_shown_sequence ht hr, hm, g.verdicts_map_shown ht hr, List.flatMap_map]
  apply List.flatMap_congr
  intro v _
  rw [traceValue, traceItems_eq_flatMap, List.flatMap_singleton]

theorem verdicts_drop_nil (vs ws : List Value) :
    (g.traceFields typeName [.shown name tag (.sequence (vs ++ .nil :: ws))]).verdicts =
      (g.traceFields typeName [.shown name tag (.sequence (vs ++ ws))]).verdicts := by
  rw [g.verdicts_shown_sequence ht hr, g.verdicts_shown_sequence ht hr, List.flatMap_append,
    List.flatMap_append, List.flatMap_cons]
  rfl

theorem verdicts_unmarked_record (hn : rules.any Rule.isNested = false) (t : String)
    (fs : List (Field Value)) :
    (g.traceFields typeName [.shown name tag (.record t fs)]).verdicts =
      (g.traceFields typeName []).verdicts := by
  rw [verdicts_traceFields_eq_flatMap, List.flatMap_singleton,
    g.verdicts_traceField_shown typeName name ht hr, traceValue, traceFields_nil]
  simp only [RuleSet.hasNested, hn]
  rfl

/-- An item that is not like a field is a fault for the first rule. -/
theorem verdicts_of_not_fieldLike {w : Value} (hw : ¬ w.FieldLike (rules.any Rule.isNested))
    (vs ws : List Value) :
    ∃ os, (g.traceFields typeName [.shown name tag (.sequence (vs ++ w :: ws))]).verdicts =
      (g.traceFields typeName [.shown name tag (.sequence vs)]).verdicts ++
        .fault (.kindHasNoRules w.kind) :: os := by
  obtain ⟨r, rs, rfl⟩ := List.exists_cons_of_ne_nil hr
  have hi : g.traceItem ⟨name, r :: rs⟩ w =
      (r :: rs).map fun _ => .judged (.fault (.kindHasNoRules w.kind)) :=
    g.traceItem_of_not_fieldLike hw
  rw [g.verdicts_shown_sequence ht hr, g.verdicts_shown_sequence ht hr, List.flatMap_append,
    List.flatMap_cons, hi, List.map_cons]
  exact ⟨_, rfl⟩

theorem outcome_of_not_fieldLike {w : Value} (hw : ¬ w.FieldLike (rules.any Rule.isNested))
    (as bs : List (Field Value)) (vs ws : List Value)
    (h : ∀ e, (g.validate (.record typeName (as ++ [.shown name tag (.sequence vs)]))).outcome ≠
      .error (.fault e)) :
    (g.validate (.record typeName
      (as ++ .shown name tag (.sequence (vs ++ w :: ws)) :: bs))).outcome =
        .error (.fault (.kindHasNoRules w.kind)) := by
  obtain ⟨os, ho⟩ := g.verdicts_of_not_fieldLike ht hr typeName name hw vs ws
  simp only [outcome_validate_record, traceFields_append, Trace.verdicts_append] at h
  rw [outcome_validate_record, List.append_cons, traceFields_append, traceFields_append,
    Trace.verdicts_append, Trace.verdicts_append, ho, ← List.append_assoc, List.append_assoc]
  exact Outcome.ofVerdicts_append_fault h _ _

end Shown

/-- A sequence counts as one field for each of its items, except that an item which is not like a
field is a fault. -/
theorem outcome_spread {tag : String} {rules : List Rule} (ht : Tag.Spells tag rules)
    (hr : rules ≠ []) (typeName name : String) (as bs : List (Field Value)) :
    (∀ items, (∀ v ∈ items, v.FieldLike (rules.any Rule.isNested)) →
      (g.validate (.record typeName (as ++ .shown name tag (.sequence items) :: bs))).outcome =
        (g.validate (.record typeName (as ++ items.map (.shown name tag) ++ bs))).outcome) ∧
    (∀ vs ws, (g.validate (.record typeName
        (as ++ .shown name tag (.sequence (vs ++ .nil :: ws)) :: bs))).outcome =
      (g.validate (.record typeName
        (as ++ .shown name tag (.sequence (vs ++ ws)) :: bs))).outcome) ∧
    (g.validate (.record typeName (as ++ .shown name tag (.sequence []) :: bs))).outcome =
      (g.validate (.record typeName (as ++ bs))).outcome ∧
    (∀ vs w ws, ¬ w.FieldLike (rules.any Rule.isNested) →
      (∀ e, (g.validate (.record typeName (as ++ [.shown name tag (.sequence vs)]))).outcome ≠
        .error (.fault e)) →
      (g.validate (.record typeName
        (as ++ .shown name tag (.sequence (vs ++ w :: ws)) :: bs))).outcome =
          .error (.fault (.kindHasNoRules w.kind))) ∧
    (∀ items, (g.validate (.record typeName
        (as ++ .shown name tag (.sequence items) :: bs))).outcome =
      (g.validate (.record typeName
        (as ++ (items.map fun v => .shown name tag (.sequence [v])) ++ bs))).outcome) ∧
    (rules.any Rule.isNested = false → ∀ t fs,
      (g.validate (.record typeName (as ++ .shown name tag (.record t fs) :: bs))).outcome =
        (g.validate (.record typeName (as ++ bs))).outcome) := by
  have hp := Tag.parse_eq_ok_iff.mpr ht
  have hspread : ∀ items, (∀ v ∈ items, v.FieldLike (rules.any Rule.isNested)) →
      (g.validate (.record typeName (as ++ .shown name tag (.sequence items) :: bs))).outcome =
        (g.validate (.record typeName (as ++ items.map (.shown name tag) ++ bs))).outcome := by
    intro items h
    simpa using g.outcome_congr_middle (g.verdicts_spread hp hr typeName name h) as bs
  refine ⟨hspread, ?_, by simpa using hspread [], ?_, ?_, ?_⟩
  · intro vs ws
    simpa using g.outcome_congr_middle (g.verdicts_drop_nil hp hr typeName name vs ws) as bs
  · intro vs w ws hw h
    exact g.outcome_of_not_fieldLike hp hr typeName name hw as bs vs ws h
  · intro items
    simpa using g.outcome_congr_middle (g.verdicts_spread_singly hp hr typeName name items) as bs
  · intro hn t fs
    have h := g.verdicts_unmarked_record hp hr typeName name hn t fs
    simpa using g.outcome_congr_middle h as bs

theorem outcome_spread_loads :
    let load (v : Value) : Field Value := .shown "loads" "max:9" v
    let code : Field Value := .shown "code" "len:2" (.string "abc")
    let box : Value := .record "Box" []
    let g := standard Engine.words
    let outcome (fs : List (Field Value)) : Outcome := (g.validate (.record "Shelf" fs)).outcome
    Tag.Spells "max:9" [⟨"max", "9"⟩] ∧
      outcome [code, load (.sequence [.int 12, .nil, .int 7]), code] =
        outcome [code, load (.int 12), load .nil, load (.int 7), code] ∧
      outcome [code, load (.int 12), load .nil, load (.int 7), code] = .error (.rejected
        ⟨[⟨"code", .lengthDiffers, "2"⟩, ⟨"loads", .tooGreat, "9"⟩,
          ⟨"code", .lengthDiffers, "2"⟩]⟩) ∧
      outcome [code, load (.sequence [.int 12, box, .int 7]), code] =
        .error (.fault (.kindHasNoRules .record)) ∧
      outcome [code, load box, code] = outcome [code, code] := by
  intro load code box g outcome
  have ht : Tag.Spells "max:9" [⟨"max", "9"⟩] := Tag.parse_eq_ok_iff.mp (by rfl)
  obtain ⟨hspread, -, -, hfault, -, hskip⟩ :=
    g.outcome_spread ht (by simp) "Shelf" "loads" [code] [code]
  have hbox : ¬ box.FieldLike ([Rule.mk "max" "9"].any Rule.isNested) := by
    intro h
    exact absurd (h.2 rfl) (by decide)
  have hfree : outcome ([code] ++ [load (.sequence [.int 12])]) =
        .error (.rejected ⟨[⟨"code", .lengthDiffers, "2"⟩, ⟨"loads", .tooGreat, "9"⟩]⟩) := by
    decide +kernel
  refine ⟨ht, hspread _ ?_, by decide +kernel, hfault [.int 12] box [.int 7] hbox ?_,
    hskip (by decide) "Box" []⟩
  · simp [Value.FieldLike, Value.kind]
  · intro e he
    cases hfree.symm.trans he

end Registry

end FieldRules
