import Mathlib.Data.List.Flatten
import Mathlib.Logic.Relation
import FieldRules.Proofs.Exchange

/-!
The order of fields and items. Main statement: permuting the fields of records and the items of
sequences, at any depth, keeps an outcome up to the order of its report, and up to which of several
faults is the first.
-/

set_option autoImplicit false

namespace FieldRules

/-- One permutation, of the items of a sequence or the fields of a record, in a value or anywhere
below it. -/
inductive Reordering : Value → Value → Prop where
  | items {vs ws : List Value} (h : vs.Perm ws) : Reordering (.sequence vs) (.sequence ws)
  | fields (typeName : String) {fs gs : List (Field Value)} (h : fs.Perm gs) :
      Reordering (.record typeName fs) (.record typeName gs)
  | item (vs ws : List Value) {v w : Value} (h : Reordering v w) :
      Reordering (.sequence (vs ++ v :: ws)) (.sequence (vs ++ w :: ws))
  | field (typeName : String) (as bs : List (Field Value)) (name tag : String) (visible : Bool)
      {v w : Value} (h : Reordering v w) :
      Reordering (.record typeName (as ++ ⟨name, tag, visible, v⟩ :: bs))
        (.record typeName (as ++ ⟨name, tag, visible, w⟩ :: bs))

namespace Outcome

/-- Outcomes that are alike but for the order of a report, or for which fault it is. -/
inductive UpToOrder : Outcome → Outcome → Prop where
  | ok : UpToOrder (.ok ()) (.ok ())
  | fault (f f' : Fault) : UpToOrder (.error (.fault f)) (.error (.fault f'))
  | rejected {p q : Report} (h : p.entries.Perm q.entries) :
      UpToOrder (.error (.rejected p)) (.error (.rejected q))

theorem UpToOrder.refl (o : Outcome) : UpToOrder o o := by
  match o with
  | .ok () => exact .ok
  | .error (.fault f) => exact .fault f f
  | .error (.rejected p) => exact .rejected (List.Perm.refl _)

theorem UpToOrder.trans {o o' o'' : Outcome} (h : UpToOrder o o') (h' : UpToOrder o' o'') :
    UpToOrder o o'' := by
  cases h with
  | ok => exact h'
  | fault f _ =>
    cases h' with
    | fault _ f' => exact .fault f f'
  | rejected hp =>
    cases h' with
    | rejected hq => exact .rejected (hp.trans hq)

theorem upToOrder_ofVerdicts {vs ws : List Verdict} (h : vs.Perm ws) :
    UpToOrder (ofVerdicts vs) (ofVerdicts ws) := by
  cases hf : vs.findSome? Verdict.fault? with
  | some f =>
    have hv := ofVerdicts_eq_fault_iff.mpr hf
    obtain ⟨f', hw⟩ := exists_fault_of_mem (h.mem_iff.mp (mem_of_ofVerdicts_eq_fault hv))
    rw [hv, hw]
    exact .fault f f'
  | none =>
    have hw : ws.findSome? Verdict.fault? = none := by
      rw [List.findSome?_eq_none_iff] at hf ⊢
      intro v hv
      exact hf v (h.mem_iff.mpr hv)
    have hr := h.filterMap Verdict.rejection?
    rw [ofVerdicts, ofVerdicts, hf, hw]
    generalize vs.filterMap Verdict.rejection? = rs at hr
    generalize ws.filterMap Verdict.rejection? = ss at hr
    cases rs with
    | nil =>
      rw [← hr.nil_eq]
      exact .ok
    | cons r rs =>
      cases ss with
      | nil => cases hr.eq_nil
      | cons s ss => exact .rejected hr

end Outcome

theorem congruence_perm :
    Congruence (fun s t => s.verdicts.Perm t.verdicts) (fun x y => x.outcome.UpToOrder y.outcome)
    where
  refl _ := List.Perm.refl _
  append hs ht := by
    rw [Trace.verdicts_append, Trace.verdicts_append]
    exact hs.append ht
  validation_refl _ := .refl _
  ofWalk _ _ _ h := by
    rw [Validation.outcome_ofWalk, Validation.outcome_ofWalk]
    exact Outcome.upToOrder_ofVerdicts h

namespace Registry

variable (g : Registry)

theorem upToOrder_congr_middle {typeName : String} {fs gs : List (Field Value)}
    (h : (g.traceFields typeName fs).verdicts.Perm (g.traceFields typeName gs).verdicts)
    (as bs : List (Field Value)) :
    Outcome.UpToOrder (g.validate (.record typeName (as ++ fs ++ bs))).outcome
      (g.validate (.record typeName (as ++ gs ++ bs))).outcome := by
  refine (exchange_record congruence_perm ?_).whole
  simp only [traceFields_append, Trace.verdicts_append]
  exact (h.append_left _).append_right _

theorem exchange_of_reordering {v w : Value} (h : Reordering v w) :
    g.Exchange (fun s t => s.verdicts.Perm t.verdicts)
      (fun x y => x.outcome.UpToOrder y.outcome) v w := by
  induction h with
  | items h =>
    refine exchange_sequence congruence_perm fun rules => ?_
    rw [traceItems_eq_flatMap, traceItems_eq_flatMap]
    exact (h.flatMap_right _).filterMap _
  | fields t h =>
    refine exchange_record congruence_perm ?_
    rw [traceFields_eq_flatMap, traceFields_eq_flatMap]
    exact (h.flatMap_right _).filterMap _
  | item vs ws _ ih => exact exchange_item congruence_perm ih vs ws
  | field t as bs name tag visible _ ih =>
    exact exchange_field congruence_perm ih t name tag visible as bs

/-- Reordering a value, at any depths, keeps what validation comes to but for order. -/
theorem outcome_of_reorderings {v w : Value} (h : Relation.ReflTransGen Reordering v w) :
    Outcome.UpToOrder (g.validate v).outcome (g.validate w).outcome := by
  induction h with
  | refl => exact .refl _
  | tail _ hs ih => exact ih.trans (g.exchange_of_reordering hs).whole

theorem outcome_of_reorderings_fleet :
    let name : Field Value := .shown "name" "len:3" (.string "Argo")
    let cutter (ages : List Value) : Value :=
      .record "Ship" [.shown "ages" "min:18" (.sequence ages)]
    let barge : Value := .record "Ship" [.shown "flag" "in:A,B" (.string "C")]
    let ships (vs : List Value) : Field Value := .shown "ships" "nested" (.sequence vs)
    let v : Value := .record "Fleet" [name, ships [cutter [.int 7, .nil, .int 30], barge]]
    let w : Value := .record "Fleet" [ships [barge, cutter [.int 30, .int 7, .nil]], name]
    let g := standard Engine.words
    Relation.ReflTransGen Reordering v w ∧
      (g.validate v).outcome = .error (.rejected ⟨[⟨"name", .lengthDiffers, "3"⟩,
        ⟨"ages", .tooSmall, "18"⟩, ⟨"flag", .textNotListed, "A,B"⟩]⟩) ∧
      Outcome.UpToOrder (g.validate v).outcome (g.validate w).outcome := by
  intro name cutter barge ships v w g
  have ages : [Value.int 7, .nil, .int 30].Perm [.int 30, .int 7, .nil] :=
    List.perm_append_singleton (Value.int 30) [Value.int 7, .nil]
  have inner := Reordering.field "Ship" [] [] "ages" "min:18" true (.items ages)
  have deep := Reordering.field "Fleet" [name] [] "ships" "nested" true (.item [] [barge] inner)
  have swap := Reordering.field "Fleet" [name] [] "ships" "nested" true
    (.items (List.Perm.swap barge (cutter [.int 30, .int 7, .nil]) []))
  have flip := Reordering.fields "Fleet"
    (List.Perm.swap (ships [barge, cutter [.int 30, .int 7, .nil]]) name [])
  have h : Relation.ReflTransGen Reordering v w :=
    ((Relation.ReflTransGen.single deep).tail swap).tail flip
  exact ⟨h, by decide +kernel, g.outcome_of_reorderings h⟩

example :
    let low : Field Value := .shown "low" "min:x" (.int 1)
    let high : Field Value := .shown "high" "max:y" (.int 1)
    let g := standard Engine.words
    (g.validate (.record "Range" [low, high])).outcome =
        .error (.fault (.invalidCondition "min" "x")) ∧
      (g.validate (.record "Range" [high, low])).outcome =
        .error (.fault (.invalidCondition "max" "y")) := by
  decide +kernel

end Registry

end FieldRules
