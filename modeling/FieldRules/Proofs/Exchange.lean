import FieldRules.Proofs.Lookup
import FieldRules.Proofs.Reference

/-!
Values that may stand for each other: no validation tells them apart, up to a relation that traces
in a row inherit from their parts. Main statement: an item or a field may be exchanged in a sequence
or a record, which then may be exchanged where it stands in turn.
-/

set_option autoImplicit false

namespace FieldRules

/-- Relations between traces and between validations such that traces in a row are related if their
parts are, and validations if their traces are. -/
structure Congruence (R : Trace → Trace → Prop) (S : Validation → Validation → Prop) : Prop where
  refl (t : Trace) : R t t
  append {s s' t t' : Trace} (hs : R s s') (ht : R t t') : R (s ++ t) (s' ++ t')
  validation_refl (x : Validation) : S x x
  ofWalk (typeName : String) (s t : Trace) (h : R s t) :
    S (.ofWalk typeName s.walk) (.ofWalk typeName t.walk)

theorem congruence_eq : Congruence Eq Eq where
  refl _ := rfl
  append hs ht := by rw [hs, ht]
  validation_refl _ := rfl
  ofWalk _ _ _ h := by rw [h]

theorem congruence_verdicts :
    Congruence (fun s t => s.verdicts = t.verdicts) (fun x y => x.outcome = y.outcome) where
  refl _ := rfl
  append hs ht := by rw [Trace.verdicts_append, Trace.verdicts_append, hs, ht]
  validation_refl _ := rfl
  ofWalk _ _ _ h := by rw [Validation.outcome_ofWalk, Validation.outcome_ofWalk, h]

namespace Registry

/-- Values that may stand for each other, up to the given relations, wherever they are met. -/
structure Exchange (g : Registry) (R : Trace → Trace → Prop) (S : Validation → Validation → Prop)
    (v w : Value) : Prop where
  kind : v.kind = w.kind
  value (rules : RuleSet) : R (g.traceValue rules v) (g.traceValue rules w)
  item (rules : RuleSet) : R (g.traceItem rules v) (g.traceItem rules w)
  whole : S (g.validate v) (g.validate w)

variable {g : Registry} {R : Trace → Trace → Prop} {S : Validation → Validation → Prop}

theorem exchange_sequence (hR : Congruence R S) {vs ws : List Value}
    (h : ∀ rules, R (g.traceItems rules vs) (g.traceItems rules ws)) :
    g.Exchange R S (.sequence vs) (.sequence ws) where
  kind := rfl
  value := h
  item rules := by
    have hjudged := g.traceRules_congr_kind (v := .sequence vs) (w := .sequence ws) rfl rfl
    rw [traceItem_sequence, traceItem_sequence, hjudged]
    exact hR.refl _
  whole := hR.validation_refl _

theorem exchange_record (hR : Congruence R S) {t : String} {fs gs : List (Field Value)}
    (h : R (g.traceFields t fs) (g.traceFields t gs)) :
    g.Exchange R S (.record t fs) (.record t gs) where
  kind := rfl
  value rules := by
    rw [traceValue, traceValue]
    split
    · exact h
    · exact hR.refl _
  item rules := by
    have hjudged := g.traceRules_congr_kind (v := .record t fs) (w := .record t gs) rfl rfl
    rw [traceItem, traceItem, hjudged]
    split
    · exact h
    · exact hR.refl _
  whole := by
    rw [validate_record, validate_record]
    exact hR.ofWalk t _ _ h

theorem traceField_exchange (hR : Congruence R S) {v w : Value} (h : g.Exchange R S v w)
    (t name tag : String) (visible : Bool) :
    R (g.traceField t ⟨name, tag, visible, v⟩) (g.traceField t ⟨name, tag, visible, w⟩) := by
  cases visible with
  | false => exact hR.refl _
  | true =>
    simp only [traceField, if_true, h.kind]
    split
    · exact hR.refl _
    · split
      · exact hR.refl _
      · exact hR.append (hR.refl [_]) (h.value _)

theorem traceFields_middle (hR : Congruence R S) (t : String) (as bs : List (Field Value))
    {f f' : Field Value} (h : R (g.traceField t f) (g.traceField t f')) :
    R (g.traceFields t (as ++ f :: bs)) (g.traceFields t (as ++ f' :: bs)) := by
  rw [traceFields_append, traceFields_append, traceFields_cons, traceFields_cons]
  exact hR.append (hR.refl _) (hR.append h (hR.refl _))

theorem traceItems_middle (hR : Congruence R S) (rules : RuleSet) (as bs : List Value)
    {v w : Value} (h : R (g.traceItem rules v) (g.traceItem rules w)) :
    R (g.traceItems rules (as ++ v :: bs)) (g.traceItems rules (as ++ w :: bs)) := by
  simp only [traceItems_eq_flatMap, List.flatMap_append, List.flatMap_cons]
  exact hR.append (hR.refl _) (hR.append h (hR.refl _))

theorem exchange_item (hR : Congruence R S) {v w : Value} (h : g.Exchange R S v w)
    (as bs : List Value) :
    g.Exchange R S (.sequence (as ++ v :: bs)) (.sequence (as ++ w :: bs)) :=
  exchange_sequence hR fun rules => traceItems_middle hR rules as bs (h.item rules)

theorem exchange_field (hR : Congruence R S) {v w : Value} (h : g.Exchange R S v w)
    (t name tag : String) (visible : Bool) (as bs : List (Field Value)) :
    g.Exchange R S (.record t (as ++ ⟨name, tag, visible, v⟩ :: bs))
      (.record t (as ++ ⟨name, tag, visible, w⟩ :: bs)) :=
  exchange_record hR
    (traceFields_middle hR t as bs (traceField_exchange hR h t name tag visible))

end Registry

end FieldRules
