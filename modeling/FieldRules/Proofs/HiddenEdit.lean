import Mathlib.Logic.Relation
import FieldRules.Proofs.Exchange

/-!
Edits of what a walk never looks at: hidden fields and fields without rules, values under a
malformed tag, and records that no rule asks to be walked. Main statement: such edits, at any depth
and in any number, change neither the outcome nor the log.
-/

set_option autoImplicit false

namespace FieldRules

/-- A field that is not visible or has a blank tag. -/
def Field.Unseen (f : Field Value) : Prop :=
  f.visible = false ∨ Text.trim f.tag.toList = []

/-- One edit of the fields of a record, here or in a record below that is walked. -/
inductive HiddenEdit : List (Field Value) → List (Field Value) → Prop where
  | insert (as bs : List (Field Value)) {f : Field Value} (h : f.Unseen) :
      HiddenEdit (as ++ bs) (as ++ f :: bs)
  | remove (as bs : List (Field Value)) {f : Field Value} (h : f.Unseen) :
      HiddenEdit (as ++ f :: bs) (as ++ bs)
  | replace (as bs : List (Field Value)) {f f' : Field Value} (h : f.Unseen) (h' : f'.Unseen) :
      HiddenEdit (as ++ f :: bs) (as ++ f' :: bs)
  | malformed (as bs : List (Field Value)) (name : String) {tag : String} {e : Fault}
      (ht : Tag.parse tag = .error e) (v w : Value) :
      HiddenEdit (as ++ .shown name tag v :: bs) (as ++ .shown name tag w :: bs)
  | unmarked (as bs : List (Field Value)) (name : String) {tag : String} {rules : List Rule}
      (ht : Tag.parse tag = .ok rules) (hn : rules.any Rule.isNested = false)
      (t t' : String) (fs fs' : List (Field Value)) :
      HiddenEdit (as ++ .shown name tag (.record t fs) :: bs)
        (as ++ .shown name tag (.record t' fs') :: bs)
  | unmarkedItem (as bs : List (Field Value)) (name : String) {tag : String} {rules : List Rule}
      (ht : Tag.parse tag = .ok rules) (hn : rules.any Rule.isNested = false) (vs ws : List Value)
      (t t' : String) (fs fs' : List (Field Value)) :
      HiddenEdit (as ++ .shown name tag (.sequence (vs ++ .record t fs :: ws)) :: bs)
        (as ++ .shown name tag (.sequence (vs ++ .record t' fs' :: ws)) :: bs)
  | walked (as bs : List (Field Value)) (name : String) {tag : String} {rules : List Rule}
      (ht : Tag.parse tag = .ok rules) (hn : rules.any Rule.isNested = true)
      (t : String) {fs fs' : List (Field Value)} (h : HiddenEdit fs fs') :
      HiddenEdit (as ++ .shown name tag (.record t fs) :: bs)
        (as ++ .shown name tag (.record t fs') :: bs)
  | walkedItem (as bs : List (Field Value)) (name : String) {tag : String} {rules : List Rule}
      (ht : Tag.parse tag = .ok rules) (hn : rules.any Rule.isNested = true) (vs ws : List Value)
      (t : String) {fs fs' : List (Field Value)} (h : HiddenEdit fs fs') :
      HiddenEdit (as ++ .shown name tag (.sequence (vs ++ .record t fs :: ws)) :: bs)
        (as ++ .shown name tag (.sequence (vs ++ .record t fs' :: ws)) :: bs)

namespace Registry

variable (g : Registry)

theorem traceField_of_unseen (typeName : String) {f : Field Value} (h : f.Unseen) :
    g.traceField typeName f = [] := by
  rcases h with h | h
  · exact g.traceField_of_hidden typeName h
  · exact g.traceField_of_blank typeName (by rw [Tag.parse, Tag.parseTrimmed, if_pos h])

theorem traceFields_insert_unseen (typeName : String) (as bs : List (Field Value))
    {f : Field Value} (h : f.Unseen) :
    g.traceFields typeName (as ++ f :: bs) = g.traceFields typeName (as ++ bs) := by
  rw [traceFields_append, traceFields_cons, g.traceField_of_unseen typeName h, List.nil_append,
    traceFields_append]

theorem traceFields_congr_shown (typeName name : String) (as bs : List (Field Value))
    {tag : String} {rules : List Rule} (ht : Tag.parse tag = .ok rules) {v w : Value}
    (hk : v.kind = w.kind) (h : g.traceValue ⟨name, rules⟩ v = g.traceValue ⟨name, rules⟩ w) :
    g.traceFields typeName (as ++ .shown name tag v :: bs) =
      g.traceFields typeName (as ++ .shown name tag w :: bs) := by
  refine traceFields_middle congruence_eq typeName as bs ?_
  by_cases hr : rules = []
  · subst hr
    have hv := g.traceField_of_blank typeName (f := .shown name tag v) ht
    have hw := g.traceField_of_blank typeName (f := .shown name tag w) ht
    rw [hv, hw]
  · have hv := g.traceField_of_rules typeName (f := .shown name tag v) rfl ht hr
    have hw := g.traceField_of_rules typeName (f := .shown name tag w) rfl ht hr
    rw [hv, hw]
    simp only [Field.shown, hk, h]

theorem traceRules_record (field t t' : String) (fs fs' : List (Field Value))
    (rules : List Rule) :
    g.traceRules field (.record t fs) rules = g.traceRules field (.record t' fs') rules :=
  g.traceRules_congr_kind (v := .record t fs) (w := .record t' fs') rfl rfl field rules

theorem traceFields_of_hiddenEdit {fs gs : List (Field Value)} (h : HiddenEdit fs gs)
    (typeName : String) : g.traceFields typeName fs = g.traceFields typeName gs := by
  induction h generalizing typeName with
  | insert as bs h => exact (g.traceFields_insert_unseen typeName as bs h).symm
  | remove as bs h => exact g.traceFields_insert_unseen typeName as bs h
  | replace as bs h h' =>
    refine traceFields_middle congruence_eq typeName as bs ?_
    rw [g.traceField_of_unseen typeName h, g.traceField_of_unseen typeName h']
  | @malformed as bs name tag e ht v w =>
    refine traceFields_middle congruence_eq typeName as bs ?_
    have hv := g.traceField_of_malformed typeName (f := .shown name tag v) rfl ht
    have hw := g.traceField_of_malformed typeName (f := .shown name tag w) rfl ht
    rw [hv, hw]
  | unmarked as bs name ht hn t t' fs fs' =>
    refine g.traceFields_congr_shown typeName name as bs ht rfl ?_
    simp only [traceValue, RuleSet.hasNested, hn, Bool.false_eq_true, if_false]
  | unmarkedItem as bs name ht hn vs ws t t' fs fs' =>
    refine g.traceFields_congr_shown typeName name as bs ht rfl ?_
    rw [traceValue, traceValue]
    refine traceItems_middle congruence_eq _ vs ws ?_
    simp only [traceItem, RuleSet.hasNested, hn, Bool.false_eq_true, if_false]
    exact g.traceRules_record name t t' fs fs' _
  | walked as bs name ht hn t _ ih =>
    refine g.traceFields_congr_shown typeName name as bs ht rfl ?_
    simp only [traceValue, RuleSet.hasNested, hn, if_true]
    exact ih t
  | walkedItem as bs name ht hn vs ws t _ ih =>
    refine g.traceFields_congr_shown typeName name as bs ht rfl ?_
    rw [traceValue, traceValue]
    refine traceItems_middle congruence_eq _ vs ws ?_
    simp only [traceItem, RuleSet.hasNested, hn, if_true]
    exact ih t

/-- Neither the outcome nor any event depends on what is hidden. -/
theorem validate_of_hiddenEdits {fs gs : List (Field Value)}
    (h : Relation.ReflTransGen HiddenEdit fs gs) (typeName : String) :
    g.validate (.record typeName fs) = g.validate (.record typeName gs) := by
  induction h with
  | refl => rfl
  | tail _ he ih => rw [ih, validate_record, validate_record, g.traceFields_of_hiddenEdit he]

theorem validate_of_hiddenEdits_nested :
    let amount : Field Value := .shown "amount" "min:1" (.int 0)
    let fs := [.shown "order" "nested" (.record "Order" [.hidden "key" "len:1", amount])]
    let gs := [.untagged "note",
      .shown "order" "nested" (.record "Order" [.hidden "seal" "a||b", amount])]
    let g := standard Engine.words
    Relation.ReflTransGen HiddenEdit fs gs ∧
      g.validate (.record "Parcel" fs) = g.validate (.record "Parcel" gs) := by
  intro amount fs gs g
  have ht : Tag.parse "nested" = .ok [Rule.nested] := by rfl
  have inner : HiddenEdit [.hidden "key" "len:1", amount] [.hidden "seal" "a||b", amount] :=
    .replace [] [amount] (Or.inl rfl) (Or.inl rfl)
  have outer := HiddenEdit.walked [] [] "order" ht (by decide) "Order" inner
  have h : Relation.ReflTransGen HiddenEdit fs gs :=
    (Relation.ReflTransGen.single outer).tail (.insert [] _ (Or.inr (by decide)))
  exact ⟨h, g.validate_of_hiddenEdits h "Parcel"⟩

end Registry

end FieldRules
