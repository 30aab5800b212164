import FieldRules.Proofs.Exchange
import FieldRules.Proofs.Meaning

/-!
Data at a place, at any depth below references, options, sequences and records. Main statement: at
every place a datum counts by what it means, and one that means no value is passed over.
-/

set_option autoImplicit false

namespace FieldRules

namespace Datum

inductive Place where
  | here
  | behind (layer : Layer) (p : Place)
  | item (container : Container) (before : List Datum) (p : Place) (after : List Datum)
  | field (typeName : String) (before : List (Field Datum)) (name tag : String) (visible : Bool)
      (p : Place) (after : List (Field Datum))

def Place.put : Place → Datum → Datum
  | here, d => d
  | behind layer p, d => .behind layer (p.put d)
  | item container before p after, d => .sequence container (before ++ p.put d :: after)
  | field typeName before name tag visible p after, d =>
    .record typeName (before ++ ⟨name, tag, visible, p.put d⟩ :: after)

def viewField (f : Field Datum) : Field Value := { f with value := f.value.view }

theorem view_sequence_append (container : Container) (ds es : List Datum) :
    (Datum.sequence container (ds ++ es)).view = .sequence (ds.map view ++ es.map view) := by
  rw [view, viewItems_eq_map, List.map_append]

theorem view_record_append (typeName : String) (fs gs : List (Field Datum)) :
    (Datum.record typeName (fs ++ gs)).view =
      .record typeName (fs.map viewField ++ gs.map viewField) := by
  rw [view, viewFields_eq_map, List.map_append]
  rfl

theorem view_put_congr (p : Place) {d e : Datum} (h : d.view = e.view) :
    (p.put d).view = (p.put e).view := by
  induction p with
  | here => exact h
  | behind layer p ih => exact ih
  | item container before p after ih =>
    simp only [Place.put, view_sequence_append, List.map_cons, ih]
  | field typeName before name tag visible p after ih =>
    simp only [Place.put, view_record_append, List.map_cons, viewField, ih]

end Datum

namespace Registry

theorem exchange_put {g : Registry} {R : Trace → Trace → Prop} {S : Validation → Validation → Prop}
    (hR : Congruence R S) (p : Datum.Place) {d e : Datum} (h : g.Exchange R S d.view e.view) :
    g.Exchange R S (p.put d).view (p.put e).view := by
  -- from the place outwards, one layer of the datum at a time
  induction p with
  | here => exact h
  | behind layer p ih => exact ih
  | item container before p after ih =>
    rw [Datum.Place.put, Datum.Place.put, Datum.view_sequence_append, Datum.view_sequence_append]
    exact exchange_item hR ih _ _
  | field typeName before name tag visible p after ih =>
    rw [Datum.Place.put, Datum.Place.put, Datum.view_record_append, Datum.view_record_append]
    exact exchange_field hR ih typeName name tag visible _ _

variable (g : Registry)

theorem traceItems_skip_nil (rules : RuleSet) (as bs : List Value) :
    g.traceItems rules (as ++ .nil :: bs) = g.traceItems rules (as ++ bs) := by
  simp only [traceItems_eq_flatMap, List.flatMap_append, List.flatMap_cons]
  rfl

theorem verdicts_traceField_nil (t name : String) {tag : String} {visible : Bool}
    (h : visible = true → ∃ rules, Tag.parse tag = .ok rules) :
    (g.traceField t ⟨name, tag, visible, .nil⟩).verdicts = [] := by
  cases visible with
  | false => rfl
  | true =>
    obtain ⟨rules, ht⟩ := h rfl
    simp only [traceField, if_true, RuleSet.ofTag, ht, Except.map]
    split <;> rfl

theorem traceFields_skip_nil (t name : String) {tag : String} {visible : Bool}
    (h : visible = true → ∃ rules, Tag.parse tag = .ok rules) (as bs : List (Field Value)) :
    (g.traceFields t (as ++ ⟨name, tag, visible, .nil⟩ :: bs)).verdicts =
      (g.traceFields t (as ++ bs)).verdicts := by
  rw [traceFields_append, traceFields_cons, traceFields_append, Trace.verdicts_append,
    Trace.verdicts_append, Trace.verdicts_append, g.verdicts_traceField_nil t name h,
    List.nil_append]

theorem validate_put_congr (p : Datum.Place) {d e : Datum} (h : d.view = e.view) :
    g.validate (p.put d).view = g.validate (p.put e).view :=
  congrArg g.validate (Datum.view_put_congr p h)

theorem validate_put_skip_item (p : Datum.Place) (container : Container) (before after : List Datum)
    {d : Datum} (hd : d.view = .nil) :
    g.validate (p.put (.sequence container (before ++ d :: after))).view =
      g.validate (p.put (.sequence container (before ++ after))).view := by
  refine (exchange_put congruence_eq p ?_).whole
  rw [Datum.view_sequence_append, Datum.view_sequence_append, List.map_cons, hd]
  exact exchange_sequence congruence_eq fun rules => g.traceItems_skip_nil rules _ _

theorem outcome_put_skip_field (p : Datum.Place) (t name : String) {tag : String} {visible : Bool}
    (h : visible = true → ∃ rules, Tag.parse tag = .ok rules) (before after : List (Field Datum))
    {d : Datum} (hd : d.view = .nil) :
    (g.validate (p.put (.record t (before ++ ⟨name, tag, visible, d⟩ :: after))).view).outcome =
      (g.validate (p.put (.record t (before ++ after))).view).outcome := by
  refine (exchange_put congruence_verdicts p ?_).whole
  rw [Datum.view_record_append, Datum.view_record_append, List.map_cons, Datum.viewField, hd]
  exact exchange_record congruence_verdicts (g.traceFields_skip_nil t name h _ _)

theorem validate_put_malformed (p : Datum.Place) (t name : String) {tag : String} {f : Fault}
    (ht : Tag.parse tag = .error f) (visible : Bool) (before after : List (Field Datum))
    (d e : Datum) :
    g.validate (p.put (.record t (before ++ ⟨name, tag, visible, d⟩ :: after))).view =
      g.validate (p.put (.record t (before ++ ⟨name, tag, visible, e⟩ :: after))).view := by
  refine (exchange_put congruence_eq p ?_).whole
  rw [Datum.view_record_append, Datum.view_record_append]
  refine exchange_record congruence_eq (traceFields_middle congruence_eq t _ _ ?_)
  simp only [traceField, Datum.viewField, RuleSet.ofTag, ht, Except.map]

/-- A validation sees of its data only what they mean, at every place. What means no value is
accepted: it is passed over as an item and as a field, whose tag is still read. -/
theorem validate_put_of_means :
    (∀ d v, Datum.Means d v ↔ d.view = v) ∧
    (∀ signed width bits n, Datum.Means (.word signed width bits) (.int n) →
      Number.integerInRange n = some n) ∧
    (∀ (p : Datum.Place) d e v, Datum.Means d v → Datum.Means e v →
      g.validate (p.put d).view = g.validate (p.put e).view) ∧
    (∀ (p : Datum.Place) layer d,
      g.validate (p.put (.behind layer d)).view = g.validate (p.put d).view) ∧
    ∀ d, Datum.Means d .nil →
      g.validate d.view = ⟨[], .ok ()⟩ ∧
      (∀ (p : Datum.Place) container before after,
        g.validate (p.put (.sequence container (before ++ d :: after))).view =
          g.validate (p.put (.sequence container (before ++ after))).view) ∧
      ∀ (p : Datum.Place) t name tag visible before after,
        ((visible = true → ∃ rules, Tag.parse tag = .ok rules) →
          (g.validate (p.put (.record t (before ++ ⟨name, tag, visible, d⟩ :: after))).view).outcome
            = (g.validate (p.put (.record t (before ++ after))).view).outcome) ∧
        ∀ f, Tag.parse tag = .error f → ∀ e,
          g.validate (p.put (.record t (before ++ ⟨name, tag, visible, d⟩ :: after))).view =
            g.validate (p.put (.record t (before ++ ⟨name, tag, visible, e⟩ :: after))).view := by
  refine ⟨fun _ _ => Datum.means_iff, ?_, ?_, fun p layer d => g.validate_put_congr p rfl, ?_⟩
  · intro signed width bits n h
    cases h with
    | word hn => exact hn.integerInRange
  · intro p d e v hd he
    exact g.validate_put_congr p (hd.view_eq.trans he.view_eq.symm)
  · intro d hd
    have hnil := hd.view_eq
    refine ⟨by rw [hnil]; rfl, fun p c before after => ?_,
      fun p t name tag visible before after => ⟨fun h => ?_, fun f ht e => ?_⟩⟩
    · exact g.validate_put_skip_item p c before after hnil
    · exact g.outcome_put_skip_field p t name h before after hnil
    · exact g.validate_put_malformed p t name ht visible before after d e

theorem validate_put_of_means_phones :
    let phones (items : List Datum) : Datum :=
      .record "Person" [⟨"phones", "len:3", true, .behind .box (.sequence .ring items)⟩]
    let called : Datum := .behind .option (.text .lent "112")
    let missing : Datum := .behind .reference .absent
    let g := standard Engine.words
    Datum.Means missing .nil ∧
      g.validate (phones [called, missing]).view = g.validate (phones [called]).view ∧
      (g.validate (phones [called]).view).outcome = .ok () ∧
      (g.validate (phones [called, .text .owned ""]).view).outcome =
        .error (.rejected ⟨[⟨"phones", .lengthDiffers, "3"⟩]⟩) := by
  intro phones called missing g
  have hnil : Datum.Means missing .nil := .behind .reference .absent
  have hskip := (g.validate_put_of_means.2.2.2.2 missing hnil).2.1
    (.field "Person" [] "phones" "len:3" true (.behind .box .here) []) .ring [called] []
  exact ⟨hnil, hskip, by decide +kernel, by decide +kernel⟩

end Registry

end FieldRules
