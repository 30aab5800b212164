import FieldRules.Proofs.Listing
import FieldRules.Proofs.SameShape
import FieldRules.Proofs.Transfer

/-!
Registries with more rules. Main statement: a registry that has every check of another one validates
like it, unless the other lacks a rule that it is asked for, and up to that rule opens the same
fields. So new rules change no acceptance and no report.
-/

set_option autoImplicit false

namespace FieldRules

inductive Fault.Missing : Fault → Prop where
  | kindHasNoRules (kind : Kind) : Missing (.kindHasNoRules kind)
  | unknownRule (kind : Kind) (rule : String) : Missing (.unknownRule kind rule)

/-- Another verdict is equal, or no check was found for this one. -/
def Verdict.Kept (v w : Verdict) : Prop := v = w ∨ ∃ f, v = .fault f ∧ f.Missing

theorem Entry.Alike.kept {e e' : Entry} (h : Alike Verdict.Kept e e') :
    e = e' ∨ ∃ f, e = .judged (.fault f) ∧ f.Missing := by
  cases h with
  | opened e => exact Or.inl rfl
  | judged hk =>
    rcases hk with rfl | ⟨f, rfl, hf⟩
    · exact Or.inl rfl
    · exact Or.inr ⟨f, rfl, hf⟩

namespace Trace

/-- Traces whose verdicts are kept are equal as far as the first rule that is missing. -/
theorem split_of_kept {s t : Trace} (h : List.Forall₂ (Entry.Alike Verdict.Kept) s t) :
    s = t ∨ ∃ a f s' t', s = a ++ .judged (.fault f) :: s' ∧ t = a ++ t' ∧ f.Missing := by
  induction h with
  | nil => exact Or.inl rfl
  | @cons e e' s t he _ ih =>
    rcases he.kept with rfl | ⟨f, rfl, hf⟩
    · rcases ih with rfl | ⟨a, f, s', t', rfl, rfl, hf⟩
      · exact Or.inl rfl
      · exact Or.inr ⟨e :: a, f, s', t', rfl, rfl, hf⟩
    · exact Or.inr ⟨[], f, s, e' :: t, rfl, rfl, hf⟩

theorem walk_append_fault (a s t : Trace) (f : Fault) :
    (walk (a ++ .judged (.fault f) :: s) = walk (a ++ t) ∨
      (walk (a ++ .judged (.fault f) :: s)).result = .error f) ∧
    (walk (a ++ .judged (.fault f) :: s)).log <+: (walk (a ++ t)).log := by
  rw [walk_append, walk_append, walk_fault]
  cases ha : (walk a).result with
  | error e => simp [Walk.andThen, ha]
  | ok rs => simp [Walk.andThen, Walk.abort, ha, Except.map]

end Trace

namespace Registry

variable {g g' : Registry}

/-- Every check that look-ups find in `g` is found in `g'`, for the same kind and name. -/
def Extends (g' g : Registry) : Prop :=
  ∀ kind name c, g.lookup kind name = .ok c → g'.lookup kind name = .ok c

theorem extends_registerAll {es : List Registration}
    (h : ∀ e ∈ es, g.contains e.kind e.name = false) : (g.registerAll es).Extends g := by
  intro kind name c hc
  rw [lookup_eq_ok_iff] at hc ⊢
  have hnew : (es.reverse.filter fun e => e.kind == kind).find? (fun e => e.name == name) =
      none := by
    rw [List.find?_eq_none]
    intro e he hn
    obtain ⟨hm, hk⟩ := List.mem_filter.mp he
    have hfree := h e (List.mem_reverse.mp hm)
    rw [contains, eq_of_beq hk, eq_of_beq hn, hc] at hfree
    contradiction
  rw [find?, ofKind, entries_registerAll, List.filter_append, List.find?_append, hnew,
    Option.none_or]
  exact hc

theorem verdict_kept (h : g'.Extends g) (field : String) (v : Value) (r : Rule) :
    ((g.verdict v r).stamp field).Kept ((g'.verdict v r).stamp field) := by
  cases hl : g.lookup v.kind r.name with
  | ok c =>
    left
    rw [verdict_of_lookup hl, verdict_of_lookup (h _ _ _ hl)]
  | error f =>
    right
    refine ⟨f, by rw [verdict_of_lookup_error hl]; rfl, ?_⟩
    rcases lookup_eq_error hl with rfl | rfl
    · exact .kindHasNoRules _
    · exact .unknownRule _ _

theorem walk_kept (h : g'.Extends g) (typeName : String) (fs : List (Field Value)) :
    ((g.traceFields typeName fs).walk = (g'.traceFields typeName fs).walk ∨
      ∃ f, f.Missing ∧ (g.traceFields typeName fs).walk.result = .error f) ∧
    (g.traceFields typeName fs).walk.log <+: (g'.traceFields typeName fs).walk.log := by
  have ht := traceFields_alike (fun _ => Or.inl rfl) (verdict_kept h) typeName fs
  rcases Trace.split_of_kept ht with he | ⟨a, f, s, t, hs, ht, hf⟩
  · rw [he]
    exact ⟨Or.inl rfl, List.prefix_refl _⟩
  · obtain ⟨hw, hlog⟩ := Trace.walk_append_fault a s t f
    rw [hs, ht]
    exact ⟨hw.imp_right fun hr => ⟨f, hf, hr⟩, hlog⟩

/-- More rules keep every validation but those that ask for a rule that was missing, and these
still open the same fields up to it. New rules under free names are more rules. -/
theorem validate_of_extends (h : g'.Extends g) (v : Value) :
    (g'.validate v = g.validate v ∨ ∃ f, f.Missing ∧ (g.validate v).outcome = .error (.fault f)) ∧
    (g.validate v).opened <+: (g'.validate v).opened ∧
    ∀ es, (∀ e ∈ es, g.contains e.kind e.name = false) → (g.registerAll es).Extends g := by
  cases v with
  | record typeName fs =>
    obtain ⟨hw, hlog⟩ := walk_kept h typeName fs
    rw [validate_record, validate_record, Validation.opened_ofWalk, Validation.opened_ofWalk]
    refine ⟨?_, hlog.filter _, fun _ => extends_registerAll⟩
    rcases hw with hw | ⟨f, hf, hr⟩
    · exact Or.inl (by rw [hw])
    · exact Or.inr ⟨f, hf, by rw [Validation.ofWalk, hr]⟩
  | _ => exact ⟨Or.inl rfl, List.prefix_refl _, fun _ => extends_registerAll⟩

def agreed : Registration := ⟨"agreed", .bool fun b condition =>
  if b then .pass else .reject (.unstamped .textNotListed condition)⟩

theorem validate_of_extends_agreed :
    let g := standard Engine.words
    let g' := g.registerAll [agreed]
    let amount : Field Value := .shown "amount" "max:4" (.int 5)
    let terms : Field Value := .shown "terms" "agreed:yes" (.bool true)
    g'.Extends g ∧
      g'.validate (.record "Order" [amount]) = g.validate (.record "Order" [amount]) ∧
      (g.validate (.record "Order" [amount, terms])).outcome =
        .error (.fault (.kindHasNoRules .bool)) ∧
      (g'.validate (.record "Order" [amount, terms])).outcome =
        .error (.rejected ⟨[⟨"amount", .tooGreat, "4"⟩]⟩) := by
  intro g g' amount terms
  have h : g'.Extends g := extends_registerAll (by decide)
  have hr : (g.validate (.record "Order" [amount])).outcome =
      .error (.rejected ⟨[⟨"amount", .tooGreat, "4"⟩]⟩) := by decide +kernel
  refine ⟨h, ?_, by decide +kernel, by decide +kernel⟩
  rcases (validate_of_extends h (.record "Order" [amount])).1 with he | ⟨f, -, hf⟩
  · exact he
  · cases hr.symm.trans hf

end Registry

end FieldRules
