import FieldRules.Proofs.Tables
import FieldRules.Proofs.Transfer

/-!
The last registration counts. Main statement: what a registry answers to a kind and a name is told
by the history of its registrations, where the last one for both is the check that is found, and the
same history fills nested tables that answer and list the same. So histories with the same last
registrations cannot be told apart.
-/

set_option autoImplicit false

namespace FieldRules

/-- The last registration of a history for a kind and a name. -/
inductive Registration.IsLast (kind : Kind) (name : String) :
    List Registration → Registration → Prop where
  | intro {earlier later : List Registration} {e : Registration} (hk : e.kind = kind)
      (hn : e.name = name) (hl : ∀ e' ∈ later, e'.kind = kind → e'.name ≠ name) :
      IsLast kind name (earlier ++ e :: later) e

/-- What a history answers to a kind and a name. -/
inductive Registration.Answers (es : List Registration) (kind : Kind) (name : String) :
    Except Fault Check → Prop where
  | found {e : Registration} (h : IsLast kind name es e) : Answers es kind name (.ok e.check)
  | unknownRule (hk : ∃ e ∈ es, e.kind = kind) (hn : ∀ e ∈ es, e.kind = kind → e.name ≠ name) :
      Answers es kind name (.error (.unknownRule kind name))
  | kindHasNoRules (hk : ∀ e ∈ es, e.kind ≠ kind) :
      Answers es kind name (.error (.kindHasNoRules kind))

namespace Registry

variable {engine : Engine}

theorem mem_entries_ofSteps {steps : List Step} {e : Registration} :
    e ∈ (ofSteps engine steps).entries ↔ e ∈ history engine steps := by
  rw [entries_ofSteps, List.mem_reverse]

theorem find?_ofSteps_eq_some_iff {steps : List Step} {kind : Kind} {name : String} {c : Check} :
    (ofSteps engine steps).find? kind name = some c ↔
      ∃ e, Registration.IsLast kind name (history engine steps) e ∧ e.check = c := by
  rw [find?, ofKind, entries_ofSteps, List.find?_filter, Option.map_eq_some_iff]
  refine exists_congr fun e => and_congr_left fun _ => ?_
  generalize history engine steps = es
  rw [List.find?_eq_some_iff_append]
  simp only [beq_iff_eq, decide_eq_true_eq, Bool.not_eq_eq_eq_not, Bool.not_true,
    decide_eq_false_iff_not, not_and]
  constructor
  · rintro ⟨⟨hk, hn⟩, later, earlier, hr, hl⟩
    -- the entries have the latest first, so what comes before one of them is later
    have hs : es = earlier.reverse ++ e :: later.reverse := by
      simpa using congrArg List.reverse hr
    rw [hs]
    exact .intro hk hn (by simpa using hl)
  · rintro ⟨hk, hn, hl⟩
    rename_i earlier later
    exact ⟨⟨hk, hn⟩, later.reverse, earlier.reverse, by simp, by simpa using hl⟩

theorem lookup_eq_iff_answers {steps : List Step} {kind : Kind} {name : String}
    {o : Except Fault Check} :
    (ofSteps engine steps).lookup kind name = o ↔
      Registration.Answers (history engine steps) kind name o := by
  have hk : (ofSteps engine steps).ofKind kind = [] ↔
      ∀ e ∈ history engine steps, e.kind ≠ kind := by
    simp only [ofKind_eq_nil_iff, mem_entries_ofSteps]
  have hn : (ofSteps engine steps).find? kind name = none ↔
      ∀ e ∈ history engine steps, e.kind = kind → e.name ≠ name := by
    simp only [find?_eq_none_iff, mem_entries_ofSteps]
  constructor
  · intro h
    cases o with
    | ok c =>
      obtain ⟨e, he, rfl⟩ := find?_ofSteps_eq_some_iff.mp (lookup_eq_ok_iff.mp h)
      exact .found he
    | error f =>
      rcases lookup_eq_error h with rfl | rfl
      · exact .kindHasNoRules (hk.mp (lookup_eq_kindHasNoRules_iff.mp h))
      · obtain ⟨hne, hnone⟩ := lookup_eq_unknownRule_iff.mp h
        rw [ne_eq, hk] at hne
        push Not at hne
        exact .unknownRule hne (hn.mp hnone)
  · intro h
    cases h with
    | found h => exact lookup_eq_ok_iff.mpr (find?_ofSteps_eq_some_iff.mpr ⟨_, h, rfl⟩)
    | unknownRule h h' =>
      refine lookup_eq_unknownRule_iff.mpr ⟨?_, hn.mpr h'⟩
      obtain ⟨e, he, hek⟩ := h
      intro hnil
      exact hk.mp hnil e he hek
    | kindHasNoRules h => exact lookup_eq_kindHasNoRules_iff.mpr (hk.mpr h)

theorem Step.pairwise_registrations (engine : Engine) (s : Step) :
    (s.registrations engine).Pairwise fun e e' => e'.kind = e.kind → e'.name ≠ e.name := by
  cases s with
  | rule name check => exact List.pairwise_singleton _ _
  | standard =>
    simp only [registrations, List.pairwise_map, Registration.kind, Registration.ofBuiltIn,
      BuiltIn.kind_check]
    decide

theorem isLast_of_step (earlier : List Registration) {s : Step} {later : List Registration}
    {e : Registration} (he : e ∈ s.registrations engine)
    (hl : ∀ e' ∈ later, e'.kind = e.kind → e'.name ≠ e.name) :
    Registration.IsLast e.kind e.name (earlier ++ (s.registrations engine ++ later)) e := by
  obtain ⟨before, after, hs⟩ := List.append_of_mem he
  have hp := s.pairwise_registrations engine
  rw [hs] at hp ⊢
  have ha := (List.pairwise_cons.mp (List.pairwise_append.mp hp).2.1).1
  have hall : ∀ e' ∈ after ++ later, e'.kind = e.kind → e'.name ≠ e.name := by
    intro e' hm
    exact (List.mem_append.mp hm).elim (ha e') (hl e')
  have hsplit : earlier ++ (before ++ e :: after ++ later) =
      (earlier ++ before) ++ e :: (after ++ later) := by simp
  rw [hsplit]
  exact .intro rfl rfl hall

theorem ofKind_ofSteps_insert (engine : Engine) (earlier later : List Step) (name : String)
    {check : Check} {kind : Kind} (h : kind ≠ check.kind) :
    (ofSteps engine (earlier ++ .rule name check :: later)).ofKind kind =
      (ofSteps engine (earlier ++ later)).ofKind kind := by
  have hk : (Registration.mk name check).kind ≠ kind := h.symm
  simp [ofKind, entries_ofSteps, history, Step.registrations, hk]

/-- The answers of a registry are those of its history, as nested tables give them: a registration
counts until a later one for its kind and name, and for no other kind. Histories that end alike for
every kind and name make registries that are alike to every question. -/
theorem lookup_ofSteps (engine : Engine) (steps : List Step) :
    (Step.standard.registrations engine).map (fun e => (e.kind, e.name)) =
      [(.string, "len"), (.string, "regexp"), (.string, "in"), (.int, "min"), (.int, "max"),
        (.int, "in"), (.float, "min"), (.float, "max")] ∧
    (∀ kind name o, (ofSteps engine steps).lookup kind name = o ↔
      Registration.Answers (history engine steps) kind name o) ∧
    ((∀ kind name, (Tables.ofSteps engine steps).lookup kind name =
        (ofSteps engine steps).lookup kind name) ∧
      Table.keys (Tables.ofSteps engine steps) = (ofSteps engine steps).kinds ∧
      ∀ kind, (Tables.ofSteps engine steps).ruleNames kind =
        (ofSteps engine steps).ruleNames kind) ∧
    (∀ later name check kind rule, kind ≠ check.kind →
      (ofSteps engine (steps ++ .rule name check :: later)).lookup kind rule =
        (ofSteps engine (steps ++ later)).lookup kind rule) ∧
    (∀ s later, ∀ e ∈ s.registrations engine,
      (∀ e' ∈ history engine later, e'.kind = e.kind → e'.name ≠ e.name) →
        (ofSteps engine (steps ++ s :: later)).lookup e.kind e.name = .ok e.check) ∧
    ∀ steps', (∀ kind name e,
        Registration.IsLast kind name (history engine steps) e ↔
          Registration.IsLast kind name (history engine steps') e) →
      (∀ kind rule, (ofSteps engine steps).lookup kind rule =
        (ofSteps engine steps').lookup kind rule) ∧
      (∀ kind rule, (ofSteps engine steps).contains kind rule =
        (ofSteps engine steps').contains kind rule) ∧
      (ofSteps engine steps).kinds = (ofSteps engine steps').kinds ∧
      (∀ kind, (ofSteps engine steps).ruleNames kind = (ofSteps engine steps').ruleNames kind) ∧
      ∀ v, (ofSteps engine steps).validate v = (ofSteps engine steps').validate v := by
  refine ⟨rfl, fun _ _ _ => lookup_eq_iff_answers, ?_, ?_, ?_, ?_⟩
  · rw [← tables_ofSteps]
    exact ⟨lookup_tables _, keys_tables _, ruleNames_tables _⟩
  · intro later name check kind rule h
    have hk := ofKind_ofSteps_insert engine steps later name h
    rw [lookup, lookup, find?, find?, hk]
  · intro s later e he hl
    refine lookup_eq_iff_answers.mpr (.found ?_)
    rw [history, List.flatMap_append, List.flatMap_cons]
    exact isLast_of_step _ he hl
  · intro steps' h
    have hf : ∀ kind rule,
        (ofSteps engine steps).find? kind rule = (ofSteps engine steps').find? kind rule := by
      intro kind rule
      apply Option.ext
      intro c
      simp only [find?_ofSteps_eq_some_iff, h]
    have hl : ∀ kind rule,
        (ofSteps engine steps).lookup kind rule = (ofSteps engine steps').lookup kind rule :=
      fun kind => lookup_congr (hf kind)
    refine ⟨hl, ?_, kinds_congr hf, fun kind => ruleNames_congr (hf kind), validate_congr hl⟩
    intro kind rule
    rw [contains, contains, hf]

end Registry

end FieldRules
