import FieldRules.Proofs.Listing

/-!
Registries as nested tables: a table of rules for every kind that has any, in the order of the
kinds, and in it a check for every name, in the order of the names. A registration opens the table
of its kind if there is none, and goes into it over what had its name. Main statement: a registry
answers and lists as the tables that its history fills.
-/

set_option autoImplicit false

namespace FieldRules

abbrev Table (κ β : Type) := List (κ × β)

namespace Table

variable {κ β : Type} [Ord κ]

def keys (t : Table κ β) : List κ := t.map Prod.fst

/-- Puts an entry in its place by the order of the keys, over one with the same key. -/
def put (k : κ) (b : β) : Table κ β → Table κ β
  | [] => [(k, b)]
  | (l, c) :: t => match compare k l with
    | .lt => (k, b) :: (l, c) :: t
    | .eq => (k, b) :: t
    | .gt => (l, c) :: put k b t

section

variable [Std.LawfulEqOrd κ]

theorem mem_keys_put {k l : κ} {b : β} {t : Table κ β} :
    l ∈ keys (put k b t) ↔ l = k ∨ l ∈ keys t := by
  induction t with
  | nil => simp [put, keys]
  | cons p t ih =>
    obtain ⟨m, c⟩ := p
    rw [put]
    cases h : compare k m with
    | lt => simp [keys]
    | eq =>
      cases Std.compare_eq_iff_eq.mp h
      simp [keys]
    | gt =>
      simp only [keys, List.map_cons, List.mem_cons] at ih ⊢
      rw [ih]
      tauto

theorem pairwise_keys_put [Std.TransOrd κ] (k : κ) (b : β) {t : Table κ β}
    (h : (keys t).Pairwise fun l m => compare l m = .lt) :
    (keys (put k b t)).Pairwise fun l m => compare l m = .lt := by
  induction t with
  | nil => simp [put, keys]
  | cons p t ih =>
    obtain ⟨m, c⟩ := p
    obtain ⟨hm, ht⟩ := List.pairwise_cons.mp h
    rw [put]
    cases hc : compare k m with
    | lt =>
      refine List.pairwise_cons.mpr ⟨?_, h⟩
      intro l hl
      rcases List.mem_cons.mp hl with rfl | hl
      · exact hc
      · exact Std.TransCmp.lt_trans hc (hm l hl)
    | eq =>
      cases Std.compare_eq_iff_eq.mp hc
      exact h
    | gt =>
      refine List.pairwise_cons.mpr ⟨?_, ih ht⟩
      intro l hl
      rcases mem_keys_put.mp hl with rfl | hl
      · exact Std.OrientedCmp.lt_of_gt hc
      · exact hm l hl

variable [DecidableEq κ]

theorem lookup_put_self (k : κ) (b : β) (t : Table κ β) : (put k b t).lookup k = some b := by
  induction t with
  | nil => simp [put]
  | cons p t ih =>
    obtain ⟨l, c⟩ := p
    rw [put]
    cases h : compare k l with
    | lt => simp
    | eq => simp
    | gt =>
      have hne : k ≠ l := by
        rintro rfl
        simp at h
      rw [List.lookup_cons, beq_false_of_ne hne, ih]

theorem lookup_put_of_ne {k l : κ} (h : l ≠ k) (b : β) (t : Table κ β) :
    (put k b t).lookup l = t.lookup l := by
  induction t with
  | nil => simp [put, h]
  | cons p t ih =>
    obtain ⟨m, c⟩ := p
    rw [put]
    cases hc : compare k m with
    | lt => rw [List.lookup_cons, beq_false_of_ne h]
    | eq =>
      cases Std.compare_eq_iff_eq.mp hc
      rw [List.lookup_cons, List.lookup_cons, beq_false_of_ne h]
    | gt => simp only [List.lookup_cons, ih]

end

end Table

theorem Table.keys_put_eq_insertName {β : Type} (name : String) (b : β) (t : Table String β) :
    keys (put name b t) = Registry.insertName name (keys t) := by
  induction t with
  | nil => rfl
  | cons p t ih =>
    obtain ⟨m, c⟩ := p
    have hkeys : keys ((m, c) :: t) = m :: keys t := rfl
    rw [put, hkeys, Registry.insertName]
    cases h : compare name m with
    | lt => rw [if_pos (compare_lt_iff_lt.mp h)]; rfl
    | eq =>
      cases Std.compare_eq_iff_eq.mp h
      rw [if_neg (lt_irrefl name), if_pos rfl]
      rfl
    | gt =>
      have hlt := compare_gt_iff_gt.mp h
      rw [if_neg (not_lt.mpr hlt.le), if_neg hlt.ne', ← ih]
      rfl

instance : Std.TransOrd Kind := inferInstanceAs (Std.TransCmp (compareOn Kind.rank))

instance : Std.LawfulEqOrd Kind where
  eq_of_compare h := Kind.rank_injective (Std.compare_eq_iff_eq.mp h)

abbrev Tables := Table Kind (Table String Check)

namespace Tables

/-- Puts a check into the table of its kind, which is opened if there is none. -/
def register (t : Tables) (name : String) (check : Check) : Tables :=
  Table.put check.kind (Table.put name check ((t.lookup check.kind).getD [])) t

def ofSteps (engine : Engine) (steps : List Registry.Step) : Tables :=
  (Registry.history engine steps).foldl (fun t e => t.register e.name e.check) []

def lookup (t : Tables) (kind : Kind) (rule : String) : Except Fault Check :=
  match List.lookup kind t with
  | none => .error (.kindHasNoRules kind)
  | some rules => match rules.lookup rule with
    | none => .error (.unknownRule kind rule)
    | some check => .ok check

def ruleNames (t : Tables) (kind : Kind) : List String := ((List.lookup kind t).getD []).keys

end Tables

namespace Registry

/-- The tables that the history of a registry fills. -/
def tables (g : Registry) : Tables :=
  g.entries.foldr (fun e t => t.register e.name e.check) []

theorem tables_register (g : Registry) (name : String) (check : Check) :
    (g.register name check).tables = g.tables.register name check := rfl

theorem tables_ofSteps (engine : Engine) (steps : List Step) :
    (ofSteps engine steps).tables = Tables.ofSteps engine steps := by
  rw [tables, entries_ofSteps, List.foldr_reverse]
  rfl

theorem lookup_register (t : Tables) (name : String) (check : Check) (kind : Kind) :
    List.lookup kind (t.register name check) =
      if check.kind = kind then some (Table.put name check ((List.lookup kind t).getD []))
      else List.lookup kind t := by
  rw [Tables.register]
  split
  · rename_i h
    rw [h, Table.lookup_put_self]
  · rename_i h
    exact Table.lookup_put_of_ne (Ne.symm h) _ _

theorem lookup_tables_eq_none_iff (g : Registry) (kind : Kind) :
    List.lookup kind g.tables = none ↔ g.ofKind kind = [] := by
  induction g using induct with
  | empty => simp [tables, empty, ofKind]
  | register g name check ih =>
    rw [tables_register, lookup_register, ofKind_register]
    split
    · simp
    · exact ih

theorem find?_tables (g : Registry) (kind : Kind) (rule : String) :
    ((List.lookup kind g.tables).getD []).lookup rule = g.find? kind rule := by
  induction g using induct with
  | empty => rfl
  | register g name check ih =>
    rw [tables_register, lookup_register, find?_register]
    by_cases h : check.kind = kind
    · rw [if_pos h, Option.getD_some]
      by_cases hn : name = rule
      · rw [if_pos ⟨h, hn⟩, hn, Table.lookup_put_self]
      · rw [if_neg fun hh => hn hh.2, Table.lookup_put_of_ne (Ne.symm hn), ih]
    · rw [if_neg h, if_neg fun hh => h hh.1, ih]

theorem lookup_tables (g : Registry) (kind : Kind) (rule : String) :
    g.tables.lookup kind rule = g.lookup kind rule := by
  have hf := g.find?_tables kind rule
  have hn := g.lookup_tables_eq_none_iff kind
  unfold lookup Tables.lookup
  cases h : List.lookup kind g.tables with
  | none =>
    rw [h] at hf
    rw [hn.mp h, ← hf]
    rfl
  | some rules =>
    rw [h, Option.getD_some] at hf
    have hne : g.ofKind kind ≠ [] := by
      intro he
      rw [h] at hn
      exact absurd (hn.mpr he) (Option.some_ne_none rules)
    simp only [hf]
    cases g.find? kind rule with
    | none => simp [hne]
    | some c => rfl

theorem ruleNames_tables (g : Registry) (kind : Kind) :
    g.tables.ruleNames kind = g.ruleNames kind := by
  induction g using induct with
  | empty => rfl
  | register g name check ih =>
    rw [Tables.ruleNames, tables_register, lookup_register, ruleNames_register]
    split
    · rw [Option.getD_some, Table.keys_put_eq_insertName, ← ih]
      rfl
    · exact ih

theorem pairwise_keys_tables (g : Registry) :
    (Table.keys g.tables).Pairwise fun j k => compare j k = .lt := by
  induction g using induct with
  | empty => exact .nil
  | register g name check ih => exact Table.pairwise_keys_put _ _ ih

theorem mem_keys_tables_iff {g : Registry} {kind : Kind} :
    kind ∈ Table.keys g.tables ↔ g.ofKind kind ≠ [] := by
  induction g using induct with
  | empty => simp [Table.keys, tables, empty, ofKind]
  | register g name check ih =>
    rw [tables_register, Tables.register, Table.mem_keys_put, ofKind_register, ih]
    by_cases h : check.kind = kind
    · simp [h]
    · simp [h, Ne.symm h]

theorem pairwise_kinds (g : Registry) : g.kinds.Pairwise fun j k => compare j k = .lt := by
  have hall : Kind.all.Pairwise fun j k => compare j k = .lt := by decide
  exact hall.sublist List.filter_sublist

theorem mem_kinds_iff {g : Registry} {kind : Kind} : kind ∈ g.kinds ↔ g.ofKind kind ≠ [] := by
  simp [kinds, Kind.mem_all]

theorem keys_tables (g : Registry) : Table.keys g.tables = g.kinds := by
  have hirr : Std.Irrefl fun j k : Kind => compare j k = .lt := ⟨by simp⟩
  have hanti : Std.Antisymm fun j k : Kind => compare j k = .lt := by
    refine ⟨?_⟩
    intro j k h h'
    exact absurd h (Std.OrientedCmp.not_lt_of_lt h')
  -- both lists increase, so their members decide
  refine g.pairwise_keys_tables.eq_of_mem_iff g.pairwise_kinds ?_
  intro kind
  rw [mem_keys_tables_iff, mem_kinds_iff]

end Registry

end FieldRules
