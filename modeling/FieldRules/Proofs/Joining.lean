import Mathlib.Data.List.Perm.Basic
import FieldRules.Proofs.Reach
import FieldRules.Proofs.Reordering
import FieldRules.Proofs.RoundTrip
import FieldRules.Proofs.Spread

/-!
Two tags in one. Main statement: tags joined by `|` have the rules of both, and a field under them
counts as two fields, one under each tag; for a sequence the report may come in another order, since
all rules go over one item before the next.
-/

set_option autoImplicit false

namespace FieldRules

namespace Tag

variable {t₁ t₂ : String} {rs₁ rs₂ : List Rule}

theorem trimmed_join (h₁ : t₁.toList ≠ []) (h₂ : t₂.toList ≠ []) (hb₁ : Text.Bare t₁.toList)
    (hb₂ : Text.Bare t₂.toList) : trimmed (t₁ ++ "|" ++ t₂) = t₁.toList ++ '|' :: t₂.toList := by
  have ht : (t₁ ++ "|" ++ t₂).toList = t₁.toList ++ '|' :: t₂.toList := by simp
  rw [trimmed, ht]
  exact Text.trim_of_bare (hb₁.append_cons hb₂ h₁ h₂ '|')

theorem parse_join (h₁ : parse t₁ = .ok rs₁) (h₂ : parse t₂ = .ok rs₂) (hr₁ : rs₁ ≠ [])
    (hr₂ : rs₂ ≠ []) (hb₁ : Text.Bare t₁.toList) (hb₂ : Text.Bare t₂.toList) :
    parse (t₁ ++ "|" ++ t₂) = .ok (rs₁ ++ rs₂) := by
  have hn₁ : trimmed t₁ ≠ [] := mt (eq_nil_iff_of_parse h₁).mpr hr₁
  have hn₂ : trimmed t₂ ≠ [] := mt (eq_nil_iff_of_parse h₂).mpr hr₂
  have ht₁ : trimmed t₁ = t₁.toList := Text.trim_of_bare hb₁
  have ht₂ : trimmed t₂ = t₂.toList := Text.trim_of_bare hb₂
  have ht : trimmed (t₁ ++ "|" ++ t₂) = trimmed t₁ ++ '|' :: trimmed t₂ := by
    rw [trimmed_join (ht₁ ▸ hn₁) (ht₂ ▸ hn₂) hb₁ hb₂, ht₁, ht₂]
  have hs : segments (t₁ ++ "|" ++ t₂) = segments t₁ ++ segments t₂ := by
    rw [segments, ht, Text.pieces_append, segments, segments]
  have hn : trimmed (t₁ ++ "|" ++ t₂) ≠ [] := by simp [ht]
  rw [parse_of_not_blank hn₁, parsePieces_eq_ok_iff] at h₁
  rw [parse_of_not_blank hn₂, parsePieces_eq_ok_iff] at h₂
  rw [parse_of_not_blank hn, parsePieces_eq_ok_iff, hs]
  exact List.rel_append h₁ h₂

end Tag

namespace Registry

variable (g : Registry)

theorem traceItem_append {v : Value} (hv : v.kind ≠ .record) (field : String)
    (rs₁ rs₂ : List Rule) :
    g.traceItem ⟨field, rs₁ ++ rs₂⟩ v =
      g.traceItem ⟨field, rs₁⟩ v ++ g.traceItem ⟨field, rs₂⟩ v := by
  cases v with
  | record t fs => exact absurd rfl hv
  | nil => rfl
  | _ => exact List.map_append

theorem verdicts_shown_members {tag : String} {rules : List Rule} (ht : Tag.parse tag = .ok rules)
    (hr : rules ≠ []) (typeName name : String) {v : Value} (hv : v.kind ≠ .record) :
    (g.traceFields typeName [.shown name tag v]).verdicts =
      v.members.flatMap fun w => (g.traceItem ⟨name, rules⟩ w).verdicts := by
  by_cases hs : v.kind = .sequence
  · obtain ⟨items, rfl⟩ := Value.eq_sequence_of_kind hs
    exact g.verdicts_shown_sequence ht hr typeName name items
  · have hi : g.traceItem ⟨name, rules⟩ v = g.traceValue ⟨name, rules⟩ v :=
      g.traceItem_of_fieldLike ⟨hs, fun hk => absurd hk hv⟩
    rw [verdicts_traceFields_eq_flatMap, List.flatMap_singleton, Value.members_of_kind_ne hs,
      List.flatMap_singleton, g.verdicts_traceField_shown typeName name ht hr, hi]

section Shown

variable {rs₁ rs₂ : List Rule} (hr₁ : rs₁ ≠ []) (typeName name : String) {v : Value}
  (hv : v.kind ≠ .record)
include hr₁ hv

/-- Under one tag all rules go over one item before the next. -/
theorem verdicts_joined {tag : String} (h : Tag.parse tag = .ok (rs₁ ++ rs₂))
    (hm : ∀ w ∈ v.members, w.kind ≠ .record) :
    (g.traceFields typeName [.shown name tag v]).verdicts =
      v.members.flatMap fun w =>
        (g.traceItem ⟨name, rs₁⟩ w).verdicts ++ (g.traceItem ⟨name, rs₂⟩ w).verdicts := by
  have hr : rs₁ ++ rs₂ ≠ [] := by simp [hr₁]
  rw [g.verdicts_shown_members h hr typeName name hv]
  apply List.flatMap_congr
  intro w hw
  rw [g.traceItem_append (hm w hw), Trace.verdicts_append]

/-- Under two tags the rules of the first go over all items before those of the second. -/
theorem verdicts_pair {t₁ t₂ : String} (h₁ : Tag.parse t₁ = .ok rs₁)
    (h₂ : Tag.parse t₂ = .ok rs₂) (hr₂ : rs₂ ≠ []) :
    (g.traceFields typeName [.shown name t₁ v, .shown name t₂ v]).verdicts =
      (v.members.flatMap fun w => (g.traceItem ⟨name, rs₁⟩ w).verdicts) ++
        v.members.flatMap fun w => (g.traceItem ⟨name, rs₂⟩ w).verdicts := by
  rw [← List.singleton_append, traceFields_append, Trace.verdicts_append,
    g.verdicts_shown_members h₁ hr₁ typeName name hv,
    g.verdicts_shown_members h₂ hr₂ typeName name hv]

end Shown

/-- A tag joined of two is both tags: it has the rules of both, and a field under it counts as two
fields in a row, up to the order of the report if the field holds a sequence. -/
theorem outcome_join {t₁ t₂ : String} {rs₁ rs₂ : List Rule} (h₁ : Tag.parse t₁ = .ok rs₁)
    (h₂ : Tag.parse t₂ = .ok rs₂) (hr₁ : rs₁ ≠ []) (hr₂ : rs₂ ≠ [])
    (hb₁ : Text.Bare t₁.toList) (hb₂ : Text.Bare t₂.toList) :
    Tag.parse (t₁ ++ "|" ++ t₂) = .ok (rs₁ ++ rs₂) ∧
    (∀ typeName name as bs v, v.kind ≠ .record → v.kind ≠ .sequence →
      (g.validate (.record typeName (as ++ .shown name (t₁ ++ "|" ++ t₂) v :: bs))).outcome =
        (g.validate (.record typeName
          (as ++ .shown name t₁ v :: .shown name t₂ v :: bs))).outcome) ∧
    ∀ typeName name as bs items, (∀ w ∈ items, w.kind ≠ .record) →
      Outcome.UpToOrder
        (g.validate (.record typeName
          (as ++ .shown name (t₁ ++ "|" ++ t₂) (.sequence items) :: bs))).outcome
        (g.validate (.record typeName
          (as ++ .shown name t₁ (.sequence items) ::
            .shown name t₂ (.sequence items) :: bs))).outcome := by
  have h := Tag.parse_join h₁ h₂ hr₁ hr₂ hb₁ hb₂
  refine ⟨h, ?_, ?_⟩
  · intro typeName name as bs v hv hs
    have hm : v.members = [v] := Value.members_of_kind_ne hs
    have hjoined := g.verdicts_joined hr₁ typeName name hv h (by simpa [hm] using hv)
    have hpair := g.verdicts_pair hr₁ typeName name hv h₁ h₂ hr₂
    rw [hm, List.flatMap_singleton] at hjoined
    rw [hm, List.flatMap_singleton, List.flatMap_singleton] at hpair
    simpa using g.outcome_congr_middle (hjoined.trans hpair.symm) as bs
  · intro typeName name as bs items hi
    have hv : (Value.sequence items).kind ≠ .record := Kind.noConfusion
    have hjoined := g.verdicts_joined hr₁ typeName name hv h hi
    have hpair := g.verdicts_pair hr₁ typeName name hv h₁ h₂ hr₂
    have hperm : (g.traceFields typeName
        [.shown name (t₁ ++ "|" ++ t₂) (.sequence items)]).verdicts.Perm
          (g.traceFields typeName
            [.shown name t₁ (.sequence items), .shown name t₂ (.sequence items)]).verdicts := by
      rw [hjoined, hpair]
      exact (List.flatMap_append_perm _ _ _).symm
    simpa using g.upToOrder_congr_middle hperm as bs

theorem outcome_join_marks :
    let g := standard Engine.words
    let outcome (fs : List (Field Value)) : Outcome := (g.validate (.record "Paper" fs)).outcome
    let marks (tag : String) (v : Value) : Field Value := .shown "marks" tag v
    let items : Value := .sequence [.int 7, .nil, .int 2]
    let joined : String := "min:3" ++ "|" ++ "max:6|in:2,7"
    Tag.parse joined = .ok ([⟨"min", "3"⟩] ++ [⟨"max", "6"⟩, ⟨"in", "2,7"⟩]) ∧
      outcome [marks joined (.int 8)] =
        outcome [marks "min:3" (.int 8), marks "max:6|in:2,7" (.int 8)] ∧
      outcome [marks joined items] =
        .error (.rejected ⟨[⟨"marks", .tooGreat, "6"⟩, ⟨"marks", .tooSmall, "3"⟩]⟩) ∧
      Outcome.UpToOrder (outcome [marks joined items])
        (outcome [marks "min:3" items, marks "max:6|in:2,7" items]) := by
  intro g outcome marks items joined
  have h₁ : Tag.parse "min:3" = .ok [⟨"min", "3"⟩] := by rfl
  have h₂ : Tag.parse "max:6|in:2,7" = .ok [⟨"max", "6"⟩, ⟨"in", "2,7"⟩] := by rfl
  have hb₁ : Text.Bare "min:3".toList := Text.bare_trim "min:3".toList
  have hb₂ : Text.Bare "max:6|in:2,7".toList := Text.bare_trim "max:6|in:2,7".toList
  obtain ⟨hp, hscalar, hsequence⟩ :=
    g.outcome_join h₁ h₂ (by simp) (by simp) hb₁ hb₂
  refine ⟨hp, hscalar "Paper" "marks" [] [] (.int 8) ?_ ?_, by decide +kernel,
    hsequence "Paper" "marks" [] [] _ ?_⟩
  · exact Kind.noConfusion
  · exact Kind.noConfusion
  · simp [Value.kind]

end Registry

end FieldRules
