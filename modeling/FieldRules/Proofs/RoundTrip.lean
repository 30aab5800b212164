import FieldRules.Proofs.FirstFlaw

/-!
Tags and lists of rules undo each other. Main statement: a list of rules that can be written as a
tag is read back from it, the tag of the rules that were read is the trimmed tag but for the two
spellings of the marker, and no other lists are ever read.
-/

set_option autoImplicit false

namespace FieldRules

namespace Rule

/-- A piece with the marker in its short form. -/
def short (p : List Char) : List Char :=
  if p = nestedName.toList ++ [':'] then nestedName.toList else p

theorem short_ne_nil {p : List Char} (h : p ≠ []) : short p ≠ [] := by
  unfold short
  split
  · decide
  · exact h

theorem not_mem_short {p : List Char} (h : '|' ∉ p) : '|' ∉ short p := by
  unfold short
  split
  · decide
  · exact h

theorem head?_short (p : List Char) : (short p).head? = p.head? := by
  unfold short
  split
  · rename_i h
    rw [h]
    rfl
  · rfl

theorem isBlank_of_mem_getLast?_short {p : List Char}
    (h : ∀ c ∈ p.getLast?, Text.isBlank c = false) :
    ∀ c ∈ (short p).getLast?, Text.isBlank c = false := by
  unfold short
  split
  · have hd : nestedName.toList.getLast? = some 'd' := by rfl
    simp [hd, Text.isBlank]
  · exact h

theorem render_nested : nested.render = nestedName.toList := if_pos rfl

theorem render_of_ne {r : Rule} (h : r ≠ nested) :
    r.render = r.name.toList ++ ':' :: r.condition.toList := if_neg h

theorem Written.short_eq {p : List Char} {r : Rule} (h : Written p r) : short p = r.render := by
  cases h with
  | nested => rw [render_nested]; decide
  | @pair name condition hn hc =>
    have hlong : name ++ ':' :: condition = nestedName.toList ++ [':'] ↔
        Rule.mk (String.ofList name) (String.ofList condition) = Rule.nested := by
      rw [List.append_cons_inj_of_notMem hn hc]
      simp [Rule.nested, ← String.toList_inj]
    by_cases h : Rule.mk (String.ofList name) (String.ofList condition) = Rule.nested
    · rw [short, if_pos (hlong.mpr h), h, render_nested]
    · rw [short, if_neg (mt hlong.mp h), render_of_ne h]
      simp

theorem Plain.written {r : Rule} (h : r.Plain) : Written r.render r := by
  by_cases hr : r = nested
  · rw [hr, render_nested]
    exact .nested
  · rw [render_of_ne hr]
    have hn : ':' ∉ r.name.toList := fun hm => (h _ (List.mem_append_left _ hm)).1 rfl
    have hc : ':' ∉ r.condition.toList := fun hm => (h _ (List.mem_append_right _ hm)).1 rfl
    simpa using Written.pair hn hc

theorem Plain.not_mem_render {r : Rule} (h : r.Plain) : '|' ∉ r.render := by
  by_cases hr : r = nested
  · rw [hr, render_nested]
    decide
  · rw [render_of_ne hr]
    intro hm
    rcases List.mem_append.mp hm with hm | hm
    · exact (h _ (List.mem_append_left _ hm)).2 rfl
    · rcases List.mem_cons.mp hm with hm | hm
      · contradiction
      · exact (h _ (List.mem_append_right _ hm)).2 rfl

theorem Plain.written_of_short {p : List Char} {r : Rule} (h : r.Plain)
    (hp : short p = r.render) : Written p r := by
  unfold short at hp
  split at hp
  · rename_i hlong
    have hr : r = nested := by
      by_contra hr
      rw [render_of_ne hr] at hp
      have hm : ':' ∈ nestedName.toList := by simp [hp]
      exact absurd hm (by decide)
    rw [hlong, hr]
    exact .pair (by decide) (by decide)
  · exact hp ▸ h.written

end Rule

namespace Text

variable {sep : Char} {ps : List (List Char)}

theorem head?_joined (h : ∀ p ∈ ps, p ≠ []) :
    (joined sep ps).head? = ps.head?.bind List.head? := by
  cases ps with
  | nil => rfl
  | cons p ps =>
    cases ps with
    | nil => rfl
    | cons q ps => exact List.head?_append_of_ne_nil p (h p (List.mem_cons_self ..))

theorem joined_ne_nil (hp : ps ≠ []) (h : ∀ p ∈ ps, p ≠ []) : joined sep ps ≠ [] := by
  cases ps with
  | nil => contradiction
  | cons p ps =>
    have hne := h p (List.mem_cons_self ..)
    cases ps with
    | nil => exact hne
    | cons q ps => simp [joined]

theorem getLast?_joined (h : ∀ p ∈ ps, p ≠ []) :
    (joined sep ps).getLast? = ps.getLast?.bind List.getLast? := by
  induction ps with
  | nil => rfl
  | cons p ps ih =>
    cases ps with
    | nil => rfl
    | cons q ps =>
      have hq : ∀ p' ∈ q :: ps, p' ≠ [] := fun p' hp => h p' (List.mem_cons_of_mem p hp)
      have hj : joined sep (q :: ps) ≠ [] := joined_ne_nil (List.cons_ne_nil q ps) hq
      rw [joined_cons sep p (List.cons_ne_nil q ps), List.getLast?_append_cons,
        List.getLast?_cons_of_ne_nil hj, ih hq, List.getLast?_cons_cons]

end Text

namespace Tag

/-- A trimmed tag with every marker in its short form. -/
def shortened (tag : String) : List Char := Text.joined '|' ((segments tag).map Rule.short)

/-- A list of rules that has a written form: its tag is bare and has no separators but its own. -/
structure Writable (rs : List Rule) : Prop where
  ne_nil : rs ≠ []
  plain : ∀ r ∈ rs, r.Plain
  bare : Text.Bare (render rs).toList

theorem toList_render (rs : List Rule) :
    (render rs).toList = Text.joined '|' (rs.map Rule.render) := String.toList_ofList

theorem map_render_eq {ps : List (List Char)} {rs : List Rule}
    (h : List.Forall₂ Rule.Written ps rs) : rs.map Rule.render = ps.map Rule.short := by
  induction h with
  | nil => rfl
  | cons hw _ ih => rw [List.map_cons, List.map_cons, hw.short_eq, ih]

theorem render_eq_shortened {tag : String} {rs : List Rule} (h : parse tag = .ok rs) :
    (render rs).toList = shortened tag := by
  rw [toList_render, shortened]
  by_cases ht : trimmed tag = []
  · cases (parse_of_blank ht).symm.trans h
    rw [segments, ht]
    rfl
  · rw [parse_of_not_blank ht, parsePieces_eq_ok_iff] at h
    rw [map_render_eq h]

theorem eq_nil_iff_of_parse {tag : String} {rs : List Rule} (h : parse tag = .ok rs) :
    rs = [] ↔ trimmed tag = [] := by
  constructor
  · rintro rfl
    by_contra ht
    rw [parse_of_not_blank ht, parsePieces_eq_ok_iff, List.forall₂_nil_right_iff] at h
    exact Text.pieces_ne_nil _ _ h
  · intro ht
    cases (parse_of_blank ht).symm.trans h
    rfl

theorem bare_joined_short {ps : List (List Char)} (hp : ∀ p ∈ ps, p ≠ [])
    (h : Text.Bare (Text.joined '|' ps)) : Text.Bare (Text.joined '|' (ps.map Rule.short)) := by
  have hs : ∀ p ∈ ps.map Rule.short, p ≠ [] := by
    intro p hm
    obtain ⟨q, hq, rfl⟩ := List.mem_map.mp hm
    exact Rule.short_ne_nil (hp q hq)
  -- no piece is empty, so the ends of the whole are ends of its outer pieces
  obtain ⟨hh, hl⟩ := h
  rw [Text.head?_joined hp] at hh
  rw [Text.getLast?_joined hp] at hl
  constructor
  · rw [Text.head?_joined hs, List.head?_map]
    cases hfirst : ps.head? with
    | none => simp
    | some p =>
      rw [hfirst] at hh
      rw [Option.map_some, Option.bind_some, Rule.head?_short]
      exact hh
  · rw [Text.getLast?_joined hs, List.getLast?_map]
    cases hlast : ps.getLast? with
    | none => simp
    | some p =>
      rw [hlast] at hl
      exact Rule.isBlank_of_mem_getLast?_short hl

theorem writable_of_parse {tag : String} {rs : List Rule} (h : parse tag = .ok rs)
    (hr : rs ≠ []) : Writable rs := by
  refine ⟨hr, plain_of_parse h, ?_⟩
  rw [render_eq_shortened h]
  have ht : trimmed tag ≠ [] := mt (eq_nil_iff_of_parse h).mpr hr
  rw [parse_of_not_blank ht, parsePieces_eq_ok_iff] at h
  have hne := h.imp fun _ _ hw => And.intro hw.ne_nil hw
  refine bare_joined_short ((List.forall₂_and_left _ _).mp hne).1 ?_
  rw [joined_segments]
  exact Text.bare_trim _

theorem not_mem_of_mem_map_render {rs : List Rule} (h : ∀ r ∈ rs, r.Plain) :
    ∀ p ∈ rs.map Rule.render, '|' ∉ p := by
  intro p hp
  obtain ⟨r, hr, rfl⟩ := List.mem_map.mp hp
  exact (h r hr).not_mem_render

theorem parse_render_of_writable {rs : List Rule} (h : Writable rs) :
    parse (render rs) = .ok rs := by
  have hw : List.Forall₂ Rule.Written (rs.map Rule.render) rs := by
    rw [List.forall₂_map_left_iff, List.forall₂_same]
    exact fun r hr => (h.plain r hr).written
  refine parse_eq_ok_iff.mpr (.rules ?_ ?_ (not_mem_of_mem_map_render h.plain) hw)
  · simpa using h.ne_nil
  · rw [Text.trim_of_bare h.bare, toList_render]

theorem pieces_shortened (tag : String) :
    Text.pieces '|' (shortened tag) = (segments tag).map Rule.short := by
  apply Text.pieces_joined
  · simpa using segments_ne_nil tag
  · intro p hp
    obtain ⟨q, hq, rfl⟩ := List.mem_map.mp hp
    exact Rule.not_mem_short (not_mem_of_mem_segments hq)

theorem written_of_map_eq {ps : List (List Char)} {rs : List Rule}
    (h : ps.map Rule.short = rs.map Rule.render) (hp : ∀ r ∈ rs, r.Plain) :
    List.Forall₂ Rule.Written ps rs := by
  induction rs generalizing ps with
  | nil =>
    rw [List.map_eq_nil_iff.mp h]
    exact .nil
  | cons r rs ih =>
    obtain ⟨p, ps, rfl, hr, hrs⟩ := List.map_eq_cons_iff.mp h
    rw [List.forall_mem_cons] at hp
    exact .cons (hp.1.written_of_short hr) (ih hrs hp.2)

theorem parse_eq_iff_shortened {tag tag' : String} {rs : List Rule} (h : parse tag = .ok rs) :
    parse tag' = .ok rs ↔ shortened tag' = shortened tag := by
  constructor
  · intro h'
    rw [← render_eq_shortened h, ← render_eq_shortened h']
  · intro he
    rw [← render_eq_shortened h, toList_render] at he
    have hp := pieces_shortened tag'
    rw [he] at hp
    by_cases hr : rs = []
    · subst hr
      obtain ⟨p, hps, hs⟩ := List.map_eq_singleton_iff.mp hp.symm
      have hnil : p = [] := by
        by_contra hne
        exact Rule.short_ne_nil hne hs
      apply parse_of_blank
      rw [← joined_segments tag', hps, hnil]
      rfl
    · have hw := writable_of_parse h hr
      rw [Text.pieces_joined (by simpa using hr) (not_mem_of_mem_map_render hw.plain)] at hp
      have hs : ∀ p ∈ segments tag', '|' ∉ p := fun _ hm => not_mem_of_mem_segments hm
      exact parse_eq_ok_iff.mpr (.rules (segments_ne_nil tag') (joined_segments tag').symm hs
        (written_of_map_eq hp.symm hw.plain))

/-- Writing and reading rules are inverse, up to the blanks around a tag and the spelling of the
marker, and the lists that can be read are those that can be written. -/
theorem parse_render (tag : String) (rs : List Rule) :
    (Writable rs → parse (render rs) = .ok rs) ∧
    (parse tag = .ok rs →
      (render rs).toList = shortened tag ∧
      (rs = [] ↔ trimmed tag = []) ∧
      ∀ tag', parse tag' = .ok rs ↔ shortened tag' = shortened tag) ∧
    (rs ≠ [] → ((∃ t, parse t = .ok rs) ↔ Writable rs)) := by
  refine ⟨parse_render_of_writable, ?_, ?_⟩
  · intro h
    exact ⟨render_eq_shortened h, eq_nil_iff_of_parse h, fun tag' => parse_eq_iff_shortened h⟩
  · intro hr
    constructor
    · rintro ⟨t, ht⟩
      exact writable_of_parse ht hr
    · intro hw
      exact ⟨render rs, parse_render_of_writable hw⟩

example : parse "nested:|len: 3" = parse " nested|len: 3\n" := by rfl

end Tag

end FieldRules
