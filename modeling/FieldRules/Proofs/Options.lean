import FieldRules.Declaration.Options
import Mathlib.Data.List.Basic

/-!
What the attributes of a field come to. Main statement: they give options exactly if each that is
for options is a list of known items, with one tag and one name at most, and a name that is not
empty. Otherwise the first offence is the error. So other attributes do not count, and the items of
a list may as well stand in several.
-/

set_option autoImplicit false

namespace FieldRules

namespace AttributeItem

def tag? : AttributeItem → Option String
  | bare text => some text
  | keyed key text => if key = "rules" then some text else none

def name? : AttributeItem → Option String
  | bare _ => none
  | keyed key text => if key = "name" then some text else none

def Known (i : AttributeItem) : Prop := i.tag?.isSome = true ∨ i.name?.isSome = true

end AttributeItem

namespace Attribute

def items (a : Attribute) : List AttributeItem :=
  match a.form with
  | .list items => if a.path = optionsPath then items else []
  | _ => []

def tags (as : List Attribute) : List String := (as.flatMap items).filterMap AttributeItem.tag?

def names (as : List Attribute) : List String := (as.flatMap items).filterMap AttributeItem.name?

end Attribute

theorem eq_toList_iff {α : Type} {l : List α} {x : Option α} :
    l = x.toList ↔ l.length ≤ 1 ∧ x = l.head? := by
  match l with
  | [] => cases x <;> simp
  | [a] => cases x <;> simp [eq_comm]
  | a :: b :: l => cases x <;> simp

theorem exists_toList_eq {α : Type} {l l' : List α} {x : Option α} (h : l ++ l' = x.toList) :
    ∃ y : Option α, y.toList = l := by
  have hlen := (eq_toList_iff.mp h).1
  rw [List.length_append] at hlen
  have hl : l.length ≤ 1 := by omega
  exact ⟨l.head?, (eq_toList_iff.mpr ⟨hl, rfl⟩).symm⟩

theorem isSome_iff_of_filterMap {α β : Type} {f : α → Option β} {l : List α} {x : Option β}
    (h : l.filterMap f = x.toList) : x.isSome = true ↔ ∃ a ∈ l, (f a).isSome = true := by
  have hx : x.isSome = true ↔ x.toList ≠ [] := by cases x <;> simp
  rw [hx, ← h, ne_eq, List.filterMap_eq_nil_iff]
  simp [Option.isSome_iff_ne_none]

namespace FieldOptions

variable {o o' : FieldOptions} {text : String} {e : DeclarationError}

theorem eq_iff_toList :
    o = o' ↔ o.tag.toList = o'.tag.toList ∧ o.name.toList = o'.name.toList := by
  obtain ⟨tag, name⟩ := o
  obtain ⟨tag', name'⟩ := o'
  cases tag <;> cases tag' <;> cases name <;> cases name' <;> simp

theorem setTag_eq_ok_iff :
    o.setTag text = .ok o' ↔
      o.tag.toList ++ [text] = o'.tag.toList ∧ o.name.toList = o'.name.toList := by
  rw [setTag]
  cases o.tag with
  | some tag => cases o'.tag <;> simp
  | none => simp [eq_iff_toList]

theorem setName_eq_ok_iff :
    o.setName text = .ok o' ↔
      text ≠ "" ∧ o.tag.toList = o'.tag.toList ∧ o.name.toList ++ [text] = o'.name.toList := by
  rw [setName]
  cases o.name with
  | some name => cases o'.name <;> simp
  | none => by_cases h : text = "" <;> simp [h, eq_iff_toList]

theorem setTag_eq_error_iff :
    o.setTag text = .error e ↔ o.tag.isSome = true ∧ e = .duplicateTag := by
  rw [setTag]
  cases o.tag <;> simp [eq_comm]

theorem setName_eq_error_iff :
    o.setName text = .error e ↔
      o.name.isSome = true ∧ e = .duplicateName ∨ o.name = .none ∧ text = "" ∧ e = .emptyName := by
  rw [setName]
  by_cases h : text = "" <;> cases o.name <;> simp [h, eq_comm]

end FieldOptions

namespace Mark

def tag? : Mark → Option String
  | item i => i.tag?
  | misuse => none

def name? : Mark → Option String
  | item i => i.name?
  | misuse => none

def Known (m : Mark) : Prop := m.tag?.isSome = true ∨ m.name?.isSome = true

/-- What is wrong with a mark that comes after others. -/
inductive Offends (before : List Mark) : Mark → DeclarationError → Prop where
  | misuse : Offends before misuse .misusedAttribute
  | duplicateTag {m : Mark} (h : m.tag?.isSome = true) (hb : ∃ n ∈ before, n.tag?.isSome = true) :
      Offends before m .duplicateTag
  | duplicateName {m : Mark} (h : m.name?.isSome = true)
      (hb : ∃ n ∈ before, n.name?.isSome = true) : Offends before m .duplicateName
  | emptyName {m : Mark} (h : m.name? = some "") (hb : ∀ n ∈ before, n.name? = none) :
      Offends before m .emptyName
  | unknownKey {key text : String} (hr : key ≠ "rules") (hn : key ≠ "name") :
      Offends before (item (.keyed key text)) (.unknownKey key)

/-- No mark is an offence where it stands. -/
def Faultless (ms : List Mark) : Prop :=
  ∀ before m after, ms = before ++ m :: after → ∀ e, ¬ m.Offends before e

variable {m : Mark} {ms : List Mark} {o o' : FieldOptions} {e : DeclarationError}

theorem apply_cases (m : Mark) (o : FieldOptions) :
    (∃ text, m.tag? = some text ∧ m.name? = none ∧ m.apply o = o.setTag text) ∨
    (∃ text, m.name? = some text ∧ m.tag? = none ∧ m.apply o = o.setName text) ∨
    (¬ m.Known ∧ ∃ key text, m = item (.keyed key text) ∧ key ≠ "rules" ∧ key ≠ "name" ∧
      m.apply o = .error (.unknownKey key)) ∨
    ¬ m.Known ∧ m = misuse ∧ m.apply o = .error .misusedAttribute := by
  match m with
  | item (.bare text) => exact Or.inl ⟨text, rfl, rfl, rfl⟩
  | item (.keyed key text) =>
    by_cases hr : key = "rules"
    · left
      simp [tag?, name?, AttributeItem.tag?, AttributeItem.name?, apply, hr]
    · by_cases hn : key = "name"
      · right; left
        simp [tag?, name?, AttributeItem.tag?, AttributeItem.name?, apply, hn]
      · right; right; left
        simp [Known, tag?, name?, AttributeItem.tag?, AttributeItem.name?, apply, hr, hn]
  | misuse =>
    right; right; right
    simp [Known, tag?, name?, apply]

theorem apply_of_tag? {text : String} (h : m.tag? = some text) : m.apply o = o.setTag text := by
  rcases m.apply_cases o with ⟨t, ht, -, ha⟩ | ⟨t, -, ht, -⟩ | ⟨hk, -⟩ | ⟨hk, -⟩
  · cases ht.symm.trans h
    exact ha
  · cases ht.symm.trans h
  · exact absurd (Or.inl (Option.isSome_of_eq_some h)) hk
  · exact absurd (Or.inl (Option.isSome_of_eq_some h)) hk

theorem apply_of_name? {text : String} (h : m.name? = some text) :
    m.apply o = o.setName text := by
  rcases m.apply_cases o with ⟨t, -, hn, -⟩ | ⟨t, hn, -, ha⟩ | ⟨hk, -⟩ | ⟨hk, -⟩
  · cases hn.symm.trans h
  · cases hn.symm.trans h
    exact ha
  · exact absurd (Or.inr (Option.isSome_of_eq_some h)) hk
  · exact absurd (Or.inr (Option.isSome_of_eq_some h)) hk

theorem apply_eq_ok_iff :
    m.apply o = .ok o' ↔ (m.Known ∧ m.name? ≠ some "") ∧
      o.tag.toList ++ m.tag?.toList = o'.tag.toList ∧
      o.name.toList ++ m.name?.toList = o'.name.toList := by
  rcases m.apply_cases o with ⟨text, ht, hn, ha⟩ | ⟨text, hn, ht, ha⟩ |
    ⟨hk, key, text, -, -, -, ha⟩ | ⟨hk, -, ha⟩
  · rw [ha, FieldOptions.setTag_eq_ok_iff]
    simp [Known, ht, hn]
  · rw [ha, FieldOptions.setName_eq_ok_iff]
    simp [Known, ht, hn]
  · simp [ha, hk]
  · simp [ha, hk]

theorem applyAll_eq_ok_iff :
    applyAll o ms = .ok o' ↔ (∀ m ∈ ms, m.Known ∧ m.name? ≠ some "") ∧
      o.tag.toList ++ ms.filterMap tag? = o'.tag.toList ∧
      o.name.toList ++ ms.filterMap name? = o'.name.toList := by
  induction ms generalizing o with
  | nil => simp [applyAll, FieldOptions.eq_iff_toList]
  | cons m ms ih =>
    have hstep : applyAll o (m :: ms) = .ok o' ↔
        ∃ p, m.apply o = .ok p ∧ applyAll p ms = .ok o' := by
      rw [applyAll]
      cases m.apply o <;> simp
    rw [hstep, List.forall_mem_cons, List.filterMap_eq_flatMap_toList,
      List.filterMap_eq_flatMap_toList, List.flatMap_cons, List.flatMap_cons,
      ← List.append_assoc, ← List.append_assoc]
    simp only [apply_eq_ok_iff, ih, List.filterMap_eq_flatMap_toList]
    constructor
    · intro h
      obtain ⟨p, ⟨hm, ht, hn⟩, hms, hts, hns⟩ := h
      exact ⟨⟨hm, hms⟩, ht ▸ hts, hn ▸ hns⟩
    · intro h
      obtain ⟨⟨hm, hms⟩, hts, hns⟩ := h
      -- the options in between hold what `o` and `m` state, which is no more than `o'` holds
      obtain ⟨tag, ht⟩ := exists_toList_eq hts
      obtain ⟨name, hn⟩ := exists_toList_eq hns
      exact ⟨⟨tag, name⟩, ⟨hm, ht.symm, hn.symm⟩, hms, ht ▸ hts, hn ▸ hns⟩

theorem applyAll_eq_error_iff :
    applyAll o ms = .error e ↔ ∃ before m after p, ms = before ++ m :: after ∧
      applyAll o before = .ok p ∧ m.apply p = .error e := by
  constructor
  · intro h
    induction ms generalizing o with
    | nil => contradiction
    | cons m ms ih =>
      rw [applyAll] at h
      cases hm : m.apply o with
      | error e' =>
        rw [hm] at h
        exact ⟨[], m, ms, o, rfl, rfl, hm.trans h⟩
      | ok p =>
        rw [hm] at h
        obtain ⟨before, m', after, q, rfl, hq, hm'⟩ := ih h
        refine ⟨m :: before, m', after, q, rfl, ?_, hm'⟩
        rw [applyAll, hm]
        exact hq
  · intro h
    obtain ⟨before, m, after, p, rfl, hp, hm⟩ := h
    rw [applyAll_append, hp, Except.bind, applyAll, hm]

theorem apply_eq_error_iff {before : List Mark} (h : applyAll .none before = .ok o) :
    m.apply o = .error e ↔ m.Offends before e := by
  obtain ⟨-, htags, hnames⟩ := applyAll_eq_ok_iff.mp h
  have htag := isSome_iff_of_filterMap htags
  have hname := isSome_iff_of_filterMap hnames
  constructor
  · intro ha
    rcases m.apply_cases o with ⟨text, ht, -, he⟩ | ⟨text, hn, -, he⟩ |
      ⟨-, key, text, rfl, hr, hk, he⟩ | ⟨-, rfl, he⟩
    · rw [he, FieldOptions.setTag_eq_error_iff] at ha
      obtain ⟨hs, rfl⟩ := ha
      exact .duplicateTag (Option.isSome_of_eq_some ht) (htag.mp hs)
    · rw [he, FieldOptions.setName_eq_error_iff] at ha
      rcases ha with ⟨hs, rfl⟩ | ⟨hs, rfl, rfl⟩
      · exact .duplicateName (Option.isSome_of_eq_some hn) (hname.mp hs)
      · refine .emptyName hn ?_
        intro n hmem
        by_contra hne
        have hs' := hname.mpr ⟨n, hmem, Option.isSome_iff_ne_none.mpr hne⟩
        simp [hs] at hs'
    · cases he.symm.trans ha
      exact .unknownKey hr hk
    · cases he.symm.trans ha
      exact .misuse
  · intro ho
    cases ho with
    | misuse => rfl
    | duplicateTag hm hb =>
      obtain ⟨text, hm⟩ := Option.isSome_iff_exists.mp hm
      rw [apply_of_tag? hm, FieldOptions.setTag_eq_error_iff]
      exact ⟨htag.mpr hb, rfl⟩
    | duplicateName hm hb =>
      obtain ⟨text, hm⟩ := Option.isSome_iff_exists.mp hm
      rw [apply_of_name? hm, FieldOptions.setName_eq_error_iff]
      exact Or.inl ⟨hname.mpr hb, rfl⟩
    | emptyName hm hb =>
      have hs : o.name = .none := by
        by_contra hne
        obtain ⟨n, hmem, hsome⟩ := hname.mp (Option.isSome_iff_ne_none.mpr hne)
        simp [hb n hmem] at hsome
      rw [apply_of_name? hm, FieldOptions.setName_eq_error_iff]
      exact Or.inr ⟨hs, rfl, rfl⟩
    | unknownKey hr hn => simp [apply, hr, hn]

theorem faultless_iff : Faultless ms ↔ ∃ o, applyAll .none ms = .ok o := by
  constructor
  · intro h
    cases ho : applyAll .none ms with
    | ok o => exact ⟨o, rfl⟩
    | error e =>
      obtain ⟨before, m, after, p, hs, hp, hm⟩ := applyAll_eq_error_iff.mp ho
      exact absurd ((apply_eq_error_iff hp).mp hm) (h before m after hs e)
  · intro h before m after hs e hm
    obtain ⟨o, ho⟩ := h
    cases hp : applyAll .none before with
    | ok p =>
      have he := (apply_eq_error_iff hp).mpr hm
      cases ho.symm.trans (applyAll_eq_error_iff.mpr ⟨before, m, after, p, hs, hp, he⟩)
    | error e' =>
      -- the run stops before `m`, so its error is that of `ms` as well
      obtain ⟨b, n, a, q, rfl, hq, he⟩ := applyAll_eq_error_iff.mp hp
      have hs' : ms = b ++ n :: (a ++ m :: after) := by rw [hs]; simp
      cases ho.symm.trans (applyAll_eq_error_iff.mpr ⟨b, n, _, q, hs', hq, he⟩)

theorem applyAll_none_eq_error_iff :
    applyAll .none ms = .error e ↔ ∃ before m after, ms = before ++ m :: after ∧
      Faultless before ∧ m.Offends before e := by
  rw [applyAll_eq_error_iff]
  constructor
  · intro h
    obtain ⟨before, m, after, p, hs, hp, hm⟩ := h
    exact ⟨before, m, after, hs, faultless_iff.mpr ⟨p, hp⟩, (apply_eq_error_iff hp).mp hm⟩
  · intro h
    obtain ⟨before, m, after, hs, hf, hm⟩ := h
    obtain ⟨p, hp⟩ := faultless_iff.mp hf
    exact ⟨before, m, after, p, hs, hp, (apply_eq_error_iff hp).mpr hm⟩

end Mark

namespace Attribute

theorem filterMap_marks {α : Type} {f : Mark → Option α} (hf : f .misuse = none) (a : Attribute) :
    a.marks.filterMap f = a.items.filterMap (f ∘ Mark.item) := by
  unfold marks items
  split
  · cases a.form with
    | list items => simp [List.filterMap_map]
    | path => simp [hf]
    | nameValue value => simp [hf]
  · cases a.form <;> rfl

theorem filterMap_flatMap_marks {α : Type} {f : Mark → Option α} (hf : f .misuse = none)
    (as : List Attribute) :
    (as.flatMap marks).filterMap f = (as.flatMap items).filterMap (f ∘ Mark.item) := by
  rw [List.filterMap_flatMap, List.filterMap_flatMap]
  simp only [filterMap_marks hf]

theorem flatMap_marks_filter (as : List Attribute) :
    (as.filter fun a => a.path = optionsPath).flatMap marks = as.flatMap marks := by
  induction as with
  | nil => rfl
  | cons a as ih =>
    by_cases h : a.path = optionsPath
    · simp [h, ih]
    · simp [marks, h, ih]

theorem filterMap_tag? (as : List Attribute) : (as.flatMap marks).filterMap Mark.tag? = tags as :=
  filterMap_flatMap_marks rfl as

theorem filterMap_name? (as : List Attribute) :
    (as.flatMap marks).filterMap Mark.name? = names as :=
  filterMap_flatMap_marks rfl as

theorem forall_known_iff (as : List Attribute) :
    (∀ m ∈ as.flatMap marks, m.Known) ↔
      (∀ a ∈ as, a.path = optionsPath → ∃ items, a.form = .list items) ∧
        ∀ i ∈ as.flatMap items, i.Known := by
  have hmisuse : ¬ Mark.misuse.Known := by simp [Mark.Known, Mark.tag?, Mark.name?]
  have hone (a : Attribute) : (∀ m ∈ a.marks, m.Known) ↔
      (a.path = optionsPath → ∃ items, a.form = .list items) ∧ ∀ i ∈ a.items, i.Known := by
    unfold marks items
    by_cases hp : a.path = optionsPath
    · cases a.form with
      | list items =>
        simp only [hp, if_true, List.forall_mem_map, AttributeForm.list.injEq, exists_eq',
          true_and, forall_const]
        rfl
      | path => simp [hp, hmisuse]
      | nameValue value => simp [hp, hmisuse]
    · cases a.form <;> simp [hp]
  simp only [List.forall_mem_flatMap, hone]
  exact forall₂_and

end Attribute

namespace FieldOptions

variable {as as' : List Attribute} {o : FieldOptions}

theorem ofAttributes_congr (h : as.flatMap Attribute.marks = as'.flatMap Attribute.marks) :
    ofAttributes as = ofAttributes as' := by
  rw [ofAttributes, ofAttributes, h]

theorem ofAttributes_eq_ok_iff :
    ofAttributes as = .ok o ↔
      (∀ a ∈ as, a.path = Attribute.optionsPath → ∃ items, a.form = .list items) ∧
      (∀ i ∈ as.flatMap Attribute.items, i.Known) ∧ "" ∉ Attribute.names as ∧
      Attribute.tags as = o.tag.toList ∧ Attribute.names as = o.name.toList := by
  have hnames : (∀ m ∈ as.flatMap Attribute.marks, m.name? ≠ some "") ↔
      "" ∉ Attribute.names as := by
    rw [← Attribute.filterMap_name?, List.mem_filterMap]
    simp
  rw [ofAttributes, Mark.applyAll_eq_ok_iff, Attribute.filterMap_tag?, Attribute.filterMap_name?,
    forall₂_and, Attribute.forall_known_iff, hnames]
  simp only [none, Option.toList_none, List.nil_append, and_assoc]

theorem named_ofAttributes (h : ofAttributes as = .ok o) : o.name ≠ some "" := by
  obtain ⟨-, -, hempty, -, hnames⟩ := ofAttributes_eq_ok_iff.mp h
  intro hn
  rw [hnames, hn] at hempty
  simp at hempty

/-- Options are what the items state, if there are one tag and one name at most, and else the first
offence is the error. An attribute with another path or an empty list does not count, and a list may
be cut in two. -/
theorem ofAttributes_merge (as : List Attribute) :
    (∀ o, ofAttributes as = .ok o ↔
      (∀ a ∈ as, a.path = Attribute.optionsPath → ∃ items, a.form = .list items) ∧
      (∀ i ∈ as.flatMap Attribute.items, i.Known) ∧
      (Attribute.tags as).length ≤ 1 ∧ (Attribute.names as).length ≤ 1 ∧
      "" ∉ Attribute.names as ∧
      o = ⟨(Attribute.tags as).head?, (Attribute.names as).head?⟩) ∧
    (∀ e, ofAttributes as = .error e ↔
      ∃ before m after, as.flatMap Attribute.marks = before ++ m :: after ∧
        Mark.Faultless before ∧ m.Offends before e) ∧
    ofAttributes as = ofAttributes (as.filter fun a => a.path = Attribute.optionsPath) ∧
    (∀ a bs, a.path ≠ Attribute.optionsPath ∨ a = ⟨Attribute.optionsPath, .list []⟩ →
      ofAttributes (as ++ a :: bs) = ofAttributes (as ++ bs)) ∧
    ∀ items items' bs,
      ofAttributes (as ++ ⟨Attribute.optionsPath, .list (items ++ items')⟩ :: bs) =
        ofAttributes (as ++ ⟨Attribute.optionsPath, .list items⟩ ::
          ⟨Attribute.optionsPath, .list items'⟩ :: bs) := by
  refine ⟨?_, fun e => Mark.applyAll_none_eq_error_iff, ?_, ?_, ?_⟩
  · intro o
    rw [ofAttributes_eq_ok_iff, eq_toList_iff, eq_toList_iff]
    obtain ⟨tag, name⟩ := o
    simp only [FieldOptions.mk.injEq]
    tauto
  · exact ofAttributes_congr (Attribute.flatMap_marks_filter as).symm
  · intro a bs ha
    have hm : a.marks = [] := by
      rcases ha with ha | rfl
      · exact if_neg ha
      · rfl
    apply ofAttributes_congr
    rw [List.flatMap_append, List.flatMap_append, List.flatMap_cons, hm, List.nil_append]
  · intro items items' bs
    apply ofAttributes_congr
    simp [Attribute.marks]

example : ofAttributes [⟨"doc", .path⟩,
    ⟨Attribute.optionsPath, .list [.keyed "name" "Age", .bare ""]⟩,
    ⟨Attribute.optionsPath, .list [.keyed "name" "", .keyed "rule" "len:5"]⟩] =
      .error .duplicateName := by decide

end FieldOptions

end FieldRules
