import Mathlib.Tactic.SplitIfs
import FieldRules.Text.Json
import FieldRules.Proofs.Pieces

/-!
The grammar of compact JSON, as far as texts, objects of texts and arrays of such objects go: what
stands at the beginning of a text, and what is left behind it. Main statement: at most one thing can
be read, so nothing that is written can be taken for something else.
-/

set_option autoImplicit false

namespace FieldRules.Text.Json

/-- What is read at the beginning of a text is unique, and so is what is left. -/
def Unambiguous {α : Type} (Reads : List Char → α → List Char → Prop) : Prop :=
  ∀ ⦃t a b rest rest'⦄, Reads t a rest → Reads t b rest' → a = b ∧ rest = rest'

def hexValue? (c : Char) : Option Nat :=
  if '0' ≤ c ∧ c ≤ '9' then some (c.toNat - 0x30)
  else if 'a' ≤ c ∧ c ≤ 'f' then some (c.toNat - 0x57)
  else if 'A' ≤ c ∧ c ≤ 'F' then some (c.toNat - 0x37)
  else none

theorem hexValue?_hexDigit : ∀ n < 16, hexValue? (hexDigit n) = some n := by decide

/-- The unit of sixteen bits that four hexadecimal digits denote. -/
def unit? (w x y z : Char) : Option Nat :=
  match hexValue? w, hexValue? x, hexValue? y, hexValue? z with
  | some a, some b, some c, some d => some (0x1000 * a + 0x100 * b + 0x10 * c + d)
  | _, _, _, _ => none

theorem unit?_hexDigit {n : Nat} (h : n < 0x100) :
    unit? '0' '0' (hexDigit (n / 16)) (hexDigit (n % 16)) = some n := by
  have hzero : hexValue? '0' = some 0 := by decide
  rw [unit?, hexValue?_hexDigit (n / 16) (by omega), hexValue?_hexDigit (n % 16) (by omega), hzero]
  simp only [Option.some.injEq]
  omega

def shortForms : List (Char × Char) :=
  [('"', '"'), ('\\', '\\'), ('/', '/'), ('b', '\x08'), ('f', '\x0c'), ('n', '\n'), ('r', '\r'),
    ('t', '\t')]

/-- One character inside a string. Those beyond the sixteen-bit units take a pair of them. -/
inductive ReadsChar : List Char → Char → List Char → Prop where
  | plain {c : Char} (hc : 0x20 ≤ c.toNat) (hq : c ≠ '"') (hb : c ≠ '\\') (rest : List Char) :
      ReadsChar (c :: rest) c rest
  | short {e c : Char} (h : shortForms.lookup e = some c) (rest : List Char) :
      ReadsChar ('\\' :: e :: rest) c rest
  | code {w x y z c : Char} (h : unit? w x y z = some c.toNat) (rest : List Char) :
      ReadsChar ('\\' :: 'u' :: w :: x :: y :: z :: rest) c rest
  | pair {w x y z w' x' y' z' c : Char} {high low : Nat} (hlow : low < 0x400)
      (h : unit? w x y z = some (0xD800 + high)) (h' : unit? w' x' y' z' = some (0xDC00 + low))
      (hc : c.toNat = 0x10000 + 0x400 * high + low) (rest : List Char) :
      ReadsChar ('\\' :: 'u' :: w :: x :: y :: z :: '\\' :: 'u' :: w' :: x' :: y' :: z' :: rest) c
        rest

inductive ReadsChars : List Char → List Char → List Char → Prop where
  | close (rest : List Char) : ReadsChars ('"' :: rest) [] rest
  | char {c : Char} {s t t' rest : List Char} (h : ReadsChar t c t')
      (hs : ReadsChars t' s rest) : ReadsChars t (c :: s) rest

inductive ReadsString : List Char → String → List Char → Prop where
  | intro {s : String} {t rest : List Char} (h : ReadsChars t s.toList rest) :
      ReadsString ('"' :: t) s rest

inductive ReadsMember : List Char → String × String → List Char → Prop where
  | intro {name s : String} {t t' rest : List Char} (hn : ReadsString t name (':' :: t'))
      (hs : ReadsString t' s rest) : ReadsMember t (name, s) rest

section Group

variable {α : Type} (Reads : List Char → α → List Char → Prop) (first last : Char)

inductive ReadsItems : List Char → List α → List Char → Prop where
  | last {a : α} {t rest : List Char} (h : Reads t a (last :: rest)) : ReadsItems t [a] rest
  | cons {a : α} {as : List α} {t t' rest : List Char} (h : Reads t a (',' :: t'))
      (hs : ReadsItems t' as rest) : ReadsItems t (a :: as) rest

inductive ReadsGroup : List Char → List α → List Char → Prop where
  | empty (rest : List Char) : ReadsGroup (first :: last :: rest) [] rest
  | items {as : List α} {t rest : List Char} (h : ReadsItems Reads last t as rest) :
      ReadsGroup (first :: t) as rest

end Group

def ReadsObject : List Char → List (String × String) → List Char → Prop :=
  ReadsGroup ReadsMember '\x7b' '\x7d'

def ReadsArray : List Char → List (List (String × String)) → List Char → Prop :=
  ReadsGroup ReadsObject '[' ']'

theorem toNat_ne_surrogate (c : Char) {n : Nat} (h : n < 0x400) : c.toNat ≠ 0xD800 + n := by
  have hv : c.toNat < 0xD800 ∨ 0xDFFF < c.toNat ∧ c.toNat < 0x110000 := c.valid
  omega

theorem lookup_shortForms_u : shortForms.lookup 'u' = none := by decide

theorem char_eq_of_unit? {w x y z c d : Char} (hc : unit? w x y z = some c.toNat)
    (hd : unit? w x y z = some d.toNat) : c = d := by
  rw [hc, Option.some.injEq] at hd
  exact Char.toNat_inj.mp hd

theorem unit?_ne_surrogate {w x y z c d : Char} {high low : Nat} (hc : unit? w x y z = some c.toNat)
    (h : unit? w x y z = some (0xD800 + high)) (hd : d.toNat = 0x10000 + 0x400 * high + low) :
    False := by
  rw [hc, Option.some.injEq] at h
  have hrange : d.toNat < 0x110000 := d.valid.elim (fun hv => Nat.lt_trans hv (by decide)) And.right
  exact toNat_ne_surrogate c (by omega) h

theorem unambiguous_readsChar : Unambiguous ReadsChar := by
  intro t a b rest rest' ha hb
  -- the first two characters tell the forms apart, but for a code and a pair
  cases ha with
  | plain _ _ hne =>
    cases hb with
    | plain => exact ⟨rfl, rfl⟩
    | _ => exact absurd rfl hne
  | short h =>
    cases hb with
    | plain _ _ hne => exact absurd rfl hne
    | short h' => exact ⟨Option.some.inj (h.symm.trans h'), rfl⟩
    | _ => simp [lookup_shortForms_u] at h
  | code h =>
    cases hb with
    | plain _ _ hne => exact absurd rfl hne
    | short h' => simp [lookup_shortForms_u] at h'
    | code h' => exact ⟨char_eq_of_unit? h h', rfl⟩
    | pair _ h' _ hb => exact (unit?_ne_surrogate h h' hb).elim
  | pair _ h hl ha =>
    cases hb with
    | plain _ _ hne => exact absurd rfl hne
    | short h' => simp [lookup_shortForms_u] at h'
    | code h' => exact (unit?_ne_surrogate h' h ha).elim
    | pair _ h' hl' hb =>
      refine ⟨Char.toNat_inj.mp ?_, rfl⟩
      rw [h, Option.some.injEq] at h'
      rw [hl, Option.some.injEq] at hl'
      omega

theorem not_readsChar_mark (t : List Char) (c : Char) (rest : List Char) :
    ¬ ReadsChar ('"' :: t) c rest := by
  intro h
  cases h with
  | plain _ hq => exact hq rfl

theorem unambiguous_readsChars : Unambiguous ReadsChars := by
  intro t a b rest rest' ha hb
  -- on how the first text was read, whatever the second was read as
  induction ha generalizing b with
  | close rest =>
    cases hb with
    | close => exact ⟨rfl, rfl⟩
    | char h => exact (not_readsChar_mark _ _ _ h).elim
  | char h _ ih =>
    cases hb with
    | close => exact (not_readsChar_mark _ _ _ h).elim
    | char h' hs' =>
      obtain ⟨rfl, rfl⟩ := unambiguous_readsChar h h'
      obtain ⟨rfl, rfl⟩ := ih hs'
      exact ⟨rfl, rfl⟩

theorem unambiguous_readsString : Unambiguous ReadsString := by
  rintro _ a b rest rest' ⟨h⟩ ⟨h'⟩
  obtain ⟨hs, rfl⟩ := unambiguous_readsChars h h'
  exact ⟨String.toList_inj.mp hs, rfl⟩

theorem unambiguous_readsMember : Unambiguous ReadsMember := by
  rintro t _ _ rest rest' ⟨hn, hs⟩ ⟨hn', hs'⟩
  obtain ⟨rfl, ht⟩ := unambiguous_readsString hn hn'
  obtain rfl := (List.cons.inj ht).2
  obtain ⟨rfl, rfl⟩ := unambiguous_readsString hs hs'
  exact ⟨rfl, rfl⟩

section Group

variable {α : Type} {Reads : List Char → α → List Char → Prop} {first last : Char}

theorem unambiguous_readsItems (hone : Unambiguous Reads) (hlast : last ≠ ',') :
    Unambiguous (ReadsItems Reads last) := by
  intro t as bs rest rest' ha hb
  induction ha generalizing bs with
  | last h =>
    cases hb with
    | last h' =>
      obtain ⟨rfl, ht⟩ := hone h h'
      exact ⟨rfl, (List.cons.inj ht).2⟩
    | cons h' => exact absurd (List.cons.inj (hone h h').2).1 hlast
  | cons h _ ih =>
    cases hb with
    | last h' => exact absurd (List.cons.inj (hone h' h).2).1 hlast
    | cons h' hs' =>
      obtain ⟨rfl, ht⟩ := hone h h'
      obtain rfl := (List.cons.inj ht).2
      obtain ⟨rfl, rfl⟩ := ih hs'
      exact ⟨rfl, rfl⟩

theorem unambiguous_readsGroup (hone : Unambiguous Reads) (hlast : last ≠ ',')
    (hmark : ∀ t a rest, ¬ Reads (last :: t) a rest) :
    Unambiguous (ReadsGroup Reads first last) := by
  have hempty : ∀ t as rest, ¬ ReadsItems Reads last (last :: t) as rest := by
    intro t as rest h
    cases h with
    | last h => exact hmark _ _ _ h
    | cons h => exact hmark _ _ _ h
  intro t as bs rest rest' ha hb
  cases ha with
  | empty =>
    cases hb with
    | empty => exact ⟨rfl, rfl⟩
    | items h => exact (hempty _ _ _ h).elim
  | items h =>
    cases hb with
    | empty => exact (hempty _ _ _ h).elim
    | items h' => exact unambiguous_readsItems hone hlast h h'

end Group

theorem unambiguous_readsObject : Unambiguous ReadsObject := by
  refine unambiguous_readsGroup unambiguous_readsMember (by decide) ?_
  rintro t _ rest ⟨hn, -⟩
  nomatch hn

theorem unambiguous_readsArray : Unambiguous ReadsArray := by
  refine unambiguous_readsGroup unambiguous_readsObject (by decide) ?_
  rintro t _ rest h
  nomatch h

theorem readsChar_escape (c : Char) (rest : List Char) : ReadsChar (escape c ++ rest) c rest := by
  unfold escape
  split_ifs with hq hb h8 h9 h10 h12 h13 hc
  · exact .short (by rw [hq]; decide) rest
  · exact .short (by rw [hb]; decide) rest
  · exact .short (by rw [h8]; decide) rest
  · exact .short (by rw [h9]; decide) rest
  · exact .short (by rw [h10]; decide) rest
  · exact .short (by rw [h12]; decide) rest
  · exact .short (by rw [h13]; decide) rest
  · exact .code (unit?_hexDigit (by omega)) rest
  · exact .plain (Nat.le_of_not_lt hc) hq hb rest

theorem readsChars_flatMap_escape (s rest : List Char) :
    ReadsChars (s.flatMap escape ++ '"' :: rest) s rest := by
  induction s with
  | nil => exact .close rest
  | cons c s ih =>
    rw [List.flatMap_cons, List.append_assoc]
    exact .char (readsChar_escape c _) ih

theorem readsString_quote (s : String) (rest : List Char) :
    ReadsString (quote s ++ rest) s rest := by
  have h := readsChars_flatMap_escape s.toList rest
  simpa only [quote, List.cons_append, List.append_assoc, List.nil_append] using
    ReadsString.intro h

theorem readsMember_member (m : String × String) (rest : List Char) :
    ReadsMember (member m ++ rest) m rest := by
  rw [member, List.append_assoc, List.cons_append]
  exact .intro (readsString_quote m.1 _) (readsString_quote m.2 rest)

section Group

variable {α : Type} {Reads : List Char → α → List Char → Prop} {write : α → List Char}

theorem readsItems_joined (hwrite : ∀ a rest, Reads (write a ++ rest) a rest) (last : Char)
    {as : List α} (hne : as ≠ []) (rest : List Char) :
    ReadsItems Reads last (joined ',' (as.map write) ++ last :: rest) as rest := by
  induction as with
  | nil => exact absurd rfl hne
  | cons a as ih =>
    cases as with
    | nil => exact .last (hwrite a _)
    | cons b as =>
      have htail := ih (List.cons_ne_nil b as)
      rw [List.map_cons, joined_cons ',' (write a) (by simp), List.append_assoc, List.cons_append]
      exact .cons (hwrite a _) htail

theorem readsGroup_joined (hwrite : ∀ a rest, Reads (write a ++ rest) a rest) (first last : Char)
    (as : List α) (rest : List Char) :
    ReadsGroup Reads first last (first :: (joined ',' (as.map write) ++ last :: rest)) as rest := by
  cases as with
  | nil => exact .empty rest
  | cons a as => exact .items (readsItems_joined hwrite last (List.cons_ne_nil a as) rest)

end Group

theorem readsObject_object (ms : List (String × String)) (rest : List Char) :
    ReadsObject (object ms ++ rest) ms rest := by
  rw [object, List.append_assoc, List.cons_append, List.singleton_append]
  exact readsGroup_joined readsMember_member '\x7b' '\x7d' ms rest

theorem readsArray_array (os : List (List (String × String))) (rest : List Char) :
    ReadsArray (array os ++ rest) os rest := by
  rw [array, List.append_assoc, List.cons_append, List.singleton_append]
  exact readsGroup_joined readsObject_object '[' ']' os rest

/-- Texts without control characters, which fit on one line. -/
def OneLine (t : List Char) : Prop := ∀ c ∈ t, 0x20 ≤ c.toNat

instance (t : List Char) : Decidable (OneLine t) := List.decidableBAll _ t

theorem oneLine_cons {c : Char} {t : List Char} :
    OneLine (c :: t) ↔ 0x20 ≤ c.toNat ∧ OneLine t := List.forall_mem_cons

theorem oneLine_append {s t : List Char} : OneLine (s ++ t) ↔ OneLine s ∧ OneLine t :=
  List.forall_mem_append

theorem space_le_hexDigit : ∀ n < 16, 0x20 ≤ (hexDigit n).toNat := by decide

theorem oneLine_escape (c : Char) : OneLine (escape c) := by
  unfold escape
  split_ifs with _ _ _ _ _ _ _ hc
  any_goals decide
  · have hhigh := space_le_hexDigit (c.toNat / 16) (by omega)
    have hlow := space_le_hexDigit (c.toNat % 16) (by omega)
    simp only [oneLine_cons]
    exact ⟨by decide, by decide, by decide, by decide, hhigh, hlow, by decide⟩
  · exact oneLine_cons.mpr ⟨Nat.le_of_not_lt hc, by decide⟩

theorem oneLine_quote (s : String) : OneLine (quote s) := by
  rw [quote, List.cons_append, oneLine_cons, oneLine_append]
  refine ⟨by decide, fun c hc => ?_, by decide⟩
  obtain ⟨d, -, hd⟩ := List.mem_flatMap.mp hc
  exact oneLine_escape d c hd

theorem oneLine_joined {ts : List (List Char)} (h : ∀ t ∈ ts, OneLine t) :
    OneLine (joined ',' ts) := by
  induction ts with
  | nil => exact List.forall_mem_nil _
  | cons t ts ih =>
    rw [List.forall_mem_cons] at h
    by_cases hts : ts = []
    · rw [hts]
      exact h.1
    · rw [joined_cons ',' t hts, oneLine_append, oneLine_cons]
      exact ⟨h.1, by decide, ih h.2⟩

theorem oneLine_member (m : String × String) : OneLine (member m) := by
  rw [member, oneLine_append, oneLine_cons]
  exact ⟨oneLine_quote _, by decide, oneLine_quote _⟩

theorem oneLine_object (ms : List (String × String)) : OneLine (object ms) := by
  rw [object, List.cons_append, oneLine_cons, oneLine_append]
  exact ⟨by decide, oneLine_joined (List.forall_mem_map.mpr fun m _ => oneLine_member m),
    by decide⟩

theorem oneLine_array (os : List (List (String × String))) : OneLine (array os) := by
  rw [array, List.cons_append, oneLine_cons, oneLine_append]
  exact ⟨by decide, oneLine_joined (List.forall_mem_map.mpr fun o _ => oneLine_object o),
    by decide⟩

end FieldRules.Text.Json
