import Bulletin.Context
import Bulletin.Proofs.Value.StrictEquality

/-!
# The order of keys

Keys of one kind can be told in order: texts and dates as they are written, and numbers by what they
are exactly, a boolean among them as a number. Keys of two kinds are in no order, and neither is a
NaN with anything. Sorting gives keys in increasing order if any two of them are in order, although
the comparison that it makes is no order of all values.
-/

namespace Bulletin

/-! ### Sorting what is in order -/

/-- A list is sorted by a comparison that is transitive and total on its elements. -/
theorem pairwise_mergeSort_of_mem {α : Type} {le : α → α → Bool} {keys : List α}
    (trans : ∀ a ∈ keys, ∀ b ∈ keys, ∀ c ∈ keys, le a b → le b c → le a c)
    (total : ∀ a ∈ keys, ∀ b ∈ keys, le a b ∨ le b a) :
    (keys.mergeSort le).Pairwise fun a b => le a b := by
  -- Sorting is the same for the elements as a type of their own, where the laws hold of all.
  let within (a b : { key // key ∈ keys }) : Bool := le a.1 b.1
  have transWithin (a b c : { key // key ∈ keys }) : within a b → within b c → within a c :=
    trans a a.2 b b.2 c c.2
  have totalWithin (a b : { key // key ∈ keys }) : within a b || within b a :=
    Bool.or_eq_true_iff.mpr (total a a.2 b b.2)
  have agree : ∀ a ∈ keys.attach, ∀ b ∈ keys.attach, within a b = le a.1 b.1 :=
    fun _ _ _ _ => rfl
  have same : (keys.attach.mergeSort within).map Subtype.val = keys.mergeSort le := by
    rw [List.map_mergeSort agree, List.attach_map_subtype_val]
  rw [← same]
  exact List.pairwise_map.mpr (List.pairwise_mergeSort transWithin totalWithin keys.attach)

namespace Value

variable {a b c : Value}

/-! ### Which keys are in order -/

/-- A key comes before another one, or both are at one place. -/
inductive Precedes : Value → Value → Prop where
  | text {s t : String} (h : s ≤ t) : Precedes (.str s) (.str t)
  | date {identity identity' : Identity} {s t : String} (h : s ≤ t) :
      Precedes (.date identity s) (.date identity' t)
  | number {a b : Value} {p q : Quantity} (left : a.boolAsInt.quantity? = some p)
      (right : b.boolAsInt.quantity? = some q) (h : p.place ≤ q.place) : Precedes a b

def HasPlace (key : Value) : Prop := key.keyKind ≠ .other ∧ key ≠ .double .nan

theorem exists_quantity?_iff :
    (∃ q, a.boolAsInt.quantity? = some q) ↔ a.keyKind = .number ∧ a ≠ .double .nan := by
  cases a with
  | double x =>
    rw [← Option.isSome_iff_exists, Option.isSome_iff_ne_none]
    simp [boolAsInt, quantity?, keyKind]
  | _ => simp [boolAsInt, quantity?, keyKind]

namespace Precedes

theorem trans (hab : Precedes a b) (hbc : Precedes b c) : Precedes a c := by
  cases hab with
  | text h =>
    cases hbc with
    | text h' => exact .text (String.le_trans h h')
    | number left => cases left
  | date h =>
    cases hbc with
    | date h' => exact .date (String.le_trans h h')
    | number left => cases left
  | number left middle h =>
    cases hbc with
    | text => cases middle
    | date => cases middle
    | number middle' right h' =>
      obtain rfl := Option.some.inj (middle.symm.trans middle')
      exact .number left right (h.trans h')

theorem keyKind_eq (h : Precedes a b) : a.keyKind = b.keyKind := by
  cases h with
  | text | date => rfl
  | number left right =>
    rw [(exists_quantity?_iff.mp ⟨_, left⟩).1, (exists_quantity?_iff.mp ⟨_, right⟩).1]

theorem hasPlace (h : Precedes a b) : a.HasPlace ∧ b.HasPlace := by
  cases h with
  | text | date => simp [HasPlace, keyKind]
  | number left right =>
    obtain ⟨kind, ne_nan⟩ := exists_quantity?_iff.mp ⟨_, left⟩
    obtain ⟨kind', ne_nan'⟩ := exists_quantity?_iff.mp ⟨_, right⟩
    simp [HasPlace, kind, ne_nan, kind', ne_nan']

end Precedes

/-! ### The comparison of keys -/

/-- Numbers are compared by what they are exactly. -/
theorem numberLt_iff :
    numberLt a b ↔ ∃ p q, a.boolAsInt.quantity? = some p ∧ b.boolAsInt.quantity? = some q ∧
      p.place < q.place := by
  rw [numberLt]
  generalize a.boolAsInt = a
  generalize b.boolAsInt = b
  cases a with
  | int m =>
    cases b with
    | int n => simp [quantity?, Quantity.place]
    | double y =>
      simp only [quantity?, Double.intLt_iff, Option.some.injEq, exists_and_left,
        exists_eq_left']
    | _ => simp [quantity?]
  | double x =>
    cases b with
    | int n => simp [quantity?, Double.ltInt_iff]
    | double y => simp [quantity?, Double.lt_iff]
    | _ => simp [quantity?]
  | _ => simp [quantity?]

/-- Two keys that are in order with each other are texts, dates, or numbers. -/
theorem cases_of_hasPlace (kind : a.keyKind = b.keyKind) (ha : a.HasPlace) (hb : b.HasPlace) :
    (∃ s t, a = .str s ∧ b = .str t) ∨
      (∃ identity identity' s t, a = .date identity s ∧ b = .date identity' t) ∨
        ∃ p q, a.boolAsInt.quantity? = some p ∧ b.boolAsInt.quantity? = some q := by
  have number (h : a.keyKind = .number) :
      ∃ p q, a.boolAsInt.quantity? = some p ∧ b.boolAsInt.quantity? = some q := by
    obtain ⟨p, hp⟩ := exists_quantity?_iff.mpr ⟨h, ha.2⟩
    obtain ⟨q, hq⟩ := exists_quantity?_iff.mpr ⟨kind ▸ h, hb.2⟩
    exact ⟨p, q, hp, hq⟩
  cases a with
  | str s =>
    cases b with
    | str t => exact .inl ⟨s, t, rfl, rfl⟩
    | _ => cases kind
  | date identity s =>
    cases b with
    | date identity' t => exact .inr (.inl ⟨identity, identity', s, t, rfl, rfl⟩)
    | _ => cases kind
  | bool | int | double => exact .inr (.inr (number rfl))
  | _ => exact absurd rfl ha.1

theorem precedes_or_precedes (kind : a.keyKind = b.keyKind) (ha : a.HasPlace)
    (hb : b.HasPlace) : Precedes a b ∨ Precedes b a := by
  rcases cases_of_hasPlace kind ha hb with ⟨s, t, rfl, rfl⟩ | ⟨_, _, s, t, rfl, rfl⟩ |
    ⟨p, q, hp, hq⟩
  · exact (String.le_total s t).imp .text .text
  · exact (String.le_total s t).imp .date .date
  · exact (le_total p.place q.place).imp (.number hp hq) (.number hq hp)

theorem keyLe_of_number {p : Quantity} (h : a.boolAsInt.quantity? = some p) (b : Value) :
    keyLe a b = !numberLt b a := by
  cases a with
  | bool | int | double => rfl
  | _ => cases h

/-- The comparison of keys is their order. -/
theorem keyLe_iff (kind : a.keyKind = b.keyKind) (ha : a.HasPlace) (hb : b.HasPlace) :
    keyLe a b ↔ Precedes a b := by
  rcases cases_of_hasPlace kind ha hb with ⟨s, t, rfl, rfl⟩ | ⟨_, _, s, t, rfl, rfl⟩ |
    ⟨p, q, hp, hq⟩
  · rw [keyLe, Bool.not_eq_true', decide_eq_false_iff_not, String.not_lt]
    refine ⟨.text, fun h => ?_⟩
    cases h with
    | text h => exact h
    | number left => cases left
  · rw [keyLe, Bool.not_eq_true', decide_eq_false_iff_not, String.not_lt]
    refine ⟨.date, fun h => ?_⟩
    cases h with
    | date h => exact h
    | number left => cases left
  · have above : numberLt b a ↔ q.place < p.place := by
      simp [numberLt_iff, hp, hq]
    rw [keyLe_of_number hp, Bool.not_eq_true', ← Bool.not_eq_true, above, not_lt]
    refine ⟨.number hp hq, fun h => ?_⟩
    cases h with
    | text | date => cases hp
    | number left right h =>
      obtain rfl := Option.some.inj (hp.symm.trans left)
      obtain rfl := Option.some.inj (hq.symm.trans right)
      exact h

/-! ### Keys told in order -/

/-- Keys that are all texts, all dates or all numbers; a key by itself may be anything. -/
def OfOneKind (keys : List Value) : Prop :=
  keys.length ≤ 1 ∨ ∃ kind ≠ KeyKind.other, ∀ key ∈ keys, key.keyKind = kind

/-- Keys of one kind among which there is no NaN, if there are several. -/
def InOrder (keys : List Value) : Prop :=
  keys.length ≤ 1 ∨ ∃ kind ≠ KeyKind.other, ∀ key ∈ keys, key.keyKind = kind ∧ key ≠ .double .nan

theorem pairwise_mergeSort_keyLe {keys : List Value} (h : InOrder keys) :
    (keys.mergeSort keyLe).Pairwise Precedes := by
  rcases h with short | ⟨kind, ne_other, h⟩
  · match keys, short with
    | [], _ => simp
    | [key], _ => simp
  · have sameKind : ∀ a ∈ keys, ∀ b ∈ keys, a.keyKind = b.keyKind :=
      fun a ha b hb => (h a ha).1.trans (h b hb).1.symm
    have hasPlace : ∀ a ∈ keys, a.HasPlace := fun a ha => ⟨(h a ha).1 ▸ ne_other, (h a ha).2⟩
    have agree : ∀ a ∈ keys, ∀ b ∈ keys, (keyLe a b ↔ Precedes a b) := fun a ha b hb =>
      keyLe_iff (sameKind a ha b hb) (hasPlace a ha) (hasPlace b hb)
    have sorted : (keys.mergeSort keyLe).Pairwise fun a b => keyLe a b := by
      refine pairwise_mergeSort_of_mem (fun a ha b hb c hc => ?_) fun a ha b hb => ?_
      · rw [agree a ha b hb, agree b hb c hc, agree a ha c hc]
        exact Precedes.trans
      · rw [agree a ha b hb, agree b hb a ha]
        exact precedes_or_precedes (sameKind a ha b hb) (hasPlace a ha) (hasPlace b hb)
    refine sorted.imp_of_mem fun ha hb hab => ?_
    exact (agree _ (List.mem_mergeSort.mp ha) _ (List.mem_mergeSort.mp hb)).mp hab

/-- Only keys that are in order can be told in order. -/
theorem inOrder_of_pairwise {keys sorted : List Value} (perm : keys.Perm sorted)
    (h : sorted.Pairwise Precedes) : InOrder keys := by
  match sorted with
  | [] | [_] => exact .inl (by simp [perm.length_eq])
  | first :: second :: rest =>
    have least := (List.pairwise_cons.mp h).1
    have place := (least second (List.mem_cons_self ..)).hasPlace.1
    refine .inr ⟨first.keyKind, place.1, fun key hkey => ?_⟩
    rcases List.mem_cons.mp (perm.mem_iff.mp hkey) with rfl | later
    · exact ⟨rfl, place.2⟩
    · exact ⟨(least key later).keyKind_eq.symm, (least key later).hasPlace.2.2⟩

theorem InOrder.ofOneKind {keys : List Value} (h : InOrder keys) : OfOneKind keys :=
  h.imp_right fun ⟨kind, ne_other, h⟩ => ⟨kind, ne_other, fun key hkey => (h key hkey).1⟩

end Value

end Bulletin
