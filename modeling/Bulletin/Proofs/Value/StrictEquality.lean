import Bulletin.Proofs.Number.Exact
import Bulletin.Value.Operators

/-!
# Strict equality

Strict equality sees of a value no more than its essence: the kind of the value and what is compared
within the kind. A number is seen as its exact quantity, a text that is a plain numeral as the
quantity it is read as, any other text as it is written, and an object as its identity. Values are
strictly equal when they have one essence, and NaN alone has none. So strict equality is symmetric
and transitive, only NaN does not equal itself, and no two kinds meet.
-/

namespace Bulletin

namespace Value

/-- The kinds of values. Integers and doubles are of one kind. -/
inductive Kind where
  | null
  | undefined
  | boolean
  | number
  | text
  | list
  | mapping
  | date
  deriving DecidableEq

def kind : Value → Kind
  | .null => .null
  | .undefined => .undefined
  | .bool _ => .boolean
  | .int _ => .number
  | .double _ => .number
  | .str _ => .text
  | .list _ _ => .list
  | .mapping _ _ => .mapping
  | .date _ _ => .date

/-- What a number is exactly. A NaN is no quantity, and neither is a value of another kind. -/
def quantity? : Value → Option Quantity
  | .int n => some (.rational n)
  | .double x => x.quantity?
  | _ => none

/-- What strict equality sees of a value. -/
inductive Essence where
  | null
  | undefined
  | boolean (b : Bool)
  | number (q : Quantity)
  | numeral (q : Quantity)
  | text (s : String)
  | list (identity : Identity)
  | mapping (identity : Identity)
  | date (identity : Identity)

def Essence.kind : Essence → Kind
  | .null => .null
  | .undefined => .undefined
  | .boolean _ => .boolean
  | .number _ => .number
  | .numeral _ => .text
  | .text _ => .text
  | .list _ => .list
  | .mapping _ => .mapping
  | .date _ => .date

/-- The essence of a value. A text that is a plain numeral is seen as the double it is read as. -/
def essence? : Value → Option Essence
  | .null => some .null
  | .undefined => some .undefined
  | .bool b => some (.boolean b)
  | .int n => some (.number (.rational n))
  | .double x => x.quantity?.map .number
  | .str s =>
    match plainNumeral? s with
    | some numeral => numeral.toDouble.quantity?.map .numeral
    | none => some (.text s)
  | .list identity _ => some (.list identity)
  | .mapping identity _ => some (.mapping identity)
  | .date identity _ => some (.date identity)

theorem kind_of_essence? {v : Value} {e : Essence} (h : v.essence? = some e) :
    e.kind = v.kind := by
  cases v with
  | double x =>
    obtain ⟨q, -, rfl⟩ := Option.map_eq_some_iff.mp h
    rfl
  | str s =>
    simp only [essence?] at h
    split at h
    · obtain ⟨q, -, rfl⟩ := Option.map_eq_some_iff.mp h
      rfl
    · cases h
      rfl
  | _ =>
    cases h
    rfl

/-! ### Equality is having one essence -/

theorem kind_eq_of_strictEq {a b : Value} (h : a.strictEq b) : a.kind = b.kind := by
  cases a <;> cases b <;> first | rfl | cases h

theorem strictEq_number {a : Value} (h : a.kind = .number) (b : Value) :
    a.strictEq b ↔ ∃ q, a.quantity? = some q ∧ b.quantity? = some q := by
  cases a with
  | int m =>
    cases b with
    | int n =>
      simp only [strictEq, identical, numberEq, quantity?, beq_iff_eq, Option.some.injEq,
        exists_eq_left', Quantity.rational.injEq, Int.cast_inj]
      exact eq_comm
    | double y =>
      simp only [strictEq, identical, numberEq, quantity?, Double.eqInt_iff, Option.some.injEq,
        exists_eq_left']
    | _ => simp [strictEq, identical, numberEq, quantity?]
  | double x =>
    cases b with
    | int n =>
      simp only [strictEq, identical, numberEq, quantity?, Double.eqInt_iff, Option.some.injEq,
        exists_eq_right']
    | double y => simp only [strictEq, identical, numberEq, quantity?, Double.eq_iff]
    | _ => simp [strictEq, identical, numberEq, quantity?]
  | _ => cases h

theorem essence?_number {a : Value} (h : a.kind = .number) :
    a.essence? = a.quantity?.map .number := by
  cases a <;> first | rfl | cases h

/-- Two texts are equal if both are plain numerals read as equal doubles, or if they are the same
and no plain numeral. -/
theorem strictEq_text (s t : String) :
    strictEq (.str s) (.str t) ↔
      ∃ e, essence? (.str s) = some e ∧ essence? (.str t) = some e := by
  cases hs : plainNumeral? s with
  | some x =>
    cases ht : plainNumeral? t with
    | some y =>
      simp only [strictEq, essence?, hs, ht, Double.eq_iff, Option.map_eq_some_iff]
      constructor
      · rintro ⟨q, hx, hy⟩
        exact ⟨.numeral q, ⟨q, hx, rfl⟩, ⟨q, hy, rfl⟩⟩
      · rintro ⟨_, ⟨q, hx, rfl⟩, ⟨q', hy, same⟩⟩
        cases same
        exact ⟨q, hx, hy⟩
    | none =>
      have different : s ≠ t := by
        rintro rfl
        rw [hs] at ht
        cases ht
      simp [strictEq, essence?, hs, ht, different]
  | none =>
    cases ht : plainNumeral? t with
    | some y =>
      have different : s ≠ t := by
        rintro rfl
        rw [hs] at ht
        cases ht
      simp [strictEq, essence?, hs, ht, different]
    | none =>
      simp only [strictEq, essence?, hs, ht, beq_iff_eq, Option.some.injEq, exists_eq_left',
        Essence.text.injEq]
      exact eq_comm

/-- Two values are strictly equal if they have one essence. -/
theorem strictEq_iff {a b : Value} :
    a.strictEq b ↔ ∃ e, a.essence? = some e ∧ b.essence? = some e := by
  by_cases same : a.kind = b.kind
  · by_cases number : a.kind = .number
    · rw [strictEq_number number, essence?_number number, essence?_number (same ▸ number)]
      simp only [Option.map_eq_some_iff]
      constructor
      · rintro ⟨q, ha, hb⟩
        exact ⟨.number q, ⟨q, ha, rfl⟩, ⟨q, hb, rfl⟩⟩
      · rintro ⟨_, ⟨q, ha, rfl⟩, ⟨q', hb, eq⟩⟩
        cases eq
        exact ⟨q, ha, hb⟩
    · cases a <;> cases b <;>
        first | exact Kind.noConfusion same | exact absurd rfl number | skip
      case null.null | undefined.undefined => simp [strictEq, identical, essence?]
      case str.str s t => exact strictEq_text s t
      all_goals
        simp only [strictEq, identical, beq_iff_eq, essence?, Option.some.injEq, exists_eq_left',
          Essence.boolean.injEq, Essence.list.injEq, Essence.mapping.injEq, Essence.date.injEq]
        exact eq_comm
  · constructor
    · intro h
      exact absurd (kind_eq_of_strictEq h) same
    · rintro ⟨e, ha, hb⟩
      exact absurd ((kind_of_essence? ha).symm.trans (kind_of_essence? hb)) same

/-- NaN alone has no essence. -/
theorem essence?_eq_none_iff {a : Value} : a.essence? = none ↔ a = .double .nan := by
  cases a with
  | double x => simp [essence?]
  | str s =>
    simp only [essence?, reduceCtorEq, iff_false]
    split
    · next numeral _ =>
      have := numeral.isNaN_toDouble
      cases hq : numeral.toDouble.quantity? with
      | some q => simp
      | none =>
        rw [Double.quantity?_eq_none_iff.mp hq] at this
        cases this
    · simp
  | _ => simp [essence?]

/-- Strict equality is symmetric and transitive, holds between every value but NaN and itself, and
never between values of two kinds. Integers and doubles are of one kind, within which it holds
between equal quantities. -/
theorem strictEq_partial_equivalence (a b c : Value) :
    (a.strictEq b = b.strictEq a) ∧
      (a.strictEq b → b.strictEq c → a.strictEq c) ∧
      (a.strictEq a ↔ a ≠ .double .nan) ∧
      (a.strictEq b → a.kind = b.kind) ∧
      (a.kind = .number →
        (a.strictEq b ↔ ∃ q, a.quantity? = some q ∧ b.quantity? = some q)) := by
  refine ⟨?_, ?_, ?_, kind_eq_of_strictEq, fun number => strictEq_number number b⟩
  · rw [Bool.eq_iff_iff, strictEq_iff, strictEq_iff]
    simp only [and_comm]
  · intro hab hbc
    obtain ⟨e, ha, hb⟩ := strictEq_iff.mp hab
    obtain ⟨e', hb', hc⟩ := strictEq_iff.mp hbc
    obtain rfl : e = e' := Option.some.inj (hb.symm.trans hb')
    exact strictEq_iff.mpr ⟨e, ha, hc⟩
  · rw [strictEq_iff, ne_eq, ← essence?_eq_none_iff]
    cases a.essence? <;> simp

/-- Three spellings of one number, the first two and the last two strictly equal. -/
theorem strictEq_chain_of_spellings :
    (Value.str "1").strictEq (.str "01") ∧ (Value.str "01").strictEq (.str "1.0") ∧
      (Value.str "1").strictEq (.str "1.0") := by
  have left : (Value.str "1").strictEq (.str "01") := by decide +kernel
  have right : (Value.str "01").strictEq (.str "1.0") := by decide +kernel
  obtain ⟨-, chain, -⟩ := strictEq_partial_equivalence (.str "1") (.str "01") (.str "1.0")
  exact ⟨left, right, chain left right⟩

end Value

end Bulletin
