import Bulletin.Proofs.Members
import Bulletin.Proofs.Number.PlainText
import Bulletin.Proofs.Value.Document

/-!
# The canonical form is a normal form

A value is plain if it is neither undefined nor a number that JSON has no numeral or a shorter kind
for, nor a mapping with anything but distinct texts for its keys. Everything in a canonical form is
plain, however deep it stands, and a value in which everything is plain is its own canonical form.
Lists keep their items, and a mapping keeps one entry for each text of a key.
-/

namespace Bulletin

namespace Double

/-- The small whole numbers are the integers below `10 ^ 21`. -/
theorem exists_toSmallInt?_iff {x : Double} :
    (∃ n, x.toSmallInt? = some n) ↔ ∃ n : Int, x.eqInt n ∧ n.natAbs < Nat.pow 10 21 := by
  cases x with
  | nan => simp [toSmallInt?, belowLarge, eqInt]
  | infinite negative => simp [toSmallInt?, belowLarge, eqInt]
  | finite negative units bounded =>
    have below_iff {n : Int} (h : (finite negative units bounded).eqInt n) :
        (finite negative units bounded).belowLarge ↔ n.natAbs < Nat.pow 10 21 := by
      rw [belowLarge, decide_eq_true_iff, ← units_of_eqInt h,
        Nat.mul_lt_mul_right unitsPerOne_pos]
    constructor
    · rintro ⟨n, hn⟩
      have exact := (of_toSmallInt? hn).1
      exact ⟨n, exact, (below_iff exact).mp (Option.ite_none_right_eq_some.mp hn).1⟩
    · rintro ⟨n, exact, small⟩
      have whole : units % unitsPerOne = 0 := by
        rw [← units_of_eqInt exact, Nat.mul_mod_left]
      exact ⟨_, by rw [toSmallInt?, if_pos ((below_iff exact).mpr small), toInt?, if_pos whole]⟩

end Double

namespace Value

/-! ### Plain values -/

def textEntries (members : List (String × Value)) : List (Value × Value) :=
  members.map fun member => (.str member.1, member.2)

/-- A value stands in another one, at any depth: it is that value, or stands in an item, a key or
the value of an entry. -/
inductive Within (w : Value) : Value → Prop where
  | self : Within w w
  | item {identity : Identity} {items : List Value} {v : Value} (h : v ∈ items)
      (inner : Within w v) : Within w (.list identity items)
  | key {identity : Identity} {entries : List (Value × Value)} {key v : Value}
      (h : (key, v) ∈ entries) (inner : Within w key) : Within w (.mapping identity entries)
  | value {identity : Identity} {entries : List (Value × Value)} {key v : Value}
      (h : (key, v) ∈ entries) (inner : Within w v) : Within w (.mapping identity entries)

/-- There is nothing for JSON to change about a value, apart from what stands in it. It is neither
undefined, nor a double that is not finite or is an integer below `10 ^ 21`, and the keys of a
mapping are distinct texts. -/
def IsPlain : Value → Prop
  | .undefined => False
  | .double x => x.isFinite ∧ ∀ n : Int, x.eqInt n → Nat.pow 10 21 ≤ n.natAbs
  | .mapping _ entries => ∃ members : List (String × Value),
      entries = textEntries members ∧ (members.map Prod.fst).Nodup
  | _ => True

/-- Everything in a value is plain. -/
def IsNormal (v : Value) : Prop := ∀ w : Value, w.Within v → w.IsPlain

variable {v : Value} {identity : Identity} {items : List Value} {members : List (String × Value)}

theorem IsNormal.isPlain (h : v.IsNormal) : v.IsPlain := h v .self

theorem isNormal_of_isPlain (h : v.IsPlain) (structured : v.isStructured = false) :
    v.IsNormal := by
  intro w inside
  cases inside with
  | self => exact h
  | _ => cases structured

theorem isNormal_list (h : ∀ v ∈ items, v.IsNormal) : (list identity items).IsNormal := by
  intro w inside
  cases inside with
  | self => trivial
  | item mem inner => exact h _ mem w inner

theorem isNormal_mapping (distinct : (members.map Prod.fst).Nodup)
    (h : ∀ member ∈ members, member.2.IsNormal) :
    (mapping identity (textEntries members)).IsNormal := by
  intro w inside
  cases inside with
  | self => exact ⟨members, rfl, distinct⟩
  | key mem inner =>
    obtain ⟨member, -, hmember⟩ := List.mem_map.mp mem
    cases hmember
    exact isNormal_of_isPlain (v := .str member.1) trivial rfl w inner
  | value mem inner =>
    obtain ⟨member, hmem, hmember⟩ := List.mem_map.mp mem
    cases hmember
    exact h member hmem w inner

theorem IsNormal.item (h : (list identity items).IsNormal) (mem : v ∈ items) : v.IsNormal :=
  fun w inner => h w (.item mem inner)

theorem IsNormal.member (h : (mapping identity (textEntries members)).IsNormal)
    {member : String × Value} (mem : member ∈ members) : member.2.IsNormal :=
  fun w inner => h w (.value (List.mem_map.mpr ⟨member, mem, rfl⟩) inner)

/-! ### The entries of a canonical form -/

def definedEntries (entries : List (Value × Value)) : List (Value × Value) :=
  entries.filter fun entry => !entry.2.isUndefined

/-- The texts of the keys and the canonical forms of the values. -/
def canonicalMembers (spelled : Bool) (entries : List (Value × Value)) : List (String × Value) :=
  (definedEntries entries).map fun entry => (entry.1.display, canonical spelled entry.2)

theorem putEntry_textEntries (key : String) (v : Value) (members : List (String × Value)) :
    putEntry sameText (.str key) v (textEntries members) = textEntries (putText key v members) := by
  induction members with
  | nil => rfl
  | cons member members ih =>
    simp only [textEntries, putText, List.map_cons, putEntry, sameText] at ih ⊢
    rw [ih]
    by_cases same : member.1 = key <;> simp [same]

theorem canonicalMembers_undefined (spelled : Bool) (key : Value) (rest : List (Value × Value)) :
    canonicalMembers spelled ((key, .undefined) :: rest) = canonicalMembers spelled rest := rfl

theorem canonicalMembers_cons (spelled : Bool) (key : Value) (h : v.isUndefined = false)
    (rest : List (Value × Value)) :
    canonicalMembers spelled ((key, v) :: rest) =
      (key.display, canonical spelled v) :: canonicalMembers spelled rest := by
  rw [canonicalMembers, definedEntries, List.filter_cons_of_pos (by simp [h])]
  rfl

theorem canonicalEntries_eq (spelled : Bool) (done : List (String × Value))
    (entries : List (Value × Value)) :
    canonicalEntries spelled (textEntries done) entries =
      textEntries (putTexts done (canonicalMembers spelled entries)) := by
  induction entries generalizing done with
  | nil => rfl
  | cons entry rest ih =>
    obtain ⟨key, v⟩ := entry
    rw [canonicalEntries]
    cases undefined : v.isUndefined with
    | true =>
      obtain rfl := isUndefined_iff.mp undefined
      rw [if_pos rfl, canonicalMembers_undefined, ih]
    | false =>
      rw [if_neg Bool.false_ne_true, canonicalMembers_cons spelled key undefined,
        putEntry_textEntries, ih]
      rfl

/-- The canonical form of a mapping has the members that are left of its own. -/
theorem canonical_mapping (spelled : Bool) (identity : Identity)
    (entries : List (Value × Value)) :
    canonical spelled (.mapping identity entries) =
      .mapping identity (textEntries (putTexts [] (canonicalMembers spelled entries))) :=
  congrArg (mapping identity) (canonicalEntries_eq spelled [] entries)

theorem canonicalItems_eq_map (spelled : Bool) (items : List Value) :
    canonicalItems spelled items = items.map (canonical spelled) := by
  induction items with
  | nil => rfl
  | cons v rest ih => rw [canonicalItems, ih, List.map_cons]

theorem canonical_list (spelled : Bool) (identity : Identity) (items : List Value) :
    canonical spelled (.list identity items) =
      .list identity (items.map (canonical spelled)) :=
  congrArg (list identity) (canonicalItems_eq_map spelled items)

/-! ### Everything in a canonical form is plain -/

theorem isNormal_canonicalDouble (spelled : Bool) (x : Double) :
    (canonicalDouble spelled x).IsNormal := by
  rw [canonicalDouble]
  split
  · next finite =>
    cases small : x.toSmallInt? with
    | some n => exact isNormal_of_isPlain trivial rfl
    | none =>
      refine isNormal_of_isPlain ⟨finite, fun n exact => Nat.le_of_not_lt fun hlt => ?_⟩ rfl
      obtain ⟨m, hm⟩ := Double.exists_toSmallInt?_iff.mpr ⟨n, exact, hlt⟩
      rw [small] at hm
      cases hm
  · split <;> exact isNormal_of_isPlain trivial rfl

mutual

theorem isNormal_canonical (spelled : Bool) : ∀ v : Value, (canonical spelled v).IsNormal
  | .null => isNormal_of_isPlain trivial rfl
  | .undefined => isNormal_of_isPlain trivial rfl
  | .bool _ => isNormal_of_isPlain trivial rfl
  | .int _ => isNormal_of_isPlain trivial rfl
  | .double x => isNormal_canonicalDouble spelled x
  | .str _ => isNormal_of_isPlain trivial rfl
  | .list identity items => isNormal_list (isNormal_canonicalItems spelled items)
  | .mapping identity entries => by
    rw [canonical_mapping]
    exact isNormal_mapping (nodup_putTexts _)
      (forall_putTexts (isNormal_canonicalMembers spelled entries))
  | .date _ _ => isNormal_of_isPlain trivial rfl

theorem isNormal_canonicalItems (spelled : Bool) : ∀ items : List Value,
    ∀ v ∈ canonicalItems spelled items, v.IsNormal
  | [] => List.forall_mem_nil _
  | v :: rest =>
    List.forall_mem_cons.mpr ⟨isNormal_canonical spelled v, isNormal_canonicalItems spelled rest⟩

theorem isNormal_canonicalMembers (spelled : Bool) : ∀ entries : List (Value × Value),
    ∀ member ∈ canonicalMembers spelled entries, member.2.IsNormal
  | [] => List.forall_mem_nil _
  | (key, v) :: rest => by
    have others := isNormal_canonicalMembers spelled rest
    cases undefined : v.isUndefined with
    | true =>
      obtain rfl := isUndefined_iff.mp undefined
      exact others
    | false =>
      rw [canonicalMembers_cons spelled key undefined]
      exact List.forall_mem_cons.mpr ⟨isNormal_canonical spelled v, others⟩

end

/-! ### A value in which everything is plain is its own canonical form -/

theorem canonicalDouble_of_isPlain {x : Double} (h : (double x).IsPlain) (spelled : Bool) :
    canonicalDouble spelled x = .double x := by
  obtain ⟨finite, large⟩ := h
  rw [canonicalDouble, if_pos finite]
  cases small : x.toSmallInt? with
  | none => rfl
  | some n =>
    obtain ⟨m, exact, hlt⟩ := Double.exists_toSmallInt?_iff.mp ⟨n, small⟩
    exact absurd hlt (Nat.not_lt_of_le (large m exact))

mutual

theorem canonical_of_isNormal (spelled : Bool) : ∀ v : Value, v.IsNormal → canonical spelled v = v
  | .null, _ => rfl
  | .undefined, h => h.isPlain.elim
  | .bool _, _ => rfl
  | .int _, _ => rfl
  | .double _, h => canonicalDouble_of_isPlain h.isPlain spelled
  | .str _, _ => rfl
  | .list identity items, h =>
    congrArg (list identity) (canonicalItems_of_isNormal spelled items fun _ mem => h.item mem)
  | .mapping identity entries, h => by
    obtain ⟨members, rfl, distinct⟩ := h.isPlain
    have kept := canonicalMembers_of_isNormal spelled (textEntries members) members rfl
      fun _ mem => h.member mem
    rw [canonical_mapping, kept, putTexts_of_nodup distinct]
  | .date _ _, _ => rfl

theorem canonicalItems_of_isNormal (spelled : Bool) : ∀ items : List Value,
    (∀ v ∈ items, v.IsNormal) → canonicalItems spelled items = items
  | [], _ => rfl
  | v :: rest, h => by
    obtain ⟨first, others⟩ := List.forall_mem_cons.mp h
    rw [canonicalItems, canonical_of_isNormal spelled v first,
      canonicalItems_of_isNormal spelled rest others]

theorem canonicalMembers_of_isNormal (spelled : Bool) : ∀ (entries : List (Value × Value))
    (members : List (String × Value)), entries = textEntries members →
      (∀ member ∈ members, member.2.IsNormal) → canonicalMembers spelled entries = members
  | [], [], _, _ => rfl
  | (key, v) :: rest, (name, w) :: members, same, h => by
    obtain ⟨⟨rfl, rfl⟩, rfl⟩ : (key = .str name ∧ v = w) ∧ rest = textEntries members := by
      simpa [textEntries] using same
    obtain ⟨first, others⟩ := List.forall_mem_cons.mp h
    have defined : v.isUndefined = false := by
      cases v with
      | undefined => exact first.isPlain.elim
      | _ => rfl
    rw [canonicalMembers_cons spelled _ defined, canonical_of_isNormal spelled v first,
      canonicalMembers_of_isNormal spelled _ members rfl others]
    rfl

end

/-! ### Names for numbers without a numeral -/

mutual

/-- Where every double is finite, it does not matter whether names are asked for. -/
theorem canonical_eq_of_isFinite : ∀ v : Value, (∀ x, (double x).Within v → x.isFinite) →
    canonical true v = canonical false v
  | .null, _ => rfl
  | .undefined, _ => rfl
  | .bool _, _ => rfl
  | .int _, _ => rfl
  | .double x, h => by
    have finite := h x .self
    simp only [canonical, canonicalDouble, finite, if_true]
  | .str _, _ => rfl
  | .list identity items, h =>
    congrArg (list identity)
      (canonicalItems_eq_of_isFinite items fun v mem x inner => h x (.item mem inner))
  | .mapping identity entries, h =>
    congrArg (mapping identity)
      (canonicalEntries_eq_of_isFinite [] entries fun entry mem x inner => h x (.value mem inner))
  | .date _ _, _ => rfl

theorem canonicalItems_eq_of_isFinite : ∀ items : List Value,
    (∀ v ∈ items, ∀ x, (double x).Within v → x.isFinite) →
      canonicalItems true items = canonicalItems false items
  | [], _ => rfl
  | v :: rest, h => by
    obtain ⟨first, others⟩ := List.forall_mem_cons.mp h
    rw [canonicalItems, canonicalItems, canonical_eq_of_isFinite v first,
      canonicalItems_eq_of_isFinite rest others]

theorem canonicalEntries_eq_of_isFinite (done : List (Value × Value)) :
    ∀ entries : List (Value × Value),
      (∀ entry ∈ entries, ∀ x, (double x).Within entry.2 → x.isFinite) →
        canonicalEntries true done entries = canonicalEntries false done entries
  | [], _ => rfl
  | (key, v) :: rest, h => by
    obtain ⟨first, others⟩ := List.forall_mem_cons.mp h
    rw [canonicalEntries, canonicalEntries, canonical_eq_of_isFinite v first,
      canonicalEntries_eq_of_isFinite _ rest others]

end

/-! ### The text of a canonical form -/

theorem isStructured_canonical (spelled : Bool) (h : v.isStructured) :
    (canonical spelled v).isStructured := by
  cases v with
  | list identity items => rfl
  | mapping identity entries => rfl
  | _ => cases h

/-- Bringing a value into canonical form, with or without names for the doubles that are not finite,
leaves nothing in it, at any depth, that is not plain, and does nothing to a canonical form of
either kind. Lists keep their items; a mapping loses the undefined entries and those whose key has
the text of a later one, which takes their place. The text of a structured value is that of its
canonical form, with names only if there is nothing to name. -/
theorem canonical_normalizes (spelled : Bool) (v : Value) :
    (∀ w : Value, w.Within (canonical spelled v) → w.IsPlain) ∧
      (∀ again : Bool, canonical again (canonical spelled v) = canonical spelled v) ∧
      (∀ (identity : Identity) (items : List Value), v = .list identity items →
        ∃ results, canonical spelled v = .list identity results ∧
          results.length = items.length ∧ results = items.map (canonical spelled)) ∧
      (∀ (identity : Identity) (entries : List (Value × Value)), v = .mapping identity entries →
        ∃ members, canonical spelled v = .mapping identity (textEntries members) ∧
          IsMerged ((definedEntries entries).map fun entry =>
            (entry.1.display, canonical spelled entry.2)) members) ∧
      (v.isStructured → (canonical false v).rendered = v.rendered) ∧
      (v.isStructured → (∀ x, (double x).Within v → x.isFinite) →
        (canonical true v).rendered = v.rendered) := by
  have again (spelled again : Bool) : canonical again (canonical spelled v) = canonical spelled v :=
    canonical_of_isNormal again _ (isNormal_canonical spelled v)
  have text (structured : v.isStructured) : (canonical false v).rendered = v.rendered := by
    rw [rendered_of_isStructured (isStructured_canonical false structured), again,
      rendered_of_isStructured structured]
  refine ⟨isNormal_canonical spelled v, again spelled, ?_, ?_, text, fun structured finite => ?_⟩
  · rintro identity items rfl
    exact ⟨_, canonical_list spelled identity items, List.length_map .., rfl⟩
  · rintro identity entries rfl
    exact ⟨_, canonical_mapping spelled identity entries, isMerged_putTexts _⟩
  · rw [canonical_eq_of_isFinite v finite, text structured]

end Value

end Bulletin
