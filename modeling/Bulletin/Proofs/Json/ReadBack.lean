import Bulletin.Proofs.Json.Scalars

/-!
# Documents read back

A written document is read as the document that it was, in either layout and in every dialect that
takes short exponents, as long as its doubles are finite and no object has a key twice.
-/

namespace Bulletin

namespace Json

mutual

/-- Every double is finite, and the keys of every object differ. -/
def IsProper : Json → Prop
  | .null => True
  | .bool _ => True
  | .int _ => True
  | .double x => x.isFinite
  | .str _ => True
  | .array items => AreProper items
  | .object members => (members.map Prod.fst).Nodup ∧ AreProperMembers members

def AreProper : List Json → Prop
  | [] => True
  | item :: rest => item.IsProper ∧ AreProper rest

def AreProperMembers : List (String × Json) → Prop
  | [] => True
  | (_, value) :: rest => value.IsProper ∧ AreProperMembers rest

end

/-- The layout has blanks of a dialect only. -/
structure Spacing.IsBlank (spacing : Spacing) (d : Dialect) : Prop where
  beforeItem : ∀ depth, ∀ c ∈ spacing.beforeItem depth, d.isSpace c
  afterColon : ∀ c ∈ spacing.afterColon, d.isSpace c

theorem Spacing.compact_isBlank (d : Dialect) : Spacing.compact.IsBlank d where
  beforeItem := fun _ _ hc => absurd hc List.not_mem_nil
  afterColon := fun _ hc => absurd hc List.not_mem_nil

theorem Spacing.indented_isBlank (d : Dialect) : Spacing.indented.IsBlank d where
  beforeItem := by
    intro depth c hc
    rcases List.mem_cons.mp hc with rfl | hc
    · rfl
    · rw [List.eq_of_mem_replicate hc]
      rfl
  afterColon := by
    intro c hc
    rw [List.mem_singleton.mp hc]
    rfl

/-! ### What stands around documents -/

/-- What is left after blanks starts with no blank. -/
theorem Dialect.skipSpace_append {d : Dialect} {blanks : List Char} (h : ∀ c ∈ blanks, d.isSpace c)
    {c : Char} (hc : d.isSpace c = false) (rest : List Char) :
    d.skipSpace (blanks ++ c :: rest) = c :: rest := by
  rw [skipSpace, List.dropWhile_append_of_pos h, List.dropWhile_cons_of_neg (by simp [hc])]

theorem Dialect.isSpace_of_isDigit {c : Char} (h : c.isDigit) (d : Dialect) :
    d.isSpace c = false := by
  have hne (x : Char) (hx : x.isDigit = false) : c ≠ x := ne_of_isDigit h hx
  simp [isSpace, hne ' ' rfl, hne '\n' rfl, hne '\r' rfl, hne '\t' rfl]

/-- A document starts with a character that is neither a blank nor closes an array. -/
def Starts (d : Dialect) (text : List Char) : Prop :=
  ∃ c others, text = c :: others ∧ d.isSpace c = false ∧ c ≠ ']'

theorem starts_numeral (n : WrittenNumeral) (d : Dialect) : Starts d n.text := by
  obtain ⟨c, others, hc, heq | heq⟩ := n.exists_text
  · exact ⟨c, others, heq, Dialect.isSpace_of_isDigit hc d, ne_of_isDigit hc rfl⟩
  · exact ⟨'-', _, heq, rfl, by decide⟩

theorem starts_write {document : Json} (h : document.IsProper) (spacing : Spacing) (depth : Nat)
    (d : Dialect) : Starts d (write spacing depth document) := by
  match document with
  | .null => exact ⟨_, _, rfl, rfl, by decide⟩
  | .bool true => exact ⟨_, _, rfl, rfl, by decide⟩
  | .bool false => exact ⟨_, _, rfl, rfl, by decide⟩
  | .int n =>
    rw [write, ← WrittenNumeral.text_ofInt]
    exact starts_numeral _ d
  | .double x =>
    obtain ⟨n, htext, -⟩ := Double.exists_fullText h
    rw [write, ← htext]
    exact starts_numeral n d
  | .str s => exact ⟨_, _, rfl, rfl, by decide⟩
  | .array [] => exact ⟨_, _, rfl, rfl, by decide⟩
  | .array (_ :: _) => exact ⟨_, _, by rw [write], rfl, by decide⟩
  | .object [] => exact ⟨_, _, rfl, rfl, by decide⟩
  | .object ((_, _) :: _) => exact ⟨_, _, by rw [write], rfl, by decide⟩

theorem Starts.skipSpace_append {d : Dialect} {text : List Char} (h : Starts d text)
    {blanks : List Char} (hblanks : ∀ c ∈ blanks, d.isSpace c) (rest : List Char) :
    d.skipSpace (blanks ++ (text ++ rest)) = text ++ rest := by
  obtain ⟨c, others, rfl, hc, -⟩ := h
  exact Dialect.skipSpace_append hblanks hc _

/-- What follows a document goes on no numeral. -/
def Ends (rest : List Char) : Prop := rest.head?.any isNumeralChar = false

theorem isNumeralChar_of_isSpace {d : Dialect} {c : Char} (h : d.isSpace c) :
    isNumeralChar c = false := by
  simp only [Dialect.isSpace, Bool.or_eq_true, Bool.and_eq_true, decide_eq_true_eq] at h
  rcases h with ((rfl | rfl) | rfl) | ⟨rfl, -⟩ <;> rfl

theorem ends_append {d : Dialect} {blanks : List Char} (h : ∀ c ∈ blanks, d.isSpace c)
    {c : Char} (hc : isNumeralChar c = false) (rest : List Char) :
    Ends (blanks ++ c :: rest) := by
  cases blanks with
  | nil => exact hc
  | cons b blanks => exact isNumeralChar_of_isSpace (h b (List.mem_cons_self ..))

/-! ### Items and members -/

def moreItems? (d : Dialect) (steps : Nat) (done : List Json) (text : List Char) :
    Option (Json × List Char) :=
  match d.skipSpace text with
  | ',' :: rest => readItems? d steps false done (d.skipSpace rest)
  | ']' :: rest => some (.array done.reverse, rest)
  | _ => none

def moreMembers? (d : Dialect) (steps : Nat) (done : List (String × Json)) (text : List Char) :
    Option (Json × List Char) :=
  match d.skipSpace text with
  | ',' :: rest => readMembers? d steps false done (d.skipSpace rest)
  | '\x7d' :: rest => some (.object done, rest)
  | _ => none

section

variable {d : Dialect} {spacing : Spacing} {text blanks : List Char}

theorem readItems?_succ (h : Starts d text) (steps : Nat) (first : Bool) (done : List Json)
    (rest : List Char) :
    readItems? d (steps + 1) first done (text ++ rest) =
      (readValue? d steps (text ++ rest)).bind fun found =>
        moreItems? d steps (found.1 :: done) found.2 := by
  obtain ⟨c, others, rfl, -, hc⟩ := h
  have open_array : (((c :: others) ++ rest).head? == some ']' && first) = false := by
    simp [hc]
  rw [readItems?, open_array]
  rfl

theorem readMembers?_succ (hblanks : ∀ c ∈ blanks, d.isSpace c) (h : Starts d text) (steps : Nat)
    (first : Bool) (done : List (String × Json)) (key : String) (rest : List Char) :
    readMembers? d (steps + 1) first done (writeString key ++ ':' :: (blanks ++ (text ++ rest))) =
      (readValue? d steps (text ++ rest)).bind fun found =>
        moreMembers? d steps (putText key found.1 done) found.2 := by
  have open_object : ((writeString key ++ ':' :: (blanks ++ (text ++ rest))).head? ==
      some '\x7d' && first) = false := rfl
  have colon : d.skipSpace (':' :: (blanks ++ (text ++ rest))) =
      ':' :: (blanks ++ (text ++ rest)) := List.dropWhile_cons_of_neg (by simp [Dialect.isSpace])
  rw [readMembers?, open_object]
  simp only [Bool.false_eq_true, if_false, readString?_writeString, Option.bind_some, colon,
    h.skipSpace_append hblanks]
  rfl

theorem moreItems?_end (hblanks : ∀ c ∈ blanks, d.isSpace c) (steps : Nat) (done : List Json)
    (rest : List Char) :
    moreItems? d steps done (blanks ++ ']' :: rest) = some (.array done.reverse, rest) := by
  rw [moreItems?, Dialect.skipSpace_append hblanks (by simp [Dialect.isSpace])]
  rfl

theorem moreMembers?_end (hblanks : ∀ c ∈ blanks, d.isSpace c) (steps : Nat)
    (done : List (String × Json)) (rest : List Char) :
    moreMembers? d steps done (blanks ++ '\x7d' :: rest) = some (.object done, rest) := by
  rw [moreMembers?, Dialect.skipSpace_append hblanks (by simp [Dialect.isSpace])]
  rfl

theorem moreItems?_comma (hblanks : ∀ c ∈ blanks, d.isSpace c) (h : Starts d text) (steps : Nat)
    (done : List Json) (rest : List Char) :
    moreItems? d (steps + 1) done (',' :: (blanks ++ (text ++ rest))) =
      (readValue? d steps (text ++ rest)).bind fun found =>
        moreItems? d steps (found.1 :: done) found.2 := by
  have comma : d.skipSpace (',' :: (blanks ++ (text ++ rest))) =
      ',' :: (blanks ++ (text ++ rest)) := List.dropWhile_cons_of_neg (by simp [Dialect.isSpace])
  rw [moreItems?, comma]
  simp only [h.skipSpace_append hblanks, readItems?_succ h]

theorem starts_string (key : String) (d : Dialect) : Starts d (writeString key) :=
  ⟨_, _, rfl, rfl, by decide⟩

theorem moreMembers?_comma {afterColon : List Char} (hblanks : ∀ c ∈ blanks, d.isSpace c)
    (hcolon : ∀ c ∈ afterColon, d.isSpace c) (h : Starts d text) (steps : Nat)
    (done : List (String × Json)) (key : String) (rest : List Char) :
    moreMembers? d (steps + 1) done
        (',' :: (blanks ++ (writeString key ++ ':' :: (afterColon ++ (text ++ rest))))) =
      (readValue? d steps (text ++ rest)).bind fun found =>
        moreMembers? d steps (putText key found.1 done) found.2 := by
  have comma (after : List Char) : d.skipSpace (',' :: after) = ',' :: after :=
    List.dropWhile_cons_of_neg (by simp [Dialect.isSpace])
  rw [moreMembers?, comma]
  simp only [(starts_string key d).skipSpace_append hblanks, readMembers?_succ hcolon h]

theorem ends_items (blank : spacing.IsBlank d) (depth : Nat) (items : List Json)
    (rest : List Char) :
    Ends (writeItems spacing depth items ++ (spacing.beforeItem depth ++ ']' :: rest)) := by
  cases items with
  | nil => exact ends_append (blank.beforeItem depth) rfl rest
  | cons item items => exact rfl

theorem ends_members (blank : spacing.IsBlank d) (depth : Nat) (members : List (String × Json))
    (rest : List Char) :
    Ends (writeMembers spacing depth members ++ (spacing.beforeItem depth ++ '\x7d' :: rest)) := by
  cases members with
  | nil => exact ends_append (blank.beforeItem depth) rfl rest
  | cons member members =>
    obtain ⟨key, value⟩ := member
    exact rfl

end

/-! ### Documents -/

section

variable (spacing : Spacing) (depth : Nat) (rest : List Char)

theorem write_array_append (item : Json) (items : List Json) :
    write spacing depth (.array (item :: items)) ++ rest =
      '[' :: (spacing.beforeItem (depth + 1) ++ (write spacing (depth + 1) item ++
        (writeItems spacing depth items ++ (spacing.beforeItem depth ++ ']' :: rest)))) := by
  simp [write]

theorem writeItems_cons_append (item : Json) (items : List Json) :
    writeItems spacing depth (item :: items) ++ rest =
      ',' :: (spacing.beforeItem (depth + 1) ++ (write spacing (depth + 1) item ++
        (writeItems spacing depth items ++ rest))) := by
  simp [writeItems]

theorem write_object_append (key : String) (value : Json) (members : List (String × Json)) :
    write spacing depth (.object ((key, value) :: members)) ++ rest =
      '\x7b' :: (spacing.beforeItem (depth + 1) ++ (writeString key ++ ':' ::
        (spacing.afterColon ++ (write spacing (depth + 1) value ++
          (writeMembers spacing depth members ++ (spacing.beforeItem depth ++ '\x7d' :: rest)))))) := by
  simp [write]

theorem writeMembers_cons_append (key : String) (value : Json) (members : List (String × Json)) :
    writeMembers spacing depth ((key, value) :: members) ++ rest =
      ',' :: (spacing.beforeItem (depth + 1) ++ (writeString key ++ ':' ::
        (spacing.afterColon ++ (write spacing (depth + 1) value ++
          (writeMembers spacing depth members ++ rest))))) := by
  simp [writeMembers]

end

mutual

/-- A document is read back whatever follows it, unless that goes on a numeral. Every nested call
takes a step, and every second one a character as well, so the steps last. -/
theorem readValue?_write {d : Dialect} {spacing : Spacing} (hd : d.bareExponents)
    (blank : spacing.IsBlank d) (document : Json) (h : document.IsProper) (depth : Nat)
    {steps : Nat} {rest : List Char} (hrest : Ends rest)
    (hsteps : 2 * (write spacing depth document ++ rest).length < steps) :
    readValue? d steps (write spacing depth document ++ rest) = some (document, rest) := by
  obtain ⟨steps, rfl⟩ := Nat.exists_eq_add_one_of_ne_zero (show steps ≠ 0 by omega)
  match document with
  | .null => rfl
  | .bool true => rfl
  | .bool false => rfl
  | .int n =>
    rw [write, ← WrittenNumeral.text_ofInt]
    refine WrittenNumeral.readValue?_text _ ?_ hrest steps
    rw [WrittenNumeral.readNumeral?_of_isInteger _ ⟨rfl, rfl⟩, WrittenNumeral.decimal_ofInt,
      WrittenNumeral.ofInt, Double.signed_natAbs]
  | .double x =>
    obtain ⟨n, htext, hvalue, not_integer⟩ := Double.exists_fullText h
    rw [write, ← htext]
    refine n.readValue?_text ?_ hrest steps
    rw [n.readNumeral?_of_not_isInteger not_integer hd, hvalue]
  | .str s =>
    have quote : write spacing depth (.str s) = writeString s := rfl
    rw [quote, writeString, List.cons_append, readValue?]
    simp only [Char.reduceEq, if_false, if_true]
    rw [← List.cons_append, ← writeString, readString?_writeString]
    rfl
  | .array [] =>
    simp only [write, List.cons_append, List.length_cons] at hsteps
    obtain ⟨steps, rfl⟩ := Nat.exists_eq_add_one_of_ne_zero (show steps ≠ 0 by omega)
    rfl
  | .array (item :: items) =>
    obtain ⟨hitem, hitems⟩ := h
    have starts := starts_write hitem spacing (depth + 1) d
    rw [write_array_append] at hsteps ⊢
    simp only [List.length_cons, List.length_append] at hsteps
    obtain ⟨steps, rfl⟩ := Nat.exists_eq_add_one_of_ne_zero (show steps ≠ 0 by omega)
    rw [readValue?, if_pos rfl, starts.skipSpace_append (blank.beforeItem _),
      readItems?_succ starts,
      readValue?_write hd blank item hitem (depth + 1) (ends_items blank depth items rest)
        (by simp only [List.length_append, List.length_cons]; omega)]
    exact moreItems?_write hd blank items hitems depth [item]
      (by simp only [List.length_append, List.length_cons]; omega)
  | .object [] =>
    simp only [write, List.cons_append, List.length_cons] at hsteps
    obtain ⟨steps, rfl⟩ := Nat.exists_eq_add_one_of_ne_zero (show steps ≠ 0 by omega)
    rfl
  | .object ((key, value) :: members) =>
    obtain ⟨distinct, hvalue, hmembers⟩ := h
    have starts := starts_write hvalue spacing (depth + 1) d
    rw [write_object_append] at hsteps ⊢
    simp only [List.length_cons, List.length_append] at hsteps
    obtain ⟨steps, rfl⟩ := Nat.exists_eq_add_one_of_ne_zero (show steps ≠ 0 by omega)
    rw [readValue?, if_neg (by decide), if_pos rfl,
      (starts_string key d).skipSpace_append (blank.beforeItem _),
      readMembers?_succ blank.afterColon starts,
      readValue?_write hd blank value hvalue (depth + 1) (ends_members blank depth members rest)
        (by simp only [List.length_append, List.length_cons]; omega)]
    exact moreMembers?_write hd blank members hmembers depth [(key, value)] distinct
      (by simp only [List.length_append, List.length_cons]; omega)

theorem moreItems?_write {d : Dialect} {spacing : Spacing} (hd : d.bareExponents)
    (blank : spacing.IsBlank d) (items : List Json) (h : AreProper items) (depth : Nat)
    {steps : Nat} {rest : List Char} (done : List Json)
    (hsteps : 2 * (writeItems spacing depth items ++
      (spacing.beforeItem depth ++ ']' :: rest)).length ≤ steps) :
    moreItems? d steps done
        (writeItems spacing depth items ++ (spacing.beforeItem depth ++ ']' :: rest)) =
      some (.array (done.reverse ++ items), rest) := by
  match items with
  | [] =>
    rw [writeItems, List.nil_append, moreItems?_end (blank.beforeItem depth), List.append_nil]
  | item :: items =>
    obtain ⟨hitem, hitems⟩ := h
    rw [writeItems_cons_append] at hsteps ⊢
    simp only [List.length_cons, List.length_append] at hsteps
    obtain ⟨steps, rfl⟩ := Nat.exists_eq_add_one_of_ne_zero (show steps ≠ 0 by omega)
    rw [moreItems?_comma (blank.beforeItem _) (starts_write hitem spacing (depth + 1) d),
      readValue?_write hd blank item hitem (depth + 1) (ends_items blank depth items rest)
        (by simp only [List.length_append, List.length_cons]; omega),
      List.append_cons done.reverse, ← List.reverse_cons]
    refine moreItems?_write hd blank items hitems depth (item :: done) ?_
    simp only [List.length_append, List.length_cons]
    omega

theorem moreMembers?_write {d : Dialect} {spacing : Spacing} (hd : d.bareExponents)
    (blank : spacing.IsBlank d) (members : List (String × Json)) (h : AreProperMembers members)
    (depth : Nat) {steps : Nat} {rest : List Char} (done : List (String × Json))
    (distinct : ((done ++ members).map Prod.fst).Nodup)
    (hsteps : 2 * (writeMembers spacing depth members ++
      (spacing.beforeItem depth ++ '\x7d' :: rest)).length ≤ steps) :
    moreMembers? d steps done
        (writeMembers spacing depth members ++ (spacing.beforeItem depth ++ '\x7d' :: rest)) =
      some (.object (done ++ members), rest) := by
  match members with
  | [] =>
    rw [writeMembers, List.nil_append, moreMembers?_end (blank.beforeItem depth), List.append_nil]
  | (key, value) :: members =>
    obtain ⟨hvalue, hmembers⟩ := h
    -- A key that is new comes last, as it was written.
    have new : key ∉ done.map Prod.fst := by
      rw [List.map_append, List.map_cons] at distinct
      exact fun hmem => (List.nodup_append.mp distinct).2.2 key hmem key (List.mem_cons_self ..) rfl
    rw [writeMembers_cons_append] at hsteps ⊢
    rw [List.append_cons done] at distinct ⊢
    simp only [List.length_cons, List.length_append] at hsteps
    obtain ⟨steps, rfl⟩ := Nat.exists_eq_add_one_of_ne_zero (show steps ≠ 0 by omega)
    rw [moreMembers?_comma (blank.beforeItem _) blank.afterColon
        (starts_write hvalue spacing (depth + 1) d),
      readValue?_write hd blank value hvalue (depth + 1) (ends_members blank depth members rest)
        (by simp only [List.length_append, List.length_cons]; omega), Option.bind_some,
      putText_of_not_mem new]
    refine moreMembers?_write hd blank members hmembers depth (done ++ [(key, value)]) distinct ?_
    simp only [List.length_append, List.length_cons]
    omega

end

/-- A written document is read back. -/
theorem read?_write {d : Dialect} {spacing : Spacing} (hd : d.bareExponents)
    (blank : spacing.IsBlank d) {document : Json} (h : document.IsProper) :
    read? d (write spacing 0 document) = some document := by
  obtain ⟨c, others, heq, hc, -⟩ := starts_write h spacing 0 d
  have no_blank : d.skipSpace (write spacing 0 document) = write spacing 0 document := by
    rw [heq]
    exact List.dropWhile_cons_of_neg (by simp [hc])
  have read : readValue? d (2 * (write spacing 0 document).length + 1)
      (write spacing 0 document ++ []) = some (document, []) :=
    readValue?_write hd blank document h 0 rfl (by simp)
  rw [List.append_nil] at read
  rw [read?, no_blank, read]
  rfl

end Json

end Bulletin
