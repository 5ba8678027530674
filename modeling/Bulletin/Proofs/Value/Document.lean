import Bulletin.Proofs.Json.ReadBack
import Bulletin.Value.Operators

/-!
# Values and their documents

The text of a structured value in a rendered template and the indented text of any value are JSON.
Both are read back as the same document, which holds the data of the canonical form, but for the
doubles that are not finite: there is null for them in the former and their name in the latter.
-/

namespace Bulletin

namespace Value

mutual

/-- A document holds the data of a value: the same numbers, dates by their texts, and members in the
order of the entries, all of which have texts for keys. -/
inductive IsDocument : Value → Json → Prop where
  | null : IsDocument .null .null
  | bool (b : Bool) : IsDocument (.bool b) (.bool b)
  | int (n : Int) : IsDocument (.int n) (.int n)
  | double (x : Double) : IsDocument (.double x) (.double x)
  | str (s : String) : IsDocument (.str s) (.str s)
  | list (identity : Identity) {items : List Value} {documents : List Json}
      (h : AreDocuments items documents) : IsDocument (.list identity items) (.array documents)
  | mapping (identity : Identity) {entries : List (Value × Value)} {members : List (String × Json)}
      (h : AreMembers entries members) : IsDocument (.mapping identity entries) (.object members)
  | date (identity : Identity) (text : String) : IsDocument (.date identity text) (.str text)

inductive AreDocuments : List Value → List Json → Prop where
  | nil : AreDocuments [] []
  | cons {v : Value} {document : Json} {items : List Value} {documents : List Json}
      (first : IsDocument v document) (others : AreDocuments items documents) :
      AreDocuments (v :: items) (document :: documents)

inductive AreMembers : List (Value × Value) → List (String × Json) → Prop where
  | nil : AreMembers [] []
  | cons {key : String} {v : Value} {document : Json} {entries : List (Value × Value)}
      {members : List (String × Json)} (first : IsDocument v document)
      (others : AreMembers entries members) :
      AreMembers ((.str key, v) :: entries) ((key, document) :: members)

end

mutual

/-- The document of a value, with a choice for the doubles that are not finite. A whole number below
`10 ^ 21` is an integer. -/
def document (nonFinite : Double → Json) : Value → Json
  | .null => .null
  | .undefined => .null
  | .bool b => .bool b
  | .int n => .int n
  | .double x =>
    if x.isFinite then
      match x.toSmallInt? with
      | some n => .int n
      | none => .double x
    else nonFinite x
  | .str s => .str s
  | .list _ items => .array (documentItems nonFinite items)
  | .mapping _ entries => .object (documentMembers nonFinite [] entries)
  | .date _ text => .str text

def documentItems (nonFinite : Double → Json) : List Value → List Json
  | [] => []
  | v :: rest => document nonFinite v :: documentItems nonFinite rest

/-- The members `done`, and those of entries after them. Undefined values are left out, and of two
keys with one text the later value takes the earlier place. -/
def documentMembers (nonFinite : Double → Json) (done : List (String × Json)) :
    List (Value × Value) → List (String × Json)
  | [] => done
  | (k, v) :: rest =>
    documentMembers nonFinite
      (if v.isUndefined then done else putText k.display (document nonFinite v) done) rest

end

/-- What stands for a double that is not finite: its name, if names are asked for, or null. -/
def nonFinite (spelled : Bool) (x : Double) : Json :=
  if spelled then .str (String.ofList x.plainText) else .null

/-! ### The canonical form -/

theorem isDocument_canonicalDouble (spelled : Bool) (x : Double) :
    (canonicalDouble spelled x).IsDocument ((double x).document (nonFinite spelled)) := by
  rw [canonicalDouble, document, nonFinite]
  split
  · cases x.toSmallInt? with
    | some n => exact .int n
    | none => exact .double x
  · cases spelled with
    | true => exact .str _
    | false => exact .null

theorem AreMembers.putEntry {done : List (Value × Value)} {members : List (String × Json)}
    (h : AreMembers done members) (key : String) {v : Value} {document : Json}
    (hv : v.IsDocument document) :
    AreMembers (putEntry sameText (.str key) v done) (putText key document members) := by
  induction done generalizing members with
  | nil =>
    cases h
    exact .cons hv .nil
  | cons entry done ih =>
    cases h with
    | @cons k w below _ others first rest =>
      by_cases hk : k == key
      · simp only [putText, Bulletin.putEntry, sameText, hk, if_true]
        exact .cons hv rest
      · simp only [putText, Bulletin.putEntry, sameText, hk, Bool.false_eq_true, if_false]
        exact .cons first (ih rest)

mutual

theorem isDocument_canonical (spelled : Bool) :
    ∀ v : Value, (canonical spelled v).IsDocument (v.document (nonFinite spelled))
  | .null => .null
  | .undefined => .null
  | .bool b => .bool b
  | .int n => .int n
  | .double x => isDocument_canonicalDouble spelled x
  | .str s => .str s
  | .list identity items => .list identity (areDocuments_canonicalItems spelled items)
  | .mapping identity entries =>
    .mapping identity (areMembers_canonicalEntries spelled .nil entries)
  | .date identity text => .date identity text

theorem areDocuments_canonicalItems (spelled : Bool) :
    ∀ items : List Value,
      AreDocuments (canonicalItems spelled items) (documentItems (nonFinite spelled) items)
  | [] => .nil
  | v :: rest => .cons (isDocument_canonical spelled v) (areDocuments_canonicalItems spelled rest)

theorem areMembers_canonicalEntries (spelled : Bool) {done : List (Value × Value)}
    {members : List (String × Json)} (h : AreMembers done members) :
    ∀ entries : List (Value × Value),
      AreMembers (canonicalEntries spelled done entries)
        (documentMembers (nonFinite spelled) members entries)
  | [] => h
  | (k, v) :: rest => by
    rw [canonicalEntries, documentMembers]
    refine areMembers_canonicalEntries spelled ?_ rest
    split
    · exact h
    · exact h.putEntry k.display (isDocument_canonical spelled v)

end

/-! ### The document that is written -/

theorem areProperMembers_putText {key : String} {value : Json} {members : List (String × Json)}
    (hvalue : value.IsProper) (h : Json.AreProperMembers members) :
    Json.AreProperMembers (putText key value members) := by
  induction members with
  | nil => exact ⟨hvalue, trivial⟩
  | cons member members ih =>
    obtain ⟨k, below⟩ := member
    obtain ⟨hbelow, hmembers⟩ := h
    simp only [putText, putEntry]
    split
    · exact ⟨hvalue, hmembers⟩
    · exact ⟨hbelow, ih hmembers⟩

section

variable {choice : Double → Json}

mutual

theorem isProper_document (hchoice : ∀ x, (choice x).IsProper) :
    ∀ v : Value, (v.document choice).IsProper
  | .null => trivial
  | .undefined => trivial
  | .bool _ => trivial
  | .int _ => trivial
  | .double x => by
    rw [document]
    split
    · next finite =>
      split
      · trivial
      · exact finite
    · exact hchoice x
  | .str _ => trivial
  | .list _ items => areProper_documentItems hchoice items
  | .mapping _ entries =>
    areProper_documentMembers hchoice
      (show (([] : List (String × Json)).map Prod.fst).Nodup from List.nodup_nil) trivial entries
  | .date _ _ => trivial

theorem areProper_documentItems (hchoice : ∀ x, (choice x).IsProper) :
    ∀ items : List Value, Json.AreProper (documentItems choice items)
  | [] => trivial
  | v :: rest => ⟨isProper_document hchoice v, areProper_documentItems hchoice rest⟩

theorem areProper_documentMembers (hchoice : ∀ x, (choice x).IsProper)
    {done : List (String × Json)} (distinct : (done.map Prod.fst).Nodup)
    (h : Json.AreProperMembers done) : ∀ entries : List (Value × Value),
      ((documentMembers choice done entries).map Prod.fst).Nodup ∧
        Json.AreProperMembers (documentMembers choice done entries)
  | [] => ⟨distinct, h⟩
  | (k, v) :: rest => by
    rw [documentMembers]
    split
    · exact areProper_documentMembers hchoice distinct h rest
    · exact areProper_documentMembers hchoice (nodup_putText distinct)
        (areProperMembers_putText (isProper_document hchoice v) h) rest

end

end

mutual

theorem IsDocument.toJson_eq {v : Value} {document : Json} (h : v.IsDocument document)
    (proper : document.IsProper) : v.toJson = document := by
  match h with
  | .null => rfl
  | .bool b => rfl
  | .int n => rfl
  | .double x => exact if_pos proper
  | .str s => rfl
  | .list identity items => rw [toJson, items.toJson_eq proper]
  | .mapping identity members => rw [toJson, members.toJson_eq proper.2]
  | .date identity text => rfl

theorem AreDocuments.toJson_eq {items : List Value} {documents : List Json}
    (h : AreDocuments items documents) (proper : Json.AreProper documents) :
    toJsonItems items = documents := by
  match h with
  | .nil => rfl
  | .cons first others => rw [toJsonItems, first.toJson_eq proper.1, others.toJson_eq proper.2]

theorem AreMembers.toJson_eq {entries : List (Value × Value)} {members : List (String × Json)}
    (h : AreMembers entries members) (proper : Json.AreProperMembers members) :
    toJsonMembers entries = members := by
  match h with
  | .nil => rfl
  | .cons first others =>
    rw [toJsonMembers, first.toJson_eq proper.1, others.toJson_eq proper.2]
    rfl

end

theorem isProper_nonFinite (spelled : Bool) (x : Double) : (nonFinite spelled x).IsProper := by
  cases spelled <;> trivial

theorem toJson_canonical (spelled : Bool) (v : Value) :
    (canonical spelled v).toJson = v.document (nonFinite spelled) :=
  (isDocument_canonical spelled v).toJson_eq (isProper_document (isProper_nonFinite spelled) v)

/-- The document of a value is read back from its text in either layout. -/
theorem read?_write_document {d : Json.Dialect} {spacing : Json.Spacing} (hd : d.bareExponents)
    (blank : spacing.IsBlank d) (spelled : Bool) (v : Value) :
    Json.read? d (Json.write spacing 0 (canonical spelled v).toJson) =
      some (v.document (nonFinite spelled)) := by
  rw [toJson_canonical]
  exact Json.read?_write hd blank (isProper_document (isProper_nonFinite spelled) v)

theorem rendered_of_isStructured {v : Value} (h : v.isStructured) :
    v.rendered = (canonical false v).toJson.compact := by
  cases v with
  | list identity items => rfl
  | mapping identity entries => rfl
  | _ => cases h

/-- The text of a structured value and the indented text of any value are JSON, and what is read
from them holds the data of the canonical form. It is one document for both texts, except that a
double that is not finite is null in the former and its name in the latter. -/
theorem texts_read_back (v : Value) :
    (canonical false v).IsDocument (v.document fun _ => .null) ∧
      (canonical true v).IsDocument (v.document fun x => .str (String.ofList x.plainText)) ∧
        ∀ tabs words : Bool,
          (v.isStructured → Json.read? ⟨tabs, words, true⟩ v.rendered.toList =
            some (v.document fun _ => .null)) ∧
          Json.read? ⟨tabs, words, true⟩ v.prettyJson.toList =
            some (v.document fun x => .str (String.ofList x.plainText)) := by
  refine ⟨isDocument_canonical false v, isDocument_canonical true v, fun tabs words =>
    ⟨fun structured => ?_, ?_⟩⟩
  · rw [rendered_of_isStructured structured, Json.compact, String.toList_ofList]
    exact read?_write_document rfl (Json.Spacing.compact_isBlank _) false v
  · rw [prettyJson, Json.indented, String.toList_ofList]
    exact read?_write_document rfl (Json.Spacing.indented_isBlank _) true v

end Value

end Bulletin
