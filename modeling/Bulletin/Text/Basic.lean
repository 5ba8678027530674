import Bulletin.Text.Tables

/-!
# Texts

Blanks and what is left of a text without them at its ends, upper and lower case, texts between
quotes in messages, and the text of a file. Characters are those of Unicode. A character may become
several in another case, and a capital sigma becomes the final small one at the end of a word. The
zero-width space, the byte-order mark and the Mongolian vowel separator are no blanks.
-/

namespace Bulletin

/-! ### Blanks -/

def isWhiteSpace (c : Char) : Bool :=
  let n := c.toNat
  (0x09 ≤ n && n ≤ 0x0D) || n == 0x20 || n == 0x85 || n == 0xA0 || n == 0x1680
    || (0x2000 ≤ n && n ≤ 0x200A) || n == 0x2028 || n == 0x2029 || n == 0x202F || n == 0x205F
    || n == 0x3000

/-- A control that separates files, groups, records or units. -/
def isSeparator (c : Char) : Bool := 0x1C ≤ c.toNat && c.toNat ≤ 0x1F

def isBlank (c : Char) : Bool := isWhiteSpace c || isSeparator c

theorem isBlank_eq_false {c : Char} (hlow : 0x20 < c.toNat) (hhigh : c.toNat < 0x7F) :
    isBlank c = false := by
  simp only [isBlank, isWhiteSpace, isSeparator, Bool.or_eq_false_iff, Bool.and_eq_false_iff,
    decide_eq_false_iff_not, beq_eq_false_iff_ne]
  omega

theorem toNat_of_isDigit {c : Char} (h : c.isDigit) : 48 ≤ c.toNat ∧ c.toNat ≤ 57 :=
  Char.isDigit_iff_toNat.mp h

theorem isBlank_of_isDigit {c : Char} (h : c.isDigit) : isBlank c = false := by
  have hrange := toNat_of_isDigit h
  apply isBlank_eq_false <;> omega

/-- The text without characters of one kind at its ends. -/
def trimBy (kind : Char → Bool) (text : List Char) : List Char :=
  ((text.dropWhile kind).reverse.dropWhile kind).reverse

/-- What is left between characters of the kind is a text without any of them. -/
theorem trimBy_around {kind : Char → Bool} {before text after : List Char}
    (hbefore : ∀ c ∈ before, kind c) (h : ∀ c ∈ text, kind c = false)
    (hafter : ∀ c ∈ after, kind c) : trimBy kind (before ++ (text ++ after)) = text := by
  have keep (l : List Char) (hl : ∀ c ∈ l, kind c = false) : l.dropWhile kind = l := by
    cases l with
    | nil => rfl
    | cons c l => exact List.dropWhile_cons_of_neg (by simp [hl c (List.mem_cons_self ..)])
  rw [trimBy, List.dropWhile_append_of_pos hbefore]
  cases text with
  | nil =>
    have nothing : (after ++ []).dropWhile kind = [] := List.dropWhile_append_of_pos hafter
    rw [List.append_nil] at nothing
    rw [List.nil_append, nothing]
    rfl
  | cons c text =>
    have hends : ∀ c ∈ after.reverse, kind c := fun c hc => hafter c (List.mem_reverse.mp hc)
    rw [List.cons_append, List.dropWhile_cons_of_neg (by simp [h c (List.mem_cons_self ..)]),
      ← List.cons_append, List.reverse_append, List.dropWhile_append_of_pos hends,
      keep _ fun c hc => h c (List.mem_reverse.mp hc), List.reverse_reverse]

theorem trimBy_eq_self {kind : Char → Bool} {text : List Char} (h : ∀ c ∈ text, kind c = false) :
    trimBy kind text = text := by
  have around := trimBy_around (List.forall_mem_nil _) h (List.forall_mem_nil _)
  rwa [List.append_nil, List.nil_append] at around

/-- Nothing is taken away before a first character of another kind. -/
theorem trimBy_cons {kind : Char → Bool} {c : Char} (h : kind c = false) (rest : List Char) :
    ∃ others, trimBy kind (c :: rest) = c :: others := by
  have keep (l : List Char) : (c :: l).dropWhile kind = c :: l :=
    List.dropWhile_cons_of_neg (by simp [h])
  rw [trimBy, keep, List.reverse_cons, List.dropWhile_append, keep]
  split
  · exact ⟨[], rfl⟩
  · exact ⟨_, List.reverse_concat ..⟩

/-- What is left between characters of the kind is a text with others at its ends. -/
theorem trimBy_between {kind : Char → Bool} {before after : List Char} {first last : Char}
    (hbefore : ∀ c ∈ before, kind c) (hfirst : kind first = false) (middle : List Char)
    (hlast : kind last = false) (hafter : ∀ c ∈ after, kind c) :
    trimBy kind (before ++ first :: (middle ++ last :: after)) = first :: (middle ++ [last]) := by
  have hreversed : (first :: (middle ++ last :: after)).reverse =
      after.reverse ++ last :: (first :: middle).reverse := by simp
  have hends : ∀ c ∈ after.reverse, kind c := fun c hc => hafter c (List.mem_reverse.mp hc)
  rw [trimBy, List.dropWhile_append_of_pos hbefore, List.dropWhile_cons_of_neg (by simp [hfirst]),
    hreversed, List.dropWhile_append_of_pos hends, List.dropWhile_cons_of_neg (by simp [hlast])]
  simp

def trim (text : List Char) : List Char := trimBy isBlank text

/-! ### Case -/

def inRanges (ranges : List (Nat × Nat)) (n : Nat) : Bool :=
  ranges.any fun r => r.1 ≤ n && n ≤ r.2

/-- The code point that a range moves `n` to, if `n` is in it. -/
def CaseRange.map? (r : CaseRange) (n : Nat) : Option Char :=
  if r.first ≤ n && n ≤ r.last && (n - r.first) % r.step == 0 then
    some (Char.ofNat (n + r.shift).toNat)
  else none

/-- The characters that a character beyond ASCII becomes under a case mapping. -/
def mapCase (ranges : List CaseRange) (expansions : List (Nat × List Nat)) (c : Char) :
    List Char :=
  match expansions.lookup c.toNat with
  | some several => several.map Char.ofNat
  | none => [(ranges.findSome? (·.map? c.toNat)).getD c]

def isAscii (c : Char) : Bool := c.toNat < 128

def upperChar (c : Char) : List Char :=
  if isAscii c then [c.toUpper] else mapCase upperRanges upperExpansions c

def lowerChar (c : Char) : List Char :=
  if isAscii c then [c.toLower] else mapCase lowerRanges lowerExpansions c

def touchesWord (text : List Char) : Bool :=
  match text.dropWhile fun c => inRanges caseIgnorableRanges c.toNat with
  | [] => false
  | c :: _ => inRanges casedRanges c.toNat

def capitalSigma : Char := Char.ofNat 0x3A3

/-- Lower case of a text whose characters before it, the nearest first, are given. -/
def lowerAfter (before : List Char) : List Char → List Char
  | [] => []
  | c :: rest =>
    (if c = capitalSigma then
      [Char.ofNat (if touchesWord before && !touchesWord rest then 0x3C2 else 0x3C3)]
    else lowerChar c) ++ lowerAfter (c :: before) rest

def upperString (s : String) : String := String.ofList (s.toList.flatMap upperChar)

def lowerString (s : String) : String := String.ofList (lowerAfter [] s.toList)

/-! ### Quoted texts -/

/-- The lower-case hexadecimal digits of a number, filled up with zeros to a width. -/
def hexText (width n : Nat) : List Char :=
  let digits := Nat.toDigits 16 n
  List.replicate (width - digits.length) '0' ++ digits

/-- The escape of a character without a visible form, by the shortest of three widths. -/
def codePointEscape (n : Nat) : List Char :=
  if n < 0x100 then '\\' :: 'x' :: hexText 2 n
  else if n < 0x10000 then '\\' :: 'u' :: hexText 4 n
  else '\\' :: 'U' :: hexText 8 n

def quotedChar (quote c : Char) : List Char :=
  if c = quote || c = '\\' then ['\\', c]
  else if c = '\n' then ['\\', 'n']
  else if c = '\r' then ['\\', 'r']
  else if c = '\t' then ['\\', 't']
  else if inRanges invisibleRanges c.toNat then codePointEscape c.toNat
  else [c]

def quoteFor (text : List Char) : Char :=
  if text.contains '\'' && !text.contains '"' then '"' else '\''

def quoted (s : String) : String :=
  let quote := quoteFor s.toList
  String.ofList (quote :: (s.toList.flatMap (quotedChar quote) ++ [quote]))

/-! ### Texts of files -/

inductive Utf8Fault where
  | startByte
  | continuationByte
  | endOfData
  deriving DecidableEq, Repr

def Utf8Fault.reason : Utf8Fault → String
  | .startByte => "invalid start byte"
  | .continuationByte => "invalid continuation byte"
  | .endOfData => "unexpected end of data"

/-- Why octets are not UTF-8, and the first ill-formed octets with their position. -/
structure Utf8Error where
  fault : Utf8Fault
  start : Nat
  octets : List UInt8
  deriving DecidableEq, Repr

namespace Utf8Error

def reason (e : Utf8Error) : String := e.fault.reason

/-- The whole message. An octet that is ill-formed alone is told, and several are not. -/
def message (e : Utf8Error) : String :=
  let place :=
    match e.octets with
    | [b] => "byte 0x" ++ String.ofList (hexText 2 b.toNat) ++ " in position " ++ toString e.start
    | _ => "bytes in position " ++ toString e.start ++ "-"
      ++ toString (e.start + e.octets.length - 1)
  "'utf-8' codec can't decode " ++ place ++ ": " ++ e.reason

end Utf8Error

/-- A character that has begun: the bits read so far, how many octets are to follow, the bounds of
the next one, and the octets read. -/
structure OpenChar where
  bits : Nat
  following : Nat
  low : Nat
  high : Nat
  octets : List UInt8

namespace OpenChar

/-- Reads the first octet of a character; none for one that starts no character. -/
def ofByte? (octet : UInt8) : Option OpenChar :=
  let b := octet.toNat
  -- The second octet has tighter bounds where a character would have a shorter form, would be half
  -- of a surrogate pair, or would lie beyond the last code point.
  if b ≤ 0x7F then some ⟨b, 0, 0x80, 0xBF, [octet]⟩
  else if b < 0xC2 then none
  else if b ≤ 0xDF then some ⟨b - 0xC0, 1, 0x80, 0xBF, [octet]⟩
  else if b = 0xE0 then some ⟨0, 2, 0xA0, 0xBF, [octet]⟩
  else if b = 0xED then some ⟨0xD, 2, 0x80, 0x9F, [octet]⟩
  else if b ≤ 0xEF then some ⟨b - 0xE0, 2, 0x80, 0xBF, [octet]⟩
  else if b = 0xF0 then some ⟨0, 3, 0x90, 0xBF, [octet]⟩
  else if b ≤ 0xF3 then some ⟨b - 0xF0, 3, 0x80, 0xBF, [octet]⟩
  else if b = 0xF4 then some ⟨4, 3, 0x80, 0x8F, [octet]⟩
  else none

/-- The character continued by an octet; none for an octet out of bounds. -/
def next? (c : OpenChar) (octet : UInt8) : Option OpenChar :=
  let b := octet.toNat
  if c.low ≤ b && b ≤ c.high then
    some ⟨c.bits * 64 + (b - 0x80), c.following - 1, 0x80, 0xBF, c.octets ++ [octet]⟩
  else none

end OpenChar

/-- The characters that octets encode. The first octet stands at a position, after a character that
has begun, if one has. -/
def decodeFrom (position : Nat) :
    Option OpenChar → List UInt8 → Except Utf8Error (List Char)
  | none, [] => .ok []
  | some c, [] => .error ⟨.endOfData, position - c.octets.length, c.octets⟩
  | begun, octet :: rest =>
    let step := match begun with
      | none => OpenChar.ofByte? octet
      | some c => c.next? octet
    match step, begun with
    | none, none => .error ⟨.startByte, position, [octet]⟩
    | none, some c => .error ⟨.continuationByte, position - c.octets.length, c.octets⟩
    | some c, _ =>
      if c.following = 0 then (decodeFrom (position + 1) none rest).map (Char.ofNat c.bits :: ·)
      else decodeFrom (position + 1) (some c) rest

def decodeUtf8 (octets : List UInt8) : Except Utf8Error (List Char) := decodeFrom 0 none octets

/-- A text with every line end a line feed: a carriage return is one, alone or with a line feed
after it. -/
def unifyNewlines : List Char → List Char
  | [] => []
  | '\r' :: '\n' :: rest => '\n' :: unifyNewlines rest
  | c :: rest => (if c = '\r' then '\n' else c) :: unifyNewlines rest

/-- The text of a file: its octets as UTF-8, with every line end a line feed. -/
def readText (octets : List UInt8) : Except Utf8Error String :=
  (decodeUtf8 octets).map fun text => String.ofList (unifyNewlines text)

end Bulletin
