import Bulletin.Command
import Bulletin.Host.Tables

/-!
# Streams

What reaches the two streams, where neither is a terminal. Escape sequences that style or move a
terminal are taken out of what is printed: an escape character, a bracket, parameters, intermediate
characters and a final character, each from a range of its own. In a message for the diagnostic
stream, emoji stand for their names, control characters that would move the cursor are left out, and
tabs are replaced by spaces up to the next multiple of eight columns.
-/

namespace Bulletin

namespace Host

/-! ### Printed texts -/

/-- A parameter of an escape sequence: a digit, or one of the six characters after the digits. -/
def isStyleParameter (c : Char) : Bool := 0x30 ≤ c.toNat && c.toNat ≤ 0x3F

def isStyleIntermediate (c : Char) : Bool := 0x20 ≤ c.toNat && c.toNat ≤ 0x2F

def isStyleFinal (c : Char) : Bool := 0x40 ≤ c.toNat && c.toNat ≤ 0x7E

/-- The number of characters of the escape sequence that a text starts with, if it does. -/
def styleWidth? : List Char → Option Nat
  | '\x1b' :: '[' :: rest =>
    let parameters := rest.takeWhile isStyleParameter
    let afterParameters := rest.drop parameters.length
    let intermediates := afterParameters.takeWhile isStyleIntermediate
    match afterParameters.drop intermediates.length with
    | c :: _ =>
      if isStyleFinal c then some (parameters.length + intermediates.length + 3) else none
    | [] => none
  | _ => none

/-- A text without its first characters and without escape sequences. -/
def dropStyles (skip : Nat) : List Char → List Char
  | [] => []
  | c :: rest =>
    match skip with
    | more + 1 => dropStyles more rest
    | 0 =>
      match styleWidth? (c :: rest) with
      | some width => dropStyles (width - 1) rest
      | none => c :: dropStyles 0 rest

def echo (s : String) : String := String.ofList (dropStyles 0 s.toList)

theorem styleWidth?_of_ne {c : Char} (h : c ≠ '\x1b') (rest : List Char) :
    styleWidth? (c :: rest) = none := by
  unfold styleWidth?
  split
  · next heq => exact absurd (List.cons.inj heq).1 h
  · rfl

theorem dropStyles_of_not_mem {text : List Char} (h : '\x1b' ∉ text) :
    dropStyles 0 text = text := by
  induction text with
  | nil => rfl
  | cons c rest ih =>
    obtain ⟨differ, absent⟩ := not_or.mp (mt List.mem_cons.mpr h)
    simp only [dropStyles, styleWidth?_of_ne (Ne.symm differ), ih absent]

/-- A text without escape characters is printed as it is. -/
theorem echo_of_not_mem {s : String} (h : '\x1b' ∉ s.toList) : echo s = s := by
  rw [echo, dropStyles_of_not_mem h, String.ofList_toList]

/-! ### Emoji by name -/

def emojiEntry (word : List Char) : List Char × List Char :=
  let name := word.takeWhile (· != '=')
  (name, word.drop (name.length + 1))

def emojiOfName? (name : List Char) : Option (List Char) :=
  emojiLines.findSome? fun line => ((line.toList.splitOn ' ').map emojiEntry).lookup name

/-- The forms of an emoji, each as it is asked for and with the character that selects it. -/
def emojiForms : List (List Char × Char) :=
  [("-text".toList, '\ufe0e'), ("-emoji".toList, '\ufe0f')]

/-- A name without the form that is asked for, and what selects the form. -/
def takeForm (code : List Char) : List Char × List Char :=
  match emojiForms.find? fun form => form.1.isSuffixOf code with
  | some (ending, selector) => (code.take (code.length - ending.length), [selector])
  | none => (code, [])

def expandCode (code : List Char) : List Char :=
  let (name, selector) := takeForm code
  match emojiOfName? (lowerAfter [] name) with
  | some emoji => emoji ++ selector
  | none => ':' :: (code ++ [':'])

/-- A text with emoji for their names. If a colon has been read that may stand before a name, what
follows it so far is given. -/
def expandEmoji : Option (List Char) → List Char → List Char
  | none, [] => []
  | some code, [] => ':' :: code
  | none, c :: rest =>
    if c = ':' then expandEmoji (some []) rest else c :: expandEmoji none rest
  | some code, c :: rest =>
    if c = ':' then expandCode code ++ expandEmoji none rest
    else if isBlank c then ':' :: (code ++ c :: expandEmoji none rest)
    else expandEmoji (some (code ++ [c])) rest

/-! ### The width of a text -/

def charWidth (c : Char) : Nat :=
  if inRanges zeroWidthRanges c.toNat then 0
  else if inRanges doubleWidthRanges c.toNat then 2
  else 1

/-- The number of columns that an emoji mark adds to the character before it. -/
def emojiMarkWidth : Option Char → Nat
  | some c => if inRanges emojiVariantRanges c.toNat then 1 else 0
  | none => 0

/-- The number of columns that a text fills after a character that fills some, unless that has
been marked already. -/
def widthAfter (before : Option Char) : List Char → Nat
  | [] => 0
  | '\u200d' :: _ :: rest => widthAfter before rest
  | c :: rest =>
    if c = '\ufe0f' then emojiMarkWidth before + widthAfter none rest
    else if charWidth c = 0 then widthAfter before rest
    else charWidth c + widthAfter (some c) rest

def textWidth (text : List Char) : Nat := widthAfter none text

/-! ### Messages -/

def movesCursor (c : Char) : Bool :=
  c = '\x07' || c = '\x08' || c = '\x0b' || c = '\x0c' || c = '\r'

/-- The number of columns from a column to the next multiple of eight, which may be itself. -/
def toTabStop (column : Nat) : Nat := (8 - column % 8) % 8

/-- The parts of a line, from a column on, with spaces for the tabs between them. A tab is at least
one space. -/
def joinAtTabStops (column : Nat) : List (List Char) → List Char
  | [] => []
  | [part] => part
  | part :: rest =>
    let reached := column + textWidth (part ++ [' '])
    part ++ ' ' :: List.replicate (toTabStop reached) ' '
      ++ joinAtTabStops (reached + toTabStop reached) rest

def expandTabs (text : List Char) : List Char :=
  ['\n'].intercalate ((text.splitOn '\n').map fun line => joinAtTabStops 0 (line.splitOn '\t'))

def console (message : String) : String :=
  String.ofList (expandTabs ((expandEmoji none message.toList).filter (!movesCursor ·)))

end Host

end Bulletin
