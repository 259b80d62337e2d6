import Realtime.Text

/-! The renaming of selectors in a stylesheet. The text is cut into names, each behind a mark, and
the single code units between them; how long a name is depends on the text behind its mark. -/

namespace Realtime

open List

inductive Piece where
  | copied (c : CodeUnit)
  | marked (mark : CodeUnit) (name : Text)
  deriving DecidableEq

namespace Piece

def text : Piece → Text
  | copied c => [c]
  | marked mark name => mark :: name

def rename (f : CodeUnit → Text → Text) : Piece → Piece
  | copied c => copied c
  | marked mark name => marked mark (f mark name)

end Piece

def pieces (isMark : CodeUnit → Bool) (nameEnd : Text → Nat) : Text → List Piece
  | [] => []
  | c :: rest =>
    if isMark c then
      .marked c (rest.take (nameEnd rest)) :: pieces isMark nameEnd (rest.drop (nameEnd rest))
    else .copied c :: pieces isMark nameEnd rest
termination_by s => s.length

def render (l : List Piece) : Text := l.flatMap Piece.text

def replaceNames (isMark : CodeUnit → Bool) (nameEnd : Text → Nat)
    (f : CodeUnit → Text → Text) (s : Text) : Text :=
  render ((pieces isMark nameEnd s).map (Piece.rename f))

end Realtime

namespace Realtime.Assets

open List

def backslash : CodeUnit := codeUnit '\\'

def hash : CodeUnit := codeUnit '#'

def dot : CodeUnit := codeUnit '.'

def isHexDigit (c : CodeUnit) : Bool :=
  (0x30 ≤ c && c ≤ 0x39) || (0x41 ≤ c && c ≤ 0x46) || (0x61 ≤ c && c ≤ 0x66)

def isLineEnd (c : CodeUnit) : Bool := c == 0x0D || c == 0x0A || c == 0x0C

def isCssWhiteSpace (c : CodeUnit) : Bool := c == 0x09 || c == 0x20 || isLineEnd c

def isNameUnit (c : CodeUnit) : Bool :=
  isAsciiLetterOrDigit c || c == codeUnit '_' || c == codeUnit '-' || 0x80 ≤ c

/-- How far a hexadecimal escape goes: at most so many digits and one white space. -/
def escapeEnd : Nat → Text → Nat
  | _, [] => 0
  | 0, c :: _ => if isCssWhiteSpace c then 1 else 0
  | digits + 1, c :: rest =>
    if isHexDigit c then 1 + escapeEnd digits rest else if isCssWhiteSpace c then 1 else 0

/-- How far one round of the loop of `cssIdentifierEnd` goes; it breaks where this is zero. -/
def identifierStep : Text → Nat
  | [] => 0
  | c :: rest =>
    if c = backslash then
      match rest with
      | [] => 0
      | d :: _ => if isLineEnd d then 0 else if isHexDigit d then 1 + escapeEnd 6 rest else 2
    else if isNameUnit c then 1 else 0

def cssIdentifierEnd (value : Text) : Nat :=
  if identifierStep value = 0 then 0
  else identifierStep value + cssIdentifierEnd (value.drop (identifierStep value))
termination_by value.length
decreasing_by
  cases value with
  | nil => exact absurd rfl ‹_›
  | cons c rest => simp only [List.length_drop, List.length_cons]; omega

def hexValue (c : CodeUnit) : Nat :=
  if c ≤ 0x39 then c.toNat - 0x30 else if c ≤ 0x46 then c.toNat - 0x37 else c.toNat - 0x57

/-- `String.fromCodePoint`. -/
def fromCodePoint (n : Nat) : Text :=
  if n < 0x10000 then [UInt16.ofNat n]
  else [UInt16.ofNat (0xD800 + (n - 0x10000) / 0x400),
    UInt16.ofNat (0xDC00 + (n - 0x10000) % 0x400)]

def escapedText (digits : Text) : Text :=
  let codePoint := digits.foldl (fun n c => 16 * n + hexValue c) 0
  if codePoint = 0 ∨ codePoint > 0x10FFFF then [0xFFFD] else fromCodePoint codePoint

/-- A code point is copied here by its one or two code units. -/
def decodeCssIdentifier : Text → Text
  | [] => []
  | c :: rest =>
    if c ≠ backslash then c :: decodeCssIdentifier rest
    else
      let digits := (rest.take 6).takeWhile isHexDigit
      if digits ≠ [] then
        let after := rest.drop digits.length
        escapedText digits ++
          decodeCssIdentifier (if after.head?.any isCssWhiteSpace then after.drop 1 else after)
      else
        match rest with
        | [] => []
        | d :: rest => d :: decodeCssIdentifier rest
termination_by value => value.length
decreasing_by
  · simp
  · split <;> simp only [List.length_drop, List.length_cons] <;> omega
  · simp only [List.length_cons]
    omega

def replaceSelector (value : Text) (mark : CodeUnit) (source target : Text) : Text :=
  replaceNames (· == mark) cssIdentifierEnd
    (fun _ identifier => if decodeCssIdentifier identifier = source then target else identifier)
    value

inductive SelectorKind where
  | id
  | className
  deriving DecidableEq

def SelectorKind.mark : SelectorKind → CodeUnit
  | id => hash
  | className => dot

/-- One call of `replaceSelector`. -/
structure Pass where
  kind : SelectorKind
  source : Text
  target : Text
  deriving DecidableEq

def applyPasses (passes : List Pass) (css : Text) : Text :=
  passes.foldl (fun css pass => replaceSelector css pass.kind.mark pass.source pass.target) css

end Realtime.Assets
