import Realtime.Text

/-! Surrogates, the length of a text in UTF-8, and what a JSON writer makes of a surrogate
that is alone. -/

namespace Realtime

def isHighSurrogate (c : CodeUnit) : Bool := 0xD800 ≤ c && c ≤ 0xDBFF

def isLowSurrogate (c : CodeUnit) : Bool := 0xDC00 ≤ c && c ≤ 0xDFFF

/-- The bytes of a code unit that is not part of a pair; a surrogate that is alone becomes
U+FFFD. -/
def unitBytes (c : CodeUnit) : Nat := if c < 0x80 then 1 else if c < 0x800 then 2 else 3

/-- `Encoding.UTF8.GetByteCount`. -/
def utf8Length : Text → Nat
  | [] => 0
  | [c] => unitBytes c
  | c :: d :: rest =>
    if isHighSurrogate c && isLowSurrogate d then 4 + utf8Length rest
    else unitBytes c + utf8Length (d :: rest)

/-- What the serializer writes for a string: a surrogate that is alone becomes U+FFFD. -/
def writtenText : Text → Text
  | [] => []
  | [c] => [if isHighSurrogate c || isLowSurrogate c then 0xFFFD else c]
  | c :: d :: rest =>
    if isHighSurrogate c && isLowSurrogate d then c :: d :: writtenText rest
    else (if isHighSurrogate c || isLowSurrogate c then 0xFFFD else c) :: writtenText (d :: rest)

theorem writtenText_length (s : Text) : (writtenText s).length = s.length := by
  fun_induction writtenText s with
  | case1 => rfl
  | case2 => rfl
  | case3 c d rest h ih => simp [ih]
  | case4 c d rest h ih => simp [ih]

end Realtime
