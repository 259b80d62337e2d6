import Realtime.Text

/-! String operations of ECMAScript, which has another notion of white space than the base
class library: U+FEFF is white space and U+0085 is not. -/

namespace Realtime.Sdk

def isJsWhiteSpace (c : CodeUnit) : Bool :=
  (0x09 ≤ c && c ≤ 0x0D) || c == 0x20 || c == 0xA0 || c == 0x1680 ||
    (0x2000 ≤ c && c ≤ 0x200A) || c == 0x2028 || c == 0x2029 || c == 0x202F || c == 0x205F ||
    c == 0x3000 || c == 0xFEFF

def trimStart (s : Text) : Text := s.dropWhile isJsWhiteSpace

def jsTrim (s : Text) : Text := (trimStart s).rdropWhile isJsWhiteSpace

theorem jsTrim_eq_nil {s : Text} : jsTrim s = [] ↔ s.all isJsWhiteSpace = true := by
  unfold jsTrim trimStart
  rw [List.rdropWhile_eq_nil_iff, List.all_eq_true]
  constructor
  · intro h c hc
    by_contra hws
    have hdr : s.dropWhile isJsWhiteSpace ≠ [] := by
      rw [ne_eq, List.dropWhile_eq_nil_iff]
      exact fun hall => hws (hall c hc)
    have hhe := List.head_dropWhile_not isJsWhiteSpace hdr
    rw [h _ (List.head_mem hdr)] at hhe
    cases hhe
  · intro h c hc
    exact h c ((List.dropWhile_suffix _).subset hc)

end Realtime.Sdk
