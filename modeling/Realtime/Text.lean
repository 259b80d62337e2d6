import Mathlib

/-! Strings as sequences of UTF-16 code units, with the string operations of
the base class library that the gateway and its clients use. -/

namespace Realtime

open List

abbrev CodeUnit := UInt16

abbrev Text := List CodeUnit

instance : LawfulBEq Text := inferInstance

def encodeChar (c : Char) : Text :=
  if c.toNat < 0x10000 then [UInt16.ofNat c.toNat]
  else [UInt16.ofNat (0xD800 + (c.toNat - 0x10000) / 0x400),
    UInt16.ofNat (0xDC00 + (c.toNat - 0x10000) % 0x400)]

def utf16 (s : String) : Text := s.toList.flatMap encodeChar

def codeUnit (c : Char) : CodeUnit := UInt16.ofNat c.toNat

/-- `char.IsWhiteSpace`. -/
def isWhiteSpace (c : CodeUnit) : Bool :=
  (0x09 ≤ c && c ≤ 0x0D) || c == 0x20 || c == 0x85 || c == 0xA0 || c == 0x1680 ||
    (0x2000 ≤ c && c ≤ 0x200A) || c == 0x2028 || c == 0x2029 || c == 0x202F || c == 0x205F ||
    c == 0x3000

def isAsciiLetterOrDigit (c : CodeUnit) : Bool :=
  (0x30 ≤ c && c ≤ 0x39) || (0x41 ≤ c && c ≤ 0x5A) || (0x61 ≤ c && c ≤ 0x7A)

/-- `char.IsLetterOrDigit` follows the Unicode tables of the runtime. Fixed for
every version of the tables are the ASCII range and that no white space is a
letter or a digit. -/
class CharTable where
  isLetterOrDigit : CodeUnit → Bool
  ascii : ∀ c, c < 0x80 → isLetterOrDigit c = isAsciiLetterOrDigit c
  notWhiteSpace : ∀ c, isLetterOrDigit c = true → isWhiteSpace c = false

export CharTable (isLetterOrDigit)

@[reducible] def asciiTable : CharTable where
  isLetterOrDigit := isAsciiLetterOrDigit
  ascii _ _ := rfl
  notWhiteSpace c h := by
    simp only [isAsciiLetterOrDigit, isWhiteSpace, Bool.or_eq_true, Bool.and_eq_true,
      decide_eq_true_eq, UInt16.le_iff_toNat_le, Bool.or_eq_false_iff, Bool.and_eq_false_iff,
      decide_eq_false_iff_not, beq_eq_false_iff_ne, ne_eq, ← UInt16.toNat_inj] at h ⊢
    simp only [UInt16.reduceToNat] at h ⊢
    omega

/-- `string.IsNullOrWhiteSpace` of a string that is not null. -/
def isBlank (s : Text) : Bool := s.all isWhiteSpace

def isNullOrWhiteSpace : Option Text → Bool
  | none => true
  | some s => isBlank s

theorem utf16_nonBlank (c : Char) (cs : List Char) (h : (encodeChar c).all isWhiteSpace = false) :
    isBlank (utf16 (String.ofList (c :: cs))) = false := by
  simp only [isBlank, utf16, String.toList_ofList, flatMap_cons, all_append, h,
    Bool.false_and]

def trim (s : Text) : Text := (s.dropWhile isWhiteSpace).rdropWhile isWhiteSpace

/-- `Split(separator, RemoveEmptyEntries | TrimEntries)`. -/
def splitTrimmed (separator : CodeUnit) (s : Text) : List Text :=
  ((s.splitOn separator).map trim).filter (fun segment => !segment.isEmpty)

/-- Texts without a separator can be read back from what precedes it, or the end. -/
theorem append_inj_of_notMem {separator : CodeUnit} {a a' b b' : Text} (ha : separator ∉ a)
    (ha' : separator ∉ a') (hb : ∀ c ∈ b.head?, c = separator)
    (hb' : ∀ c ∈ b'.head?, c = separator) (h : a ++ b = a' ++ b') : a = a' ∧ b = b' := by
  have htake : ∀ {a b : Text}, separator ∉ a → (∀ c ∈ b.head?, c = separator) →
      (a ++ b).takeWhile (· != separator) = a := by
    intro a b ha hb
    have hne : ∀ c ∈ a, (c != separator) = true := by
      intro c hc
      exact bne_iff_ne.mpr (fun he => ha (he ▸ hc))
    rw [takeWhile_append_of_pos hne]
    cases b with
    | nil => simp
    | cons c b => simp [hb c rfl]
  have heq := htake ha hb
  rw [h, htake ha' hb'] at heq
  exact ⟨heq.symm, append_cancel_left (heq ▸ h)⟩

theorem notMem_of_mem_splitOn (separator : CodeUnit) (text : Text) :
    ∀ part ∈ text.splitOn separator, separator ∉ part := by
  induction text with
  | nil => simp
  | cons c text ih =>
    rw [splitOn_cons_eq_if_modifyHead]
    split_ifs with hc
    · simpa using ih
    · cases hs : text.splitOn separator with
      | nil => simp
      | cons part parts =>
        rw [hs, forall_mem_cons] at ih
        rw [modifyHead_cons, forall_mem_cons, mem_cons, not_or]
        exact ⟨⟨fun he => hc (by simp [he]), ih.1⟩, ih.2⟩

theorem trim_length_le (s : Text) : (trim s).length ≤ s.length := by
  have hr := ( rdropWhile_prefix isWhiteSpace (s.dropWhile isWhiteSpace)).length_le
  have hl := (dropWhile_suffix (l := s) isWhiteSpace).length_le
  exact hr.trans hl

theorem intercalate_length (separator : CodeUnit) (segments : List Text) :
    ([separator].intercalate segments).length =
      (segments.map List.length).sum + (segments.length - 1) := by
  induction segments with
  | nil => rfl
  | cons head tail ih =>
    cases tail with
    | nil => simp
    | cons next tail =>
      rw [intercalate_cons_cons, length_append, length_append, ih]
      simp only [map_cons, sum_cons, length_cons, length_nil]
      omega

theorem filter_length_add_sum_le (segments : List Text) :
    ((segments.map trim).filter (fun segment => !segment.isEmpty)).length ≤ segments.length ∧
      (((segments.map trim).filter (fun segment => !segment.isEmpty)).map List.length).sum ≤
        (segments.map List.length).sum := by
  induction segments with
  | nil => simp
  | cons head tail ih =>
    have ht := trim_length_le head
    by_cases he : (trim head).isEmpty = true
    · simp only [map_cons, filter_cons, he, Bool.not_true, Bool.false_eq_true, if_false,
        length_cons, sum_cons]
      omega
    · simp only [map_cons, filter_cons, he, Bool.not_false, if_true,
        length_cons, sum_cons]
      omega

theorem intercalate_splitTrimmed_length_le (separator : CodeUnit) (s : Text) :
    ([separator].intercalate (splitTrimmed separator s)).length ≤ s.length := by
  have hs : s.length = (([separator].intercalate (s.splitOn separator)) : Text).length := by simp
  have hf := filter_length_add_sum_le (s.splitOn separator)
  rw [intercalate_length] at hs
  rw [intercalate_length]
  simp only [splitTrimmed]
  omega

end Realtime
