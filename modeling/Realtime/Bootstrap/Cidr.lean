import Realtime.Bootstrap.Layout
import Realtime.Sdk.Json

/-! The test of an address range in the configuration of the bootstrap script. The length of the
network goes through `Number`, which reads more than decimal digits. -/

namespace Realtime.Bootstrap

open Sdk List

/-- To the nearest integer, and from the middle to an even one. -/
def roundHalfEven (x : ℚ) : ℤ :=
  if x - ⌊x⌋ < 1 / 2 ∨ (x - ⌊x⌋ = 1 / 2 ∧ ⌊x⌋ % 2 = 0) then ⌊x⌋ else ⌊x⌋ + 1

/-- The distance of the doubles around a number. -/
def doubleUnit (x : ℚ) : ℚ := 2 ^ max (Int.log 2 |x| - 52) (-1074)

def roundToDouble (x : ℚ) : ℚ := roundHalfEven (x / doubleUnit x) * doubleUnit x

/-- `none` where there is no digit, or another character. -/
def radixValue (radix : Nat) (digits : Text) : Option Nat :=
  let value (c : CodeUnit) : Nat :=
    if isDigit c then c.toNat - 0x30
    else if codeUnit 'a' ≤ c then c.toNat - 0x57
    else if codeUnit 'A' ≤ c then c.toNat - 0x37 else radix
  if digits = [] ∨ digits.any (fun c => decide (radix ≤ value c)) then none
  else some (digits.foldl (fun sum c => radix * sum + value c) 0)

def radixOf (c : CodeUnit) : Option Nat :=
  if c = codeUnit 'x' ∨ c = codeUnit 'X' then some 16
  else if c = codeUnit 'o' ∨ c = codeUnit 'O' then some 8
  else if c = codeUnit 'b' ∨ c = codeUnit 'B' then some 2
  else none

/-- A decimal literal without its sign. -/
def decimalLiteral (negative : Bool) (text : Text) : Double :=
  let whole := text.takeWhile isDigit
  let rest := text.dropWhile isDigit
  let fraction := if rest.head? = some (codeUnit '.') then rest.tail.takeWhile isDigit else []
  let rest := if rest.head? = some (codeUnit '.') then rest.tail.dropWhile isDigit else rest
  if text = utf16 "Infinity" then .infinite negative
  else if whole ++ fraction = [] then .nan
  else
    match parseExponent rest with
    | some exponent =>
      decimalValue negative (digitsValue (whole ++ fraction)) (exponent - fraction.length)
    | none => .nan

/-- `Number` of a string, not rounded yet. -/
def toNumber (text : Text) : Double :=
  match jsTrim text with
  | [] => .finite 0
  | [c] => decimalLiteral false [c]
  | c :: d :: rest =>
    if c = codeUnit '+' then decimalLiteral false (d :: rest)
    else if c = codeUnit '-' then decimalLiteral true (d :: rest)
    else
      match if c = codeUnit '0' then radixOf d else none with
      | some radix => (radixValue radix rest).elim .nan (decimalValue false · 0)
      | none => decimalLiteral false (c :: d :: rest)

/-- What precedes the last slash. -/
def addressText (text : Text) : Text := (text.reverse.dropWhile (· ≠ slash)).tail.reverse

def lengthText (text : Text) : Text := (text.reverse.takeWhile (· ≠ slash)).reverse

/-- `isIP` is that of `node:net`: the version of an address, or zero. -/
def isCidr (isIP : Text → Nat) : JsValue → Bool
  | .string text =>
    let address := addressText text
    if address = [] then false
    else
      match toNumber (lengthText text) with
      | .finite value =>
        let length := roundToDouble value
        decide (length.den = 1) &&
          ((isIP address == 4 && decide (0 ≤ length ∧ length ≤ 32)) ||
            (isIP address == 6 && decide (0 ≤ length ∧ length ≤ 128)))
      | _ => false
  | _ => false

/-- The usual decimal text of a number. -/
def IsDecimal (text : Text) (n : Nat) : Prop :=
  text ≠ [] ∧ text.all isDigit = true ∧ (text.head? = some (codeUnit '0') → text.length = 1) ∧
    digitsValue text = n

theorem roundHalfEven_intCast (n : ℤ) : roundHalfEven n = n := by
  simp [roundHalfEven]

theorem sub_half_le_roundHalfEven (x : ℚ) : x - 1 / 2 ≤ roundHalfEven x := by
  have hlt := Int.lt_floor_add_one x
  unfold roundHalfEven
  split
  · next h =>
    rcases h with h | h
    · linarith
    · linarith [h.1]
  · push_cast
    linarith

/-- Small numbers are doubles, and a large one does not become small. -/
theorem roundToDouble_natCast (n : Nat) :
    roundToDouble n = n ∨ 128 < n ∧ 128 < roundToDouble n := by
  have hun : doubleUnit n = 2 ^ ((Nat.log 2 n : ℤ) - 52) := by
    rw [doubleUnit, abs_of_nonneg (Nat.cast_nonneg n), Int.log_natCast, max_eq_left (by omega)]
  unfold roundToDouble
  rcases Nat.lt_or_ge (Nat.log 2 n) 53 with hsm | hla
  · left
    obtain ⟨m, hm⟩ := Nat.exists_eq_add_of_le (Nat.lt_succ_iff.mp hsm)
    have hinv : doubleUnit n = (2 ^ m)⁻¹ := by
      rw [hun, ← zpow_natCast, ← zpow_neg]
      congr 1
      omega
    have hca : (n : ℚ) / doubleUnit n = ((n * 2 ^ m : ℕ) : ℤ) := by
      rw [hinv, div_inv_eq_mul]
      push_cast
      rfl
    rw [hca, roundHalfEven_intCast, ← hca]
    exact div_mul_cancel₀ _ (by rw [hinv]; positivity)
  · right
    have hpow : 2 ^ Nat.log 2 n ≤ n := by
      refine Nat.pow_log_le_self 2 ?_
      rintro rfl
      simp at hla
    have hn : 2 ^ 53 ≤ n := (Nat.pow_le_pow_right (by omega) hla).trans hpow
    have hpos : 0 < doubleUnit n := by
      rw [hun]
      exact zpow_pos (by norm_num) _
    have hle : doubleUnit n ≤ n := by
      rw [hun]
      calc (2 : ℚ) ^ ((Nat.log 2 n : ℤ) - 52) ≤ 2 ^ (Nat.log 2 n : ℤ) :=
            zpow_le_zpow_right₀ (by norm_num) (by omega)
        _ = ((2 ^ Nat.log 2 n : ℕ) : ℚ) := by
            rw [zpow_natCast]
            push_cast
            rfl
        _ ≤ n := by exact_mod_cast hpow
    have hro := mul_le_mul_of_nonneg_right
      (sub_half_le_roundHalfEven ((n : ℚ) / doubleUnit n)) hpos.le
    rw [sub_mul, div_mul_cancel₀ _ hpos.ne'] at hro
    have hca : (2 : ℚ) ^ 53 ≤ n := by exact_mod_cast hn
    exact ⟨by omega, by linarith⟩

theorem isJsWhiteSpace_of_isDigit {c : CodeUnit} (h : isDigit c = true) :
    isJsWhiteSpace c = false := by
  simp only [isDigit, isJsWhiteSpace, Bool.and_eq_true, decide_eq_true_eq, UInt16.le_iff_toNat_le,
    Bool.or_eq_false_iff, Bool.and_eq_false_iff, decide_eq_false_iff_not, beq_eq_false_iff_ne, ne_eq,
    ← UInt16.toNat_inj] at h ⊢
  simp only [UInt16.reduceToNat] at h ⊢
  omega

theorem toNumber_of_decimal {text : Text} {n : Nat} (h : IsDecimal text n) :
    toNumber text = decimalValue false n 0 := by
  obtain ⟨hne, hdi, hze, rfl⟩ := h
  rw [all_eq_true] at hdi
  have htr : jsTrim text = text := by
    have hsp : ∀ c ∈ text, ¬ isJsWhiteSpace c = true := fun c hc => by
      simp [isJsWhiteSpace_of_isDigit (hdi c hc)]
    have hst : trimStart text = text :=
      dropWhile_eq_self_iff.mpr fun hl => hsp _ (getElem_mem hl)
    rw [jsTrim, hst]
    exact rdropWhile_eq_self_iff.mpr fun hl => hsp _ (getLast_mem hl)
  have hta : text.takeWhile isDigit = text := takeWhile_eq_self_iff.mpr hdi
  have hdr : text.dropWhile isDigit = [] := dropWhile_eq_nil_iff.mpr hdi
  have hli : decimalLiteral false text = decimalValue false (digitsValue text) 0 := by
    have hin : text ≠ utf16 "Infinity" := by
      rintro rfl
      exact nomatch hdi (codeUnit 'I') (by decide)
    simp [decimalLiteral, hta, hdr, hin, hne, parseExponent]
  unfold toNumber
  rw [htr]
  split
  · exact absurd rfl hne
  · exact hli
  · next c d rest =>
    have hc := hdi c mem_cons_self
    have hpl : c ≠ codeUnit '+' := by rintro rfl; cases hc
    have hmi : c ≠ codeUnit '-' := by rintro rfl; cases hc
    have hfi : c ≠ codeUnit '0' := by
      rintro rfl
      cases hze rfl
    simp only [hpl, hmi, hfi, if_false]
    exact hli

theorem decimalValue_natCast (n : Nat) :
    decimalValue false n 0 = if overflowBound ≤ n then .infinite false else .finite n := by
  simp [decimalValue, Rat.mkRat_one]

/-- `Number` of the text is an integer from zero to a maximum. -/
def ReadsUpTo (maximum : Nat) (length : Text) : Prop :=
  ∃ value, toNumber length = .finite value ∧ (roundToDouble value).den = 1 ∧
    0 ≤ roundToDouble value ∧ roundToDouble value ≤ maximum

theorem readsUpTo_of_decimal {maximum n : Nat} {length : Text} (h : IsDecimal length n)
    (hmax : maximum ≤ 128) : ReadsUpTo maximum length ↔ n ≤ maximum := by
  unfold ReadsUpTo
  rw [toNumber_of_decimal h, decimalValue_natCast]
  by_cases hov : overflowBound ≤ n
  · have hla : 128 < n := lt_of_lt_of_le (by decide +kernel) hov
    simp [hov]
    omega
  have hca : (maximum : ℚ) ≤ 128 := by exact_mod_cast hmax
  rcases roundToDouble_natCast n with hex | ⟨hla, hro⟩
  · simp [hov, hex]
  · have hgt : ¬ roundToDouble n ≤ maximum := by linarith
    simp [hov, hgt]
    omega

/-- The versions of an address, each with its largest length. -/
def cidrVersions : List (Nat × Nat) := [(4, 32), (6, 128)]

theorem isCidr_iff {isIP : Text → Nat} (hisIP : isIP [] = 0) (text : Text) :
    isCidr isIP (.string text) = true ↔ ∃ version ∈ cidrVersions,
      isIP (addressText text) = version.1 ∧ ReadsUpTo version.2 (lengthText text) := by
  unfold isCidr ReadsUpTo cidrVersions
  by_cases hem : addressText text = []
  · simp [hem, hisIP]
  · simp only [hem, if_false]
    generalize toNumber (lengthText text) = number
    cases number with
    | finite value =>
      simp
      tauto
    | _ => simp

theorem addressText_append_lengthText {text : Text} (h : slash ∈ text) :
    text = addressText text ++ slash :: lengthText text := by
  have hdr : text.reverse.dropWhile (· ≠ slash) ≠ [] := by
    rw [ne_eq, dropWhile_eq_nil_iff]
    intro hall
    simpa using hall slash (mem_reverse.mpr h)
  have hhe : (text.reverse.dropWhile (· ≠ slash)).head hdr = slash := by
    simpa using head_dropWhile_not (· ≠ slash) hdr
  have hco := cons_head_tail hdr
  rw [hhe] at hco
  calc text = text.reverse.reverse := by simp
    _ = (text.reverse.takeWhile (· ≠ slash) ++
        slash :: (text.reverse.dropWhile (· ≠ slash)).tail).reverse := by
      rw [hco, takeWhile_append_dropWhile]
    _ = addressText text ++ slash :: lengthText text := by simp [addressText, lengthText]

theorem lengthText_slash {address length : Text} (h : ∀ c ∈ length, c ≠ slash) :
    addressText (address ++ slash :: length) = address ∧
      lengthText (address ++ slash :: length) = length := by
  have hsl : ∀ c ∈ length.reverse, decide (c ≠ slash) = true := by simpa using h
  have hre : (address ++ slash :: length).reverse =
      length.reverse ++ slash :: address.reverse := by simp
  constructor
  · rw [addressText, hre, dropWhile_append_of_pos hsl]
    simp
  · rw [lengthText, hre, takeWhile_append_of_pos hsl]
    simp

/-- The test and the grammar of an address range differ exactly where `Number` reads a length that
is not the usual decimal text of its number. -/
theorem isCidr_iff_decimal (isIP : Text → Nat) (hisIP : isIP [] = 0) (text : Text) :
    (isCidr isIP (.string text) = true ↔ ∃ address length n,
      text = address ++ slash :: length ∧ IsDecimal length n ∧
        ∃ version ∈ cidrVersions, isIP address = version.1 ∧ n ≤ version.2) ↔
    (∃ n, IsDecimal (lengthText text) n) ∨ ∀ version ∈ cidrVersions,
      isIP (addressText text) = version.1 → ¬ ReadsUpTo version.2 (lengthText text) := by
  have hmax : ∀ version ∈ cidrVersions, version.2 ≤ 128 := by decide
  have hpos : ∀ version ∈ cidrVersions, version.1 ≠ 0 := by decide
  have hparts : ∀ {address length n}, text = address ++ slash :: length → IsDecimal length n →
      addressText text = address ∧ lengthText text = length := by
    rintro address length n rfl hn
    refine lengthText_slash fun c hc => ?_
    rintro rfl
    cases all_eq_true.mp hn.2.1 slash hc
  rw [isCidr_iff hisIP]
  by_cases hde : ∃ n, IsDecimal (lengthText text) n
  · simp only [hde, true_or, iff_true]
    obtain ⟨n, hn⟩ := hde
    constructor
    · rintro ⟨version, hv, hip, hre⟩
      have hsl : slash ∈ text := by
        by_contra hsl
        have had : addressText text = [] := by
          rw [addressText, dropWhile_eq_nil_iff.mpr]
          · rfl
          · intro c hc
            simpa using fun heq : c = slash => hsl (heq ▸ mem_reverse.mp hc)
        rw [had, hisIP] at hip
        exact hpos version hv hip.symm
      exact ⟨_, _, n, addressText_append_lengthText hsl, hn, version, hv, hip,
        (readsUpTo_of_decimal hn (hmax version hv)).mp hre⟩
    · rintro ⟨address, length, n, hte, hn, version, hv, hip, hle⟩
      obtain ⟨had, hle'⟩ := hparts hte hn
      rw [had, hle']
      exact ⟨version, hv, hip, (readsUpTo_of_decimal hn (hmax version hv)).mpr hle⟩
  · simp only [hde, false_or]
    constructor
    · intro h version hv hip hre
      obtain ⟨address, length, n, hte, hn, -⟩ := h.mp ⟨version, hv, hip, hre⟩
      exact hde ⟨n, (hparts hte hn).2 ▸ hn⟩
    · intro h
      constructor
      · rintro ⟨version, hv, hip, hre⟩
        exact absurd hre (h version hv hip)
      · rintro ⟨address, length, n, hte, hn, -⟩
        exact absurd ⟨n, (hparts hte hn).2 ▸ hn⟩ hde

def exampleIsIP (address : Text) : Nat := if address = utf16 "10.0.0.0" then 4 else 0

theorem isCidr_iff_decimal_example :
    isCidr exampleIsIP (.string (utf16 "10.0.0.0/8")) = true := by
  have hde : IsDecimal (utf16 "8") 8 := ⟨by decide, by decide, by decide, by decide⟩
  exact ((isCidr_iff_decimal exampleIsIP (by decide) (utf16 "10.0.0.0/8")).mpr
    (.inl ⟨8, hde⟩)).mpr ⟨utf16 "10.0.0.0", utf16 "8", 8, rfl, hde, (4, 32), by decide⟩

/-- Nothing behind the slash is read as zero, the length of the whole address space. -/
theorem isCidr_accepts_empty_length :
    isCidr exampleIsIP (.string (utf16 "10.0.0.0/")) = true ∧ ¬ ∃ address length n,
      utf16 "10.0.0.0/" = address ++ slash :: length ∧ IsDecimal length n := by
  refine ⟨by decide +kernel, ?_⟩
  rintro ⟨address, length, n, hte, hne, hdi, -⟩
  obtain ⟨digits, last, rfl⟩ := (eq_nil_or_concat' length).resolve_left hne
  have hla : some slash = some last := by
    refine (congrArg getLast? hte).trans ?_
    rw [← cons_append, ← append_assoc, getLast?_concat]
  cases hla
  simp at hdi
  cases hdi.2

end Realtime.Bootstrap
