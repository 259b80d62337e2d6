import Realtime.Contracts
import Realtime.Utf8

/-! Durable records and their JSON text. The encoder of the serializer escapes every character
beyond ASCII, so that the bytes of a record are the characters of its text. -/

namespace Realtime.Persistence

open List

/-! Times. -/

def ticksPerMillisecond : Nat := 10000

def maximumTicks : Nat := 3155378976000000000

def unixEpochMilliseconds : Nat := 62135596800000

/-- An instant in ticks since 0001-01-01T00:00:00Z, with the offset of its local clock. -/
structure DateTimeOffset where
  utcTicks : Nat
  offsetMinutes : Int
  utcTicks_lt : utcTicks < maximumTicks
  offset_le : offsetMinutes.natAbs ≤ 14 * 60
  local_nonneg : 0 ≤ utcTicks + offsetMinutes * ticksPerMinute
  local_lt : utcTicks + offsetMinutes * ticksPerMinute < maximumTicks

namespace DateTimeOffset

def localTicks (time : DateTimeOffset) : Nat :=
  (time.utcTicks + time.offsetMinutes * ticksPerMinute).toNat

def toUnixTimeMilliseconds (time : DateTimeOffset) : Int :=
  (time.utcTicks / ticksPerMillisecond : Nat) - (unixEpochMilliseconds : Int)

/-- `none` where the time is out of range. -/
def fromUnixTimeMilliseconds (milliseconds : Int) : Option DateTimeOffset :=
  let ticks := (milliseconds + unixEpochMilliseconds) * ticksPerMillisecond
  if h : 0 ≤ ticks ∧ ticks < maximumTicks then
    some {
      utcTicks := ticks.toNat
      offsetMinutes := 0
      utcTicks_lt := by omega
      offset_le := by simp
      local_nonneg := by omega
      local_lt := by omega }
  else none

end DateTimeOffset

/-! Texts. -/

def digit (n : Nat) : CodeUnit := UInt16.ofNat (0x30 + n % 10)

def fixedDigits : Nat → Nat → Text
  | 0, _ => []
  | width + 1, n => fixedDigits width (n / 10) ++ [digit n]

/-- Year, month and day of a day since 0001-01-01. The year is taken to start in March, so that
a leap day is its last day. -/
def civilDate (days : Nat) : Nat × Nat × Nat :=
  let shifted := days + 306
  let era := shifted / 146097
  let dayOfEra := shifted % 146097
  let yearOfEra :=
    (dayOfEra - dayOfEra / 1460 + dayOfEra / 36524 - dayOfEra / 146096) / 365
  let dayOfYear := dayOfEra - (365 * yearOfEra + yearOfEra / 4 - yearOfEra / 100)
  let monthIndex := (5 * dayOfYear + 2) / 153
  let day := dayOfYear - (153 * monthIndex + 2) / 5 + 1
  let month := if monthIndex < 10 then monthIndex + 3 else monthIndex - 9
  let year := yearOfEra + 400 * era
  (if month ≤ 2 then year + 1 else year, month, day)

def zero : CodeUnit := codeUnit '0'

def fractionText (ticks : Nat) : Text :=
  if ticks = 0 then []
  else codeUnit '.' :: (fixedDigits 7 ticks).rdropWhile (fun c => c == zero)

def offsetText (minutes : Int) : Text :=
  (if minutes < 0 then codeUnit '-' else codeUnit '+') ::
    (fixedDigits 2 (minutes.natAbs / 60) ++ [codeUnit ':'] ++ fixedDigits 2 (minutes.natAbs % 60))

namespace DateTimeOffset

def secondText (seconds : Nat) : Text :=
  let date := civilDate (seconds / 86400)
  fixedDigits 4 date.1 ++ [codeUnit '-'] ++ fixedDigits 2 date.2.1 ++ [codeUnit '-'] ++
    fixedDigits 2 date.2.2 ++ [codeUnit 'T'] ++ fixedDigits 2 (seconds / 3600 % 24) ++
    [codeUnit ':'] ++ fixedDigits 2 (seconds / 60 % 60) ++ [codeUnit ':'] ++
    fixedDigits 2 (seconds % 60)

def toText (time : DateTimeOffset) : Text :=
  secondText (time.localTicks / 10000000) ++ fractionText (time.localTicks % 10000000) ++
    offsetText time.offsetMinutes

end DateTimeOffset

def hexText (c : CodeUnit) : Text :=
  (Nat.toDigits 16 c.toNat).map (fun d => codeUnit d.toUpper)

/-- `\uXXXX`. -/
def unicodeEscape (c : CodeUnit) : Text :=
  utf16 "\\u" ++ List.replicate (4 - (hexText c).length) zero ++ hexText c

/-- The characters of ASCII that `JavaScriptEncoder.Default` leaves as they are. -/
def isUnescaped (c : CodeUnit) : Bool :=
  0x20 ≤ c && c < 0x7F && !(utf16 "\"&'+<>\\`").contains c

def escapeUnit (c : CodeUnit) : Text :=
  if isUnescaped c then [c]
  else if c = 0x08 then utf16 "\\b"
  else if c = 0x09 then utf16 "\\t"
  else if c = 0x0A then utf16 "\\n"
  else if c = 0x0C then utf16 "\\f"
  else if c = 0x0D then utf16 "\\r"
  else if c = codeUnit '\\' then utf16 "\\\\"
  else unicodeEscape c

def quoted (s : Text) : Text :=
  utf16 "\"" ++ (writtenText s).flatMap escapeUnit ++ utf16 "\""

/-! Records. -/

/-- A `DurableRecord`; a payload that the deserializer leaves unset is null. -/
structure DurableRecord where
  sequence : Int
  payload : Option Text
  createdAt : DateTimeOffset
  expiresAt : Option DateTimeOffset := none

namespace DurableRecord

def payloadText (payload : Option Text) : Text :=
  match payload with
  | none => utf16 "null"
  | some text => quoted text

def timeText (time : DateTimeOffset) : Text := utf16 "\"" ++ time.toText ++ utf16 "\""

def expiryText (time : Option DateTimeOffset) : Text :=
  match time with
  | none => utf16 "null"
  | some time => timeText time

/-- `JsonSerializer.SerializeToUtf8Bytes`. -/
def encode (record : DurableRecord) : Text :=
  utf16 "\x7b\"sequence\":" ++ utf16 (toString record.sequence) ++
    utf16 ",\"payload\":" ++ payloadText record.payload ++
    utf16 ",\"createdAt\":" ++ timeText record.createdAt ++
    utf16 ",\"expiresAt\":" ++ expiryText record.expiresAt ++ utf16 "\x7d"

end DurableRecord

example : civilDate 719162 = (1970, 1, 1) ∧ civilDate 738944 = (2024, 2, 29) := by decide

/-! A time that was cut to milliseconds has no longer text. -/

theorem fixedDigits_length (width n : Nat) : (fixedDigits width n).length = width := by
  induction width generalizing n with
  | zero => rfl
  | succ width ih => simp [fixedDigits, ih]

theorem fixedDigits_add (width extra n : Nat) :
    fixedDigits (width + extra) n = fixedDigits width (n / 10 ^ extra) ++ fixedDigits extra n := by
  induction extra generalizing n with
  | zero => simp [fixedDigits]
  | succ extra ih =>
    rw [← Nat.add_assoc, fixedDigits, ih, fixedDigits, append_assoc, Nat.div_div_eq_div_mul,
      Nat.pow_succ, Nat.mul_comm 10]

theorem fixedDigits_mul_pow (width n : Nat) :
    fixedDigits width (n * 10 ^ width) = List.replicate width zero := by
  induction width with
  | zero => rfl
  | succ width ih =>
    have hdiv : n * 10 ^ (width + 1) / 10 = n * 10 ^ width := by
      rw [Nat.pow_succ, ← Nat.mul_assoc, Nat.mul_div_cancel _ (by decide)]
    have hdi : digit (n * 10 ^ (width + 1)) = zero := by
      rw [digit, Nat.pow_succ, ← Nat.mul_assoc, Nat.mul_mod_left]
      rfl
    rw [fixedDigits, hdiv, ih, hdi, replicate_succ']

theorem rdropWhile_length_le {α : Type} (p : α → Bool) (front back : List α) :
    (front.rdropWhile p).length ≤ ((front ++ back).rdropWhile p).length := by
  simp only [rdropWhile, length_reverse, reverse_append, dropWhile_append]
  split
  · exact Nat.le_refl _
  · have hle := (dropWhile_suffix (l := front.reverse) p).length_le
    rw [length_append]
    omega

theorem rdropWhile_append_zeros (front : Text) (width : Nat) :
    (front ++ List.replicate width zero).rdropWhile (fun c => c == zero) =
      front.rdropWhile (fun c => c == zero) := by
  have hze : ∀ c ∈ replicate width zero, (c == zero) = true := by simp
  rw [rdropWhile, reverse_append, reverse_replicate,
    dropWhile_append_of_pos hze, rdropWhile]

theorem fractionText_cut_length_le (ticks : Nat) :
    (fractionText (ticks / 10000 * 10000)).length ≤ (fractionText ticks).length := by
  unfold fractionText
  by_cases hcut : ticks / 10000 * 10000 = 0
  · rw [if_pos hcut]
    exact Nat.zero_le _
  · have hti : ticks ≠ 0 := by
      rintro rfl
      exact hcut rfl
    have hdiv : ticks / 10000 * 10000 / 10 ^ 4 = ticks / 10 ^ 4 := by omega
    have hze : fixedDigits 4 (ticks / 10000 * 10000) = replicate 4 zero :=
      fixedDigits_mul_pow 4 (ticks / 10000)
    rw [if_neg hcut, if_neg hti, length_cons, length_cons, fixedDigits_add 3 4,
      fixedDigits_add 3 4 ticks, hdiv, hze, rdropWhile_append_zeros]
    have hle := rdropWhile_length_le (fun c => c == zero) (fixedDigits 3 (ticks / 10 ^ 4))
      (fixedDigits 4 ticks)
    omega

namespace DateTimeOffset

theorem secondText_length (seconds : Nat) : (secondText seconds).length = 19 := by
  simp [secondText, fixedDigits_length]

theorem offsetText_length (minutes : Int) : (offsetText minutes).length = 6 := by
  simp [offsetText, fixedDigits_length]

theorem toText_length (time : DateTimeOffset) :
    time.toText.length = 25 + (fractionText (time.localTicks % 10000000)).length := by
  simp only [toText, length_append, secondText_length, offsetText_length]
  omega

theorem localTicks_mod (time : DateTimeOffset) :
    time.localTicks % 10000000 = time.utcTicks % 10000000 := by
  have hno := time.local_nonneg
  unfold localTicks
  simp only [ticksPerMinute, ticksPerSecond] at hno ⊢
  omega

theorem fromUnixTimeMilliseconds_toUnixTimeMilliseconds (time : DateTimeOffset) :
    ∃ cut, fromUnixTimeMilliseconds time.toUnixTimeMilliseconds = some cut ∧
      cut.utcTicks = time.utcTicks / 10000 * 10000 := by
  have hti : (time.toUnixTimeMilliseconds + unixEpochMilliseconds) * ticksPerMillisecond =
      ((time.utcTicks / 10000 * 10000 : Nat) : Int) := by
    simp only [toUnixTimeMilliseconds, ticksPerMillisecond, unixEpochMilliseconds]
    omega
  have hra : 0 ≤ (time.toUnixTimeMilliseconds + unixEpochMilliseconds) * ticksPerMillisecond ∧
      (time.toUnixTimeMilliseconds + unixEpochMilliseconds) * ticksPerMillisecond <
        maximumTicks := by
    have hlt := time.utcTicks_lt
    rw [hti]
    omega
  unfold fromUnixTimeMilliseconds
  rw [dif_pos hra]
  refine ⟨_, rfl, ?_⟩
  change Int.toNat _ = _
  rw [hti]
  rfl

theorem toText_cut_length_le {time cut : DateTimeOffset}
    (h : cut.utcTicks = time.utcTicks / 10000 * 10000) :
    cut.toText.length ≤ time.toText.length := by
  have hfr : cut.localTicks % 10000000 = time.localTicks % 10000000 / 10000 * 10000 := by
    rw [localTicks_mod, localTicks_mod, h]
    omega
  have hle := fractionText_cut_length_le (time.localTicks % 10000000)
  rw [toText_length, toText_length, hfr]
  omega

end DateTimeOffset

end Realtime.Persistence
