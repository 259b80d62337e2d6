import Realtime.Backoff
import Realtime.Sdk.Protocol
import Realtime.Validation

/-! The delays before a reconnect: `ExponentialRealtimeRetryPolicy.GetDelay` of the .NET
client and the delay that `scheduleReconnect` of the browser client hands to its timer.
Both are computed in exact arithmetic. -/

namespace Realtime

open Backoff

def Double.value : Double → ℚ
  | .finite value => value
  | _ => 0

theorem jitterRatio_bounds {ratio : Double} (h : ProtocolValidator.isJitterRatio ratio = true) :
    0 ≤ ratio.value ∧ ratio.value ≤ 1 := by
  cases ratio with
  | finite value =>
    simp only [ProtocolValidator.isJitterRatio, Bool.and_eq_true, decide_eq_true_eq] at h
    exact h
  | nan => cases h
  | infinite negative => cases h

structure ExponentialRealtimeRetryPolicy where
  initialDelayMilliseconds : Int := 250
  maximumDelayMilliseconds : Int := 30000
  jitterRatio : Double := .finite (1 / 5)
  delays_valid : 0 ≤ initialDelayMilliseconds ∧
    initialDelayMilliseconds ≤ maximumDelayMilliseconds ∧
    maximumDelayMilliseconds ≤ 300000 := by decide
  jitterRatio_valid : ProtocolValidator.isJitterRatio jitterRatio = true := by decide +kernel

namespace ExponentialRealtimeRetryPolicy

variable (policy : ExponentialRealtimeRetryPolicy) (advice : Option ReconnectAdvice)

def initialDelay : Int :=
  (advice.map (·.initialDelayMilliseconds)).getD policy.initialDelayMilliseconds

def maximumDelay : Int :=
  (advice.map (·.maximumDelayMilliseconds)).getD policy.maximumDelayMilliseconds

def jitter : ℚ := ((advice.map (·.jitterRatio)).getD policy.jitterRatio).value

def baseDelay (attempt : Int) : ℚ :=
  let initial := policy.initialDelay advice
  let maximum := policy.maximumDelay advice
  if initial = 0 ∧ 0 < maximum then
    if attempt = 1 then 0 else min maximum (2 ^ (min (attempt - 2) 30).toNat)
  else min maximum (initial * 2 ^ (min (attempt - 1) 30).toNat)

/-- `GetDelay`, which throws for an attempt before the first one. -/
def getDelay (attempt : Int) (random : ℚ) : Option ℚ :=
  if attempt < 1 then none
  else
    let delay := policy.baseDelay advice attempt
    if 0 < policy.jitter advice then
      let factor := 1 + (random * 2 - 1) * policy.jitter advice
      some (max 0 (min (policy.maximumDelay advice) (delay * factor)))
    else some delay

variable {advice}

def Accepted (advice : Option ReconnectAdvice) : Prop :=
  ∀ given, advice = some given → ProtocolValidator.isValidReconnectAdvice given = true

theorem delays_bounds (h : Accepted advice) :
    0 ≤ policy.initialDelay advice ∧ policy.initialDelay advice ≤ policy.maximumDelay advice ∧
      policy.maximumDelay advice ≤ 300000 := by
  cases advice with
  | none => exact policy.delays_valid
  | some given =>
    have hva := h given rfl
    simp only [ProtocolValidator.isValidReconnectAdvice, Bool.and_eq_true, decide_eq_true_eq,
      ProtocolValidator.maximumReconnectDelayMilliseconds] at hva
    obtain ⟨⟨⟨hze, hle⟩, hbo⟩, -⟩ := hva
    exact ⟨hze, hle, of_decide_eq_true hbo⟩

theorem baseDelay_bounds (h : Accepted advice) (attempt : Int) :
    0 ≤ policy.baseDelay advice attempt ∧
      policy.baseDelay advice attempt ≤ policy.maximumDelay advice := by
  obtain ⟨hi, hle, -⟩ := policy.delays_bounds h
  have hi' : (0 : ℚ) ≤ policy.initialDelay advice := by exact_mod_cast hi
  have hm' : (0 : ℚ) ≤ policy.maximumDelay advice := by exact_mod_cast hi.trans hle
  unfold baseDelay
  dsimp only
  split
  · split
    · exact ⟨le_rfl, hm'⟩
    · exact ⟨le_min hm' (by positivity), min_le_left _ _⟩
  · exact ⟨capped_nonneg hm' hi' _, capped_le _ _ _⟩

variable {attempt later : Int}

theorem baseDelay_mono (h : Accepted advice) (h1 : 1 ≤ attempt) (hle : attempt ≤ later) :
    policy.baseDelay advice attempt ≤ policy.baseDelay advice later := by
  obtain ⟨hi, -, -⟩ := policy.delays_bounds h
  have hi' : (0 : ℚ) ≤ policy.initialDelay advice := by exact_mod_cast hi
  by_cases hfi : attempt = 1
  · by_cases hze : policy.initialDelay advice = 0 ∧ 0 < policy.maximumDelay advice
    · have hba : policy.baseDelay advice attempt = 0 := by
        simp only [baseDelay, if_pos hze, if_pos hfi]
      rw [hba]
      exact (policy.baseDelay_bounds h later).1
    · simp only [baseDelay, if_neg hze]
      exact capped_mono _ hi' (by omega)
  · have hla : later ≠ 1 := by omega
    simp only [baseDelay, if_neg hfi, if_neg hla]
    split
    · have hpow := capped_mono (policy.maximumDelay advice : ℚ) zero_le_one
        (show (min (attempt - 2) 30).toNat ≤ (min (later - 2) 30).toNat by omega)
      simpa only [capped, one_mul] using hpow
    · exact capped_mono _ hi' (by omega)

theorem getDelay_bounds (h : Accepted advice) (h1 : 1 ≤ attempt) (random : ℚ) :
    ∃ delay, policy.getDelay advice attempt random = some delay ∧ 0 ≤ delay ∧
      delay ≤ policy.maximumDelay advice := by
  obtain ⟨hi, hle, -⟩ := policy.delays_bounds h
  have hm : (0 : ℚ) ≤ policy.maximumDelay advice := by exact_mod_cast hi.trans hle
  unfold getDelay
  rw [if_neg (by omega)]
  dsimp only
  split
  · exact ⟨_, rfl, le_max_left _ _, max_le hm (min_le_left _ _)⟩
  · exact ⟨_, rfl, policy.baseDelay_bounds h attempt⟩

theorem getDelay_mono (h : Accepted advice) (hji : policy.jitter advice = 0)
    (hle : attempt ≤ later) {random random' delay delay' : ℚ}
    (hd : policy.getDelay advice attempt random = some delay)
    (hd' : policy.getDelay advice later random' = some delay') : delay ≤ delay' := by
  simp only [getDelay, hji, lt_irrefl, if_false, Option.ite_none_left_eq_some] at hd hd'
  obtain ⟨hfi, hd⟩ := hd
  obtain ⟨-, hd'⟩ := hd'
  cases hd
  cases hd'
  exact policy.baseDelay_mono h (by omega) hle

end ExponentialRealtimeRetryPolicy

namespace Sdk

structure ReconnectOptions where
  initialDelayMilliseconds : Int := 500
  maximumDelayMilliseconds : Int := 30000
  jitterRatio : Double := .finite (1 / 5)
  initialDelayMilliseconds_valid : 0 ≤ initialDelayMilliseconds ∧
    initialDelayMilliseconds ≤ 2147483647 := by decide
  maximumDelayMilliseconds_valid : initialDelayMilliseconds ≤ maximumDelayMilliseconds ∧
    maximumDelayMilliseconds ≤ 2147483647 := by decide
  jitterRatio_valid : ProtocolValidator.isJitterRatio jitterRatio = true := by decide +kernel

def numberOf (advice : JsValue) (name : Text) : Option ℚ :=
  match advice.get name with
  | .number (.finite value) => some value
  | _ => none

/-- `Math.round`. -/
def mathRound (value : ℚ) : Int := ⌊value + 1 / 2⌋

namespace ReconnectOptions

variable (options : ReconnectOptions) (advice : Option JsValue)

def initialDelay : ℚ :=
  (advice.bind (numberOf · (utf16 "initialDelayMilliseconds"))).getD
    options.initialDelayMilliseconds

def maximumDelay : ℚ :=
  (advice.bind (numberOf · (utf16 "maximumDelayMilliseconds"))).getD
    options.maximumDelayMilliseconds

def jitter : ℚ :=
  (advice.bind (numberOf · (utf16 "jitterRatio"))).getD options.jitterRatio.value

def exponentialDelay (reconnectAttempt : Nat) : ℚ :=
  let initial := options.initialDelay advice
  let exponentialBase := if initial = 0 then 1 else initial
  let attemptDelay := if reconnectAttempt = 0 then initial
    else exponentialBase * 2 ^ (reconnectAttempt - 1)
  min (options.maximumDelay advice) attemptDelay

/-- The delay of `scheduleReconnect`, which spreads after it has capped. -/
def reconnectDelay (reconnectAttempt : Nat) (random : ℚ) : Int :=
  let jitter := options.jitter advice
  max 0 (mathRound (options.exponentialDelay advice reconnectAttempt *
    (1 - jitter + 2 * jitter * random)))

variable {advice}

def Accepted (advice : Option JsValue) : Prop :=
  ∀ given, advice = some given → isReconnectAdvice given = true

variable {number : ℚ}

theorem eq_of_safeInteger {value : JsValue} (h : safeInteger value = some number) :
    value = .number (.finite number) ∧ ∃ n : Int, number = n := by
  unfold safeInteger at h
  split at h
  · next found =>
    split at h
    · next hden =>
      cases h
      exact ⟨rfl, number.num, ((Rat.den_eq_one_iff number).mp hden.1).symm⟩
    · cases h
  · cases h

theorem numberOf_eq {given : JsValue} {name : Text} (h : given.get name = .number (.finite number)) :
    numberOf given name = some number := by
  rw [numberOf, h]

theorem delays_bounds (h : Accepted advice) : ∃ initial maximum : Int,
    options.initialDelay advice = initial ∧ options.maximumDelay advice = maximum ∧
      0 ≤ initial ∧ initial ≤ maximum ∧ maximum ≤ 2147483647 := by
  cases advice with
  | none =>
    exact ⟨_, _, rfl, rfl, options.initialDelayMilliseconds_valid.1,
      options.maximumDelayMilliseconds_valid⟩
  | some given =>
    have hva := h given rfl
    simp only [isReconnectAdvice, Bool.and_eq_true] at hva
    obtain ⟨⟨⟨-, hde⟩, -⟩, -⟩ := hva
    split at hde
    · next initial maximum hi hm =>
      obtain ⟨hi, n, rfl⟩ := eq_of_safeInteger hi
      obtain ⟨hm, m, rfl⟩ := eq_of_safeInteger hm
      simp only [Bool.and_eq_true, decide_eq_true_eq, maximumTimerDelayMilliseconds] at hde
      obtain ⟨⟨⟨hze, -⟩, hle⟩, hbo⟩ := hde
      refine ⟨n, m, ?_, ?_, by exact_mod_cast hze, by exact_mod_cast hle,
        by exact_mod_cast of_decide_eq_true hbo⟩
      · simp only [initialDelay, Option.bind_some, numberOf_eq hi, Option.getD_some]
      · simp only [maximumDelay, Option.bind_some, numberOf_eq hm, Option.getD_some]
    · cases hde

theorem jitter_bounds (h : Accepted advice) :
    0 ≤ options.jitter advice ∧ options.jitter advice ≤ 1 := by
  cases advice with
  | none => exact jitterRatio_bounds options.jitterRatio_valid
  | some given =>
    have hva := h given rfl
    simp only [isReconnectAdvice, Bool.and_eq_true] at hva
    obtain ⟨⟨-, hra⟩, -⟩ := hva
    unfold isRatio at hra
    split at hra
    · next value hget =>
      simp only [Bool.and_eq_true, decide_eq_true_eq] at hra
      simpa only [jitter, Option.bind_some, numberOf_eq hget, Option.getD_some] using hra
    · cases hra

variable (advice) in
theorem exponentialDelay_le (reconnectAttempt : Nat) :
    options.exponentialDelay advice reconnectAttempt ≤ options.maximumDelay advice :=
  min_le_left _ _

theorem exponentialDelay_nonneg (h : Accepted advice) (reconnectAttempt : Nat) :
    0 ≤ options.exponentialDelay advice reconnectAttempt := by
  obtain ⟨initial, maximum, hi, hm, hze, hle, -⟩ := options.delays_bounds h
  have hin : 0 ≤ options.initialDelay advice := by
    rw [hi]
    exact_mod_cast hze
  have hma : 0 ≤ options.maximumDelay advice := by
    rw [hm]
    exact_mod_cast hze.trans hle
  unfold exponentialDelay
  dsimp only
  refine le_min hma ?_
  have hpow : (0 : ℚ) ≤ 2 ^ (reconnectAttempt - 1) := by positivity
  split
  · exact hin
  · refine mul_nonneg ?_ hpow
    split
    · exact zero_le_one
    · exact hin

theorem exponentialDelay_mono (h : Accepted advice) {attempt later : Nat} (hle : attempt ≤ later) :
    options.exponentialDelay advice attempt ≤ options.exponentialDelay advice later := by
  obtain ⟨initial, -, hi, -, hze, -, -⟩ := options.delays_bounds h
  have hin : 0 ≤ options.initialDelay advice := by
    rw [hi]
    exact_mod_cast hze
  unfold exponentialDelay
  dsimp only
  refine min_le_min le_rfl ?_
  generalize hbas : (if options.initialDelay advice = 0 then 1 else options.initialDelay advice) =
    base
  have hge : options.initialDelay advice ≤ base := by
    rw [← hbas]
    split
    · next h0 => rw [h0]; exact zero_le_one
    · exact le_rfl
  have hba : 0 ≤ base := hin.trans hge
  by_cases ha : attempt = 0
  · rw [if_pos ha]
    split
    · exact le_rfl
    · have hpow : (1 : ℚ) ≤ 2 ^ (later - 1) := one_le_pow₀ one_le_two
      calc options.initialDelay advice ≤ base * 1 := by rwa [mul_one]
        _ ≤ base * 2 ^ (later - 1) := mul_le_mul_of_nonneg_left hpow hba
  · rw [if_neg ha, if_neg (by omega)]
    have hpow : (2 : ℚ) ^ (attempt - 1) ≤ 2 ^ (later - 1) :=
      pow_le_pow_right₀ one_le_two (by omega)
    exact mul_le_mul_of_nonneg_left hpow hba

theorem mathRound_le_iff {value : ℚ} {n : Int} : mathRound value ≤ n ↔ value < n + 1 / 2 := by
  rw [mathRound, ← Int.lt_add_one_iff, Int.floor_lt]
  push_cast
  constructor <;> intro h <;> linarith

theorem mathRound_mono {value later : ℚ} (h : value ≤ later) :
    mathRound value ≤ mathRound later := Int.floor_mono (by linarith)

theorem reconnectDelay_eq (reconnectAttempt : Nat) (random : ℚ) :
    options.reconnectDelay advice reconnectAttempt random =
      max 0 (mathRound (options.exponentialDelay advice reconnectAttempt *
        jitterFactor (options.jitter advice) random)) := by
  have hfa : 1 - options.jitter advice + 2 * options.jitter advice * random =
      jitterFactor (options.jitter advice) random := by
    unfold jitterFactor
    ring
  rw [reconnectDelay, hfa]

/-- The random factor lifts no delay above the maximum. -/
def Keeps (advice : Option JsValue) (reconnectAttempt : Nat) : Prop :=
  options.exponentialDelay advice reconnectAttempt * (1 + options.jitter advice) ≤
    options.maximumDelay advice + 1 / 2

theorem reconnectDelay_le_iff (h : Accepted advice) (reconnectAttempt : Nat) (random : ℚ) :
    (options.reconnectDelay advice reconnectAttempt random : ℚ) ≤ options.maximumDelay advice ↔
      options.exponentialDelay advice reconnectAttempt *
        jitterFactor (options.jitter advice) random < options.maximumDelay advice + 1 / 2 := by
  obtain ⟨initial, maximum, -, hm, hze, hle, -⟩ := options.delays_bounds h
  rw [reconnectDelay_eq, hm, ← mathRound_le_iff, Int.cast_le, max_le_iff]
  exact and_iff_right (hze.trans hle)

theorem forall_reconnectDelay_le_iff (h : Accepted advice) (reconnectAttempt : Nat) :
    (∀ random, 0 ≤ random → random < 1 →
      (options.reconnectDelay advice reconnectAttempt random : ℚ) ≤ options.maximumDelay advice) ↔
    options.Keeps advice reconnectAttempt := by
  simp only [options.reconnectDelay_le_iff h]
  have hcap := options.exponentialDelay_le advice reconnectAttempt
  exact mul_jitterFactor_lt_iff (options.jitter_bounds h).1
    (options.exponentialDelay_nonneg h reconnectAttempt) (by linarith)

theorem reconnectDelay_nonneg (reconnectAttempt : Nat) (random : ℚ) :
    0 ≤ options.reconnectDelay advice reconnectAttempt random := le_max_left _ _

theorem reconnectDelay_mono (h : Accepted advice) (hji : options.jitter advice = 0)
    {attempt later : Nat} (hle : attempt ≤ later) (random random' : ℚ) :
    options.reconnectDelay advice attempt random ≤
      options.reconnectDelay advice later random' := by
  rw [reconnectDelay_eq, reconnectDelay_eq, hji, jitterFactor_zero, jitterFactor_zero,
    mul_one, mul_one]
  exact max_le_max le_rfl (mathRound_mono (options.exponentialDelay_mono h hle))

end ReconnectOptions

end Sdk

/-- The .NET delays stay between zero and the maximum in force, and so do those of the browser
client exactly where the largest random factor leaves room below it. Without jitter no delay is
shorter than one of an earlier attempt. -/
theorem reconnect_delays_bounded (policy : ExponentialRealtimeRetryPolicy)
    (options : Sdk.ReconnectOptions) (advice : Option ReconnectAdvice)
    (browserAdvice : Option Sdk.JsValue) :
    (ExponentialRealtimeRetryPolicy.Accepted advice →
      (∀ attempt random, 1 ≤ attempt → 0 ≤ random → random < 1 →
        ∃ delay, policy.getDelay advice attempt random = some delay ∧ 0 ≤ delay ∧
          delay ≤ policy.maximumDelay advice ∧ policy.maximumDelay advice ≤ 2147483647) ∧
      (policy.jitter advice = 0 → ∀ attempt later random random' delay delay', attempt ≤ later →
        policy.getDelay advice attempt random = some delay →
        policy.getDelay advice later random' = some delay' → delay ≤ delay')) ∧
    (Sdk.ReconnectOptions.Accepted browserAdvice →
      (∀ reconnectAttempt, options.maximumDelay browserAdvice ≤ 2147483647 ∧
        (∀ random, 0 ≤ options.reconnectDelay browserAdvice reconnectAttempt random) ∧
        ((∀ random, 0 ≤ random → random < 1 →
            (options.reconnectDelay browserAdvice reconnectAttempt random : ℚ) ≤
              options.maximumDelay browserAdvice) ↔
          options.Keeps browserAdvice reconnectAttempt)) ∧
      (options.jitter browserAdvice = 0 → ∀ attempt later random random', attempt ≤ later →
        options.reconnectDelay browserAdvice attempt random ≤
          options.reconnectDelay browserAdvice later random')) := by
  constructor
  · intro h
    constructor
    · intro attempt random h1 _ _
      obtain ⟨delay, hd, hze, hle⟩ := policy.getDelay_bounds h h1 random
      obtain ⟨-, -, hbo⟩ := policy.delays_bounds h
      exact ⟨delay, hd, hze, hle, by omega⟩
    · intro hji attempt later random random' delay delay' hle hd hd'
      exact policy.getDelay_mono h hji hle hd hd'
  · intro h
    constructor
    · intro reconnectAttempt
      obtain ⟨-, maximum, -, hm, -, -, hbo⟩ := options.delays_bounds h
      refine ⟨?_, options.reconnectDelay_nonneg reconnectAttempt,
        options.forall_reconnectDelay_le_iff h reconnectAttempt⟩
      rw [hm]
      exact_mod_cast hbo
    · intro hji attempt later random random' hle
      exact options.reconnectDelay_mono h hji hle random random'

theorem reconnect_delays_bounded_first :
    (0 ≤ Sdk.ReconnectOptions.reconnectDelay {} none 1 (9 / 10) ∧
      (Sdk.ReconnectOptions.reconnectDelay {} none 1 (9 / 10) : ℚ) ≤ 30000) ∧
    ∃ delay, ExponentialRealtimeRetryPolicy.getDelay {} none 12 (9 / 10) = some delay ∧
      delay ≤ 30000 := by
  have h := reconnect_delays_bounded {} {} none none
  obtain ⟨-, hze, hle⟩ := (h.2 (fun _ h => nomatch h)).1 1
  have hke : Sdk.ReconnectOptions.Keeps {} none 1 := by
    unfold Sdk.ReconnectOptions.Keeps
    decide +kernel
  have hnet := (h.1 (fun _ h => nomatch h)).1 12 (9 / 10) (by norm_num) (by norm_num)
    (by norm_num)
  obtain ⟨delay, hd, -, hbo, -⟩ := hnet
  exact ⟨⟨hze _, hle.mpr hke (9 / 10) (by norm_num) (by norm_num)⟩, delay, hd, hbo⟩

def exampleAdvice : Sdk.JsValue := .object [
  (utf16 "initialDelayMilliseconds", .number (.finite 2147483647)),
  (utf16 "maximumDelayMilliseconds", .number (.finite 2147483647)),
  (utf16 "jitterRatio", .number (.finite 1)),
  (utf16 "reauthenticate", .bool true)]

/-- With the default options the eighth delay can exceed the maximum, and with an accepted
advice the first one does not fit the timer. -/
theorem reconnect_delay_exceeds_maximum :
    (Sdk.ReconnectOptions.maximumDelay {} none <
      (Sdk.ReconnectOptions.reconnectDelay {} none 7 (9 / 10) : ℚ)) ∧
    Sdk.isReconnectAdvice exampleAdvice = true ∧
    2147483647 < Sdk.ReconnectOptions.reconnectDelay {} (some exampleAdvice) 0 (9 / 10) := by
  refine ⟨?_, ?_, ?_⟩
  · decide +kernel
  · decide +kernel
  · decide +kernel

end Realtime
