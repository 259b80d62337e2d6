import Realtime.Contracts
import Realtime.Sdk.JsMap
import Realtime.Sdk.JsText

/-! JSON values in ECMAScript: what `JSON.parse` makes of the text of a JSON element, and which
values `isJsonValue` accepts. -/

namespace Realtime.Sdk

inductive JsValue where
  | undefined
  | null
  | bool (value : Bool)
  | number (value : Double)
  | string (value : Text)
  | array (items : List JsValue)
  | object (members : List (Text × JsValue))

namespace JsValue

/-- A property of a record, `undefined` when it has none of the name. -/
def get (name : Text) : JsValue → JsValue
  | object members => ((members.find? (fun member => member.1 == name)).map Prod.snd).getD undefined
  | _ => undefined

/-- `name in value`. -/
def hasProperty (name : Text) : JsValue → Bool
  | object members => members.any (fun member => member.1 == name)
  | _ => false

/-- `isRecord`. -/
def isRecord : JsValue → Bool
  | object _ => true
  | _ => false

end JsValue

/-! Numbers. The finite values are not rounded to doubles; only where a magnitude becomes
infinite matters here. -/

def isDigit (c : CodeUnit) : Bool := 0x30 ≤ c && c ≤ 0x39

def digitsValue (digits : Text) : Nat :=
  digits.foldl (fun value c => 10 * value + (c.toNat - 0x30)) 0

/-- Half a unit above the largest double: from here on a magnitude is rounded to infinity. -/
def overflowBound : Nat := 2 ^ 1024 - 2 ^ 970

/-- `±digits * 10 ^ exponent`. -/
def decimalValue (negative : Bool) (digits : Nat) (exponent : Int) : Double :=
  let numerator := digits * 10 ^ exponent.toNat
  let denominator := 10 ^ (-exponent).toNat
  if overflowBound * denominator ≤ numerator then .infinite negative
  else .finite (mkRat (if negative then -(numerator : Int) else numerator) denominator)

def parseFraction : Text → Option (Text × Text)
  | [] => some ([], [])
  | c :: rest =>
    if c = codeUnit '.' then
      if rest.takeWhile isDigit = [] then none
      else some (rest.takeWhile isDigit, rest.dropWhile isDigit)
    else some ([], c :: rest)

def parseExponent : Text → Option Int
  | [] => some 0
  | c :: rest =>
    if c = codeUnit 'e' ∨ c = codeUnit 'E' then
      let digits := if rest.head? = some (codeUnit '-') ∨ rest.head? = some (codeUnit '+') then
        rest.tail else rest
      if digits = [] ∨ digits.all isDigit = false then none
      else if rest.head? = some (codeUnit '-') then some (-(digitsValue digits : Int))
      else some (digitsValue digits)
    else none

/-- A JSON number, `none` for a syntax error. -/
def parseNumber (raw : Text) : Option Double :=
  let negative := raw.head? = some (codeUnit '-')
  let unsigned := if negative then raw.tail else raw
  let whole := unsigned.takeWhile isDigit
  if whole = [] ∨ (1 < whole.length ∧ whole.head? = some (codeUnit '0')) then none
  else
    match parseFraction (unsigned.dropWhile isDigit) with
    | none => none
    | some (fraction, rest) =>
      (parseExponent rest).map (fun exponent =>
        decimalValue negative (digitsValue (whole ++ fraction)) (exponent - fraction.length))

/-! `JSON.parse`. -/

section

variable {β γ : Type}

def lastWins (members : List (Text × β)) : JsMap Text β :=
  members.foldl (fun object member => JsMap.set object member.1 member.2) []

theorem foldl_set_map (f : β → γ) (members : List (Text × β)) (start : JsMap Text β) :
    (members.map (Prod.map id f)).foldl (fun object member => JsMap.set object member.1 member.2)
        (start.map (Prod.map id f)) =
      (members.foldl (fun object member => JsMap.set object member.1 member.2) start).map
        (Prod.map id f) := by
  induction members generalizing start with
  | nil => rfl
  | cons member members ih =>
    rw [List.map_cons, List.foldl_cons, List.foldl_cons, ← ih, ← JsMap.set_map]
    rfl

theorem lastWins_map (f : β → γ) (members : List (Text × β)) :
    lastWins (members.map (Prod.map id f)) = (lastWins members).map (Prod.map id f) :=
  foldl_set_map f members []

end

mutual

/-- `JSON.parse` of the text of an element; only a default element has no text. -/
def jsonParse : JsonElement → Option JsValue
  | .undefined => none
  | .null => some .null
  | .bool value => some (.bool value)
  | .number raw => (parseNumber raw).map .number
  | .string value => some (.string value)
  | .array items => (jsonParseItems items).map .array
  | .object members => (jsonParseMembers members).map (fun parsed => .object (lastWins parsed))

def jsonParseItems : List JsonElement → Option (List JsValue)
  | [] => some []
  | item :: items =>
    match jsonParse item, jsonParseItems items with
    | some value, some values => some (value :: values)
    | _, _ => none

def jsonParseMembers : List (Text × JsonElement) → Option (List (Text × JsValue))
  | [] => some []
  | (name, item) :: members =>
    match jsonParse item, jsonParseMembers members with
    | some value, some values => some ((name, value) :: values)
    | _, _ => none

end

/-- `Number.isFinite`. -/
def isFinite : Double → Bool
  | .finite _ => true
  | _ => false

mutual

/-- `isJsonValue`. A value that `JSON.parse` returned holds no object twice, so none is its own
ancestor. -/
def isJsonValue : JsValue → Bool
  | .undefined => false
  | .null => true
  | .bool _ => true
  | .number value => isFinite value
  | .string _ => true
  | .array items => isJsonValues items
  | .object members => areJsonMembers members

def isJsonValues : List JsValue → Bool
  | [] => true
  | item :: items => isJsonValue item && isJsonValues items

def areJsonMembers : List (Text × JsValue) → Bool
  | [] => true
  | (_, value) :: members => isJsonValue value && areJsonMembers members

end

mutual

/-- Every number is a finite double, among the members that are not defined again. -/
def finiteNumbers : JsonElement → Bool
  | .number raw => (parseNumber raw).any isFinite
  | .array items => finiteItems items
  | .object members => (lastWins (finiteMembers members)).all Prod.snd
  | _ => true

def finiteItems : List JsonElement → Bool
  | [] => true
  | item :: items => finiteNumbers item && finiteItems items

def finiteMembers : List (Text × JsonElement) → List (Text × Bool)
  | [] => []
  | (name, item) :: members => (name, finiteNumbers item) :: finiteMembers members

end

theorem areJsonMembers_eq (members : List (Text × JsValue)) :
    areJsonMembers members = (members.map (Prod.map id isJsonValue)).all Prod.snd := by
  induction members with
  | nil => rfl
  | cons member members ih =>
    obtain ⟨name, value⟩ := member
    rw [areJsonMembers, ih]
    rfl

mutual

theorem isJsonValue_jsonParse : ∀ (element : JsonElement) {value : JsValue},
    jsonParse element = some value → isJsonValue value = finiteNumbers element
  | .undefined, value, h => by cases h
  | .null, value, h => by cases h; rfl
  | .bool _, value, h => by cases h; rfl
  | .string _, value, h => by cases h; rfl
  | .number raw, value, h => by
    rw [jsonParse, Option.map_eq_some_iff] at h
    obtain ⟨number, hnu, rfl⟩ := h
    simp [isJsonValue, finiteNumbers, hnu]
  | .array items, value, h => by
    rw [jsonParse, Option.map_eq_some_iff] at h
    obtain ⟨values, hva, rfl⟩ := h
    exact isJsonValues_jsonParse items hva
  | .object members, value, h => by
    rw [jsonParse, Option.map_eq_some_iff] at h
    obtain ⟨parsed, hpa, rfl⟩ := h
    rw [isJsonValue, areJsonMembers_eq, ← lastWins_map,
      areJsonMembers_jsonParse members hpa, finiteNumbers]

theorem isJsonValues_jsonParse : ∀ (items : List JsonElement) {values : List JsValue},
    jsonParseItems items = some values → isJsonValues values = finiteItems items
  | [], values, h => by cases h; rfl
  | item :: items, values, h => by
    rw [jsonParseItems] at h
    split at h
    · next value rest hite hre =>
      cases h
      rw [isJsonValues, finiteItems, isJsonValue_jsonParse item hite,
        isJsonValues_jsonParse items hre]
    · cases h

theorem areJsonMembers_jsonParse : ∀ (members : List (Text × JsonElement))
    {parsed : List (Text × JsValue)}, jsonParseMembers members = some parsed →
      parsed.map (Prod.map id isJsonValue) = finiteMembers members
  | [], parsed, h => by cases h; rfl
  | (name, item) :: members, parsed, h => by
    rw [jsonParseMembers] at h
    split at h
    · next value rest hite hre =>
      cases h
      rw [List.map_cons, finiteMembers, areJsonMembers_jsonParse members hre, Prod.map_apply,
        isJsonValue_jsonParse item hite, id]
    · cases h

end

example : parseNumber (utf16 "-0.50e+2") = some (.finite (-50)) := by decide +kernel

example : parseNumber (utf16 "1e309") = some (.infinite false) := by decide +kernel

end Realtime.Sdk
