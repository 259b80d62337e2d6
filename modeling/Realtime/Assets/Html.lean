import Realtime.Assets.Css
import Realtime.Sdk.JsMap
import Realtime.Sdk.JsText

/-! The renaming of identifiers in HTML: a scanner that cuts the text at attribute values, and the
mapping of each value by the name of its attribute. The scanner finds the end of raw text in a
lower-cased copy of the whole text. -/

namespace Realtime.Assets

open Sdk List

abbrev Mappings := JsMap Text Text

/-- `Object.hasOwn(mappings, name) ? mappings[name] : name`. -/
def mapName (mappings : Mappings) (name : Text) : Text := (mappings.get name).getD name

/-- `split(/\s+/u)`. -/
def splitWhiteSpace (value : Text) : List Text :=
  match _h : value.dropWhile (!isJsWhiteSpace ·) with
  | [] => [value]
  | _ :: rest =>
    value.takeWhile (!isJsWhiteSpace ·) :: splitWhiteSpace (rest.dropWhile isJsWhiteSpace)
termination_by value.length
decreasing_by
  have hv := (List.dropWhile_suffix (l := value) (!isJsWhiteSpace ·)).length_le
  have hr := (List.dropWhile_suffix (l := rest) isJsWhiteSpace).length_le
  rw [_h, List.length_cons] at hv
  omega

def replaceTokenList (value : Text) (mappings : Mappings) : Text :=
  [codeUnit ' '].intercalate ((splitWhiteSpace value).map (mapName mappings))

/-- The rest of a code point in UTF-8: how many bytes are missing, what the bytes so far add up
to, and the least code point that needs so many bytes. -/
structure Utf8Rest where
  missing : Nat
  value : Nat
  least : Nat

def utf8Lead (byte : Nat) : Option Utf8Rest :=
  if byte < 0xC0 then none
  else if byte < 0xE0 then some ⟨0, byte - 0xC0, 0x80⟩
  else if byte < 0xF0 then some ⟨1, byte - 0xE0, 0x800⟩
  else if byte < 0xF8 then some ⟨2, byte - 0xF0, 0x10000⟩
  else none

def percent : CodeUnit := codeUnit '%'

/-- `decodeURIComponent` in the middle of a code point or between two; `none` for a `URIError`. -/
def decodeFrom : Option Utf8Rest → Text → Option Text
  | none, [] => some []
  | some _, [] => none
  | state, c :: rest =>
    if c = percent then
      match rest with
      | a :: b :: rest =>
        if isHexDigit a && isHexDigit b then
          let byte := 16 * hexValue a + hexValue b
          match state with
          | none =>
            if byte < 0x80 then (decodeFrom none rest).map (UInt16.ofNat byte :: ·)
            else match utf8Lead byte with
              | none => none
              | some lead => decodeFrom (some lead) rest
          | some ⟨missing, value, least⟩ =>
            let value := 64 * value + (byte - 0x80)
            if byte < 0x80 || 0xC0 ≤ byte then none
            else match missing with
              | missing + 1 => decodeFrom (some ⟨missing, value, least⟩) rest
              | 0 =>
                if value < least || 0x10FFFF < value || (0xD800 ≤ value && value ≤ 0xDFFF) then none
                else (decodeFrom none rest).map (fromCodePoint value ++ ·)
        else none
      | _ => none
    else if state.isSome then none
    else (decodeFrom none rest).map (c :: ·)

def decodeURIComponent (encoded : Text) : Option Text := decodeFrom none encoded

def isFragmentUnit (c : CodeUnit) : Bool :=
  isAsciiLetterOrDigit c || (utf16 "%._~-").contains c

def fragmentEnd (value : Text) : Nat := (value.takeWhile isFragmentUnit).length

def mapFragment (ids : Mappings) (encoded : Text) : Text :=
  match decodeURIComponent encoded with
  | some decoded => if encoded ≠ [] ∧ ids.has decoded then mapName ids decoded else encoded
  | none => encoded

def mapFragmentValue (value : Text) (ids : Mappings) : Text :=
  replaceNames (· == hash) fragmentEnd (fun _ => mapFragment ids) value

/-- The mappings of ids and of classes. -/
abbrev SelectorMappings := SelectorKind → Mappings

def selectorPasses (mappings : SelectorMappings) : List Pass :=
  [.id, .className].flatMap (fun kind =>
    (mappings kind).map (fun entry => ⟨kind, entry.1, entry.2⟩))

def mapCssSelectors (value : Text) (mappings : SelectorMappings) : Text :=
  applyPasses (selectorPasses mappings) value

def singleIdAttributes : List Text :=
  [utf16 "aria-activedescendant", utf16 "aria-details", utf16 "aria-errormessage",
    utf16 "commandfor", utf16 "for", utf16 "form", utf16 "list", utf16 "popovertarget"]

def tokenIdAttributes : List Text :=
  [utf16 "aria-controls", utf16 "aria-describedby", utf16 "aria-flowto", utf16 "aria-labelledby",
    utf16 "aria-owns", utf16 "headers"]

def fragmentAttributes : List Text :=
  [utf16 "action", utf16 "cite", utf16 "clip-path", utf16 "fill", utf16 "filter",
    utf16 "formaction", utf16 "href", utf16 "mask", utf16 "marker-end", utf16 "marker-mid",
    utf16 "marker-start", utf16 "src", utf16 "xlink:href"]

/-- How `mapHtmlAttribute` reads the value of an attribute. -/
inductive AttributeKind where
  | identifier
  | tokens (kind : SelectorKind)
  | fragment
  | style
  | other

def attributeKind (name : Text) : AttributeKind :=
  if name = utf16 "id" ∨ name ∈ singleIdAttributes then .identifier
  else if name = utf16 "class" then .tokens .className
  else if name ∈ tokenIdAttributes then .tokens .id
  else if name ∈ fragmentAttributes then .fragment
  else if name = utf16 "style" then .style
  else .other

def mapHtmlAttribute (name value : Text) (mappings : SelectorMappings) : Text :=
  match attributeKind name with
  | .identifier => mapName (mappings .id) value
  | .tokens kind => replaceTokenList value (mappings kind)
  | .fragment => mapFragmentValue value (mappings .id)
  | .style => mapCssSelectors value mappings
  | .other => value

/-- A text that is copied, or the value of an attribute of the given lower-cased name. -/
inductive HtmlPiece where
  | copied (text : Text)
  | value (name text : Text)
  deriving DecidableEq

def HtmlPiece.map (mappings : SelectorMappings) : HtmlPiece → Text
  | copied text => text
  | value name text => mapHtmlAttribute name text mappings

def less : CodeUnit := codeUnit '<'

def greater : CodeUnit := codeUnit '>'

def slash : CodeUnit := codeUnit '/'

def equals : CodeUnit := codeUnit '='

def isQuote (c : CodeUnit) : Bool := c == codeUnit '"' || c == codeUnit '\''

def isTagEnd (c : CodeUnit) : Bool := c == greater || c == slash

def isAttributeUnit (c : CodeUnit) : Bool := !isJsWhiteSpace c && c != equals && !isTagEnd c

/-- What follows the name of an attribute that starts with `c`, which is no white space; the
name is empty before a stray `=`. -/
def afterName (c : CodeUnit) (rest : Text) : Text :=
  if c = equals then c :: rest else (rest.dropWhile isAttributeUnit).dropWhile isJsWhiteSpace

/-- The quote of a value, if it has one, and the text from the value on. -/
def valueStart (s : Text) : Option CodeUnit × Text :=
  match s.dropWhile isJsWhiteSpace with
  | [] => (none, [])
  | c :: rest => if isQuote c then (some c, rest) else (none, c :: rest)

def isValueUnit : Option CodeUnit → CodeUnit → Bool
  | some quote, c => c != quote
  | none, c => !isJsWhiteSpace c && c != greater

theorem afterName_suffix (c : CodeUnit) (rest : Text) : afterName c rest <:+ c :: rest := by
  unfold afterName
  split
  · exact suffix_rfl
  · exact ((dropWhile_suffix _).trans (dropWhile_suffix _)).trans
      (suffix_cons c rest)

theorem afterName_length {c : CodeUnit} {rest : Text} (h : (afterName c rest).head? ≠ some equals) :
    (afterName c rest).length ≤ rest.length := by
  unfold afterName at h ⊢
  split_ifs at h ⊢ with hc
  · exact absurd (congrArg some hc) h
  · exact ((dropWhile_suffix _).trans (dropWhile_suffix _)).length_le

theorem valueStart_suffix (s : Text) : (valueStart s).2 <:+ s := by
  have hs := dropWhile_suffix (l := s) isJsWhiteSpace
  unfold valueStart
  split
  next he => rwa [he] at hs
  next c rest he =>
    rw [he] at hs
    split
    · exact (suffix_cons c rest).trans hs
    · exact hs

/-- The loop of `mapHtmlStartTag` from behind the name of the tag or an attribute. -/
def attributePieces (lower : Text → Text) (tag : Text) : List HtmlPiece :=
  match _htag : tag.dropWhile isJsWhiteSpace with
  | [] => [.copied tag]
  | c :: rest =>
    if isTagEnd c then [.copied tag]
    else if (afterName c rest).head? ≠ some equals then
      .copied (tag.take (tag.length - (afterName c rest).length)) ::
        attributePieces lower (afterName c rest)
    else
      let name := if c = equals then [] else c :: rest.takeWhile isAttributeUnit
      let start := valueStart ((afterName c rest).drop 1)
      let after := start.2.dropWhile (isValueUnit start.1)
      .copied (tag.take (tag.length - start.2.length)) ::
        .value (lower name) (start.2.takeWhile (isValueUnit start.1)) ::
        .copied (after.take start.1.toList.length) ::
        attributePieces lower (after.drop start.1.toList.length)
termination_by tag.length
decreasing_by
  all_goals
    have htag := (List.dropWhile_suffix (l := tag) isJsWhiteSpace).length_le
    rw [_htag, List.length_cons] at htag
  · have hle := afterName_length ‹_›
    omega
  · have hname := (afterName_suffix c rest).length_le
    have hstart := (valueStart_suffix ((afterName c rest).drop 1)).length_le
    have hafter := (List.dropWhile_suffix (l := (valueStart ((afterName c rest).drop 1)).2)
      (isValueUnit (valueStart ((afterName c rest).drop 1)).1)).length_le
    simp only [List.length_drop, List.length_cons] at hname hstart ⊢
    omega

def indexOf (part : Text) : Text → Option Nat
  | [] => if part = [] then some 0 else none
  | c :: rest => if part.isPrefixOf (c :: rest) then some 0 else (indexOf part rest).map (· + 1)

/-- The length of a tag up to its first `>` outside of quotes. -/
def tagLength : Option CodeUnit → Text → Option Nat
  | _, [] => none
  | quote, c :: rest =>
    if quote = none ∧ isQuote c then (tagLength (some c) rest).map (· + 1)
    else if quote = some c then (tagLength none rest).map (· + 1)
    else if quote = none ∧ c = greater then some 1
    else (tagLength quote rest).map (· + 1)

def toAsciiLower (s : Text) : Text := s.map (fun c => if 0x41 ≤ c && c ≤ 0x5A then c + 0x20 else c)

def rawTags : List Text := [utf16 "script", utf16 "style", utf16 "textarea", utf16 "title"]

def rawTag (tag : Text) : Option Text :=
  rawTags.find? (fun name => toAsciiLower ((tag.drop 1).take name.length) == name &&
    (tag.drop (1 + name.length)).head?.any (fun c => isJsWhiteSpace c || c == greater))

def isAsciiLetter (c : CodeUnit) : Bool := (0x41 ≤ c && c ≤ 0x5A) || (0x61 ≤ c && c ≤ 0x7A)

def startTagPieces (lower : Text → Text) (tag : Text) : List HtmlPiece :=
  let isName := fun c => !isJsWhiteSpace c && !isTagEnd c
  .copied (tag.takeWhile isName) :: attributePieces lower (tag.dropWhile isName)

/-- What the scanner does behind a `<`: it copies so much, or it maps a start tag of so much. -/
inductive Markup where
  | copied (length : Nat)
  | startTag (length : Nat)

/-- `none` if all that is left is copied. -/
def markup (rest : Text) : Option Markup :=
  if (utf16 "!--").isPrefixOf rest then
    (indexOf (utf16 "-->") (rest.drop 3)).map (fun n => .copied (n + 6))
  else if rest.head?.any (fun c => c == codeUnit '!' || c == slash || c == codeUnit '?') then
    (indexOf [greater] (rest.drop 1)).map (fun n => .copied (n + 2))
  else if !rest.head?.any isAsciiLetter then some (.copied 0)
  else (tagLength none rest).map .startTag

/-- The loop of `replaceHtmlSelectorReferences` over what is left of the text and of its
lower-cased copy. -/
def htmlPieces (lower : Text → Text) : Text → Text → List HtmlPiece
  | [], _ => []
  | c :: rest, low =>
    if c ≠ less then .copied [c] :: htmlPieces lower rest (low.drop 1)
    else
      match markup rest with
      | none => [.copied (c :: rest)]
      | some (.copied n) =>
        .copied (c :: rest.take n) :: htmlPieces lower (rest.drop n) (low.drop (n + 1))
      | some (.startTag n) =>
        match rawTag (c :: rest.take n) with
        | none =>
          startTagPieces lower (c :: rest.take n) ++
            htmlPieces lower (rest.drop n) (low.drop (n + 1))
        | some name =>
          match indexOf (less :: slash :: name) (low.drop (n + 1)) with
          | none => startTagPieces lower (c :: rest.take n) ++ [.copied (rest.drop n)]
          | some m =>
            startTagPieces lower (c :: rest.take n) ++ .copied ((rest.drop n).take m) ::
              htmlPieces lower (rest.drop (n + m)) (low.drop (n + 1 + m))
termination_by html => html.length
decreasing_by all_goals simp only [List.length_drop, List.length_cons]; omega

/-- Lower case as a version of Unicode has it: of one code unit and of a surrogate pair, and whether
a capital sigma ends a word, which depends on what precedes it, nearest first, and follows it. -/
class LowerTable where
  unit : CodeUnit → CodeUnit
  pair : CodeUnit → CodeUnit → CodeUnit × CodeUnit
  isFinalSigma : Text → Text → Bool
  unit_ascii : ∀ c < 0x80, unit c = if 0x41 ≤ c && c ≤ 0x5A then c + 0x20 else c
  unit_other : ∀ c, 0x80 ≤ c → if c = 0x212A then unit c = codeUnit 'k' else 0x80 ≤ unit c
  pair_other : ∀ c d, 0x80 ≤ (pair c d).1 ∧ 0x80 ≤ (pair c d).2

def isHighSurrogate (c : CodeUnit) : Bool := 0xD800 ≤ c && c ≤ 0xDBFF

def isLowSurrogate (c : CodeUnit) : Bool := 0xDC00 ≤ c && c ≤ 0xDFFF

section

variable [LowerTable]

/-- What becomes of one code unit. Only `U+0130` becomes two. -/
def lowerUnit (before after : Text) (c : CodeUnit) : Text :=
  if c = 0x130 then [0x69, 0x307]
  else if c = 0x3A3 then [if LowerTable.isFinalSigma before after then 0x3C2 else 0x3C3]
  else if isHighSurrogate c && after.head?.any isLowSurrogate then
    [(LowerTable.pair c (after.headD 0)).1]
  else if isLowSurrogate c && before.head?.any isHighSurrogate then
    [(LowerTable.pair (before.headD 0) c).2]
  else [LowerTable.unit c]

def lowerFrom (before : Text) : Text → Text
  | [] => []
  | c :: rest => lowerUnit before rest c ++ lowerFrom (c :: before) rest

def toLowerCase (s : Text) : Text := lowerFrom [] s

def replaceHtmlSelectorReferences (html : Text) (mappings : SelectorMappings) : Text :=
  (htmlPieces toLowerCase html (toLowerCase html)).flatMap (HtmlPiece.map mappings)

theorem lowerUnit_length (before after : Text) (c : CodeUnit) :
    (lowerUnit before after c).length = if c = 0x130 then 2 else 1 := by
  unfold lowerUnit
  split_ifs <;> rfl

theorem less_notMem_lowerUnit (before after : Text) {c : CodeUnit} (h : c ≠ less) :
    less ∉ lowerUnit before after c := by
  have hge : ∀ {d : CodeUnit}, 0x80 ≤ d → less ≠ d := by
    rintro _ hd rfl
    exact absurd hd (by decide)
  unfold lowerUnit
  split_ifs
  · decide
  · decide
  · decide
  · exact fun hm => hge (LowerTable.pair_other _ _).1 (mem_singleton.mp hm)
  · exact fun hm => hge (LowerTable.pair_other _ _).2 (mem_singleton.mp hm)
  · rw [mem_singleton]
    by_cases hc : c < 0x80
    · have hl : less = 0x3C := rfl
      rw [LowerTable.unit_ascii c hc]
      rw [hl] at h ⊢
      grind
    · have ho := LowerTable.unit_other c (UInt16.not_lt.mp hc)
      split_ifs at ho
      · rw [ho]
        decide
      · exact hge ho

/-- The text before another one becomes longer by its letters `U+0130`. -/
theorem lowerFrom_append (before text html : Text) :
    ∃ copy, lowerFrom before (text ++ html) = copy ++ lowerFrom (text.reverse ++ before) html ∧
      copy.length = text.length + text.count 0x130 ∧ (less ∉ text → less ∉ copy) := by
  induction text generalizing before with
  | nil => exact ⟨[], rfl, rfl, id⟩
  | cons c text ih =>
    obtain ⟨copy, hco, hle, hno⟩ := ih (c :: before)
    refine ⟨lowerUnit before (text ++ html) c ++ copy, ?_, ?_, ?_⟩
    · simp [lowerFrom, hco]
    · simp only [length_append, lowerUnit_length, hle, length_cons, count_cons, beq_iff_eq]
      split_ifs <;> omega
    · intro h
      rw [mem_cons, not_or] at h
      rw [mem_append, not_or]
      exact ⟨less_notMem_lowerUnit _ _ (Ne.symm h.1), hno h.2⟩

/-- Lower-casing leaves small letters and the signs of ASCII. -/
def isPlainUnit (c : CodeUnit) : Bool := c < 0x80 && !(0x41 ≤ c && c ≤ 0x5A)

theorem lowerFrom_plain {s : Text} (h : s.all isPlainUnit = true) (before : Text) :
    lowerFrom before s = s := by
  induction s generalizing before with
  | nil => rfl
  | cons c s ih =>
    rw [all_cons, Bool.and_eq_true] at h
    have hc : lowerUnit before s c = [c] := by
      have hun := LowerTable.unit_ascii c
      have hcp := h.1
      have hno : c ≠ 0x130 ∧ c ≠ 0x3A3 ∧ isHighSurrogate c = false ∧ isLowSurrogate c = false := by
        unfold isPlainUnit at hcp
        unfold isHighSurrogate isLowSurrogate
        grind
      simp only [isPlainUnit, Bool.and_eq_true, decide_eq_true_eq, Bool.not_eq_true'] at hcp
      rw [hcp.2] at hun
      simp [lowerUnit, hno, hun hcp.1]
    rw [lowerFrom, hc, ih h.2]
    rfl

/-- Two code units that are the same or both outside of ASCII. -/
def SameAscii (c d : CodeUnit) : Prop := c = d ∨ 0x80 ≤ c ∧ 0x80 ≤ d

theorem lowerUnit_context (before before' after : Text) (c : CodeUnit) :
    Forall₂ SameAscii (lowerUnit before after c) (lowerUnit before' after c) := by
  have hlow : isLowSurrogate c = true → 0x80 ≤ LowerTable.unit c := by
    intro hl
    have hge : 0x80 ≤ c ∧ c ≠ 0x212A := by
      unfold isLowSurrogate at hl
      grind
    have ho := LowerTable.unit_other c hge.1
    rwa [if_neg hge.2] at ho
  unfold lowerUnit
  by_cases h130 : c = 0x130
  · simp [h130, SameAscii]
  by_cases hsi : c = 0x3A3
  · subst hsi
    refine .cons (.inr ?_) .nil
    split_ifs <;> decide
  by_cases hhi : (isHighSurrogate c && after.head?.any isLowSurrogate) = true
  · simp [h130, hsi, hhi, SameAscii]
  simp only [h130, hsi, hhi, if_false, Bool.false_eq_true]
  split_ifs with hb hb' hb'
  · exact .cons (.inr ⟨(LowerTable.pair_other _ _).2, (LowerTable.pair_other _ _).2⟩) .nil
  · exact .cons (.inr ⟨(LowerTable.pair_other _ _).2, hlow (Bool.and_eq_true_iff.mp hb).1⟩) .nil
  · exact .cons (.inr ⟨hlow (Bool.and_eq_true_iff.mp hb').1, (LowerTable.pair_other _ _).2⟩) .nil
  · exact .cons (.inl rfl) .nil

theorem lowerFrom_context (before before' html : Text) :
    Forall₂ SameAscii (lowerFrom before html) (lowerFrom before' html) := by
  induction html generalizing before before' with
  | nil => exact .nil
  | cons c html ih => exact rel_append (lowerUnit_context before before' html c) (ih _ _)

end

/-- Two lower-cased copies that end raw text in the same places. -/
def Agrees (low low' : Text) : Prop :=
  ∀ name ∈ rawTags, ∀ i, (less :: slash :: name).isPrefixOf (low.drop i) =
    (less :: slash :: name).isPrefixOf (low'.drop i)

theorem Agrees.drop {low low' : Text} (h : Agrees low low') (n : Nat) :
    Agrees (low.drop n) (low'.drop n) := by
  intro name hn i
  simp only [drop_drop]
  exact h name hn (n + i)

theorem indexOf_congr {c : CodeUnit} {part : Text} {s s' : Text}
    (h : ∀ i, (c :: part).isPrefixOf (s.drop i) = (c :: part).isPrefixOf (s'.drop i)) :
    indexOf (c :: part) s = indexOf (c :: part) s' := by
  induction s generalizing s' with
  | nil =>
    induction s' with
    | nil => rfl
    | cons d s' ih =>
      have hd := h 0
      have ht := ih (fun i => by simpa using h (i + 1))
      simp only [drop_zero, indexOf] at hd ht ⊢
      rw [← hd, ← ht]
      rfl
  | cons d s ih =>
    have hd := h 0
    have ht := @ih (s'.drop 1) (fun i => by simpa using h (i + 1))
    cases s' with
    | nil =>
      simp only [drop_zero, indexOf, drop_nil] at hd ht ⊢
      rw [hd, ht]
      rfl
    | cons d' s' =>
      simp only [drop_zero, indexOf, drop_succ_cons] at hd ht ⊢
      rw [hd, ht]

theorem htmlPieces_congr {lower : Text → Text} {html low low' : Text} (h : Agrees low low') :
    htmlPieces lower html low = htmlPieces lower html low' := by
  fun_induction htmlPieces lower html low generalizing low' with
  | case1 => simp [htmlPieces]
  | case2 c rest low hc ih => rw [htmlPieces, if_pos hc, ih (h.drop 1)]
  | case3 c rest low hc hm => rw [htmlPieces, if_neg hc, hm]
  | case4 c rest low hc n hm ih => rw [htmlPieces, if_neg hc, hm, ih (h.drop _)]
  | case5 c rest low hc n hm hr ih => rw [htmlPieces, if_neg hc]; simp only [hm, hr, ih (h.drop _)]
  | case6 c rest low hc n hm name hr hi =>
    rw [indexOf_congr ((h.drop _) name (mem_of_find?_eq_some hr))] at hi
    rw [htmlPieces, if_neg hc]
    simp only [hm, hr, hi]
  | case7 c rest low hc n hm name hr m hi ih =>
    rw [indexOf_congr ((h.drop _) name (mem_of_find?_eq_some hr))] at hi
    rw [htmlPieces, if_neg hc]
    simp only [hm, hr, hi, ih (h.drop _)]

theorem htmlPieces_append {lower : Text → Text} {text : Text} (h : less ∉ text)
    (html low : Text) :
    htmlPieces lower (text ++ html) low =
      text.map (fun c => .copied [c]) ++ htmlPieces lower html (low.drop text.length) := by
  induction text generalizing low with
  | nil => simp
  | cons c text ih =>
    rw [mem_cons, not_or] at h
    rw [cons_append, htmlPieces, if_pos (Ne.symm h.1), ih h.2]
    simp

theorem isPrefixOf_congr {part low low' : Text} (hp : ∀ c ∈ part, c < 0x80)
    (h : Forall₂ SameAscii low low') : part.isPrefixOf low = part.isPrefixOf low' := by
  induction part generalizing low low' with
  | nil => rfl
  | cons a part ih =>
    rw [forall_mem_cons] at hp
    cases h with
    | nil => rfl
    | @cons c d low low' hc ht =>
      have hcd : (a == c) = (a == d) := by
        rcases hc with rfl | hc
        · rfl
        · have := hp.1
          grind
      rw [isPrefixOf_cons_cons, isPrefixOf_cons_cons, hcd, ih hp.2 ht]

theorem agrees_of_sameAscii {low low' : Text} (h : Forall₂ SameAscii low low') :
    Agrees low low' := by
  have hraw : ∀ name ∈ rawTags, (less :: slash :: name).all (· < 0x80) = true := by decide
  exact fun name hn i => isPrefixOf_congr (by simpa using hraw name hn) (forall₂_drop i h)

/-- The id `a` becomes `b`. -/
def exampleMappings : SelectorMappings
  | .id => [(utf16 "a", utf16 "b")]
  | .className => []

/-! A title whose end tag goes on to the end of a start tag: the scanner copies both, unless the
copy is shifted, so that it starts again within the end tag. -/

def endTitle : Text := less :: slash :: utf16 "title"

def longEndTitle (k : Nat) : Text := endTitle ++ replicate k (codeUnit ' ')

/-- No `<` is followed by a slash. -/
def NoEndTag (s : Text) : Prop := s.IsChain (fun c d => c = less → d ≠ slash)

theorem noEndTag_append {copy s : Text} (h : less ∉ copy) (hs : NoEndTag s) :
    NoEndTag (copy ++ s) := by
  induction copy with
  | nil => exact hs
  | cons c copy ih =>
    rw [mem_cons, not_or] at h
    exact isChain_cons.mpr ⟨fun _ _ hc => absurd hc.symm h.1, ih h.2⟩

theorem indexOf_endTitle {skipped : Text} (h : NoEndTag (skipped ++ [less])) (rest : Text) :
    indexOf endTitle (skipped ++ (endTitle ++ rest)) = some skipped.length := by
  induction skipped with
  | nil =>
    have hp : endTitle.isPrefixOf (endTitle ++ rest) = true :=
      isPrefixOf_iff_prefix.mpr (prefix_append _ _)
    unfold endTitle at hp ⊢
    rw [nil_append, cons_append, indexOf, ← cons_append, hp]
    rfl
  | cons c skipped ih =>
    obtain ⟨hc, hch⟩ := isChain_cons.mp h
    have hp : endTitle.isPrefixOf (c :: (skipped ++ (endTitle ++ rest))) = false := by
      by_contra hp
      rw [Bool.not_eq_false, isPrefixOf_iff_prefix, endTitle, cons_prefix_cons] at hp
      obtain ⟨hl, tail, ht⟩ := hp
      refine hc slash ?_ hl.symm rfl
      cases skipped with
      | nil => cases ht
      | cons d skipped =>
        rw [cons_append] at ht
        exact congrArg some (cons.inj ht).1.symm
    rw [cons_append, indexOf, hp, ih hch]
    rfl

theorem indexOf_greater {s : Text} (h : greater ∉ s) :
    indexOf [greater] (s ++ [greater]) = some s.length := by
  induction s with
  | nil => rfl
  | cons c s ih =>
    rw [mem_cons, not_or] at h
    have hp : [greater].isPrefixOf (c :: (s ++ [greater])) = false := by
      rw [isPrefixOf_cons_cons, beq_false_of_ne h.1, Bool.false_and]
    rw [cons_append, indexOf, hp, ih h.2]
    rfl

theorem htmlPieces_title {lower : Text → Text} {rest low : Text} {m : Nat}
    (h : indexOf endTitle (low.drop 7) = some m) :
    htmlPieces lower (utf16 "<title>" ++ rest) low = startTagPieces lower (utf16 "<title>") ++
      .copied (rest.take m) :: htmlPieces lower (rest.drop m) (low.drop (7 + m)) := by
  have hma : markup (utf16 "title>" ++ rest) = some (.startTag 6) := rfl
  have hra : rawTag (less :: (utf16 "title>" ++ rest).take 6) = some (utf16 "title") := rfl
  have hdr : (utf16 "title>" ++ rest).drop (6 + m) = rest.drop m := by
    rw [← drop_drop]
    rfl
  have hi : indexOf (less :: slash :: utf16 "title") (low.drop (6 + 1)) = some m := h
  change htmlPieces lower (less :: (utf16 "title>" ++ rest)) low = _
  rw [htmlPieces, if_neg (by simp), hma]
  simp only [hra, hi, hdr]
  rfl

def exampleTag : Text := utf16 "<p id=\"a\">"

theorem htmlPieces_longEndTitle (lower : Text → Text) (k : Nat) (low : Text) :
    htmlPieces lower (longEndTitle k ++ exampleTag) low =
      [.copied (longEndTitle k ++ exampleTag)] := by
  -- the first `>` is the last code unit
  obtain ⟨inner, hin, hgr⟩ : ∃ inner, longEndTitle k ++ exampleTag =
      less :: slash :: (inner ++ [greater]) ∧ greater ∉ inner := by
    refine ⟨utf16 "title" ++ replicate k (codeUnit ' ') ++ utf16 "<p id=\"a\"", ?_, ?_⟩
    · rw [append_assoc _ _ [greater]]
      rfl
    · simp only [mem_append, mem_replicate, not_or]
      exact ⟨⟨by decide, fun hm => absurd hm.2 (by decide)⟩, by decide⟩
  have hma : markup (slash :: (inner ++ [greater])) = some (.copied (inner.length + 2)) := by
    have hco : (utf16 "!--").isPrefixOf (slash :: (inner ++ [greater])) = false := rfl
    rw [markup, hco, drop_one, tail_cons, indexOf_greater hgr]
    rfl
  have hend : (slash :: (inner ++ [greater])).length = inner.length + 2 := by simp
  rw [hin, htmlPieces, if_neg (by simp), hma]
  simp only [← hend, take_length, drop_length, htmlPieces]

theorem attributePieces_exampleTag (lower : Text → Text) :
    attributePieces lower (utf16 " id=\"a\">") = [.copied (utf16 " id=\""),
      .value (lower (utf16 "id")) (utf16 "a"), .copied (utf16 "\""), .copied (utf16 ">")] := by
  have hend : attributePieces lower (utf16 ">") = [.copied (utf16 ">")] := by
    rw [attributePieces]
    split
    · rfl
    · next c rest he =>
      obtain rfl := (cons.inj he).1
      rfl
  have htag : (utf16 " id=\"a\">").dropWhile isJsWhiteSpace =
    codeUnit 'i' :: utf16 "d=\"a\">" := by decide
  rw [attributePieces]
  split
  · next he =>
    rw [htag] at he
    cases he
  · next c rest he =>
    rw [htag] at he
    obtain ⟨rfl, rfl⟩ := cons.inj he
    have hna : afterName (codeUnit 'i') (utf16 "d=\"a\">") = utf16 "=\"a\">" := by decide
    have hva : valueStart ((utf16 "=\"a\">").drop 1) =
      (some (codeUnit '"'), utf16 "a\">") := by decide
    have hid : (if codeUnit 'i' = equals then [] else
      codeUnit 'i' :: (utf16 "d=\"a\">").takeWhile isAttributeUnit) = utf16 "id" := by decide
    have hdr : (utf16 "a\">").dropWhile (isValueUnit (some (codeUnit '"'))) = utf16 "\">" := by
      decide
    have hta : (utf16 "a\">").takeWhile (isValueUnit (some (codeUnit '"'))) = utf16 "a" := by decide
    have hco : (utf16 " id=\"a\">").take ((utf16 " id=\"a\">").length - (utf16 "a\">").length) =
      utf16 " id=\"" := by decide
    have hq : (utf16 "\">").take 1 = utf16 "\"" ∧ (utf16 "\">").drop 1 = utf16 ">" := by decide
    have hle : (some (codeUnit '"')).toList.length = 1 := rfl
    rw [if_neg (by decide), if_neg (by decide)]
    simp only [hna, hva, hid, hdr, hta, hco, hle, hq, hend]

theorem flatMap_exampleTag [LowerTable] (low : Text) :
    (htmlPieces toLowerCase exampleTag low).flatMap (HtmlPiece.map exampleMappings) =
      utf16 "<p id=\"b\">" := by
  have hid : toLowerCase (utf16 "id") = utf16 "id" := lowerFrom_plain (by decide) []
  have hma : markup (utf16 "p id=\"a\">") = some (.startTag 9) := rfl
  have hra : rawTag (less :: (utf16 "p id=\"a\">").take 9) = none := rfl
  have hta : startTagPieces toLowerCase (less :: (utf16 "p id=\"a\">").take 9) =
      .copied (utf16 "<p") :: attributePieces toLowerCase (utf16 " id=\"a\">") := rfl
  change (htmlPieces toLowerCase (less :: utf16 "p id=\"a\">") low).flatMap _ = _
  rw [htmlPieces, if_neg (by simp), hma]
  simp only [hra, hta, attributePieces_exampleTag, hid]
  rw [show (utf16 "p id=\"a\">").drop 9 = [] from rfl, htmlPieces]
  decide +kernel

section

variable [LowerTable]

theorem lowerFrom_titled (before : Text) (k : Nat) :
    lowerFrom before (utf16 "<title>" ++ (longEndTitle k ++ exampleTag)) =
      utf16 "<title>" ++ (longEndTitle k ++ exampleTag) := by
  refine lowerFrom_plain ?_ before
  simp only [longEndTitle, all_append, all_replicate, Bool.and_eq_true]
  refine ⟨by decide, ⟨by decide, ?_⟩, by decide⟩
  split
  · rfl
  · decide

theorem aligned_scan (k : Nat) : ∃ before, replaceHtmlSelectorReferences
    (utf16 "<title>" ++ (longEndTitle k ++ exampleTag)) exampleMappings = before ++ exampleTag := by
  have hi : indexOf endTitle ((toLowerCase (utf16 "<title>" ++ (longEndTitle k ++ exampleTag))).drop
      7) = some 0 := by
    rw [toLowerCase, lowerFrom_titled, longEndTitle, append_assoc]
    have hno : NoEndTag ([] ++ [less]) := isChain_singleton _
    exact indexOf_endTitle hno _
  rw [replaceHtmlSelectorReferences, htmlPieces_title hi, drop_zero, htmlPieces_longEndTitle]
  simp only [flatMap_append, flatMap_cons, flatMap_nil, HtmlPiece.map, append_nil,
    ← append_assoc]
  exact ⟨_, rfl⟩

theorem shifted_scan {text : Text} (h : less ∉ text) (hpos : 0 < text.count 0x130) :
    ∃ before, replaceHtmlSelectorReferences
      (text ++ (utf16 "<title>" ++ (longEndTitle (text.count 0x130) ++ exampleTag)))
        exampleMappings = before ++ utf16 "<p id=\"b\">" := by
  generalize hk : text.count 0x130 = k at hpos
  obtain ⟨copy, hco, hle, hno⟩ :=
    lowerFrom_append [] text (utf16 "<title>" ++ (longEndTitle k ++ exampleTag))
  rw [lowerFrom_titled] at hco
  have hdr : (toLowerCase (text ++ (utf16 "<title>" ++ (longEndTitle k ++ exampleTag)))).drop
      text.length = copy.drop text.length ++ utf16 "<title>" ++ (longEndTitle k ++ exampleTag) := by
    rw [toLowerCase, hco, drop_append_of_le_length (by omega), append_assoc]
  have hcp : less ∉ copy.drop text.length := fun hm => hno h (mem_of_mem_drop hm)
  have hlen : (copy.drop text.length).length = k := by
    rw [length_drop]
    omega
  generalize copy.drop text.length = shift at hdr hcp hlen
  have hti : (utf16 "<title>").length = 7 := rfl
  have hi : indexOf endTitle ((shift ++ utf16 "<title>" ++ (longEndTitle k ++ exampleTag)).drop 7) =
      some k := by
    have hch : NoEndTag (shift ++ utf16 "<title><") := noEndTag_append hcp (by
      unfold NoEndTag
      decide)
    rw [drop_append_of_le_length (by simp [hti]), longEndTitle, append_assoc, indexOf_endTitle]
    · simp [hti, hlen]
    · rw [← drop_append_of_le_length (by simp [hti]), append_assoc]
      exact hch.drop 7
  have hcut : (longEndTitle k ++ exampleTag).drop k = (longEndTitle k).drop k ++ exampleTag :=
    drop_append_of_le_length (by simp [longEndTitle])
  have hcl : less ∉ (longEndTitle k).drop k := by
    obtain ⟨n, rfl⟩ := Nat.exists_eq_add_of_le' hpos
    intro hm
    have hm : less ∈ slash :: utf16 "title" ++ replicate (n + 1) (codeUnit ' ') :=
      mem_of_mem_drop (show less ∈ drop n _ from hm)
    rw [mem_append, mem_replicate] at hm
    rcases hm with hm | hm
    · exact absurd hm (by decide)
    · exact absurd hm.2 (by decide)
  rw [replaceHtmlSelectorReferences, htmlPieces_append h, hdr, htmlPieces_title hi, hcut,
    htmlPieces_append hcl]
  simp only [flatMap_append, flatMap_cons, flatMap_exampleTag, ← append_assoc]
  exact ⟨_, rfl⟩

end

/-- Text before HTML is copied and does not matter for what follows, exactly if it has no letter
`U+0130`. -/
theorem leading_text_copied [LowerTable] {text : Text} (h : less ∉ text) :
    (∀ html mappings, replaceHtmlSelectorReferences (text ++ html) mappings =
      text ++ replaceHtmlSelectorReferences html mappings) ↔ 0x130 ∉ text := by
  constructor
  · intro hall hmem
    have hpos : 0 < text.count 0x130 := count_pos_iff.mpr hmem
    have heq := hall (utf16 "<title>" ++ (longEndTitle (text.count 0x130) ++ exampleTag))
      exampleMappings
    obtain ⟨before, hbe⟩ := shifted_scan h hpos
    obtain ⟨before', hbe'⟩ := aligned_scan (text.count 0x130)
    rw [hbe, hbe', ← append_assoc] at heq
    have hlen : (utf16 "<p id=\"b\">").length = exampleTag.length := by decide
    exact absurd (append_inj' heq hlen).2 (by decide)
  · intro hno html mappings
    obtain ⟨copy, hco, hle, -⟩ := lowerFrom_append [] text html
    rw [count_eq_zero.mpr hno, Nat.add_zero] at hle
    have hdr : (toLowerCase (text ++ html)).drop text.length =
        lowerFrom (text.reverse ++ []) html := by
      rw [toLowerCase, hco, ← hle, drop_left]
    unfold replaceHtmlSelectorReferences
    rw [htmlPieces_append h, hdr, flatMap_append, flatMap_map,
      htmlPieces_congr (agrees_of_sameAscii (lowerFrom_context _ [] html))]
    congr 1
    exact flatMap_singleton' text

/-- Lower case of ASCII and of the kelvin sign. -/
@[reducible] def asciiLowerTable : LowerTable where
  unit c := if 0x41 ≤ c && c ≤ 0x5A then c + 0x20 else if c = 0x212A then codeUnit 'k' else c
  pair c d := (if c < 0x80 then 0x80 else c, if d < 0x80 then 0x80 else d)
  isFinalSigma _ _ := false
  unit_ascii c h := by grind
  unit_other c h := by grind
  pair_other c d := by grind

theorem leading_text_copied_example :
    let _ := asciiLowerTable
    replaceHtmlSelectorReferences (utf16 "Hi" ++ utf16 "<P ID=a>") exampleMappings =
      utf16 "Hi" ++ replaceHtmlSelectorReferences (utf16 "<P ID=a>") exampleMappings := by
  intro table
  exact (leading_text_copied (by decide)).mpr (by decide) _ _

/-- Nine letters `U+0130` push the end tag of the title over the start tag that follows it. -/
theorem leading_text_shifts :
    let _ := asciiLowerTable
    less ∉ List.replicate 9 (0x130 : CodeUnit) ∧
      replaceHtmlSelectorReferences
        (List.replicate 9 0x130 ++ utf16 "<title></title><p id=\"a\">") exampleMappings =
        List.replicate 9 0x130 ++ utf16 "<title></title><p id=\"a\">" ∧
      replaceHtmlSelectorReferences (utf16 "<title></title><p id=\"a\">")
        exampleMappings = utf16 "<title></title><p id=\"b\">" := by
  decide +kernel

end Realtime.Assets
