import Realtime.Framing
import Realtime.Sdk.JsText
import Realtime.Utf8

/-! The diagnostics event stream: what `StreamAsync` writes, and how `#consumeStream` of the
TypeScript client reads it back chunk by chunk. -/

namespace Realtime.Diagnostics

open Sdk List Option

def lf : CodeUnit := codeUnit '\n'

def cr : CodeUnit := codeUnit '\r'

/-- The serializer of the server and `JSON.parse`, which is `none` for a syntax error. -/
class JsonCodec (α V : Type) where
  serialize : α → Text
  parse : Text → Option V
  value : α → V
  serialize_lf : ∀ a, lf ∉ serialize a
  serialize_cr : ∀ a, cr ∉ serialize a
  parse_serialize : ∀ a, parse (serialize a) = some (value a)
  /-- White space in front of a JSON text is not significant. -/
  parse_trimStart : ∀ text v, parse text = some v → parse (trimStart text) = some v

/-! The producer. -/

structure TailOptions where
  tailEventsPerSecond : Nat
  tailBytesPerSecond : Nat

inductive StreamBlock (α : Type) where
  | item (a : α)
  | heartbeat
  | disconnect

/-- What a turn of the loop of `StreamAsync` waits for: nothing in 15 seconds, or an item,
with the reading of the clock in ticks. -/
inductive StreamInput (α : Type) where
  | timeout
  | item (a : α) (now : Nat)

structure TailWindow where
  windowStarted : Nat
  events : Nat := 0
  bytes : Nat := 0

section

variable {α V : Type} [JsonCodec α V]

variable (V) in
def StreamBlock.text : StreamBlock α → Text
  | .item a => utf16 "data: " ++ JsonCodec.serialize V a ++ [lf, lf]
  | .heartbeat => utf16 ": heartbeat" ++ [lf, lf]
  | .disconnect =>
    utf16 "event: disconnect" ++ [lf] ++ utf16 "data: \x7b\"reason\":\"rate_limit\"\x7d" ++ [lf, lf]

variable (V) in
/-- `StreamAsync`, up to its cancellation or to the end of the channel. -/
def streamAsync (options : TailOptions) (isIncluded : α → Bool) (window : TailWindow) :
    List (StreamInput α) → List (StreamBlock α)
  | [] => []
  | .timeout :: inputs => .heartbeat :: streamAsync options isIncluded window inputs
  | .item a now :: inputs =>
    if isIncluded a = false then streamAsync options isIncluded window inputs
    else
      let current : TailWindow :=
        if window.windowStarted + 10000000 ≤ now then { windowStarted := now } else window
      let counted : TailWindow := { current with
        events := current.events + 1
        bytes := current.bytes + utf8Length (JsonCodec.serialize V a) }
      if options.tailEventsPerSecond < counted.events ∨ options.tailBytesPerSecond < counted.bytes then
        [.disconnect]
      else .item a :: streamAsync options isIncluded counted inputs

end

/-! The consumer. -/

/-- What follows `\r?\n` at the start of a text. -/
def afterLineBreak : Text → Option Text
  | [] => none
  | c :: rest =>
    if c = lf then some rest
    else if c = cr then
      match rest with
      | d :: rest => if d = lf then some rest else none
      | [] => none
    else none

/-- What follows `\r?\n\r?\n` at the start of a text. -/
def afterSeparator (text : Text) : Option Text := (afterLineBreak text).bind afterLineBreak

def searchBlock : Text → Option (Text × Text)
  | [] => none
  | c :: rest =>
    match afterSeparator (c :: rest) with
    | some after => some ([], after)
    | none => (searchBlock rest).map (fun found => (c :: found.1, found.2))

/-- `split(/\r?\n/)`. -/
def splitLines : Text → List Text
  | [] => [[]]
  | c :: rest =>
    if c = lf then [] :: splitLines rest
    else if c = cr ∧ rest.head? = some lf then splitLines rest
    else
      match splitLines rest with
      | [] => [[c]]
      | line :: lines => (c :: line) :: lines

structure BlockFields where
  eventName : Text := utf16 "message"
  data : List Text := []

def BlockFields.addLine (fields : BlockFields) (line : Text) : BlockFields :=
  let named : BlockFields :=
    if (utf16 "event:").isPrefixOf line then
      { fields with eventName := jsTrim (line.drop (utf16 "event:").length) }
    else fields
  if (utf16 "data:").isPrefixOf line then
    { named with data := named.data ++ [trimStart (line.drop (utf16 "data:").length)] }
  else named

inductive Dispatched (V : Type) where
  | nothing
  | event (v : V)
  | disconnect
  | failed

variable {V : Type}

/-- `#dispatchStreamBlock`. -/
def dispatchStreamBlock (parse : Text → Option V) (block : Text) : Dispatched V :=
  let fields := (splitLines block).foldl BlockFields.addLine {}
  if fields.eventName = utf16 "disconnect" then .disconnect
  else if fields.eventName = utf16 "message" ∧ 0 < fields.data.length then
    match parse ([lf].intercalate fields.data) with
    | some v => .event v
    | none => .failed
  else .nothing

inductive StreamEnd where
  | disconnected | ended | failed
  deriving DecidableEq

structure Consumer (V : Type) where
  buffer : Text := []
  events : List V := []
  outcome : Option StreamEnd := none

/-! A separator has two line feeds, and the second one is its last character. -/

theorem cr_ne_lf : cr ≠ lf := by decide

variable {text rest more block after line : Text}

theorem afterLineBreak_eq_some (h : afterLineBreak text = some rest) :
    text = lf :: rest ∨ text = cr :: lf :: rest := by
  unfold afterLineBreak at h
  split at h
  · cases h
  · next c t =>
    split at h
    · next hc =>
      cases h
      exact .inl (by rw [hc])
    · split at h
      · next hc =>
        split at h
        · next d t' =>
          split at h
          · next hd =>
            cases h
            exact .inr (by rw [hc, hd])
          · cases h
        · cases h
      · cases h

theorem afterLineBreak_lf (rest : Text) : afterLineBreak (lf :: rest) = some rest := by
  simp [afterLineBreak]

theorem afterLineBreak_crlf (rest : Text) : afterLineBreak (cr :: lf :: rest) = some rest := by
  simp [afterLineBreak, cr_ne_lf]

theorem afterLineBreak_count (h : afterLineBreak text = some rest) :
    text.count lf = rest.count lf + 1 := by
  rcases afterLineBreak_eq_some h with rfl | rfl
  · simp
  · simp [cr_ne_lf]

theorem afterLineBreak_append (more : Text) (h : afterLineBreak text = some rest) :
    afterLineBreak (text ++ more) = some (rest ++ more) := by
  rcases afterLineBreak_eq_some h with rfl | rfl
  · exact afterLineBreak_lf _
  · exact afterLineBreak_crlf _

theorem afterLineBreak_cut (hno : afterLineBreak text = none)
    (h : afterLineBreak (text ++ more) = some rest) : text.count lf = 0 := by
  match text with
  | [] => rfl
  | [c] =>
    rcases afterLineBreak_eq_some h with he | he
    · obtain ⟨rfl, -⟩ := cons.inj he
      rw [afterLineBreak_lf] at hno
      cases hno
    · obtain ⟨rfl, -⟩ := cons.inj he
      simp [cr_ne_lf]
  | c :: d :: t =>
    rcases afterLineBreak_eq_some h with he | he
    · obtain ⟨rfl, -⟩ := cons.inj he
      rw [afterLineBreak_lf] at hno
      cases hno
    · obtain ⟨hc, hta⟩ := cons.inj he
      obtain ⟨hd, -⟩ := cons.inj hta
      rw [hc, hd, afterLineBreak_crlf] at hno
      cases hno

theorem afterSeparator_append (more : Text) (h : afterSeparator text = some rest) :
    afterSeparator (text ++ more) = some (rest ++ more) := by
  obtain ⟨middle, hfi, hse⟩ := bind_eq_some_iff.mp h
  unfold afterSeparator
  rw [afterLineBreak_append more hfi]
  exact afterLineBreak_append more hse

theorem afterSeparator_count (h : afterSeparator text = some rest) :
    text.count lf = rest.count lf + 2 := by
  obtain ⟨middle, hfi, hse⟩ := bind_eq_some_iff.mp h
  have h1 := afterLineBreak_count hfi
  have h2 := afterLineBreak_count hse
  omega

theorem afterSeparator_length (h : afterSeparator text = some rest) :
    rest.length < text.length := by
  obtain ⟨middle, hfi, hse⟩ := bind_eq_some_iff.mp h
  have hle {text rest : Text} (h : afterLineBreak text = some rest) :
      rest.length < text.length := by
    rcases afterLineBreak_eq_some h with rfl | rfl
    · simp
    · rw [length_cons, length_cons]
      omega
  have h1 := hle hfi
  have h2 := hle hse
  omega

theorem afterSeparator_cut (hno : afterSeparator text = none)
    (h : afterSeparator (text ++ more) = some rest) : text.count lf ≤ 1 := by
  obtain ⟨middle, hfi, hse⟩ := bind_eq_some_iff.mp h
  unfold afterSeparator at hno
  cases ht : afterLineBreak text with
  | none =>
    have hco := afterLineBreak_cut ht hfi
    omega
  | some own =>
    rw [ht] at hno
    rw [afterLineBreak_append more ht, some.injEq] at hfi
    rw [← hfi] at hse
    have hown := afterLineBreak_count ht
    have hco := afterLineBreak_cut hno hse
    omega

theorem searchBlock_cons (c : CodeUnit) (rest : Text) : searchBlock (c :: rest) =
    match afterSeparator (c :: rest) with
    | some after => some ([], after)
    | none => (searchBlock rest).map (fun found => (c :: found.1, found.2)) := rfl

theorem searchBlock_count (h : searchBlock text = some (block, after)) :
    2 ≤ text.count lf := by
  induction text generalizing block with
  | nil => cases h
  | cons c rest ih =>
    rw [searchBlock_cons] at h
    split at h
    · next hs =>
      have hco := afterSeparator_count hs
      omega
    · obtain ⟨⟨block', after'⟩, hfo, he⟩ := map_eq_some_iff.mp h
      cases he
      have hco := ih hfo
      have hle : rest.count lf ≤ (c :: rest).count lf := count_le_count_cons
      omega

theorem searchBlock_length (h : searchBlock text = some (block, after)) :
    after.length < text.length := by
  induction text generalizing block with
  | nil => cases h
  | cons c rest ih =>
    rw [searchBlock_cons] at h
    split at h
    · next hs =>
      cases h
      exact afterSeparator_length hs
    · obtain ⟨found, hfo, he⟩ := map_eq_some_iff.mp h
      cases he
      have hlt := ih hfo
      rw [length_cons]
      omega

theorem searchBlock_append (more : Text) (h : searchBlock text = some (block, after)) :
    searchBlock (text ++ more) = some (block, after ++ more) := by
  induction text generalizing block with
  | nil => cases h
  | cons c rest ih =>
    rw [searchBlock_cons] at h
    rw [cons_append, searchBlock_cons]
    split at h
    · next hs =>
      cases h
      rw [← cons_append, afterSeparator_append more hs]
    · next hs =>
      obtain ⟨found, hfo, he⟩ := map_eq_some_iff.mp h
      cases he
      have hno : afterSeparator (c :: rest ++ more) = none := by
        cases hcut : afterSeparator (c :: rest ++ more) with
        | none => rfl
        | some other =>
          have hle := afterSeparator_cut hs hcut
          have hco := searchBlock_count hfo
          have hle' : rest.count lf ≤ (c :: rest).count lf := count_le_count_cons
          omega
      rw [← cons_append, hno]
      exact map_eq_some_iff.mpr ⟨_, ih hfo, rfl⟩

def blockFramer : Framer CodeUnit Text where
  next := searchBlock
  shorter := searchBlock_length
  append := searchBlock_append

/-- The inner loop of `#consumeStream`. -/
def Consumer.drain (parse : Text → Option V) (consumer : Consumer V) : Consumer V :=
  match h : searchBlock consumer.buffer with
  | none => consumer
  | some (block, after) =>
    have := searchBlock_length h
    match dispatchStreamBlock parse block with
    | .disconnect => { consumer with buffer := after, outcome := some .disconnected }
    | .failed => { consumer with buffer := after, outcome := some .failed }
    | .event v =>
      drain parse { consumer with buffer := after, events := consumer.events ++ [v] }
    | .nothing => drain parse { consumer with buffer := after }
termination_by consumer.buffer.length

def Consumer.read (parse : Text → Option V) (consumer : Consumer V) (chunk : Text) : Consumer V :=
  match consumer.outcome with
  | some _ => consumer
  | none => Consumer.drain parse { consumer with buffer := consumer.buffer ++ chunk }

/-- The calls of `onEvent` and how `#consumeStream` ends; the last read has no text. -/
def consumeStream (parse : Text → Option V) (chunks : List Text) : List V × StreamEnd :=
  let consumer := Consumer.read parse (chunks.foldl (Consumer.read parse) {}) []
  (consumer.events, consumer.outcome.getD .ended)

/-! The consumer dispatches the blocks of the text it has read, up to the first that stops it. -/

def dispatchAll (parse : Text → Option V) : List Text → List V × Option StreamEnd
  | [] => ([], none)
  | block :: blocks =>
    match dispatchStreamBlock parse block with
    | .disconnect => ([], some .disconnected)
    | .failed => ([], some .failed)
    | .event v => (v :: (dispatchAll parse blocks).1, (dispatchAll parse blocks).2)
    | .nothing => dispatchAll parse blocks

variable {parse : Text → Option V} {consumer : Consumer V}

theorem dispatchAll_append (parse : Text → Option V) (blocks more : List Text) :
    dispatchAll parse (blocks ++ more) = match (dispatchAll parse blocks).2 with
      | some _ => dispatchAll parse blocks
      | none => ((dispatchAll parse blocks).1 ++ (dispatchAll parse more).1,
          (dispatchAll parse more).2) := by
  induction blocks with
  | nil => rfl
  | cons block blocks ih =>
    simp only [cons_append, dispatchAll]
    cases dispatchStreamBlock parse block with
    | disconnect | failed => rfl
    | nothing => exact ih
    | event v =>
      rw [ih]
      cases hst : (dispatchAll parse blocks).2 with
      | none => simp
      | some stop => simp [hst]

theorem Consumer.drain_eq (parse : Text → Option V) (consumer : Consumer V)
    (hst : consumer.outcome = none) :
    (drain parse consumer).events =
        consumer.events ++ (dispatchAll parse (blockFramer.frames consumer.buffer).1).1 ∧
      (drain parse consumer).outcome =
        (dispatchAll parse (blockFramer.frames consumer.buffer).1).2 ∧
      ((drain parse consumer).outcome = none →
        (drain parse consumer).buffer = (blockFramer.frames consumer.buffer).2) := by
  induction hn : consumer.buffer.length using Nat.strongRecOn generalizing consumer with
  | _ n ih =>
    rw [drain]
    split
    · next hse =>
      rw [Framer.frames_of_none (f := blockFramer) hse]
      exact ⟨by simp [dispatchAll], hst, fun _ => rfl⟩
    · next block after hse =>
      have hlt := searchBlock_length hse
      rw [Framer.frames_of_some (f := blockFramer) hse]
      simp only [dispatchAll]
      cases hbl : dispatchStreamBlock parse block with
      | disconnect | failed => exact ⟨(append_nil _).symm, rfl, nofun⟩
      | nothing =>
        exact ih after.length (hn ▸ hlt) { consumer with buffer := after } hst rfl
      | event v =>
        have hre := ih after.length (hn ▸ hlt)
          { consumer with buffer := after, events := consumer.events ++ [v] } hst rfl
        rw [append_assoc, singleton_append] at hre
        exact hre

structure Consumer.Reads (parse : Text → Option V) (consumer : Consumer V) (text : Text) : Prop where
  events : consumer.events = (dispatchAll parse (blockFramer.frames text).1).1
  outcome : consumer.outcome = (dispatchAll parse (blockFramer.frames text).1).2
  buffer : consumer.outcome = none → consumer.buffer = (blockFramer.frames text).2

theorem Consumer.Reads.initial : Consumer.Reads parse {} [] := by
  have hfr : blockFramer.frames [] = ([], []) := Framer.frames_of_none rfl
  constructor <;> simp [hfr, dispatchAll]

theorem Consumer.Reads.read (h : consumer.Reads parse text) (chunk : Text) :
    (Consumer.read parse consumer chunk).Reads parse (text ++ chunk) := by
  have hfr := Framer.frames_append (f := blockFramer) text chunk
  have hap := dispatchAll_append parse (blockFramer.frames text).1
    (blockFramer.frames ((blockFramer.frames text).2 ++ chunk)).1
  have hou := h.outcome
  obtain ⟨buffer, events, outcome⟩ := consumer
  cases outcome with
  | some stop =>
    rw [← hou] at hap
    constructor
    · rw [hfr, hap]
      exact h.events
    · rw [hfr, hap]
      exact hou
    · intro hno
      cases hno
  | none =>
    rw [← hou] at hap
    have hbu : buffer = (blockFramer.frames text).2 := h.buffer rfl
    have hev : events = (dispatchAll parse (blockFramer.frames text).1).1 := h.events
    subst hbu
    obtain ⟨hdr, hst, hre⟩ :=
      Consumer.drain_eq parse ⟨(blockFramer.frames text).2 ++ chunk, events, none⟩ rfl
    constructor
    · rw [hfr, hap, ← hev]
      exact hdr
    · rw [hfr, hap]
      exact hst
    · rw [hfr]
      exact hre

theorem Consumer.Reads.foldl (h : consumer.Reads parse text) (chunks : List Text) :
    (chunks.foldl (Consumer.read parse) consumer).Reads parse (text ++ chunks.flatten) := by
  induction chunks generalizing consumer text with
  | nil =>
    rw [flatten_nil, append_nil]
    exact h
  | cons chunk chunks ih =>
    rw [flatten_cons, ← append_assoc]
    exact ih (h.read chunk)

theorem consumeStream_eq (chunks : List Text) :
    consumeStream parse chunks =
      ((dispatchAll parse (blockFramer.frames chunks.flatten).1).1,
        (dispatchAll parse (blockFramer.frames chunks.flatten).1).2.getD .ended) := by
  have hin : Consumer.Reads parse {} [] := .initial
  have h := (hin.foldl chunks).read []
  rw [nil_append, append_nil] at h
  unfold consumeStream
  rw [← h.events, ← h.outcome]

/-! The blocks that the server writes. -/

def OneLine (line : Text) : Prop := lf ∉ line ∧ cr ∉ line

theorem afterSeparator_of_head {c : CodeUnit} (hlf : c ≠ lf) (hcr : c ≠ cr) (rest : Text) :
    afterSeparator (c :: rest) = none := by
  simp [afterSeparator, afterLineBreak, hlf, hcr]

theorem searchBlock_line (h : OneLine line) (rest : Text) :
    searchBlock (line ++ rest) = (searchBlock rest).map (fun found => (line ++ found.1, found.2)) := by
  obtain ⟨hlf, hcr⟩ := h
  induction line with
  | nil => simp
  | cons c line ih =>
    rw [mem_cons, not_or] at hlf hcr
    rw [cons_append, searchBlock_cons,
      afterSeparator_of_head (Ne.symm hlf.1) (Ne.symm hcr.1), ih hlf.2 hcr.2, Option.map_map]
    rfl

theorem searchBlock_end (rest : Text) : searchBlock (lf :: lf :: rest) = some ([], rest) := by
  simp [searchBlock, afterSeparator, afterLineBreak]

theorem splitLines_line (h : OneLine line) : splitLines line = [line] := by
  obtain ⟨hlf, hcr⟩ := h
  induction line with
  | nil => rfl
  | cons c line ih =>
    rw [mem_cons, not_or] at hlf hcr
    rw [splitLines, if_neg (Ne.symm hlf.1), if_neg (fun hc => hcr.1 hc.1.symm), ih hlf.2 hcr.2]

section

variable {α : Type} [JsonCodec α V]

namespace StreamBlock

variable (V) in
def body : StreamBlock α → Text
  | .item a => utf16 "data: " ++ JsonCodec.serialize V a
  | .heartbeat => utf16 ": heartbeat"
  | .disconnect =>
    utf16 "event: disconnect" ++ [lf] ++ utf16 "data: \x7b\"reason\":\"rate_limit\"\x7d"

def isDisconnect : StreamBlock α → Bool
  | .disconnect => true
  | _ => false

variable (V) in
def value : StreamBlock α → Option V
  | .item a => some (JsonCodec.value a)
  | _ => none

@[simp] theorem isDisconnect_item (a : α) : isDisconnect (.item a) = false := rfl
@[simp] theorem isDisconnect_heartbeat : isDisconnect (.heartbeat : StreamBlock α) = false := rfl
@[simp] theorem isDisconnect_disconnect : isDisconnect (.disconnect : StreamBlock α) = true := rfl
@[simp] theorem value_item (a : α) : value V (.item a) = some (JsonCodec.value a) := rfl
@[simp] theorem value_heartbeat : value V (.heartbeat : StreamBlock α) = none := rfl
@[simp] theorem value_disconnect : value V (.disconnect : StreamBlock α) = none := rfl

theorem item_oneLine (a : α) : OneLine (utf16 "data: " ++ JsonCodec.serialize V a) := by
  have hlf : lf ∉ utf16 "data: " := by decide
  have hcr : cr ∉ utf16 "data: " := by decide
  constructor
  · rw [mem_append, not_or]
    exact ⟨hlf, JsonCodec.serialize_lf a⟩
  · rw [mem_append, not_or]
    exact ⟨hcr, JsonCodec.serialize_cr a⟩

theorem heartbeat_oneLine : OneLine (utf16 ": heartbeat") := by
  constructor <;> decide

theorem searchBlock_text (block : StreamBlock α) (rest : Text) :
    searchBlock (block.text V ++ rest) = some (block.body V, rest) := by
  cases block with
  | item a =>
    have hli := searchBlock_line (item_oneLine (V := V) a) (lf :: lf :: rest)
    rw [searchBlock_end, map_some, append_nil] at hli
    simpa only [text, body, append_assoc, cons_append, nil_append] using hli
  | heartbeat =>
    have hli := searchBlock_line heartbeat_oneLine (lf :: lf :: rest)
    rw [searchBlock_end, map_some, append_nil] at hli
    simpa only [text, body, append_assoc, cons_append, nil_append] using hli
  | disconnect =>
    have hna : OneLine (utf16 "event: disconnect") := by constructor <;> decide
    have hda : OneLine (utf16 "data: \x7b\"reason\":\"rate_limit\"\x7d") := by
      constructor <;> decide
    have hli := searchBlock_line hda (lf :: lf :: rest)
    rw [searchBlock_end, map_some, append_nil] at hli
    have hbr : afterSeparator (lf :: (utf16 "data: \x7b\"reason\":\"rate_limit\"\x7d" ++
        lf :: lf :: rest)) = none := rfl
    have hlin := searchBlock_line hna
      (lf :: (utf16 "data: \x7b\"reason\":\"rate_limit\"\x7d" ++ lf :: lf :: rest))
    rw [searchBlock_cons, hbr, hli] at hlin
    simpa only [text, body, append_assoc, cons_append, nil_append,
      map_some] using hlin

theorem dispatchStreamBlock_body (block : StreamBlock α) :
    dispatchStreamBlock (JsonCodec.parse α) (block.body V) =
      match block with
      | .item a => .event (JsonCodec.value a : V)
      | .heartbeat => .nothing
      | .disconnect => .disconnect := by
  cases block with
  | item a =>
    have hfi : (splitLines (utf16 "data: " ++ JsonCodec.serialize V a)).foldl
        BlockFields.addLine {} = { data := [trimStart (JsonCodec.serialize V a)] } := by
      rw [splitLines_line (item_oneLine a)]
      rfl
    have hpa : JsonCodec.parse α (trimStart (JsonCodec.serialize V a)) =
        some (JsonCodec.value a) :=
      JsonCodec.parse_trimStart _ _ (JsonCodec.parse_serialize a)
    have hna : utf16 "message" ≠ utf16 "disconnect" := by decide
    simp [dispatchStreamBlock, body, hfi, hna, hpa]
  | heartbeat =>
    have hfi : (splitLines (utf16 ": heartbeat")).foldl BlockFields.addLine {} = {} := by
      rw [splitLines_line heartbeat_oneLine]
      rfl
    have hna : utf16 "message" ≠ utf16 "disconnect" := by decide
    simp [dispatchStreamBlock, body, hfi, hna]
  | disconnect =>
    have hna : ((splitLines (utf16 "event: disconnect" ++ [lf] ++
        utf16 "data: \x7b\"reason\":\"rate_limit\"\x7d")).foldl BlockFields.addLine {}).eventName =
        utf16 "disconnect" := by
      decide +kernel
    dsimp only [dispatchStreamBlock, body]
    rw [if_pos hna]

theorem dispatchAll_body (blocks : List (StreamBlock α)) :
    dispatchAll (JsonCodec.parse α) (blocks.map (body V)) =
      ((blocks.takeWhile (fun block => !block.isDisconnect)).filterMap (value V),
        if blocks.any isDisconnect then some .disconnected else none) := by
  induction blocks with
  | nil => rfl
  | cons block blocks ih =>
    rw [map_cons, dispatchAll, dispatchStreamBlock_body]
    cases block with
    | item a => simp [ih]
    | heartbeat => simp [ih, filterMap_cons]
    | disconnect => simp

end StreamBlock

theorem streamAsync_pairwise (options : TailOptions) (isIncluded : α → Bool)
    (window : TailWindow) (inputs : List (StreamInput α)) :
    (streamAsync V options isIncluded window inputs).Pairwise
      (fun earlier _ => earlier.isDisconnect = false) := by
  induction inputs generalizing window with
  | nil => exact List.Pairwise.nil
  | cons input inputs ih =>
    cases input with
    | timeout => exact List.Pairwise.cons (fun _ _ => rfl) (ih window)
    | item a now =>
      rw [streamAsync]
      split
      · exact ih window
      · extract_lets current counted
        split
        · exact pairwise_singleton _ _
        · exact List.Pairwise.cons (fun _ _ => rfl) (ih _)

theorem filterMap_takeWhile_of_pairwise {blocks : List (StreamBlock α)}
    (h : blocks.Pairwise (fun earlier _ => earlier.isDisconnect = false)) :
    (blocks.takeWhile (fun block => !block.isDisconnect)).filterMap (StreamBlock.value V) =
      blocks.filterMap (StreamBlock.value V) := by
  induction blocks with
  | nil => rfl
  | cons block blocks ih =>
    rw [pairwise_cons] at h
    cases block with
    | item a => simp [ih h.2]
    | heartbeat => simp [ih h.2, filterMap_cons]
    | disconnect =>
      have hnil : blocks = [] := by
        cases blocks with
        | nil => rfl
        | cons next rest => cases h.1 next mem_cons_self
      simp [hnil]

/-- The blocks whose whole text has been received are dispatched, and no others. -/
theorem consumeStream_streamAsync (options : TailOptions) (isIncluded : α → Bool)
    (window : TailWindow) (inputs : List (StreamInput α)) (chunks : List Text)
    (h : chunks.flatten <+:
      (streamAsync V options isIncluded window inputs).flatMap (StreamBlock.text V)) :
    let received := Framer.complete (StreamBlock.text V)
      (streamAsync V options isIncluded window inputs) chunks.flatten.length
    consumeStream (JsonCodec.parse α) chunks =
      (received.filterMap (StreamBlock.value V),
        if received.any StreamBlock.isDisconnect then .disconnected else .ended) := by
  intro received
  have hfr : (blockFramer.frames chunks.flatten).1 = received.map (StreamBlock.body V) :=
    Framer.frames_of_isPrefix (fun block _ rest => block.searchBlock_text rest) rfl h
  have hla : received.Pairwise (fun earlier _ => earlier.isDisconnect = false) :=
    (streamAsync_pairwise options isIncluded window inputs).sublist (Framer.complete_sublist _ _)
  rw [consumeStream_eq, hfr, StreamBlock.dispatchAll_body,
    filterMap_takeWhile_of_pairwise hla]
  cases received.any StreamBlock.isDisconnect with
  | true => rfl
  | false => rfl

end

@[reducible] def flagCodec : JsonCodec Bool Bool where
  serialize flag := utf16 (if flag then "true" else "false")
  parse text :=
    let trimmed := jsTrim text
    if trimmed = utf16 "true" then some true
    else if trimmed = utf16 "false" then some false
    else none
  value flag := flag
  serialize_lf := by decide
  serialize_cr := by decide
  parse_serialize := by decide
  parse_trimStart text v h := by
    have htrim : jsTrim (trimStart text) = jsTrim text := by
      unfold jsTrim trimStart
      rw [List.dropWhile_idempotent]
    rw [htrim]
    exact h

theorem consumeStream_streamAsync_flags :
    let _ := flagCodec
    consumeStream (JsonCodec.parse Bool)
      [utf16 "data: tr", utf16 "ue\n", utf16 "\n: heartbeat\n\ndata: fal"] = ([true], .ended) := by
  intro codec
  have h := consumeStream_streamAsync (V := Bool) ⟨10, 1000⟩ (fun _ => true) ⟨0, 0, 0⟩
    [.item true 1, .timeout, .item false 2]
    [utf16 "data: tr", utf16 "ue\n", utf16 "\n: heartbeat\n\ndata: fal"] (by decide +kernel)
  exact h

end Realtime.Diagnostics
