import Realtime.Machine
import Realtime.Pipeline

/-! Connection tickets. Issuing and consuming calls of any number of gateways
run against one Redis; each access to Redis is atomic, and everything else may
happen in between, also the loss of a call or of a key. -/

namespace Realtime

open List Option

structure ConnectionTicketRecord where
  tenantId : Text
  userId : Text
  allowedTopics : List Text
  expiresAt : Int
  audience : Text
  sessionId : Option Text := none
  deriving DecidableEq

/-- `RandomNumberGenerator.GetBytes(32)`. -/
structure RandomBytes where
  bytes : List UInt8
  length_eq : bytes.length = 32

def base64Digit (n : Nat) : CodeUnit :=
  if n < 26 then UInt16.ofNat (0x41 + n)
  else if n < 52 then UInt16.ofNat (0x61 + (n - 26))
  else if n < 62 then UInt16.ofNat (0x30 + (n - 52))
  else if n = 62 then codeUnit '+' else codeUnit '/'

def toBase64String : List UInt8 → Text
  | a :: b :: c :: rest =>
    base64Digit (a.toNat / 4) :: base64Digit (a.toNat % 4 * 16 + b.toNat / 16) ::
      base64Digit (b.toNat % 16 * 4 + c.toNat / 64) :: base64Digit (c.toNat % 64) ::
      toBase64String rest
  | [a, b] =>
    [base64Digit (a.toNat / 4), base64Digit (a.toNat % 4 * 16 + b.toNat / 16),
      base64Digit (b.toNat % 16 * 4), codeUnit '=']
  | [a] => [base64Digit (a.toNat / 4), base64Digit (a.toNat % 4 * 16), codeUnit '=', codeUnit '=']
  | [] => []

def replace (old new : CodeUnit) (s : Text) : Text := s.map (fun c => if c = old then new else c)

def ticketText (random : RandomBytes) : Text :=
  replace (codeUnit '/') (codeUnit '_') (replace (codeUnit '+') (codeUnit '-')
    ((toBase64String random.bytes).rdropWhile (fun c => c == codeUnit '=')))

theorem toBase64String_eq (bytes : List UInt8) :
    ∃ (sextets : List (Fin 64)) (padding : Nat),
      toBase64String bytes = sextets.map (fun n => base64Digit n.val) ++
        List.replicate padding (codeUnit '=') ∧
      4 * bytes.length ≤ 3 * sextets.length ∧ 3 * sextets.length ≤ 4 * bytes.length + 2 := by
  induction bytes using toBase64String.induct with
  | case1 a b c rest ih =>
    obtain ⟨sextets, padding, he, hlo, hhi⟩ := ih
    have ha := a.toNat_lt
    have hb := b.toNat_lt
    have hc := c.toNat_lt
    refine ⟨⟨a.toNat / 4, by omega⟩ :: ⟨a.toNat % 4 * 16 + b.toNat / 16, by omega⟩ ::
      ⟨b.toNat % 16 * 4 + c.toNat / 64, by omega⟩ :: ⟨c.toNat % 64, by omega⟩ :: sextets, padding,
      ?_, ?_, ?_⟩
    · simp only [toBase64String, he, map_cons, cons_append]
    · simp only [length_cons]
      omega
    · simp only [length_cons]
      omega
  | case2 a b =>
    have ha := a.toNat_lt
    have hb := b.toNat_lt
    exact ⟨[⟨a.toNat / 4, by omega⟩, ⟨a.toNat % 4 * 16 + b.toNat / 16, by omega⟩,
      ⟨b.toNat % 16 * 4, by omega⟩], 1, rfl, by simp, by simp⟩
  | case3 a =>
    have ha := a.toNat_lt
    exact ⟨[⟨a.toNat / 4, by omega⟩, ⟨a.toNat % 4 * 16, by omega⟩], 2, rfl, by simp, by simp⟩
  | case4 => exact ⟨[], 0, rfl, by simp, by simp⟩

theorem rdropWhile_padding {c : CodeUnit} {digits : Text} (h : c ∉ digits) (padding : Nat) :
    (digits ++ List.replicate padding c).rdropWhile (fun x => x == c) = digits := by
  induction padding with
  | zero =>
    rw [replicate_zero, append_nil, rdropWhile_eq_self_iff]
    intro hne he
    exact h (beq_iff_eq.mp he ▸ getLast_mem hne)
  | succ padding ih =>
    rw [replicate_succ', ← append_assoc, rdropWhile_concat_pos (fun x => x == c)
      _ c (by simp), ih]

theorem base64Digit_ne_padding (n : Fin 64) : base64Digit n.val ≠ codeUnit '=' := by
  revert n
  decide

/-- The digit in the URL-safe alphabet. -/
def urlDigit (n : Nat) : CodeUnit :=
  let c := if base64Digit n = codeUnit '+' then codeUnit '-' else base64Digit n
  if c = codeUnit '/' then codeUnit '_' else c

theorem urlDigit_cases (n : Fin 64) :
    (urlDigit n.val < 0x80 ∧ isAsciiLetterOrDigit (urlDigit n.val) = true) ∨
      urlDigit n.val = codeUnit '-' ∨ urlDigit n.val = codeUnit '_' := by
  revert n
  decide

theorem ticketText_eq (random : RandomBytes) :
    ∃ sextets : List (Fin 64), sextets.length = 43 ∧
      ticketText random = sextets.map (fun n => urlDigit n.val) := by
  obtain ⟨sextets, padding, he, hlo, hhi⟩ := toBase64String_eq random.bytes
  rw [random.length_eq] at hlo hhi
  have hpad : codeUnit '=' ∉ sextets.map (fun n => base64Digit n.val) := by
    intro hm
    obtain ⟨n, _, hn⟩ := List.mem_map.mp hm
    exact base64Digit_ne_padding n hn
  refine ⟨sextets, by omega, ?_⟩
  simp only [ticketText, he, rdropWhile_padding hpad, replace, List.map_map]
  rfl

inductive IssueFailure where
  | blankAudience
  | lifetimeOutOfRange
  | argument (message parameter : Text)
  | redis (message : Text)
  | abandoned

def ticketExpiresAt (identity : RealtimeIdentity) (lifetime now : Int) : Int :=
  if identity.expiresAt < now + lifetime then identity.expiresAt else now + lifetime

section

variable [CharTable]

/-- `IssueAsync` up to its access to Redis. -/
def issueRecord (identity : RealtimeIdentity) (audience : Text) (lifetime : Int) (now : UtcNow) :
    Except IssueFailure ConnectionTicketRecord :=
  if isBlank audience then .error .blankAudience
  else if lifetime ≤ 0 ∨ 5 * ticksPerMinute < lifetime then .error .lifetimeOutOfRange
  else if identity.sessionId.any (fun sessionId => !isValidSessionId sessionId) then
    .error (.argument (utf16 "The identity contains an invalid session identifier.")
      (utf16 "identity"))
  else if ticketExpiresAt identity lifetime now.ticks - now.ticks ≤ 0 then
    .error (.argument (utf16 "Identity must remain valid for the ticket lifetime.")
      (utf16 "identity"))
  else
    .ok
      { tenantId := identity.tenantId
        userId := identity.userId
        allowedTopics := identity.allowedTopics
        expiresAt := ticketExpiresAt identity lifetime now.ticks
        audience := audience
        sessionId := identity.sessionId }

/-- The guard of `ConsumeAsync` on the text of the ticket. -/
def hasTicketForm (ticket : Text) : Bool := hasForm 32 128 isTokenChar ticket

theorem ticketText_hasTicketForm (random : RandomBytes) :
    hasTicketForm (ticketText random) = true := by
  obtain ⟨sextets, hlen, he⟩ := ticketText_eq random
  refine hasForm_iff.mpr ⟨?_, ?_, ?_⟩
  · rw [he, length_map, hlen]
    omega
  · rw [he, length_map, hlen]
    omega
  · intro c hc
    rw [he] at hc
    obtain ⟨n, _, rfl⟩ := List.mem_map.mp hc
    rcases urlDigit_cases n with ⟨hlt, ha⟩ | hd | hd
    · exact isTokenChar_of_ascii hlt ha
    · simp [isTokenChar, hd]
    · simp [isTokenChar, hd]

def ConnectionTicketRecord.wellFormed (record : ConnectionTicketRecord) : Bool :=
  record.sessionId.all isValidSessionId &&
    isValidIdentity record.tenantId record.userId record.allowedTopics

/-- `ConsumeAsync` after its access to Redis. Audiences are compared with
`OrdinalIgnoreCase`, which depends on the case tables of the runtime. -/
def acceptRecord (sameAudience : Text → Text → Bool) (record : ConnectionTicketRecord)
    (audience : Text) (now : UtcNow) : Option RealtimeIdentity :=
  if record.expiresAt ≤ now.ticks ∨ sameAudience record.audience audience = false ∨
      record.wellFormed = false then none
  else
    some
      { tenantId := record.tenantId
        userId := record.userId
        allowedTopics := record.allowedTopics
        expiresAt := record.expiresAt
        sessionId := record.sessionId }

variable {identity : RealtimeIdentity} {audience : Text} {now : UtcNow}
  {record : ConnectionTicketRecord}

theorem issueRecord_eq_ok {lifetime : Int}
    (h : issueRecord identity audience lifetime now = .ok record) :
    identity.sessionId.all isValidSessionId = true ∧
      record = ⟨identity.tenantId, identity.userId, identity.allowedTopics,
        ticketExpiresAt identity lifetime now.ticks, audience, identity.sessionId⟩ := by
  simp only [issueRecord] at h
  split at h
  · cases h
  split at h
  · cases h
  split at h
  · cases h
  next hs =>
    split at h
    · cases h
    · cases h
      refine ⟨?_, rfl⟩
      cases hid : identity.sessionId with
      | none => rfl
      | some sessionId => simpa [hid] using hs

omit [CharTable] in
theorem ticketExpiresAt_eq_min (identity : RealtimeIdentity) (lifetime now : Int) :
    ticketExpiresAt identity lifetime now = min identity.expiresAt (now + lifetime) := by
  simp only [ticketExpiresAt]
  split <;> omega

theorem acceptRecord_eq_some {sameAudience : Text → Text → Bool}
    (h : acceptRecord sameAudience record audience now = some identity) :
    now.ticks < record.expiresAt ∧ sameAudience record.audience audience = true ∧
      identity = ⟨record.tenantId, record.userId, record.allowedTopics, record.expiresAt,
        record.sessionId⟩ := by
  simp only [acceptRecord] at h
  split at h
  · cases h
  next hc =>
    push Not at hc
    exact ⟨by omega, by simpa using hc.2.1, (some.inj h).symm⟩

end

structure TicketDraft where
  issuedAt : UtcNow
  ticket : Text
  record : ConnectionTicketRecord

/-- `issued` starts with the key being set; the call returns some time later. -/
inductive IssuePhase where
  | started
  | storing (draft : TicketDraft)
  | issued (draft : TicketDraft)
  | failed (failure : IssueFailure)

structure IssueCall where
  identity : RealtimeIdentity
  audience : Text
  lifetime : Int
  phase : IssuePhase := .started

structure StoredTicket where
  issue : Nat
  record : ConnectionTicketRecord

inductive ConsumePhase where
  | started
  | evaluating
  | checking
  | accepted (identity : RealtimeIdentity) (now : UtcNow)
  | refused
  | abandoned

/-- `taken` is what the script returned. -/
structure ConsumeCall where
  ticket : Text
  audience : Text
  phase : ConsumePhase := .started
  taken : Option StoredTicket := none

/-- The call succeeded with the ticket that the `i`-th issuing call had set. -/
def ConsumeCall.AcceptedFrom (call : ConsumeCall) (i : Nat) : Prop :=
  (∃ identity now, call.phase = .accepted identity now) ∧
    ∃ entry, call.taken = some entry ∧ entry.issue = i

structure TicketOptions where
  instancePrefix : Text := utf16 "realtime"
  ticketKeyPrefix : Text := utf16 "tickets"

def TicketOptions.ticketKey (options : TicketOptions) (ticket : Text) : Text :=
  options.instancePrefix ++ utf16 ":" ++ options.ticketKeyPrefix ++ utf16 ":" ++ ticket

theorem TicketOptions.ticketKey_injective {options : TicketOptions} {a b : Text}
    (h : options.ticketKey a = options.ticketKey b) : a = b :=
  append_cancel_left h

structure TicketWorld where
  redis : Text → Option StoredTicket := fun _ => none
  issues : List IssueCall := []
  consumes : List ConsumeCall := []

namespace TicketWorld

inductive IssueAction where
  | prepare (now : UtcNow) (random : RandomBytes)
  | store
  | abandon

inductive ConsumeAction where
  | guard
  | evaluate
  | check (now : UtcNow)
  | abandon

inductive Label where
  | callIssue (identity : RealtimeIdentity) (audience : Text) (lifetime : Int)
  | issue (i : Nat) (action : IssueAction)
  | callConsume (ticket audience : Text)
  | consume (j : Nat) (action : ConsumeAction)
  | expire (key : Text)

def setKey (redis : Text → Option StoredTicket) (key : Text) (value : Option StoredTicket) :
    Text → Option StoredTicket :=
  fun k => if k = key then value else redis k

def setIssue (w : TicketWorld) (i : Nat) (call : IssueCall) (phase : IssuePhase) : TicketWorld :=
  { w with issues := w.issues.set i { call with phase := phase } }

def setConsume (w : TicketWorld) (j : Nat) (call : ConsumeCall) : TicketWorld :=
  { w with consumes := w.consumes.set j call }

section

variable [CharTable]

def stepIssue (options : TicketOptions) (w : TicketWorld) (i : Nat) (call : IssueCall) :
    IssueAction → Option TicketWorld
  | .prepare now random =>
    match call.phase with
    | .started =>
      match issueRecord call.identity call.audience call.lifetime now with
      | .ok record => some (w.setIssue i call (.storing ⟨now, ticketText random, record⟩))
      | .error failure => some (w.setIssue i call (.failed failure))
    | _ => none
  -- SET NX: the key is written only if there is none.
  | .store =>
    match call.phase with
    | .storing draft =>
      match w.redis (options.ticketKey draft.ticket) with
      | none =>
        some { w.setIssue i call (.issued draft) with
          redis := setKey w.redis (options.ticketKey draft.ticket) (some ⟨i, draft.record⟩) }
      | some _ =>
        some (w.setIssue i call
          (.failed (.redis (utf16 "Unable to issue a unique connection ticket."))))
    | _ => none
  | .abandon =>
    match call.phase with
    | .started | .storing _ => some (w.setIssue i call (.failed .abandoned))
    | _ => none

def stepConsume (options : TicketOptions) (sameAudience : Text → Text → Bool) (w : TicketWorld)
    (j : Nat) (call : ConsumeCall) : ConsumeAction → Option TicketWorld
  | .guard =>
    match call.phase with
    | .started =>
      if !hasTicketForm call.ticket || isBlank call.audience then
        some (w.setConsume j { call with phase := .refused })
      else some (w.setConsume j { call with phase := .evaluating })
    | _ => none
  -- The script reads and deletes in one go.
  | .evaluate =>
    match call.phase with
    | .evaluating =>
      match w.redis (options.ticketKey call.ticket) with
      | none => some (w.setConsume j { call with phase := .refused })
      | some entry =>
        some { w.setConsume j { call with phase := .checking, taken := some entry } with
          redis := setKey w.redis (options.ticketKey call.ticket) none }
    | _ => none
  | .check now =>
    match call.phase, call.taken with
    | .checking, some entry =>
      match acceptRecord sameAudience entry.record call.audience now with
      | some identity => some (w.setConsume j { call with phase := .accepted identity now })
      | none => some (w.setConsume j { call with phase := .refused })
    | _, _ => none
  | .abandon =>
    match call.phase with
    | .started | .evaluating | .checking =>
      some (w.setConsume j { call with phase := .abandoned })
    | _ => none

def step (options : TicketOptions) (sameAudience : Text → Text → Bool) :
    StepFn TicketWorld Label
  | w, .callIssue identity audience lifetime =>
    some { w with issues := w.issues ++ [⟨identity, audience, lifetime, .started⟩] }
  | w, .issue i action =>
    w.issues[i]?.bind (fun call => w.stepIssue options i call action)
  | w, .callConsume ticket audience =>
    some { w with consumes := w.consumes ++ [⟨ticket, audience, .started, none⟩] }
  | w, .consume j action =>
    w.consumes[j]?.bind (fun call => w.stepConsume options sameAudience j call action)
  | w, .expire key => some { w with redis := setKey w.redis key none }

/-- A call of `IssueAsync` works on the record of its own arguments. -/
def IssueOk (call : IssueCall) : Prop :=
  ∀ draft, call.phase = .storing draft ∨ call.phase = .issued draft →
    issueRecord call.identity call.audience call.lifetime draft.issuedAt = .ok draft.record ∧
      hasTicketForm draft.ticket = true

def Issued (w : TicketWorld) (ticket : Text) (entry : StoredTicket) : Prop :=
  ∃ call draft, w.issues[entry.issue]? = some call ∧ call.phase = .issued draft ∧
    draft.ticket = ticket ∧ draft.record = entry.record

def AcceptedOk (sameAudience : Text → Text → Bool) (call : ConsumeCall) : Prop :=
  ∀ identity now, call.phase = .accepted identity now → ∃ entry, call.taken = some entry ∧
    acceptRecord sameAudience entry.record call.audience now = some identity

structure Inv (options : TicketOptions) (sameAudience : Text → Text → Bool) (w : TicketWorld) :
    Prop where
  issues : ∀ (i : Nat) (call : IssueCall), w.issues[i]? = some call → IssueOk call
  stored : ∀ key entry, w.redis key = some entry →
    ∃ ticket, key = options.ticketKey ticket ∧ w.Issued ticket entry
  fresh : ∀ key entry, w.redis key = some entry → ∀ (j : Nat) (call : ConsumeCall) taken,
    w.consumes[j]? = some call → call.taken = some taken → taken.issue ≠ entry.issue
  taken : ∀ (j : Nat) (call : ConsumeCall) entry, w.consumes[j]? = some call →
    call.taken = some entry → w.Issued call.ticket entry
  unique : ∀ (j j' : Nat) (call call' : ConsumeCall) entry entry', w.consumes[j]? = some call →
    w.consumes[j']? = some call' → call.taken = some entry → call'.taken = some entry' →
    entry.issue = entry'.issue → j = j'
  accepted : ∀ (j : Nat) (call : ConsumeCall), w.consumes[j]? = some call →
    AcceptedOk sameAudience call

section Steps

variable {options : TicketOptions} {sameAudience : Text → Text → Bool} {w w' : TicketWorld}

variable {entry : StoredTicket} {i j : Nat}

omit [CharTable] in
theorem Issued.of_issues {ticket : Text} (h : w.Issued ticket entry)
    (hs : ∀ (i : Nat) (call : IssueCall) draft, w.issues[i]? = some call → call.phase = .issued
      draft → w'.issues[i]? = some call) : w'.Issued ticket entry := by
  obtain ⟨call, draft, hc, hp, ht, hr⟩ := h
  exact ⟨call, draft, hs _ call draft hc hp, hp, ht, hr⟩

omit [CharTable] in
theorem issues_set_of_not_issued {call call' : IssueCall} (hc : w.issues[i]? = some call)
    (hne : ∀ draft, call.phase ≠ .issued draft) (k : Nat) (other : IssueCall) (draft : TicketDraft)
    (hk : w.issues[k]? = some other) (hp : other.phase = .issued draft) :
    (w.issues.set i call')[k]? = some other := by
  by_cases hik : i = k
  · subst hik
    obtain rfl := some.inj (hc.symm.trans hk)
    exact absurd hp (hne draft)
  · rwa [getElem?_set_ne hik]

theorem Inv.of_issues (hi : w.Inv options sameAudience) (hc : w'.consumes = w.consumes)
    (hr : ∀ key entry, w'.redis key = some entry → w.redis key = some entry)
    (hok : ∀ (i : Nat) (call : IssueCall), w'.issues[i]? = some call → IssueOk call)
    (hs : ∀ (i : Nat) (call : IssueCall) draft, w.issues[i]? = some call →
      call.phase = .issued draft → w'.issues[i]? = some call) : w'.Inv options sameAudience where
  issues := hok
  stored key entry h := by
    obtain ⟨ticket, hk, hiss⟩ := hi.stored key entry (hr key entry h)
    exact ⟨ticket, hk, hiss.of_issues hs⟩
  fresh key entry h j call taken hj ht := hi.fresh key entry (hr key entry h) j call taken (hc ▸ hj) ht
  taken j call entry hj ht := (hi.taken j call entry (hc ▸ hj) ht).of_issues hs
  unique j j' call call' entry entry' hj hj' := hi.unique j j' call call' entry entry' (hc ▸ hj) (hc ▸ hj')
  accepted j call hj := hi.accepted j call (hc ▸ hj)

theorem Inv.setIssue (hi : w.Inv options sameAudience) {call : IssueCall} {phase : IssuePhase}
    (hc : w.issues[i]? = some call) (hne : ∀ draft, call.phase ≠ .issued draft)
    (hok : IssueOk { call with phase := phase }) :
    (w.setIssue i call phase).Inv options sameAudience := by
  refine hi.of_issues rfl (fun _ _ h => h) ?_ (issues_set_of_not_issued hc hne)
  intro k other hk
  rcases getElem?_set_cases hk with ⟨rfl, rfl⟩ | ⟨_, hk⟩
  · exact hok
  · exact hi.issues k other hk

theorem Inv.store (hi : w.Inv options sameAudience) {call : IssueCall} {draft : TicketDraft}
    (hc : w.issues[i]? = some call) (hp : call.phase = .storing draft) :
    Inv options sameAudience { w.setIssue i call (.issued draft) with
      redis := setKey w.redis (options.ticketKey draft.ticket) (some ⟨i, draft.record⟩) } := by
  have hlt : i < w.issues.length := (List.getElem?_eq_some_iff.mp hc).1
  have hne : ∀ draft, call.phase ≠ .issued draft := by
    intro draft' h
    rw [hp] at h
    cases h
  have hok : IssueOk { call with phase := .issued draft } := by
    intro draft' h
    obtain rfl : draft = draft' := by
      rcases h with h | h <;> cases h
      rfl
    exact hi.issues i call hc draft (.inl hp)
  have hset := hi.setIssue hc hne hok
  refine { hset with stored := ?_, fresh := ?_ }
  · intro key entry h
    simp only [setKey] at h
    split at h
    · next hkey =>
      obtain rfl := some.inj h
      refine ⟨draft.ticket, hkey, { call with phase := .issued draft }, draft, ?_, rfl, rfl, rfl⟩
      exact getElem?_set_self hlt
    · exact hset.stored key entry h
  · intro key entry h j other taken hj ht
    simp only [setKey] at h
    split at h
    · obtain rfl := some.inj h
      intro he
      obtain ⟨issuer, draft', his, hph, _, _⟩ := hi.taken j other taken hj ht
      rw [he] at his
      obtain rfl := some.inj (hc.symm.trans his)
      exact hne draft' hph
    · exact hset.fresh key entry h j other taken hj ht

theorem Inv.setConsume (hi : w.Inv options sameAudience) {call call' : ConsumeCall}
    (hj : w.consumes[j]? = some call) (hti : call'.ticket = call.ticket)
    (hta : call'.taken = call.taken) (hok : AcceptedOk sameAudience call') :
    (w.setConsume j call').Inv options sameAudience := by
  have hba : ∀ (k : Nat) (c : ConsumeCall), (w.setConsume j call').consumes[k]? = some c →
      ∃ c₀, w.consumes[k]? = some c₀ ∧ c.taken = c₀.taken ∧ c.ticket = c₀.ticket := by
    intro k c hk
    rcases getElem?_set_cases hk with ⟨rfl, rfl⟩ | ⟨_, hk⟩
    · exact ⟨call, hj, hta, hti⟩
    · exact ⟨c, hk, rfl, rfl⟩
  refine ⟨hi.issues, hi.stored, ?_, ?_, ?_, ?_⟩
  · intro key entry h k c taken hk ht
    obtain ⟨c₀, hk₀, ht₀, _⟩ := hba k c hk
    exact hi.fresh key entry h k c₀ taken hk₀ (ht₀ ▸ ht)
  · intro k c entry hk ht
    obtain ⟨c₀, hk₀, ht₀, hticket₀⟩ := hba k c hk
    rw [hticket₀]
    exact hi.taken k c₀ entry hk₀ (ht₀ ▸ ht)
  · intro k k' c c' entry entry' hk hk' ht ht'
    obtain ⟨c₀, hk₀, ht₀, _⟩ := hba k c hk
    obtain ⟨c₁, hk₁, ht₁, _⟩ := hba k' c' hk'
    exact hi.unique k k' c₀ c₁ entry entry' hk₀ hk₁ (ht₀ ▸ ht) (ht₁ ▸ ht')
  · intro k c hk
    rcases getElem?_set_cases hk with ⟨rfl, rfl⟩ | ⟨_, hk⟩
    · exact hok
    · exact hi.accepted k c hk

theorem Inv.take (hi : w.Inv options sameAudience) {call : ConsumeCall}
    (hr : w.redis (options.ticketKey call.ticket) = some entry) :
    Inv options sameAudience
      { w.setConsume j { call with phase := .checking, taken := some entry } with
        redis := setKey w.redis (options.ticketKey call.ticket) none } := by
  obtain ⟨ticket, hkey, his⟩ := hi.stored _ entry hr
  obtain rfl := TicketOptions.ticketKey_injective hkey
  -- Two keys with one issuing call are the same key.
  have hsa : ∀ key entry', w.redis key = some entry' → entry'.issue = entry.issue →
      key = options.ticketKey call.ticket := by
    intro key entry' hk he
    obtain ⟨ticket, rfl, c₁, d₁, hc₁, hp₁, ht₁, _⟩ := hi.stored key entry' hk
    obtain ⟨c₂, d₂, hc₂, hp₂, ht₂, _⟩ := his
    rw [he] at hc₁
    obtain rfl := some.inj (hc₁.symm.trans hc₂)
    rw [hp₁] at hp₂
    obtain rfl := IssuePhase.issued.inj hp₂
    rw [← ht₁, ht₂]
  refine ⟨hi.issues, ?_, ?_, ?_, ?_, ?_⟩
  · intro key entry' h
    simp only [setKey] at h
    split at h
    · cases h
    · exact hi.stored key entry' h
  · intro key entry' h k c taken hk ht
    simp only [setKey] at h
    split at h
    · cases h
    next hne =>
      rcases getElem?_set_cases hk with ⟨rfl, rfl⟩ | ⟨_, hk⟩
      · obtain rfl := some.inj ht
        exact fun he => hne (hsa key entry' h he.symm)
      · exact hi.fresh key entry' h k c taken hk ht
  · intro k c entry' hk ht
    rcases getElem?_set_cases hk with ⟨rfl, rfl⟩ | ⟨_, hk⟩
    · obtain rfl := some.inj ht
      exact his
    · exact hi.taken k c entry' hk ht
  · intro k k' c c' e e' hk hk' ht ht' he
    rcases getElem?_set_cases hk with ⟨rfl, rfl⟩ | ⟨_, hk₀⟩
    · obtain rfl := some.inj ht
      rcases getElem?_set_cases hk' with ⟨rfl, rfl⟩ | ⟨_, hk'⟩
      · rfl
      · exact absurd he.symm (hi.fresh _ entry hr k' c' e' hk' ht')
    · rcases getElem?_set_cases hk' with ⟨rfl, rfl⟩ | ⟨_, hk₁⟩
      · obtain rfl := some.inj ht'
        exact absurd he (hi.fresh _ entry hr k c e hk₀ ht)
      · exact hi.unique k k' c c' e e' hk₀ hk₁ ht ht' he
  · intro k c hk
    rcases getElem?_set_cases hk with ⟨rfl, rfl⟩ | ⟨_, hk⟩
    · intro identity now h
      cases h
    · exact hi.accepted k c hk

theorem Inv.stepIssue (hi : w.Inv options sameAudience) {call : IssueCall} {action : IssueAction}
    (hc : w.issues[i]? = some call) (h : w.stepIssue options i call action = some w') :
    w'.Inv options sameAudience := by
  cases action with
  | prepare now random =>
    simp only [TicketWorld.stepIssue] at h
    split at h
    · next hp =>
      have hne : ∀ draft, call.phase ≠ .issued draft := fun draft h => by rw [hp] at h; cases h
      split at h
      · next record hre =>
        obtain rfl := some.inj h
        refine hi.setIssue hc hne (fun draft hd => ?_)
        rcases hd with hd | hd <;> cases hd
        exact ⟨hre, ticketText_hasTicketForm random⟩
      · obtain rfl := some.inj h
        refine hi.setIssue hc hne (fun draft hd => ?_)
        rcases hd with hd | hd <;> cases hd
    · cases h
  | store =>
    simp only [TicketWorld.stepIssue] at h
    split at h
    · next draft hp =>
      split at h
      · obtain rfl := some.inj h
        exact hi.store hc hp
      · obtain rfl := some.inj h
        refine hi.setIssue hc (fun draft h => by rw [hp] at h; cases h) (fun draft hd => ?_)
        rcases hd with hd | hd <;> cases hd
    · cases h
  | abandon =>
    simp only [TicketWorld.stepIssue] at h
    split at h
    · next hp =>
      obtain rfl := some.inj h
      refine hi.setIssue hc (fun draft h => by rw [hp] at h; cases h) (fun draft hd => ?_)
      rcases hd with hd | hd <;> cases hd
    · next draft hp =>
      obtain rfl := some.inj h
      refine hi.setIssue hc (fun draft h => by rw [hp] at h; cases h) (fun draft hd => ?_)
      rcases hd with hd | hd <;> cases hd
    · cases h

theorem Inv.stepConsume (hi : w.Inv options sameAudience) {call : ConsumeCall}
    {action : ConsumeAction} (hj : w.consumes[j]? = some call)
    (h : w.stepConsume options sameAudience j call action = some w') :
    w'.Inv options sameAudience := by
  have hpl : ∀ phase, (∀ identity now, phase ≠ .accepted identity now) →
      (w.setConsume j { call with phase := phase }).Inv options sameAudience := fun phase hne =>
    hi.setConsume hj rfl rfl (fun identity now hp => absurd hp (hne identity now))
  cases action with
  | guard =>
    simp only [TicketWorld.stepConsume] at h
    split at h
    · split at h <;> obtain rfl := some.inj h <;>
        exact hpl _ (fun _ _ hp => by cases hp)
    · cases h
  | evaluate =>
    simp only [TicketWorld.stepConsume] at h
    split at h
    · split at h
      · obtain rfl := some.inj h
        exact hpl _ (fun _ _ hp => by cases hp)
      · next entry hr =>
        obtain rfl := some.inj h
        exact hi.take hr
    · cases h
  | check now =>
    simp only [TicketWorld.stepConsume] at h
    split at h
    · next entry hp ht =>
      split at h
      · next identity ha =>
        obtain rfl := some.inj h
        refine hi.setConsume hj rfl rfl (fun identity' now' hp' => ?_)
        obtain ⟨rfl, rfl⟩ := ConsumePhase.accepted.inj hp'
        exact ⟨entry, ht, ha⟩
      · obtain rfl := some.inj h
        exact hpl _ (fun _ _ hp => by cases hp)
    · cases h
  | abandon =>
    simp only [TicketWorld.stepConsume] at h
    split at h
    · obtain rfl := some.inj h
      exact hpl _ (fun _ _ hp => by cases hp)
    · obtain rfl := some.inj h
      exact hpl _ (fun _ _ hp => by cases hp)
    · obtain rfl := some.inj h
      exact hpl _ (fun _ _ hp => by cases hp)
    · cases h

theorem Inv.step (hi : w.Inv options sameAudience) {label : Label}
    (h : TicketWorld.step options sameAudience w label = some w') :
    w'.Inv options sameAudience := by
  cases label with
  | callIssue identity audience lifetime =>
    obtain rfl := some.inj h
    refine hi.of_issues rfl (fun _ _ h => h) ?_ ?_
    · intro i call hc
      rcases getElem?_append_singleton_cases hc with hc | ⟨_, rfl⟩
      · exact hi.issues i call hc
      · intro draft hd
        rcases hd with hd | hd <;> cases hd
    · intro i call draft hc _
      have hlt : i < w.issues.length := (List.getElem?_eq_some_iff.mp hc).1
      rwa [getElem?_append_left hlt]
  | issue i action =>
    obtain ⟨call, hc, h⟩ := bind_eq_some_iff.mp h
    exact hi.stepIssue hc h
  | callConsume ticket audience =>
    obtain rfl := some.inj h
    have hold : ∀ (j : Nat) (call : ConsumeCall),
        (w.consumes ++ [⟨ticket, audience, .started, none⟩])[j]? = some call →
        w.consumes[j]? = some call ∨ call = ⟨ticket, audience, .started, none⟩ := fun j call hj =>
      (getElem?_append_singleton_cases hj).imp id And.right
    refine ⟨hi.issues, hi.stored, ?_, ?_, ?_, ?_⟩
    · intro key entry hr j call taken hj ht
      rcases hold j call hj with hj | rfl
      · exact hi.fresh key entry hr j call taken hj ht
      · cases ht
    · intro j call entry hj ht
      rcases hold j call hj with hj | rfl
      · exact hi.taken j call entry hj ht
      · cases ht
    · intro j j' call call' entry entry' hj hj' ht ht' he
      rcases hold j call hj with hj | rfl
      · rcases hold j' call' hj' with hj' | rfl
        · exact hi.unique j j' call call' entry entry' hj hj' ht ht' he
        · cases ht'
      · cases ht
    · intro j call hj
      rcases hold j call hj with hj | rfl
      · exact hi.accepted j call hj
      · intro identity now hp
        cases hp
  | consume j action =>
    obtain ⟨call, hj, h⟩ := bind_eq_some_iff.mp h
    exact hi.stepConsume hj h
  | expire key =>
    obtain rfl := some.inj h
    refine hi.of_issues rfl ?_ hi.issues (fun _ _ _ hc _ => hc)
    intro k entry hk
    simp only [setKey] at hk
    split at hk
    · cases hk
    · exact hk

theorem inv_initial : Inv options sameAudience {} where
  issues i call h := by simp at h
  stored key entry h := by cases h
  fresh key entry h := by cases h
  taken j call entry h := by simp at h
  unique j j' call call' entry entry' h := by simp at h
  accepted j call h := by simp at h

theorem Inv.run (hi : w.Inv options sameAudience) {labels : List Label}
    (h : (TicketWorld.step options sameAudience).run w labels = some w') :
    w'.Inv options sameAudience :=
  StepFn.run_induct (fun _ _ _ hu hs => Inv.step hu hs) hi h

end Steps

end

end TicketWorld

section

variable [CharTable]

/-- In every run, a ticket is accepted at most once and gives back exactly the
identity it was issued for, before the earlier of the two expiry times; a text
that was not issued is never accepted. The script of a consumer removes the
ticket whatever its audience is, and a record that was taken for another
audience is lost. Every ticket of a valid identity passes the checks. -/
theorem ticket_accepted_once (options : TicketOptions) (sameAudience : Text → Text → Bool)
    (labels : List TicketWorld.Label) (w : TicketWorld)
    (h : (TicketWorld.step options sameAudience).run {} labels = some w) :
    (∀ (i j j' : Nat) (call call' : ConsumeCall), w.consumes[j]? = some call →
      w.consumes[j']? = some call' → call.AcceptedFrom i → call'.AcceptedFrom i → j = j') ∧
    (∀ (j : Nat) (call : ConsumeCall) identity now, w.consumes[j]? = some call →
      call.phase = .accepted identity now →
      ∃ (i : Nat) (issue : IssueCall) (draft : TicketDraft), call.AcceptedFrom i ∧
        w.issues[i]? = some issue ∧ issue.phase = .issued draft ∧ draft.ticket = call.ticket ∧
        identity.tenantId = issue.identity.tenantId ∧ identity.userId = issue.identity.userId ∧
        identity.allowedTopics = issue.identity.allowedTopics ∧
        identity.sessionId = issue.identity.sessionId ∧
        identity.expiresAt =
          min issue.identity.expiresAt (draft.issuedAt.ticks + issue.lifetime) ∧
        now.ticks < identity.expiresAt) ∧
    (∀ (j : Nat) (call : ConsumeCall) w', w.consumes[j]? = some call →
      TicketWorld.step options sameAudience w (.consume j .evaluate) = some w' →
      w'.redis (options.ticketKey call.ticket) = none ∧
      ∀ entry, w.redis (options.ticketKey call.ticket) = some entry →
        ∃ call' : ConsumeCall, w'.consumes[j]? = some call' ∧ call'.taken = some entry) ∧
    (∀ (j j' : Nat) (call call' : ConsumeCall) entry, w.consumes[j]? = some call →
      call.taken = some entry → sameAudience entry.record.audience call.audience = false →
      w.consumes[j']? = some call' → ¬ call'.AcceptedFrom entry.issue) ∧
    (∀ (i : Nat) (issue : IssueCall) (draft : TicketDraft), w.issues[i]? = some issue →
      issue.phase = .issued draft → issue.identity.Valid →
      hasTicketForm draft.ticket = true ∧ draft.record.wellFormed = true) := by
  have hi := TicketWorld.inv_initial.run h
  refine ⟨?_, ?_, ?_, ?_, ?_⟩
  · rintro i j j' call call' hj hj' ⟨_, entry, ht, he⟩ ⟨_, entry', ht', he'⟩
    exact hi.unique j j' call call' entry entry' hj hj' ht ht' (he.trans he'.symm)
  · intro j call identity now hj hp
    obtain ⟨entry, ht, ha⟩ := hi.accepted j call hj identity now hp
    obtain ⟨issue, draft, his, hph, hti, hre⟩ := hi.taken j call entry hj ht
    obtain ⟨hr, _⟩ := hi.issues _ issue his draft (.inr hph)
    obtain ⟨_, hr⟩ := issueRecord_eq_ok hr
    obtain ⟨hnow, _, rfl⟩ := acceptRecord_eq_some ha
    rw [← hre, hr] at hnow
    refine ⟨entry.issue, issue, draft, ⟨⟨_, _, hp⟩, entry, ht, rfl⟩, his, hph, hti, ?_⟩
    rw [← hre, hr]
    exact ⟨rfl, rfl, rfl, rfl, ticketExpiresAt_eq_min _ _ _, hnow⟩
  · intro j call w' hj hs
    have hlt : j < w.consumes.length := (List.getElem?_eq_some_iff.mp hj).1
    simp only [TicketWorld.step, hj, bind_some, TicketWorld.stepConsume] at hs
    split at hs
    · split at hs
      · next hr =>
        obtain rfl := some.inj hs
        exact ⟨hr, fun entry he => by rw [hr] at he; cases he⟩
      · next entry hr =>
        obtain rfl := some.inj hs
        refine ⟨by simp only [TicketWorld.setKey, if_true], fun entry' he => ?_⟩
        rw [hr] at he
        exact ⟨_, getElem?_set_self hlt, he⟩
    · cases hs
  · rintro j j' call call' entry hj ht hne hj' ⟨⟨identity, now, hp⟩, entry', ht', he⟩
    obtain rfl := hi.unique j j' call call' entry entry' hj hj' ht ht' he.symm
    obtain rfl := some.inj (hj.symm.trans hj')
    obtain ⟨entry'', ht'', ha⟩ := hi.accepted j call hj identity now hp
    obtain rfl := some.inj (ht.symm.trans ht'')
    rw [(acceptRecord_eq_some ha).2.1] at hne
    cases hne
  · intro i issue draft his hph hv
    obtain ⟨hr, hfo⟩ := hi.issues i issue his draft (.inr hph)
    obtain ⟨hs, hr⟩ := issueRecord_eq_ok hr
    refine ⟨hfo, ?_⟩
    rw [hr]
    simp only [ConnectionTicketRecord.wellFormed, hs, Bool.true_and]
    exact hv

end

/-- `OrdinalIgnoreCase` on ASCII texts. -/
def asciiSameAudience (a b : Text) : Bool :=
  let upper (c : CodeUnit) : CodeUnit := if 0x61 ≤ c && c ≤ 0x7A then c - 0x20 else c
  a.map upper == b.map upper

def exampleRandom : RandomBytes := ⟨List.replicate 32 0, rfl⟩

def exampleIssuing : List TicketWorld.Label :=
  [.callIssue exampleIdentity (utf16 "gateway") ticksPerMinute,
    .issue 0 (.prepare exampleNow exampleRandom), .issue 0 .store]

def exampleConsuming (j : Nat) (audience : Text) : List TicketWorld.Label :=
  [.callConsume (ticketText exampleRandom) audience, .consume j .guard, .consume j .evaluate,
    .consume j (.check exampleNow)]

def ConsumeCall.isAcceptedFrom (call : ConsumeCall) (i : Nat) : Bool :=
  match call.phase with
  | .accepted _ _ => call.taken.any (fun entry => entry.issue == i)
  | _ => false

theorem ConsumeCall.isAcceptedFrom_iff {call : ConsumeCall} {i : Nat} :
    call.isAcceptedFrom i = true ↔ call.AcceptedFrom i := by
  obtain ⟨ticket, audience, phase, taken⟩ := call
  cases phase <;> simp [isAcceptedFrom, AcceptedFrom, Option.any_eq_true]

theorem ticket_accepted_once_gateway :
    let _ := asciiTable
    ∃ w call, (TicketWorld.step {} asciiSameAudience).run {}
        (exampleIssuing ++ exampleConsuming 0 (utf16 "Gateway") ++
          (exampleConsuming 1 (utf16 "gateway")).take 3) = some w ∧
      w.consumes[0]? = some call ∧ call.AcceptedFrom 0 ∧
      ∀ (j : Nat) (call' : ConsumeCall), w.consumes[j]? = some call' → call'.AcceptedFrom 0 →
        j = 0 := by
  intro table
  have hrun : ((TicketWorld.step {} asciiSameAudience).run {}
      (exampleIssuing ++ exampleConsuming 0 (utf16 "Gateway") ++
        (exampleConsuming 1 (utf16 "gateway")).take 3)).any
      (fun w => w.consumes[0]?.any (fun call => call.isAcceptedFrom 0)) = true := by decide
  obtain ⟨w, hw, hc⟩ := (Option.any_eq_true _ _).mp hrun
  obtain ⟨call, hj, ha⟩ := (Option.any_eq_true _ _).mp hc
  have ha := ConsumeCall.isAcceptedFrom_iff.mp ha
  have hon := (ticket_accepted_once {} asciiSameAudience _ w hw).1
  exact ⟨w, call, hw, hj, ha, fun j call' hj' ha' => hon 0 j 0 call' call hj' hj ha' ha⟩

def TicketWorld.refusedOtherAudience (w : TicketWorld) : Bool :=
  match w.issues[0]?, w.consumes[0]? with
  | some issue, some call =>
    match issue.phase, call.phase with
    | .issued draft, .refused =>
      decide (call.ticket = draft.ticket) && !asciiSameAudience draft.record.audience call.audience
    | _, _ => false
  | _, _ => false

/-- A consumer with a blank audience presents the ticket and is refused, and the
ticket is then still accepted. -/
theorem blank_audience_keeps_ticket :
    let _ := asciiTable
    ∃ labels more w w' refused accepted issue draft,
      (TicketWorld.step {} asciiSameAudience).run {} labels = some w ∧
      w.issues[0]? = some issue ∧ issue.phase = .issued draft ∧
      w.consumes[0]? = some refused ∧ refused.ticket = draft.ticket ∧
      asciiSameAudience draft.record.audience refused.audience = false ∧
      refused.phase = .refused ∧
      (TicketWorld.step {} asciiSameAudience).run w more = some w' ∧
      w'.consumes[1]? = some accepted ∧ accepted.AcceptedFrom 0 := by
  intro table
  have hrun : ((TicketWorld.step {} asciiSameAudience).run {}
      (exampleIssuing ++ (exampleConsuming 0 []).take 2)).any (fun w =>
        w.refusedOtherAudience && ((TicketWorld.step {} asciiSameAudience).run w
          (exampleConsuming 1 (utf16 "gateway"))).any (fun w' =>
            w'.consumes[1]?.any (fun call => call.isAcceptedFrom 0))) = true := by decide
  obtain ⟨w, hw, hc⟩ := (Option.any_eq_true _ _).mp hrun
  obtain ⟨hre, hmo⟩ := (Bool.and_eq_true _ _).mp hc
  obtain ⟨w', hw', hc⟩ := (Option.any_eq_true _ _).mp hmo
  obtain ⟨accepted, hj, ha⟩ := (Option.any_eq_true _ _).mp hc
  simp only [TicketWorld.refusedOtherAudience] at hre
  split at hre
  · next issue refused hi hr =>
    split at hre
    · next draft hp hq =>
      simp only [Bool.and_eq_true, decide_eq_true_eq, Bool.not_eq_true'] at hre
      exact ⟨_, _, w, w', refused, accepted, issue, draft, hw, hi, hp, hr, hre.1, hre.2,
        hq, hw', hj, ConsumeCall.isAcceptedFrom_iff.mp ha⟩
    · cases hre
  · cases hre

end Realtime
