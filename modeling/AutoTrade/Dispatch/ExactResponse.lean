import AutoTrade.Dispatch.Dispatcher
import AutoTrade.Lib.JsonParser

/-!
# Exact provider responses

`ExactJsonTransportResponse`, its three encodings, and `load_submission_response_binding`,
which reads the response of an attempt back from the journal.  Timestamps are instants and
the submission scope is its canonical text, so the checks that they are canonical hold by
construction.
-/

namespace AutoTrade.Dispatch

open Lib Store

/-! ## Bytes -/

/-- `bytes.decode("utf-8", errors="strict")`. -/
def decodeUtf8 (raw : List UInt8) : Option String := String.fromUTF8? raw.toByteArray

/-- `str.encode("utf-8")`. -/
def encodeUtf8 (text : String) : List UInt8 := text.toByteArray.data.toList

theorem encodeUtf8_of_decodeUtf8 {raw : List UInt8} {text : String}
    (decoded : decodeUtf8 raw = some text) : encodeUtf8 text = raw := by
  rw [decodeUtf8, String.fromUTF8?] at decoded
  split at decoded
  · cases decoded
    simp [encodeUtf8, String.fromUTF8]
  · cases decoded

theorem decodeUtf8_ne_empty {raw : List UInt8} {text : String}
    (decoded : decodeUtf8 raw = some text) (present : raw ≠ []) : text ≠ "" := by
  rintro rfl
  exact present (encodeUtf8_of_decodeUtf8 decoded).symm

/-- `bytes.hex()`. -/
def hexText (raw : List UInt8) : List Char :=
  raw.flatMap fun byte => [hexDigit (byte.toNat / 16), hexDigit (byte.toNat % 16)]

/-- The white space that `bytes.fromhex` skips. -/
def isHexSpace (character : Char) : Bool :=
  character = ' ' || 9 ≤ character.toNat && character.toNat ≤ 13

/-- `bytes.fromhex`. -/
def fromHex : List Char → Option (List UInt8)
  | [] => some []
  | [last] => if isHexSpace last then some [] else none
  | first :: second :: rest =>
      if isHexSpace first then fromHex (second :: rest)
      else do
        let high ← Json.hexValue first
        let low ← Json.hexValue second
        let bytes ← fromHex rest
        some (UInt8.ofNat (high * 16 + low) :: bytes)

theorem isHexSpace_hexDigit : ∀ digit < 16, isHexSpace (hexDigit digit) = false := by decide

/-- `bytes.fromhex` undoes `bytes.hex`. -/
theorem fromHex_hexText (raw : List UInt8) : fromHex (hexText raw) = some raw := by
  induction raw with
  | nil => rfl
  | cons byte rest ih =>
      have bound : byte.toNat < 256 := byte.toNat_lt
      have high : byte.toNat / 16 < 16 := by omega
      have low : byte.toNat % 16 < 16 := by omega
      have joined : UInt8.ofNat (byte.toNat / 16 * 16 + byte.toNat % 16) = byte := by
        rw [Nat.div_add_mod', UInt8.ofNat_toNat]
      rw [hexText, List.flatMap_cons]
      change fromHex (hexDigit _ :: hexDigit _ :: hexText rest) = _
      rw [fromHex, isHexSpace_hexDigit _ high, Json.hexValue_hexDigit _ high,
        Json.hexValue_hexDigit _ low, ih]
      simp only [Bool.false_eq_true, if_false, Option.bind_eq_bind, Option.bind_some, joined]

theorem length_hexText (raw : List UInt8) : (hexText raw).length = 2 * raw.length := by
  induction raw with
  | nil => rfl
  | cons byte rest ih =>
      rw [hexText, List.flatMap_cons, List.length_append]
      change 2 + (hexText rest).length = _
      rw [ih, List.length_cons]
      omega

/-- SHA-256 of bytes: 64 hexadecimal digits, which for UTF-8 bytes are those of their text.
A `uuid5` is not blank. -/
class ByteFingerprint extends Fingerprint where
  sha256Bytes : List UInt8 → String
  sha256Bytes_encodeUtf8 : ∀ text, sha256Bytes (encodeUtf8 text) = sha256 text
  length_sha256Bytes : ∀ raw, (sha256Bytes raw).toList.length = 64
  digits_sha256Bytes : ∀ raw, ∀ digit ∈ (sha256Bytes raw).toList,
    digit.isDigit = true ∨ 'a' ≤ digit ∧ digit ≤ 'f'
  uuid5_present : ∀ text, strip (uuid5 text) ≠ ""

export ByteFingerprint (sha256Bytes)

theorem hexadecimal_hexDigit : ∀ digit < 16, (hexDigit digit).isDigit = true ∨
    'a' ≤ hexDigit digit ∧ hexDigit digit ≤ 'f' := by decide

theorem hexadecimal_hexText (raw : List UInt8) : ∀ digit ∈ hexText raw,
    digit.isDigit = true ∨ 'a' ≤ digit ∧ digit ≤ 'f' := by
  intro digit member
  obtain ⟨byte, -, own⟩ := List.mem_flatMap.mp member
  have bound : byte.toNat < 256 := byte.toNat_lt
  rcases List.mem_pair.mp own with rfl | rfl
  · exact hexadecimal_hexDigit _ (by omega)
  · exact hexadecimal_hexDigit _ (by omega)

theorem isSpace_hexadecimal {digit : Char}
    (hexadecimal : digit.isDigit = true ∨ 'a' ≤ digit ∧ digit ≤ 'f') : isSpace digit = false := by
  have range : 48 ≤ digit.toNat ∧ digit.toNat ≤ 102 := by
    rcases hexadecimal with decimal | ⟨above, below⟩
    · simp only [Char.isDigit, Bool.and_eq_true, decide_eq_true_eq] at decimal
      have lower : (48 : Nat) ≤ digit.toNat := decimal.1
      have upper : digit.toNat ≤ 57 := decimal.2
      omega
    · have lower : (97 : Nat) ≤ digit.toNat := above
      have upper : digit.toNat ≤ 102 := below
      omega
  exact isSpace_eq_false (by omega) (by omega)

theorem normal_hexadecimal {text : String} (length : text.toList.length = 64)
    (digits : ∀ digit ∈ text.toList, digit.isDigit = true ∨ 'a' ≤ digit ∧ digit ≤ 'f') :
    Normal text := by
  apply normal_of_forall
  · rintro rfl
    cases length
  · intro digit member
    exact isSpace_hexadecimal (digits digit member)

/-- The first 32 bytes in hexadecimal digits, filled up with zeros. -/
def filledDigits (raw : List UInt8) : List Char :=
  (hexText raw ++ List.replicate 64 '0').take 64

theorem length_filledDigits (raw : List UInt8) :
    (String.ofList (filledDigits raw)).toList.length = 64 := by
  simp [filledDigits]

theorem hexadecimal_filledDigits (raw : List UInt8) :
    ∀ digit ∈ (String.ofList (filledDigits raw)).toList,
      digit.isDigit = true ∨ 'a' ≤ digit ∧ digit ≤ 'f' := by
  intro digit member
  rw [String.toList_ofList] at member
  rcases List.mem_append.mp (List.mem_of_mem_take member) with own | filled
  · exact hexadecimal_hexText _ digit own
  · rw [List.eq_of_mem_replicate filled]
    exact Or.inl rfl

/-- The last bytes as their own digest, for evaluation. -/
@[reducible] def ByteFingerprint.tails : ByteFingerprint where
  sha256 text := String.ofList (filledDigits (encodeUtf8 text).reverse)
  uuid5 text := String.ofList (filledDigits (encodeUtf8 text))
  sha256Bytes raw := String.ofList (filledDigits raw.reverse)
  sha256Bytes_encodeUtf8 _ := rfl
  length_sha256Bytes raw := length_filledDigits raw.reverse
  digits_sha256Bytes raw := hexadecimal_filledDigits raw.reverse
  uuid5_present text blank := by
    have normal := normal_hexadecimal (length_filledDigits (encodeUtf8 text))
      (hexadecimal_filledDigits (encodeUtf8 text))
    exact normal.2 (normal.1.symm.trans blank)

/-- `re.fullmatch` of a canonical SHA-256 digest. -/
def isSha256 (digest : String) : Bool :=
  digest.toList.take 7 = "sha256:".toList && (digest.toList.drop 7).length = 64 &&
    (digest.toList.drop 7).all fun digit => digit.isDigit || ('a' ≤ digit && digit ≤ 'f')

section Digests

variable [ByteFingerprint]

theorem isSpace_sha256 (text : String) :
    ∀ digit ∈ (sha256 text).toList, isSpace digit = false := by
  rw [← ByteFingerprint.sha256Bytes_encodeUtf8]
  intro digit member
  exact isSpace_hexadecimal (ByteFingerprint.digits_sha256Bytes _ digit member)

theorem normal_sha256 (text : String) : Normal (sha256 text) := by
  rw [← ByteFingerprint.sha256Bytes_encodeUtf8]
  exact normal_hexadecimal (ByteFingerprint.length_sha256Bytes _)
    (ByteFingerprint.digits_sha256Bytes _)

theorem isSha256_sha256Bytes (raw : List UInt8) :
    isSha256 ("sha256:" ++ sha256Bytes raw) = true := by
  have front : ("sha256:" ++ sha256Bytes raw).toList.take 7 = "sha256:".toList := by
    rw [String.toList_append]
    exact List.take_left' rfl
  have back : ("sha256:" ++ sha256Bytes raw).toList.drop 7 = (sha256Bytes raw).toList := by
    rw [String.toList_append]
    exact List.drop_left' rfl
  rw [isSha256, front, back]
  simp only [ByteFingerprint.length_sha256Bytes, decide_true, Bool.true_and, List.all_eq_true,
    Bool.or_eq_true, Bool.and_eq_true, decide_eq_true_eq]
  exact ByteFingerprint.digits_sha256Bytes raw

theorem isSha256_sha256 (text : String) : isSha256 ("sha256:" ++ sha256 text) = true := by
  rw [← ByteFingerprint.sha256Bytes_encodeUtf8]
  exact isSha256_sha256Bytes _

theorem normal_attemptAggregate (environment : Environment) (accountId attemptId : String) :
    Normal (attemptAggregate environment accountId attemptId).aggregateId :=
  normal_append rfl (by decide : isSpace 's' = false) (normal_sha256 _)

variable [CaseMap]

/-- A stable client order id is not blank. -/
theorem stableClientOrderId_present {key : IntentKey} {maxLength : Int} {format order : String}
    (success : stableClientOrderId key maxLength format = .ok order) : strip order ≠ "" := by
  simp only [stableClientOrderId] at success
  split at success
  · split at success
    · cases success
    · cases success
      exact ByteFingerprint.uuid5_present _
  · split at success
    · split at success
      · cases success
      next long =>
        cases success
        obtain ⟨more, longer⟩ : ∃ more, maxLength.toNat = more + 1 :=
          ⟨maxLength.toNat - 1, by omega⟩
        have normal :
            Normal (String.ofList (("at-" ++ key.digest).toList.take maxLength.toNat)) := by
          apply normal_of_forall
          · intro empty
            have chars := congrArg String.toList empty
            rw [String.toList_ofList, String.toList_append, longer] at chars
            cases chars
          · intro character member
            rw [String.toList_ofList, String.toList_append] at member
            rcases List.mem_append.mp (List.mem_of_mem_take member) with mark | digit
            · exact Bool.not_eq_true' _ |>.mp (List.all_eq_true.mp
                (by decide : ("at-".toList.all fun mark => !isSpace mark) = true) character mark)
            · exact isSpace_sha256 _ character digit
        rw [normal.1]
        exact normal.2
    · cases success

end Digests

/-- `HARD_MAX_PROVIDER_RESPONSE_BYTES`. -/
def hardMaxProviderResponseBytes : Nat := 16 * 1024 * 1024

/-! ## Responses -/

section Responses

variable [ResponseDecoder]

/-- `_decode_exact_json_bytes`, as the canonical text of the decoded value. -/
def decodeExactJsonBytes (raw : List UInt8) : Option String :=
  if raw = [] then none else (decodeUtf8 raw).bind decodeExactJson

/-- A status in the range of success. -/
def isSuccess (status : Option Nat) : Bool :=
  match status with
  | none => false
  | some code => 200 ≤ code && code ≤ 299

/-- The bytes that a response may carry: any bounded bytes if it is ambiguous and no success,
else JSON. -/
def CarriesBytes (raw : List UInt8) (status : Option Nat) (ambiguous : Bool) : Prop :=
  if ambiguous = true ∧ isSuccess status = false then
    raw.length ≤ hardMaxProviderResponseBytes
  else (decodeExactJsonBytes raw).isSome = true

instance (raw : List UInt8) (status : Option Nat) (ambiguous : Bool) :
    Decidable (CarriesBytes raw status ambiguous) := by
  unfold CarriesBytes
  infer_instance

/-- The error of bytes that a response may not carry. -/
def bytesError (raw : List UInt8) (status : Option Nat) (ambiguous : Bool) : DispatchError :=
  if ambiguous = true ∧ isSuccess status = false then
    .valueError "provider response exceeds byte budget"
  else if raw = [] then .valueError "provider response bytes must be non-empty bytes"
  else .valueError "provider response must be exact UTF-8 JSON bytes"

/-- An issued `ExactJsonTransportResponse`. -/
structure ExactJsonTransportResponse where
  responseBytes : List UInt8
  httpStatus : Option Nat
  requiresReconciliation : Bool
  ambiguityReason : Option String
  status : ∀ code ∈ httpStatus, 100 ≤ code ∧ code ≤ 599
  reason : if requiresReconciliation then ∃ reason, ambiguityReason = some reason ∧ Normal reason
    else ambiguityReason = none
  contents : CarriesBytes responseBytes httpStatus requiresReconciliation

namespace ExactJsonTransportResponse

/-- `__post_init__`. -/
def create (responseBytes : List UInt8) (httpStatus : Option Nat) (requiresReconciliation : Bool)
    (ambiguityReason : Option String) : Except DispatchError ExactJsonTransportResponse :=
  if status : ∀ code ∈ httpStatus, 100 ≤ code ∧ code ≤ 599 then
    match requiresReconciliation, ambiguityReason with
    | true, some reason =>
        if blank : strip reason = "" then
          .error (.valueError "ambiguous exact response requires a non-empty ambiguity_reason")
        else if contents : CarriesBytes responseBytes httpStatus true then
          .ok ⟨responseBytes, httpStatus, true, some (strip reason), status,
            ⟨_, rfl, normal_strip blank⟩, contents⟩
        else .error (bytesError responseBytes httpStatus true)
    | true, none =>
        .error (.valueError "ambiguous exact response requires a non-empty ambiguity_reason")
    | false, some _ =>
        .error (.valueError "ambiguity_reason is only valid when reconciliation is required")
    | false, none =>
        if contents : CarriesBytes responseBytes httpStatus false then
          .ok ⟨responseBytes, httpStatus, false, none, status, rfl, contents⟩
        else .error (bytesError responseBytes httpStatus false)
  else .error (.valueError "http_status must be an integer 100..599 when provided")

variable (response : ExactJsonTransportResponse)

/-- `response_encoding`. -/
def responseEncoding : ResponseEncoding :=
  if response.requiresReconciliation = true ∧ isSuccess response.httpStatus = false ∧
      decodeExactJsonBytes response.responseBytes = none then
    if response.responseBytes = [] then .hex
    else if decodeUtf8 response.responseBytes = none then .hex
    else .utf8Opaque
  else .utf8Json

/-- `response_text`. -/
def responseText : String :=
  if response.responseEncoding = .hex then String.ofList (hexText response.responseBytes)
  else (decodeUtf8 response.responseBytes).getD ""

variable [ByteFingerprint]

/-- `response_sha256`. -/
def responseSha256 : String := "sha256:" ++ sha256Bytes response.responseBytes

/-- The members of the terminal payload that carry the response. -/
def exact : ExactResponse where
  responseText := response.responseText
  responseSha256 := response.responseSha256
  responseEncoding := response.responseEncoding
  httpStatus := response.httpStatus

/-- The response as the wrapper returns it. -/
def transport : TransportResponse :=
  .exact response.exact response.requiresReconciliation response.ambiguityReason

end ExactJsonTransportResponse

end Responses

/-! ## Bindings -/

inductive TerminalState where
  | sent
  | unknown
  deriving DecidableEq, Repr

/-- `SubmissionResponseBinding`. -/
structure SubmissionResponseBinding where
  attemptId : String
  aggregateId : String
  provider : String
  requestHash : String
  clientOrderId : String
  environment : Environment
  accountId : String
  preparedAt : Instant
  sentAt : Instant
  submissionScope : String
  submissionScopeHash : String
  responseBytes : List UInt8
  responseSha256 : String
  responseEncoding : ResponseEncoding
  terminalState : TerminalState
  ambiguityReason : Option String
  retryDisposition : Option String
  httpStatus : Option Nat
  deriving DecidableEq, Repr

/-- The members that a terminal event has for its response: the state, the client order id,
the exact response, and the reason and disposition of an ambiguous one. -/
def terminalMembers (payload : SubmissionPayload) :
    Option (TerminalState × String × Option ExactResponse × Option String × Option String) :=
  match payload with
  | .sent order (.exact response) => some (.sent, order, some response, none, none)
  | .sent order (.mirror _) => some (.sent, order, none, none, none)
  | .unknown order reason (some response) =>
      some (.unknown, order, some response, some reason, some "RECONCILE_FIRST")
  | .unknown order reason none => some (.unknown, order, none, some reason, none)
  | _ => none

/-- A required identifier. -/
def required (value name : String) : Except DispatchError Unit :=
  if strip value = "" then .error (.valueError s!"{name} is required") else .ok ()

theorem required_of {value : String} (present : strip value ≠ "") (name : String) :
    required value name = .ok () := if_neg present

/-- A check that raises `ValueError`. -/
def ensure (holds : Prop) [Decidable holds] (message : String) : Except DispatchError Unit :=
  if holds then .ok () else .error (.valueError message)

theorem ensure_of {holds : Prop} [Decidable holds] (given : holds) (message : String) :
    ensure holds message = .ok () := if_pos given

section Loading

variable [ResponseDecoder] [ByteFingerprint]

/-- The check of the durable bytes. -/
def SubmissionResponseBinding.checkBytes (binding : SubmissionResponseBinding) :
    Except DispatchError Unit :=
  if binding.responseEncoding = .utf8Json then
    ensure ((decodeExactJsonBytes binding.responseBytes).isSome = true)
      "provider response must be exact UTF-8 JSON bytes"
  else do
    ensure (binding.terminalState = .unknown) "opaque response cannot establish definitive SENT"
    ensure (isSuccess binding.httpStatus = false)
      "opaque HTTP success cannot establish provider state"
    ensure (binding.responseBytes.length ≤ hardMaxProviderResponseBytes)
      "provider response exceeds byte budget"

/-- The check of the disposition. -/
def SubmissionResponseBinding.checkDisposition (binding : SubmissionResponseBinding) :
    Except DispatchError Unit :=
  match binding.terminalState with
  | .unknown =>
      ensure ((∃ reason ∈ binding.ambiguityReason, strip reason ≠ "") ∧
          binding.retryDisposition = some "RECONCILE_FIRST")
        "durable UNKNOWN requires reconciliation-first reason"
  | .sent =>
      ensure (binding.ambiguityReason = none ∧ binding.retryDisposition = none)
        "definitive SENT cannot carry UNKNOWN disposition"

/-- `__post_init__`. -/
def SubmissionResponseBinding.check (binding : SubmissionResponseBinding) :
    Except DispatchError SubmissionResponseBinding := do
  required binding.attemptId "attempt_id"
  required binding.aggregateId "aggregate_id"
  required binding.provider "provider"
  required binding.clientOrderId "client_order_id"
  required binding.accountId "account_id"
  ensure (isSha256 binding.requestHash) "request_hash must be a canonical SHA-256 digest"
  ensure (isSha256 binding.submissionScopeHash)
    "submission_scope_hash must be a canonical SHA-256 digest"
  ensure (isSha256 binding.responseSha256) "response_sha256 must be a canonical SHA-256 digest"
  binding.checkBytes
  ensure ("sha256:" ++ sha256Bytes binding.responseBytes = binding.responseSha256)
    "durable provider response digest mismatch"
  binding.checkDisposition
  ensure (∀ code ∈ binding.httpStatus, 100 ≤ code ∧ code ≤ 599)
    "durable provider HTTP status must be an integer 100..599"
  ensure ("sha256:" ++ sha256 binding.submissionScope = binding.submissionScopeHash)
    "durable submission scope digest mismatch"
  pure binding

theorem SubmissionResponseBinding.check_of {binding : SubmissionResponseBinding}
    (attempt : strip binding.attemptId ≠ "") (aggregate : strip binding.aggregateId ≠ "")
    (provider : strip binding.provider ≠ "") (order : strip binding.clientOrderId ≠ "")
    (account : strip binding.accountId ≠ "") (request : isSha256 binding.requestHash = true)
    (scope : isSha256 binding.submissionScopeHash = true)
    (response : isSha256 binding.responseSha256 = true) (bytes : binding.checkBytes = .ok ())
    (digest : "sha256:" ++ sha256Bytes binding.responseBytes = binding.responseSha256)
    (disposition : binding.checkDisposition = .ok ())
    (status : ∀ code ∈ binding.httpStatus, 100 ≤ code ∧ code ≤ 599)
    (scopeDigest : "sha256:" ++ sha256 binding.submissionScope = binding.submissionScopeHash) :
    binding.check = .ok binding := by
  rw [check, required_of attempt, ok_bind, required_of aggregate, ok_bind, required_of provider,
    ok_bind, required_of order, ok_bind, required_of account, ok_bind, ensure_of request, ok_bind,
    ensure_of scope, ok_bind, ensure_of response, ok_bind, bytes, ok_bind, ensure_of digest,
    ok_bind, disposition, ok_bind, ensure_of status, ok_bind, ensure_of scopeDigest, ok_bind]
  rfl

/-- The bytes of a durable exact response. -/
def durableBytes (state : TerminalState) (response : ExactResponse) :
    Except DispatchError (List UInt8) := do
  ensure (response.responseEncoding = .hex ∨ response.responseText ≠ "")
    "durable exact provider response bytes are unavailable"
  if response.responseEncoding = .hex then do
    ensure (state = .unknown ∧
        response.responseText.toList.length ≤ 2 * hardMaxProviderResponseBytes)
      "opaque durable response must remain bounded UNKNOWN"
    match fromHex response.responseText.toList with
    | none => .error (.valueError "durable opaque response encoding is invalid")
    | some bytes => do
        ensure (hexText bytes = response.responseText.toList)
          "durable opaque response encoding is noncanonical"
        pure bytes
  else pure (encodeUtf8 response.responseText)

/-- The binding of the three rows of an attempt. -/
def bindRows (aggregate : Aggregate) (attemptId : String) (prepared : PreparedPayload)
    (sendingOrder : String) (sentAt : Instant) (state : TerminalState) (terminalOrder : String)
    (response : Option ExactResponse) (reason disposition : Option String) :
    Except DispatchError SubmissionResponseBinding := do
  ensure (prepared.clientOrderId ≠ "" ∧ sendingOrder = prepared.clientOrderId ∧
    terminalOrder = prepared.clientOrderId) "client_order_id continuity mismatch"
  match response with
  | none => .error (.valueError "durable exact provider response bytes are unavailable")
  | some response => do
      let bytes ← durableBytes state response
      ensure ("sha256:" ++ sha256Bytes bytes = response.responseSha256)
        "durable provider response digest mismatch"
      ensure (∀ code ∈ response.httpStatus, 100 ≤ code ∧ code ≤ 599)
        "durable provider HTTP status is invalid"
      SubmissionResponseBinding.check
        { attemptId := attemptId
          aggregateId := aggregate.aggregateId
          provider := prepared.provider
          requestHash := prepared.requestHash
          clientOrderId := prepared.clientOrderId
          environment := prepared.environment
          accountId := prepared.accountId
          preparedAt := prepared.preparedAt
          sentAt := sentAt
          submissionScope := prepared.submissionScope
          submissionScopeHash := prepared.submissionScopeHash
          responseBytes := bytes
          responseSha256 := response.responseSha256
          responseEncoding := response.responseEncoding
          terminalState := state
          ambiguityReason := reason
          retryDisposition := disposition
          httpStatus := response.httpStatus }

variable [CaseMap]

/-- `submission_attempt_aggregate_id`. -/
def submissionAttemptAggregateId (environment accountId attemptId : String) :
    Except DispatchError Aggregate :=
  match Environment.ofText environment with
  | none => .error (.valueError "environment must be REPLAY, SIMULATION, PAPER, or LIVE")
  | some environment => do
      required accountId "account_id"
      required attemptId "attempt_id"
      pure (attemptAggregate environment accountId attemptId)

/-- `load_submission_response_binding`. -/
def loadSubmissionResponseBinding {π κ : Type} [Carries SubmissionEvent π]
    (journal : Journal π κ) (environment accountId attemptId : String) :
    Except DispatchError SubmissionResponseBinding := do
  let aggregate ← submissionAttemptAggregateId environment accountId attemptId
  match journal.loadEvents aggregate with
  | [] => .error (.valueError "durable submission attempt was not found")
  | [first, second, third] =>
      match submission? first, submission? second, (submission? third).bind terminalMembers with
      | some (.prepared prepared), some (.sending order _ _ _),
          some (state, terminalOrder, response, reason, disposition) =>
          bindRows aggregate attemptId prepared order third.committedAt state terminalOrder
            response reason disposition
      | _, _, _ => .error (.valueError
          "durable exact response requires Prepared -> Sending -> Sent/Unknown")
  | _ => .error (.valueError
      "durable exact response requires Prepared -> Sending -> Sent/Unknown")

end Loading

theorem submissionAttemptAggregateId_ok [ByteFingerprint] [CaseMap]
    {environment accountId attemptId : String} {aggregate : Aggregate}
    (success : submissionAttemptAggregateId environment accountId attemptId = .ok aggregate) :
    aggregate.aggregateType = "submission_attempt" ∧ Normal aggregate.aggregateId ∧
      strip attemptId ≠ "" := by
  rw [submissionAttemptAggregateId] at success
  split at success
  · cases success
  next canonical _ =>
    obtain ⟨_, -, success⟩ := bind_eq_ok.mp success
    obtain ⟨_, attempt, success⟩ := bind_eq_ok.mp success
    cases success
    refine ⟨rfl, normal_attemptAggregate canonical accountId attemptId, ?_⟩
    intro blank
    have raised := (if_pos blank).symm.trans attempt
    cases raised

/-! ## Responses read back -/

section ReadBack

variable [ResponseDecoder]

/-- Bytes that decode as JSON are the bytes of a text. -/
theorem exists_text_of_json {raw : List UInt8} (json : (decodeExactJsonBytes raw).isSome = true) :
    ∃ text, decodeUtf8 raw = some text ∧ text ≠ "" ∧ (decodeExactJson text).isSome = true := by
  rw [decodeExactJsonBytes] at json
  split at json
  next => cases json
  next present =>
    cases decoded : decodeUtf8 raw with
    | none =>
        rw [decoded] at json
        cases json
    | some text =>
        rw [decoded] at json
        exact ⟨text, rfl, decodeUtf8_ne_empty decoded present, json⟩

namespace ExactJsonTransportResponse

variable (response : ExactJsonTransportResponse)

/-- A response whose bytes need not be JSON. -/
structure Ambiguous : Prop where
  requires : response.requiresReconciliation = true
  failure : isSuccess response.httpStatus = false
  bounded : response.responseBytes.length ≤ hardMaxProviderResponseBytes

/-- The encoding of a response: JSON, or the hexadecimal digits or the opaque text of an
ambiguous one. -/
inductive Encodes : Prop where
  | json (encoding : response.responseEncoding = .utf8Json)
      (decodes : (decodeExactJsonBytes response.responseBytes).isSome = true)
  | hex (encoding : response.responseEncoding = .hex) (ambiguous : response.Ambiguous)
  | opaqueText {text : String} (encoding : response.responseEncoding = .utf8Opaque)
      (ambiguous : response.Ambiguous) (decoded : decodeUtf8 response.responseBytes = some text)
      (present : text ≠ "")

theorem encodes : response.Encodes := by
  have contents := response.contents
  rw [CarriesBytes] at contents
  by_cases free : response.requiresReconciliation = true ∧ isSuccess response.httpStatus = false
  · rw [if_pos free] at contents
    have ambiguous : response.Ambiguous := ⟨free.1, free.2, contents⟩
    cases json : decodeExactJsonBytes response.responseBytes with
    | some value =>
        refine .json ?_ (by rw [json]; rfl)
        rw [responseEncoding, if_neg]
        intro opaqueBytes
        rw [json] at opaqueBytes
        cases opaqueBytes.2.2
    | none =>
        have other : response.requiresReconciliation = true ∧
            isSuccess response.httpStatus = false ∧
              decodeExactJsonBytes response.responseBytes = none := ⟨free.1, free.2, json⟩
        by_cases empty : response.responseBytes = []
        · exact .hex (by rw [responseEncoding, if_pos other, if_pos empty]) ambiguous
        · cases decoded : decodeUtf8 response.responseBytes with
          | none =>
              refine .hex ?_ ambiguous
              rw [responseEncoding, if_pos other, if_neg empty, if_pos decoded]
          | some text =>
              refine .opaqueText ?_ ambiguous decoded (decodeUtf8_ne_empty decoded empty)
              rw [responseEncoding, if_pos other, if_neg empty, if_neg (by simp [decoded])]
  · rw [if_neg free] at contents
    refine .json ?_ contents
    rw [responseEncoding, if_neg]
    intro other
    exact free ⟨other.1, other.2.1⟩

/-- The terminal state of a response. -/
def terminalState : TerminalState :=
  if response.requiresReconciliation then .unknown else .sent

theorem Ambiguous.terminalState_eq {response : ExactJsonTransportResponse}
    (ambiguous : response.Ambiguous) : response.terminalState = .unknown :=
  if_pos ambiguous.requires

variable [ByteFingerprint]

/-- The durable bytes are the bytes of the response. -/
theorem durableBytes_exact :
    durableBytes response.terminalState response.exact = .ok response.responseBytes := by
  cases response.encodes with
  | json encoding decodes =>
      obtain ⟨text, decoded, present, -⟩ := exists_text_of_json decodes
      have shown : response.responseText = text := by
        rw [responseText, encoding, if_neg (by decide), decoded, Option.getD_some]
      simp only [durableBytes, exact, ensure, encoding, shown, present, ne_eq, not_false_eq_true,
        or_true, if_true, reduceCtorEq, if_false, encodeUtf8_of_decodeUtf8 decoded]
      rfl
  | hex encoding ambiguous =>
      have shown : response.responseText.toList = hexText response.responseBytes := by
        rw [responseText, if_pos encoding, String.toList_ofList]
      have bounded : 2 * response.responseBytes.length ≤ 2 * hardMaxProviderResponseBytes :=
        Nat.mul_le_mul_left 2 ambiguous.bounded
      simp only [durableBytes, exact, ensure, encoding, shown, ambiguous.terminalState_eq,
        length_hexText, bounded, and_self, true_or, if_true, fromHex_hexText]
      rfl
  | opaqueText encoding ambiguous decoded present =>
      rename_i text
      have shown : response.responseText = text := by
        rw [responseText, encoding, if_neg (by decide), decoded, Option.getD_some]
      simp only [durableBytes, exact, ensure, encoding, shown, present, ne_eq, not_false_eq_true,
        or_true, if_true, reduceCtorEq, if_false, encodeUtf8_of_decodeUtf8 decoded]
      rfl

/-- The disposition of a response. -/
def retryDisposition : Option String :=
  if response.requiresReconciliation then some "RECONCILE_FIRST" else none

/-- What the terminal event of a response says. -/
theorem terminalMembers_of_terminalOf {order : String}
    {terminal : SubmissionPayload × DispatchOutcome}
    (success : GuardedDispatcher.terminalOf order response.transport = .ok terminal) :
    terminalMembers terminal.1 = some (response.terminalState, order, some response.exact,
      response.ambiguityReason, response.retryDisposition) := by
  have reason := response.reason
  simp only [transport, GuardedDispatcher.terminalOf] at success
  cases required : response.requiresReconciliation with
  | true =>
      rw [required, if_pos rfl] at success
      rw [required, if_pos rfl] at reason
      obtain ⟨text, given, -⟩ := reason
      cases success
      simp only [terminalMembers, terminalState, retryDisposition, required, if_true, given,
        Option.getD_some]
  | false =>
      rw [required, if_neg Bool.false_ne_true] at success reason
      have members : terminalMembers (.sent order (.exact response.exact)) =
          some (response.terminalState, order, some response.exact, response.ambiguityReason,
            response.retryDisposition) := by
        simp only [terminalMembers, terminalState, retryDisposition, required,
          Bool.false_eq_true, if_false, reason]
      split at success
      · split at success
        · cases success
        · cases success
          exact members
      · cases success
        exact members

end ExactJsonTransportResponse

/-- What a dispatcher writes into a prepared payload. -/
structure Sendable [ByteFingerprint] (prepared : PreparedPayload) : Prop where
  provider : strip prepared.provider ≠ ""
  account : strip prepared.accountId ≠ ""
  order : strip prepared.clientOrderId ≠ ""
  request : ∃ text, prepared.requestHash = "sha256:" ++ sha256 text
  scope : prepared.submissionScopeHash = "sha256:" ++ sha256 prepared.submissionScope

section

variable [ByteFingerprint]

/-- The binding of a response to an attempt. -/
def ExactJsonTransportResponse.binding (response : ExactJsonTransportResponse)
    (aggregate : Aggregate) (attemptId : String) (prepared : PreparedPayload) (sentAt : Instant) :
    SubmissionResponseBinding where
  attemptId := attemptId
  aggregateId := aggregate.aggregateId
  provider := prepared.provider
  requestHash := prepared.requestHash
  clientOrderId := prepared.clientOrderId
  environment := prepared.environment
  accountId := prepared.accountId
  preparedAt := prepared.preparedAt
  sentAt := sentAt
  submissionScope := prepared.submissionScope
  submissionScopeHash := prepared.submissionScopeHash
  responseBytes := response.responseBytes
  responseSha256 := response.responseSha256
  responseEncoding := response.responseEncoding
  terminalState := response.terminalState
  ambiguityReason := response.ambiguityReason
  retryDisposition := response.retryDisposition
  httpStatus := response.httpStatus

variable (response : ExactJsonTransportResponse) {aggregate : Aggregate} {attemptId : String}
  {prepared : PreparedPayload} {sentAt : Instant}

theorem checkBytes_binding :
    (response.binding aggregate attemptId prepared sentAt).checkBytes = .ok () := by
  have opaqueBytes (other : response.responseEncoding ≠ .utf8Json)
      (ambiguous : response.Ambiguous) :
      (response.binding aggregate attemptId prepared sentAt).checkBytes = .ok () := by
    simp only [SubmissionResponseBinding.checkBytes, ExactJsonTransportResponse.binding,
      if_neg other, ensure, ambiguous.terminalState_eq, ambiguous.failure, ambiguous.bounded,
      if_true]
    rfl
  cases response.encodes with
  | json encoding decodes =>
      simp only [SubmissionResponseBinding.checkBytes, ExactJsonTransportResponse.binding,
        encoding, ensure, decodes, if_true]
  | hex encoding ambiguous => exact opaqueBytes (by rw [encoding]; decide) ambiguous
  | opaqueText encoding ambiguous decoded present =>
      exact opaqueBytes (by rw [encoding]; decide) ambiguous

theorem checkDisposition_binding :
    (response.binding aggregate attemptId prepared sentAt).checkDisposition = .ok () := by
  have reason := response.reason
  have state : (response.binding aggregate attemptId prepared sentAt).terminalState =
      response.terminalState := rfl
  cases ambiguous : response.requiresReconciliation with
  | true =>
      rw [ambiguous, if_pos rfl] at reason
      obtain ⟨text, given, normal⟩ := reason
      rw [SubmissionResponseBinding.checkDisposition, state,
        ExactJsonTransportResponse.terminalState, ambiguous, if_pos rfl]
      refine ensure_of ⟨⟨text, given, ?_⟩, ?_⟩ _
      · rw [normal.1]
        exact normal.2
      · change response.retryDisposition = _
        rw [ExactJsonTransportResponse.retryDisposition, ambiguous, if_pos rfl]
  | false =>
      rw [ambiguous, if_neg Bool.false_ne_true] at reason
      rw [SubmissionResponseBinding.checkDisposition, state,
        ExactJsonTransportResponse.terminalState, ambiguous, if_neg Bool.false_ne_true]
      refine ensure_of ⟨reason, ?_⟩ _
      change response.retryDisposition = _
      rw [ExactJsonTransportResponse.retryDisposition, ambiguous, if_neg Bool.false_ne_true]

/-- The rows of a response are bound to it. -/
theorem bindRows_exact (sendable : Sendable prepared) (attempt : strip attemptId ≠ "")
    (normal : Normal aggregate.aggregateId) :
    bindRows aggregate attemptId prepared prepared.clientOrderId sentAt response.terminalState
        prepared.clientOrderId (some response.exact) response.ambiguityReason
        response.retryDisposition =
      .ok (response.binding aggregate attemptId prepared sentAt) := by
  obtain ⟨request, requestHash⟩ := sendable.request
  have order : prepared.clientOrderId ≠ "" := by
    intro empty
    apply sendable.order
    rw [empty]
    rfl
  have aggregated : strip aggregate.aggregateId ≠ "" := by
    rw [normal.1]
    exact normal.2
  have requested : isSha256 prepared.requestHash = true := by
    rw [requestHash]
    exact isSha256_sha256 _
  have scope : isSha256 prepared.submissionScopeHash = true := by
    rw [sendable.scope]
    exact isSha256_sha256 _
  rw [bindRows, ensure_of ⟨order, rfl, rfl⟩, ok_bind, response.durableBytes_exact, ok_bind,
    ensure_of, ok_bind, ensure_of, ok_bind]
  · exact SubmissionResponseBinding.check_of attempt aggregated sendable.provider sendable.order
      sendable.account requested scope (isSha256_sha256Bytes _) (checkBytes_binding response) rfl
      (checkDisposition_binding response) response.status sendable.scope.symm
  · exact response.status
  · rfl

end

end ReadBack

end AutoTrade.Dispatch
