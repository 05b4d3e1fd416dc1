import AgentIam.Auth.Datalog

/-!
# Capability tokens (`auth/biscuit.rs`)

`BiscuitManager` mints, validates and attenuates the Biscuit tokens of agents. The model is
parameterized only by the library calls it makes (`Libraries`): the datalog parser of
`biscuit_auth`, its signed codec, `Uuid::parse_str`, `serde_json::from_str` and
`DateTime::from_timestamp`.

* `generateBiscuit` is `generate_token` up to `to_base64`: the authority block holds the facts
  `agent(..)`, one `task_scope(..)` per scope entry, `issued_at(..)` and `key_id(..)`, and the
  checks on `time` and on `resource`;
* `validateBiscuit` is `validate_token` after `from_base64`: the authorizer adds `time(now)`,
  every check must hold, and a failed check is reported as `TokenExpired`, whichever it is;
* `extractClaims` reads the authority facts through the authorizer's queries, and sets
  `expires_at` to `issued_at + 24h` (`extractClaims_expiresAt`);
* `attenuateToken` appends a block of checks.

The tenant check reads a field, `$res.tenant_id`, which is no expression of the datalog of
`biscuit_auth`: its parser rejects the check, and `generate_token` then fails at every instant
(`generateToken_of_tenant_rejected`). The demonstration parsers below reject it too, and the
tokens that validate are minted outside `generate_token` (`demoRoot`). Every failed check is
reported as an expiry (`validateBiscuit_of_authorize_eq_false`). Appending checks never widens a
token: the appended token validates, with the same claims, exactly when the token does and each
new check text parses to a check that holds (`attenuation_never_widens`).

A `HashMap` of scope entries is an association list in iteration order. Instants are whole
seconds, and one call reads the clock once.
-/

namespace AgentIam.Capability

open Datalog

/-! ### The libraries and the records -/

/-- The calls of `auth/biscuit.rs` into its libraries. -/
structure Libraries where
  /-- `add_fact` of the block builder and of the authorizer: the fact a text parses to. -/
  parseFact : String → Except String Fact
  /-- `add_check` of a block builder: the check a text parses to. -/
  parseCheck : String → Except String Check
  /-- `Biscuit::from_base64` with the root public key: the token, its signatures verified. -/
  fromBase64 : String → Except String Datalog.Biscuit
  /-- `to_base64` of a token, signed. -/
  toBase64 : Datalog.Biscuit → String
  /-- `Uuid::parse_str`. -/
  parseUuid : String → Except String Uuid
  /-- `serde_json::from_str`. -/
  parseJson : String → Option JsonValue
  /-- `DateTime::from_timestamp(ts, 0)`: the instant, when it is in range. -/
  fromTimestamp : ℤ → Option ℤ

/-- `BiscuitManager`; its root key pair is the codec's. -/
structure BiscuitManager where
  rootKeyId : String

/-- `BiscuitClaims`. -/
structure BiscuitClaims where
  agentId : Uuid
  tenantId : Uuid
  parentId : Uuid
  taskId : String
  taskScope : List (String × JsonValue)
  expiresAt : ℤ
  issuedAt : ℤ
  keyId : String

/-- `CreateAgentTokenRequest`. -/
structure CreateAgentTokenRequest where
  agentId : Uuid
  tenantId : Uuid
  parentId : Uuid
  taskId : String
  taskScope : List (String × JsonValue)
  expiresAt : ℤ

/-! ### The datalog texts -/

/-- The agent fact. -/
def agentFactText (request : CreateAgentTokenRequest) : String :=
  "agent(\"" ++ request.agentId.hyphenated ++ "\", \"" ++ request.tenantId.hyphenated ++
    "\", \"" ++ request.parentId.hyphenated ++ "\", \"" ++ request.taskId ++ "\")"

/-- The expiration check. -/
def expiryCheckText (expiresTimestamp : ℤ) : String :=
  "check if time($time), $time < " ++ toString expiresTimestamp

/-- The tenant isolation check. -/
def tenantCheckText (tenantId : Uuid) : String :=
  "check if resource($res), $res.tenant_id == \"" ++ tenantId.hyphenated ++ "\""

/-- A task scope fact, its value as `serde_json::to_string` writes it. -/
def scopeFactText (key : String) (value : JsonValue) : String :=
  "task_scope(\"" ++ key ++ "\", " ++ value.serialize ++ ")"

/-- The `issued_at` fact. -/
def issuedAtText (now : ℤ) : String := "issued_at(" ++ toString now ++ ")"

/-- The `key_id` fact. -/
def keyIdText (rootKeyId : String) : String := "key_id(\"" ++ rootKeyId ++ "\")"

/-- The authorizer's time fact. -/
def timeText (now : ℤ) : String := "time(" ++ toString now ++ ")"

section Manager

variable (lib : Libraries)

/-! ### Minting -/

/-- `builder.add_fact(text)`, a failure reported after `context`. -/
def addFact (text context : String) : Except AppError Fact :=
  match lib.parseFact text with
  | .ok f => .ok f
  | .error e => .error (.tokenGeneration (context ++ e))

/-- `builder.add_check(text)`, a failure reported after `context`. -/
def addCheck (text context : String) : Except AppError Check :=
  match lib.parseCheck text with
  | .ok c => .ok c
  | .error e => .error (.tokenGeneration (context ++ e))

/-- The loop over `task_scope`. -/
def scopeFacts : List (String × JsonValue) → Except AppError (List Fact)
  | [] => .ok []
  | (key, value) :: rest => do
    let f ← addFact lib (scopeFactText key value) "Failed to add task scope: "
    let fs ← scopeFacts rest
    pure (f :: fs)

/-- `generate_token` at the instant `now`, up to `to_base64`: the signed token. -/
def generateBiscuit (m : BiscuitManager) (request : CreateAgentTokenRequest) (now : ℤ) :
    Except AppError Datalog.Biscuit := do
  if request.expiresAt ≤ now then
    throw (.validationError "Expiration time must be in the future")
  let agent ← addFact lib (agentFactText request) "Failed to add agent fact: "
  let expiry ← addCheck lib (expiryCheckText request.expiresAt)
    "Failed to add expiration check: "
  let tenant ← addCheck lib (tenantCheckText request.tenantId) "Failed to add tenant check: "
  let scope ← scopeFacts lib request.taskScope
  let issuedAt ← addFact lib (issuedAtText now) "Failed to add issued_at: "
  let keyId ← addFact lib (keyIdText m.rootKeyId) "Failed to add key_id: "
  pure ⟨⟨agent :: scope ++ [issuedAt, keyId], [expiry, tenant]⟩, []⟩

/-- `generate_token`. -/
def generateToken (m : BiscuitManager) (request : CreateAgentTokenRequest) (now : ℤ) :
    Except AppError String :=
  (generateBiscuit lib m request now).map lib.toBase64

/-! ### Reading the claims -/

/-- The facts `authorizer.query` returns for a rule over `name` with `arity` variables, as
their terms, in the order of the authority block. -/
def queryFacts (facts : List Fact) (name : String) (arity : ℕ) : List (List Term) :=
  (facts.filter fun f => f.name = name ∧ f.terms.length = arity).map (·.terms)

/-- `extract_uuid_from_term`. -/
def extractUuidFromTerm (term : Term) (fieldName : String) : Except AppError Uuid :=
  match term with
  | .str s =>
    match lib.parseUuid s with
    | .ok u => .ok u
    | .error e => .error (.tokenValidation ("Invalid UUID in " ++ fieldName ++ ": " ++ e))
  | t => .error (.tokenValidation ("Expected string for " ++ fieldName ++ ", got " ++ t.debug))

/-- `extract_string_from_term`. -/
def extractStringFromTerm (term : Term) (fieldName : String) : Except AppError String :=
  match term with
  | .str s => .ok s
  | t => .error (.tokenValidation ("Expected string for " ++ fieldName ++ ", got " ++ t.debug))

/-- `extract_i64_from_term`. -/
def extractI64FromTerm (term : Term) (fieldName : String) : Except AppError ℤ :=
  match term with
  | .int i => .ok i
  | t => .error (.tokenValidation ("Expected integer for " ++ fieldName ++ ", got " ++
      t.debug))

/-- The agent fact's four fields, from the first agent fact. -/
def extractAgent (facts : List Fact) : Except AppError (Uuid × Uuid × Uuid × String) :=
  match queryFacts facts "agent" 4 with
  | [agentId, tenantId, parentId, taskId] :: _ => do
    let agentId ← extractUuidFromTerm lib agentId "agent_id"
    let tenantId ← extractUuidFromTerm lib tenantId "tenant_id"
    let parentId ← extractUuidFromTerm lib parentId "parent_id"
    let taskId ← extractStringFromTerm taskId "task_id"
    pure (agentId, tenantId, parentId, taskId)
  | _ => throw (.tokenValidation "No agent facts found in token")

/-- `issued_at` from the first `issued_at` fact, or the clock when there is none. -/
def extractIssuedAt (facts : List Fact) (now : ℤ) : Except AppError ℤ :=
  match queryFacts facts "issued_at" 1 with
  | [t] :: _ => do
    let timestamp ← extractI64FromTerm t "issued_at"
    match lib.fromTimestamp timestamp with
    | some i => pure i
    | none => throw (.tokenValidation "Invalid issued_at timestamp")
  | _ => pure now

/-- `key_id` from the first `key_id` fact, or the manager's. -/
def extractKeyId (m : BiscuitManager) (facts : List Fact) : Except AppError String :=
  match queryFacts facts "key_id" 1 with
  | [t] :: _ => extractStringFromTerm t "key_id"
  | _ => pure m.rootKeyId

/-- `HashMap::insert`: the entry replaces the key's older one. -/
def insertScope (scope : List (String × JsonValue)) (key : String) (value : JsonValue) :
    List (String × JsonValue) :=
  (key, value) :: scope.filter (·.1 ≠ key)

/-- The loop over the `task_scope` facts: a value is read as JSON, or kept as a string. -/
def extractScope : List (String × JsonValue) → List (List Term) →
    Except AppError (List (String × JsonValue))
  | scope, [] => .ok scope
  | scope, [key, value] :: rest => do
    let key ← extractStringFromTerm key "scope_key"
    let valueStr ← extractStringFromTerm value "scope_value"
    extractScope (insertScope scope key ((lib.parseJson valueStr).getD (.string valueStr))) rest
  | scope, _ :: rest => extractScope scope rest

/-- `extract_claims` at the instant `now`; only the authority block is read. -/
def extractClaims (m : BiscuitManager) (b : Datalog.Biscuit) (now : ℤ) :
    Except AppError BiscuitClaims := do
  let (agentId, tenantId, parentId, taskId) ← extractAgent lib b.authority.facts
  let issuedAt ← extractIssuedAt lib b.authority.facts now
  let keyId ← extractKeyId m b.authority.facts
  let taskScope ← extractScope lib [] (queryFacts b.authority.facts "task_scope" 2)
  pure ⟨agentId, tenantId, parentId, taskId, taskScope, issuedAt + 86400, issuedAt, keyId⟩

/-! ### Validation and attenuation -/

/-- `validate_token` after `from_base64`, at the instant `now`. Every failed check is
`FailedLogic`, which is reported as `TokenExpired`. -/
def validateBiscuit (m : BiscuitManager) (b : Datalog.Biscuit) (now : ℤ) :
    Except AppError BiscuitClaims :=
  match lib.parseFact (timeText now) with
  | .error e => .error (.tokenValidation ("Failed to add time fact: " ++ e))
  | .ok timeFact =>
    if b.authorize [timeFact] then
      match extractClaims lib m b now with
      | .ok claims => if claims.expiresAt ≤ now then .error .tokenExpired else .ok claims
      | .error e => .error e
    else .error .tokenExpired

/-- `validate_token`. -/
def validateToken (m : BiscuitManager) (token : String) (now : ℤ) :
    Except AppError BiscuitClaims :=
  match lib.fromBase64 token with
  | .ok b => validateBiscuit lib m b now
  | .error e => .error (.tokenValidation ("Invalid token format: " ++ e))

/-- The loop over `additional_checks`. -/
def addChecks : List String → Except AppError (List Check)
  | [] => .ok []
  | check :: rest => do
    let c ← addCheck lib check "Failed to add check: "
    let cs ← addChecks rest
    pure (c :: cs)

/-- `attenuate_token`: the token with a block of the additional checks appended. -/
def attenuateToken (token : String) (additionalChecks : List String) : Except AppError String :=
  match lib.fromBase64 token with
  | .error e => .error (.tokenValidation ("Invalid token format: " ++ e))
  | .ok b =>
    (addChecks lib additionalChecks).map fun checks => lib.toBase64 (b.append ⟨[], checks⟩)

/-- The claims read from a token are those of its authority block. -/
theorem extractClaims_append (m : BiscuitManager) (b : Datalog.Biscuit) (blk : Block) (now : ℤ) :
    extractClaims lib m (b.append blk) now = extractClaims lib m b now := rfl

end Manager

/-! ### A library to run the model on

A small parser for the datalog texts the service writes, which like the parser of `biscuit_auth`
knows no field access, and a codec that knows a token signed by the root key and its
attenuations. -/

/-- A decimal number. -/
def demoNat (cs : List Char) : Option ℕ :=
  if cs ≠ [] ∧ cs.all Char.isDigit then some (cs.foldl (fun n c => 10 * n + (c.toNat - 48)) 0)
  else none

/-- An integer: a decimal number after an optional minus sign. -/
def demoInt : List Char → Option ℤ
  | '-' :: cs => (demoNat cs).map fun n => -n
  | cs => (demoNat cs).map Int.ofNat

/-- An argument: `$name`, a quoted string, an integer, or another value. -/
def demoArg : List Char → Arg
  | '$' :: v => .var (String.mk v)
  | '"' :: s => .term (.str (String.mk s.dropLast))
  | cs =>
    match demoInt cs with
    | some n => .term (.int n)
    | none => .term (.other (String.mk cs))

/-- The arguments of an atom, split at each `", "`. -/
def demoSplit : List Char → List Char → List (List Char)
  | acc, [] => [acc.reverse]
  | acc, ',' :: ' ' :: rest => acc.reverse :: demoSplit [] rest
  | acc, c :: rest => demoSplit (c :: acc) rest

/-- An atom `name(arg, ..)`, and the text after its closing parenthesis. -/
def demoAtom (cs : List Char) : Option (Atom × List Char) :=
  match cs.dropWhile (· ≠ '(') with
  | '(' :: rest =>
    some (⟨String.mk (cs.takeWhile (· ≠ '(')),
      (demoSplit [] (rest.takeWhile (· ≠ ')'))).map demoArg⟩, (rest.dropWhile (· ≠ ')')).drop 1)
  | _ => none

/-- The term an argument of a fact stands for. -/
def demoTerm : Arg → Option Term
  | .term t => some t
  | .var _ => none

/-- A fact `name(term, ..)`. -/
def demoParseFact (text : String) : Except String Fact :=
  match demoAtom text.data with
  | some (a, []) =>
    match a.args.mapM demoTerm with
    | some terms => .ok ⟨a.name, terms⟩
    | none => .error "a fact has no variables"
  | _ => .error "expected name(term, ..)"

/-- A variable name: letters, digits and underscores. -/
def demoIsName (cs : List Char) : Bool := !cs.isEmpty && cs.all fun c => c.isAlphanum || c = '_'

/-- An expression: `$v < n` compares an integer binding with `n`, and `$v == "s"` a string
binding with `s`. Nothing else parses: in particular a variable is a name, so a field access
such as `$res.tenant_id` is refused, as the grammar of `biscuit_auth` refuses it. -/
def demoExpr : List Char → Option (List (String × Term) → Bool)
  | '$' :: rest =>
    let v := rest.takeWhile (· ≠ ' ')
    if demoIsName v then
      match rest.dropWhile (· ≠ ' ') with
      | ' ' :: '<' :: ' ' :: bound =>
        (demoInt bound).map fun n σ =>
          match σ.lookup (String.mk v) with
          | some (.int t) => decide (t < n)
          | _ => false
      | ' ' :: '=' :: '=' :: ' ' :: '"' :: s =>
        if s.getLast? = some '"' then
          some fun σ => decide (σ.lookup (String.mk v) = some (.str (String.mk s.dropLast)))
        else none
      | _ => none
    else none
  | _ => none

/-- A check `check if atom` or `check if atom, expression`. -/
def demoParseCheck (text : String) : Except String Check :=
  if text.data.take 9 = "check if ".data then
    match demoAtom (text.data.drop 9) with
    | some (a, []) => .ok ⟨.checkIf, [⟨[a], []⟩]⟩
    | some (a, ',' :: ' ' :: e) =>
      match demoExpr e with
      | some expr => .ok ⟨.checkIf, [⟨[a], [expr]⟩]⟩
      | none => .error "datalog parsing error: unexpected expression"
    | _ => .error "expected check if atom, expression"
  else .error "expected check if"

/-- `Uuid::parse_str` on the hyphenated form: 36 characters, whose 32 hex digits are read
back. -/
def demoParseUuid (s : String) : Except String Uuid :=
  let digits := s.data.filter (· ≠ '-')
  if s.length = 36 ∧ digits.length = 32 ∧ digits.all fun c => c.isDigit || ('a' ≤ c && c ≤ 'f')
  then .ok ⟨BitVec.ofNat 128 (hexNumber digits)⟩
  else .error "invalid character"

/-- The parsers, and a codec that knows no token yet. -/
def demoParsers : Libraries where
  parseFact := demoParseFact
  parseCheck := demoParseCheck
  fromBase64 _ := .error "unknown token"
  toBase64 _ := ""
  parseUuid := demoParseUuid
  parseJson _ := none
  fromTimestamp := some

/-- The manager of the service's tests. -/
def demoManager : BiscuitManager := ⟨"test-key-id"⟩

/-- A request for an hour-long token, minted at `3600`. -/
def demoRequest : CreateAgentTokenRequest := ⟨⟨1⟩, ⟨2⟩, ⟨3⟩, "task-123", [], 7200⟩

/-- The checks the parsers read from texts. -/
def demoChecksOf (texts : List String) : List Check :=
  match addChecks demoParsers texts with
  | .ok checks => checks
  | .error _ => []

/-- A token signed by the root key outside `generate_token`: the facts `generate_token` writes
for `demoRequest` at `3600`, and its expiration check alone. -/
def demoRoot : Datalog.Biscuit :=
  match addFact demoParsers (agentFactText demoRequest) "",
      addCheck demoParsers (expiryCheckText demoRequest.expiresAt) "",
      addFact demoParsers (issuedAtText 3600) "",
      addFact demoParsers (keyIdText "test-key-id") "" with
  | .ok agent, .ok expiry, .ok issuedAt, .ok keyId =>
    ⟨⟨[agent, issuedAt, keyId], [expiry]⟩, []⟩
  | _, _, _, _ => ⟨⟨[], []⟩, []⟩

/-- The claims `extract_claims` reads from `demoRoot`. -/
def demoRootClaims : BiscuitClaims :=
  ⟨⟨1⟩, ⟨2⟩, ⟨3⟩, "task-123", [], 3600 + 86400, 3600, "test-key-id"⟩

/-- The parsers, with a codec that writes `demo` and a `+` per appended block, and that reads
`demo` as `demoRoot` and `demo+` as `demoRoot` with a block of `checks` appended. -/
def demoCodec (checks : List Check) : Libraries :=
  { demoParsers with
    fromBase64 := fun token =>
      if token = "demo" then .ok demoRoot
      else if token = "demo+" then .ok (demoRoot.append ⟨[], checks⟩)
      else .error "unknown token"
    toBase64 := fun b => "demo" ++ String.mk (b.blocks.map fun _ => '+') }

/-- An attenuation that brings the expiry forward. -/
def demoAttenuation : List String := ["check if time($time), $time < 4000"]

/-- An attenuation to reading, on an `operation` fact that the service's authorizer never
adds. -/
def demoOperationCheck : List String := ["check if operation($op), $op == \"read\""]

/-- The codec of `demoRoot` and its attenuation by `demoAttenuation`. -/
def demoAttenuationLib : Libraries := demoCodec (demoChecksOf demoAttenuation)

/-- The codec of `demoRoot` and its attenuation by `demoOperationCheck`. -/
def demoOperationLib : Libraries := demoCodec (demoChecksOf demoOperationCheck)

/-! ### How a validation fails -/

section Validate

variable {lib : Libraries} {m : BiscuitManager}

theorem validateToken_of_fromBase64 {token : String} {b : Datalog.Biscuit}
    (h : lib.fromBase64 token = .ok b) (now : ℤ) :
    validateToken lib m token now = validateBiscuit lib m b now := by
  rw [validateToken, h]

/-- **Every failed check is reported as an expiry**: whichever check of whichever block fails
at `now`, `validate_token` answers `TokenExpired`. -/
theorem validateBiscuit_of_authorize_eq_false {b : Datalog.Biscuit} {now : ℤ} {timeFact : Fact}
    (htime : lib.parseFact (timeText now) = .ok timeFact) (h : b.authorize [timeFact] = false) :
    validateBiscuit lib m b now = .error .tokenExpired := by
  simp [validateBiscuit, htime, h]

/-- `demoRoot` attenuated with a check on an `operation` fact, which neither the token nor the
authorizer has. At `5000` the root token validates and its expiration check holds, the added
check fails, and the answer is `TokenExpired`. -/
theorem operation_check_reported_expired :
    attenuateToken demoOperationLib "demo" demoOperationCheck = .ok "demo+" ∧
    validateToken demoOperationLib demoManager "demo" 5000 = .ok demoRootClaims ∧
    demoRoot.authority.checks.map
      (·.holds (demoRoot.authority.facts ++ [⟨"time", [.int 5000]⟩])) = [true] ∧
    (demoChecksOf demoOperationCheck).map
      (·.holds (demoRoot.authority.facts ++ [⟨"time", [.int 5000]⟩])) = [false] ∧
    validateToken demoOperationLib demoManager "demo+" 5000 = .error .tokenExpired :=
  ⟨rfl, rfl, rfl, rfl, rfl⟩

/-- **The expiry of the claims is a day after their issue**, whatever the token's expiration
check says. -/
theorem extractClaims_expiresAt {b : Datalog.Biscuit} {now : ℤ} {c : BiscuitClaims}
    (h : extractClaims lib m b now = .ok c) : c.expiresAt = c.issuedAt + 86400 := by
  simp only [extractClaims, except_bind_eq_ok] at h
  obtain ⟨⟨agentId, tenantId, parentId, taskId⟩, -, issuedAt, -, keyId, -, taskScope, -, hc⟩ := h
  cases hc
  rfl

end Validate

/-! ### What a minted token holds -/

section Mint

variable {lib : Libraries} {m : BiscuitManager} {request : CreateAgentTokenRequest}

theorem addFact_eq_ok {text context : String} {f : Fact} :
    addFact lib text context = .ok f ↔ lib.parseFact text = .ok f := by
  unfold addFact
  split <;> simp_all

theorem addCheck_eq_ok {text context : String} {c : Check} :
    addCheck lib text context = .ok c ↔ lib.parseCheck text = .ok c := by
  unfold addCheck
  split <;> simp_all

/-- A minted token: its expiry lies ahead, and its authority block holds what the builder
added, in order. -/
theorem generateBiscuit_eq_ok {now : ℤ} {b : Datalog.Biscuit}
    (h : generateBiscuit lib m request now = .ok b) :
    now < request.expiresAt ∧ ∃ agent expiry tenant scope issuedAt keyId,
      lib.parseFact (agentFactText request) = .ok agent ∧
      lib.parseCheck (expiryCheckText request.expiresAt) = .ok expiry ∧
      lib.parseCheck (tenantCheckText request.tenantId) = .ok tenant ∧
      scopeFacts lib request.taskScope = .ok scope ∧
      lib.parseFact (issuedAtText now) = .ok issuedAt ∧
      lib.parseFact (keyIdText m.rootKeyId) = .ok keyId ∧
      b = ⟨⟨agent :: scope ++ [issuedAt, keyId], [expiry, tenant]⟩, []⟩ := by
  unfold generateBiscuit at h
  split_ifs at h with hle
  · exact nomatch h
  simp only [pure_bind, except_bind_eq_ok, addFact_eq_ok, addCheck_eq_ok] at h
  obtain ⟨agent, ha, expiry, he, tenant, ht, scope, hs, issuedAt, hi, keyId, hk, hb⟩ := h
  exact ⟨by omega, agent, expiry, tenant, scope, issuedAt, keyId, ha, he, ht, hs, hi, hk,
    (Except.ok.inj hb).symm⟩

/-- **Minting stops at the tenant check** when the parser rejects it: with the expiry ahead,
and the agent fact and the expiration check parsed, `generate_token` reports the rejection. -/
theorem generateBiscuit_of_tenant_rejected {now : ℤ} {agent : Fact} {expiry : Check} {e : String}
    (hnow : now < request.expiresAt) (ha : lib.parseFact (agentFactText request) = .ok agent)
    (he : lib.parseCheck (expiryCheckText request.expiresAt) = .ok expiry)
    (ht : lib.parseCheck (tenantCheckText request.tenantId) = .error e) :
    generateBiscuit lib m request now =
      .error (.tokenGeneration ("Failed to add tenant check: " ++ e)) := by
  simp only [generateBiscuit, if_neg (not_le.2 hnow), addFact, addCheck, ha, he, ht]
  rfl

example : generateToken demoParsers demoManager demoRequest 3600 = .error (.tokenGeneration
    "Failed to add tenant check: datalog parsing error: unexpected expression") := rfl

/-- `generate_token` fails whenever the parser rejects the tenant check. -/
theorem generateToken_of_tenant_rejected {now : ℤ} {e : String}
    (ht : lib.parseCheck (tenantCheckText request.tenantId) = .error e) :
    ∃ err, generateToken lib m request now = .error err := by
  cases hg : generateBiscuit lib m request now with
  | error err => exact ⟨err, by simp [generateToken, hg, Except.map]⟩
  | ok b =>
    obtain ⟨-, _, _, _, _, _, _, -, -, htc, -⟩ := generateBiscuit_eq_ok hg
    exact nomatch ht.symm.trans htc

end Mint

/-! ### Attenuation -/

section Attenuate

variable {lib : Libraries} {m : BiscuitManager}

/-- The codec decodes the token that `attenuate_token` writes for `token` to the token with the
new block appended. -/
def AppendVerifies (lib : Libraries) (token : String) (additionalChecks : List String) : Prop :=
  ∀ b checks, lib.fromBase64 token = .ok b → addChecks lib additionalChecks = .ok checks →
    lib.fromBase64 (lib.toBase64 (b.append ⟨[], checks⟩)) = .ok (b.append ⟨[], checks⟩)

theorem attenuateToken_eq_ok {token attenuated : String} {additionalChecks : List String}
    (h : attenuateToken lib token additionalChecks = .ok attenuated) :
    ∃ b checks, lib.fromBase64 token = .ok b ∧ addChecks lib additionalChecks = .ok checks ∧
      attenuated = lib.toBase64 (b.append ⟨[], checks⟩) := by
  unfold attenuateToken at h
  split at h
  · exact nomatch h
  · rename_i b hb
    cases hc : addChecks lib additionalChecks with
    | error e => simp [hc, Except.map] at h
    | ok checks => exact ⟨b, checks, hb, rfl, by simpa [hc, Except.map] using h.symm⟩

/-- `addChecks` succeeds exactly when every text parses, to the checks it returns, in order. -/
theorem addChecks_eq_ok {cs : List String} {checks : List Check} :
    addChecks lib cs = .ok checks ↔
      List.Forall₂ (fun s c => lib.parseCheck s = .ok c) cs checks := by
  induction cs generalizing checks with
  | nil => cases checks <;> simp [addChecks]
  | cons s cs ih =>
    cases checks <;>
      simp [addChecks, except_bind_eq_ok, addCheck_eq_ok, ih, -bind_pure_comp, pure, Except.pure]

/-- The checks `addChecks` returns all hold exactly when each text parses to a check that
holds. -/
theorem all_holds_of_addChecks {cs : List String} {checks : List Check}
    (h : addChecks lib cs = .ok checks) (facts : List Fact) :
    (∀ chk ∈ checks, chk.holds facts = true) ↔
      ∀ s ∈ cs, ∃ c, lib.parseCheck s = .ok c ∧ c.holds facts = true := by
  have hf := addChecks_eq_ok.1 h
  clear h
  induction hf with
  | nil => simp
  | cons hc _ ih => simp [ih, hc]

/-- A token with a block of checks appended validates, with the same claims, exactly when the
token does and every new check holds over the authority facts and the time. -/
theorem validateBiscuit_append (b : Datalog.Biscuit) (checks : List Check) (now : ℤ)
    (c : BiscuitClaims) :
    validateBiscuit lib m (b.append ⟨[], checks⟩) now = .ok c ↔
      validateBiscuit lib m b now = .ok c ∧ ∃ timeFact,
        lib.parseFact (timeText now) = .ok timeFact ∧
        ∀ chk ∈ checks, chk.holds (b.authority.facts ++ [timeFact]) = true := by
  simp only [validateBiscuit, extractClaims_append, authorize_append, List.append_nil]
  cases lib.parseFact (timeText now) with
  | error e => simp
  | ok timeFact =>
    simp only [Bool.and_eq_true, List.all_eq_true, Except.ok.injEq, exists_eq_left', ite_and]
    split_ifs with hauth hall
    · exact (and_iff_left hall).symm
    · exact iff_of_false nofun fun h => hall h.2
    · exact iff_of_false nofun fun h => nomatch h.1

/-- **A check on a fact the authorizer never has is reported as an expiry**: a token with a
block appended that holds a `check if` each of whose queries names a predicate that neither the
authority facts nor the time fact have is answered `TokenExpired` at every instant whose time
fact parses, however far its expiry lies. -/
theorem validateBiscuit_append_absent {b : Datalog.Biscuit} {checks : List Check} {chk : Check}
    (hmem : chk ∈ checks) (hkind : chk.kind = .checkIf) {now : ℤ} {timeFact : Fact}
    (htime : lib.parseFact (timeText now) = .ok timeFact)
    (habs : ∀ q ∈ chk.queries, ∃ a ∈ q.body,
      ∀ f ∈ b.authority.facts ++ [timeFact], f.name ≠ a.name) :
    validateBiscuit lib m (b.append ⟨[], checks⟩) now = .error .tokenExpired := by
  refine validateBiscuit_of_authorize_eq_false htime ?_
  have hfail : chk.holds (b.authority.facts ++ [timeFact]) = false :=
    Check.holds_eq_false hkind habs
  rw [authorize_append, List.append_nil, List.all_eq_false.2 ⟨chk, hmem, by simp [hfail]⟩,
    Bool.and_false]

/-- **Attenuation never widens a token.** When the codec decodes the token `attenuate_token`
writes, the attenuated token validates at `now` with the claims `c` exactly when the original
token does, with the same claims, and each added check text parses to a check that holds at
`now` over the token's authority facts. -/
theorem attenuation_never_widens {token attenuated : String} {additionalChecks : List String}
    (h : attenuateToken lib token additionalChecks = .ok attenuated)
    (hv : AppendVerifies lib token additionalChecks) (now : ℤ) (c : BiscuitClaims) :
    validateToken lib m attenuated now = .ok c ↔
      validateToken lib m token now = .ok c ∧
        ∃ b timeFact, lib.fromBase64 token = .ok b ∧
          lib.parseFact (timeText now) = .ok timeFact ∧
          ∀ chk ∈ additionalChecks, ∃ check, lib.parseCheck chk = .ok check ∧
            check.holds (b.authority.facts ++ [timeFact]) = true := by
  obtain ⟨b, checks, hb, hc, rfl⟩ := attenuateToken_eq_ok h
  rw [validateToken_of_fromBase64 (hv b checks hb hc), validateToken_of_fromBase64 hb,
    validateBiscuit_append]
  constructor
  · rintro ⟨hval, timeFact, htime, hall⟩
    exact ⟨hval, b, timeFact, hb, htime, (all_holds_of_addChecks hc _).1 hall⟩
  · rintro ⟨hval, b', timeFact, hb', htime, hall⟩
    obtain rfl := Except.ok.inj (hb.symm.trans hb')
    exact ⟨hval, timeFact, htime, (all_holds_of_addChecks hc _).2 hall⟩

/-- `attenuation_never_widens` on `demoRoot` given an earlier expiry: at `3700` the attenuated
token validates with the root's claims, as the root does. -/
theorem attenuation_never_widens_root :
    attenuateToken demoAttenuationLib "demo" demoAttenuation = .ok "demo+" ∧
    AppendVerifies demoAttenuationLib "demo" demoAttenuation ∧
    validateToken demoAttenuationLib demoManager "demo+" 3700 = .ok demoRootClaims ∧
    (validateToken demoAttenuationLib demoManager "demo+" 3700 = .ok demoRootClaims ↔
      validateToken demoAttenuationLib demoManager "demo" 3700 = .ok demoRootClaims ∧
        ∃ b timeFact, demoAttenuationLib.fromBase64 "demo" = .ok b ∧
          demoAttenuationLib.parseFact (timeText 3700) = .ok timeFact ∧
          ∀ chk ∈ demoAttenuation, ∃ check, demoAttenuationLib.parseCheck chk = .ok check ∧
            check.holds (b.authority.facts ++ [timeFact]) = true) := by
  have hv : AppendVerifies demoAttenuationLib "demo" demoAttenuation := by
    intro b checks hb hc
    obtain rfl : demoRoot = b := Except.ok.inj hb
    obtain rfl : demoChecksOf demoAttenuation = checks := Except.ok.inj hc
    rfl
  exact ⟨rfl, hv, rfl, attenuation_never_widens (by rfl) hv 3700 demoRootClaims⟩

end Attenuate

end AgentIam.Capability
