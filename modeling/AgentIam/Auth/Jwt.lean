import AgentIam.Basic

/-!
# JSON Web Tokens

`auth/jwt.rs` and the part of the `jsonwebtoken` library it relies on.

* Signing is HMAC-SHA256 under the manager's secret, taken to be unforgeable: the model keeps
  the list of texts signed so far (`Signed`), each with the secret, the header and the claims it
  was signed over, and a text verifies under a secret exactly when that secret signed it
  (`verifySignature`). The text of a signing is the token the caller receives; two signings
  have different texts, as two different claims sets (they differ in `jti`) do.
* `Validation.new` and `validate` are the library's default validation: `exp` required,
  expired when `exp < now - leeway` with a leeway of 60 seconds, the issuer and the audience
  checked when they are set, the audience check on by default. `decode` verifies the signature,
  deserialises the claims into the caller's type, and only then validates them.
* `JwtClaims` and `RefreshTokenClaims` with their `serde` forms (`toJson`, `fromJson`); the
  flattened `custom` field of an access token collects every other field when decoding.
* `JwtManager`, whose secret has at least 32 bytes by construction, and its operations; the
  instants `Utc::now()` and the library's clock read during one call are the call's `now`, and
  the ids `Uuid::new_v4()` draws are arguments.

On the texts the manager signs, the validators answer at every instant
(`validateAccessToken_minted`, `validateRefreshToken_minted`); the audience tells the two
families apart (`validateAccessToken_of_checkAudience`), and `extract_token_id`, which accepts
no audience, rejects every access token (`extractTokenId_minted_access`).
-/

namespace AgentIam.Jwt

/-! ### The library -/

/-- `jsonwebtoken::Header`, with the fields the code sets: the algorithm and the type. -/
structure Header where
  alg : String
  typ : Option String
  deriving DecidableEq, Repr

/-- `Header::new`. -/
def Header.new (alg : String) : Header := ⟨alg, some "JWT"⟩

/-- A text signed with `secret`, over `header` and the serialised `claims`. -/
structure Signed where
  token : String
  secret : String
  header : Header
  claims : JsonValue

/-- `jsonwebtoken::errors::ErrorKind`, the kinds the modelled calls can raise. -/
inductive ErrorKind where
  | invalidToken
  | invalidSignature
  | invalidAlgorithm
  | expiredSignature
  | invalidIssuer
  | invalidAudience
  | missingRequiredClaim (claim : String)
  | json (msg : String)
  deriving DecidableEq, Repr

/-- The `Display` text of a library error. -/
def ErrorKind.message : ErrorKind → String
  | .invalidToken => "InvalidToken"
  | .invalidSignature => "InvalidSignature"
  | .invalidAlgorithm => "InvalidAlgorithm"
  | .expiredSignature => "ExpiredSignature"
  | .invalidIssuer => "InvalidIssuer"
  | .invalidAudience => "InvalidAudience"
  | .missingRequiredClaim c => "Missing required claim: " ++ c
  | .json m => "JSON error: " ++ m

/-- `jsonwebtoken::encode`: the text `token` signed with `secret` over `header` and the claims,
once they have been serialised. -/
def encode (sigs : List Signed) (token : String) (header : Header)
    (claims : Except String JsonValue) (secret : String) : Except ErrorKind (List Signed) :=
  match claims with
  | .ok claims => .ok (⟨token, secret, header, claims⟩ :: sigs)
  | .error e => .error (.json e)

/-- `jsonwebtoken::Validation`, with the fields the modelled code sets or reads. -/
structure Validation where
  requiredSpecClaims : List String
  leeway : ℤ
  validateExp : Bool
  validateAud : Bool
  aud : Option (List String)
  iss : Option (List String)
  algorithms : List String
  validateSignature : Bool

/-- `Validation::new`: `exp` required, a leeway of 60 seconds, the audience checked. -/
def Validation.new (alg : String) : Validation := ⟨["exp"], 60, true, true, none, none, [alg], true⟩

/-- `Validation::set_issuer`. -/
def Validation.setIssuer (v : Validation) (items : List String) : Validation :=
  { v with iss := some items }

/-- `Validation::set_audience`. -/
def Validation.setAudience (v : Validation) (items : List String) : Validation :=
  { v with aud := some items }

/-- `Validation::set_required_spec_claims`. -/
def Validation.setRequiredSpecClaims (v : Validation) (items : List String) : Validation :=
  { v with requiredSpecClaims := items }

/-- `Validation::insecure_disable_signature_validation`. -/
def Validation.insecureDisableSignatureValidation (v : Validation) : Validation :=
  { v with validateSignature := false }

/-- The library's `TryParse`: how a registered claim reads. -/
inductive TryParse (α : Type) where
  | parsed (a : α)
  | unparseable
  | notPresent

/-- A claim that must be a `u64`, `exp` or `nbf`. -/
def parseTime (claims : JsonValue) (name : String) : TryParse ℤ :=
  match claims.get? name with
  | some (.number n) => if 0 ≤ n ∧ n < 2 ^ 64 then .parsed n else .unparseable
  | some .null | none => .notPresent
  | some _ => .unparseable

/-- The strings of an array, if all its elements are strings. -/
def stringsOf : List JsonValue → Option (List String)
  | [] => some []
  | .string s :: xs => (stringsOf xs).map (s :: ·)
  | _ :: _ => none

@[simp] theorem stringsOf_map_string (names : List String) :
    stringsOf (names.map .string) = some names := by
  induction names with
  | nil => rfl
  | cons s names ih => simp [stringsOf, ih]

/-- A claim that is one string or a set of strings, `iss` or `aud`. -/
def parseNames (claims : JsonValue) (name : String) : TryParse (List String) :=
  match claims.get? name with
  | some (.string s) => .parsed [s]
  | some (.array xs) => match stringsOf xs with
    | some names => .parsed names
    | none => .unparseable
  | some .null | none => .notPresent
  | some _ => .unparseable

/-- Whether a required registered claim is present and parses. -/
def TryParse.isParsed {α : Type} : TryParse α → Bool
  | .parsed _ => true
  | _ => false

/-- The first required claim that is missing. -/
def firstMissing (claims : JsonValue) : List String → Option String
  | [] => none
  | c :: cs =>
    let present := match c with
      | "exp" | "nbf" => (parseTime claims c).isParsed
      | "iss" | "aud" => (parseNames claims c).isParsed
      | "sub" => match claims.get? "sub" with
        | some (.string _) => true
        | _ => false
      | _ => true
    if present then firstMissing claims cs else some c

/-- The issuer check: some issuer of the token is an accepted one. -/
def checkIssuer (claims : JsonValue) (options : Validation) : Except ErrorKind Unit :=
  match parseNames claims "iss", options.iss with
  | .parsed iss, some correct =>
    if iss.any (· ∈ correct) then .ok () else .error .invalidIssuer
  | _, some _ => .error (.missingRequiredClaim "iss")
  | _, none => .ok ()

/-- The audience check: some audience of the token is an accepted one; a token with an
audience fails when none is accepted. -/
def checkAudience (claims : JsonValue) (options : Validation) : Except ErrorKind Unit :=
  if !options.validateAud then .ok ()
  else match parseNames claims "aud", options.aud with
    | .parsed _, none => .error .invalidAudience
    | .parsed aud, some correct =>
      if aud.any (· ∈ correct) then .ok () else .error .invalidAudience
    | _, some _ => .error (.missingRequiredClaim "aud")
    | _, none => .ok ()

/-- The library's `validate` of the registered claims at the instant `now`. -/
def validate (claims : JsonValue) (options : Validation) (now : ℤ) : Except ErrorKind Unit :=
  match firstMissing claims options.requiredSpecClaims with
  | some c => .error (.missingRequiredClaim c)
  | none =>
    match parseTime claims "exp" with
    | .parsed exp =>
      if options.validateExp ∧ exp < now - options.leeway then .error .expiredSignature
      else do checkIssuer claims options; checkAudience claims options
    | _ => do checkIssuer claims options; checkAudience claims options

/-- The header check and the signature check of `decode`. -/
def verifySignature (sigs : List Signed) (token secret : String) (options : Validation) :
    Except ErrorKind Signed :=
  match sigs.find? (·.token = token) with
  | none => .error .invalidToken
  | some s =>
    if options.validateSignature ∧ s.header.alg ∉ options.algorithms then .error .invalidAlgorithm
    else if options.validateSignature ∧ s.secret ≠ secret then .error .invalidSignature
    else .ok s

/-- `jsonwebtoken::decode`: verify, deserialise the claims, then validate the registered
ones. -/
def decode {α : Type} (sigs : List Signed) (token secret : String) (options : Validation)
    (now : ℤ) (deserialize : JsonValue → Except String α) : Except ErrorKind (Header × α) := do
  let s ← verifySignature sigs token secret options
  match deserialize s.claims with
  | .error e => throw (.json e)
  | .ok claims =>
    validate s.claims options now
    pure (s.header, claims)

/-! ### The compact form

The text `encode` hands back: the header and the claims as JSON, each in URL-safe base64
without padding, and the signature, joined by dots. The signature is the HMAC's bytes, which
the model does not compute. -/

/-- The `Serialize` form of `Header`: `typ` when it is set, then `alg`. -/
def Header.toJson (h : Header) : JsonValue :=
  .object ((h.typ.map fun t => [("typ", .string t)]).getD [] ++ [("alg", .string h.alg)])

/-- The URL-safe base64 alphabet. -/
def base64UrlAlphabet : List Char :=
  "ABCDEFGHIJKLMNOPQRSTUVWXYZabcdefghijklmnopqrstuvwxyz0123456789-_".data

/-- The digit of a six-bit value. -/
def base64UrlDigit (n : ℕ) : Char := base64UrlAlphabet.getD n 'A'

/-- URL-safe base64 without padding, of a list of bytes. -/
def base64UrlEncode : List ℕ → List Char
  | a :: b :: c :: rest =>
    [base64UrlDigit (a / 4), base64UrlDigit (a % 4 * 16 + b / 16),
      base64UrlDigit (b % 16 * 4 + c / 64), base64UrlDigit (c % 64)] ++ base64UrlEncode rest
  | [a, b] =>
    [base64UrlDigit (a / 4), base64UrlDigit (a % 4 * 16 + b / 16), base64UrlDigit (b % 16 * 4)]
  | [a] => [base64UrlDigit (a / 4), base64UrlDigit (a % 4 * 16)]
  | [] => []

/-- `b64_encode_part`: the JSON text of a part, in URL-safe base64. -/
def encodePart (part : JsonValue) : String :=
  String.mk (base64UrlEncode (part.serialize.toUTF8.data.toList.map (·.toNat)))

/-- The text of a token: header, claims and signature, joined by dots. -/
def compactText (header : Header) (claims : JsonValue) (signature : List ℕ) : String :=
  encodePart header.toJson ++ "." ++ encodePart claims ++ "." ++
    String.mk (base64UrlEncode signature)

theorem base64UrlDigit_mem (n : ℕ) : base64UrlDigit n ∈ base64UrlAlphabet := by
  rw [base64UrlDigit, List.getD_eq_getElem?_getD]
  cases h : base64UrlAlphabet[n]? with
  | none => decide
  | some ch => exact List.getElem?_mem h

theorem base64UrlEncode_mem (bytes : List ℕ) :
    ∀ ch ∈ base64UrlEncode bytes, ch ∈ base64UrlAlphabet := by
  induction bytes using base64UrlEncode.induct <;> simp_all [base64UrlEncode, base64UrlDigit_mem]

/-- A token's text is made of the base64 alphabet and the two dots. -/
theorem compactText_mem {header : Header} {claims : JsonValue} {signature : List ℕ} :
    ∀ ch ∈ (compactText header claims signature).data, ch = '.' ∨ ch ∈ base64UrlAlphabet := by
  simp only [compactText, encodePart, String.data_append, List.mem_append]
  rintro ch ((((h | h) | h) | h) | h)
  all_goals first
    | exact .inr (base64UrlEncode_mem _ _ h)
    | exact .inl (List.mem_singleton.1 h)

/-- The header segment of every token the manager signs. -/
theorem encodePart_header :
    encodePart (Header.new "HS256").toJson = "eyJ0eXAiOiJKV1QiLCJhbGciOiJIUzI1NiJ9" := rfl

/-! ### Claims -/

/-- A field of a JSON object that must be a string. -/
def stringField (fs : List (String × JsonValue)) (name : String) : Except String String :=
  match fs.find? (·.1 = name) with
  | some (_, .string s) => .ok s
  | some _ => .error ("invalid type for field " ++ name ++ ", expected a string")
  | none => .error ("missing field " ++ name)

/-- A field of a JSON object that must be an `i64`. -/
def intField (fs : List (String × JsonValue)) (name : String) : Except String ℤ :=
  match fs.find? (·.1 = name) with
  | some (_, .number n) =>
    if -2 ^ 63 ≤ n ∧ n < 2 ^ 63 then .ok n
    else .error ("invalid value for field " ++ name ++ ", expected i64")
  | some _ => .error ("invalid type for field " ++ name ++ ", expected i64")
  | none => .error ("missing field " ++ name)

/-- A field of a JSON object that must be a sequence of strings. -/
def stringsField (fs : List (String × JsonValue)) (name : String) : Except String (List String) :=
  match fs.find? (·.1 = name) with
  | some (_, .array xs) => match stringsOf xs with
    | some names => .ok names
    | none => .error ("invalid type for field " ++ name ++ ", expected a string")
  | some _ => .error ("invalid type for field " ++ name ++ ", expected a sequence")
  | none => .error ("missing field " ++ name)

/-- `JwtClaims`. -/
structure JwtClaims where
  sub : String
  tenantId : String
  identityType : String
  iat : ℤ
  exp : ℤ
  jti : String
  iss : String
  aud : List String
  custom : Option JsonValue

/-- The names of the fields of `JwtClaims` that are not flattened. -/
def JwtClaims.fieldNames : List String :=
  ["sub", "tenant_id", "identity_type", "iat", "exp", "jti", "iss", "aud"]

/-- `JwtClaims::new`, at `now`, with `jti` the id `Uuid::new_v4()` draws. -/
def JwtClaims.new (identityId tenantId : Uuid) (identityType : String) (durationSeconds : ℤ)
    (now : ℤ) (jti : Uuid) : JwtClaims :=
  ⟨identityId.hyphenated, tenantId.hyphenated, identityType, now, now + durationSeconds,
    jti.hyphenated, "agent-iam", ["agent-iam-api"], none⟩

/-- `JwtClaims::is_expired`. -/
def JwtClaims.isExpired (c : JwtClaims) (now : ℤ) : Bool := c.exp ≤ now

/-- The `Serialize` form of `JwtClaims`: the fields in order, then the entries of `custom`,
which must be an object if present. -/
def JwtClaims.toJson (c : JwtClaims) : Except String JsonValue :=
  let fields : List (String × JsonValue) :=
    [("sub", .string c.sub), ("tenant_id", .string c.tenantId),
      ("identity_type", .string c.identityType), ("iat", .number c.iat), ("exp", .number c.exp),
      ("jti", .string c.jti), ("iss", .string c.iss), ("aud", .array (c.aud.map .string))]
  match c.custom with
  | none => .ok (.object fields)
  | some (.object extra) => .ok (.object (fields ++ extra))
  | some _ => .error "can only flatten structs and maps"

/-- The `Deserialize` form of `JwtClaims`: `custom` collects the other entries. -/
def JwtClaims.fromJson : JsonValue → Except String JwtClaims
  | .object fs => do
    let sub ← stringField fs "sub"
    let tenantId ← stringField fs "tenant_id"
    let identityType ← stringField fs "identity_type"
    let iat ← intField fs "iat"
    let exp ← intField fs "exp"
    let jti ← stringField fs "jti"
    let iss ← stringField fs "iss"
    let aud ← stringsField fs "aud"
    pure ⟨sub, tenantId, identityType, iat, exp, jti, iss, aud,
      some (.object (fs.filter (·.1 ∉ JwtClaims.fieldNames)))⟩
  | _ => .error "invalid type, expected struct JwtClaims"

/-- `RefreshTokenClaims`. -/
structure RefreshTokenClaims where
  sub : String
  tenantId : String
  iat : ℤ
  exp : ℤ
  jti : String
  familyId : String
  iss : String

/-- `RefreshTokenClaims::new`, at `now`, with `jti` and `freshFamily` the ids
`Uuid::new_v4()` draws. -/
def RefreshTokenClaims.new (identityId tenantId : Uuid) (durationSeconds : ℤ)
    (familyId : Option String) (now : ℤ) (jti freshFamily : Uuid) : RefreshTokenClaims :=
  ⟨identityId.hyphenated, tenantId.hyphenated, now, now + durationSeconds, jti.hyphenated,
    familyId.getD freshFamily.hyphenated, "agent-iam"⟩

/-- `RefreshTokenClaims::is_expired`. -/
def RefreshTokenClaims.isExpired (c : RefreshTokenClaims) (now : ℤ) : Bool := c.exp ≤ now

/-- The `Serialize` form of `RefreshTokenClaims`. -/
def RefreshTokenClaims.toJson (c : RefreshTokenClaims) : JsonValue :=
  .object [("sub", .string c.sub), ("tenant_id", .string c.tenantId), ("iat", .number c.iat),
    ("exp", .number c.exp), ("jti", .string c.jti), ("family_id", .string c.familyId),
    ("iss", .string c.iss)]

/-- The `Deserialize` form of `RefreshTokenClaims`: other entries are ignored. -/
def RefreshTokenClaims.fromJson : JsonValue → Except String RefreshTokenClaims
  | .object fs => do
    let sub ← stringField fs "sub"
    let tenantId ← stringField fs "tenant_id"
    let iat ← intField fs "iat"
    let exp ← intField fs "exp"
    let jti ← stringField fs "jti"
    let familyId ← stringField fs "family_id"
    let iss ← stringField fs "iss"
    pure ⟨sub, tenantId, iat, exp, jti, familyId, iss⟩
  | _ => .error "invalid type, expected struct RefreshTokenClaims"

/-! ### The manager -/

/-- The two fields of `config.auth` the manager reads. -/
structure AuthConfig where
  jwtExpirationSeconds : ℤ
  refreshTokenExpirationSeconds : ℤ

/-- `JwtManager`: the encoding and the decoding key are both the secret, of at least 32 bytes. -/
structure JwtManager where
  secret : String
  accessTokenExpiration : ℤ
  refreshTokenExpiration : ℤ
  secret_length : 32 ≤ secret.utf8ByteSize

/-- `JwtManager::new`, with `secret` the value of `AGENT_IAM__AUTH__JWT_SECRET`, if set. -/
def JwtManager.new (config : AuthConfig) (secret : Option String) : Except AppError JwtManager :=
  match secret with
  | none => .error (.configuration
      "JWT_SECRET must be set via AGENT_IAM__AUTH__JWT_SECRET environment variable")
  | some secret =>
    if h : secret.utf8ByteSize < 32 then
      .error (.configuration "JWT secret must be at least 32 characters long")
    else .ok ⟨secret, config.jwtExpirationSeconds, config.refreshTokenExpirationSeconds,
      Nat.le_of_not_lt h⟩

/-- `JwtManager::generate_access_token` at `now`: the token `token`, and the signings after it. -/
def JwtManager.generateAccessToken (m : JwtManager) (sigs : List Signed) (identityId tenantId : Uuid)
    (identityType : String) (now : ℤ) (jti : Uuid) (token : String) :
    Except AppError (String × List Signed) :=
  let claims := JwtClaims.new identityId tenantId identityType m.accessTokenExpiration now jti
  match encode sigs token (Header.new "HS256") claims.toJson m.secret with
  | .ok sigs => .ok (token, sigs)
  | .error e => .error (.tokenGeneration ("Failed to encode JWT: " ++ e.message))

/-- `JwtManager::generate_refresh_token` at `now`. -/
def JwtManager.generateRefreshToken (m : JwtManager) (sigs : List Signed)
    (identityId tenantId : Uuid) (familyId : Option String) (now : ℤ) (jti freshFamily : Uuid)
    (token : String) : Except AppError (String × List Signed) :=
  let claims := RefreshTokenClaims.new identityId tenantId m.refreshTokenExpiration familyId now
    jti freshFamily
  match encode sigs token (Header.new "HS256") (.ok claims.toJson) m.secret with
  | .ok sigs => .ok (token, sigs)
  | .error e => .error (.tokenGeneration ("Failed to encode refresh token: " ++ e.message))

/-- The validation of `validate_access_token`. -/
def accessValidation : Validation :=
  ((Validation.new "HS256").setIssuer ["agent-iam"]).setAudience ["agent-iam-api"]

theorem accessValidation_eq : accessValidation =
    ⟨["exp"], 60, true, true, some ["agent-iam-api"], some ["agent-iam"], ["HS256"], true⟩ :=
  rfl

/-- `JwtManager::validate_access_token` at `now`. -/
def JwtManager.validateAccessToken (m : JwtManager) (sigs : List Signed) (token : String)
    (now : ℤ) : Except AppError JwtClaims :=
  match decode sigs token m.secret accessValidation now JwtClaims.fromJson with
  | .error e => .error (.tokenValidation ("Failed to decode JWT: " ++ e.message))
  | .ok (_, claims) => if claims.isExpired now then .error .tokenExpired else .ok claims

/-- The validation of `validate_refresh_token`: no audience is set, but the check stays on. -/
def refreshValidation : Validation :=
  ((Validation.new "HS256").setIssuer ["agent-iam"]).setRequiredSpecClaims
    ["exp", "iat", "iss", "jti", "sub"]

theorem refreshValidation_eq : refreshValidation =
    ⟨["exp", "iat", "iss", "jti", "sub"], 60, true, true, none, some ["agent-iam"], ["HS256"],
      true⟩ := rfl

/-- `JwtManager::validate_refresh_token` at `now`. -/
def JwtManager.validateRefreshToken (m : JwtManager) (sigs : List Signed) (token : String)
    (now : ℤ) : Except AppError RefreshTokenClaims :=
  match decode sigs token m.secret refreshValidation now RefreshTokenClaims.fromJson with
  | .error e => .error (.tokenValidation ("Failed to decode refresh token: " ++ e.message))
  | .ok (_, claims) => if claims.isExpired now then .error .tokenExpired else .ok claims

/-- The validation of `extract_token_id`: no signature check, no expiry check. -/
def extractValidation : Validation :=
  { (Validation.new "HS256").insecureDisableSignatureValidation with validateExp := false }

theorem extractValidation_eq : extractValidation =
    ⟨["exp"], 60, false, true, none, none, ["HS256"], false⟩ := rfl

/-- `JwtManager::extract_token_id`. -/
def JwtManager.extractTokenId (m : JwtManager) (sigs : List Signed) (token : String) (now : ℤ) :
    Except AppError String :=
  match decode sigs token m.secret extractValidation now .ok with
  | .error e => .error (.tokenValidation ("Failed to extract token ID: " ++ e.message))
  | .ok (_, claims) => match claims.get? "jti" with
    | some (.string jti) => .ok jti
    | _ => .error (.tokenValidation "Missing jti claim")

/-! ### Validation over time -/

/-- What `decode` checks, in order: the signature, the shape, the registered claims. -/
theorem decode_eq_ok {α : Type} {sigs : List Signed} {token secret : String}
    {options : Validation} {now : ℤ} {deserialize : JsonValue → Except String α}
    {header : Header} {claims : α} :
    decode sigs token secret options now deserialize = .ok (header, claims) ↔
      ∃ s, verifySignature sigs token secret options = .ok s ∧
        validate s.claims options now = .ok () ∧ deserialize s.claims = .ok claims ∧
        header = s.header := by
  simp only [decode, except_bind_eq_ok]
  constructor
  · rintro ⟨s, hs, h⟩
    split at h
    · cases h
    · obtain ⟨⟨⟩, hv, h⟩ := except_bind_eq_ok.1 h
      cases h
      exact ⟨s, hs, hv, ‹_›, rfl⟩
  · rintro ⟨s, hs, hv, hd, rfl⟩
    exact ⟨s, hs, by rw [hd]; exact except_bind_eq_ok.2 ⟨(), hv, rfl⟩⟩

/-- The registered claims pass exactly when the required ones are there, the token has not
expired beyond the leeway, and the issuer and the audience are accepted. -/
theorem validate_eq_ok {claims : JsonValue} {options : Validation} {now : ℤ} :
    validate claims options now = .ok () ↔
      firstMissing claims options.requiredSpecClaims = none ∧
      (∀ exp, parseTime claims "exp" = .parsed exp →
        ¬ (options.validateExp ∧ exp < now - options.leeway)) ∧
      checkIssuer claims options = .ok () ∧ checkAudience claims options = .ok () := by
  unfold validate
  split
  · simp_all
  · split
    · split_ifs with h
      · exact iff_of_false (by simp) fun ⟨_, hexp, _⟩ => hexp _ ‹_› h
      · cases hi : checkIssuer claims options <;> simp_all [except_bind_eq_ok]
    · cases hi : checkIssuer claims options <;> simp_all [except_bind_eq_ok]

theorem intField_eq_ok {fs : List (String × JsonValue)} {name : String} {n : ℤ}
    (h : intField fs name = .ok n) : (JsonValue.object fs).get? name = some (.number n) := by
  unfold intField at h
  split at h
  · split_ifs at h
    cases h
    simp_all [JsonValue.get?]
  all_goals cases h

/-- The `exp` the library validates is the `exp` of the deserialised claims. -/
theorem JwtClaims.exp_of_fromJson {j : JsonValue} {c : JwtClaims} (h : JwtClaims.fromJson j = .ok c)
    {e : ℤ} (he : parseTime j "exp" = .parsed e) : e = c.exp := by
  cases j <;> try cases h
  rename_i fs
  simp only [JwtClaims.fromJson, except_bind_eq_ok] at h
  obtain ⟨_, -, _, -, _, -, _, -, exp, hexp, _, -, _, -, _, -, h⟩ := h
  cases h
  simp only [parseTime, intField_eq_ok hexp] at he
  split_ifs at he
  cases he
  rfl

/-- A validated access token has not expired. -/
theorem validateAccessToken_lt_exp {m : JwtManager} {sigs : List Signed} {token : String}
    {now : ℤ} {c : JwtClaims} (h : m.validateAccessToken sigs token now = .ok c) :
    now < c.exp := by
  unfold JwtManager.validateAccessToken at h
  split at h
  · cases h
  · split_ifs at h with hexp
    cases h
    simp only [JwtClaims.isExpired, decide_eq_true_eq] at hexp
    omega

/-- **Validation of an access token does not depend on when it happens**, until its `exp`:
what it accepts once it accepts at every instant before the expiry. -/
theorem validateAccessToken_later {m : JwtManager} {sigs : List Signed} {token : String}
    {t₀ : ℤ} {c : JwtClaims} (h : m.validateAccessToken sigs token t₀ = .ok c) {t : ℤ}
    (ht : t < c.exp) : m.validateAccessToken sigs token t = .ok c := by
  unfold JwtManager.validateAccessToken at h ⊢
  split at h
  · cases h
  · rename_i header c' hdec
    split_ifs at h
    cases h
    obtain ⟨s, hs, hv, hd, rfl⟩ := decode_eq_ok.1 hdec
    obtain ⟨hmiss, -, hiss, haud⟩ := validate_eq_ok.1 hv
    have hv' : validate s.claims accessValidation t = .ok () :=
      validate_eq_ok.2 ⟨hmiss, fun e he => by
        rw [JwtClaims.exp_of_fromJson hd he]; simp [accessValidation_eq]; omega, hiss, haud⟩
    rw [decode_eq_ok.2 ⟨s, hs, hv', hd, rfl⟩]
    simp only [JwtClaims.isExpired, decide_eq_true_eq]
    rw [if_neg (by omega)]


/-! ### Minted tokens

What the validators and `extract_token_id` answer on the texts the manager signs, at every
instant. The registered claims are in range: `iat` and `exp` fit the `i64` of the claims and
the `u64` the library reads `exp` as. -/

/-- The object `Serialize` writes for access claims without custom entries. -/
def JwtClaims.fieldsJson (c : JwtClaims) : JsonValue :=
  .object [("sub", .string c.sub), ("tenant_id", .string c.tenantId),
    ("identity_type", .string c.identityType), ("iat", .number c.iat), ("exp", .number c.exp),
    ("jti", .string c.jti), ("iss", .string c.iss), ("aud", .array (c.aud.map .string))]

theorem JwtClaims.toJson_new (identityId tenantId : Uuid) (identityType : String)
    (durationSeconds now : ℤ) (jti : Uuid) :
    (JwtClaims.new identityId tenantId identityType durationSeconds now jti).toJson =
      .ok (JwtClaims.new identityId tenantId identityType durationSeconds now jti).fieldsJson :=
  rfl

/-- Timestamps the claims can carry: an `i64` the library also reads as a `u64`. -/
def InRange (n : ℤ) : Prop := 0 ≤ n ∧ n < 2 ^ 63

section Minted

variable {c : JwtClaims} {r : RefreshTokenClaims}

/-- Once no required claim is missing and `exp` parses, `validate` checks the expiry, then the
issuer and the audience. -/
theorem validate_of_parseTime {claims : JsonValue} (options : Validation) {now exp : ℤ}
    (hmiss : firstMissing claims options.requiredSpecClaims = none)
    (hexp : parseTime claims "exp" = .parsed exp) :
    validate claims options now =
      if options.validateExp ∧ exp < now - options.leeway then .error .expiredSignature
      else checkIssuer claims options >>= fun _ => checkAudience claims options := by
  rw [validate, hmiss, hexp]

theorem firstMissing_exp {claims : JsonValue} {exp : ℤ}
    (h : parseTime claims "exp" = .parsed exp) : firstMissing claims ["exp"] = none := by
  simp [firstMissing, h, TryParse.isParsed]

/-! How the registered claims of the two JSON forms read. -/

theorem parseTime_fieldsJson (hexp : InRange c.exp) :
    parseTime c.fieldsJson "exp" = .parsed c.exp := by
  obtain ⟨h0, h1⟩ := hexp
  simp [parseTime, JwtClaims.fieldsJson, JsonValue.get?, h0]
  omega

@[simp] theorem parseNames_fieldsJson_iss : parseNames c.fieldsJson "iss" = .parsed [c.iss] := by
  simp [parseNames, JwtClaims.fieldsJson, JsonValue.get?]

@[simp] theorem parseNames_fieldsJson_aud : parseNames c.fieldsJson "aud" = .parsed c.aud := by
  simp [parseNames, JwtClaims.fieldsJson, JsonValue.get?]

@[simp] theorem get?_fieldsJson_sub : c.fieldsJson.get? "sub" = some (.string c.sub) := rfl

theorem parseTime_toJson (hexp : InRange r.exp) : parseTime r.toJson "exp" = .parsed r.exp := by
  obtain ⟨h0, h1⟩ := hexp
  simp [parseTime, RefreshTokenClaims.toJson, JsonValue.get?, h0]
  omega

@[simp] theorem parseNames_toJson_iss : parseNames r.toJson "iss" = .parsed [r.iss] := by
  simp [parseNames, RefreshTokenClaims.toJson, JsonValue.get?]

@[simp] theorem parseNames_toJson_aud : parseNames r.toJson "aud" = .notPresent := by
  simp [parseNames, RefreshTokenClaims.toJson, JsonValue.get?]

@[simp] theorem get?_toJson_sub : r.toJson.get? "sub" = some (.string r.sub) := rfl

/-- The JSON of access claims passes the access validation until `exp` plus the leeway. -/
theorem validate_fieldsJson (hiss : c.iss = "agent-iam") (haud : c.aud = ["agent-iam-api"])
    (hexp : InRange c.exp) (t : ℤ) :
    validate c.fieldsJson accessValidation t =
      if c.exp < t - 60 then .error .expiredSignature else .ok () := by
  rw [validate_of_parseTime _ (firstMissing_exp (parseTime_fieldsJson hexp))
    (parseTime_fieldsJson hexp)]
  simp [checkIssuer, checkAudience, accessValidation_eq, hiss, haud]

/-- The JSON of access claims deserialises to the claims, with no custom entry. -/
theorem fromJson_fieldsJson (hiat : InRange c.iat) (hexp : InRange c.exp) :
    JwtClaims.fromJson c.fieldsJson = .ok { c with custom := some (.object []) } := by
  obtain ⟨h0, h1⟩ := hiat
  obtain ⟨h2, h3⟩ := hexp
  have hi : -9223372036854775808 ≤ c.iat ∧ c.iat < 9223372036854775808 :=
    ⟨by omega, by omega⟩
  have he : -9223372036854775808 ≤ c.exp ∧ c.exp < 9223372036854775808 :=
    ⟨by omega, by omega⟩
  simp only [JwtClaims.fromJson, JwtClaims.fieldsJson, stringField, intField, stringsField,
    JwtClaims.fieldNames, List.find?_cons_of_pos, List.find?_cons_of_neg, String.reduceEq,
    decide_True, decide_False, Int.reducePow, Int.reduceNeg, hi, he, ite_true, stringsOf_map_string,
    List.filter_cons_of_neg, List.filter_nil, List.mem_cons, List.mem_singleton, or_true, true_or,
    decide_not, Bool.not_true, Bool.false_eq_true, not_false_eq_true]
  rfl

/-- The access validation rejects refresh claims, which have no audience. -/
theorem validate_toJson_access (hiss : r.iss = "agent-iam") (hexp : InRange r.exp) (t : ℤ) :
    validate r.toJson accessValidation t =
      if r.exp < t - 60 then .error .expiredSignature
      else .error (.missingRequiredClaim "aud") := by
  rw [validate_of_parseTime _ (firstMissing_exp (parseTime_toJson hexp)) (parseTime_toJson hexp)]
  simp [checkIssuer, checkAudience, accessValidation_eq, hiss]

/-- The JSON of refresh claims passes the refresh validation until `exp` plus the leeway. -/
theorem validate_toJson_refresh (hiss : r.iss = "agent-iam") (hexp : InRange r.exp) (t : ℤ) :
    validate r.toJson refreshValidation t =
      if r.exp < t - 60 then .error .expiredSignature else .ok () := by
  rw [validate_of_parseTime _ (by simp [firstMissing, refreshValidation_eq, parseTime_toJson hexp,
    TryParse.isParsed]) (parseTime_toJson hexp)]
  simp [checkIssuer, checkAudience, refreshValidation_eq, hiss]

/-- The refresh validation rejects access claims: they carry an audience and it accepts none. -/
theorem validate_fieldsJson_refresh (hiss : c.iss = "agent-iam") (hexp : InRange c.exp) (t : ℤ) :
    validate c.fieldsJson refreshValidation t =
      if c.exp < t - 60 then .error .expiredSignature else .error .invalidAudience := by
  rw [validate_of_parseTime _ (by simp [firstMissing, refreshValidation_eq,
    parseTime_fieldsJson hexp, TryParse.isParsed]) (parseTime_fieldsJson hexp)]
  simp [checkIssuer, checkAudience, refreshValidation_eq, hiss]

/-- `extract_token_id`'s validation rejects access claims, whatever the instant. -/
theorem validate_fieldsJson_extract (hexp : InRange c.exp) (t : ℤ) :
    validate c.fieldsJson extractValidation t = .error .invalidAudience := by
  rw [validate_of_parseTime _ (firstMissing_exp (parseTime_fieldsJson hexp))
    (parseTime_fieldsJson hexp)]
  simp [checkIssuer, checkAudience, extractValidation_eq]

/-- `extract_token_id`'s validation accepts refresh claims, whatever the instant. -/
theorem validate_toJson_extract (hexp : InRange r.exp) (t : ℤ) :
    validate r.toJson extractValidation t = .ok () := by
  rw [validate_of_parseTime _ (firstMissing_exp (parseTime_toJson hexp)) (parseTime_toJson hexp)]
  simp [checkIssuer, checkAudience, extractValidation_eq]

/-- The JSON of refresh claims deserialises to the claims. -/
theorem fromJson_toJson (hiat : InRange r.iat) (hexp : InRange r.exp) :
    RefreshTokenClaims.fromJson r.toJson = .ok r := by
  obtain ⟨h0, h1⟩ := hiat
  obtain ⟨h2, h3⟩ := hexp
  have hi : -9223372036854775808 ≤ r.iat ∧ r.iat < 9223372036854775808 :=
    ⟨by omega, by omega⟩
  have he : -9223372036854775808 ≤ r.exp ∧ r.exp < 9223372036854775808 :=
    ⟨by omega, by omega⟩
  simp [RefreshTokenClaims.fromJson, RefreshTokenClaims.toJson, stringField, intField, hi, he]

/-- The access validation rejects refresh claims, whatever their timestamps. -/
theorem checkAudience_toJson_access :
    checkAudience r.toJson accessValidation = .error (.missingRequiredClaim "aud") := by
  simp [checkAudience, accessValidation_eq]

/-- The refresh validation rejects access claims, whatever their timestamps. -/
theorem checkAudience_fieldsJson_refresh :
    checkAudience c.fieldsJson refreshValidation = .error .invalidAudience := by
  simp [checkAudience, refreshValidation_eq]

/-- `extract_token_id`'s validation rejects access claims, whatever their timestamps. -/
theorem checkAudience_fieldsJson_extract :
    checkAudience c.fieldsJson extractValidation = .error .invalidAudience := by
  simp [checkAudience, extractValidation_eq]

end Minted

/-! ### The manager's tokens -/

/-- The signing of a text is found behind later signings of other texts. -/
theorem find?_signing {later sigs : List Signed} {s : Signed}
    (h : s.token ∉ later.map (·.token)) :
    (later ++ s :: sigs).find? (·.token = s.token) = some s := by
  rw [List.find?_append, List.find?_eq_none.2 fun x hx hp => h ?_]
  · simp
  · rw [← of_decide_eq_true hp]
    exact List.mem_map_of_mem Signed.token hx

/-- A text signed under the header the manager writes verifies under its secret. -/
theorem verifySignature_signing {later sigs : List Signed} {token secret : String}
    {claims : JsonValue} (options : Validation) (halg : options.algorithms = ["HS256"])
    (h : token ∉ later.map (·.token)) :
    verifySignature (later ++ ⟨token, secret, Header.new "HS256", claims⟩ :: sigs) token secret
      options = .ok ⟨token, secret, Header.new "HS256", claims⟩ := by
  simp [verifySignature, find?_signing (s := ⟨token, secret, _, claims⟩) h, halg, Header.new]

section Manager

variable {m : JwtManager} {sigs sigs' later : List Signed} {identityId tenantId jti : Uuid}
  {token : String} {t₀ : ℤ}

/-- Signing access claims always succeeds: they have no custom entry. -/
theorem generateAccessToken_ok (m : JwtManager) (sigs : List Signed) (identityId tenantId : Uuid)
    (identityType : String) (t₀ : ℤ) (jti : Uuid) (token : String) :
    m.generateAccessToken sigs identityId tenantId identityType t₀ jti token =
      .ok (token, ⟨token, m.secret, Header.new "HS256", (JwtClaims.new identityId tenantId
        identityType m.accessTokenExpiration t₀ jti).fieldsJson⟩ :: sigs) := rfl

theorem generateRefreshToken_ok (m : JwtManager) (sigs : List Signed) (identityId tenantId : Uuid)
    (familyId : Option String) (t₀ : ℤ) (jti freshFamily : Uuid) (token : String) :
    m.generateRefreshToken sigs identityId tenantId familyId t₀ jti freshFamily token =
      .ok (token, ⟨token, m.secret, Header.new "HS256", (RefreshTokenClaims.new identityId tenantId
        m.refreshTokenExpiration familyId t₀ jti freshFamily).toJson⟩ :: sigs) := rfl

theorem generateAccessToken_eq {identityType : String}
    (h : m.generateAccessToken sigs identityId tenantId identityType t₀ jti token =
      .ok (token, sigs')) :
    sigs' = ⟨token, m.secret, Header.new "HS256", (JwtClaims.new identityId tenantId identityType
      m.accessTokenExpiration t₀ jti).fieldsJson⟩ :: sigs := by
  cases h
  rfl

theorem generateRefreshToken_eq {familyId : Option String} {freshFamily : Uuid}
    (h : m.generateRefreshToken sigs identityId tenantId familyId t₀ jti freshFamily token =
      .ok (token, sigs')) :
    sigs' = ⟨token, m.secret, Header.new "HS256", (RefreshTokenClaims.new identityId tenantId
      m.refreshTokenExpiration familyId t₀ jti freshFamily).toJson⟩ :: sigs := by
  cases h
  rfl

/-- Validation of a signing of access claims, at every instant. -/
theorem validateAccessToken_signing {c : JwtClaims} (hiss : c.iss = "agent-iam")
    (haud : c.aud = ["agent-iam-api"]) (hiat : InRange c.iat) (hexp : InRange c.exp)
    (hlater : token ∉ later.map (·.token)) (t : ℤ) :
    m.validateAccessToken (later ++ ⟨token, m.secret, Header.new "HS256", c.fieldsJson⟩ :: sigs)
        token t =
      if c.exp < t - 60 then .error (.tokenValidation "Failed to decode JWT: ExpiredSignature")
      else if c.exp ≤ t then .error .tokenExpired
      else .ok { c with custom := some (.object []) } := by
  simp only [JwtManager.validateAccessToken, decode,
    verifySignature_signing accessValidation rfl hlater, except_ok_bind,
    validate_fieldsJson hiss haud hexp, fromJson_fieldsJson hiat hexp]
  by_cases h1 : c.exp < t - 60
  · simp only [if_pos h1]
    rfl
  · simp only [if_neg h1, except_ok_bind]
    by_cases h2 : c.exp ≤ t <;> simp [h2, JwtClaims.isExpired, pure, Except.pure]

/-- **What validation answers on a minted access token, at every instant**: the claims it was
minted with before `exp`, `TokenExpired` from `exp` until the leeway runs out, and after it the
library's expiry, reported as a decoding error. -/
theorem validateAccessToken_minted {identityType : String}
    (hgen : m.generateAccessToken sigs identityId tenantId identityType t₀ jti token =
      .ok (token, sigs'))
    (hlater : token ∉ later.map (·.token)) (hiat : InRange t₀)
    (hexp : InRange (t₀ + m.accessTokenExpiration)) (t : ℤ) :
    m.validateAccessToken (later ++ sigs') token t =
      if t₀ + m.accessTokenExpiration < t - 60 then
        .error (.tokenValidation "Failed to decode JWT: ExpiredSignature")
      else if t₀ + m.accessTokenExpiration ≤ t then .error .tokenExpired
      else .ok { JwtClaims.new identityId tenantId identityType m.accessTokenExpiration t₀ jti
        with custom := some (.object []) } := by
  rw [generateAccessToken_eq hgen]
  exact validateAccessToken_signing rfl rfl hiat hexp hlater t

/-- Validation of a signing of refresh claims, at every instant. -/
theorem validateRefreshToken_signing {r : RefreshTokenClaims} (hiss : r.iss = "agent-iam")
    (hiat : InRange r.iat) (hexp : InRange r.exp) (hlater : token ∉ later.map (·.token))
    (t : ℤ) :
    m.validateRefreshToken (later ++ ⟨token, m.secret, Header.new "HS256", r.toJson⟩ :: sigs)
        token t =
      if r.exp < t - 60 then
        .error (.tokenValidation "Failed to decode refresh token: ExpiredSignature")
      else if r.exp ≤ t then .error .tokenExpired
      else .ok r := by
  simp only [JwtManager.validateRefreshToken, decode,
    verifySignature_signing refreshValidation rfl hlater, except_ok_bind,
    validate_toJson_refresh hiss hexp, fromJson_toJson hiat hexp]
  by_cases h1 : r.exp < t - 60
  · simp only [if_pos h1]
    rfl
  · simp only [if_neg h1, except_ok_bind]
    by_cases h2 : r.exp ≤ t <;> simp [h2, RefreshTokenClaims.isExpired, pure, Except.pure]

/-- **What validation answers on a minted refresh token, at every instant**, as for access
tokens; the claims carry the family given, or the fresh one. -/
theorem validateRefreshToken_minted {familyId : Option String} {freshFamily : Uuid}
    (hgen : m.generateRefreshToken sigs identityId tenantId familyId t₀ jti freshFamily token =
      .ok (token, sigs'))
    (hlater : token ∉ later.map (·.token)) (hiat : InRange t₀)
    (hexp : InRange (t₀ + m.refreshTokenExpiration)) (t : ℤ) :
    m.validateRefreshToken (later ++ sigs') token t =
      if t₀ + m.refreshTokenExpiration < t - 60 then
        .error (.tokenValidation "Failed to decode refresh token: ExpiredSignature")
      else if t₀ + m.refreshTokenExpiration ≤ t then .error .tokenExpired
      else .ok (RefreshTokenClaims.new identityId tenantId m.refreshTokenExpiration familyId t₀ jti
        freshFamily) := by
  rw [generateRefreshToken_eq hgen]
  exact validateRefreshToken_signing rfl hiat hexp hlater t

/-- **No access token yields its id**: `extract_token_id` rejects every minted access token,
for its audience, at every instant. -/
theorem extractTokenId_minted_access {identityType : String}
    (hgen : m.generateAccessToken sigs identityId tenantId identityType t₀ jti token =
      .ok (token, sigs'))
    (hlater : token ∉ later.map (·.token)) (hexp : InRange (t₀ + m.accessTokenExpiration))
    (t : ℤ) :
    m.extractTokenId (later ++ sigs') token t =
      .error (.tokenValidation "Failed to extract token ID: InvalidAudience") := by
  rw [generateAccessToken_eq hgen]
  simp only [JwtManager.extractTokenId, decode,
    verifySignature_signing extractValidation rfl hlater, except_ok_bind,
    validate_fieldsJson_extract (c := JwtClaims.new identityId tenantId identityType
      m.accessTokenExpiration t₀ jti) hexp]
  rfl

/-- A minted refresh token yields its `jti`, at every instant. -/
theorem extractTokenId_minted_refresh {familyId : Option String} {freshFamily : Uuid}
    (hgen : m.generateRefreshToken sigs identityId tenantId familyId t₀ jti freshFamily token =
      .ok (token, sigs'))
    (hlater : token ∉ later.map (·.token)) (hexp : InRange (t₀ + m.refreshTokenExpiration))
    (t : ℤ) : m.extractTokenId (later ++ sigs') token t = .ok jti.hyphenated := by
  rw [generateRefreshToken_eq hgen]
  simp only [JwtManager.extractTokenId, decode,
    verifySignature_signing extractValidation rfl hlater, except_ok_bind,
    validate_toJson_extract (r := RefreshTokenClaims.new identityId tenantId
      m.refreshTokenExpiration familyId t₀ jti freshFamily) hexp]
  rfl

/-- `decode` fails on a signing whose audience the validation rejects. -/
theorem decode_of_checkAudience {α : Type} {secret : String} {options : Validation} {s : Signed}
    (deserialize : JsonValue → Except String α) (hs : verifySignature sigs token secret options = .ok s)
    (haud : checkAudience s.claims options ≠ .ok ()) (t : ℤ) :
    ∃ e, decode sigs token secret options t deserialize = .error e := by
  cases hd : decode sigs token secret options t deserialize with
  | error e => exact ⟨e, rfl⟩
  | ok r =>
    obtain ⟨s', hs', hv, -⟩ := decode_eq_ok.1 hd
    rw [hs] at hs'
    cases hs'
    exact absurd (validate_eq_ok.1 hv).2.2.2 haud

/-- A signing whose audience the access validation rejects fails as a validation error. -/
theorem validateAccessToken_of_checkAudience {claims : JsonValue}
    (hlater : token ∉ later.map (·.token)) (haud : checkAudience claims accessValidation ≠ .ok ())
    (t : ℤ) : ∃ msg, m.validateAccessToken
      (later ++ ⟨token, m.secret, Header.new "HS256", claims⟩ :: sigs) token t =
        .error (.tokenValidation msg) := by
  obtain ⟨e, he⟩ := decode_of_checkAudience JwtClaims.fromJson
    (verifySignature_signing accessValidation rfl hlater) haud t
  exact ⟨_, by rw [JwtManager.validateAccessToken, he]⟩

/-- A signing whose audience the refresh validation rejects fails as a validation error. -/
theorem validateRefreshToken_of_checkAudience {claims : JsonValue}
    (hlater : token ∉ later.map (·.token))
    (haud : checkAudience claims refreshValidation ≠ .ok ()) (t : ℤ) :
    ∃ msg, m.validateRefreshToken
      (later ++ ⟨token, m.secret, Header.new "HS256", claims⟩ :: sigs) token t =
        .error (.tokenValidation msg) := by
  obtain ⟨e, he⟩ := decode_of_checkAudience RefreshTokenClaims.fromJson
    (verifySignature_signing refreshValidation rfl hlater) haud t
  exact ⟨_, by rw [JwtManager.validateRefreshToken, he]⟩

/-- A signing whose audience `extract_token_id`'s validation rejects fails as a validation
error. -/
theorem extractTokenId_of_checkAudience {secret : String} {header : Header} {claims : JsonValue}
    (hlater : token ∉ later.map (·.token))
    (haud : checkAudience claims extractValidation ≠ .ok ()) (t : ℤ) :
    ∃ msg, m.extractTokenId (later ++ ⟨token, secret, header, claims⟩ :: sigs) token t =
      .error (.tokenValidation msg) := by
  have hs : verifySignature (later ++ ⟨token, secret, header, claims⟩ :: sigs) token m.secret
      extractValidation = .ok ⟨token, secret, header, claims⟩ := by
    simp [verifySignature, find?_signing (s := ⟨token, secret, header, claims⟩) hlater,
      extractValidation_eq]
  obtain ⟨e, he⟩ := decode_of_checkAudience Except.ok hs haud t
  exact ⟨_, by rw [JwtManager.extractTokenId, he]⟩

/-- `extract_token_id` fails on every minted access token, whatever its timestamps. -/
theorem extractTokenId_access_fails {identityType : String}
    (hgen : m.generateAccessToken sigs identityId tenantId identityType t₀ jti token =
      .ok (token, sigs'))
    (hlater : token ∉ later.map (·.token)) (t : ℤ) :
    ∃ msg, m.extractTokenId (later ++ sigs') token t = .error (.tokenValidation msg) := by
  rw [generateAccessToken_eq hgen]
  exact extractTokenId_of_checkAudience hlater (by simp [checkAudience_fieldsJson_extract]) t

/-- Nor once a refresh token has been minted after it. -/
theorem extractTokenId_access_after_refresh {identityType refreshToken : String} {sigs'' : List Signed}
    {familyId : Option String} {refreshJti freshFamily : Uuid}
    (hgen : m.generateAccessToken sigs identityId tenantId identityType t₀ jti token =
      .ok (token, sigs'))
    (hrefresh : m.generateRefreshToken sigs' identityId tenantId familyId t₀ refreshJti freshFamily
      refreshToken = .ok (refreshToken, sigs''))
    (hne : token ≠ refreshToken) (t : ℤ) :
    ∃ msg, m.extractTokenId sigs'' token t = .error (.tokenValidation msg) := by
  rw [generateRefreshToken_eq hrefresh, ← List.singleton_append]
  exact extractTokenId_access_fails hgen (by simpa using hne) t

end Manager

/-- **Neither token family stands in for the other**: at every instant, the access validation
rejects every minted refresh token and the refresh validation every minted access token,
whatever their timestamps. -/
theorem token_families_disjoint (m : JwtManager) (sigs later : List Signed)
    (identityId tenantId : Uuid) (t₀ : ℤ) (jti : Uuid) (token : String) (t : ℤ) :
    (∀ familyId freshFamily sigs', m.generateRefreshToken sigs identityId tenantId familyId t₀ jti
        freshFamily token = .ok (token, sigs') → token ∉ later.map (·.token) →
      ∃ msg, m.validateAccessToken (later ++ sigs') token t = .error (.tokenValidation msg)) ∧
    (∀ identityType sigs', m.generateAccessToken sigs identityId tenantId identityType t₀ jti
        token = .ok (token, sigs') → token ∉ later.map (·.token) →
      ∃ msg, m.validateRefreshToken (later ++ sigs') token t = .error (.tokenValidation msg)) :=
  ⟨fun _ _ _ hgen hlater => by
    rw [generateRefreshToken_eq hgen]
    exact validateAccessToken_of_checkAudience hlater (by simp [checkAudience_toJson_access]) t,
  fun _ _ hgen hlater => by
    rw [generateAccessToken_eq hgen]
    exact validateRefreshToken_of_checkAudience hlater
      (by simp [checkAudience_fieldsJson_refresh]) t⟩

/-! ### Tokens past their leeway -/

/-- The manager of the library's tests: their secret, access tokens for 15 minutes, refresh
tokens for 30 days. -/
def testManager : JwtManager :=
  ⟨"test-secret-key-for-jwt-signing-minimum-length-requirement", 900, 2592000, by decide⟩

/-- A refresh token and an access token, both minted at `1000` for identity `1` of tenant `2`,
each rejected by the other family's validation at `1000`. -/
theorem token_families_disjoint_at_test :
    (∃ msg, testManager.validateAccessToken ([] ++ [⟨"R", testManager.secret, Header.new "HS256",
        (RefreshTokenClaims.new ⟨1⟩ ⟨2⟩ 2592000 none 1000 ⟨3⟩ ⟨4⟩).toJson⟩]) "R" 1000 =
      .error (.tokenValidation msg)) ∧
    (∃ msg, testManager.validateRefreshToken ([] ++ [⟨"A", testManager.secret, Header.new "HS256",
        (JwtClaims.new ⟨1⟩ ⟨2⟩ "user" 900 1000 ⟨3⟩).fieldsJson⟩]) "A" 1000 =
      .error (.tokenValidation msg)) :=
  ⟨(token_families_disjoint testManager [] [] ⟨1⟩ ⟨2⟩ 1000 ⟨3⟩ "R" 1000).1 none ⟨4⟩ _ rfl
      (List.not_mem_nil _),
    (token_families_disjoint testManager [] [] ⟨1⟩ ⟨2⟩ 1000 ⟨3⟩ "A" 1000).2 "user" _ rfl
      (List.not_mem_nil _)⟩

/-- Minted at `1000` for 900 seconds, the token is reported at `2000`, past its `exp` and the
leeway, as undecodable rather than expired; and its id cannot be extracted. -/
theorem expired_access_token_undecodable :
    ∃ sigs, testManager.generateAccessToken [] ⟨1⟩ ⟨2⟩ "user" 1000 ⟨3⟩ "A" = .ok ("A", sigs) ∧
      testManager.validateAccessToken sigs "A" 2000 =
        .error (.tokenValidation "Failed to decode JWT: ExpiredSignature") ∧
      testManager.extractTokenId sigs "A" 1000 =
        .error (.tokenValidation "Failed to extract token ID: InvalidAudience") :=
  ⟨_, rfl, rfl, rfl⟩

/-- An access token minted at `1000` for 900 seconds reads back, at `1500`, as its claims. -/
theorem validateAccessToken_minted_at_test :
    ∃ sigs, testManager.generateAccessToken [] ⟨1⟩ ⟨2⟩ "user" 1000 ⟨3⟩ "A" = .ok ("A", sigs) ∧
      "A" ∉ ([] : List Signed).map (·.token) ∧ InRange 1000 ∧
      InRange (1000 + testManager.accessTokenExpiration) ∧
      testManager.validateAccessToken ([] ++ sigs) "A" 1500 =
        .ok { JwtClaims.new ⟨1⟩ ⟨2⟩ "user" 900 1000 ⟨3⟩ with custom := some (.object []) } := by
  have hl : "A" ∉ ([] : List Signed).map (·.token) := List.not_mem_nil _
  have hiat : InRange 1000 := ⟨by decide, by decide⟩
  have hexp : InRange (1000 + testManager.accessTokenExpiration) := ⟨by decide, by decide⟩
  refine ⟨_, generateAccessToken_ok .., hl, hiat, hexp, ?_⟩
  rw [validateAccessToken_minted (generateAccessToken_ok ..) hl hiat hexp 1500]
  rfl

/-- A refresh token minted at `1000` for 30 days reads back, at `1500`, as its claims. -/
theorem validateRefreshToken_minted_at_test :
    ∃ sigs, testManager.generateRefreshToken [] ⟨1⟩ ⟨2⟩ none 1000 ⟨3⟩ ⟨4⟩ "R" = .ok ("R", sigs) ∧
      "R" ∉ ([] : List Signed).map (·.token) ∧ InRange 1000 ∧
      InRange (1000 + testManager.refreshTokenExpiration) ∧
      testManager.validateRefreshToken ([] ++ sigs) "R" 1500 =
        .ok (RefreshTokenClaims.new ⟨1⟩ ⟨2⟩ 2592000 none 1000 ⟨3⟩ ⟨4⟩) := by
  have hl : "R" ∉ ([] : List Signed).map (·.token) := List.not_mem_nil _
  have hiat : InRange 1000 := ⟨by decide, by decide⟩
  have hexp : InRange (1000 + testManager.refreshTokenExpiration) := ⟨by decide, by decide⟩
  refine ⟨_, generateRefreshToken_ok .., hl, hiat, hexp, ?_⟩
  rw [validateRefreshToken_minted (generateRefreshToken_ok ..) hl hiat hexp 1500]
  rfl

end AgentIam.Jwt
