import AgentIam.Auth.Jwt

/-!
# Logout and the revocation set

`api::auth::logout` and `redis/revocation.rs`, over the state they touch (`AuthState`): the
texts signed so far, the `sessions` table and the shared key-value store.

* The key-value store keeps each key with its value and the instant it expires (`setEx`,
  `keyExists`); `revokeToken` writes `revoked:{jti}` for the token's remaining lifetime.
* `logout` reads the bearer token of the `authorization` header, validates it as an access
  token (`bearerClaims`), marks its session revoked, and writes the revocation key; each store
  statement is given its outcome, `some e` when it fails with `e`. A failure after the
  `UPDATE` keeps the `UPDATE`.

Nothing reads the revocation set: `validate_access_token` is a function of the signatures
and the clock only, and `is_token_revoked` has no caller. So after a successful logout the
token keeps validating until it expires, and logging it out again succeeds
(`logout_leaves_token_valid`); the revocation key is there all that time.
-/

namespace AgentIam.Auth

open Jwt

/-- A row of `sessions` (`db::schema::Session`). -/
structure Session where
  id : Uuid
  identityId : Uuid
  tenantId : Uuid
  tokenId : String
  tokenType : String
  scope : Option JsonValue
  delegationChain : Option JsonValue
  createdAt : ℤ
  expiresAt : ℤ
  revokedAt : Option ℤ
  lastUsedAt : Option ℤ
  ipAddress : Option String
  userAgent : Option String
  metadata : JsonValue

/-- `UPDATE sessions SET revoked_at = NOW() WHERE token_id = $1 AND revoked_at IS NULL`. -/
def revokeUnrevoked (sessions : List Session) (tokenId : String) (now : ℤ) : List Session :=
  sessions.map fun s =>
    if s.tokenId = tokenId ∧ s.revokedAt = none then { s with revokedAt := some now } else s

/-! ### The key-value store -/

/-- A key of the shared key-value store, its value, and the instant it expires, if it does. -/
structure KvEntry where
  key : String
  value : String
  expiresAt : Option ℤ

/-- `SET key value EX ttl` at `now`. -/
def setEx (kv : List KvEntry) (key value : String) (ttl now : ℤ) : List KvEntry :=
  ⟨key, value, some (now + ttl)⟩ :: kv.filter (·.key ≠ key)

/-- `EXISTS key` at `now`: the key is set and has not expired. -/
def keyExists (kv : List KvEntry) (key : String) (now : ℤ) : Bool :=
  kv.any fun e => e.key = key && e.expiresAt.all (now < ·)

/-- `REVOCATION_PREFIX`. -/
def revocationPrefix : String := "revoked:"

/-- `revoke_token`, `outcome` being the store's error if the command fails. -/
def revokeToken (kv : List KvEntry) (tokenId : String) (ttlSeconds now : ℤ)
    (outcome : Option String) : Except AppError (List KvEntry) :=
  match outcome with
  | some e => .error (.redis e)
  | none => .ok (setEx kv (revocationPrefix ++ tokenId) "1" ttlSeconds now)

/-- `is_token_revoked`. -/
def isTokenRevoked (kv : List KvEntry) (tokenId : String) (now : ℤ) (outcome : Option String) :
    Except AppError Bool :=
  match outcome with
  | some e => .error (.redis e)
  | none => .ok (keyExists kv (revocationPrefix ++ tokenId) now)

/-- `unrevoke_token`. -/
def unrevokeToken (kv : List KvEntry) (tokenId : String) (outcome : Option String) :
    Except AppError (List KvEntry) :=
  match outcome with
  | some e => .error (.redis e)
  | none => .ok (kv.filter (·.key ≠ revocationPrefix ++ tokenId))

/-- A key written by `SET EX` is there until its time-to-live has passed. -/
theorem keyExists_setEx (kv : List KvEntry) (key value : String) (ttl now t : ℤ)
    (ht : t < now + ttl) : keyExists (setEx kv key value ttl now) key t = true := by
  simp [keyExists, setEx, ht]

/-! ### Logout -/

/-- The state `logout` reads and writes. -/
structure AuthState where
  sigs : List Signed
  sessions : List Session
  kv : List KvEntry

/-- `LogoutResponse`. -/
structure LogoutResponse where
  message : String

/-- The part of `logout` before it writes: the bearer token of the `authorization` header (if
it is there and is text), validated as an access token by a manager built from the loaded
configuration and the secret. -/
def bearerClaims (config : Except String AuthConfig) (secret : Option String)
    (authorization : Option String) (sigs : List Signed) (now : ℤ) : Except AppError JwtClaims :=
  match authorization with
  | none => .error .unauthorized
  | some authHeader =>
    if !"Bearer ".data.isPrefixOf authHeader.data then .error .unauthorized
    else
      let token := String.mk (authHeader.data.drop 7)
      match config with
      | .error _ => .error (.internal "Configuration error")
      | .ok config => do
        let jwtManager ← JwtManager.new config secret
        jwtManager.validateAccessToken sigs token now

/-- `logout` at `now`: the response, and the state after it. `dbOutcome` and `redisOutcome` are
the outcomes of the `UPDATE` and of `SET EX`. -/
def logout (config : Except String AuthConfig) (secret : Option String)
    (authorization : Option String) (st : AuthState) (now : ℤ)
    (dbOutcome redisOutcome : Option String) : Except AppError LogoutResponse × AuthState :=
  match bearerClaims config secret authorization st.sigs now with
  | .error e => (.error e, st)
  | .ok claims =>
    match dbOutcome with
    | some e => (.error (.database e), st)
    | none =>
      let st := { st with sessions := revokeUnrevoked st.sessions claims.jti now }
      let ttlSeconds := max (claims.exp - now) 0
      if ttlSeconds > 0 then
        match revokeToken st.kv claims.jti ttlSeconds now redisOutcome with
        | .error e => (.error e, st)
        | .ok kv => (.ok ⟨"Successfully logged out"⟩, { st with kv })
      else (.ok ⟨"Successfully logged out"⟩, st)

/-- The header `Bearer T` carries the token `T`. -/
theorem bearerClaims_bearer (config : AuthConfig) (secret : Option String) (token : String)
    (sigs : List Signed) (now : ℤ) :
    bearerClaims (.ok config) secret (some ("Bearer " ++ token)) sigs now =
      (JwtManager.new config secret >>= fun m => m.validateAccessToken sigs token now) := by
  have hdata : ("Bearer " ++ token).data = "Bearer ".data ++ token.data := rfl
  have hpre : "Bearer ".data.isPrefixOf ("Bearer " ++ token).data = true := by
    rw [hdata, List.isPrefixOf_iff_prefix]
    exact List.prefix_append _ _
  have hdrop : String.mk (("Bearer " ++ token).data.drop 7) = token := by
    rw [hdata]
    exact congrArg String.mk (List.drop_left' rfl)
  simp only [bearerClaims, hpre, Bool.not_true, hdrop]
  rfl

/-- A bearer token accepted once is accepted at every instant before its expiry. -/
theorem bearerClaims_later {config : AuthConfig} {secret : Option String} {token : String}
    {sigs : List Signed} {t₀ : ℤ} {c : JwtClaims}
    (h : bearerClaims (.ok config) secret (some ("Bearer " ++ token)) sigs t₀ = .ok c) :
    ∃ m, JwtManager.new config secret = .ok m ∧ m.validateAccessToken sigs token t₀ = .ok c ∧
      ∀ t < c.exp,
        bearerClaims (.ok config) secret (some ("Bearer " ++ token)) sigs t = .ok c := by
  rw [bearerClaims_bearer, except_bind_eq_ok] at h
  obtain ⟨m, hm, hv⟩ := h
  refine ⟨m, hm, hv, fun t ht => ?_⟩
  rw [bearerClaims_bearer, hm]
  exact validateAccessToken_later hv ht

/-- **Logout does not revoke.** Once a logout of `Bearer T` has succeeded at `t₀`, with the
token's validated claims `c`: at every instant `t < c.exp`, validating `T` as an access token
still returns `c`, logging `T` out again succeeds when its store statements do, and the key
`revoked:{c.jti}` is present. -/
theorem logout_leaves_token_valid {config : AuthConfig} {secret : Option String} {token : String}
    {st : AuthState} {t₀ : ℤ} {r : LogoutResponse}
    (h : (logout (.ok config) secret (some ("Bearer " ++ token)) st t₀ none none).1 = .ok r) :
    ∃ m c, JwtManager.new config secret = .ok m ∧
      m.validateAccessToken st.sigs token t₀ = .ok c ∧
      ∀ t < c.exp,
        m.validateAccessToken
          (logout (.ok config) secret (some ("Bearer " ++ token)) st t₀ none none).2.sigs
            token t = .ok c ∧
        (logout (.ok config) secret (some ("Bearer " ++ token))
          (logout (.ok config) secret (some ("Bearer " ++ token)) st t₀ none none).2 t
            none none).1 = .ok ⟨"Successfully logged out"⟩ ∧
        keyExists (logout (.ok config) secret (some ("Bearer " ++ token)) st t₀ none none).2.kv
          (revocationPrefix ++ c.jti) t = true := by
  unfold logout at h ⊢
  split at h
  · cases h
  rename_i c hc
  obtain ⟨m, hm, hv, hlater⟩ := bearerClaims_later hc
  have hpos : max (c.exp - t₀) 0 > 0 := by
    have := validateAccessToken_lt_exp hv
    omega
  refine ⟨m, c, hm, hv, fun t ht => ⟨?_, ?_, ?_⟩⟩
  · simp only [hc, hpos, if_true, revokeToken]
    exact validateAccessToken_later hv ht
  · simp only [hc, hpos, if_true, revokeToken, hlater t ht]
    rw [if_pos (by omega)]
  · simp only [hc, hpos, if_true, revokeToken]
    exact keyExists_setEx _ _ _ _ _ _ (by omega)

/-! ### A token that outlives its logout -/

/-- A secret of 32 bytes. -/
def demoSecret : String := "0123456789abcdef0123456789abcdef"

/-- Access tokens for 15 minutes, refresh tokens for 30 days. -/
def demoConfig : AuthConfig := ⟨900, 2592000⟩

/-- The manager `JwtManager::new` builds from `demoConfig` and `demoSecret`. -/
def demoManager : JwtManager := ⟨demoSecret, 900, 2592000, by decide⟩

/-- The signings after `demoManager` mints the token `T` for identity `1` of tenant `2` at
instant `1000`, with `jti` the id `3`. -/
def demoSigs : List Signed :=
  [⟨"T", demoSecret, Header.new "HS256",
    .object [("sub", .string (Uuid.hyphenated ⟨1⟩)), ("tenant_id", .string (Uuid.hyphenated ⟨2⟩)),
      ("identity_type", .string "user"), ("iat", .number 1000), ("exp", .number 1900),
      ("jti", .string (Uuid.hyphenated ⟨3⟩)), ("iss", .string "agent-iam"),
      ("aud", .array [.string "agent-iam-api"])]⟩]

/-- The state after logging `T` out at `1000`. -/
def demoLoggedOut : AuthState :=
  (logout (.ok demoConfig) (some demoSecret) (some "Bearer T") ⟨demoSigs, [], []⟩ 1000 none none).2

/-- A token minted at `1000` for 900 seconds and logged out at `1000` still validates at
`1500`, with the claims it was minted with, and logging it out again at `1500` succeeds. -/
theorem revoked_token_still_valid :
    JwtManager.new demoConfig (some demoSecret) = .ok demoManager ∧
    demoManager.generateAccessToken [] ⟨1⟩ ⟨2⟩ "user" 1000 ⟨3⟩ "T" = .ok ("T", demoSigs) ∧
    (logout (.ok demoConfig) (some demoSecret) (some "Bearer T") ⟨demoSigs, [], []⟩ 1000
      none none).1 = .ok ⟨"Successfully logged out"⟩ ∧
    demoManager.validateAccessToken demoLoggedOut.sigs "T" 1500 =
      .ok { JwtClaims.new ⟨1⟩ ⟨2⟩ "user" 900 1000 ⟨3⟩ with custom := some (.object []) } ∧
    (logout (.ok demoConfig) (some demoSecret) (some "Bearer T") demoLoggedOut 1500
      none none).1 = .ok ⟨"Successfully logged out"⟩ :=
  ⟨rfl, rfl, rfl, rfl, rfl⟩

end AgentIam.Auth
