import AgentIam.Auth.Sessions
import AgentIam.Identity.Store

/-!
# Login (`api::auth::login`)

`login` over the state it reads and writes (`LoginState`): the texts signed so far, the
`identities` and the `sessions` tables. It runs in three parts:

* `authenticate`: the email and the password are present, the `SELECT` by email finds an
  identity, the identity is active and has a password hash, and `verify_password` (a
  parameter: Argon2 is not modelled) accepts the password;
* `issueTokens`: the manager of the loaded configuration signs an access and a refresh token
  for the identity and reads their ids back with `extract_token_id`;
* the two `INSERT`s into `sessions` and the `UPDATE` of `last_login_at`, each statement given
  its outcome, `some e` when it fails with `e`. They are not one transaction: a failure of a
  later statement keeps the earlier ones.

What `Uuid::new_v4()` and the table's default draw, and the texts the library hands back, are
the call's `LoginDraws`; the two texts differ, as the signings of two different claims sets do.

`extract_token_id` rejects every access token (`Jwt.extractTokenId_access_fails`), so
`issueTokens` never succeeds (`issueTokens_fails`), and `login` fails before its first write
whatever the state and the outcomes of the statements (`login_fails`).
-/

namespace AgentIam.Auth

open Jwt

/-- The state `login` reads and writes. -/
structure LoginState where
  sigs : List Signed
  identities : List Identities.Identity
  sessions : List Session

/-- What one call of `login` draws: the ids `Uuid::new_v4()` and the table's default produce,
and the texts of the two tokens, which differ. -/
structure LoginDraws where
  accessJti : Uuid
  refreshJti : Uuid
  freshFamily : Uuid
  accessSessionId : Uuid
  refreshSessionId : Uuid
  accessToken : String
  refreshToken : String
  tokens_ne : accessToken ≠ refreshToken

/-- The outcomes of `login`'s store statements: `some e` when one fails with `e`. -/
structure LoginOutcomes where
  select : Option String
  insertAccess : Option String
  insertRefresh : Option String
  update : Option String

/-- `TokenPair`, the fields `LoginResponse` copies. -/
structure TokenPair where
  accessToken : String
  refreshToken : String
  tokenType : String
  expiresIn : ℤ

/-- `TokenPair::new`. -/
def TokenPair.new (accessToken refreshToken : String) (expiresIn : ℤ) : TokenPair :=
  ⟨accessToken, refreshToken, "Bearer", expiresIn⟩

/-- `SET last_login_at = NOW()`. -/
def setLastLoginAt (now : ℤ) (i : Identities.Identity) : Identities.Identity :=
  { i with lastLoginAt := some now }

/-- The checks of `login` up to the password: the identity the email names. -/
def authenticate (verifyPassword : String → String → Except AppError Bool)
    (identities : List Identities.Identity) (email password : String) (select : Option String) :
    Except AppError Identities.Identity :=
  if email.isEmpty then .error (.validationError "Email is required")
  else if password.isEmpty then .error (.validationError "Password is required")
  else match select with
    | some e => .error (.database e)
    | none =>
      match identities.find? (·.email = some email) with
      | none => .error .invalidCredentials
      | some identity =>
        if identity.status ≠ "active" then .error .invalidCredentials
        else match identity.passwordHash with
          | none => .error .invalidCredentials
          | some passwordHash =>
            match verifyPassword password passwordHash with
            | .error e => .error e
            | .ok isValid => if !isValid then .error .invalidCredentials else .ok identity

/-- The tokens `login` issues, their ids, and the configuration that gives their lifetimes. -/
structure Issued where
  config : AuthConfig
  accessToken : String
  refreshToken : String
  accessTokenId : String
  refreshTokenId : String

/-- The tokens of `login` at `now`, and the signings after them. -/
def issueTokens (config : Except String AuthConfig) (secret : Option String) (sigs : List Signed)
    (identity : Identities.Identity) (now : ℤ) (draws : LoginDraws) :
    Except AppError Issued × List Signed :=
  match config with
  | .error _ => (.error (.internal "Configuration error"), sigs)
  | .ok config =>
    match JwtManager.new config secret with
    | .error e => (.error e, sigs)
    | .ok jwtManager =>
      match jwtManager.generateAccessToken sigs identity.id identity.tenantId
          identity.identityType now draws.accessJti draws.accessToken with
      | .error e => (.error e, sigs)
      | .ok (accessToken, sigs) =>
        match jwtManager.generateRefreshToken sigs identity.id identity.tenantId none now
            draws.refreshJti draws.freshFamily draws.refreshToken with
        | .error e => (.error e, sigs)
        | .ok (refreshToken, sigs) =>
          match jwtManager.extractTokenId sigs accessToken now,
              jwtManager.extractTokenId sigs refreshToken now with
          | .error e, _ => (.error e, sigs)
          | .ok _, .error e => (.error e, sigs)
          | .ok accessTokenId, .ok refreshTokenId =>
            (.ok ⟨config, accessToken, refreshToken, accessTokenId, refreshTokenId⟩, sigs)

/-- `login` at `now`: the response, and the state after it. -/
def login (verifyPassword : String → String → Except AppError Bool)
    (config : Except String AuthConfig) (secret : Option String) (st : LoginState)
    (email password : String) (now : ℤ) (draws : LoginDraws) (outcomes : LoginOutcomes) :
    Except AppError TokenPair × LoginState :=
  match authenticate verifyPassword st.identities email password outcomes.select with
  | .error e => (.error e, st)
  | .ok identity =>
    match issueTokens config secret st.sigs identity now draws with
    | (.error e, sigs) => (.error e, { st with sigs })
    | (.ok issued, sigs) =>
      let st := { st with sigs }
      let expiresIn := issued.config.jwtExpirationSeconds
      let refreshExpiresIn := issued.config.refreshTokenExpirationSeconds
      match outcomes.insertAccess with
      | some e => (.error (.database e), st)
      | none =>
        let st := { st with sessions := (create (fun _ => none) st.sessions draws.accessSessionId
          identity.id identity.tenantId issued.accessTokenId "jwt" (now + expiresIn) none none
          now).2 }
        match outcomes.insertRefresh with
        | some e => (.error (.database e), st)
        | none =>
          let st := { st with sessions := (create (fun _ => none) st.sessions
            draws.refreshSessionId identity.id identity.tenantId issued.refreshTokenId "refresh"
            (now + refreshExpiresIn) none none now).2 }
          match outcomes.update with
          | some e => (.error (.database e), st)
          | none =>
            (.ok (TokenPair.new issued.accessToken issued.refreshToken expiresIn),
              { st with identities :=
                Identities.updateWhere (·.id = identity.id) (setLastLoginAt now) st.identities })

/-! ### Login never writes -/

/-- `login` never obtains the ids of its tokens: the access token's is refused. -/
theorem issueTokens_fails (config : Except String AuthConfig) (secret : Option String)
    (sigs : List Signed) (identity : Identities.Identity) (now : ℤ) (draws : LoginDraws) :
    ∃ e, (issueTokens config secret sigs identity now draws).1 = .error e := by
  rcases config with _ | config
  · exact ⟨_, rfl⟩
  rcases hm : JwtManager.new config secret with _ | m
  · exact ⟨_, by simp only [issueTokens, hm]; rfl⟩
  obtain ⟨msg, hmsg⟩ := extractTokenId_access_after_refresh
    (generateAccessToken_ok m sigs identity.id identity.tenantId identity.identityType now
      draws.accessJti draws.accessToken)
    (generateRefreshToken_ok m _ identity.id identity.tenantId none now draws.refreshJti
      draws.freshFamily draws.refreshToken) draws.tokens_ne now
  exact ⟨_, by simp only [issueTokens, hm, generateAccessToken_ok, generateRefreshToken_ok, hmsg]; rfl⟩

section Login

variable (verifyPassword : String → String → Except AppError Bool)
  (config : Except String AuthConfig) (secret : Option String) (st : LoginState)
  (email password : String) (now : ℤ) (draws : LoginDraws) (outcomes : LoginOutcomes)

/-- **Login fails before its first write**: whatever the state, the draws and the outcomes of
its statements, `login` returns an error and leaves both tables as they were. -/
theorem login_fails :
    ∃ e, (login verifyPassword config secret st email password now draws outcomes).1 = .error e ∧
      (login verifyPassword config secret st email password now draws outcomes).2.sessions =
        st.sessions ∧
      (login verifyPassword config secret st email password now draws outcomes).2.identities =
        st.identities := by
  rcases hauth : authenticate verifyPassword st.identities email password outcomes.select
    with e | identity
  · have hl : login verifyPassword config secret st email password now draws outcomes =
        (.error e, st) := by simp only [login, hauth]
    exact hl ▸ ⟨e, rfl, rfl, rfl⟩
  obtain ⟨e, he⟩ := issueTokens_fails config secret st.sigs identity now draws
  rcases hissue : issueTokens config secret st.sigs identity now draws with ⟨result, sigs⟩
  obtain rfl : result = .error e := by rw [hissue] at he; exact he
  have hl : login verifyPassword config secret st email password now draws outcomes =
      (.error e, { st with sigs }) := by simp only [login, hauth, hissue]
  exact hl ▸ ⟨e, rfl, rfl, rfl⟩

/-- The `jti` claim a text was signed over. -/
def tokenJti (sigs : List Signed) (token : String) : Option String :=
  match (sigs.find? (·.token = token)).bind (·.claims.get? "jti") with
  | some (.string jti) => some jti
  | _ => none

/-- **Login is atomic**: it either succeeds, having added the two sessions of its tokens for
the identity of the email and set that identity's `last_login_at`, or fails and leaves both
tables as they were. -/
theorem login_atomic :
    ∃ result st', login verifyPassword config secret st email password now draws outcomes =
        (result, st') ∧
      ((∃ pair identity, result = .ok pair ∧
          st.identities.find? (·.email = some email) = some identity ∧
          (∃ access refresh, st'.sessions = refresh :: access :: st.sessions ∧
            access.identityId = identity.id ∧ refresh.identityId = identity.id ∧
            some access.tokenId = tokenJti st'.sigs pair.accessToken ∧
            some refresh.tokenId = tokenJti st'.sigs pair.refreshToken) ∧
          st'.identities =
            Identities.updateWhere (·.id = identity.id) (setLastLoginAt now) st.identities) ∨
        (∃ e, result = .error e ∧ st'.sessions = st.sessions ∧ st'.identities = st.identities)) :=
  ⟨_, _, rfl, .inr (login_fails verifyPassword config secret st email password now draws outcomes)⟩

end Login

end AgentIam.Auth
