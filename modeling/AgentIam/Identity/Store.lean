import AgentIam.Identity.Queries
import Mathlib.Logic.Relation

/-!
# Creating and updating identities

The operations of `domain/identity.rs` that change the `identities` table, each a function of
the table as it is before the statement runs:

* `IdentityBuilder.build`: `validate`, then the parent's existence and tenant
  (`checkParent`), then `createIdentity`, the `INSERT` with status `active`;
* `provisionAgent`: the checks on the parent, the depth limit computed by
  `calculateDelegationDepth`, the TTL bounds and the clamp of the expiry to the parent's
  (`clampExpiry`), then `build` of an agent builder;
* `updateIdentityStatus`, `updateLastLogin` and `deleteExpiredAgents`, the three `UPDATE`s, each
  `updateWhere` of a filter and of a change to the status and the timestamps only.

`Step admits` is one successful call, `build` restricted to the builders `admits` holds of (any
builder, or those a caller is allowed to pass); an insert receives an id no row has, which is
what the table's random default gives. A failed call leaves the table as it was, so it is not a
step. `step_cases` says once what a step can do: insert a row that passes `checkParent`, or
change rows without touching the columns the parent links read (`KeepsLinks`).
`rows_valid`: every row of a reachable table is one `validate` and the status check allow
(`RowValid`).
-/

namespace AgentIam.Identities

/-! ### The builder -/

/-- `IdentityBuilder`. -/
structure IdentityBuilder where
  tenantId : Uuid
  identityType : IdentityType
  name : String
  email : Option String
  parentIdentityId : Option Uuid
  taskId : Option String
  taskScope : Option JsonValue
  expiresAt : Option ℤ
  metadata : JsonValue

/-- `IdentityBuilder::new`; the setters are record updates of it. -/
def IdentityBuilder.new (tenantId : Uuid) (identityType : IdentityType) (name : String) :
    IdentityBuilder :=
  ⟨tenantId, identityType, name, none, none, none, none, none, .object []⟩

/-- `char::is_whitespace`: the characters of Unicode's White_Space property. -/
def isWhitespace (c : Char) : Bool :=
  let n := c.toNat
  (9 ≤ n && n ≤ 13) || n = 32 || n = 0x85 || n = 0xA0 || n = 0x1680 ||
    (0x2000 ≤ n && n ≤ 0x200A) || n = 0x2028 || n = 0x2029 || n = 0x202F || n = 0x205F ||
    n = 0x3000

/-- `IdentityBuilder::validate`. `email.len()` counts UTF-8 bytes, and `name.trim().is_empty()`
holds when every character of the name is white space. -/
def IdentityBuilder.validate (b : IdentityBuilder) : Except AppError Unit :=
  if b.identityType = .user ∧ b.email = none then
    .error (.validationError "Users must have an email address")
  else if b.identityType = .agent ∧ b.parentIdentityId = none then
    .error (.validationError "Agents must have a parent identity")
  else if b.email.any fun email => !email.data.contains '@' || email.utf8ByteSize < 3 then
    .error (.validationError "Invalid email format")
  else if b.name.data.all isWhitespace then
    .error (.validationError "Identity name cannot be empty")
  else .ok ()

/-- `create_identity`: the row the `INSERT` writes and returns. The columns it does not set take
the table's defaults (the schema is not part of the sources): `password_hash`, `api_key_hash`
and `last_login_at` are null, `created_at` and `updated_at` are `NOW()`. -/
def createIdentity (b : IdentityBuilder) (id : Uuid) (now : ℤ) : Identity where
  id := id
  tenantId := b.tenantId
  identityType := b.identityType.asStr
  name := b.name
  email := b.email
  status := "active"
  parentIdentityId := b.parentIdentityId
  taskId := b.taskId
  taskScope := b.taskScope
  expiresAt := b.expiresAt
  passwordHash := none
  apiKeyHash := none
  metadata := b.metadata
  createdAt := now
  updatedAt := now
  lastLoginAt := none

/-- The parent check of `IdentityBuilder::build`: a named parent exists and is in the
builder's tenant. -/
def IdentityBuilder.checkParent (s : List Identity) (b : IdentityBuilder) :
    Except AppError Unit :=
  match b.parentIdentityId with
  | none => .ok ()
  | some parentId => do
    let parent ← getIdentityById s parentId
    if parent.tenantId ≠ b.tenantId then
      throw (.validationError "Parent identity must be in same tenant")
    else pure ()

/-- `IdentityBuilder::build`, on the table `s`, the insert receiving the id `id`. -/
def IdentityBuilder.build (s : List Identity) (b : IdentityBuilder) (id : Uuid) (now : ℤ) :
    Except AppError Identity := do
  b.validate
  b.checkParent s
  pure (createIdentity b id now)

/-! ### Provisioning an agent -/

/-- `AgentProvisionRequest`. -/
structure AgentProvisionRequest where
  parentIdentityId : Uuid
  taskId : String
  taskScope : JsonValue
  name : String
  ttlSeconds : Option ℤ
  metadata : Option JsonValue

/-- `AgentProvisionResult`. The depth is at most 101, so the `i32` never overflows. -/
structure AgentProvisionResult where
  agentIdentity : Identity
  delegationDepth : ℕ

/-- `MAX_DELEGATION_DEPTH`. -/
def maxDelegationDepth : ℕ := 10

/-- `MIN_TTL_SECONDS`. -/
def minTtlSeconds : ℤ := 60

/-- `MAX_TTL_SECONDS`. -/
def maxTtlSeconds : ℤ := 86400

/-- The expiry of a provisioned agent: `expires_at`, unless the parent expires earlier. -/
def clampExpiry (expiresAt : ℤ) : Option ℤ → ℤ
  | some parentExpires => if expiresAt > parentExpires then parentExpires else expiresAt
  | none => expiresAt

/-- The metadata of a provisioned agent whose request has none (`json!` keeps keys sorted). -/
def jitMetadata (delegationDepth : ℕ) : JsonValue :=
  .object [("delegation_depth", .number (delegationDepth + 1)), ("provisioned_via", .string "jit")]

/-- The builder `provision_agent` builds. -/
def agentBuilder (tenantId : Uuid) (request : AgentProvisionRequest) (expiresAt : ℤ)
    (metadata : JsonValue) : IdentityBuilder :=
  { IdentityBuilder.new tenantId .agent request.name with
    parentIdentityId := some request.parentIdentityId
    taskId := some request.taskId
    taskScope := some request.taskScope
    expiresAt := some expiresAt
    metadata := metadata }

/-- `provision_agent`, at the instant `now` of `Utc::now()`. -/
def provisionAgent (s : List Identity) (tenantId : Uuid) (request : AgentProvisionRequest)
    (id : Uuid) (now : ℤ) : Except AppError AgentProvisionResult := do
  let parent ← getIdentityById s request.parentIdentityId
  if parent.tenantId ≠ tenantId then
    throw (.validationError "Parent identity must be in same tenant")
  else if parent.status ≠ "active" then
    throw (.validationError "Parent identity is not active")
  else
    let delegationDepth := calculateDelegationDepth s parent.id
    if delegationDepth ≥ maxDelegationDepth then
      throw (.validationError
        ("Maximum delegation depth of " ++ toString maxDelegationDepth ++ " exceeded"))
    else
      let ttlSeconds := request.ttlSeconds.getD 3600
      if ttlSeconds < minTtlSeconds ∨ ttlSeconds > maxTtlSeconds then
        throw (.validationError ("TTL must be between " ++ toString minTtlSeconds ++ " and " ++
          toString maxTtlSeconds ++ " seconds"))
      else
        let expiresAt := clampExpiry (now + ttlSeconds) parent.expiresAt
        let metadata := request.metadata.getD (jitMetadata delegationDepth)
        let agentIdentity ← (agentBuilder tenantId request expiresAt metadata).build s id now
        pure ⟨agentIdentity, delegationDepth + 1⟩

/-! ### Updates -/

/-- `UPDATE identities SET ... WHERE ...`: `set` applied to the rows `cond` holds of. -/
def updateWhere (cond : Identity → Prop) [DecidablePred cond] (set : Identity → Identity)
    (s : List Identity) : List Identity :=
  s.map fun i => if cond i then set i else i

/-- `SET status = $2, updated_at = NOW()`. -/
def setStatus (status : String) (now : ℤ) (i : Identity) : Identity :=
  { i with status, updatedAt := now }

/-- `update_identity_status`: the updated row, and the table after the update. -/
def updateIdentityStatus (s : List Identity) (identityId : Uuid) (status : String) (now : ℤ) :
    Except AppError (Identity × List Identity) :=
  if status ∉ ["active", "suspended", "deleted"] then
    .error (.validationError "Invalid status value")
  else
    let s' := updateWhere (·.id = identityId) (setStatus status now) s
    match lookup s' identityId with
    | some i => .ok (i, s')
    | none => .error .identityNotFound

/-- `SET last_login_at = NOW(), updated_at = NOW()`. -/
def setLastLogin (now : ℤ) (i : Identity) : Identity :=
  { i with lastLoginAt := some now, updatedAt := now }

/-- `domain::identity::update_last_login`. -/
def updateLastLogin (s : List Identity) (identityId : Uuid) (now : ℤ) : List Identity :=
  updateWhere (·.id = identityId) (setLastLogin now) s

/-- The rows `delete_expired_agents` marks: active agents whose expiry has passed. -/
def ExpiredAgent (now : ℤ) (i : Identity) : Prop :=
  i.identityType = "agent" ∧ i.status = "active" ∧ ∃ e ∈ i.expiresAt, e < now

instance (now : ℤ) : DecidablePred (ExpiredAgent now) := fun i => by
  unfold ExpiredAgent; infer_instance

/-- `delete_expired_agents`: the number of rows affected, and the table after the update. -/
def deleteExpiredAgents (s : List Identity) (now : ℤ) : ℕ × List Identity :=
  (s.countP (ExpiredAgent now ·), updateWhere (ExpiredAgent now) (setStatus "deleted" now) s)

/-- A change to rows that keeps every column the parent links and the delegation bounds read. -/
structure KeepsLinks (g : Identity → Identity) : Prop where
  id : ∀ i, (g i).id = i.id
  tenantId : ∀ i, (g i).tenantId = i.tenantId
  parentIdentityId : ∀ i, (g i).parentIdentityId = i.parentIdentityId
  expiresAt : ∀ i, (g i).expiresAt = i.expiresAt

theorem keepsLinks_update {cond : Identity → Prop} [DecidablePred cond]
    {set : Identity → Identity} (h : KeepsLinks set) :
    KeepsLinks fun i => if cond i then set i else i where
  id i := by split; exacts [h.id i, rfl]
  tenantId i := by split; exacts [h.tenantId i, rfl]
  parentIdentityId i := by split; exacts [h.parentIdentityId i, rfl]
  expiresAt i := by split; exacts [h.expiresAt i, rfl]

theorem keepsLinks_setStatus (status : String) (now : ℤ) : KeepsLinks (setStatus status now) :=
  ⟨fun _ => rfl, fun _ => rfl, fun _ => rfl, fun _ => rfl⟩

theorem keepsLinks_setLastLogin (now : ℤ) : KeepsLinks (setLastLogin now) :=
  ⟨fun _ => rfl, fun _ => rfl, fun _ => rfl, fun _ => rfl⟩

/-- A row whose parent, if it names one, is a row of the table in the same tenant. -/
def ParentInTable (s : List Identity) (i : Identity) : Prop :=
  ∀ p, i.parentIdentityId = some p → ∃ q ∈ s, q.id = p ∧ q.tenantId = i.tenantId

/-! ### Steps -/

/-- One successful call of an operation that writes the table, `build` restricted to the
builders `admits` holds of; inserts receive an id no row has. -/
inductive Step (admits : IdentityBuilder → Prop) (s : List Identity) : List Identity → Prop
  | build (b : IdentityBuilder) (id : Uuid) (now : ℤ) (i : Identity) :
      admits b → id ∉ s.map (·.id) → b.build s id now = .ok i → Step admits s (i :: s)
  | provisionAgent (tenantId : Uuid) (request : AgentProvisionRequest) (id : Uuid) (now : ℤ)
      (r : AgentProvisionResult) :
      id ∉ s.map (·.id) → provisionAgent s tenantId request id now = .ok r →
        Step admits s (r.agentIdentity :: s)
  | updateIdentityStatus (identityId : Uuid) (status : String) (now : ℤ)
      (r : Identity × List Identity) :
      updateIdentityStatus s identityId status now = .ok r → Step admits s r.2
  | updateLastLogin (identityId : Uuid) (now : ℤ) :
      Step admits s (updateLastLogin s identityId now)
  | deleteExpiredAgents (now : ℤ) : Step admits s (deleteExpiredAgents s now).2

/-- The tables reachable from the empty one. -/
def Reachable (admits : IdentityBuilder → Prop) : List Identity → Prop :=
  Relation.ReflTransGen (Step admits) []

/-! ### What each operation does -/

theorem checkParent_eq_ok {s : List Identity} {b : IdentityBuilder} :
    b.checkParent s = .ok () ↔
      ∀ p, b.parentIdentityId = some p →
        ∃ q, lookup s p = some q ∧ q.tenantId = b.tenantId := by
  unfold IdentityBuilder.checkParent
  split
  · simp_all
  · rename_i p hp
    simp only [hp, getIdentityById, Option.some.injEq, forall_eq']
    split <;> simp_all [pure, Except.pure, throw, throwThe, MonadExceptOf.throw]

/-- **What `build` checks**: it succeeds exactly when the builder is valid and its parent, if
any, exists in its tenant; the row is then `createIdentity`'s. -/
theorem build_eq_ok {s : List Identity} {b : IdentityBuilder} {id : Uuid} {now : ℤ}
    {i : Identity} :
    b.build s id now = .ok i ↔
      b.validate = .ok () ∧ b.checkParent s = .ok () ∧ i = createIdentity b id now := by
  simp only [IdentityBuilder.build, except_bind_eq_ok]
  constructor
  · rintro ⟨⟨⟩, hv, ⟨⟩, hp, h⟩
    exact ⟨hv, hp, (Except.ok.inj h).symm⟩
  · rintro ⟨hv, hp, rfl⟩
    exact ⟨(), hv, (), hp, rfl⟩

/-- `lookup` finds a row of the table with the id it is asked for. -/
theorem lookup_eq_some {s : List Identity} {id : Uuid} {i : Identity} (h : lookup s id = some i) :
    i ∈ s ∧ i.id = id := by
  exact ⟨List.mem_of_find?_eq_some h, by simpa using List.find?_some h⟩

/-- The agent builder passes `validate` exactly when the name is not blank: it has a parent and
no email. -/
theorem validate_agentBuilder (tenantId : Uuid) (request : AgentProvisionRequest)
    (expiresAt : ℤ) (metadata : JsonValue) :
    (agentBuilder tenantId request expiresAt metadata).validate = .ok () ↔
      ¬ request.name.data.all isWhitespace := by
  simp [IdentityBuilder.validate, agentBuilder, IdentityBuilder.new]

section Provision

variable {s : List Identity} {tenantId : Uuid} {request : AgentProvisionRequest} {id : Uuid}
  {now : ℤ} {r : AgentProvisionResult}

/-- **When `provision_agent` succeeds, and what it inserts**: exactly when the parent exists,
is in the tenant and is active, its depth is below 10, the TTL is within bounds and the name
is not blank; the row is the agent built under that parent, expiring when the TTL or the parent
ends, whichever is first. -/
theorem provisionAgent_eq_ok_iff :
    provisionAgent s tenantId request id now = .ok r ↔
      ∃ parent, lookup s request.parentIdentityId = some parent ∧ parent.tenantId = tenantId ∧
        parent.status = "active" ∧ calculateDelegationDepth s parent.id < maxDelegationDepth ∧
        minTtlSeconds ≤ request.ttlSeconds.getD 3600 ∧
        request.ttlSeconds.getD 3600 ≤ maxTtlSeconds ∧ ¬ request.name.data.all isWhitespace ∧
        r = ⟨createIdentity (agentBuilder tenantId request
          (clampExpiry (now + request.ttlSeconds.getD 3600) parent.expiresAt)
          (request.metadata.getD (jitMetadata (calculateDelegationDepth s parent.id)))) id now,
          calculateDelegationDepth s parent.id + 1⟩ := by
  constructor
  · intro h
    simp only [provisionAgent, except_bind_eq_ok, getIdentityById] at h
    obtain ⟨parent, hp, h⟩ := h
    split at hp <;> cases hp
    rename_i hl
    split_ifs at h with h1 h2 h3 h4
    obtain ⟨i, hb, hr⟩ := except_bind_eq_ok.1 h
    obtain ⟨hv, -, rfl⟩ := build_eq_ok.1 hb
    exact ⟨parent, hl, not_not.1 h1, not_not.1 h2, by omega, by omega, by omega,
      (validate_agentBuilder ..).1 hv, (Except.ok.inj hr).symm⟩
  · rintro ⟨parent, hl, ht, ha, hd, h1, h2, hn, rfl⟩
    have hd' : ¬ calculateDelegationDepth s parent.id ≥ maxDelegationDepth := by omega
    have ht' : ¬ (request.ttlSeconds.getD 3600 < minTtlSeconds ∨
      request.ttlSeconds.getD 3600 > maxTtlSeconds) := by omega
    unfold provisionAgent getIdentityById
    rw [hl]
    refine except_bind_eq_ok.2 ⟨parent, rfl, ?_⟩
    simp only [ht, ha, hd', ht', ne_eq, not_true_eq_false, if_false]
    refine except_bind_eq_ok.2 ⟨_, build_eq_ok.2 ⟨(validate_agentBuilder ..).2 hn,
      checkParent_eq_ok.2 ?_, rfl⟩, rfl⟩
    simp [agentBuilder, IdentityBuilder.new, hl, ht]

/-- What `provision_agent` checks and inserts, the direction callers use. -/
theorem provisionAgent_eq_ok (h : provisionAgent s tenantId request id now = .ok r) :
    ∃ parent, lookup s request.parentIdentityId = some parent ∧ parent.tenantId = tenantId ∧
      parent.status = "active" ∧ calculateDelegationDepth s parent.id < maxDelegationDepth ∧
      minTtlSeconds ≤ request.ttlSeconds.getD 3600 ∧
      request.ttlSeconds.getD 3600 ≤ maxTtlSeconds ∧
      r = ⟨createIdentity (agentBuilder tenantId request
        (clampExpiry (now + request.ttlSeconds.getD 3600) parent.expiresAt)
        (request.metadata.getD (jitMetadata (calculateDelegationDepth s parent.id)))) id now,
        calculateDelegationDepth s parent.id + 1⟩ :=
  let ⟨parent, hl, ht, ha, hd, h1, h2, _, hr⟩ := provisionAgent_eq_ok_iff.1 h
  ⟨parent, hl, ht, ha, hd, h1, h2, hr⟩

end Provision

/-- The table after a call of `provision_agent`. Its one write is the `INSERT` of
`create_identity`, the last statement of `build`: every check before it only reads, so the
table gains the built row when the call succeeds and is as it was when it fails. -/
def provisionAgentTable (s : List Identity) (tenantId : Uuid) (request : AgentProvisionRequest)
    (id : Uuid) (now : ℤ) : List Identity :=
  match provisionAgent s tenantId request id now with
  | .ok r => r.agentIdentity :: s
  | .error _ => s

/-- A row `build` inserts has the id it receives and passes the parent check. -/
theorem build_inserts {s : List Identity} {b : IdentityBuilder} {id : Uuid} {now : ℤ}
    {i : Identity} (h : b.build s id now = .ok i) : i.id = id ∧ ParentInTable s i := by
  obtain ⟨-, hp, rfl⟩ := build_eq_ok.1 h
  refine ⟨rfl, fun p hpar => ?_⟩
  obtain ⟨q, hq, ht⟩ := checkParent_eq_ok.1 hp p hpar
  exact ⟨q, (lookup_eq_some hq).1, (lookup_eq_some hq).2, ht⟩

/-- A row `provision_agent` inserts has the id it receives and passes the parent check. -/
theorem provisionAgent_inserts {s : List Identity} {tenantId : Uuid}
    {request : AgentProvisionRequest} {id : Uuid} {now : ℤ} {r : AgentProvisionResult}
    (h : provisionAgent s tenantId request id now = .ok r) :
    r.agentIdentity.id = id ∧ ParentInTable s r.agentIdentity := by
  obtain ⟨parent, hl, ht, -, -, -, -, rfl⟩ := provisionAgent_eq_ok h
  refine ⟨rfl, fun p hp => ?_⟩
  cases hp
  exact ⟨parent, (lookup_eq_some hl).1, (lookup_eq_some hl).2, ht⟩

theorem updateIdentityStatus_eq_ok {s : List Identity} {identityId : Uuid} {status : String}
    {now : ℤ} {r : Identity × List Identity}
    (h : updateIdentityStatus s identityId status now = .ok r) :
    r.2 = updateWhere (·.id = identityId) (setStatus status now) s := by
  unfold updateIdentityStatus at h
  split_ifs at h
  dsimp only at h
  split at h <;> cases h
  rfl

/-! ### What a step can do -/

section Steps

variable {admits : IdentityBuilder → Prop} {s s' : List Identity}

/-- **What a step can do**: insert a row with a fresh id that passes the parent check, or change
rows without touching the columns the parent links read. -/
theorem step_cases (h : Step admits s s') :
    (∃ i, i.id ∉ s.map (·.id) ∧ ParentInTable s i ∧ s' = i :: s) ∨
      ∃ g, KeepsLinks g ∧ s' = s.map g := by
  cases h with
  | build b id now i _ hid hb =>
    obtain ⟨rfl, hp⟩ := build_inserts hb
    exact .inl ⟨i, hid, hp, rfl⟩
  | provisionAgent tenantId request id now r hid hr =>
    obtain ⟨hi, hp⟩ := provisionAgent_inserts hr
    exact .inl ⟨_, hi ▸ hid, hp, rfl⟩
  | updateIdentityStatus identityId status now r hr =>
    exact .inr ⟨_, keepsLinks_update (keepsLinks_setStatus status now),
      updateIdentityStatus_eq_ok hr⟩
  | updateLastLogin identityId now =>
    exact .inr ⟨_, keepsLinks_update (keepsLinks_setLastLogin now), rfl⟩
  | deleteExpiredAgents now =>
    exact .inr ⟨_, keepsLinks_update (keepsLinks_setStatus "deleted" now), rfl⟩

end Steps

/-! ### Valid rows -/

/-- A row as `IdentityBuilder::validate` and the status check leave it: a known type and status,
an email on every user and a parent on every agent, every email with an `@` and at least three
bytes, and a name that is not blank. -/
structure RowValid (i : Identity) : Prop where
  identityType : i.identityType ∈ ["user", "service", "agent"]
  status : i.status ∈ ["active", "suspended", "deleted"]
  userEmail : i.identityType = "user" → i.email ≠ none
  agentParent : i.identityType = "agent" → i.parentIdentityId ≠ none
  email : ∀ e ∈ i.email, '@' ∈ e.data ∧ 3 ≤ e.utf8ByteSize
  name : ¬ i.name.data.all isWhitespace = true

theorem IdentityType.asStr_mem (t : IdentityType) : t.asStr ∈ ["user", "service", "agent"] := by
  cases t <;> decide

theorem IdentityType.asStr_eq_user {t : IdentityType} : t.asStr = "user" ↔ t = .user := by
  cases t <;> decide

theorem IdentityType.asStr_eq_agent {t : IdentityType} : t.asStr = "agent" ↔ t = .agent := by
  cases t <;> decide

/-- The row `create_identity` writes for a builder that passes `validate` is valid. -/
theorem rowValid_createIdentity {b : IdentityBuilder} (h : b.validate = .ok ()) (id : Uuid)
    (now : ℤ) : RowValid (createIdentity b id now) := by
  unfold IdentityBuilder.validate at h
  split_ifs at h with huser hagent hemail hname
  refine ⟨b.identityType.asStr_mem, List.mem_cons_self _ _, fun ht => ?_, fun ht => ?_,
    fun e he => ?_, hname⟩
  · exact fun hn => huser ⟨IdentityType.asStr_eq_user.1 ht, hn⟩
  · exact fun hn => hagent ⟨IdentityType.asStr_eq_agent.1 ht, hn⟩
  · simp only [createIdentity, Option.mem_def] at he
    simpa [he] using hemail

theorem RowValid.setStatus {i : Identity} (h : RowValid i) {status : String}
    (hs : status ∈ ["active", "suspended", "deleted"]) (now : ℤ) :
    RowValid (setStatus status now i) :=
  ⟨h.identityType, hs, h.userEmail, h.agentParent, h.email, h.name⟩

theorem RowValid.setLastLogin {i : Identity} (h : RowValid i) (now : ℤ) :
    RowValid (setLastLogin now i) :=
  ⟨h.identityType, h.status, h.userEmail, h.agentParent, h.email, h.name⟩

theorem rowValid_updateWhere {cond : Identity → Prop} [DecidablePred cond]
    {set : Identity → Identity} (hset : ∀ i, RowValid i → RowValid (set i))
    {s : List Identity}
    (hs : ∀ i ∈ s, RowValid i) : ∀ i ∈ updateWhere cond set s, RowValid i := by
  simp only [updateWhere, List.mem_map]
  rintro _ ⟨i, hi, rfl⟩
  split
  · exact hset i (hs i hi)
  · exact hs i hi

/-- A status `update_identity_status` writes is one of the three it accepts. -/
theorem updateIdentityStatus_status {s : List Identity} {identityId : Uuid} {status : String}
    {now : ℤ} {r : Identity × List Identity}
    (h : updateIdentityStatus s identityId status now = .ok r) :
    status ∈ ["active", "suspended", "deleted"] := by
  by_contra hs
  simp [updateIdentityStatus, hs] at h

section Steps

variable {admits : IdentityBuilder → Prop} {s s' : List Identity}

/-- Every step keeps every row valid. -/
theorem Step.rowValid (h : Step admits s s') (hs : ∀ i ∈ s, RowValid i) :
    ∀ i ∈ s', RowValid i := by
  cases h with
  | build b id now i _ _ hb =>
    obtain ⟨hv, -, rfl⟩ := build_eq_ok.1 hb
    exact List.forall_mem_cons.2 ⟨rowValid_createIdentity hv id now, hs⟩
  | provisionAgent tenantId request id now r _ hr =>
    obtain ⟨parent, -, -, -, -, -, -, hn, rfl⟩ := provisionAgent_eq_ok_iff.1 hr
    exact List.forall_mem_cons.2
      ⟨rowValid_createIdentity ((validate_agentBuilder ..).2 hn) id now, hs⟩
  | updateIdentityStatus identityId status now r hr =>
    rw [updateIdentityStatus_eq_ok hr]
    exact rowValid_updateWhere (fun i hi => hi.setStatus (updateIdentityStatus_status hr) now) hs
  | updateLastLogin identityId now =>
    exact rowValid_updateWhere (fun i hi => hi.setLastLogin now) hs
  | deleteExpiredAgents now =>
    exact rowValid_updateWhere (fun i hi => hi.setStatus (by decide) now) hs

/-- **Every row of every reachable table is valid.** Whatever sequence of builds, provisions and
updates made the table, and whichever builders the callers pass, each row has the type `user`,
`service` or `agent` and the status `active`, `suspended` or `deleted`; every user has an email
and every agent a parent; every email has an `@` and at least three bytes; and no name is
blank. -/
theorem rows_valid (hr : Reachable admits s) : ∀ i ∈ s, RowValid i := by
  induction hr with
  | refl => exact fun _ h => nomatch h
  | tail _ hstep ih => exact hstep.rowValid ih

end Steps

/-- A service of the nil tenant, built into the empty table. -/
def firstService : Identity := createIdentity (IdentityBuilder.new Uuid.nil .service "svc") Uuid.nil 0

/-- The table of one built service: its row is valid. -/
theorem rows_valid_service :
    Reachable (fun _ => True) [firstService] ∧ ∀ i ∈ [firstService], RowValid i :=
  have hr : Reachable (fun _ => True) [firstService] :=
    .single (.build (IdentityBuilder.new Uuid.nil .service "svc") Uuid.nil 0 _ trivial
      (List.not_mem_nil _) rfl)
  ⟨hr, rows_valid hr⟩

end AgentIam.Identities
