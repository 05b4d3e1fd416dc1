import AgentIam.Authz.Cedar
import Mathlib.Data.List.Sort

/-!
# The authorization endpoints

`api/authz.rs`: `check_authorization` and `bulk_check_authorization` over the shared
`CedarEngine`, whose working set is passed in and returned.

* `loadPoliciesFromDb` is the query `load_policies_from_db` runs: the active rows, ordered by
  `created_at` (rows created at the same instant in the table's order), as (id, text) pairs;
* `reloadPolicies` is what both handlers do before evaluating: the texts replace the working
  set through `CedarEngine::load_policies`, but only `if !policies.is_empty()`;
* `checkAuthorization` builds one request and evaluates it; `bulkCheckAuthorization` bounds the
  batch, reloads once, and runs the loop `checkEach` with its two counters. Each response lists
  its reasons in the order of its own `HashSet` (`ReasonOrder`): the single check takes one
  order, the bulk check one per index.

`reloadPolicies_of_parseAll` says which set decides: the active policies when there is at least
one, and otherwise the working set the engine already had (`checkAuthorization_eq`,
`bulkCheckAuthorization_eq`). A policy deactivated last therefore keeps deciding
(`deactivated_policy_still_allows`). Every working set the engine reaches is empty or one whole
reload (`engine_holds_one_reload`). A handler runs alone between its reload and its evaluation.
-/

namespace AgentIam.Authz

open Cedar

/-! ### Loading policies from the store -/

/-- The columns of a `policies` row that `load_policies_from_db` reads. -/
structure PolicyRow where
  id : Uuid
  policyCedar : String
  isActive : Bool
  createdAt : ℤ

/-- `ORDER BY created_at ASC`, as a stable sort: rows created at the same instant keep the
table's order. -/
def orderByCreatedAt (rows : List PolicyRow) : List PolicyRow :=
  rows.insertionSort fun a b => a.createdAt ≤ b.createdAt

/-- `load_policies_from_db`; `dbError` is the failure of the query, if it fails. -/
def loadPoliciesFromDb (table : List PolicyRow) (dbError : Option String) :
    Except AppError (List (Uuid × String)) :=
  match dbError with
  | some e => .error (.database e)
  | none => .ok ((orderByCreatedAt (table.filter (·.isActive))).map fun p => (p.id, p.policyCedar))

/-- **The query returns each active policy once**: on a table keyed by id, the loaded texts
have distinct ids. -/
theorem loadPoliciesFromDb_nodup {table : List PolicyRow} {texts : List (Uuid × String)}
    (hkey : (table.map (·.id)).Nodup) (hload : loadPoliciesFromDb table none = .ok texts) :
    (texts.map (·.1)).Nodup := by
  cases hload
  rw [List.map_map]
  exact ((List.perm_insertionSort _ _).map _).nodup_iff.2
    (hkey.sublist ((List.filter_sublist _).map _))

/-! ### The handlers -/

/-- `AuthzCheckRequest`; its `context` is never read by the handlers. -/
structure AuthzCheckRequest where
  principal : String
  action : String
  resource : String

/-- `AuthzCheckResponse`. -/
structure AuthzCheckResponse where
  allowed : Bool
  reasons : List String
  errors : List String
  deriving DecidableEq, Repr

/-- The response the handlers build from a decision. -/
def AuthzCheckResponse.ofDecision (d : AuthorizationDecision) : AuthzCheckResponse :=
  ⟨d.isAllowed, d.reasons, d.errors⟩

/-- `BulkAuthzCheckRequest`. -/
structure BulkAuthzCheckRequest where
  requests : List AuthzCheckRequest

/-- `BulkAuthzCheckResult`. -/
structure BulkAuthzCheckResult where
  index : ℕ
  allowed : Bool
  reasons : List String
  errors : List String
  deriving DecidableEq, Repr

/-- `BulkAuthzCheckResponse`. -/
structure BulkAuthzCheckResponse where
  results : List BulkAuthzCheckResult
  total : ℕ
  allowedCount : ℕ
  deniedCount : ℕ
  deriving DecidableEq, Repr

/-- `MAX_BULK_REQUESTS`. -/
def maxBulkRequests : ℕ := 100

section Handlers

variable (parse : String → Except String PolicyBody)
  (parseTypeName : String → Except String (List String))

/-- The builder chain the handlers run on a request. -/
def AuthzCheckRequest.toCedar (req : AuthzCheckRequest) : Except AppError Request :=
  AuthorizationRequestBuilder.build parseTypeName ⟨some req.principal, some req.action,
    some req.resource⟩

/-- The reload both handlers run on the working set `ws` before evaluating. -/
def reloadPolicies (ws : List Policy) (table : List PolicyRow) (dbError : Option String) :
    Except AppError Unit × List Policy :=
  match loadPoliciesFromDb table dbError with
  | .error e => (.error e, ws)
  | .ok policies =>
    if !policies.isEmpty then
      match loadPolicies parse ws policies with
      | (.error e, ws') => (.error e, ws')
      | (.ok _, ws') => (.ok (), ws')
    else (.ok (), ws)

/-- `check_authorization` on the working set `ws`: the response, and the working set after
the call. `order` is the order of the reasons' set in this call's response. -/
def checkAuthorization (ws : List Policy) (table : List PolicyRow) (dbError : Option String)
    (req : AuthzCheckRequest) (order : ReasonOrder) :
    Except AppError AuthzCheckResponse × List Policy :=
  match reloadPolicies parse ws table dbError with
  | (.error e, ws') => (.error e, ws')
  | (.ok (), ws') =>
    match req.toCedar parseTypeName with
    | .error e => (.error e, ws')
    | .ok cedarRequest => (.ok (.ofDecision (engineIsAuthorized ws' cedarRequest order)), ws')

/-- The loop of `bulk_check_authorization` from the request at `index` on, with the results
pushed so far and the two counters; `orders i` is the order of the reasons' set in the response
to the request at `i`. The arms for `create_empty_entities` and `engine.is_authorized` failing
are left out: neither can fail. -/
def checkEach (ws : List Policy) (orders : ℕ → ReasonOrder) :
    ℕ → List AuthzCheckRequest → List BulkAuthzCheckResult → ℕ → ℕ →
      List BulkAuthzCheckResult × ℕ × ℕ
  | _, [], results, allowedCount, deniedCount => (results, allowedCount, deniedCount)
  | index, checkReq :: rest, results, allowedCount, deniedCount =>
    match checkReq.toCedar parseTypeName with
    | .error e =>
      checkEach ws orders (index + 1) rest (results ++ [⟨index, false, [], [e.message]⟩])
        allowedCount (deniedCount + 1)
    | .ok cedarRequest =>
      let decision := engineIsAuthorized ws cedarRequest (orders index)
      let allowed := decision.isAllowed
      checkEach ws orders (index + 1) rest
        (results ++ [⟨index, allowed, decision.reasons, decision.errors⟩])
        (if allowed then allowedCount + 1 else allowedCount)
        (if allowed then deniedCount else deniedCount + 1)

/-- `bulk_check_authorization` on the working set `ws`. -/
def bulkCheckAuthorization (ws : List Policy) (table : List PolicyRow) (dbError : Option String)
    (req : BulkAuthzCheckRequest) (orders : ℕ → ReasonOrder) :
    Except AppError BulkAuthzCheckResponse × List Policy :=
  if req.requests.isEmpty then (.error (.badRequest "No requests provided"), ws)
  else if req.requests.length > maxBulkRequests then
    (.error (.badRequest ("Too many requests. Maximum is " ++ toString maxBulkRequests)), ws)
  else
    match reloadPolicies parse ws table dbError with
    | (.error e, ws') => (.error e, ws')
    | (.ok (), ws') =>
      let (results, allowedCount, deniedCount) :=
        checkEach parseTypeName ws' orders 0 req.requests [] 0 0
      (.ok ⟨results, allowedCount + deniedCount, allowedCount, deniedCount⟩, ws')

/-! ### The engine over a run of calls -/

/-- A working set one whole reload produced: the policies of a nonempty batch of texts, added in
order to a fresh set. -/
def Loaded (ws : List Policy) : Prop :=
  ∃ texts : List (Uuid × String), texts ≠ [] ∧ buildPolicySet parse [] texts = .ok ws

/-- One handler call on the shared engine, with whatever the table holds and whatever the query
does at that moment. -/
inductive EngineStep : List Policy → List Policy → Prop
  | check (ws : List Policy) (table : List PolicyRow) (dbError : Option String)
      (req : AuthzCheckRequest) (order : ReasonOrder) :
      EngineStep ws (checkAuthorization parse parseTypeName ws table dbError req order).2
  | bulk (ws : List Policy) (table : List PolicyRow) (dbError : Option String)
      (req : BulkAuthzCheckRequest) (orders : ℕ → ReasonOrder) :
      EngineStep ws (bulkCheckAuthorization parse parseTypeName ws table dbError req orders).2

/-- A reload keeps the working set, or replaces it by one whole reload. -/
theorem reloadPolicies_snd (ws : List Policy) (table : List PolicyRow) (dbError : Option String) :
    (reloadPolicies parse ws table dbError).2 = ws ∨
      Loaded parse (reloadPolicies parse ws table dbError).2 := by
  rw [reloadPolicies]
  split
  · exact .inl rfl
  next policies _ =>
    split
    next hne =>
      cases hb : buildPolicySet parse [] policies with
      | error e => exact .inl (by rw [loadPolicies_error parse hb])
      | ok set =>
        refine .inr ⟨policies, by simpa using hne, ?_⟩
        rw [loadPolicies, hb]
    · exact .inl rfl

/-- `check_authorization` leaves the working set its reload left. -/
theorem checkAuthorization_snd (ws : List Policy) (table : List PolicyRow)
    (dbError : Option String) (req : AuthzCheckRequest) (order : ReasonOrder) :
    (checkAuthorization parse parseTypeName ws table dbError req order).2 =
      (reloadPolicies parse ws table dbError).2 := by
  rw [checkAuthorization]
  split
  next h => rw [h]
  next h =>
    rw [h]
    split <;> rfl

/-- `bulk_check_authorization` leaves the working set as it was, when it rejects the batch, or
as its reload left it. -/
theorem bulkCheckAuthorization_snd (ws : List Policy) (table : List PolicyRow)
    (dbError : Option String) (req : BulkAuthzCheckRequest) (orders : ℕ → ReasonOrder) :
    (bulkCheckAuthorization parse parseTypeName ws table dbError req orders).2 = ws ∨
      (bulkCheckAuthorization parse parseTypeName ws table dbError req orders).2 =
        (reloadPolicies parse ws table dbError).2 := by
  rw [bulkCheckAuthorization]
  split
  · exact .inl rfl
  split
  · exact .inl rfl
  split
  next h => exact .inr (by rw [h])
  next h => exact .inr (by rw [h])

/-- A handler call keeps the working set, or replaces it by one whole reload. -/
theorem engineStep_cases {ws ws' : List Policy} (h : EngineStep parse parseTypeName ws ws') :
    ws' = ws ∨ Loaded parse ws' := by
  cases h with
  | check table dbError req order =>
    rw [checkAuthorization_snd]
    exact reloadPolicies_snd parse ws table dbError
  | bulk table dbError req orders =>
    rcases bulkCheckAuthorization_snd parse parseTypeName ws table dbError req orders with h | h
    · exact .inl h
    · rw [h]
      exact reloadPolicies_snd parse ws table dbError

/-- **The engine only ever holds one whole reload**: from `CedarEngine::new`, whatever calls run
and whatever the table and the query do, the working set is empty or exactly the policies of one
nonempty batch that parsed in full. No failed reload leaves part of a batch behind, and no set
mixes two batches. -/
theorem engine_holds_one_reload {ws : List Policy}
    (h : Relation.ReflTransGen (EngineStep parse parseTypeName) [] ws) :
    ws = [] ∨ Loaded parse ws := by
  induction h with
  | refl => exact .inl rfl
  | tail _ hs ih =>
    rcases engineStep_cases parse parseTypeName hs with rfl | hl
    · exact ih
    · exact .inr hl

/-! ### A permit-all store -/

/-- A policy text every request satisfies. -/
def permitAllText : String := "permit(principal, action, resource);"

/-- `Policy::parse` for a store that holds `permitAllText` only. -/
def permitAllParse (text : String) : Except String PolicyBody :=
  if text = permitAllText then .ok ⟨.permit, fun _ => .ok true⟩ else .error "unexpected token"

/-- `EntityTypeName::from_str` on a single identifier. -/
def simpleTypeName (s : String) : Except String (List String) := .ok [s]

/-- The permit-all policy, active and then deactivated. -/
def permitAllRow (isActive : Bool) : PolicyRow := ⟨⟨1⟩, permitAllText, isActive, 0⟩

/-- A request for `read` by `alice` on `file1`. -/
def aliceReads : AuthzCheckRequest := ⟨"User::\"alice\"", "read", "File::\"file1\""⟩

/-- The permit-all policy as the engine holds it. -/
def permitAllPolicy : Policy := ⟨Uuid.hyphenated ⟨1⟩, ⟨.permit, fun _ => .ok true⟩⟩

/-! ### Which set decides -/

/-- The result the loop records for the request at `index`, evaluated against `ws`, its reasons
listed in `order`. -/
def bulkResult (ws : List Policy) (index : ℕ) (checkReq : AuthzCheckRequest)
    (order : ReasonOrder) : BulkAuthzCheckResult :=
  match checkReq.toCedar parseTypeName with
  | .error e => ⟨index, false, [], [e.message]⟩
  | .ok cedarRequest =>
    let decision := engineIsAuthorized ws cedarRequest order
    ⟨index, decision.isAllowed, decision.reasons, decision.errors⟩

/-- The working set a reload leaves: the loaded policies, unless none were loaded. -/
def reloaded (ws : List Policy) (texts : List (Uuid × String)) (ps : List Policy) : List Policy :=
  if texts.isEmpty then ws else ps

/-- **The reload guard**: when the store's active policies all parse, the reload succeeds, and
the engine holds them, or, if there are none, the set it had. -/
theorem reloadPolicies_of_parseAll {ws : List Policy} {table : List PolicyRow}
    {texts : List (Uuid × String)} {ps : List Policy}
    (hkey : (table.map (·.id)).Nodup) (hload : loadPoliciesFromDb table none = .ok texts)
    (hparse : parseAll parse texts = some ps) :
    reloadPolicies parse ws table none = (.ok (), reloaded ws texts ps) := by
  simp only [reloadPolicies, hload, reloaded]
  cases texts.isEmpty
  · rw [if_pos (show (!false) = true from rfl),
      loadPolicies_ok parse hparse (loadPoliciesFromDb_nodup hkey hload)]
    rfl
  · rfl

/-- The loop pushes `bulkResult` for each request, in order, and counts the allowed and the
denied ones. -/
theorem checkEach_eq (ws : List Policy) (orders : ℕ → ReasonOrder) :
    ∀ (index : ℕ) (reqs : List AuthzCheckRequest) (results : List BulkAuthzCheckResult)
      (allowedCount deniedCount : ℕ),
      let rs := (reqs.enumFrom index).map fun (i, r) => bulkResult parseTypeName ws i r (orders i)
      checkEach parseTypeName ws orders index reqs results allowedCount deniedCount =
        (results ++ rs, allowedCount + rs.countP (·.allowed),
          deniedCount + rs.countP (!·.allowed))
  | _, [], _, _, _ => by simp [checkEach]
  | index, checkReq :: rest, results, allowedCount, deniedCount => by
    simp only [checkEach, List.enumFrom_cons, List.map_cons, List.countP_cons]
    rw [bulkResult]
    split
    · rw [checkEach_eq]
      simp only [List.append_assoc, List.singleton_append, Bool.not_false, if_true, if_false,
        Bool.false_eq_true, Prod.mk.injEq, true_and]
      omega
    next cedarRequest _ =>
      rw [checkEach_eq]
      dsimp only
      cases (engineIsAuthorized ws cedarRequest (orders index)).isAllowed <;>
        simp only [List.append_assoc, List.singleton_append, Bool.not_false, Bool.not_true,
          if_true, if_false, Bool.false_eq_true, Prod.mk.injEq, true_and] <;> omega

/-- `check_authorization` after a reload that succeeds, leaving `ws'`: the request is evaluated
against `ws'`, which is also the engine's set afterwards. -/
theorem checkAuthorization_of_reload {ws ws' : List Policy} {table : List PolicyRow}
    {dbError : Option String} (hreload : reloadPolicies parse ws table dbError = (.ok (), ws'))
    (req : AuthzCheckRequest) (order : ReasonOrder) :
    checkAuthorization parse parseTypeName ws table dbError req order =
      ((req.toCedar parseTypeName).map fun r => .ofDecision (engineIsAuthorized ws' r order),
        ws') := by
  rw [checkAuthorization, hreload]
  dsimp only
  cases req.toCedar parseTypeName <;> rfl

/-- `check_authorization` when the store's active policies all parse: the request is evaluated
against the set `reloaded` leaves, which is also the engine's set afterwards. -/
theorem checkAuthorization_eq {ws : List Policy} {table : List PolicyRow}
    {texts : List (Uuid × String)} {ps : List Policy}
    (hkey : (table.map (·.id)).Nodup) (hload : loadPoliciesFromDb table none = .ok texts)
    (hparse : parseAll parse texts = some ps) (req : AuthzCheckRequest) (order : ReasonOrder) :
    checkAuthorization parse parseTypeName ws table none req order =
      ((req.toCedar parseTypeName).map fun r =>
        .ofDecision (engineIsAuthorized (reloaded ws texts ps) r order), reloaded ws texts ps) :=
  checkAuthorization_of_reload parse parseTypeName
    (reloadPolicies_of_parseAll parse hkey hload hparse) req order

/-- `bulk_check_authorization` on a batch of 1 to 100 requests after a reload that succeeds,
leaving `ws'`: each index gets `bulkResult` under `ws'`. -/
theorem bulkCheckAuthorization_of_reload {ws ws' : List Policy} {table : List PolicyRow}
    {dbError : Option String} (hreload : reloadPolicies parse ws table dbError = (.ok (), ws'))
    {requests : List AuthzCheckRequest} (hne : requests ≠ [])
    (hmax : requests.length ≤ maxBulkRequests) (orders : ℕ → ReasonOrder) :
    let rs := requests.enum.map fun (i, r) => bulkResult parseTypeName ws' i r (orders i)
    bulkCheckAuthorization parse parseTypeName ws table dbError ⟨requests⟩ orders =
      (.ok ⟨rs, rs.countP (·.allowed) + rs.countP (!·.allowed), rs.countP (·.allowed),
        rs.countP (!·.allowed)⟩, ws') := by
  have hne' : requests.isEmpty = false := by simpa using hne
  rw [bulkCheckAuthorization, if_neg (by simp [hne']), if_neg (by simpa using hmax), hreload]
  dsimp only
  rw [checkEach_eq]
  simp [List.enum]

/-- `bulk_check_authorization` on a batch of 1 to 100 requests when the store's active
policies all parse: each index gets `bulkResult` under the set `reloaded` leaves. -/
theorem bulkCheckAuthorization_eq {ws : List Policy} {table : List PolicyRow}
    {texts : List (Uuid × String)} {ps : List Policy}
    (hkey : (table.map (·.id)).Nodup) (hload : loadPoliciesFromDb table none = .ok texts)
    (hparse : parseAll parse texts = some ps) {requests : List AuthzCheckRequest}
    (hne : requests ≠ []) (hmax : requests.length ≤ maxBulkRequests) (orders : ℕ → ReasonOrder) :
    let rs := requests.enum.map fun (i, r) =>
      bulkResult parseTypeName (reloaded ws texts ps) i r (orders i)
    bulkCheckAuthorization parse parseTypeName ws table none ⟨requests⟩ orders =
      (.ok ⟨rs, rs.countP (·.allowed) + rs.countP (!·.allowed), rs.countP (·.allowed),
        rs.countP (!·.allowed)⟩, reloaded ws texts ps) :=
  bulkCheckAuthorization_of_reload parse parseTypeName
    (reloadPolicies_of_parseAll parse hkey hload hparse) hne hmax orders

/-- The handlers evaluate every request against `effective`: `check_authorization` answers
with its decision, and `bulk_check_authorization`, on a batch of 1 to 100 requests, records at
each index what `effective` decides on that request, whatever order each response lists its
reasons in. -/
def DecidesWith (ws : List Policy) (table : List PolicyRow) (effective : List Policy) : Prop :=
  (∀ req order, (checkAuthorization parse parseTypeName ws table none req order).1 =
    (req.toCedar parseTypeName).map fun r => .ofDecision (engineIsAuthorized effective r order)) ∧
  ∀ (requests : List AuthzCheckRequest) (orders : ℕ → ReasonOrder), requests ≠ [] →
    requests.length ≤ maxBulkRequests →
    (bulkCheckAuthorization parse parseTypeName ws table none ⟨requests⟩ orders).1.map
        (·.results) =
      .ok (requests.enum.map fun (i, r) => bulkResult parseTypeName effective i r (orders i))

/-- **Decisions follow the store, except when it has no active policy.** For every working
set `ws` and every table keyed by id whose active policies all parse, the handlers evaluate
against the loaded active policies when there is at least one, and against `ws` when there is
none. -/
theorem decisions_follow_reload (ws : List Policy) {table : List PolicyRow}
    {texts : List (Uuid × String)} {ps : List Policy}
    (hkey : (table.map (·.id)).Nodup) (hload : loadPoliciesFromDb table none = .ok texts)
    (hparse : parseAll parse texts = some ps) :
    DecidesWith parse parseTypeName ws table (if texts.isEmpty then ws else ps) :=
  ⟨fun req order => by rw [checkAuthorization_eq parse parseTypeName hkey hload hparse]; rfl,
   fun _ orders hne hmax => by
    rw [bulkCheckAuthorization_eq parse parseTypeName hkey hload hparse hne hmax orders]; rfl⟩

/-- Once the permit-all policy has been loaded and then deactivated, the handlers still decide
with it. -/
theorem decisions_follow_reload_deactivated :
    ([permitAllRow false].map (·.id)).Nodup ∧
      loadPoliciesFromDb [permitAllRow false] none = .ok [] ∧
      parseAll permitAllParse [] = some [] ∧
      DecidesWith permitAllParse simpleTypeName [permitAllPolicy] [permitAllRow false]
        (if ([] : List (Uuid × String)).isEmpty then [permitAllPolicy] else []) :=
  have hkey : ([permitAllRow false].map (·.id)).Nodup := List.nodup_singleton _
  ⟨hkey, rfl, rfl, decisions_follow_reload permitAllParse simpleTypeName [permitAllPolicy] hkey rfl
    rfl⟩

end Handlers

/-- The engine after `check_authorization` has run once with the permit-all policy active. -/
def engineAfterActive : List Policy :=
  (checkAuthorization permitAllParse simpleTypeName [] [permitAllRow true] none aliceReads
    .insertion).2

/-- **The last active policy, deactivated, still decides**: once the permit-all policy has been
loaded, deactivating it leaves a table with no active policy, the reload is skipped, and the
request is still allowed, on the strength of the deactivated policy. -/
theorem deactivated_policy_still_allows :
    engineAfterActive = [permitAllPolicy] ∧
    loadPoliciesFromDb [permitAllRow false] none = .ok [] ∧
    (checkAuthorization permitAllParse simpleTypeName engineAfterActive [permitAllRow false] none
      aliceReads .insertion).1 = .ok ⟨true, [Uuid.hyphenated ⟨1⟩], []⟩ :=
  ⟨rfl, rfl, rfl⟩

/-- One call of `check_authorization` on the permit-all store: the engine holds that reload. -/
theorem engine_holds_one_reload_permitAll :
    Relation.ReflTransGen (EngineStep permitAllParse simpleTypeName) [] engineAfterActive ∧
      (engineAfterActive = [] ∨ Loaded permitAllParse engineAfterActive) :=
  have h : Relation.ReflTransGen (EngineStep permitAllParse simpleTypeName) [] engineAfterActive :=
    .single (.check [] [permitAllRow true] none aliceReads .insertion)
  ⟨h, engine_holds_one_reload permitAllParse simpleTypeName h⟩

/-! ### A batch never short-circuits -/

section Bulk

variable (parse : String → Except String PolicyBody)
  (parseTypeName : String → Except String (List String))

/-- The result at `index` is allowed exactly when the request was built and the set allows it. -/
theorem bulkResult_allowed (ws : List Policy) (index : ℕ) (req : AuthzCheckRequest)
    (order : ReasonOrder) :
    (bulkResult parseTypeName ws index req order).allowed = true ↔
      ∃ r, req.toCedar parseTypeName = .ok r ∧
        (engineIsAuthorized ws r order).decision = .allow := by
  rw [bulkResult]
  split <;> simp_all [AuthorizationDecision.isAllowed]

/-- What a bulk response says of a batch evaluated against `ws'`, its response at `i` listing its
reasons in `orders i`, beside `single`, the answer of the single check on each request with its
reasons in the order given. -/
structure BulkSound (ws' : List Policy) (requests : List AuthzCheckRequest)
    (orders : ℕ → ReasonOrder)
    (single : AuthzCheckRequest → ReasonOrder → Except AppError AuthzCheckResponse)
    (resp : BulkAuthzCheckResponse) : Prop where
  /-- One result per request. -/
  length : resp.results.length = requests.length
  /-- The result at `i` is that of request `i` alone, under its index; it is allowed exactly
  when the request was built and `ws'` allows it, a request that failed to build is denied
  with an error, and it agrees with the single check where that answers, on the reasons up to
  their order. -/
  result : ∀ i req, requests[i]? = some req → ∃ res, resp.results[i]? = some res ∧
    res = bulkResult parseTypeName ws' i req (orders i) ∧ res.index = i ∧
    (res.allowed = true ↔
      ∃ r, req.toCedar parseTypeName = .ok r ∧
        (engineIsAuthorized ws' r (orders i)).decision = .allow) ∧
    (∀ e, req.toCedar parseTypeName = .error e → res.allowed = false ∧ res.errors ≠ []) ∧
    ∀ order c, single req order = .ok c → res.allowed = c.allowed ∧ res.reasons.Perm c.reasons ∧
      res.errors = c.errors
  /-- The allowed results are counted. -/
  allowedCount : resp.allowedCount = resp.results.countP (·.allowed)
  /-- Every other result is counted as denied. -/
  deniedCount : resp.deniedCount = requests.length - resp.allowedCount
  /-- The total is the batch size. -/
  total : resp.total = requests.length

/-- A batch of none or of more than 100 requests is a bad request. -/
theorem bulkCheckAuthorization_bad (ws : List Policy) (table : List PolicyRow)
    (dbError : Option String) {requests : List AuthzCheckRequest}
    (hbad : requests = [] ∨ maxBulkRequests < requests.length) (orders : ℕ → ReasonOrder) :
    ∃ msg, (bulkCheckAuthorization parse parseTypeName ws table dbError ⟨requests⟩ orders).1 =
      .error (.badRequest msg) := by
  rcases hbad with rfl | hbad
  · exact ⟨_, rfl⟩
  · exact ⟨_, by
      rw [bulkCheckAuthorization, if_neg (by cases requests <;> simp_all), if_pos hbad]⟩

/-- The response the bulk check builds after a reload to `ws'` is sound: one result per
request, each that of the request alone, and the counts of its results. -/
theorem bulkSound_of_reload {ws ws' : List Policy} {table : List PolicyRow}
    {dbError : Option String} (hreload : reloadPolicies parse ws table dbError = (.ok (), ws'))
    (requests : List AuthzCheckRequest) (orders : ℕ → ReasonOrder) :
    let rs := requests.enum.map fun (i, r) => bulkResult parseTypeName ws' i r (orders i)
    BulkSound parseTypeName ws' requests orders
      (fun req order => (checkAuthorization parse parseTypeName ws table dbError req order).1)
      ⟨rs, rs.countP (·.allowed) + rs.countP (!·.allowed), rs.countP (·.allowed),
        rs.countP (!·.allowed)⟩ := by
  intro rs
  have hlen := List.length_eq_countP_add_countP (·.allowed) rs
  simp only [rs, List.length_map, List.enum_length, Bool.not_eq_true, Bool.decide_eq_false]
    at hlen
  refine ⟨by simp [rs], fun i req hreq => ⟨_, by simp [rs, List.getElem?_enum, hreq], rfl, ?_⟩,
    rfl, ?_, ?_⟩
  · rw [bulkResult_allowed]
    refine ⟨by rw [bulkResult]; split <;> rfl, .rfl, fun e he => ?_, fun order c hc => ?_⟩
    · simp [bulkResult, he]
    · rw [checkAuthorization_of_reload parse parseTypeName hreload] at hc
      cases hr : req.toCedar parseTypeName with
      | error e => simp [hr, Except.map] at hc
      | ok r =>
        simp only [hr, Except.map, Except.ok.injEq] at hc
        subst hc
        simp only [bulkResult, hr]
        exact ⟨rfl, ((orders i).perm _).trans (order.perm _).symm, rfl⟩
  all_goals simp only [rs, List.length_map, List.enum_length]; omega

/-- **Bulk authorisation never short-circuits.** A batch of none or of more than 100 requests
is a bad request. For every working set and table whose reload succeeds, leaving `ws'`, a batch
of 1 to 100 requests is answered in full against `ws'`: every request gets its own result, at
its index, whatever the others did, in agreement with `check_authorization` on it alone, on the
reasons up to the order each response lists them in. -/
theorem bulk_never_short_circuits (ws : List Policy) (table : List PolicyRow)
    (dbError : Option String) (requests : List AuthzCheckRequest) (orders : ℕ → ReasonOrder) :
    ((requests = [] ∨ maxBulkRequests < requests.length) → ∃ msg,
      (bulkCheckAuthorization parse parseTypeName ws table dbError ⟨requests⟩ orders).1 =
        .error (.badRequest msg)) ∧
    ∀ ws', reloadPolicies parse ws table dbError = (.ok (), ws') →
      requests ≠ [] → requests.length ≤ maxBulkRequests →
      ∃ resp, bulkCheckAuthorization parse parseTypeName ws table dbError ⟨requests⟩ orders =
          (.ok resp, ws') ∧
        BulkSound parseTypeName ws' requests orders
          (fun req order => (checkAuthorization parse parseTypeName ws table dbError req order).1)
          resp :=
  ⟨fun hbad => bulkCheckAuthorization_bad parse parseTypeName ws table dbError hbad orders,
    fun _ hreload hne hmax =>
      ⟨_, bulkCheckAuthorization_of_reload parse parseTypeName hreload hne hmax orders,
        bulkSound_of_reload parse parseTypeName hreload requests orders⟩⟩

end Bulk

/-- The bulk contract on a batch of one request, after a reload of the permit-all store, with
the reasons of every response listed in the order the policies were added. -/
theorem bulk_never_short_circuits_alice :
    reloadPolicies permitAllParse [] [permitAllRow true] none = (.ok (), [permitAllPolicy]) ∧
    [aliceReads] ≠ [] ∧ [aliceReads].length ≤ maxBulkRequests ∧
    ∃ resp, bulkCheckAuthorization permitAllParse simpleTypeName [] [permitAllRow true] none
        ⟨[aliceReads]⟩ (fun _ => .insertion) = (.ok resp, [permitAllPolicy]) ∧
      BulkSound simpleTypeName [permitAllPolicy] [aliceReads] (fun _ => .insertion)
        (fun req order => (checkAuthorization permitAllParse simpleTypeName [] [permitAllRow true]
          none req order).1) resp :=
  have hreload : reloadPolicies permitAllParse [] [permitAllRow true] none =
      (.ok (), [permitAllPolicy]) := rfl
  have hne : [aliceReads] ≠ [] := List.cons_ne_nil _ _
  have hmax : [aliceReads].length ≤ maxBulkRequests := by decide
  ⟨hreload, hne, hmax, (bulk_never_short_circuits permitAllParse simpleTypeName []
    [permitAllRow true] none [aliceReads] (fun _ => .insertion)).2 _ hreload hne hmax⟩

end AgentIam.Authz
