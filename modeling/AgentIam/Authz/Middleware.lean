import AgentIam.RateLimit.Middleware
import AgentIam.Audit.HashChain
import Mathlib.Data.List.Infix

/-!
# The authorisation middleware (`authz/middleware.rs`)

`authorize_middleware` sits in front of a handler. It reads the `Principal` that the
authentication layer put in the request's extensions, derives the resource and the action from
the request, stores them as an `AuthzContext` in the extensions, and asks
`AuthzEvaluator::evaluate` (`authz/evaluator.rs`) for a decision.

* `deriveResource` reads the resource type and id off a path of the form `/v1/type/id/...`,
  through its non-empty segments (`pathSegments`);
* `deriveAction` names the action after the authorisation paths first, then after the method;
* `evaluate` calls `check_permission`, which allows the actions `read`, `list` and `get` and
  refuses every other one, whoever asks and whatever the resource;
* `AuthzRequirement.check` asks the evaluator about a fixed resource type and action.

A request is an HTTP method, the path of its URI, and the two extensions the middleware reads
and writes; the rest of the stack is a function `next` from the request it receives to its
response.

`authorizeMiddleware_eq` says what the middleware does with every request: without a principal
it answers `Unauthorized`; a `GET` off the two authorisation paths reaches `next`, carrying the
context with the principal's tenant; every other request is `Forbidden`.
`pathSegments_intercalate` and `deriveResource_intercalate` read a path built from its segments
back.
-/

namespace AgentIam.AuthzMiddleware

/-! ### Requests -/

/-- `Principal`, the identity the authentication layer puts in the request's extensions. -/
structure Principal where
  identityId : Uuid
  tenantId : Uuid
  identityType : String
  roles : List String

/-- `Resource`. -/
structure Resource where
  resourceType : String
  resourceId : Option String
  tenantId : Option Uuid
  deriving DecidableEq

/-- `Action`. -/
structure Action where
  action : String
  deriving DecidableEq

/-- `AuthzContext`. -/
structure AuthzContext where
  principal : Principal
  resource : Resource
  action : Action

/-- `http::Method`: the methods the code names, and every other one. -/
inductive Method where
  | get
  | post
  | put
  | patch
  | delete
  | other (name : String)
  deriving DecidableEq

/-- An `axum` request as the middleware sees it: the method, the path of the URI, and the
`Principal` and `AuthzContext` extensions. -/
structure Request where
  method : Method
  path : String
  principal : Option Principal
  authzContext : Option AuthzContext

/-- `str::contains` with a text pattern. -/
def containsStr (s pat : String) : Bool := decide (pat.data <:+: s.data)

/-- `extract_principal`. -/
def extractPrincipal (request : Request) : Except AppError Principal :=
  match request.principal with
  | some principal => .ok principal
  | none => .error .unauthorized

/-- The parts `derive_resource` matches on: `path.split('/')` without the empty ones. -/
def pathSegments (path : String) : List String :=
  ((path.data.splitOn '/').filter (· ≠ [])).map String.mk

/-- `derive_resource`: `/v1/{resource_type}/{resource_id}`; the tenant is set by the caller. -/
def deriveResource (request : Request) : Resource :=
  match pathSegments request.path with
  | "v1" :: resource :: id :: _ => ⟨resource, some id, none⟩
  | "v1" :: resource :: _ => ⟨resource, none, none⟩
  | _ => ⟨"unknown", none, none⟩

/-- `derive_action`. -/
def deriveAction (request : Request) : Action :=
  if containsStr request.path "/authz/check" then ⟨"check"⟩
  else if containsStr request.path "/authz/bulk-check" then ⟨"bulk_check"⟩
  else match request.method with
    | .get => ⟨"read"⟩
    | .post => ⟨"create"⟩
    | .put | .patch => ⟨"update"⟩
    | .delete => ⟨"delete"⟩
    | .other _ => ⟨"unknown"⟩

/-! ### The evaluator -/

/-- `AuthzDecision`. -/
structure AuthzDecision where
  allowed : Bool
  reason : Option String

/-- `AuthzEvaluator::check_permission`: the read actions are allowed, every other one is
refused; the identity, the tenant and the resource type are not consulted. -/
def checkPermission (_identityId _tenantId : Uuid) (_resourceType action : String) :
    Except AppError Bool :=
  match action with
  | "read" | "list" | "get" => .ok true
  | _ => .ok false

/-- `AuthzEvaluator::evaluate`. -/
def evaluate (identityId tenantId : Uuid) (resourceType : String) (_resourceId : Option String)
    (action : String) : Except AppError AuthzDecision := do
  let hasPermission ← checkPermission identityId tenantId resourceType action
  pure ⟨hasPermission,
    if hasPermission then some "Permission granted" else some "Permission denied"⟩

/-! ### The middleware -/

/-- `authorize_middleware`, with `next` the rest of the stack. -/
def authorizeMiddleware (request : Request) (next : Request → Response) :
    Except AppError Response := do
  let principal ← extractPrincipal request
  let resource := { deriveResource request with tenantId := some principal.tenantId }
  let action := deriveAction request
  let request := { request with authzContext := some ⟨principal, resource, action⟩ }
  let decision ← evaluate principal.identityId principal.tenantId resource.resourceType
    resource.resourceId action.action
  if !decision.allowed then throw .forbidden
  pure (next request)

/-- `AuthzRequirement`: a resource type and an action fixed for one route. -/
structure AuthzRequirement where
  resourceType : String
  action : String

/-- `AuthzRequirement::check`. -/
def AuthzRequirement.check (self : AuthzRequirement) (request : Request)
    (next : Request → Response) : Except AppError Response := do
  let principal ← extractPrincipal request
  let decision ← evaluate principal.identityId principal.tenantId self.resourceType none
    self.action
  if !decision.allowed then throw .forbidden
  pure (next request)

/-! ### What the middleware lets through -/

/-- `check_permission` allows exactly the three read actions. -/
theorem checkPermission_eq (identityId tenantId : Uuid) (resourceType action : String) :
    checkPermission identityId tenantId resourceType action =
      .ok (decide (action ∈ ["read", "list", "get"])) := by
  unfold checkPermission
  split <;> simp_all

/-- A request whose action is a read: a `GET` whose path names neither authorisation endpoint. -/
def IsRead (request : Request) : Prop :=
  request.method = .get ∧ containsStr request.path "/authz/check" = false ∧
    containsStr request.path "/authz/bulk-check" = false

instance (request : Request) : Decidable (IsRead request) :=
  inferInstanceAs (Decidable (_ ∧ _))

/-- `derive_action` names a read action exactly for the reads, and then it is `read`. -/
theorem deriveAction_mem (request : Request) :
    (deriveAction request).action ∈ ["read", "list", "get"] ↔ IsRead request := by
  unfold deriveAction IsRead
  split_ifs <;> simp_all
  cases request.method <;> simp

theorem deriveAction_of_isRead {request : Request} (h : IsRead request) :
    deriveAction request = ⟨"read"⟩ := by
  obtain ⟨hm, h1, h2⟩ := h
  simp [deriveAction, h1, h2, hm]

/-- **What the authorisation middleware does with every request.** Without a principal it
answers `Unauthorized`. A `GET` whose path names neither authorisation endpoint reaches the
rest of the stack, carrying the context of the principal, the resource read off the path
under the principal's tenant, and the action `read`. Every other request, every write
included, is `Forbidden`, whoever the principal. -/
theorem authorizeMiddleware_eq (request : Request) (next : Request → Response) :
    authorizeMiddleware request next =
      match request.principal with
      | none => .error .unauthorized
      | some principal =>
        if IsRead request then
          .ok (next { request with authzContext := some ⟨principal,
            { deriveResource request with tenantId := some principal.tenantId }, ⟨"read"⟩⟩ })
        else .error .forbidden := by
  unfold authorizeMiddleware extractPrincipal
  rcases request.principal with _ | principal
  · rfl
  by_cases hr : IsRead request
  · simp [evaluate, checkPermission_eq, hr, deriveAction_of_isRead hr]
  · have hn : (deriveAction request).action ∉ ["read", "list", "get"] :=
      fun h => hr ((deriveAction_mem request).1 h)
    simp [evaluate, checkPermission_eq, hr, hn]
    rfl

/-- A route behind `AuthzRequirement` admits a request with a principal exactly when the
requirement's action is a read action, whatever its resource type. -/
theorem AuthzRequirement.check_eq (self : AuthzRequirement) (request : Request)
    (next : Request → Response) :
    self.check request next =
      match request.principal with
      | none => .error .unauthorized
      | some _ =>
        if self.action ∈ ["read", "list", "get"] then .ok (next request) else .error .forbidden := by
  unfold AuthzRequirement.check extractPrincipal
  rcases request.principal with _ | principal
  · rfl
  by_cases ha : self.action ∈ ["read", "list", "get"]
  · simp [evaluate, checkPermission_eq, ha]
  · simp [evaluate, checkPermission_eq, ha]
    rfl

/-! ### Paths -/

/-- A path made of non-empty segments without `/` splits back into them. -/
theorem pathSegments_intercalate {segs : List String}
    (h : ∀ seg ∈ segs, seg ≠ "" ∧ '/' ∉ seg.data) :
    pathSegments ("/" ++ "/".intercalate segs) = segs := by
  cases segs with
  | nil => rfl
  | cons a as =>
    have hdata : ("/" ++ "/".intercalate (a :: as)).data =
        ['/'].intercalate ([] :: (a :: as).map String.data) := by
      rw [String.data_append, HashChain.data_intercalate, List.map_cons,
        HashChain.intercalate_cons, HashChain.intercalate_cons]
      simp
    have hsep : ∀ l ∈ [] :: (a :: as).map String.data, '/' ∉ l := by
      rintro l (_ | ⟨_, hl⟩)
      · exact List.not_mem_nil _
      · obtain ⟨seg, hseg, rfl⟩ := List.mem_map.1 hl
        exact (h seg hseg).2
    rw [pathSegments, hdata, List.splitOn_intercalate _ '/' hsep (List.cons_ne_nil _ _),
      List.filter_cons_of_neg (by simp), List.filter_eq_self.2, List.map_map]
    · exact List.map_id _
    · simp only [List.mem_map, decide_eq_true_eq]
      rintro _ ⟨seg, hseg, rfl⟩ hnil
      exact (h seg hseg).1 (String.ext hnil)

/-- **`derive_resource` reads a `/v1` path back**: on the path of `v1`, a resource type and
any further segments, all non-empty and without `/`, it gives that type and, as the id, the
first further segment if there is one. -/
theorem deriveResource_intercalate (method : Method) (principal : Option Principal)
    (authzContext : Option AuthzContext) {resource : String} {segs : List String}
    (h : ∀ seg ∈ resource :: segs, seg ≠ "" ∧ '/' ∉ seg.data) :
    deriveResource ⟨method, "/" ++ "/".intercalate ("v1" :: resource :: segs), principal,
      authzContext⟩ = ⟨resource, segs.head?, none⟩ := by
  have hv1 : ∀ seg ∈ "v1" :: resource :: segs, seg ≠ "" ∧ '/' ∉ seg.data := by
    rintro seg (_ | ⟨_, hseg⟩)
    · decide
    · exact h seg hseg
  rw [deriveResource, pathSegments_intercalate hv1]
  cases segs <;> rfl

/-- The path of the `derive_resource` test, `/v1/identities/123`. -/
theorem deriveResource_identities :
    (∀ seg ∈ ["identities", "123"], seg ≠ "" ∧ '/' ∉ seg.data) ∧
      deriveResource ⟨.get, "/" ++ "/".intercalate ["v1", "identities", "123"], none, none⟩ =
        ⟨"identities", some "123", none⟩ :=
  ⟨by decide, deriveResource_intercalate .get none none (by decide)⟩

end AgentIam.AuthzMiddleware
