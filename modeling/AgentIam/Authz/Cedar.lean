import AgentIam.Basic
import Mathlib.Data.List.Nodup

/-!
# The Cedar engine

`authz/engine.rs` and `authz/evaluator.rs`, over a model of the `cedar_policy` library:

* a policy is an id, an effect and a condition, which on a request holds, fails, or raises an
  error; `Policy::parse` is a parameter `parse` from the policy text to effect and condition;
* `isAuthorized` is Cedar's authorizer: a satisfied `forbid` denies, else a satisfied `permit`
  allows, else the request is denied; the reasons are the satisfied policies of the deciding
  effect, and every policy whose condition raised an error contributes its error;
* the reasons are a `HashSet`, which `AuthorizationDecision::from_cedar_response` collects in
  the order it iterates: `ReasonOrder`, some permutation, chosen afresh for every response;
* `CedarEngine.loadPolicies` parses every text into a fresh policy set and replaces the working
  set only when all of them parse (`loadPolicies_ok`, `loadPolicies_error`);
* `AuthorizationRequestBuilder.build` with `parse_entity_uid` and `parse_action_uid`;
  `EntityTypeName::from_str` is a parameter `parseTypeName`, and `EntityId::from_str` is the
  identity, as Cedar has it.

Entities are always empty in the code, so a condition sees the request only. A reference
`Type::"id"` is split at its first `::` and the quotes are trimmed off the id
(`parseEntityUid_quoted`): a type name with a namespace is split inside it.

Adding policies moves decisions one way (`addPolicies_monotone`): `forbid` policies only take
access away, `permit` policies only grant it.
-/

namespace AgentIam.Cedar

/-! ### Policies and the authorizer -/

/-- `cedar_policy::EntityUid`: a type name, as the path of its identifiers, and an id. -/
structure EntityUid where
  typeName : List String
  id : String
  deriving DecidableEq, Repr

/-- `cedar_policy::Request` without a schema; the context is always empty in the code. -/
structure Request where
  principal : EntityUid
  action : EntityUid
  resource : EntityUid
  context : List (String × JsonValue)

/-- A policy's effect. -/
inductive Effect where
  | permit
  | forbid
  deriving DecidableEq, Repr

/-- What `Policy::parse` produces from a text: an effect and a condition, which on a request
holds, fails, or raises an error. -/
structure PolicyBody where
  effect : Effect
  condition : Request → Except String Bool

/-- `cedar_policy::Policy`: a parsed policy under its id. -/
structure Policy where
  id : String
  body : PolicyBody

/-- `cedar_policy::Decision`. -/
inductive Decision where
  | allow
  | deny
  deriving DecidableEq, Repr

/-- `cedar_policy::Response`: the decision, the ids of the policies that decided it, and the
errors of the policies that could not be evaluated. The ids are a set, listed here in the policy
set's order. -/
structure Response where
  decision : Decision
  reasons : List String
  errors : List String
  deriving DecidableEq, Repr

/-- Whether a policy's condition holds on the request; an error is not a hold. -/
def Policy.holds (p : Policy) (req : Request) : Bool :=
  match p.body.condition req with
  | .ok b => b
  | .error _ => false

/-- The ids of the policies of an effect whose condition holds on the request. -/
def satisfied (ps : List Policy) (effect : Effect) (req : Request) : List String :=
  (ps.filter fun p => p.body.effect = effect && p.holds req).map (·.id)

/-- The errors of the policies whose condition raises one on the request. -/
def evaluationErrors (ps : List Policy) (req : Request) : List String :=
  ps.filterMap fun p => match p.body.condition req with
    | .error e => some ("error while evaluating policy `" ++ p.id ++ "`: " ++ e)
    | .ok _ => none

/-- `Authorizer::is_authorized` over a policy set and empty entities. -/
def isAuthorized (ps : List Policy) (req : Request) : Response :=
  let forbids := satisfied ps .forbid req
  let permits := satisfied ps .permit req
  if forbids.isEmpty && !permits.isEmpty then ⟨.allow, permits, evaluationErrors ps req⟩
  else ⟨.deny, forbids, evaluationErrors ps req⟩

/-- **No policy, no access**: the empty policy set denies every request. -/
theorem isAuthorized_nil (req : Request) : isAuthorized [] req = ⟨.deny, [], []⟩ := rfl

/-- The order in which `Diagnostics::reason()` iterates its `HashSet` of policy ids. The set's
hasher is seeded afresh for every set, so every response lists the ids in an order of its own. -/
structure ReasonOrder where
  /-- The listing of a set of ids. -/
  enum : List String → List String
  /-- Every id is listed, as often as the set has it. -/
  perm : ∀ ids, (enum ids).Perm ids

/-- The ids in the order the policies were added. -/
def ReasonOrder.insertion : ReasonOrder := ⟨id, fun _ => .refl _⟩

/-- `AuthorizationDecision`, with `is_allowed`. -/
structure AuthorizationDecision where
  decision : Decision
  reasons : List String
  errors : List String

/-- `AuthorizationDecision::from_cedar_response`: the reasons as `order` iterates them. -/
def AuthorizationDecision.fromCedarResponse (order : ReasonOrder) (r : Response) :
    AuthorizationDecision :=
  ⟨r.decision, order.enum r.reasons, r.errors⟩

/-- `AuthorizationDecision::is_allowed`. -/
def AuthorizationDecision.isAllowed (d : AuthorizationDecision) : Bool := d.decision = .allow

/-! ### The engine -/

/-- `PolicySet::add`: a policy under an id the set already has is refused. -/
def policySetAdd (set : List Policy) (p : Policy) : Except AppError (List Policy) :=
  if p.id ∈ set.map (·.id) then
    .error (.other ("duplicate template or policy id `" ++ p.id ++ "`"))
  else .ok (set ++ [p])

section Engine

variable (parse : String → Except String PolicyBody)

/-- The loop of `load_policies`: parse each text under its id and add it to `set`, stopping at
the first that fails. -/
def buildPolicySet : List Policy → List (Uuid × String) → Except AppError (List Policy)
  | set, [] => .ok set
  | set, (policyId, policyText) :: rest =>
    match parse policyText with
    | .error e => .error (.other ("Failed to parse policy " ++ policyId.hyphenated ++ ": " ++ e))
    | .ok body => do
      let set ← policySetAdd set ⟨policyId.hyphenated, body⟩
      buildPolicySet set rest

/-- `CedarEngine::load_policies` on the working set `ws`: the number of policies loaded, and
the working set after the call. -/
def loadPolicies (ws : List Policy) (policyTexts : List (Uuid × String)) :
    Except AppError ℕ × List Policy :=
  match buildPolicySet parse [] policyTexts with
  | .error e => (.error e, ws)
  | .ok set => (.ok set.length, set)

/-- `CedarEngine::add_policy` on the working set `ws`: the working set after the call. -/
def addPolicy (ws : List Policy) (policyId : Uuid) (policyText : String) :
    Except AppError Unit × List Policy :=
  match parse policyText with
  | .error e => (.error (.other ("Failed to parse policy: " ++ e)), ws)
  | .ok body =>
    match policySetAdd ws ⟨policyId.hyphenated, body⟩ with
    | .error e => (.error e, ws)
    | .ok ws' => (.ok (), ws')

/-- The policies of a list of texts, each under its id, if they all parse. -/
def parseAll : List (Uuid × String) → Option (List Policy)
  | [] => some []
  | (policyId, policyText) :: rest =>
    match parse policyText with
    | .ok body => (parseAll rest).map (⟨policyId.hyphenated, body⟩ :: ·)
    | .error _ => none

theorem policySetAdd_of_not_mem {set : List Policy} {p : Policy}
    (h : p.id ∉ set.map (·.id)) : policySetAdd set p = .ok (set ++ [p]) := by
  simp [policySetAdd, h]

/-- The loop adds every text that parses, under distinct ids, after the policies already there. -/
theorem buildPolicySet_of_parseAll :
    ∀ {set : List Policy} {policyTexts : List (Uuid × String)} {ps : List Policy},
      parseAll parse policyTexts = some ps → ((set ++ ps).map (·.id)).Nodup →
        buildPolicySet parse set policyTexts = .ok (set ++ ps)
  | set, [], ps, h, _ => by
    cases h
    simp [buildPolicySet]
  | set, (policyId, policyText) :: rest, ps, h, hnd => by
    simp only [parseAll] at h
    split at h
    case h_2 => cases h
    rename_i body hparse
    obtain ⟨ps', hps', rfl⟩ := Option.map_eq_some'.1 h
    have hnotin : policyId.hyphenated ∉ set.map (·.id) := by
      rw [List.map_append, List.nodup_append] at hnd
      exact fun hin => hnd.2.2 hin (List.mem_cons_self _ _)
    have hrest := @buildPolicySet_of_parseAll (set ++ [⟨policyId.hyphenated, body⟩]) _ _ hps'
      (by rwa [List.append_assoc, List.singleton_append])
    rw [List.append_assoc, List.singleton_append] at hrest
    rw [buildPolicySet, hparse]
    show policySetAdd set _ >>= _ = _
    rw [@policySetAdd_of_not_mem set ⟨policyId.hyphenated, body⟩ hnotin]
    exact hrest

/-- Parsing keeps each policy under the text of its id. -/
theorem parseAll_map_id : ∀ {policyTexts : List (Uuid × String)} {ps : List Policy},
    parseAll parse policyTexts = some ps → ps.map (·.id) = policyTexts.map (·.1.hyphenated)
  | [], ps, h => by cases h; rfl
  | (policyId, policyText) :: rest, ps, h => by
    simp only [parseAll] at h
    split at h
    case h_2 => cases h
    obtain ⟨ps', hps', rfl⟩ := Option.map_eq_some'.1 h
    rw [List.map_cons, parseAll_map_id hps']
    rfl

/-- **A reload that succeeds replaces the working set**: when every text parses, under distinct
ids, the working set becomes exactly their policies, whatever it was. -/
theorem loadPolicies_ok {policyTexts : List (Uuid × String)} {ps : List Policy}
    (h : parseAll parse policyTexts = some ps) (hnd : (policyTexts.map (·.1)).Nodup)
    (ws : List Policy) :
    loadPolicies parse ws policyTexts = (.ok ps.length, ps) := by
  have hids : (ps.map (·.id)).Nodup := by
    rw [parseAll_map_id parse h]
    simpa only [List.map_map, Function.comp_def] using hnd.map Uuid.hyphenated_injective
  rw [loadPolicies, buildPolicySet_of_parseAll parse h (by simpa using hids)]
  rfl

/-- A reload that fails keeps the working set. -/
theorem loadPolicies_error {ws : List Policy} {policyTexts : List (Uuid × String)} {e : AppError}
    (h : buildPolicySet parse [] policyTexts = .error e) :
    loadPolicies parse ws policyTexts = (.error e, ws) := by
  rw [loadPolicies, h]

theorem policySetAdd_eq_ok {set set' : List Policy} {p : Policy} :
    policySetAdd set p = .ok set' ↔ p.id ∉ set.map (·.id) ∧ set' = set ++ [p] := by
  unfold policySetAdd
  split_ifs with h <;> simp [h, eq_comm]

/-- A loop that succeeds parsed every text, and added them under distinct ids. -/
theorem parseAll_of_buildPolicySet :
    ∀ {set set' : List Policy} {policyTexts : List (Uuid × String)}, (set.map (·.id)).Nodup →
      buildPolicySet parse set policyTexts = .ok set' →
        ∃ ps, parseAll parse policyTexts = some ps ∧ set' = set ++ ps ∧ (set'.map (·.id)).Nodup
  | set, set', [], hnd, h => by
    cases h
    exact ⟨[], rfl, by simp, hnd⟩
  | set, set', (policyId, policyText) :: rest, hnd, h => by
    rw [buildPolicySet] at h
    split at h
    · cases h
    next body hparse =>
      obtain ⟨set₁, hadd, hrest⟩ := except_bind_eq_ok.1 h
      obtain ⟨hnotin, rfl⟩ := policySetAdd_eq_ok.1 hadd
      have hnd₁ : ((set ++ [Policy.mk policyId.hyphenated body]).map (·.id)).Nodup := by
        rw [List.map_append, List.nodup_append]
        exact ⟨hnd, List.nodup_singleton _, by simpa using hnotin⟩
      obtain ⟨ps, hps, rfl, hnd'⟩ := parseAll_of_buildPolicySet hnd₁ hrest
      exact ⟨Policy.mk policyId.hyphenated body :: ps, by simp [parseAll, hparse, hps], by simp,
        hnd'⟩

/-- `load_policies` either parses every text, under distinct ids, and installs exactly their
policies, or fails and keeps `ws`. -/
theorem loadPolicies_atomic (ws : List Policy) (policyTexts : List (Uuid × String)) :
    (∃ ps, parseAll parse policyTexts = some ps ∧ (policyTexts.map (·.1)).Nodup ∧
        loadPolicies parse ws policyTexts = (.ok policyTexts.length, ps)) ∨
      ((parseAll parse policyTexts = none ∨ ¬ (policyTexts.map (·.1)).Nodup) ∧
        ∃ e, loadPolicies parse ws policyTexts = (.error e, ws)) := by
  by_cases hok : ∃ ps, parseAll parse policyTexts = some ps ∧ (policyTexts.map (·.1)).Nodup
  · obtain ⟨ps, hps, hnd⟩ := hok
    have hlen : ps.length = policyTexts.length := by
      simpa using congrArg List.length (parseAll_map_id parse hps)
    exact .inl ⟨ps, hps, hnd, hlen ▸ loadPolicies_ok parse hps hnd ws⟩
  refine .inr ⟨?_, ?_⟩
  · cases hps : parseAll parse policyTexts with
    | none => exact .inl rfl
    | some ps => exact .inr fun hnd => hok ⟨ps, hps, hnd⟩
  · cases hb : buildPolicySet parse [] policyTexts with
    | error e => exact ⟨e, loadPolicies_error parse hb⟩
    | ok set =>
      obtain ⟨ps, hps, hset, hnd⟩ := @parseAll_of_buildPolicySet parse [] set _ List.nodup_nil hb
      refine absurd ⟨ps, hps, ?_⟩ hok
      rw [hset, List.nil_append, parseAll_map_id parse hps] at hnd
      exact List.Nodup.of_map Uuid.hyphenated (by simpa [Function.comp_def] using hnd)

/-- `add_policy` either adds exactly the parsed policy under its free id, or fails and keeps
`ws`. -/
theorem addPolicy_atomic (ws : List Policy) (policyId : Uuid) (policyText : String) :
    (∃ body, parse policyText = .ok body ∧ policyId.hyphenated ∉ ws.map (·.id) ∧
        addPolicy parse ws policyId policyText = (.ok (), ws ++ [⟨policyId.hyphenated, body⟩])) ∨
      ((∃ e, parse policyText = .error e) ∨ policyId.hyphenated ∈ ws.map (·.id)) ∧
        ∃ e, addPolicy parse ws policyId policyText = (.error e, ws) := by
  unfold addPolicy
  cases hp : parse policyText with
  | error e => exact .inr ⟨.inl ⟨e, rfl⟩, _, rfl⟩
  | ok body =>
    dsimp only
    cases hadd : policySetAdd ws ⟨policyId.hyphenated, body⟩ with
    | error e =>
      refine .inr ⟨.inr (by_contra fun hin => ?_), e, rfl⟩
      rw [@policySetAdd_of_not_mem ws ⟨policyId.hyphenated, body⟩ hin] at hadd
      exact nomatch hadd
    | ok ws' =>
      obtain ⟨hin, rfl⟩ := policySetAdd_eq_ok.1 hadd
      exact .inl ⟨body, rfl, hin, rfl⟩

/-- **Reload and add are atomic on failure.** On every working set `ws`, `load_policies` either
parses every text, under distinct ids, answers their number and replaces `ws` by exactly their
policies, or, when a text fails to parse or an id repeats, fails and keeps `ws`. `add_policy`
either adds exactly the parsed policy under its id, or fails, when the text does not parse or
the id is taken, and keeps `ws`. -/
theorem reload_and_add_atomic (ws : List Policy) (policyTexts : List (Uuid × String))
    (policyId : Uuid) (policyText : String) :
    ((∃ ps, parseAll parse policyTexts = some ps ∧ (policyTexts.map (·.1)).Nodup ∧
        loadPolicies parse ws policyTexts = (.ok policyTexts.length, ps)) ∨
      ((parseAll parse policyTexts = none ∨ ¬ (policyTexts.map (·.1)).Nodup) ∧
        ∃ e, loadPolicies parse ws policyTexts = (.error e, ws))) ∧
    ((∃ body, parse policyText = .ok body ∧ policyId.hyphenated ∉ ws.map (·.id) ∧
        addPolicy parse ws policyId policyText = (.ok (), ws ++ [⟨policyId.hyphenated, body⟩])) ∨
      ((∃ e, parse policyText = .error e) ∨ policyId.hyphenated ∈ ws.map (·.id)) ∧
        ∃ e, addPolicy parse ws policyId policyText = (.error e, ws)) :=
  ⟨loadPolicies_atomic parse ws policyTexts, addPolicy_atomic parse ws policyId policyText⟩

/-- `CedarEngine::is_authorized`: the decision of the working set on a request, with the empty
entities the callers pass, its reasons listed in the order of this response's set. -/
def engineIsAuthorized (ws : List Policy) (request : Request) (order : ReasonOrder) :
    AuthorizationDecision :=
  AuthorizationDecision.fromCedarResponse order (isAuthorized ws request)

/-! ### Adding policies moves decisions one way -/

/-- The working set after `add_policy` calls in turn, each of which may fail. -/
def addPolicies (ws : List Policy) : List (Uuid × String) → List Policy
  | [] => ws
  | (policyId, policyText) :: rest => addPolicies (addPolicy parse ws policyId policyText).2 rest

/-- The engine allows exactly when no `forbid` and some `permit` policy is satisfied. -/
theorem engineIsAuthorized_isAllowed (ws : List Policy) (request : Request)
    (order : ReasonOrder) :
    (engineIsAuthorized ws request order).isAllowed = true ↔
      satisfied ws .forbid request = [] ∧ satisfied ws .permit request ≠ [] := by
  simp only [engineIsAuthorized, AuthorizationDecision.isAllowed,
    AuthorizationDecision.fromCedarResponse, isAuthorized, decide_eq_true_eq]
  split_ifs with h <;> simp_all

theorem satisfied_append (ws : List Policy) (p : Policy) (effect : Effect) (request : Request) :
    satisfied (ws ++ [p]) effect request =
      satisfied ws effect request ++ satisfied [p] effect request := by
  simp only [satisfied, List.filter_append, List.map_append]

theorem satisfied_singleton_of_ne {p : Policy} {effect : Effect} (h : p.body.effect ≠ effect)
    (request : Request) : satisfied [p] effect request = [] := by
  simp [satisfied, h]

/-- A call of `add_policy` keeps the working set, or appends the policy its text parses to. -/
theorem addPolicy_cases (ws : List Policy) (policyId : Uuid) (policyText : String) :
    (addPolicy parse ws policyId policyText).2 = ws ∨
      ∃ body, parse policyText = .ok body ∧
        (addPolicy parse ws policyId policyText).2 = ws ++ [⟨policyId.hyphenated, body⟩] := by
  rcases addPolicy_atomic parse ws policyId policyText with ⟨body, hp, -, h⟩ | ⟨-, e, h⟩
  · exact .inr ⟨body, hp, by rw [h]⟩
  · exact .inl (by rw [h])

/-- A call that adds a `forbid` policy, if it adds one, allows nothing it did not allow
before. -/
theorem addPolicy_isAllowed_of_forbid {ws : List Policy} {policyId : Uuid} {policyText : String}
    (hforbid : ∀ body, parse policyText = .ok body → body.effect = .forbid) {request : Request}
    {order order' : ReasonOrder}
    (h : (engineIsAuthorized (addPolicy parse ws policyId policyText).2 request order).isAllowed =
      true) :
    (engineIsAuthorized ws request order').isAllowed = true := by
  rcases addPolicy_cases parse ws policyId policyText with hws | ⟨body, hp, hws⟩ <;>
    rw [hws] at h
  · exact h
  rw [engineIsAuthorized_isAllowed, satisfied_append, satisfied_append,
    @satisfied_singleton_of_ne ⟨policyId.hyphenated, body⟩ .permit
      (by rw [hforbid body hp]; decide) request, List.append_nil, List.append_eq_nil] at h
  exact (engineIsAuthorized_isAllowed ws request order').2 ⟨h.1.1, h.2⟩

/-- A call that adds a `permit` policy, if it adds one, still allows what it allowed before. -/
theorem addPolicy_isAllowed_of_permit {ws : List Policy} {policyId : Uuid} {policyText : String}
    (hpermit : ∀ body, parse policyText = .ok body → body.effect = .permit) {request : Request}
    {order order' : ReasonOrder} (h : (engineIsAuthorized ws request order).isAllowed = true) :
    (engineIsAuthorized (addPolicy parse ws policyId policyText).2 request order').isAllowed =
      true := by
  rcases addPolicy_cases parse ws policyId policyText with hws | ⟨body, hp, hws⟩ <;> rw [hws]
  · exact h
  obtain ⟨hf, hp'⟩ := (engineIsAuthorized_isAllowed ws request order).1 h
  rw [engineIsAuthorized_isAllowed, satisfied_append, satisfied_append,
    @satisfied_singleton_of_ne ⟨policyId.hyphenated, body⟩ .forbid
      (by rw [hpermit body hp]; decide) request, List.append_nil, hf]
  exact ⟨rfl, fun hnil => hp' (List.append_eq_nil.1 hnil).1⟩

/-- **Adding policies moves decisions one way only.** Over any sequence of `add_policy` calls on
any working set, whichever of them fail, and whatever order each response lists its reasons in:
when every text among them that parses is a `forbid` policy, a request allowed after the calls
was allowed before; when every one is a `permit` policy, a request allowed before is still
allowed after. -/
theorem addPolicies_monotone (ws : List Policy) (adds : List (Uuid × String)) (request : Request)
    (order order' : ReasonOrder) :
    ((∀ a ∈ adds, ∀ body, parse a.2 = .ok body → body.effect = .forbid) →
      (engineIsAuthorized (addPolicies parse ws adds) request order).isAllowed = true →
        (engineIsAuthorized ws request order').isAllowed = true) ∧
    ((∀ a ∈ adds, ∀ body, parse a.2 = .ok body → body.effect = .permit) →
      (engineIsAuthorized ws request order).isAllowed = true →
        (engineIsAuthorized (addPolicies parse ws adds) request order').isAllowed = true) := by
  induction adds generalizing ws with
  | nil => exact ⟨fun _ h => h, fun _ h => h⟩
  | cons a rest ih =>
    obtain ⟨policyId, policyText⟩ := a
    simp only [addPolicies, List.forall_mem_cons]
    exact ⟨fun ⟨hfirst, hrest⟩ h =>
        addPolicy_isAllowed_of_forbid parse hfirst ((ih _).1 hrest h),
      fun ⟨hfirst, hrest⟩ h => (ih _).2 hrest (addPolicy_isAllowed_of_permit parse hfirst h)⟩

end Engine

/-! ### Requests -/

/-- The text before and the text after the first occurrence of `sep`, if there is one
(`str::splitn(2, sep)` with two parts). -/
def splitOnce (sep : List Char) : List Char → Option (List Char × List Char)
  | [] => none
  | c :: cs =>
    if sep.isPrefixOf (c :: cs) then some ([], (c :: cs).drop sep.length)
    else (splitOnce sep cs).map fun (a, b) => (c :: a, b)

/-- `str::trim_matches(c)`: the text without the copies of `c` at either end. -/
def trimMatches (c : Char) (s : List Char) : List Char :=
  ((s.dropWhile (· = c)).reverse.dropWhile (· = c)).reverse

section Requests

variable (parseTypeName : String → Except String (List String))

/-- `parse_entity_uid`. -/
def parseEntityUid (s : String) : Except AppError EntityUid :=
  match splitOnce "::".data s.data with
  | none => .error (.other
      ("Invalid entity UID format: " ++ s ++ ". Expected 'Type::\"id\"'"))
  | some (typePart, idPart) =>
    match parseTypeName (String.mk typePart) with
    | .error e => .error (.other e)
    | .ok typeName => .ok ⟨typeName, String.mk (trimMatches '"' idPart)⟩

/-- `parse_action_uid`: a bare name is an action of type `Action`. -/
def parseActionUid (s : String) : Except AppError EntityUid :=
  if (splitOnce "::".data s.data).isNone then
    parseEntityUid parseTypeName ("Action::\"" ++ s ++ "\"")
  else parseEntityUid parseTypeName s

/-- `AuthorizationRequestBuilder`; the context is never added to by the code. -/
structure AuthorizationRequestBuilder where
  principal : Option String
  action : Option String
  resource : Option String

/-- `AuthorizationRequestBuilder::build`. -/
def AuthorizationRequestBuilder.build (b : AuthorizationRequestBuilder) :
    Except AppError Request := do
  let principal ← match b.principal with
    | some p => pure p
    | none => throw (.other "Principal is required")
  let action ← match b.action with
    | some a => pure a
    | none => throw (.other "Action is required")
  let resource ← match b.resource with
    | some r => pure r
    | none => throw (.other "Resource is required")
  let principalUid ← parseEntityUid parseTypeName principal
  let actionUid ← parseActionUid parseTypeName action
  let resourceUid ← parseEntityUid parseTypeName resource
  pure ⟨principalUid, actionUid, resourceUid, []⟩

end Requests

/-! ### Entity references

What `parse_entity_uid` reads back from `Type::"id"`. It cuts at the first `::`, so the type
must be one name; and `trim_matches` drops every quote at either end, so the id must neither
start nor end with one. -/

theorem splitOnce_sep_append {a : List Char} (ha : ':' ∉ a) (b : List Char) :
    splitOnce "::".data (a ++ "::".data ++ b) = some (a, b) := by
  induction a with
  | nil => simp [splitOnce, List.isPrefixOf]
  | cons c a ih =>
    have hc : c ≠ ':' := fun h => ha (h ▸ .head _)
    rw [List.cons_append, List.cons_append, splitOnce,
      if_neg (by simp [List.isPrefixOf, Ne.symm hc]), ih fun h => ha (.tail _ h)]
    rfl

theorem trimMatches_wrap {c : Char} {s : List Char} (hhead : s.head? ≠ some c)
    (hlast : s.getLast? ≠ some c) : trimMatches c (c :: s ++ [c]) = s := by
  rcases s with _ | ⟨x, xs⟩
  · simp [trimMatches]
  have hx : x ≠ c := fun h => hhead (by simp [h])
  have hback : ((x :: xs).reverse).dropWhile (· = c) = (x :: xs).reverse := by
    rcases h : (x :: xs).reverse with _ | ⟨y, ys⟩
    · rfl
    · have hy : y ≠ c := fun hyc => hlast (by rw [← List.head?_reverse, h, hyc]; rfl)
      simp [List.dropWhile, hy]
  simp only [List.reverse_cons] at hback
  simp [trimMatches, List.dropWhile, hx, hback]

section References

variable {parseTypeName : String → Except String (List String)}

/-- A reference whose type is one name and whose id neither starts nor ends with a quote reads
back as that type and that id. -/
theorem parseEntityUid_quoted {typeName s : String} {path : List String}
    (htype : ':' ∉ typeName.data) (hpath : parseTypeName typeName = .ok path)
    (hhead : s.data.head? ≠ some '"') (hlast : s.data.getLast? ≠ some '"') :
    parseEntityUid parseTypeName (typeName ++ "::\"" ++ s ++ "\"") = .ok ⟨path, s⟩ := by
  have hsplit : splitOnce "::".data (typeName ++ "::\"" ++ s ++ "\"").data =
      some (typeName.data, '"' :: s.data ++ ['"']) := by
    simpa [List.append_assoc] using splitOnce_sep_append htype ('"' :: s.data ++ ['"'])
  simp only [parseEntityUid, hsplit, hpath, trimMatches_wrap hhead hlast]

/-- A bare action name and its qualified form read back alike, as the action of that name. -/
theorem parseActionUid_bare {n : String} (haction : parseTypeName "Action" = .ok ["Action"])
    (hn : splitOnce "::".data n.data = none) (hhead : n.data.head? ≠ some '"')
    (hlast : n.data.getLast? ≠ some '"') :
    parseActionUid parseTypeName n = .ok ⟨["Action"], n⟩ ∧
      parseActionUid parseTypeName ("Action::\"" ++ n ++ "\"") = .ok ⟨["Action"], n⟩ := by
  have hqualified : parseEntityUid parseTypeName ("Action" ++ "::\"" ++ n ++ "\"") =
      .ok ⟨["Action"], n⟩ :=
    parseEntityUid_quoted (by decide) haction hhead hlast
  have hsplit : splitOnce "::".data ("Action::\"" ++ n ++ "\"").data =
      some ("Action".data, '"' :: n.data ++ ['"']) := by
    simpa [List.append_assoc] using splitOnce_sep_append (a := "Action".data) (by decide)
      ('"' :: n.data ++ ['"'])
  exact ⟨by rw [parseActionUid, hn]; exact hqualified,
    by rw [parseActionUid, hsplit]; exact hqualified⟩

end References

/-- The pieces of a text between its `::` separators, within `fuel` cuts. -/
def splitPath : ℕ → List Char → List (List Char)
  | 0, s => [s]
  | fuel + 1, s =>
    match splitOnce "::".data s with
    | none => [s]
    | some (a, b) => a :: splitPath fuel b

/-- A Cedar identifier: a letter or an underscore, then letters, digits and underscores. -/
def isIdentifier : List Char → Bool
  | [] => false
  | c :: cs => (c.isAlpha || c == '_') && cs.all fun d => d.isAlphanum || d == '_'

/-- `EntityTypeName::from_str` as a path of identifiers separated by `::`. -/
def pathTypeName (s : String) : Except String (List String) :=
  let pieces := splitPath s.length s.data
  if pieces.all isIdentifier then .ok (pieces.map String.mk)
  else .error ("invalid type name: " ++ s)

/-- The namespaced type `Ns::User` is read at its first separator: its reference is an entity
of type `Ns` with the id `User::"s`. An id with its own quotes loses them. -/
theorem namespaced_reference_misread :
    pathTypeName "Ns::User" = .ok ["Ns", "User"] ∧
    parseEntityUid pathTypeName ("Ns::User" ++ "::\"" ++ "s" ++ "\"") = .ok ⟨["Ns"], "User::\"s"⟩ ∧
    parseEntityUid pathTypeName ("User" ++ "::\"" ++ "\"q\"" ++ "\"") = .ok ⟨["User"], "q"⟩ :=
  ⟨rfl, rfl, rfl⟩

end AgentIam.Cedar
