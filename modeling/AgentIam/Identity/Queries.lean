import AgentIam.Basic
import Mathlib.Data.List.Sort

/-!
# The identities table and its recursive queries

The rows of `identities` (`db/schema.rs`), looked up by id, and the three recursive queries
that walk `parent_identity_id`:

* `calculateDelegationDepth` and `getDelegationChain` (`domain/identity.rs`), whose recursive
  term stops below depth 100;
* `getDelegationChainQuery` (`api/identities.rs`), which keeps only rows of one tenant and has no
  depth guard; its handler `Api.getDelegationChain` asks it for the nil tenant, the one tenant
  written into the handler.

All three are evaluated as PostgreSQL evaluates `WITH RECURSIVE ... UNION ALL`
(`recursiveUnionAll`): the working table starts as the base rows and is replaced by the rows
the recursive term produces from it, until it is empty; the result is every working table in
turn. The evaluation is given a number of rounds, and `none` means it has not finished within
them; the guarded queries finish within 101 rounds (`recursiveUnionAll_guard`).

A table is a list of rows; the order of the list is the order of insertion, newest first, and
no query depends on it.
-/

namespace AgentIam.Identities

/-- `IdentityType`. -/
inductive IdentityType where
  | user
  | service
  | agent
  deriving DecidableEq, Repr

/-- `IdentityType::as_str`. -/
def IdentityType.asStr : IdentityType → String
  | .user => "user"
  | .service => "service"
  | .agent => "agent"

/-- A row of `identities` (`db::schema::Identity`). -/
structure Identity where
  id : Uuid
  tenantId : Uuid
  identityType : String
  name : String
  email : Option String
  status : String
  parentIdentityId : Option Uuid
  taskId : Option String
  taskScope : Option JsonValue
  expiresAt : Option ℤ
  passwordHash : Option String
  apiKeyHash : Option String
  metadata : JsonValue
  createdAt : ℤ
  updatedAt : ℤ
  lastLoginAt : Option ℤ

/-- `SELECT ... FROM identities WHERE id = $1`, `fetch_optional`. -/
def lookup (s : List Identity) (id : Uuid) : Option Identity := s.find? (·.id = id)

/-- `get_identity_by_id`. -/
def getIdentityById (s : List Identity) (id : Uuid) : Except AppError Identity :=
  match lookup s id with
  | some i => .ok i
  | none => .error .identityNotFound

/-! ### Recursive queries -/

/-- `WITH RECURSIVE` with `UNION ALL`, given `fuel` rounds: the rows of every working table,
from `w` on, while `step` produces new ones; `none` if rows remain after the last round. -/
def recursiveUnionAll {α : Type} (step : List α → List α) : ℕ → List α → Option (List α)
  | _, [] => some []
  | 0, _ :: _ => none
  | fuel + 1, w => (recursiveUnionAll step fuel (step w)).map (w ++ ·)

/-- The recursive term of the three queries: join the working rows to the identities their
`parent_identity_id` names, at one more depth, keeping the pairs that pass `keep` (on the
parent's row and the working row's depth). -/
def joinParents (s : List Identity) (keep : Identity → ℕ → Bool) (w : List (Identity × ℕ)) :
    List (Identity × ℕ) :=
  w.flatMap fun r =>
    (s.filter fun i => decide (some i.id = r.1.parentIdentityId) && keep i r.2).map (·, r.2 + 1)

/-- The depth guard `WHERE dc.depth < 100`. -/
def belowGuard (_ : Identity) (depth : ℕ) : Bool := decide (depth < 100)

/-- The tenant filter `WHERE i.tenant_id = $2`. -/
def inTenant (tenantId : Uuid) (i : Identity) (_ : ℕ) : Bool := decide (i.tenantId = tenantId)

/-- `ORDER BY depth`. -/
def orderByDepth {α : Type} (rows : List (α × ℕ)) : List (α × ℕ) :=
  rows.mergeSort fun a b => decide (a.2 ≤ b.2)

/-- The guarded walk from `id`, evaluated for the 101 rounds it can take. -/
def guardedChainRows (s : List Identity) (id : Uuid) : List (Identity × ℕ) :=
  (recursiveUnionAll (joinParents s belowGuard) 101 ((s.filter (·.id = id)).map (·, 0))).getD []

/-- `calculate_delegation_depth`: `MAX(depth)` of the guarded walk, `0` when it is empty. -/
def calculateDelegationDepth (s : List Identity) (id : Uuid) : ℕ :=
  ((guardedChainRows s id).map (·.2)).max?.getD 0

/-- `domain::identity::get_delegation_chain`: the guarded walk, ordered by depth. -/
def getDelegationChain (s : List Identity) (id : Uuid) : List Identity :=
  (orderByDepth (guardedChainRows s id)).map (·.1)

/-- `DelegationChainNode`: the columns `get_delegation_chain_query` selects. -/
structure DelegationChainNode where
  id : Uuid
  identityType : String
  name : String
  email : Option String
  status : String
  parentIdentityId : Option Uuid
  taskId : Option String
  taskScope : Option JsonValue
  expiresAt : Option ℤ
  createdAt : ℤ
  depth : ℕ

/-- The node of a row at a depth. -/
def DelegationChainNode.ofRow (r : Identity × ℕ) : DelegationChainNode :=
  ⟨r.1.id, r.1.identityType, r.1.name, r.1.email, r.1.status, r.1.parentIdentityId, r.1.taskId,
    r.1.taskScope, r.1.expiresAt, r.1.createdAt, r.2⟩

/-- `api::identities::get_delegation_chain_query`, given `fuel` rounds: the walk from `id` within
one tenant, with no depth guard, ordered by depth; `none` if it has not finished. -/
def getDelegationChainQuery (s : List Identity) (id tenantId : Uuid) (fuel : ℕ) :
    Option (List DelegationChainNode) :=
  (recursiveUnionAll (joinParents s (inTenant tenantId)) fuel
      ((s.filter fun i => i.id = id ∧ i.tenantId = tenantId).map (·, 0))).map
    fun rows => (orderByDepth rows).map DelegationChainNode.ofRow

/-- `DelegationChainResponse`. -/
structure DelegationChainResponse where
  identityId : Uuid
  chain : List DelegationChainNode

/-- `api::identities::get_delegation_chain`, given `fuel` rounds for its query: the tenant is the
nil UUID written into the handler, and an empty chain is `IdentityNotFound`. -/
def Api.getDelegationChain (s : List Identity) (identityId : Uuid) (fuel : ℕ) :
    Option (Except AppError DelegationChainResponse) :=
  (getDelegationChainQuery s identityId Uuid.nil fuel).map fun chain =>
    if chain.isEmpty then .error .identityNotFound else .ok ⟨identityId, chain⟩

/-! ### Evaluation -/

@[simp] theorem recursiveUnionAll_nil {α : Type} (step : List α → List α) (fuel : ℕ) :
    recursiveUnionAll step fuel [] = some [] := by
  cases fuel <;> rfl

theorem recursiveUnionAll_cons {α : Type} (step : List α → List α) (fuel : ℕ) (r : α)
    (w : List α) : recursiveUnionAll step (fuel + 1) (r :: w) =
      (recursiveUnionAll step fuel (step (r :: w))).map ((r :: w) ++ ·) := rfl

/-- More rounds do not change a finished evaluation. -/
theorem recursiveUnionAll_mono {α : Type} (step : List α → List α) :
    ∀ {n m : ℕ} {w rows : List α}, recursiveUnionAll step n w = some rows → n ≤ m →
      recursiveUnionAll step m w = some rows
  | _, _, [], _, h, _ => by simpa using h
  | 0, _, _ :: _, _, h, _ => nomatch h
  | n + 1, m + 1, r :: w, _, h, hnm => by
    rw [recursiveUnionAll_cons] at h ⊢
    obtain ⟨rows', h', rfl⟩ := Option.map_eq_some'.1 h
    rw [recursiveUnionAll_mono step h' (by omega)]
    rfl

/-- Rows at depth 100 or more produce nothing under the depth guard. -/
theorem joinParents_guard_eq_nil {s : List Identity} {w : List (Identity × ℕ)}
    (h : ∀ r ∈ w, 100 ≤ r.2) : joinParents s belowGuard w = [] := by
  simp only [joinParents, List.flatMap_eq_nil_iff, List.map_eq_nil_iff, List.filter_eq_nil_iff,
    belowGuard, Bool.and_eq_true, decide_eq_true_eq, not_and]
  exact fun r hr _ _ _ => by have := h r hr; omega

/-- Every row the recursive term produces is one deeper than some working row. -/
theorem joinParents_depth {s : List Identity} {keep : Identity → ℕ → Bool}
    {w : List (Identity × ℕ)} {d : ℕ} (h : ∀ r ∈ w, d ≤ r.2) :
    ∀ r ∈ joinParents s keep w, d + 1 ≤ r.2 := by
  simp only [joinParents, List.mem_flatMap, List.mem_map]
  rintro _ ⟨r, hr, i, -, rfl⟩
  exact Nat.succ_le_succ (h r hr)

/-- The guarded walk finishes on every table, cycles included: from rows at depth at least
`d`, `101 - d` rounds do. -/
theorem recursiveUnionAll_guard_isSome (s : List Identity) :
    ∀ (fuel d : ℕ) (w : List (Identity × ℕ)), (∀ r ∈ w, d ≤ r.2) →
      100 ≤ d + fuel →
      (recursiveUnionAll (joinParents s belowGuard) (fuel + 1) w).isSome
  | _, _, [], _, _ => by simp
  | 0, d, r :: w, h, hd => by
    rw [recursiveUnionAll_cons, joinParents_guard_eq_nil fun r' hr' => by have := h r' hr'; omega]
    rfl
  | fuel + 1, d, r :: w, h, hd => by
    rw [recursiveUnionAll_cons, Option.isSome_map']
    exact recursiveUnionAll_guard_isSome s fuel (d + 1) _ (joinParents_depth h) (by omega)

/-- **The 101 rounds of `guardedChainRows` are the whole evaluation**: from the base rows the
guarded walk has finished after them, and more rounds give the same rows. -/
theorem guardedChainRows_spec (s : List Identity) (id : Uuid) :
    ∀ fuel ≥ 101, recursiveUnionAll (joinParents s belowGuard) fuel
      ((s.filter (·.id = id)).map (·, 0)) = some (guardedChainRows s id) := by
  intro fuel hfuel
  obtain ⟨rows, h⟩ := Option.isSome_iff_exists.1 <|
    recursiveUnionAll_guard_isSome s 100 0 ((s.filter (·.id = id)).map (·, 0)) (by simp) le_rfl
  rw [recursiveUnionAll_mono _ h hfuel, guardedChainRows, h]
  rfl

end AgentIam.Identities
