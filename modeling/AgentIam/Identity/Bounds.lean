import AgentIam.Identity.Forest

/-!
# Delegation bounds

`provision_agent` caps the delegation depth and clamps the expiry of the agent it creates:
in every forest, the agent it inserts has at most `maxDelegationDepth` ancestors, exactly the
depth it reports (`provisionAgent_chain`), and never outlives its parent (`provisionAgent_expiry`).
`IdentityBuilder::build` checks neither, and it is public: an agent built with it directly under
an expiring parent has no expiry, and a tower of services built with it is as deep as wanted
(`direct_build_unbounded`).

The bounds hold of every table in which `build` only creates rows without a parent
(`DirectBuild`), delegation going through `provision_agent` (`Bounded`, `bounded_reachable`).

`ProvisionContract` gathers what one call does for every request: when it succeeds, what it
inserts and reports, and that it writes nothing when it fails (`provision_agent_contract`).

In the same tables the rows with a parent are agents (`parentedAgents_reachable`) and no row
outlives an expiring ancestor (`Bounded.expiry_chain`), so `delete_expired_agents` never leaves
an active agent under one it marks (`deleteExpiredAgents_subtree`).
-/

namespace AgentIam.Identities

/-- The builders passed to `build` directly when every delegation goes through
`provision_agent`: those without a parent. -/
def DirectBuild (b : IdentityBuilder) : Prop := b.parentIdentityId = none

/-- The delegation bounds: at most `maxDelegationDepth` ancestors, and no child outlives an
expiring parent. -/
structure Bounded (s : List Identity) : Prop where
  depth : ∀ x ∈ s, ∀ l, ChainOf s x l → l.tail.length ≤ maxDelegationDepth
  expiry : ∀ a ∈ s, ∀ p ∈ s, a.parentIdentityId = some p.id →
    ∀ E, p.expiresAt = some E → ∃ e, a.expiresAt = some e ∧ e ≤ E

/-! ### Inserting under a forest -/

section Insert

variable {i : Identity} {s : List Identity} (hs : Forest (i :: s))
include hs

/-- The parent of any row is an older row than a fresh one. -/
theorem Forest.parent_mem_of_cons {a p : Identity} (ha : a ∈ i :: s) (hp : p ∈ i :: s)
    (hap : a.parentIdentityId = some p.id) : p ∈ s := by
  rcases List.mem_cons.1 hp with rfl | hp
  · exact absurd ⟨a, ha, rfl, hap⟩ (hs.no_child a.id)
  · exact hp

/-- The chains of the older rows do not change when a row is inserted. -/
theorem Forest.chainOf_of_cons {x : Identity} {l : List Identity} (h : ChainOf (i :: s) x l)
    (hx : x ∈ s) : ChainOf s x l := by
  induction h with
  | root _ hp => exact .root hx hp
  | parent hx' hp hc ih =>
    have hps := hs.parent_mem_of_cons hx' (hc.mem_table _ hc.mem_head) hp
    exact .parent hx hp (ih hps)

/-- A fresh row that keeps both bounds keeps them for the whole table. -/
theorem Forest.bounded_cons (hb : Bounded s)
    (hdepth : ∀ l, ChainOf (i :: s) i l → l.tail.length ≤ maxDelegationDepth)
    (hexp : ∀ p ∈ i :: s, i.parentIdentityId = some p.id →
      ∀ E, p.expiresAt = some E → ∃ e, i.expiresAt = some e ∧ e ≤ E) :
    Bounded (i :: s) where
  depth x hx l hl := by
    rcases List.mem_cons.1 hx with rfl | hx
    exacts [hdepth l hl, hb.depth x hx l (hs.chainOf_of_cons hl hx)]
  expiry a ha p hp hap := by
    rcases List.mem_cons.1 ha with rfl | ha'
    exacts [hexp p hp hap, hb.expiry a ha' p (hs.parent_mem_of_cons ha hp hap) hap]

end Insert

/-! ### What `provision_agent` guarantees -/

theorem clampExpiry_le (expiresAt E : ℤ) : clampExpiry expiresAt (some E) ≤ E := by
  dsimp only [clampExpiry]
  split_ifs <;> omega

section Provision

variable {s : List Identity} {tenantId : Uuid} {request : AgentProvisionRequest} {id : Uuid}
  {now : ℤ} {r : AgentProvisionResult} (hs : Forest s)
  (h : provisionAgent s tenantId request id now = .ok r)
include hs h

/-- **The depth `provision_agent` reports is the agent's number of ancestors**, and it is at
most `maxDelegationDepth`, in every forest. -/
theorem provisionAgent_chain :
    ∃ l, ChainOf (r.agentIdentity :: s) r.agentIdentity l ∧
      l.tail.length = r.delegationDepth ∧
      r.delegationDepth ≤ maxDelegationDepth := by
  obtain ⟨parent, hl, -, -, hdepth, -, -, rfl⟩ := provisionAgent_eq_ok h
  obtain ⟨hpmem, hpid⟩ := lookup_eq_some hl
  obtain ⟨lp, hlp⟩ := hs.exists_chain parent hpmem
  have hlen := calculateDelegationDepth_eq hs.idsDistinct hlp
  have hpos := List.length_pos.2 hlp.ne_nil
  refine ⟨_ :: lp, .parent (List.mem_cons_self _ _) (by rw [hpid]; rfl)
    (hlp.mono fun q => List.mem_cons_of_mem _), ?_, ?_⟩ <;>
  · simp only [List.tail_cons, hlen, maxDelegationDepth] at hdepth ⊢
    omega

/-- **A provisioned agent never outlives its parent.** -/
theorem provisionAgent_expiry (hid : id ∉ s.map (·.id)) :
    ∀ p ∈ r.agentIdentity :: s, r.agentIdentity.parentIdentityId = some p.id →
      ∀ E, p.expiresAt = some E → ∃ e, r.agentIdentity.expiresAt = some e ∧ e ≤ E := by
  have hs' : Forest (r.agentIdentity :: s) :=
    ⟨(provisionAgent_inserts h).1 ▸ hid, (provisionAgent_inserts h).2, hs⟩
  intro p hp hap E hE
  have hps := hs'.parent_mem_of_cons (List.mem_cons_self _ _) hp hap
  obtain ⟨parent, hl, -, -, -, -, -, rfl⟩ := provisionAgent_eq_ok h
  obtain ⟨hpmem, hpid⟩ := lookup_eq_some hl
  have : p = parent := List.inj_on_of_nodup_map hs.idsDistinct hps hpmem
    (Option.some.inj (hap.symm.trans (by rw [hpid]; rfl)))
  subst this
  exact ⟨_, rfl, hE ▸ clampExpiry_le _ E⟩

end Provision

/-! ### The bounds over runs -/

/-- A chain of an updated table is the image of a chain of the table before, as long. -/
theorem ChainOf.of_map {s : List Identity} {g : Identity → Identity} (hg : KeepsLinks g)
    {x' : Identity} {l' : List Identity} (h : ChainOf (s.map g) x' l') :
    ∃ x l, x ∈ s ∧ g x = x' ∧ ChainOf s x l ∧ l'.length = l.length := by
  induction h with
  | root hx hp =>
    obtain ⟨x, hxs, rfl⟩ := List.mem_map.1 hx
    exact ⟨x, [x], hxs, rfl, .root hxs (hg.parentIdentityId x ▸ hp), rfl⟩
  | parent hx hp _ ih =>
    obtain ⟨x, hxs, rfl⟩ := List.mem_map.1 hx
    obtain ⟨p, l, -, rfl, hc, hlen⟩ := ih
    refine ⟨x, x :: l, hxs, rfl, .parent hxs ?_ hc, by simp [hlen]⟩
    rw [← hg.parentIdentityId, hp, hg.id]

/-- The bounds survive an update that keeps the links. -/
theorem Bounded.map {s : List Identity} {g : Identity → Identity} (hg : KeepsLinks g)
    (hb : Bounded s) : Bounded (s.map g) where
  depth x' _ l' hl' := by
    obtain ⟨x, l, hx, -, hl, hlen⟩ := hl'.of_map hg
    rw [List.length_tail, hlen, ← List.length_tail]
    exact hb.depth x hx l hl
  expiry a' ha' p' hp' hap E hE := by
    obtain ⟨a, ha, rfl⟩ := List.mem_map.1 ha'
    obtain ⟨p, hp, rfl⟩ := List.mem_map.1 hp'
    rw [hg.parentIdentityId, hg.id] at hap
    simp only [hg.expiresAt] at hE ⊢
    exact hb.expiry a ha p hp hap E hE

/-- **Every step of a run whose direct builds have no parent keeps the bounds.** -/
theorem bounded_step {s s' : List Identity} (hs : Forest s) (hb : Bounded s)
    (h : Step DirectBuild s s') : Bounded s' := by
  cases h with
  | build b id now i hd hid hbuild =>
    obtain ⟨hi, hp⟩ := build_inserts hbuild
    obtain ⟨-, -, rfl⟩ := build_eq_ok.1 hbuild
    have hs' : Forest (createIdentity b id now :: s) := ⟨hi ▸ hid, hp, hs⟩
    refine hs'.bounded_cons hb (fun l hl => ?_) fun p _ hap => nomatch hap.symm.trans hd
    rw [hl.unique hs'.idsDistinct (.root (List.mem_cons_self _ _) hd)]
    exact Nat.zero_le _
  | provisionAgent tenantId request id now r hid hr =>
    have hs' : Forest (r.agentIdentity :: s) :=
      ⟨(provisionAgent_inserts hr).1 ▸ hid, (provisionAgent_inserts hr).2, hs⟩
    obtain ⟨l, hl, hlen, hle⟩ := provisionAgent_chain hs hr
    refine hs'.bounded_cons hb (fun l' hl' => ?_) (provisionAgent_expiry hs hr hid)
    rw [← hl.unique hs'.idsDistinct hl', hlen]
    exact hle
  | updateIdentityStatus identityId status now r hr =>
    rw [updateIdentityStatus_eq_ok hr]
    exact hb.map (keepsLinks_update (keepsLinks_setStatus status now))
  | updateLastLogin identityId now => exact hb.map (keepsLinks_update (keepsLinks_setLastLogin now))
  | deleteExpiredAgents now => exact hb.map (keepsLinks_update (keepsLinks_setStatus "deleted" now))

theorem bounded_reachable {s : List Identity} (hr : Reachable DirectBuild s) : Bounded s := by
  induction hr with
  | refl => exact ⟨fun _ h => (nomatch h), fun _ h => (nomatch h)⟩
  | tail hr' hs ih => exact bounded_step (forest_reachable hr') ih hs

/-- **Delegation bounds hold when every delegation goes through `provision_agent`.** In every
table reachable by the five operations with `build` given only builders without a parent,
every row has at most 10 ancestors, every agent whose parent expires at `E` expires at or
before `E`, and the depth `provision_agent` returns is the new agent's number of ancestors. -/
theorem delegation_bounds {s : List Identity} (hr : Reachable DirectBuild s) :
    (∀ x ∈ s, ∀ l, ChainOf s x l → l.tail.length ≤ 10) ∧
    (∀ a ∈ s, a.identityType = "agent" → ∀ p ∈ s, a.parentIdentityId = some p.id →
      ∀ E, p.expiresAt = some E → ∃ e, a.expiresAt = some e ∧ e ≤ E) ∧
    ∀ tenantId request id now r, provisionAgent s tenantId request id now = .ok r →
      ∃ l, ChainOf (r.agentIdentity :: s) r.agentIdentity l ∧ l.tail.length = r.delegationDepth :=
  have hb := bounded_reachable hr
  ⟨hb.depth, fun a ha _ => hb.expiry a ha, fun _ _ _ _ _ h =>
    (provisionAgent_chain (forest_reachable hr) h).imp fun _ hl => ⟨hl.1, hl.2.1⟩⟩

/-- A root service of the nil tenant expiring at `100`. -/
def expiringRootBuilder : IdentityBuilder :=
  { IdentityBuilder.new Uuid.nil .service "svc" with expiresAt := some 100 }

/-- The row of `expiringRootBuilder`. -/
def expiringRoot : Identity := createIdentity expiringRootBuilder (towerId 0) 0

/-- The request that provisions an agent under `expiringRoot`, with the default TTL. -/
def rootTask : AgentProvisionRequest := ⟨towerId 0, "task", .null, "bot", none, none⟩

/-- The agent `provision_agent` creates for `rootTask` at instant `0`. -/
def provisionedAgent : AgentProvisionResult :=
  ⟨createIdentity (agentBuilder Uuid.nil rootTask 100 (jitMetadata 0)) (towerId 1) 0, 1⟩

/-- The bounds on a table of a root and an agent provisioned under it. -/
theorem delegation_bounds_provisioned :
    Reachable DirectBuild [provisionedAgent.agentIdentity, expiringRoot] ∧
    (∀ x ∈ [provisionedAgent.agentIdentity, expiringRoot], ∀ l,
      ChainOf [provisionedAgent.agentIdentity, expiringRoot] x l → l.tail.length ≤ 10) ∧
    (∀ a ∈ [provisionedAgent.agentIdentity, expiringRoot], a.identityType = "agent" →
      ∀ p ∈ [provisionedAgent.agentIdentity, expiringRoot], a.parentIdentityId = some p.id →
        ∀ E, p.expiresAt = some E → ∃ e, a.expiresAt = some e ∧ e ≤ E) ∧
    ∀ tenantId request id now r,
      provisionAgent [provisionedAgent.agentIdentity, expiringRoot] tenantId request id now =
        .ok r →
      ∃ l, ChainOf (r.agentIdentity :: [provisionedAgent.agentIdentity, expiringRoot])
        r.agentIdentity l ∧ l.tail.length = r.delegationDepth :=
  have hr : Reachable DirectBuild [provisionedAgent.agentIdentity, expiringRoot] :=
    .tail (.single (.build expiringRootBuilder (towerId 0) 0 expiringRoot rfl (by simp) rfl))
      (.provisionAgent Uuid.nil rootTask (towerId 1) 0 provisionedAgent (by decide) rfl)
  ⟨hr, delegation_bounds hr⟩

/-- An agent under `expiringRoot`, with no expiry of its own. -/
def directAgentBuilder : IdentityBuilder :=
  { IdentityBuilder.new Uuid.nil .agent "bot" with parentIdentityId := some (towerId 0) }

/-- The row of `directAgentBuilder`. -/
def directAgent : Identity := createIdentity directAgentBuilder (towerId 1) 0

/-- With `build` given any builder, both bounds fail: an agent built directly under a parent
expiring at `100` has no expiry, and the top of a tower of 12 services has 11 ancestors. -/
theorem direct_build_unbounded :
    Reachable (fun _ => True) [directAgent, expiringRoot] ∧ directAgent.identityType = "agent" ∧
      directAgent.parentIdentityId = some expiringRoot.id ∧ expiringRoot.expiresAt = some 100 ∧
      directAgent.expiresAt = none ∧
    Reachable (fun _ => True) (tower 11) ∧ ChainOf (tower 11) (towerRow 11) (tower 11) ∧
      (tower 11).tail.length = 11 :=
  ⟨.tail (.single (.build expiringRootBuilder (towerId 0) 0 expiringRoot trivial (by simp) rfl))
      (.build directAgentBuilder (towerId 1) 0 directAgent trivial (by decide) rfl),
    rfl, rfl, rfl, rfl, tower_reachable 11 (by decide), chainOf_tower 11,
    by rw [List.length_tail, tower_length]⟩

/-! ### The contract of `provision_agent` -/

/-- `clampExpiry` is the earlier of the two expiries. -/
theorem clampExpiry_eq (expiresAt : ℤ) (parentExpires : Option ℤ) :
    clampExpiry expiresAt parentExpires = (parentExpires.map (min expiresAt)).getD expiresAt := by
  cases parentExpires with
  | none => rfl
  | some E =>
    simp only [clampExpiry, Option.map_some', Option.getD_some, min_def]
    split_ifs <;> omega

/-- The contract of `provision_agent` on the table `s`, for the tenant `tenantId`, the request
`request`, the id `id` the insert receives and the instant `now`. -/
structure ProvisionContract (s : List Identity) (tenantId : Uuid)
    (request : AgentProvisionRequest) (id : Uuid) (now : ℤ) : Prop where
  /-- The call succeeds exactly when the parent exists in the tenant and is active, its
  computed depth is below 10, the TTL is within bounds and the name is not blank. -/
  ok_iff : (∃ r, provisionAgent s tenantId request id now = .ok r) ↔
    ∃ parent, lookup s request.parentIdentityId = some parent ∧ parent.tenantId = tenantId ∧
      parent.status = "active" ∧ calculateDelegationDepth s parent.id < maxDelegationDepth ∧
      minTtlSeconds ≤ request.ttlSeconds.getD 3600 ∧
      request.ttlSeconds.getD 3600 ≤ maxTtlSeconds ∧ ¬ request.name.data.all isWhitespace
  /-- On success the table gains one row, an agent of the tenant under the parent carrying the
  task, expiring when the TTL or the parent ends, whichever is first, whose number of ancestors
  is the reported depth, at most 10. -/
  on_ok : ∀ r, provisionAgent s tenantId request id now = .ok r →
    provisionAgentTable s tenantId request id now = r.agentIdentity :: s ∧
    Forest (r.agentIdentity :: s) ∧
    r.agentIdentity.identityType = "agent" ∧ r.agentIdentity.tenantId = tenantId ∧
    r.agentIdentity.parentIdentityId = some request.parentIdentityId ∧
    r.agentIdentity.taskId = some request.taskId ∧
    r.agentIdentity.taskScope = some request.taskScope ∧
    (∃ parent, lookup s request.parentIdentityId = some parent ∧
      r.agentIdentity.expiresAt = some ((parent.expiresAt.map
        (min (now + request.ttlSeconds.getD 3600))).getD (now + request.ttlSeconds.getD 3600))) ∧
    ∃ l, ChainOf (r.agentIdentity :: s) r.agentIdentity l ∧
      l.tail.length = r.delegationDepth ∧ r.delegationDepth ≤ maxDelegationDepth
  /-- On failure the table is unchanged. -/
  on_error : ∀ e, provisionAgent s tenantId request id now = .error e →
    provisionAgentTable s tenantId request id now = s
  /-- The computed depth of a row with at most 100 ancestors is their number. -/
  depth_exact : ∀ x ∈ s, ∀ l, ChainOf s x l → l.tail.length ≤ 100 →
    calculateDelegationDepth s x.id = l.tail.length

/-- **The `provision_agent` contract holds in every forest**, for an id no row has. -/
theorem provision_agent_contract {s : List Identity} (hs : Forest s) (tenantId : Uuid)
    (request : AgentProvisionRequest) {id : Uuid} (hid : id ∉ s.map (·.id)) (now : ℤ) :
    ProvisionContract s tenantId request id now where
  ok_iff := by
    refine ⟨fun ⟨r, h⟩ => ?_, fun ⟨parent, hl, ht, ha, hd, h1, h2, hn⟩ =>
      ⟨_, provisionAgent_eq_ok_iff.2 ⟨parent, hl, ht, ha, hd, h1, h2, hn, rfl⟩⟩⟩
    obtain ⟨parent, hl, ht, ha, hd, h1, h2, hn, -⟩ := provisionAgent_eq_ok_iff.1 h
    exact ⟨parent, hl, ht, ha, hd, h1, h2, hn⟩
  on_ok r h := by
    have hins := provisionAgent_inserts h
    refine ⟨by simp [provisionAgentTable, h], ⟨hins.1 ▸ hid, hins.2, hs⟩, ?_⟩
    have hchain := provisionAgent_chain hs h
    obtain ⟨parent, hl, -, -, -, -, -, -, rfl⟩ := provisionAgent_eq_ok_iff.1 h
    exact ⟨rfl, rfl, rfl, rfl, rfl, ⟨parent, hl, congrArg some (clampExpiry_eq _ _)⟩, hchain⟩
  on_error e h := by simp [provisionAgentTable, h]
  depth_exact x _ l hl hle := by
    rw [calculateDelegationDepth_eq hs.idsDistinct hl, List.length_tail] at *
    omega

/-- The contract on the table of `expiringRoot`, provisioning `rootTask` under it. -/
theorem provision_agent_contract_root :
    Forest [expiringRoot] ∧ towerId 1 ∉ [expiringRoot].map (·.id) ∧
      ProvisionContract [expiringRoot] Uuid.nil rootTask (towerId 1) 0 :=
  have hf : Forest [expiringRoot] := ⟨List.not_mem_nil _, fun _ h => (nomatch h), trivial⟩
  have hid : towerId 1 ∉ [expiringRoot].map (·.id) := by decide
  ⟨hf, hid, provision_agent_contract hf Uuid.nil rootTask hid 0⟩


/-! ### The expiry job and delegation subtrees -/

/-- The rows with a parent are agents. -/
def ParentedAgents (s : List Identity) : Prop :=
  ∀ i ∈ s, i.parentIdentityId ≠ none → i.identityType = "agent"

theorem parentedAgents_updateWhere {cond : Identity → Prop} [DecidablePred cond]
    (set : Identity → Identity)
    (hset : ∀ i, (set i).identityType = i.identityType ∧
      (set i).parentIdentityId = i.parentIdentityId)
    {s : List Identity} (h : ParentedAgents s) : ParentedAgents (updateWhere cond set s) := by
  simp only [ParentedAgents, updateWhere, List.mem_map]
  rintro _ ⟨i, hi, rfl⟩
  split
  · rw [(hset i).1, (hset i).2]
    exact h i hi
  · exact h i hi

/-- Every step of a run whose direct builds have no parent inserts parented rows only through
`provision_agent`, as agents. -/
theorem parentedAgents_step {s s' : List Identity} (hs : ParentedAgents s)
    (h : Step DirectBuild s s') : ParentedAgents s' := by
  cases h with
  | build b id now i hd _ hb =>
    obtain ⟨-, -, rfl⟩ := build_eq_ok.1 hb
    exact List.forall_mem_cons.2 ⟨fun hp => absurd hd hp, hs⟩
  | provisionAgent tenantId request id now r _ hr =>
    obtain ⟨parent, -, -, -, -, -, -, rfl⟩ := provisionAgent_eq_ok hr
    exact List.forall_mem_cons.2 ⟨fun _ => rfl, hs⟩
  | updateIdentityStatus identityId status now r hr =>
    rw [updateIdentityStatus_eq_ok hr]
    exact parentedAgents_updateWhere (setStatus status now) (fun _ => ⟨rfl, rfl⟩) hs
  | updateLastLogin identityId now =>
    exact parentedAgents_updateWhere (setLastLogin now) (fun _ => ⟨rfl, rfl⟩) hs
  | deleteExpiredAgents now =>
    exact parentedAgents_updateWhere (setStatus "deleted" now) (fun _ => ⟨rfl, rfl⟩) hs

theorem parentedAgents_reachable {s : List Identity} (hr : Reachable DirectBuild s) :
    ParentedAgents s := by
  induction hr with
  | refl => exact fun _ h => nomatch h
  | tail _ hstep ih => exact parentedAgents_step ih hstep

/-- Under the bounds, a row expires no later than any ancestor with an expiry. -/
theorem Bounded.expiry_chain {s : List Identity} (hb : Bounded s) {d : Identity}
    {l : List Identity} (hl : ChainOf s d l) {p : Identity} (hp : p ∈ l) {E : ℤ}
    (hE : p.expiresAt = some E) : ∃ e, d.expiresAt = some e ∧ e ≤ E := by
  induction hl with
  | root =>
    obtain rfl := List.mem_singleton.1 hp
    exact ⟨E, hE, le_rfl⟩
  | parent hx hxp hc ih =>
    rcases List.mem_cons.1 hp with rfl | hp
    · exact ⟨E, hE, le_rfl⟩
    · obtain ⟨e', he', hle⟩ := ih hp
      obtain ⟨e, he, hle'⟩ := hb.expiry _ hx _ (hc.mem_table _ hc.mem_head) hxp e' he'
      exact ⟨e, he, hle'.trans hle⟩

/-- **The expiry job takes whole delegation subtrees.** In every table where delegation goes
through `provision_agent`, when `delete_expired_agents` marks an agent at `now`, every active
row below it is an expired agent too, since `provision_agent` clamped each expiry to its
parent's: the same call marks it, and no active agent is left under an agent the job
deletes. -/
theorem deleteExpiredAgents_subtree {s : List Identity} (hr : Reachable DirectBuild s) (now : ℤ)
    {d : Identity} {l : List Identity} (hl : ChainOf s d l) {p : Identity} (hp : p ∈ l)
    (hexp : ExpiredAgent now p) (hd : d.status = "active") : ExpiredAgent now d := by
  obtain ⟨hagent, -, E, hE, hEnow⟩ := hexp
  obtain ⟨e, he, hle⟩ := (bounded_reachable hr).expiry_chain hl hp hE
  refine ⟨?_, hd, e, he, hle.trans_lt hEnow⟩
  cases hl with
  | root =>
    obtain rfl := List.mem_singleton.1 hp
    exact hagent
  | parent hx hpar _ => exact parentedAgents_reachable hr d hx (by simp [hpar])

/-- The request that provisions an agent under `provisionedAgent`, with the default TTL. -/
def subTask : AgentProvisionRequest := ⟨towerId 1, "subtask", .null, "sub", none, none⟩

/-- The agent `provision_agent` creates for `subTask` at instant `0`. -/
def subAgent : AgentProvisionResult :=
  ⟨createIdentity (agentBuilder Uuid.nil subTask 100 (jitMetadata 1)) (towerId 2) 0, 2⟩

/-- A root expiring at `100`, an agent under it and a sub-agent under that, all provisioned at
`0`: at `200` the job marks the agent, and the active sub-agent with it. -/
theorem deleteExpiredAgents_subtree_agent :
    Reachable DirectBuild
        [subAgent.agentIdentity, provisionedAgent.agentIdentity, expiringRoot] ∧
      ChainOf [subAgent.agentIdentity, provisionedAgent.agentIdentity, expiringRoot]
        subAgent.agentIdentity
        [subAgent.agentIdentity, provisionedAgent.agentIdentity, expiringRoot] ∧
      provisionedAgent.agentIdentity ∈
        [subAgent.agentIdentity, provisionedAgent.agentIdentity, expiringRoot] ∧
      ExpiredAgent 200 provisionedAgent.agentIdentity ∧ subAgent.agentIdentity.status = "active" ∧
      ExpiredAgent 200 subAgent.agentIdentity :=
  have hr : Reachable DirectBuild
      [subAgent.agentIdentity, provisionedAgent.agentIdentity, expiringRoot] :=
    .tail (.tail (.single (.build expiringRootBuilder (towerId 0) 0 expiringRoot rfl (by simp) rfl))
      (.provisionAgent Uuid.nil rootTask (towerId 1) 0 provisionedAgent (by decide) rfl))
      (.provisionAgent Uuid.nil subTask (towerId 2) 0 subAgent (by decide) rfl)
  have hl : ChainOf [subAgent.agentIdentity, provisionedAgent.agentIdentity, expiringRoot]
      subAgent.agentIdentity
      [subAgent.agentIdentity, provisionedAgent.agentIdentity, expiringRoot] :=
    .parent (by simp) (by rfl) (.parent (by simp) (by rfl) (.root (by simp) rfl))
  have hexp : ExpiredAgent 200 provisionedAgent.agentIdentity := by decide
  ⟨hr, hl, by simp, hexp, rfl, deleteExpiredAgents_subtree hr 200 hl (by simp) hexp rfl⟩

end AgentIam.Identities
