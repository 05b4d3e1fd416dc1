import AgentIam.Identity.Store
import AgentIam.Identity.Chain

/-!
# The identity forest

`Forest s`: every row has an id that no older row has, and a parent it names is an older row of
its tenant. Every step keeps it (`forest_step`), so every reachable table is a forest
(`forest_reachable`), whatever builders `build` is given. On a forest:

* the ids are distinct, and the parent graph is acyclic (`Forest.acyclic`): a fresh row has no
  child, so no cycle passes through it, and the cycles of the older rows are those of the table
  before the insert;
* every row has one delegation chain, in which no row repeats, all of whose rows are in its
  tenant, and no longer than the table (`Forest.exists_chain`, `Forest.chain_nodup`,
  `Forest.chain_tenant`, `Forest.chain_length_le`);

so both walks of `Identity/Chain.lean` compute that chain, the guarded one cut after 101 rows.
The handler of the API walk serves the nil tenant only (`delegationChainEndpoint`).
`tower n` is a reachable table of `n + 1` services, each under the one before, whose top row has
a chain of `n + 1` rows.
-/

namespace AgentIam.Identities

/-- Every row has an id no older row has, and a parent it names is an older row of its
tenant. The table lists the newest row first. -/
def Forest : List Identity → Prop
  | [] => True
  | i :: s => i.id ∉ s.map (·.id) ∧ ParentInTable s i ∧ Forest s

theorem ParentInTable.mono {s s' : List Identity} {i : Identity} (hss : ∀ q ∈ s, q ∈ s')
    (h : ParentInTable s i) : ParentInTable s' i := fun p hp =>
  let ⟨q, hq, he⟩ := h p hp
  ⟨q, hss q hq, he⟩

/-! ### Every reachable table is a forest -/

section Preservation

variable {g : Identity → Identity} (hg : KeepsLinks g)
include hg

theorem map_id_map (s : List Identity) : (s.map g).map (·.id) = s.map (·.id) := by
  simp [hg.id]

theorem ParentInTable.map {s : List Identity} {i : Identity} (h : ParentInTable s i) :
    ParentInTable (s.map g) (g i) := fun p hp => by
  obtain ⟨q, hq, rfl, ht⟩ := h p (hg.parentIdentityId i ▸ hp)
  exact ⟨g q, List.mem_map_of_mem g hq, hg.id q, by rw [hg.tenantId, hg.tenantId, ht]⟩

/-- An update that keeps the links keeps a forest. -/
theorem Forest.map : ∀ {s : List Identity}, Forest s → Forest (s.map g)
  | [], _ => trivial
  | _ :: s, ⟨hi, hp, hs⟩ => ⟨by rwa [hg.id, map_id_map hg], hp.map hg, hs.map⟩

end Preservation

/-- **Every step keeps the forest.** -/
theorem forest_step {admits : IdentityBuilder → Prop} {s s' : List Identity}
    (h : Step admits s s') (hs : Forest s) : Forest s' := by
  rcases step_cases h with ⟨i, hi, hp, rfl⟩ | ⟨g, hg, rfl⟩
  · exact ⟨hi, hp, hs⟩
  · exact hs.map hg

theorem forest_reachable {admits : IdentityBuilder → Prop} {s : List Identity}
    (h : Reachable admits s) : Forest s := by
  induction h with
  | refl => trivial
  | tail _ hs ih => exact forest_step hs ih

/-! ### What a forest is -/

section Forests

theorem Forest.idsDistinct : ∀ {s : List Identity}, Forest s → IdsDistinct s
  | [], _ => List.nodup_nil
  | _ :: _, ⟨hi, _, hs⟩ => List.nodup_cons.2 ⟨hi, hs.idsDistinct⟩

theorem Forest.parentInTable : ∀ {s : List Identity}, Forest s → ∀ i ∈ s, ParentInTable s i
  | [], _, _, h => nomatch h
  | j :: s, ⟨_, hp, hs⟩, _, hi => by
    have hsub : ∀ q ∈ s, q ∈ j :: s := fun q => List.mem_cons_of_mem _
    rcases List.mem_cons.1 hi with rfl | hi
    · exact hp.mono hsub
    · exact (hs.parentInTable _ hi).mono hsub

/-- A row's parent is in its tenant. -/
theorem Forest.parent_tenant {s : List Identity} (hs : Forest s) {x p : Identity} (hx : x ∈ s)
    (hp : p ∈ s) (hxp : x.parentIdentityId = some p.id) : p.tenantId = x.tenantId := by
  obtain ⟨q, hq, hqp, ht⟩ := hs.parentInTable x hx _ hxp
  rwa [← List.inj_on_of_nodup_map hs.idsDistinct hq hp hqp]

/-- A freshly inserted row is nobody's parent. -/
theorem Forest.no_child {i : Identity} {s : List Identity} (hs : Forest (i :: s)) (a : Uuid) :
    ¬ ParentOf (i :: s) a i.id := by
  rintro ⟨j, hj, -, hjp⟩
  obtain ⟨q, hq, hqi, -⟩ := hs.parentInTable j hj _ hjp
  rcases List.mem_cons.1 hq with rfl | hq
  · rcases List.mem_cons.1 hj with rfl | hj
    · obtain ⟨q', hq', hq'i, -⟩ := hs.2.1 _ hjp
      exact hs.1 (List.mem_map.2 ⟨q', hq', hq'i⟩)
    · obtain ⟨q', hq', hq'i, -⟩ := hs.2.2.parentInTable j hj _ hjp
      exact hs.1 (List.mem_map.2 ⟨q', hq', hq'i⟩)
  · exact hs.1 (List.mem_map.2 ⟨q, hq, hqi⟩)

/-- Parent paths that do not start at a fresh row are paths of the table before it. -/
theorem Forest.transGen_of_cons {i : Identity} {s : List Identity} (hs : Forest (i :: s))
    {a b : Uuid} (h : Relation.TransGen (ParentOf (i :: s)) a b) (ha : a ≠ i.id) :
    Relation.TransGen (ParentOf s) a b := by
  have edge : ∀ {a b}, ParentOf (i :: s) a b → a ≠ i.id → ParentOf s a b := by
    rintro a b ⟨j, hj, rfl, hjb⟩ ha
    rcases List.mem_cons.1 hj with rfl | hj
    exacts [absurd rfl ha, ⟨j, hj, rfl, hjb⟩]
  induction h with
  | single hab => exact .single (edge hab ha)
  | tail hab hbc ih =>
    obtain ⟨c, -, hcb⟩ := Relation.TransGen.tail'_iff.1 hab
    exact .tail ih (edge hbc fun e => hs.no_child c (e ▸ hcb))

/-- **The parent graph of a forest is acyclic.** -/
theorem Forest.acyclic :
    ∀ {s : List Identity}, Forest s → ∀ a, ¬ Relation.TransGen (ParentOf s) a a
  | [], _, _, h => by
    obtain ⟨_, -, j, hj, -⟩ := Relation.TransGen.tail'_iff.1 h
    cases hj
  | i :: _, hs, a, h => by
    have ha : a ≠ i.id := fun e => by
      obtain ⟨c, -, hc⟩ := Relation.TransGen.tail'_iff.1 h
      exact hs.no_child c (e ▸ hc)
    exact hs.2.2.acyclic a (hs.transGen_of_cons h ha)

/-- Every row of a forest has a delegation chain. -/
theorem Forest.exists_chain :
    ∀ {s : List Identity}, Forest s → ∀ x ∈ s, ∃ l, ChainOf s x l
  | [], _, _, h => nomatch h
  | i :: s, hs, x, hx => by
    have mono : ∀ {y l}, ChainOf s y l → ChainOf (i :: s) y l :=
      ChainOf.mono fun q => List.mem_cons_of_mem _
    rcases List.mem_cons.1 hx with rfl | hx
    · cases hp : x.parentIdentityId with
      | none => exact ⟨[x], .root (List.mem_cons_self _ _) hp⟩
      | some p =>
        obtain ⟨q, hq, rfl, -⟩ := hs.2.1 p hp
        obtain ⟨l, hl⟩ := hs.2.2.exists_chain q hq
        exact ⟨x :: l, .parent (List.mem_cons_self _ _) hp (mono hl)⟩
    · obtain ⟨l, hl⟩ := hs.2.2.exists_chain x hx
      exact ⟨l, mono hl⟩

variable {s : List Identity} (hs : Forest s)
include hs

/-- A delegation chain stays in its tenant. -/
theorem Forest.chain_tenant {x : Identity} {l : List Identity} (h : ChainOf s x l) :
    ∀ y ∈ l, y.tenantId = x.tenantId := by
  induction h with
  | root => simp
  | @parent x p l hx hp hc ih =>
    have := hs.parent_tenant hx (hc.mem_table _ hc.mem_head) hp
    exact List.forall_mem_cons.2 ⟨rfl, fun y hy => (ih y hy).trans this⟩

/-- No row repeats in a delegation chain. -/
theorem Forest.chain_nodup {x : Identity} {l : List Identity} (h : ChainOf s x l) : l.Nodup := by
  induction h with
  | root => exact List.nodup_singleton _
  | @parent x p l hx hp hc ih =>
    refine List.nodup_cons.2 ⟨fun hxl => ?_, ih⟩
    exact hs.acyclic x.id (.head' ⟨x, hx, rfl, hp⟩ (hc.reaches x hxl))

theorem Forest.chain_length_le {x : Identity} {l : List Identity} (h : ChainOf s x l) :
    l.length ≤ s.length :=
  (List.subperm_of_subset (hs.chain_nodup h) h.mem_table).length_le

end Forests

/-! ### A tower of delegations -/

/-- The id `k + 1`. -/
def towerId (k : ℕ) : Uuid := ⟨BitVec.ofNat 128 (k + 1)⟩

/-- The parent of row `k` of the tower: none for row `0`, row `k - 1` otherwise. -/
def towerParent : ℕ → Option Uuid
  | 0 => none
  | k + 1 => some (towerId k)

/-- The builder of row `k` of the tower: a service of the nil tenant. -/
def towerBuilder (k : ℕ) : IdentityBuilder :=
  { IdentityBuilder.new Uuid.nil .service "svc" with parentIdentityId := towerParent k }

/-- Row `k` of the tower. -/
def towerRow (k : ℕ) : Identity := createIdentity (towerBuilder k) (towerId k) 0

/-- Rows `n, n - 1, …, 0`, each built under the one after it. -/
def tower : ℕ → List Identity
  | 0 => [towerRow 0]
  | n + 1 => towerRow (n + 1) :: tower n

theorem towerId_inj {j k : ℕ} (hj : j + 1 < 2 ^ 128) (hk : k + 1 < 2 ^ 128)
    (h : towerId j = towerId k) : j = k := by
  have := congrArg (fun u : Uuid => u.bits.toNat) h
  simp only [towerId, BitVec.toNat_ofNat, Nat.mod_eq_of_lt hj, Nat.mod_eq_of_lt hk] at this
  omega

theorem mem_tower {n : ℕ} {y : Identity} (h : y ∈ tower n) : ∃ k ≤ n, y = towerRow k := by
  induction n with
  | zero => exact ⟨0, le_rfl, List.mem_singleton.1 h⟩
  | succ n ih =>
    rcases List.mem_cons.1 h with rfl | h
    · exact ⟨n + 1, le_rfl, rfl⟩
    · obtain ⟨k, hk, rfl⟩ := ih h
      exact ⟨k, by omega, rfl⟩

theorem tower_head (n : ℕ) : ∃ rest, tower n = towerRow n :: rest := by
  cases n <;> exact ⟨_, rfl⟩

theorem tower_length (n : ℕ) : (tower n).length = n + 1 := by
  induction n <;> simp [tower, *]

/-- Each row of the tower is a successful `build` with a fresh id. -/
theorem tower_reachable : ∀ n, n + 1 < 2 ^ 128 → Reachable (fun _ => True) (tower n)
  | 0, _ => .single (.build (towerBuilder 0) (towerId 0) 0 _ trivial (by simp) rfl)
  | n + 1, hn => by
    refine .tail (tower_reachable n (by omega))
      (.build (towerBuilder (n + 1)) (towerId (n + 1)) 0 (towerRow (n + 1)) trivial ?_ ?_)
    · simp only [List.mem_map, not_exists, not_and]
      intro y hy hid
      obtain ⟨k, hk, rfl⟩ := mem_tower hy
      have := towerId_inj (by omega) (by omega) hid
      omega
    · refine build_eq_ok.2 ⟨rfl, checkParent_eq_ok.2 fun p hp => ?_, rfl⟩
      cases hp
      obtain ⟨rest, hrest⟩ := tower_head n
      exact ⟨towerRow n, by simp [hrest, lookup, towerRow, createIdentity], rfl⟩

/-- The top row of the tower has the whole tower as its chain. -/
theorem chainOf_tower (n : ℕ) : ChainOf (tower n) (towerRow n) (tower n) := by
  induction n with
  | zero => exact .root (List.mem_singleton_self _) rfl
  | succ n ih =>
    exact .parent (List.mem_cons_self _ _) (by rfl) (ih.mono fun q => List.mem_cons_of_mem _)

/-! ### The forest invariant -/

theorem mem_withDepths_fst {α : Type} {d : ℕ} {l : List α} {r : α × ℕ}
    (h : r ∈ withDepths d l) :
    r.1 ∈ l := by
  simpa using List.mem_map_of_mem (·.1) h

/-- **The identity forest invariant.** In every table reachable by any sequence of the five
operations, the parent graph is acyclic, every parent reference names a row of the same tenant,
and for every row `x` the unguarded walk of `get_delegation_chain_query x x.tenant_id` has
finished once it has as many rounds as the table has rows, with only rows of `x`'s tenant. -/
theorem forest_invariant {s : List Identity} (hr : Reachable (fun _ => True) s) :
    (∀ a, ¬ Relation.TransGen (ParentOf s) a a) ∧
    (∀ i ∈ s, ∀ p, i.parentIdentityId = some p → ∃ q ∈ s, q.id = p ∧ q.tenantId = i.tenantId) ∧
    ∀ x ∈ s, ∃ nodes, ∀ fuel ≥ s.length,
      getDelegationChainQuery s x.id x.tenantId fuel = some nodes ∧
        ∀ n ∈ nodes, ∃ i ∈ s, i.id = n.id ∧ i.tenantId = x.tenantId := by
  have hs := forest_reachable hr
  refine ⟨hs.acyclic, hs.parentInTable, fun x hx => ?_⟩
  obtain ⟨l, hl⟩ := hs.exists_chain x hx
  refine ⟨_, fun fuel hfuel => ⟨getDelegationChainQuery_eq hs.idsDistinct hl
    (hs.chain_tenant hl) fuel ((hs.chain_length_le hl).trans hfuel), fun n hn => ?_⟩⟩
  obtain ⟨r, hr, rfl⟩ := List.mem_map.1 hn
  have hrl := mem_withDepths_fst hr
  exact ⟨r.1, hl.mem_table _ hrl, rfl, hs.chain_tenant hl _ hrl⟩

/-- The forest invariant on the tower of two rows. -/
theorem forest_invariant_tower :
    Reachable (fun _ => True) (tower 1) ∧
    (∀ a, ¬ Relation.TransGen (ParentOf (tower 1)) a a) ∧
    (∀ i ∈ tower 1, ∀ p, i.parentIdentityId = some p →
      ∃ q ∈ tower 1, q.id = p ∧ q.tenantId = i.tenantId) ∧
    ∀ x ∈ tower 1, ∃ nodes, ∀ fuel ≥ (tower 1).length,
      getDelegationChainQuery (tower 1) x.id x.tenantId fuel = some nodes ∧
        ∀ n ∈ nodes, ∃ i ∈ tower 1, i.id = n.id ∧ i.tenantId = x.tenantId :=
  have hr := tower_reachable 1 (by decide)
  ⟨hr, forest_invariant hr⟩

/-- **The two walks agree up to the guard.** In every reachable table, a row `x` has exactly
one delegation chain `l`, with no repeated row; the API walk returns all of it with the depths
`0, 1, …`, and the domain walk returns its first 101 rows: all of it when it has at most 101
rows, otherwise a prefix, with no error. -/
theorem delegation_chains_agree {s : List Identity} (hr : Reachable (fun _ => True) s)
    {x : Identity} (hx : x ∈ s) :
    ∃ l, ChainOf s x l ∧ (∀ l', ChainOf s x l' → l' = l) ∧ l.Nodup ∧
      getDelegationChain s x.id = l.take 101 ∧
      ∀ fuel ≥ l.length, getDelegationChainQuery s x.id x.tenantId fuel =
        some ((withDepths 0 l).map DelegationChainNode.ofRow) := by
  have hs := forest_reachable hr
  obtain ⟨l, hl⟩ := hs.exists_chain x hx
  exact ⟨l, hl, fun _ h' => (hl.unique hs.idsDistinct h').symm, hs.chain_nodup hl,
    getDelegationChain_eq hs.idsDistinct hl,
    getDelegationChainQuery_eq hs.idsDistinct hl (hs.chain_tenant hl)⟩

/-- The guarded walk cuts a reachable chain of 102 rows after 101, with no error. -/
theorem guarded_chain_truncated :
    Reachable (fun _ => True) (tower 101) ∧ ChainOf (tower 101) (towerRow 101) (tower 101) ∧
      (tower 101).length = 102 ∧
      getDelegationChain (tower 101) (towerRow 101).id = (tower 101).take 101 :=
  have hr := tower_reachable 101 (by decide)
  ⟨hr, chainOf_tower 101, tower_length 101,
    getDelegationChain_eq (forest_reachable hr).idsDistinct (chainOf_tower 101)⟩

/-- The two walks on the tower of two rows. -/
theorem delegation_chains_agree_tower :
    Reachable (fun _ => True) (tower 1) ∧ towerRow 1 ∈ tower 1 ∧
    ∃ l, ChainOf (tower 1) (towerRow 1) l ∧ (∀ l', ChainOf (tower 1) (towerRow 1) l' → l' = l) ∧
      l.Nodup ∧ getDelegationChain (tower 1) (towerRow 1).id = l.take 101 ∧
      ∀ fuel ≥ l.length, getDelegationChainQuery (tower 1) (towerRow 1).id
        (towerRow 1).tenantId fuel = some ((withDepths 0 l).map DelegationChainNode.ofRow) :=
  have hr := tower_reachable 1 (by decide)
  have hx : towerRow 1 ∈ tower 1 := List.mem_cons_self _ _
  ⟨hr, hx, delegation_chains_agree hr hx⟩

/-! ### The endpoint -/

/-- The handler finds nothing for an id with no row in the nil tenant, whatever the table and
the rounds. -/
theorem Api.getDelegationChain_of_not_nil {s : List Identity} {identityId : Uuid}
    (h : ∀ x ∈ s, x.id = identityId → x.tenantId ≠ Uuid.nil) (fuel : ℕ) :
    Api.getDelegationChain s identityId fuel = some (.error .identityNotFound) := by
  have hbase : s.filter (fun i => i.id = identityId ∧ i.tenantId = Uuid.nil) = [] :=
    List.filter_eq_nil_iff.2 fun x hx => by simpa using h x hx
  rw [Api.getDelegationChain, getDelegationChainQuery, hbase, List.map_nil, recursiveUnionAll_nil]
  simp [orderByDepth]

/-- **The delegation-chain endpoint serves the nil tenant only.** In every reachable table, a
request for an id with no row in the nil tenant, the tenant written into the handler, is
answered `Identity not found` however many rounds its query runs; a request for an identity of
the nil tenant is answered with its whole delegation chain, with the depths `0, 1, …`, once the
query has as many rounds as the chain has rows. -/
theorem delegationChainEndpoint {s : List Identity} (hr : Reachable (fun _ => True) s)
    (identityId : Uuid) :
    ((∀ x ∈ s, x.id = identityId → x.tenantId ≠ Uuid.nil) →
      ∀ fuel, Api.getDelegationChain s identityId fuel = some (.error .identityNotFound)) ∧
    ∀ x ∈ s, x.id = identityId → x.tenantId = Uuid.nil →
      ∃ l, ChainOf s x l ∧ ∀ fuel ≥ l.length, Api.getDelegationChain s identityId fuel =
        some (.ok ⟨identityId, (withDepths 0 l).map DelegationChainNode.ofRow⟩) := by
  refine ⟨Api.getDelegationChain_of_not_nil, fun x hx hid ht => ?_⟩
  subst hid
  have hs := forest_reachable hr
  obtain ⟨l, hl⟩ := hs.exists_chain x hx
  refine ⟨l, hl, fun fuel hfuel => ?_⟩
  rw [Api.getDelegationChain, ← ht,
    getDelegationChainQuery_eq hs.idsDistinct hl (hs.chain_tenant hl) fuel hfuel, Option.map_some']
  obtain ⟨a, l, rfl⟩ := List.exists_cons_of_ne_nil hl.ne_nil
  rfl

/-- The endpoint on the tower of two rows, all of the nil tenant: the top row's chain. -/
theorem delegationChainEndpoint_tower :
    Reachable (fun _ => True) (tower 1) ∧
    (((∀ x ∈ tower 1, x.id = (towerRow 1).id → x.tenantId ≠ Uuid.nil) →
      ∀ fuel, Api.getDelegationChain (tower 1) (towerRow 1).id fuel =
        some (.error .identityNotFound)) ∧
    ∀ x ∈ tower 1, x.id = (towerRow 1).id → x.tenantId = Uuid.nil →
      ∃ l, ChainOf (tower 1) x l ∧ ∀ fuel ≥ l.length,
        Api.getDelegationChain (tower 1) (towerRow 1).id fuel =
          some (.ok ⟨(towerRow 1).id, (withDepths 0 l).map DelegationChainNode.ofRow⟩)) :=
  have hr := tower_reachable 1 (by decide)
  ⟨hr, delegationChainEndpoint hr _⟩

end AgentIam.Identities
