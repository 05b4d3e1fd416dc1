import AgentIam.Identity.Queries
import Mathlib.Logic.Relation

/-!
# Delegation chains and the walks that compute them

`ChainOf s x l` says that `l` is the delegation chain of the row `x` in the table `s`: `x`, its
parent, the parent's parent, and so on up to a row with no parent, each a row of `s`.
`ParentOf s` is the edge relation of the `parent_identity_id` graph.

On a table whose ids are distinct (`IdsDistinct`), one round of the recursive term from a row of
a chain yields the next row of the chain (`joinParents_root`, `joinParents_parent`). Hence, for
the chain `l` of `x`:

* the tenant-filtered walk of `get_delegation_chain_query` returns the whole chain with the
  depths `0, 1, …` once it has as many rounds as the chain has rows, when every row of the chain
  is in the tenant (`getDelegationChainQuery_eq`);
* the guarded walk returns the first 101 rows of the chain and no more (`walk_guard`): the domain
  query `getDelegationChain` is `l.take 101` (`getDelegationChain_eq`), and
  `calculateDelegationDepth` is `min l.length 101 - 1` (`calculateDelegationDepth_eq`).
-/

namespace AgentIam.Identities

/-- The ids of a table are distinct. -/
def IdsDistinct (s : List Identity) : Prop := (s.map (·.id)).Nodup

/-- `b` is the parent of `a` in the table `s`. -/
def ParentOf (s : List Identity) (a b : Uuid) : Prop :=
  ∃ i ∈ s, i.id = a ∧ i.parentIdentityId = some b

/-- `ChainOf s x l`: `l` is `x`, its parent, its parent's parent, and so on up to a root, all
rows of `s`. -/
inductive ChainOf (s : List Identity) : Identity → List Identity → Prop
  | root {x : Identity} : x ∈ s → x.parentIdentityId = none → ChainOf s x [x]
  | parent {x p : Identity} {l : List Identity} :
      x ∈ s → x.parentIdentityId = some p.id → ChainOf s p l → ChainOf s x (x :: l)

/-- The rows of a list with the depths `d, d + 1, …`. -/
def withDepths {α : Type} : ℕ → List α → List (α × ℕ)
  | _, [] => []
  | d, x :: l => (x, d) :: withDepths (d + 1) l

/-! ### Chains -/

section Chains

variable {s : List Identity} {x : Identity} {l : List Identity}

theorem ChainOf.mem_head (h : ChainOf s x l) : x ∈ l := by
  cases h <;> exact List.mem_cons_self _ _

theorem ChainOf.mem_table (h : ChainOf s x l) : ∀ y ∈ l, y ∈ s := by
  induction h with
  | root hx => simpa using hx
  | parent hx _ _ ih => exact List.forall_mem_cons.2 ⟨hx, ih⟩

theorem ChainOf.ne_nil (h : ChainOf s x l) : l ≠ [] :=
  List.ne_nil_of_mem h.mem_head

/-- Every row of a chain is reached from its head along parent edges. -/
theorem ChainOf.reaches (h : ChainOf s x l) :
    ∀ y ∈ l, Relation.ReflTransGen (ParentOf s) x.id y.id := by
  induction h with
  | root => simpa using Relation.ReflTransGen.refl
  | @parent x p l hx hp _ ih =>
    refine List.forall_mem_cons.2 ⟨.refl, fun y hy => ?_⟩
    exact Relation.ReflTransGen.head ⟨x, hx, rfl, hp⟩ (ih y hy)

/-- On a table with distinct ids, a row has one chain. -/
theorem ChainOf.unique (hs : IdsDistinct s) (h : ChainOf s x l) {l' : List Identity}
    (h' : ChainOf s x l') : l = l' := by
  induction h generalizing l' with
  | root _ hp =>
    cases h' with
    | root => rfl
    | parent _ hp' => simp [hp] at hp'
  | parent hx hp hc ih =>
    cases h' with
    | root _ hp' => simp [hp] at hp'
    | parent _ hp' hc' =>
      have hid := Option.some.inj (hp.symm.trans hp')
      rw [List.inj_on_of_nodup_map hs (hc.mem_table _ hc.mem_head)
        (hc'.mem_table _ hc'.mem_head) hid] at ih
      rw [ih hc']

/-- A chain of a table is a chain of any larger one. -/
theorem ChainOf.mono {s' : List Identity} (hss : ∀ i ∈ s, i ∈ s') (h : ChainOf s x l) :
    ChainOf s' x l := by
  induction h with
  | root hx hp => exact .root (hss _ hx) hp
  | parent hx hp _ ih => exact .parent (hss _ hx) hp ih

end Chains

/-! ### Rows with depths -/

section Depths

variable {α : Type}

@[simp] theorem withDepths_length (d : ℕ) (l : List α) : (withDepths d l).length = l.length := by
  induction l generalizing d <;> simp [withDepths, *]

@[simp] theorem map_fst_withDepths (d : ℕ) (l : List α) : (withDepths d l).map (·.1) = l := by
  induction l generalizing d <;> simp [withDepths, *]

theorem mem_withDepths_snd {d : ℕ} {l : List α} {n : ℕ} :
    n ∈ (withDepths d l).map (·.2) ↔ d ≤ n ∧ n < d + l.length := by
  induction l generalizing d with
  | nil => simp [withDepths]
  | cons x l ih =>
    simp only [withDepths, List.map_cons, List.mem_cons, ih, List.length_cons]
    omega

theorem withDepths_pairwise (d : ℕ) (l : List α) :
    (withDepths d l).Pairwise fun a b => a.2 < b.2 := by
  induction l generalizing d with
  | nil => exact .nil
  | cons x l ih =>
    refine .cons (fun r hr => ?_) (ih (d + 1))
    exact (mem_withDepths_snd.1 (List.mem_map_of_mem (·.2) hr)).1

/-- `ORDER BY depth` keeps rows that already come by depth. -/
@[simp] theorem orderByDepth_withDepths (d : ℕ) (l : List α) :
    orderByDepth (withDepths d l) = withDepths d l :=
  List.mergeSort_of_sorted ((withDepths_pairwise d l).imp fun h => decide_eq_true h.le)

end Depths

/-! ### One round of the recursive term -/

section Round

variable {s : List Identity}

/-- The rows with a given id, of a table with distinct ids, are that one row. -/
theorem filter_id_eq (hs : IdsDistinct s) {x : Identity} (hx : x ∈ s) (g : Identity → Bool) :
    s.filter (fun i => decide (i.id = x.id) && g i) = if g x then [x] else [] := by
  induction s with
  | nil => cases hx
  | cons j s ih =>
    simp only [IdsDistinct, List.map_cons, List.nodup_cons, List.mem_map] at hs
    rcases List.mem_cons.1 hx with rfl | hx
    · have : s.filter (fun i => decide (i.id = x.id) && g i) = [] :=
        List.filter_eq_nil_iff.2 fun i hi h => hs.1 ⟨i, hi, by simp at h; exact h.1⟩
      cases hg : g x <;> simp [List.filter_cons, hg, this]
    · have hne : j.id ≠ x.id := fun h => hs.1 ⟨x, hx, h.symm⟩
      simp [List.filter_cons, hne, ih hs.2 hx]

/-- A row without parent ends the walk. -/
theorem joinParents_root {keep : Identity → ℕ → Bool} {x : Identity} (d : ℕ)
    (hx : x.parentIdentityId = none) : joinParents s keep [(x, d)] = [] := by
  simp [joinParents, hx]

/-- From a row with a parent, one round yields the parent one level deeper, if `keep` lets it. -/
theorem joinParents_parent (hs : IdsDistinct s) {keep : Identity → ℕ → Bool} {x p : Identity}
    (d : ℕ) (hp : p ∈ s) (hx : x.parentIdentityId = some p.id) :
    joinParents s keep [(x, d)] = if keep p d then [(p, d + 1)] else [] := by
  simp only [joinParents, List.flatMap_cons, List.flatMap_nil, List.append_nil, hx,
    Option.some.injEq]
  rw [filter_id_eq hs hp fun i => keep i d]
  split <;> rfl

/-- The base rows of a walk from a row of a table with distinct ids: that row, at depth 0. -/
theorem filter_id_eq_self (hs : IdsDistinct s) {x : Identity} (hx : x ∈ s) :
    s.filter (·.id = x.id) = [x] := by
  simpa using filter_id_eq hs hx fun _ => true

end Round

/-! ### The walks -/

section Walks

variable {s : List Identity} (hs : IdsDistinct s)
include hs

/-- **The tenant-filtered walk follows the chain**: from a row of a chain all in the tenant,
as many rounds as the chain has rows give the chain with its depths. -/
theorem walk_inTenant {t : Uuid} {x : Identity} {l : List Identity} (h : ChainOf s x l)
    (ht : ∀ y ∈ l, y.tenantId = t) :
    ∀ d fuel, l.length ≤ fuel →
      recursiveUnionAll (joinParents s (inTenant t)) fuel [(x, d)] = some (withDepths d l) := by
  induction h with
  | root _ hx =>
    rintro d (_ | fuel) hfuel
    · cases hfuel
    · simp [recursiveUnionAll_cons, joinParents_root d hx, withDepths]
  | @parent x p l _ hx hc ih =>
    rintro d (_ | fuel) hfuel
    · cases hfuel
    have hp : inTenant t p d = true := decide_eq_true (ht p (List.mem_cons_of_mem _ hc.mem_head))
    rw [recursiveUnionAll_cons, joinParents_parent hs d (hc.mem_table _ hc.mem_head) hx, if_pos hp,
      ih (fun y hy => ht y (List.mem_cons_of_mem _ hy)) (d + 1) fuel
        (by simpa using hfuel)]
    rfl

/-- **The guarded walk stops at depth 100**: from a row at depth `d ≤ 100`, it returns the
first `101 - d` rows of the chain. -/
theorem walk_guard {x : Identity} {l : List Identity} (h : ChainOf s x l) :
    ∀ d fuel, d ≤ 100 → 101 - d ≤ fuel →
      recursiveUnionAll (joinParents s belowGuard) fuel [(x, d)] =
        some (withDepths d (l.take (101 - d))) := by
  induction h with
  | root _ hx =>
    rintro d (_ | fuel) hd hfuel
    · omega
    · obtain ⟨k, hk⟩ : ∃ k, 101 - d = k + 1 := ⟨100 - d, by omega⟩
      simp [recursiveUnionAll_cons, joinParents_root d hx, hk, withDepths]
  | @parent x p l _ hx hc ih =>
    rintro d (_ | fuel) hd hfuel
    · omega
    rw [recursiveUnionAll_cons, joinParents_parent hs d (hc.mem_table _ hc.mem_head) hx]
    obtain ⟨k, hk⟩ : ∃ k, 101 - d = k + 1 := ⟨100 - d, by omega⟩
    rw [hk, List.take_succ_cons]
    by_cases hd' : d < 100
    · rw [if_pos (show belowGuard p d = true from decide_eq_true hd'),
        ih (d + 1) fuel (by omega) (by omega), show 101 - (d + 1) = k by omega]
      rfl
    · rw [if_neg (by simpa [belowGuard] using hd'), show k = 0 by omega]
      simp [withDepths]

theorem guardedChainRows_eq {x : Identity} {l : List Identity} (h : ChainOf s x l) :
    guardedChainRows s x.id = withDepths 0 (l.take 101) := by
  rw [guardedChainRows, filter_id_eq_self hs (h.mem_table _ h.mem_head)]
  simp only [List.map_cons, List.map_nil]
  rw [walk_guard hs h 0 101 (Nat.zero_le _) le_rfl]
  rfl

/-- **The domain chain is the first 101 rows of the delegation chain.** -/
theorem getDelegationChain_eq {x : Identity} {l : List Identity} (h : ChainOf s x l) :
    getDelegationChain s x.id = l.take 101 := by
  simp [getDelegationChain, guardedChainRows_eq hs h]

/-- **The computed depth is the number of ancestors, capped at 100.** -/
theorem calculateDelegationDepth_eq {x : Identity} {l : List Identity} (h : ChainOf s x l) :
    calculateDelegationDepth s x.id = min l.length 101 - 1 := by
  have hl : 0 < l.length := List.length_pos.2 h.ne_nil
  have hmax : ((withDepths 0 (l.take 101)).map (·.2)).max? = some (min l.length 101 - 1) := by
    rw [List.max?_eq_some_iff']
    simp only [mem_withDepths_snd, List.length_take]
    exact ⟨by omega, fun b hb => by omega⟩
  rw [calculateDelegationDepth, guardedChainRows_eq hs h, hmax]
  rfl

/-- **The API chain is the whole delegation chain**, with the depths `0, 1, …`, when the chain
lies in the tenant and the walk has as many rounds as the chain has rows. -/
theorem getDelegationChainQuery_eq {x : Identity} {l : List Identity} (h : ChainOf s x l)
    (ht : ∀ y ∈ l, y.tenantId = x.tenantId) :
    ∀ fuel ≥ l.length, getDelegationChainQuery s x.id x.tenantId fuel =
      some ((withDepths 0 l).map DelegationChainNode.ofRow) := by
  intro fuel hfuel
  have hbase : s.filter (fun i => i.id = x.id ∧ i.tenantId = x.tenantId) = [x] := by
    simpa using filter_id_eq hs (h.mem_table _ h.mem_head) fun i => decide (i.tenantId = x.tenantId)
  rw [getDelegationChainQuery, hbase]
  simp only [List.map_cons, List.map_nil]
  rw [walk_inTenant hs h ht 0 fuel hfuel]
  simp

end Walks

end AgentIam.Identities
