import AgentIam.Identity.Store

/-!
# Listing identities (`domain::identity::list_identities`)

`list_identities` selects the identities of one tenant that pass the filters it is given,
orders them by creation time, newest first, and returns one page of them:

* `IdentityListFilter.matches` is the `WHERE` clause;
* `orderByCreatedAtDesc` is `ORDER BY created_at DESC`. The order of rows of one creation time
  is left to the executor, so the query is given the table in the order the executor reads it
  (`scan`, a permutation of the table), and rows of one creation time keep that order;
* `limitOffset` is `LIMIT $5 OFFSET $6` as PostgreSQL applies it: a negative offset, then a
  negative limit, is an error of the statement;
* the limit is the filter's, `100` when it is not given, and at most `1000`; the offset is the
  filter's, `0` when it is not given.

`listIdentities_subperm` says what every answer is: rows of the table that pass the filter,
each at most as often as in the table, and no more of them than the limit.
`listIdentities_pages` says what paging through the rows gives when their creation times are
distinct: pages of a size within the cap, fetched one after another at offsets `0, k, 2k, ...`,
each under its own scan order, are the rows newest first, none repeated and none skipped.
-/

namespace AgentIam.Identities

/-- `IdentityListFilter`. -/
structure IdentityListFilter where
  tenantId : Uuid
  identityType : Option String
  status : Option String
  parentIdentityId : Option Uuid
  limit : Option ℤ
  offset : Option ℤ

/-- The `WHERE` clause of `list_identities`: the tenant, and each filter that is given. A row
without a parent fails a parent filter, as `NULL = $4` is not true. -/
def IdentityListFilter.matches (f : IdentityListFilter) (i : Identity) : Bool :=
  decide (i.tenantId = f.tenantId) && f.identityType.all (fun t => i.identityType = t) &&
    f.status.all (fun t => i.status = t) && f.parentIdentityId.all (fun p => i.parentIdentityId = some p)

/-- `a` was created no earlier than `b`: the order of `ORDER BY created_at DESC`. -/
def CreatedNoEarlier (a b : Identity) : Prop := b.createdAt ≤ a.createdAt

instance : DecidableRel CreatedNoEarlier := fun _ _ => inferInstanceAs (Decidable (_ ≤ _))

instance : IsTotal Identity CreatedNoEarlier := ⟨fun a b => le_total b.createdAt a.createdAt⟩

instance : IsTrans Identity CreatedNoEarlier := ⟨fun _ _ _ hab hbc => le_trans hbc hab⟩

/-- `ORDER BY created_at DESC` over rows in the order the executor reads them. -/
def orderByCreatedAtDesc (rows : List Identity) : List Identity :=
  rows.insertionSort CreatedNoEarlier

/-- `LIMIT limit OFFSET offset`, with PostgreSQL's errors for a negative offset or limit. -/
def limitOffset (limit offset : ℤ) (rows : List Identity) : Except AppError (List Identity) :=
  if offset < 0 then .error (.database "error returned from database: OFFSET must not be negative")
  else if limit < 0 then .error (.database "error returned from database: LIMIT must not be negative")
  else .ok ((rows.drop offset.toNat).take limit.toNat)

/-- `list_identities`, with `scan` the table in the order the executor reads it and `failure` the
outcome of the statement. -/
def listIdentities (scan : List Identity) (filter : IdentityListFilter) (failure : Option String) :
    Except AppError (List Identity) :=
  let limit := min (filter.limit.getD 100) 1000
  let offset := filter.offset.getD 0
  match failure with
  | some e => .error (.database e)
  | none => limitOffset limit offset (orderByCreatedAtDesc (scan.filter filter.matches))

/-- The `WHERE` clause does not read the limit and the offset. -/
@[simp] theorem IdentityListFilter.matches_page (f : IdentityListFilter)
    (limit offset : Option ℤ) :
    IdentityListFilter.matches { f with limit := limit, offset := offset } = f.matches := rfl

/-! ### Every answer -/

theorem limitOffset_eq_ok {limit offset : ℤ} {rows page : List Identity}
    (h : limitOffset limit offset rows = .ok page) :
    0 ≤ offset ∧ 0 ≤ limit ∧ page = (rows.drop offset.toNat).take limit.toNat := by
  unfold limitOffset at h
  split_ifs at h with h₁ h₂
  cases h
  exact ⟨not_lt.1 h₁, not_lt.1 h₂, rfl⟩

/-- A statement that runs fails exactly on a negative offset or a negative limit given by the
caller: the cap of `1000` bounds the limit from above only. -/
theorem listIdentities_error (scan : List Identity) (filter : IdentityListFilter) :
    (∃ e, listIdentities scan filter none = .error e) ↔
      filter.offset.getD 0 < 0 ∨ filter.limit.getD 100 < 0 := by
  have hmin : min (filter.limit.getD 100) 1000 < 0 ↔ filter.limit.getD 100 < 0 := by
    simp only [min_lt_iff]; omega
  simp only [listIdentities, limitOffset, hmin]
  split_ifs <;> simp_all

/-- **Every page `list_identities` returns is drawn from the rows of the filter**: each row it
returns is a row of the table of the filter's tenant that passes every filter given, it returns
no row more often than the table holds it, and it returns at most the limit's number of rows:
`100` when no limit is given, never more than `1000`. -/
theorem listIdentities_subperm {scan : List Identity} {filter : IdentityListFilter}
    {page : List Identity} (h : listIdentities scan filter none = .ok page) :
    page.Subperm (scan.filter filter.matches) ∧ page.length ≤ min (filter.limit.getD 100) 1000 := by
  obtain ⟨-, hlimit, rfl⟩ := limitOffset_eq_ok h
  refine ⟨?_, ?_⟩
  · exact ((List.take_sublist _ _).trans (List.drop_sublist _ _)).subperm.trans
      (List.perm_insertionSort _ _).subperm
  · calc _ ≤ ((min (filter.limit.getD 100) 1000).toNat : ℤ) :=
          Int.ofNat_le.2 (List.length_take_le _ _)
      _ = min (filter.limit.getD 100) 1000 := Int.toNat_of_nonneg hlimit

/-- A service identity of the nil tenant, created at `t`. -/
def serviceAt (t : ℤ) : Identity :=
  createIdentity (IdentityBuilder.new Uuid.nil .service "svc") Uuid.nil t

/-- The filter of the nil tenant, with nothing else given. -/
def nilTenantFilter : IdentityListFilter := ⟨Uuid.nil, none, none, none, none, none⟩

/-- Two identities of the nil tenant, listed with nothing but the tenant given. -/
theorem listIdentities_subperm_two :
    listIdentities [serviceAt 1, serviceAt 2] nilTenantFilter none =
        .ok [serviceAt 2, serviceAt 1] ∧
      [serviceAt 2, serviceAt 1].Subperm ([serviceAt 1, serviceAt 2].filter nilTenantFilter.matches) ∧
      [serviceAt 2, serviceAt 1].length ≤ min (nilTenantFilter.limit.getD 100) 1000 :=
  have h : listIdentities [serviceAt 1, serviceAt 2] nilTenantFilter none =
      .ok [serviceAt 2, serviceAt 1] := rfl
  ⟨h, listIdentities_subperm h⟩

/-! ### Paging -/

/-- `b` was created strictly before `a`. -/
def CreatedAfter (a b : Identity) : Prop := b.createdAt < a.createdAt

instance : DecidableRel CreatedAfter := fun _ _ => inferInstanceAs (Decidable (_ < _))

instance : IsAntisymm Identity CreatedAfter :=
  ⟨fun _ _ hab hba => absurd (hab.trans hba) (lt_irrefl _)⟩

/-- When the rows of the filter have distinct creation times, `ORDER BY created_at DESC` has one
answer whatever order the executor reads the table in: the rows newest first. -/
theorem orderByCreatedAtDesc_eq {s scan rows : List Identity} {filter : IdentityListFilter}
    (hscan : scan.Perm s) (hperm : rows.Perm (s.filter filter.matches))
    (hsorted : rows.Sorted CreatedAfter) :
    orderByCreatedAtDesc (scan.filter filter.matches) = rows := by
  have hp : (orderByCreatedAtDesc (scan.filter filter.matches)).Perm rows :=
    (List.perm_insertionSort _ _).trans ((hscan.filter _).trans hperm.symm)
  have hne : (orderByCreatedAtDesc (scan.filter filter.matches)).Pairwise
      fun a b => a.createdAt ≠ b.createdAt :=
    hp.symm.pairwise (hsorted.imp fun h => h.ne') fun h => Ne.symm h
  refine List.eq_of_perm_of_sorted hp ?_ hsorted
  exact ((List.sorted_insertionSort _ _).and hne).imp fun ⟨hle, hne⟩ =>
    lt_of_le_of_ne hle hne.symm

/-- The pages of size `k` at offsets `0, k, ..., (n - 1) k` of a list are its first `n k`
elements. -/
theorem flatten_pages (rows : List Identity) (k : ℕ) :
    ∀ n, ((List.range n).map fun j => (rows.drop (j * k)).take k).flatten = rows.take (n * k)
  | 0 => by simp
  | n + 1 => by
    rw [List.range_succ, List.map_append, List.flatten_append, flatten_pages rows k n,
      Nat.succ_mul, List.take_add]
    simp

/-- Running computations that all succeed succeeds with their values. -/
theorem mapM_ok {α β ε : Type} (g : α → β) :
    ∀ l : List α, l.mapM (fun a => (.ok (g a) : Except ε β)) = .ok (l.map g)
  | [] => rfl
  | a :: l => by
    simp only [List.mapM_cons, mapM_ok g l]
    rfl

/-- **Paging through the rows of a filter misses none and repeats none**, when their creation
times are distinct. Let `rows` be the rows of the table that pass the filter, newest first. Pages
of any size `k` up to the cap, fetched one after another at offsets `0, k, 2k, ...`, each under
its own order of reading the table, all succeed, and together they are the first `n k` of
`rows`: once `n k` reaches the number of rows, every row of the filter exactly once. -/
theorem listIdentities_pages {s rows : List Identity} {filter : IdentityListFilter}
    (hperm : rows.Perm (s.filter filter.matches)) (hsorted : rows.Sorted CreatedAfter)
    (scans : ℕ → List Identity) (hscans : ∀ j, (scans j).Perm s) {k : ℕ} (hk : k ≤ 1000) (n : ℕ) :
    List.flatten <$> (List.range n).mapM (fun j => listIdentities (scans j)
        { filter with limit := some (k : ℤ), offset := some ((j * k : ℕ) : ℤ) } none) =
      .ok (rows.take (n * k)) := by
  have hpage : ∀ j, listIdentities (scans j)
      { filter with limit := some (k : ℤ), offset := some ((j * k : ℕ) : ℤ) } none =
        .ok ((rows.drop (j * k)).take k) := fun j => by
    have hmin : min (k : ℤ) 1000 = k := min_eq_left (by exact_mod_cast hk)
    simp only [listIdentities, Option.getD_some, hmin, limitOffset, IdentityListFilter.matches_page]
    rw [orderByCreatedAtDesc_eq (hscans j) hperm hsorted, if_neg (by omega), if_neg (by omega),
      Int.toNat_ofNat, Int.toNat_ofNat]
  simp only [hpage, mapM_ok]
  rw [← flatten_pages]
  rfl

/-- Two identities created one second apart, paged one at a time, each page reading the table
in another order: the pages are the newer, then the older. -/
theorem listIdentities_two_pages :
    [serviceAt 2, serviceAt 1].Perm ([serviceAt 1, serviceAt 2].filter nilTenantFilter.matches) ∧
      [serviceAt 2, serviceAt 1].Sorted CreatedAfter ∧ 1 ≤ 1000 ∧
      List.flatten <$> (List.range 2).mapM (fun j => listIdentities
          ([serviceAt 1, serviceAt 2].rotate j)
          { nilTenantFilter with limit := some ((1 : ℕ) : ℤ), offset := some ((j * 1 : ℕ) : ℤ) }
          none) =
        .ok ([serviceAt 2, serviceAt 1].take (2 * 1)) :=
  ⟨List.Perm.swap _ _ [], by decide, by decide,
    @listIdentities_pages [serviceAt 1, serviceAt 2] _ nilTenantFilter (List.Perm.swap _ _ [])
      (by decide) _ (fun j => List.rotate_perm _ j) 1 (by decide) 2⟩

end AgentIam.Identities
