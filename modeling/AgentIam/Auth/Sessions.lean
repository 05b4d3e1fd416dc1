import AgentIam.Auth.Logout
import Mathlib.Logic.Relation
import Mathlib.Data.List.Nodup

/-!
# The sessions table (`db/sessions.rs`)

The statements of `db/sessions.rs` and the revoking `UPDATE` of `api::auth::logout`, each one
step on the table at the instant `now` of its `NOW()`, the clock never going back:

* `create`, the `INSERT` with the table's random id;
* `revoke`, `revokeAllForIdentity`, `revokeUnrevoked` (logout) and `updateLastUsed`, the four
  `UPDATE`s, each `updateWhere` of a filter and of a change to one timestamp;
* `cleanupExpired`, the `DELETE` of the rows expired or revoked more than `retention_days` ago.

The three revoking `UPDATE`s differ in their filter: `revoke_all_for_identity` and logout only
touch rows with `revoked_at IS NULL`, and `sessions::revoke` touches every row of the token.
In a run without `sessions::revoke`, a revocation is never overwritten nor undone
(`revocation_record_kept`); `sessions::revoke` overwrites it, and `cleanup_expired` deletes a
revoked row before its retention ends when the row expired long enough ago
(`cleanupExpired_early`, `revocation_records_lost`).

A failed statement changes nothing, so it is not a step. The store records the ids the
table's default has produced (`issued`), which it never repeats.
-/

namespace AgentIam.Auth

/-! ### The statements -/

/-- `UPDATE sessions SET ... WHERE ...`: `set` applied to the rows `cond` holds of. -/
def updateWhere (cond : Session → Prop) [DecidablePred cond] (set : Session → Session)
    (sessions : List Session) : List Session :=
  sessions.map fun s => if cond s then set s else s

/-- `SET revoked_at = NOW()`. -/
def setRevokedAt (now : ℤ) (s : Session) : Session := { s with revokedAt := some now }

/-- `SET last_used_at = NOW()`. -/
def setLastUsedAt (now : ℤ) (s : Session) : Session := { s with lastUsedAt := some now }

section Statements

variable (parseIpAddr : String → Option String)

/-- `sessions::create`, the new row receiving the id `id`: the row the `INSERT` writes and
returns, and the table after it. `ip_address` is stored as the address the text parses to
(`parseIpAddr`, `None` when it does not parse); the columns it does not set take the table's
defaults (the schema is not part of the sources): no scope, delegation chain, revocation or
use, empty metadata, and `created_at = NOW()`. -/
def create (sessions : List Session) (id identityId tenantId : Uuid) (tokenId tokenType : String)
    (expiresAt : ℤ) (ipAddress userAgent : Option String) (now : ℤ) :
    Session × List Session :=
  let session : Session := ⟨id, identityId, tenantId, tokenId, tokenType, none, none, now,
    expiresAt, none, none, ipAddress.bind parseIpAddr, userAgent, .object []⟩
  (session, session :: sessions)

end Statements

/-- `sessions::revoke`: `WHERE token_id = $1`, with no `revoked_at IS NULL`. -/
def revoke (sessions : List Session) (tokenId : String) (now : ℤ) : List Session :=
  updateWhere (·.tokenId = tokenId) (setRevokedAt now) sessions

/-- The filter of `revoke_all_for_identity`. -/
def UnrevokedOf (identityId : Uuid) (s : Session) : Prop :=
  s.identityId = identityId ∧ s.revokedAt = none

instance (identityId : Uuid) : DecidablePred (UnrevokedOf identityId) :=
  fun _ => inferInstanceAs (Decidable (_ ∧ _))

/-- `sessions::revoke_all_for_identity`: the number of rows affected, and the table after. -/
def revokeAllForIdentity (sessions : List Session) (identityId : Uuid) (now : ℤ) :
    ℕ × List Session :=
  (sessions.countP (UnrevokedOf identityId ·),
    updateWhere (UnrevokedOf identityId) (setRevokedAt now) sessions)

/-- `sessions::update_last_used`. -/
def updateLastUsed (sessions : List Session) (tokenId : String) (now : ℤ) : List Session :=
  updateWhere (·.tokenId = tokenId) (setLastUsedAt now) sessions

/-- The rows `cleanup_expired` deletes: expired, or revoked, before `NOW()` minus the
retention. `($1 || ' days')::INTERVAL` is `retention_days` whole days; a null `revoked_at`
compares as unknown, so it deletes nothing. -/
def Expired (retentionDays now : ℤ) (s : Session) : Prop :=
  s.expiresAt < now - retentionDays * 86400 ∨ ∃ r ∈ s.revokedAt, r < now - retentionDays * 86400

instance (retentionDays now : ℤ) : DecidablePred (Expired retentionDays now) :=
  fun _ => inferInstanceAs (Decidable (_ ∨ _))

/-- `sessions::cleanup_expired`: the number of rows deleted, and the table after. -/
def cleanupExpired (sessions : List Session) (retentionDays now : ℤ) : ℕ × List Session :=
  (sessions.countP (Expired retentionDays now ·),
    sessions.filter fun s => ¬ Expired retentionDays now s)

/-- Logout's `UPDATE` is the guarded member of the family. -/
theorem revokeUnrevoked_eq (sessions : List Session) (tokenId : String) (now : ℤ) :
    revokeUnrevoked sessions tokenId now =
      updateWhere (fun s => s.tokenId = tokenId ∧ s.revokedAt = none) (setRevokedAt now)
        sessions := rfl

/-! ### Runs -/

/-- The `sessions` table, the instant of the last statement, and the ids the table's random
default has produced so far. -/
structure Store where
  sessions : List Session
  clock : ℤ
  issued : List Uuid

/-- One statement at an instant no earlier than the last; `sessions::revoke` only when
`revokes` holds. -/
inductive Step (parseIpAddr : String → Option String) (revokes : Prop) (st : Store) :
    Store → Prop
  | create (id identityId tenantId : Uuid) (tokenId tokenType : String) (expiresAt : ℤ)
      (ipAddress userAgent : Option String) (now : ℤ) :
      st.clock ≤ now → id ∉ st.issued →
      Step parseIpAddr revokes st ⟨(create parseIpAddr st.sessions id identityId tenantId tokenId
        tokenType expiresAt ipAddress userAgent now).2, now, id :: st.issued⟩
  | revoke (tokenId : String) (now : ℤ) : revokes → st.clock ≤ now →
      Step parseIpAddr revokes st ⟨revoke st.sessions tokenId now, now, st.issued⟩
  | revokeAllForIdentity (identityId : Uuid) (now : ℤ) : st.clock ≤ now →
      Step parseIpAddr revokes st
        ⟨(revokeAllForIdentity st.sessions identityId now).2, now, st.issued⟩
  | logout (tokenId : String) (now : ℤ) : st.clock ≤ now →
      Step parseIpAddr revokes st ⟨revokeUnrevoked st.sessions tokenId now, now, st.issued⟩
  | updateLastUsed (tokenId : String) (now : ℤ) : st.clock ≤ now →
      Step parseIpAddr revokes st ⟨updateLastUsed st.sessions tokenId now, now, st.issued⟩
  | cleanupExpired (retentionDays now : ℤ) : st.clock ≤ now →
      Step parseIpAddr revokes st
        ⟨(cleanupExpired st.sessions retentionDays now).2, now, st.issued⟩

/-- Distinct rows have distinct ids, each one the default produced. -/
structure Store.WellFormed (st : Store) : Prop where
  nodup : (st.sessions.map (·.id)).Nodup
  issued : ∀ s ∈ st.sessions, s.id ∈ st.issued

/-- Every row with the id `i` is revoked at `r`, and `i` has been produced. -/
def Store.RevokedAt (st : Store) (i : Uuid) (r : ℤ) : Prop :=
  i ∈ st.issued ∧ ∀ s ∈ st.sessions, s.id = i → s.revokedAt = some r

/-! ### The family of updates -/

/-- A change that keeps the id, and keeps a set `revoked_at` on the rows the filter admits. -/
structure KeepsRevocation (cond : Session → Prop) (set : Session → Session) : Prop where
  id : ∀ s, (set s).id = s.id
  revokedAt : ∀ s, cond s → ∀ r, s.revokedAt = some r → (set s).revokedAt = some r

section Family

variable {cond : Session → Prop} [DecidablePred cond] {set : Session → Session}

theorem id_updateWhere (hid : ∀ s, (set s).id = s.id) (sessions : List Session) :
    (updateWhere cond set sessions).map (·.id) = sessions.map (·.id) := by
  simp only [updateWhere, List.map_map]
  congr 1
  funext s
  by_cases hc : cond s <;> simp [hc, hid]

/-- **An update that keeps a set `revoked_at` keeps every revocation.** -/
theorem revokedAt_updateWhere (h : KeepsRevocation cond set) {sessions : List Session}
    {i : Uuid} {r : ℤ} (hr : ∀ s ∈ sessions, s.id = i → s.revokedAt = some r) :
    ∀ s ∈ updateWhere cond set sessions, s.id = i → s.revokedAt = some r := by
  simp only [updateWhere, List.mem_map]
  rintro _ ⟨s, hs, rfl⟩ hi
  by_cases hc : cond s
  · rw [if_pos hc] at hi ⊢
    exact h.revokedAt s hc r (hr s hs (by rwa [h.id] at hi))
  · rw [if_neg hc] at hi ⊢
    exact hr s hs hi

end Family

theorem keepsRevocation_unrevoked (now : ℤ) {p : Session → Prop} :
    KeepsRevocation (fun s => p s ∧ s.revokedAt = none) (setRevokedAt now) :=
  ⟨fun _ => rfl, fun _ hc _ hr => nomatch hc.2.symm.trans hr⟩

theorem keepsRevocation_setLastUsedAt (cond : Session → Prop) (now : ℤ) :
    KeepsRevocation cond (setLastUsedAt now) :=
  ⟨fun _ => rfl, fun _ _ _ hr => hr⟩

/-! ### What each step does -/

section Steps

variable {parseIpAddr : String → Option String} {revokes : Prop} {st st' : Store}

theorem mem_cleanupExpired {sessions : List Session} {retentionDays now : ℤ} {s : Session} :
    s ∈ (cleanupExpired sessions retentionDays now).2 ↔
      s ∈ sessions ∧ ¬ Expired retentionDays now s := by
  simp [cleanupExpired]

/-- An update that keeps ids keeps the table well formed. -/
theorem Store.WellFormed.update {st : Store} (hw : st.WellFormed) {cond : Session → Prop}
    [DecidablePred cond] {set : Session → Session} (hid : ∀ s, (set s).id = s.id) (now : ℤ) :
    Store.WellFormed ⟨updateWhere cond set st.sessions, now, st.issued⟩ where
  nodup := by rw [id_updateWhere hid]; exact hw.nodup
  issued s hs := by
    obtain ⟨s', hs', rfl⟩ := List.mem_map.1 hs
    by_cases hc : cond s' <;> simp only [hc, if_true, if_false, hid] <;> exact hw.issued s' hs'

/-- Every step keeps the table well formed. -/
theorem Step.wellFormed (h : Step parseIpAddr revokes st st') (hw : st.WellFormed) :
    st'.WellFormed := by
  cases h with
  | create id _ _ _ _ _ _ _ _ _ hid =>
    refine ⟨List.nodup_cons.2 ⟨fun hin => hid ?_, hw.nodup⟩, ?_⟩
    · obtain ⟨s, hs, hsid⟩ := List.mem_map.1 hin
      have hsid : s.id = id := hsid
      exact hsid ▸ hw.issued s hs
    · rintro s (_ | ⟨_, hs⟩)
      exacts [.head _, .tail _ (hw.issued s hs)]
  | cleanupExpired retentionDays now _ =>
    exact ⟨hw.nodup.sublist ((List.filter_sublist _).map _),
      fun s hs => hw.issued s (mem_cleanupExpired.1 hs).1⟩
  | revoke tokenId now _ _ =>
    exact @Store.WellFormed.update st hw (·.tokenId = tokenId) _ (setRevokedAt now)
      (fun _ => rfl) now
  | revokeAllForIdentity identityId now _ =>
    exact @Store.WellFormed.update st hw (UnrevokedOf identityId) _ (setRevokedAt now)
      (fun _ => rfl) now
  | logout tokenId now _ =>
    exact @Store.WellFormed.update st hw (fun s => s.tokenId = tokenId ∧ s.revokedAt = none) _
      (setRevokedAt now) (fun _ => rfl) now
  | updateLastUsed tokenId now _ =>
    exact @Store.WellFormed.update st hw (·.tokenId = tokenId) _ (setLastUsedAt now)
      (fun _ => rfl) now

/-- **A step other than `sessions::revoke` keeps every revocation**: it inserts a row under a
fresh id, changes rows without touching a set `revoked_at`, or deletes rows. -/
theorem Step.revokedAt (h : Step parseIpAddr False st st') {i : Uuid} {r : ℤ}
    (hr : st.RevokedAt i r) : st'.RevokedAt i r := by
  obtain ⟨hi, hrows⟩ := hr
  cases h with
  | create id _ _ _ _ _ _ _ _ _ hid =>
    refine ⟨.tail _ hi, ?_⟩
    rintro s (_ | ⟨_, hs⟩) hsi
    · have hsi : id = i := hsi
      exact absurd (hsi ▸ hi) hid
    · exact hrows s hs hsi
  | revoke _ _ hfalse _ => exact hfalse.elim
  | revokeAllForIdentity identityId now _ =>
    exact ⟨hi, revokedAt_updateWhere (keepsRevocation_unrevoked now) hrows⟩
  | logout tokenId now _ =>
    refine ⟨hi, ?_⟩
    rw [revokeUnrevoked_eq]
    exact revokedAt_updateWhere (keepsRevocation_unrevoked now) hrows
  | updateLastUsed tokenId now _ =>
    exact ⟨hi, revokedAt_updateWhere (keepsRevocation_setLastUsedAt _ now) hrows⟩
  | cleanupExpired retentionDays now _ =>
    exact ⟨hi, fun s hs => hrows s (mem_cleanupExpired.1 hs).1⟩

end Steps

theorem wellFormed_reachable {parseIpAddr : String → Option String} {revokes : Prop} {t : ℤ}
    {st : Store} (h : Relation.ReflTransGen (Step parseIpAddr revokes) ⟨[], t, []⟩ st) :
    st.WellFormed := by
  induction h with
  | refl => exact ⟨List.nodup_nil, fun _ h => (nomatch h)⟩
  | tail _ hs ih => exact hs.wellFormed ih

theorem revokedAt_run {parseIpAddr : String → Option String} {st st' : Store} {i : Uuid} {r : ℤ}
    (h : Relation.ReflTransGen (Step parseIpAddr False) st st') (hr : st.RevokedAt i r) :
    st'.RevokedAt i r := by
  induction h with
  | refl => exact hr
  | tail _ hs ih => exact hs.revokedAt ih

/-- **Revocations are kept in every run without `sessions::revoke`.** From any table reached by
any run, once a row is revoked at `r`, every later run of `create`, `revoke_all_for_identity`,
logout's `UPDATE`, `update_last_used` and `cleanup_expired` leaves every row with its id, while
there is one, revoked at `r`. -/
theorem revocation_record_kept {parseIpAddr : String → Option String} {t : ℤ} {st st' : Store}
    (hreach : Relation.ReflTransGen (Step parseIpAddr True) ⟨[], t, []⟩ st)
    (hrun : Relation.ReflTransGen (Step parseIpAddr False) st st') {x : Session}
    (hx : x ∈ st.sessions) {r : ℤ} (hrev : x.revokedAt = some r) :
    ∀ s ∈ st'.sessions, s.id = x.id → s.revokedAt = some r :=
  have hw := wellFormed_reachable hreach
  (revokedAt_run hrun ⟨hw.issued x hx, fun s hs hsi => by
    rw [List.inj_on_of_nodup_map hw.nodup hs hx hsi]; exact hrev⟩).2

/-- **`cleanup_expired` deletes a revoked row early only when it expired early**: a row revoked
at `r` that the `DELETE` at `now < r + retentionDays` days removes expired before
`now - retentionDays` days. -/
theorem cleanupExpired_early {sessions : List Session} {retentionDays now r : ℤ} {s : Session}
    (hs : s ∈ sessions) (hrev : s.revokedAt = some r) (hnow : now < r + retentionDays * 86400)
    (hdel : s ∉ (cleanupExpired sessions retentionDays now).2) :
    s.expiresAt < now - retentionDays * 86400 := by
  have hexp : Expired retentionDays now s := by
    by_contra hne
    exact hdel (mem_cleanupExpired.2 ⟨hs, hne⟩)
  rcases hexp with h | ⟨r', hr', hlt⟩
  · exact h
  · rw [hrev, Option.mem_def, Option.some.injEq] at hr'
    omega

/-! ### Two runs that lose a revocation record -/

/-- `IpAddr::from_str` rejecting every text. -/
def rejectIpAddr (_ : String) : Option String := none

/-- The session of token `jti-1` of identity 1 in tenant 2, created at `0` with id 3, expiring
at `3600`. -/
def sessionRow : Session :=
  (create rejectIpAddr [] ⟨3⟩ ⟨1⟩ ⟨2⟩ "jti-1" "access" 3600 none none 0).1

/-- The table holding `sessionRow`, at `0`. -/
def sessionCreated : Store := ⟨[sessionRow], 0, [⟨3⟩]⟩

/-- `sessions::revoke` of `jti-1` at `t`, after `sessionCreated`. -/
def sessionRevoked (t : ℤ) : Store := ⟨revoke [sessionRow] "jti-1" t, t, [⟨3⟩]⟩

/-- Logout of `jti-1` ten days in. -/
def sessionLoggedOut : Store := ⟨revokeUnrevoked [sessionRow] "jti-1" 864000, 864000, [⟨3⟩]⟩

/-- `cleanup_expired(1)` right after the logout. -/
def sessionCleaned : Store :=
  ⟨(cleanupExpired sessionLoggedOut.sessions 1 864000).2, 864000, [⟨3⟩]⟩

theorem reaches_sessionCreated (revokes : Prop) :
    Relation.ReflTransGen (Step rejectIpAddr revokes) ⟨[], 0, []⟩ sessionCreated :=
  .single (.create ⟨3⟩ ⟨1⟩ ⟨2⟩ "jti-1" "access" 3600 none none 0 le_rfl (List.not_mem_nil _))

/-- **Revocation records are lost.** A session revoked at `10` by `sessions::revoke` is
revoked at `20` after a second `sessions::revoke`; and a session that expired at `3600` and was
logged out ten days in is deleted by `cleanup_expired(1)` at once, a day before its retention
ends, in a run without `sessions::revoke`. -/
theorem revocation_records_lost :
    Relation.ReflTransGen (Step rejectIpAddr True) ⟨[], 0, []⟩ (sessionRevoked 10) ∧
      Step rejectIpAddr True (sessionRevoked 10) ⟨revoke (sessionRevoked 10).sessions "jti-1" 20, 20,
        [⟨3⟩]⟩ ∧
      (sessionRevoked 10).sessions.map (·.revokedAt) = [some 10] ∧
      (revoke (sessionRevoked 10).sessions "jti-1" 20).map (·.revokedAt) = [some 20] ∧
    Relation.ReflTransGen (Step rejectIpAddr False) ⟨[], 0, []⟩ sessionLoggedOut ∧
      Step rejectIpAddr False sessionLoggedOut sessionCleaned ∧
      sessionLoggedOut.sessions.map (·.revokedAt) = [some 864000] ∧
      sessionCleaned.sessions = [] ∧ sessionCleaned.clock < 864000 + 1 * 86400 :=
  ⟨.tail (reaches_sessionCreated True) (.revoke "jti-1" 10 trivial (by decide)),
    .revoke "jti-1" 20 trivial (by decide), rfl, rfl,
    .tail (reaches_sessionCreated False) (.logout "jti-1" 864000 (by decide)),
    .cleanupExpired 1 864000 le_rfl, rfl, rfl, by decide⟩

end AgentIam.Auth
