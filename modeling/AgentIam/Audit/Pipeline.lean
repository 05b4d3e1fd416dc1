import AgentIam.Audit.HashChain
import Mathlib.Logic.Relation

/-!
# The audit pipeline (`audit/logger.rs`, `audit/storage.rs`, `domain/audit.rs`)

`AuditLogger::log` queues an event; the background task `batch_processor` takes events from the
queue into a batch and hands the batch to `flush_batch`, which writes it through the storage's
`write_batch` when it is full and on every timer tick.

* `Processor` is the task's state: the batch, the storage's contents, and the sequence of events
  received so far (a ghost field: the task keeps no such list).
* `Step write cfg` is one turn of the task's `select!` loop: receive an event, or a tick. Its
  `else` arm is never taken, since the tick arm is always enabled, and so it is left out.
* A write goes through `write`, with an outcome chosen by the environment: `backendWriteBatch`
  for a backend that stores a batch all or nothing, `multiWriteBatch` for `MultiBackendStorage`.

The queue itself is first in, first out, so the received sequence is the logged one.

`single_received_eq`: with one backend, the stored payloads followed by the batch are exactly the
received events. `multi_received_covered`: with several, every received event is pending or in
some backend, and every backend holds a sublist of the received events. `persisted_unlinked`:
nothing is hash-linked; every persisted event has `previous_event_hash = None`.
-/

namespace AgentIam.Audit

open HashChain

/-- `AuditEventType`. -/
inductive AuditEventType where
  | authentication
  | authorization
  | identityCreated
  | identityUpdated
  | identityDeleted
  | roleAssigned
  | roleRevoked
  | policyCreated
  | policyUpdated
  | policyDeleted
  | sessionCreated
  | sessionExpired
  | sessionRevoked
  | tokenGenerated
  | tokenRefreshed
  | tokenRevoked
  | rateLimitExceeded
  | configurationChanged
  | systemEvent
  deriving DecidableEq, Repr

/-- `AuditEventType::as_str`. -/
def AuditEventType.asStr : AuditEventType → String
  | .authentication => "authentication"
  | .authorization => "authorization"
  | .identityCreated => "identity_created"
  | .identityUpdated => "identity_updated"
  | .identityDeleted => "identity_deleted"
  | .roleAssigned => "role_assigned"
  | .roleRevoked => "role_revoked"
  | .policyCreated => "policy_created"
  | .policyUpdated => "policy_updated"
  | .policyDeleted => "policy_deleted"
  | .sessionCreated => "session_created"
  | .sessionExpired => "session_expired"
  | .sessionRevoked => "session_revoked"
  | .tokenGenerated => "token_generated"
  | .tokenRefreshed => "token_refreshed"
  | .tokenRevoked => "token_revoked"
  | .rateLimitExceeded => "rate_limit_exceeded"
  | .configurationChanged => "configuration_changed"
  | .systemEvent => "system_event"

/-- `Decision` of an audit event. -/
inductive Decision where
  | allow
  | deny
  deriving DecidableEq, Repr

/-- `Decision::as_str`. -/
def Decision.asStr : Decision → String
  | .allow => "allow"
  | .deny => "deny"

/-- `AuditEvent`: what a handler logs. -/
structure AuditEvent where
  tenantId : Uuid
  actorIdentityId : Option Uuid
  delegationChain : Option JsonValue
  eventType : AuditEventType
  action : String
  resourceType : String
  resourceId : Option String
  decision : Option Decision
  decisionReason : Option String
  requestId : Option Uuid
  ipAddress : Option String
  userAgent : Option String
  metadata : JsonValue
  timestamp : ℤ

/-- `PersistedAuditEvent`: an event with its row id and the tamper-proofing fields. -/
structure PersistedAuditEvent where
  id : Uuid
  event : AuditEvent
  signature : Option String
  previousEventHash : Option String

/-- A persisted event read as a `HashableEvent`, with `rfc3339` formatting its timestamp. -/
def PersistedAuditEvent.toHashable (rfc3339 : ℤ → String) (p : PersistedAuditEvent) :
    HashableEvent :=
  ⟨p.id, p.event.tenantId, p.event.actorIdentityId, p.event.eventType.asStr, p.event.action,
    p.event.resourceType, p.event.resourceId, p.event.decision.map Decision.asStr,
    rfc3339 p.event.timestamp, p.previousEventHash, p.event.metadata⟩

/-- `AuditLoggerConfig`. -/
structure AuditLoggerConfig where
  batchSize : ℕ
  batchTimeoutMs : ℕ
  channelBufferSize : ℕ
  deriving DecidableEq, Repr

/-- `AuditLoggerConfig::default`. -/
def AuditLoggerConfig.default : AuditLoggerConfig := ⟨100, 1000, 10000⟩

/-! ### Storage -/

/-- `write_batch` of a backend that stores a batch all or nothing: `PostgresAuditStorage`
inserts the batch in one transaction, which commits or is rolled back. `outcome` is the error
of the database, if any. -/
def backendWriteBatch (outcome : Option String) (events stored : List PersistedAuditEvent) :
    Except AppError Unit × List PersistedAuditEvent :=
  if events.isEmpty then (.ok (), stored)
  else
    match outcome with
    | none => (.ok (), stored ++ events)
    | some e => (.error (.database e), stored)

/-- The loop of `MultiBackendStorage::write_batch`: every backend in turn, collecting errors.
`outcomes idx` is the outcome of backend `idx`. -/
def writeEach (outcomes : ℕ → Option String) (events : List PersistedAuditEvent) :
    ℕ → List (List PersistedAuditEvent) → List AppError × List (List PersistedAuditEvent)
  | _, [] => ([], [])
  | idx, st :: sts =>
    let r := backendWriteBatch (outcomes idx) events st
    let rest := writeEach outcomes events (idx + 1) sts
    (match r.1 with
      | .error e => e :: rest.1
      | .ok _ => rest.1,
     r.2 :: rest.2)

/-- `MultiBackendStorage::write_batch`: it fails only when every backend failed. -/
def multiWriteBatch (outcomes : ℕ → Option String) (events : List PersistedAuditEvent)
    (stores : List (List PersistedAuditEvent)) :
    Except AppError Unit × List (List PersistedAuditEvent) :=
  if stores.isEmpty then (.error (.internal "No storage backends configured"), stores)
  else
    let r := writeEach outcomes events 0 stores
    if r.1 ≠ [] ∧ r.1.length = stores.length then
      (.error (.internal "All storage backends failed to write audit logs"), r.2)
    else (.ok (), r.2)

/-! ### The batch processor -/

/-- The rows `flush_batch` builds: a fresh id each, no signature, no previous hash. -/
def persist (freshId : ℕ → Uuid) : List AuditEvent → List PersistedAuditEvent
  | [] => []
  | e :: es => ⟨freshId 0, e, none, none⟩ :: persist (fun n => freshId (n + 1)) es

section Processor

variable {Ω σ : Type} (write : Ω → List PersistedAuditEvent → σ → Except AppError Unit × σ)

/-- `flush_batch`: write the batch, and clear it only when the write succeeded. -/
def flushBatch (freshId : ℕ → Uuid) (outcome : Ω) (batch : List AuditEvent) (st : σ) :
    Except AppError Unit × List AuditEvent × σ :=
  if batch.isEmpty then (.ok (), batch, st)
  else
    match write outcome (persist freshId batch) st with
    | (.ok _, st') => (.ok (), [], st')
    | (.error e, st') => (.error e, batch, st')

/-- The state of `batch_processor`. -/
structure Processor (σ : Type) where
  /-- Every event taken from the queue so far, in order. -/
  received : List AuditEvent
  batch : List AuditEvent
  storage : σ

/-- The receive arm: push the event, and flush when the batch is full. -/
def Processor.recv (cfg : AuditLoggerConfig) (e : AuditEvent) (freshId : ℕ → Uuid)
    (outcome : Ω) (s : Processor σ) : Processor σ :=
  let batch := s.batch ++ [e]
  if cfg.batchSize ≤ batch.length then
    let r := flushBatch write freshId outcome batch s.storage
    ⟨s.received ++ [e], r.2.1, r.2.2⟩
  else ⟨s.received ++ [e], batch, s.storage⟩

/-- The tick arm: flush a non-empty batch. -/
def Processor.tick (freshId : ℕ → Uuid) (outcome : Ω) (s : Processor σ) : Processor σ :=
  if s.batch.isEmpty then s
  else
    let r := flushBatch write freshId outcome s.batch s.storage
    ⟨s.received, r.2.1, r.2.2⟩

/-- One turn of the `select!` loop, with the environment's choice of event, ids and outcome. -/
inductive Step (cfg : AuditLoggerConfig) : Processor σ → Processor σ → Prop
  | recv (s : Processor σ) (e : AuditEvent) (freshId : ℕ → Uuid) (outcome : Ω) :
      Step cfg s (s.recv write cfg e freshId outcome)
  | tick (s : Processor σ) (freshId : ℕ → Uuid) (outcome : Ω) :
      Step cfg s (s.tick write freshId outcome)

/-- The states the task reaches from an empty batch over storage contents `st₀`. -/
def Reachable (cfg : AuditLoggerConfig) (st₀ : σ) (s : Processor σ) : Prop :=
  Relation.ReflTransGen (Step write cfg) ⟨[], [], st₀⟩ s

variable {write}

@[simp] theorem Processor.recv_received (cfg : AuditLoggerConfig) (e : AuditEvent)
    (freshId : ℕ → Uuid) (outcome : Ω) (s : Processor σ) :
    (s.recv write cfg e freshId outcome).received = s.received ++ [e] := by
  dsimp only [Processor.recv]; split_ifs <;> rfl

@[simp] theorem Processor.tick_received (freshId : ℕ → Uuid) (outcome : Ω) (s : Processor σ) :
    (s.tick write freshId outcome).received = s.received := by
  dsimp only [Processor.tick]; split_ifs <;> rfl

/-- An invariant of the task: it holds initially and survives every flush of a non-empty
batch and every push onto the batch. -/
theorem reachable_induction {cfg : AuditLoggerConfig} {st₀ : σ} (P : Processor σ → Prop)
    (h₀ : P ⟨[], [], st₀⟩)
    (hpush : ∀ s e, P s → P ⟨s.received ++ [e], s.batch ++ [e], s.storage⟩)
    (hflush : ∀ s freshId outcome, P s → s.batch ≠ [] →
      P ⟨s.received, (flushBatch write freshId outcome s.batch s.storage).2.1,
        (flushBatch write freshId outcome s.batch s.storage).2.2⟩)
    {s : Processor σ} (h : Reachable write cfg st₀ s) : P s := by
  induction h with
  | refl => exact h₀
  | tail _ hstep ih =>
    cases hstep with
    | recv e freshId outcome =>
      have hp := hpush _ e ih
      dsimp only [Processor.recv]
      split_ifs
      · exact hflush _ freshId outcome hp (by simp)
      · exact hp
    | tick freshId outcome =>
      dsimp only [Processor.tick]
      split_ifs with hb
      · exact ih
      · exact hflush _ freshId outcome ih (by simpa using hb)

end Processor

/-! ### Rows -/

@[simp] theorem persist_map_event (freshId : ℕ → Uuid) (batch : List AuditEvent) :
    (persist freshId batch).map (·.event) = batch := by
  induction batch generalizing freshId with
  | nil => rfl
  | cons e es ih => simp [persist, ih]

theorem previousEventHash_of_mem_persist {freshId : ℕ → Uuid} {batch : List AuditEvent}
    {p : PersistedAuditEvent} (hp : p ∈ persist freshId batch) : p.previousEventHash = none := by
  induction batch generalizing freshId with
  | nil => simp [persist] at hp
  | cons e es ih =>
    rcases List.mem_cons.1 hp with rfl | hp
    · rfl
    · exact ih hp

/-- A flush of a non-empty batch writes it once, and clears it exactly when the write
succeeded. -/
theorem flushBatch_of_ne_nil {Ω σ : Type}
    {write : Ω → List PersistedAuditEvent → σ → Except AppError Unit × σ}
    (freshId : ℕ → Uuid) (outcome : Ω) {batch : List AuditEvent} (hb : batch ≠ []) (st : σ) :
    (flushBatch write freshId outcome batch st).2 =
      (if (write outcome (persist freshId batch) st).1.toBool then [] else batch,
        (write outcome (persist freshId batch) st).2) := by
  unfold flushBatch
  rw [if_neg (by simpa using hb)]
  rcases write outcome (persist freshId batch) st with ⟨r | r, st'⟩ <;> rfl

/-- What an all-or-nothing backend's write can do: succeed and append the batch, or fail and
change nothing. -/
theorem backendWriteBatch_cases (outcome : Option String) (events st : List PersistedAuditEvent) :
    ((backendWriteBatch outcome events st).1.toBool = true ∧
        (backendWriteBatch outcome events st).2 = st ++ events) ∨
      ((backendWriteBatch outcome events st).1.toBool = false ∧
        (backendWriteBatch outcome events st).2 = st) := by
  unfold backendWriteBatch
  split_ifs with h
  · exact .inl ⟨rfl, by simp [List.isEmpty_iff.1 h]⟩
  · cases outcome
    · exact .inl ⟨rfl, rfl⟩
    · exact .inr ⟨rfl, rfl⟩

/-! ### One backend -/

/-- **With one backend nothing is lost or duplicated.** Whatever the pattern of write failures,
the payloads stored, followed by the pending batch, are exactly the events received. -/
theorem single_received_eq {cfg : AuditLoggerConfig} {s : Processor (List PersistedAuditEvent)}
    (h : Reachable backendWriteBatch cfg [] s) : s.storage.map (·.event) ++ s.batch = s.received :=
  reachable_induction (fun s => s.storage.map (·.event) ++ s.batch = s.received) rfl
    (fun s e hs => by simp [← hs])
    (fun s freshId outcome hs hb => by
      rw [flushBatch_of_ne_nil freshId outcome hb]
      rcases backendWriteBatch_cases outcome (persist freshId s.batch) s.storage with
        ⟨hok, hst⟩ | ⟨hok, hst⟩ <;> simp [hok, hst, ← hs])
    h

/-! ### Several backends -/

/-- A backend's contents after a write: unchanged, or with the batch appended. -/
def Grown (events st st' : List PersistedAuditEvent) : Prop := st' = st ∨ st' = st ++ events

section WriteEach

variable (outcomes : ℕ → Option String) (events : List PersistedAuditEvent)

theorem writeEach_grown : ∀ (idx : ℕ) (stores : List (List PersistedAuditEvent)),
    (∀ st ∈ stores, ∃ st' ∈ (writeEach outcomes events idx stores).2,
        Grown events st st') ∧
      ∀ st' ∈ (writeEach outcomes events idx stores).2, ∃ st ∈ stores,
        Grown events st st'
  | _, [] => by simp [writeEach]
  | idx, st :: sts => by
    have ih := writeEach_grown (idx + 1) sts
    have hg : Grown events st (backendWriteBatch (outcomes idx) events st).2 := by
      rcases backendWriteBatch_cases (outcomes idx) events st with ⟨-, h⟩ | ⟨-, h⟩
      · exact .inr h
      · exact .inl h
    simp only [writeEach, List.mem_cons, forall_eq_or_imp, exists_eq_or_imp]
    exact ⟨⟨.inl hg, fun s hs => .inr (ih.1 s hs)⟩, .inl hg, fun s hs => .inr (ih.2 s hs)⟩

theorem writeEach_errors_length_le : ∀ (idx : ℕ) (stores : List (List PersistedAuditEvent)),
    (writeEach outcomes events idx stores).1.length ≤ stores.length
  | _, [] => le_rfl
  | idx, st :: sts => by
    have := writeEach_errors_length_le (idx + 1) sts
    simp only [writeEach, List.length_cons]
    split <;> simp <;> omega

/-- When every backend failed, none changed. -/
theorem writeEach_all_failed : ∀ (idx : ℕ) (stores : List (List PersistedAuditEvent)),
    (writeEach outcomes events idx stores).1.length = stores.length →
      (writeEach outcomes events idx stores).2 = stores
  | _, [] => fun _ => rfl
  | idx, st :: sts => by
    have hle := writeEach_errors_length_le outcomes events (idx + 1) sts
    simp only [writeEach, List.length_cons]
    rcases backendWriteBatch_cases (outcomes idx) events st with ⟨hok, hst⟩ | ⟨hok, hst⟩
    · cases h : (backendWriteBatch (outcomes idx) events st).1 with
      | error e => simp [h, Except.toBool] at hok
      | ok _ => simp only [List.length_cons]; omega
    · cases h : (backendWriteBatch (outcomes idx) events st).1 with
      | error e =>
        simp only [List.length_cons, Nat.add_right_cancel_iff]
        exact fun hl => by rw [hst, writeEach_all_failed (idx + 1) sts hl]
      | ok _ => simp [h, Except.toBool] at hok

/-- When some backend did not fail, it holds the whole batch. -/
theorem writeEach_some_ok : ∀ (idx : ℕ) (stores : List (List PersistedAuditEvent)),
    (writeEach outcomes events idx stores).1.length < stores.length →
      ∃ st ∈ stores, st ++ events ∈ (writeEach outcomes events idx stores).2
  | _, [] => fun h => absurd h (Nat.not_lt_zero _)
  | idx, st :: sts => by
    simp only [writeEach, List.length_cons, List.mem_cons, exists_eq_or_imp]
    rcases backendWriteBatch_cases (outcomes idx) events st with ⟨hok, hst⟩ | ⟨hok, hst⟩
    · exact fun _ => .inl (.inl hst.symm)
    · cases h : (backendWriteBatch (outcomes idx) events st).1 with
      | error e =>
        intro hl
        obtain ⟨s, hs, hmem⟩ := writeEach_some_ok (idx + 1) sts (by simpa using hl)
        exact .inr ⟨s, hs, .inr hmem⟩
      | ok _ => simp [h, Except.toBool] at hok

end WriteEach

/-- What `MultiBackendStorage::write_batch` can do: succeed, with every backend unchanged or
grown by the batch and at least one grown; or fail with no backend changed. -/
theorem multiWriteBatch_cases (outcomes : ℕ → Option String) (events : List PersistedAuditEvent)
    (stores : List (List PersistedAuditEvent)) :
    ((multiWriteBatch outcomes events stores).1.toBool = true ∧
        (∀ st ∈ stores, ∃ st' ∈ (multiWriteBatch outcomes events stores).2,
          Grown events st st') ∧
        (∀ st' ∈ (multiWriteBatch outcomes events stores).2, ∃ st ∈ stores,
          Grown events st st') ∧
        ∃ st ∈ stores, st ++ events ∈ (multiWriteBatch outcomes events stores).2) ∨
      ((multiWriteBatch outcomes events stores).1.toBool = false ∧
        (multiWriteBatch outcomes events stores).2 = stores) := by
  dsimp only [multiWriteBatch]
  split_ifs with hempty hall
  · exact .inr ⟨rfl, rfl⟩
  · exact .inr ⟨rfl, writeEach_all_failed outcomes events 0 stores hall.2⟩
  · have hle := writeEach_errors_length_le outcomes events 0 stores
    have hne : stores ≠ [] := by simpa using hempty
    have hlt : (writeEach outcomes events 0 stores).1.length < stores.length := by
      by_cases h : (writeEach outcomes events 0 stores).1 = []
      · rw [h]; exact List.length_pos.2 hne
      · exact lt_of_le_of_ne hle fun hl => hall ⟨h, hl⟩
    exact .inl ⟨rfl, (writeEach_grown outcomes events 0 stores).1,
      (writeEach_grown outcomes events 0 stores).2,
      writeEach_some_ok outcomes events 0 stores hlt⟩

/-- The invariant of the task over several backends: the received events are the flushed ones
followed by the batch, every flushed event is in some backend, and every backend holds a
sublist of the flushed events. -/
def Covered (s : Processor (List (List PersistedAuditEvent))) : Prop :=
  ∃ flushed, s.received = flushed ++ s.batch ∧
    (∀ x ∈ flushed, ∃ st ∈ s.storage, x ∈ st.map (·.event)) ∧
    ∀ st ∈ s.storage, (st.map (·.event)).Sublist flushed

theorem covered_flush {s : Processor (List (List PersistedAuditEvent))} (freshId : ℕ → Uuid)
    (outcomes : ℕ → Option String) (hs : Covered s) (hb : s.batch ≠ []) :
    Covered ⟨s.received, (flushBatch multiWriteBatch freshId outcomes s.batch s.storage).2.1,
      (flushBatch multiWriteBatch freshId outcomes s.batch s.storage).2.2⟩ := by
  obtain ⟨flushed, hrec, hcov, hsub⟩ := hs
  rw [flushBatch_of_ne_nil freshId outcomes hb]
  rcases multiWriteBatch_cases outcomes (persist freshId s.batch) s.storage with
    ⟨hok, hfwd, hback, st₀, hst₀, hmem⟩ | ⟨hok, hst⟩
  · refine ⟨flushed ++ s.batch, by simp [hok, hrec], fun x hx => ?_, fun st' hst' => ?_⟩
    · rcases List.mem_append.1 hx with hx | hx
      · obtain ⟨st, hst, hx⟩ := hcov x hx
        obtain ⟨st', hst', hg⟩ := hfwd st hst
        refine ⟨st', hst', ?_⟩
        rcases hg with rfl | rfl
        · exact hx
        · exact List.map_append .. ▸ List.mem_append_left _ hx
      · exact ⟨_, hmem, by simpa using Or.inr hx⟩
    · obtain ⟨st, hst, hg⟩ := hback st' hst'
      rcases hg with rfl | rfl
      · exact (hsub _ hst).trans (List.sublist_append_left _ _)
      · simpa using (hsub st hst).append (List.Sublist.refl s.batch)
  · simp only [hok, hst, Bool.false_eq_true, if_false]
    exact ⟨flushed, hrec, hcov, hsub⟩

/-- **With several backends nothing is lost.** Every received event is pending or stored in
some backend, and each backend holds an order-preserving, duplicate-free subsequence of the
received events. -/
theorem multi_received_covered {cfg : AuditLoggerConfig} {n : ℕ}
    {s : Processor (List (List PersistedAuditEvent))}
    (h : Reachable multiWriteBatch cfg (List.replicate n []) s) :
    (∀ x ∈ s.received, x ∈ s.batch ∨ ∃ st ∈ s.storage, x ∈ st.map (·.event)) ∧
      ∀ st ∈ s.storage, (st.map (·.event)).Sublist s.received := by
  obtain ⟨flushed, hrec, hcov, hsub⟩ := reachable_induction Covered
    ⟨[], rfl, by simp, fun st hst => by simp [(List.eq_of_mem_replicate hst)]⟩
    (fun s e ⟨flushed, hrec, hcov, hsub⟩ => ⟨flushed, by simp [hrec], hcov, hsub⟩)
    @covered_flush h
  refine ⟨fun x hx => ?_,
    fun st hst => hrec ▸ (hsub st hst).trans (List.sublist_append_left _ _)⟩
  rw [hrec] at hx
  rcases List.mem_append.1 hx with hx | hx
  · exact .inr (hcov x hx)
  · exact .inl hx

/-- **The pipeline loses nothing.** With one all-or-nothing backend the stored payloads
followed by the batch are the received events, whatever writes fail; with `MultiBackendStorage`
over `n` backends every received event is pending or in some backend, and each backend's
payloads are a sublist of the received events. -/
theorem pipeline_loses_nothing (cfg : AuditLoggerConfig) :
    (∀ s, Reachable backendWriteBatch cfg [] s → s.storage.map (·.event) ++ s.batch = s.received) ∧
      ∀ n s, Reachable multiWriteBatch cfg (List.replicate n []) s →
        (∀ x ∈ s.received, x ∈ s.batch ∨ ∃ st ∈ s.storage, x ∈ st.map (·.event)) ∧
          ∀ st ∈ s.storage, (st.map (·.event)).Sublist s.received :=
  ⟨fun _ h => single_received_eq h, fun _ _ h => multi_received_covered h⟩

/-! ### No hash linking -/

/-- A chain whose events all lack a `previous_hash` verifies exactly when it has at most one
event. -/
theorem verifyChain_of_unlinked (H : String → String) {es : List HashableEvent}
    (h : ∀ e ∈ es, e.previousHash = none) : verifyChain H es = true ↔ es.length ≤ 1 := by
  match es, h with
  | [], _ => simp [verifyChain]
  | [e], h => simp [verifyChain, verifyLinks, h e (.head _)]
  | e₁ :: e₂ :: es, h =>
    simp [verifyChain, verifyLinks, h e₁ (.head _), h e₂ (.tail _ (.head _))]

/-- In a store of unlinked events, a tenant's sequence verifies exactly when it has at most one
event. -/
theorem verifyChain_tenant_of_unlinked (H : String → String) (rfc3339 : ℤ → String)
    {st : List PersistedAuditEvent} (h : ∀ p ∈ st, p.previousEventHash = none) (t : Uuid) :
    verifyChain H ((st.filter (·.event.tenantId = t)).map (·.toHashable rfc3339)) = true ↔
      (st.filter (·.event.tenantId = t)).length ≤ 1 := by
  rw [verifyChain_of_unlinked H, List.length_map]
  simp only [List.mem_map, List.mem_filter]
  rintro _ ⟨p, ⟨hp, -⟩, rfl⟩
  exact h p hp

/-- A flush into one backend adds only unlinked events. -/
theorem unlinked_flush_single (s : Processor (List PersistedAuditEvent)) (freshId : ℕ → Uuid)
    (outcome : Option String) (hs : ∀ p ∈ s.storage, p.previousEventHash = none)
    (hb : s.batch ≠ []) :
    ∀ p ∈ (flushBatch backendWriteBatch freshId outcome s.batch s.storage).2.2,
      p.previousEventHash = none := by
  intro p hp
  simp only [flushBatch_of_ne_nil freshId outcome hb] at hp
  rcases backendWriteBatch_cases outcome (persist freshId s.batch) s.storage with
    ⟨-, hst⟩ | ⟨-, hst⟩ <;> rw [hst] at hp
  · exact (List.mem_append.1 hp).elim (hs p) previousEventHash_of_mem_persist
  · exact hs p hp

/-- A flush into several backends adds only unlinked events to each. -/
theorem unlinked_flush_multi (s : Processor (List (List PersistedAuditEvent)))
    (freshId : ℕ → Uuid) (outcomes : ℕ → Option String)
    (hs : ∀ st ∈ s.storage, ∀ p ∈ st, p.previousEventHash = none) (hb : s.batch ≠ []) :
    ∀ st' ∈ (flushBatch multiWriteBatch freshId outcomes s.batch s.storage).2.2,
      ∀ p ∈ st', p.previousEventHash = none := by
  intro st' hst' p hp
  simp only [flushBatch_of_ne_nil freshId outcomes hb] at hst'
  rcases multiWriteBatch_cases outcomes (persist freshId s.batch) s.storage with
    ⟨-, -, hback, -⟩ | ⟨-, hst⟩
  · obtain ⟨st, hst, hg | hg⟩ := hback st' hst' <;> rw [hg] at hp
    · exact hs st hst p hp
    · exact (List.mem_append.1 hp).elim (hs st hst p) previousEventHash_of_mem_persist
  · rw [hst] at hst'
    exact hs st' hst' p hp

/-- **Persisted events are not hash-linked.** `flush_batch` writes every event with
`previous_event_hash = None`, into one backend or into each of several, so a tenant's persisted
sequence in a backend verifies only while it has at most one event. -/
theorem persisted_unlinked (cfg : AuditLoggerConfig) (H : String → String)
    (rfc3339 : ℤ → String) :
    (∀ s, Reachable backendWriteBatch cfg [] s →
      (∀ p ∈ s.storage, p.previousEventHash = none) ∧
        ∀ t : Uuid,
          (verifyChain H ((s.storage.filter (·.event.tenantId = t)).map (·.toHashable rfc3339)) =
              true ↔ (s.storage.filter (·.event.tenantId = t)).length ≤ 1)) ∧
      ∀ n s, Reachable multiWriteBatch cfg (List.replicate n []) s →
        ∀ st ∈ s.storage, (∀ p ∈ st, p.previousEventHash = none) ∧
          ∀ t : Uuid,
            (verifyChain H ((st.filter (·.event.tenantId = t)).map (·.toHashable rfc3339)) =
                true ↔ (st.filter (·.event.tenantId = t)).length ≤ 1) := by
  refine ⟨fun s h => ?_, fun n s h st hst => ?_⟩
  · have hnone := reachable_induction
      (fun s : Processor (List PersistedAuditEvent) => ∀ p ∈ s.storage, p.previousEventHash = none)
      (by simp) (fun _ _ hs => hs) unlinked_flush_single h
    exact ⟨hnone, verifyChain_tenant_of_unlinked H rfc3339 hnone⟩
  · have hnone := reachable_induction
      (fun s : Processor (List (List PersistedAuditEvent)) =>
        ∀ st ∈ s.storage, ∀ p ∈ st, p.previousEventHash = none)
      (fun st hst => by simp [List.eq_of_mem_replicate hst]) (fun _ _ hs => hs)
      unlinked_flush_multi h st hst
    exact ⟨hnone, verifyChain_tenant_of_unlinked H rfc3339 hnone⟩

/-- A system event of one tenant, as the logger's tests log them. -/
def systemEvent (action : String) : AuditEvent :=
  ⟨⟨7⟩, none, none, .systemEvent, action, "test_resource", none, none, none, none, none, none,
    .object [], 0⟩

/-- Two events of one tenant, received and flushed on a tick: both are stored, the second with
no `previous_event_hash`. -/
theorem second_persisted_unlinked :
    Reachable backendWriteBatch AuditLoggerConfig.default []
        ((((⟨[], [], []⟩ : Processor (List PersistedAuditEvent)).recv backendWriteBatch
          AuditLoggerConfig.default (systemEvent "test_action_0") (fun _ => ⟨1⟩) none).recv
          backendWriteBatch AuditLoggerConfig.default (systemEvent "test_action_1")
          (fun _ => ⟨2⟩) none).tick backendWriteBatch (fun n => ⟨n + 3⟩) none) ∧
      (((((⟨[], [], []⟩ : Processor (List PersistedAuditEvent)).recv backendWriteBatch
          AuditLoggerConfig.default (systemEvent "test_action_0") (fun _ => ⟨1⟩) none).recv
          backendWriteBatch AuditLoggerConfig.default (systemEvent "test_action_1")
          (fun _ => ⟨2⟩) none).tick backendWriteBatch (fun n => ⟨n + 3⟩) none).storage.map
        (fun p => (p.event.tenantId, p.previousEventHash))) = [(⟨7⟩, none), (⟨7⟩, none)] :=
  ⟨.tail (.tail (.tail .refl (.recv _ _ _ _)) (.recv _ _ _ _)) (.tick _ _ _), by decide⟩

end AgentIam.Audit
