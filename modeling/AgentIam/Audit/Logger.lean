import AgentIam.Audit.Pipeline

/-!
# The audit logger and its queue (`audit/logger.rs`)

`AuditLogger` holds the sending half of a bounded `tokio::sync::mpsc` channel of
`channel_buffer_size` events; `batch_processor` (`Audit.Processor`) holds the receiving half.

* `Logger` is the whole path: the events waiting in the channel, the task's state, and the
  events whose queuing succeeded (a ghost field: nothing in the code keeps it).
* `Logger.logBlocking` is `log_blocking`, `Sender::try_send`: it queues the event when the
  channel has room and otherwise fails with the error text of `TrySendError::Full`.
* `log` is `Sender::send(..).await`, which waits while the channel is full: its step is taken only
  when there is room. The channel is never closed, since the task never drops its receiver (its
  tick arm is always enabled), so neither call meets the closed channel's error.
* `LoggerStep` is one event of the whole path: a call of either method, the task taking the
  head of the queue (`Processor.recv`), or a tick (`Processor.tick`).
* `Logger.queueSize` is `queue_size`, `capacity() - max_capacity()` on `usize`, where
  `capacity()` is the room left. A release build wraps below zero.

`logger_loses_nothing`: from an empty channel over an all-or-nothing backend, at every reachable
state the stored events, then the batch, then the queue, are exactly the events whose queuing
succeeded, and the queue holds at most `channel_buffer_size` of them. `queueSize_reachable`:
`queue_size` is right only for an empty queue; with `n > 0` events queued it is `2 ^ 64 - n`.
-/

namespace AgentIam.Audit

/-- The audit path: the channel's queue, the task, and the events queued so far. -/
structure Logger (σ : Type) where
  /-- Every event whose queuing succeeded, in order. -/
  accepted : List AuditEvent
  queue : List AuditEvent
  processor : Processor σ

/-- An event placed at the back of the queue. -/
def Logger.enqueue {σ : Type} (event : AuditEvent) (l : Logger σ) : Logger σ :=
  ⟨l.accepted ++ [event], l.queue ++ [event], l.processor⟩

/-- `AuditLogger::log_blocking`: `try_send`, its error mapped to `AppError::Internal`. -/
def Logger.logBlocking {σ : Type} (cfg : AuditLoggerConfig) (event : AuditEvent) (l : Logger σ) :
    Except AppError Unit × Logger σ :=
  if l.queue.length < cfg.channelBufferSize then (.ok (), l.enqueue event)
  else (.error (.internal "Failed to queue audit event: no available capacity"), l)

/-- `Sender::capacity`: the room left in the channel. -/
def Logger.capacity {σ : Type} (cfg : AuditLoggerConfig) (l : Logger σ) : ℕ :=
  cfg.channelBufferSize - l.queue.length

/-- `AuditLogger::queue_size`: `capacity() - max_capacity()` on `usize`, wrapping below zero. -/
def Logger.queueSize {σ : Type} (cfg : AuditLoggerConfig) (l : Logger σ) : ℕ :=
  (l.capacity cfg + 2 ^ 64 - cfg.channelBufferSize) % 2 ^ 64

section Steps

variable {Ω σ : Type}
  (write : Ω → List PersistedAuditEvent → σ → Except AppError Unit × σ)

/-- One event of the audit path, with the environment's choice of event, ids and outcome. -/
inductive LoggerStep (cfg : AuditLoggerConfig) : Logger σ → Logger σ → Prop
  | log (l : Logger σ) (event : AuditEvent) (room : l.queue.length < cfg.channelBufferSize) :
      LoggerStep cfg l (l.enqueue event)
  | logBlocking (l : Logger σ) (event : AuditEvent) : LoggerStep cfg l (l.logBlocking cfg event).2
  | recv (l : Logger σ) (event : AuditEvent) (rest : List AuditEvent)
      (head : l.queue = event :: rest) (freshId : ℕ → Uuid) (outcome : Ω) :
      LoggerStep cfg l ⟨l.accepted, rest, l.processor.recv write cfg event freshId outcome⟩
  | tick (l : Logger σ) (freshId : ℕ → Uuid) (outcome : Ω) :
      LoggerStep cfg l ⟨l.accepted, l.queue, l.processor.tick write freshId outcome⟩

/-- The states of the audit path from an empty channel and task over storage contents `st₀`. -/
def LoggerReachable (cfg : AuditLoggerConfig) (st₀ : σ) (l : Logger σ) : Prop :=
  Relation.ReflTransGen (LoggerStep write cfg) ⟨[], [], ⟨[], [], st₀⟩⟩ l

/-- The invariant of the audit path: the queue is within the channel's bound, the task has
received exactly the accepted events ahead of the queue, and the task's state is one it
reaches by itself. -/
structure LoggerInv (cfg : AuditLoggerConfig) (st₀ : σ) (l : Logger σ) : Prop where
  bounded : l.queue.length ≤ cfg.channelBufferSize
  fifo : l.processor.received ++ l.queue = l.accepted
  processor : Reachable write cfg st₀ l.processor

variable {write}

/-- What a call of `log_blocking` can do: queue the event when there is room, or fail and
change nothing. -/
theorem Logger.logBlocking_cases (cfg : AuditLoggerConfig) (event : AuditEvent) (l : Logger σ) :
    (l.queue.length < cfg.channelBufferSize ∧
        l.logBlocking cfg event = (.ok (), l.enqueue event)) ∨
      (cfg.channelBufferSize ≤ l.queue.length ∧
        l.logBlocking cfg event =
          (.error (.internal "Failed to queue audit event: no available capacity"), l)) := by
  unfold Logger.logBlocking
  split_ifs with h
  · exact .inl ⟨h, rfl⟩
  · exact .inr ⟨not_lt.1 h, rfl⟩

theorem LoggerInv.enqueue {cfg : AuditLoggerConfig} {st₀ : σ} {l : Logger σ}
    (h : LoggerInv write cfg st₀ l) (event : AuditEvent)
    (room : l.queue.length < cfg.channelBufferSize) :
    LoggerInv write cfg st₀ (l.enqueue event) where
  bounded := by simp only [Logger.enqueue, List.length_append, List.length_singleton]; omega
  fifo := by simp only [Logger.enqueue, ← h.fifo, List.append_assoc]
  processor := h.processor

/-- Every event of the audit path keeps its invariant. -/
theorem LoggerInv.step {cfg : AuditLoggerConfig} {st₀ : σ} {l l' : Logger σ}
    (h : LoggerInv write cfg st₀ l) (hstep : LoggerStep write cfg l l') :
    LoggerInv write cfg st₀ l' := by
  cases hstep with
  | log event room => exact h.enqueue event room
  | logBlocking event =>
    rcases Logger.logBlocking_cases cfg event l with ⟨room, hl⟩ | ⟨-, hl⟩ <;> rw [hl]
    · exact h.enqueue event room
    · exact h
  | recv event rest head freshId outcome =>
    refine ⟨?_, ?_, .tail h.processor (.recv _ event freshId outcome)⟩
    · have := h.bounded
      rw [head, List.length_cons] at this
      exact Nat.le_of_succ_le this
    · simp only [Processor.recv_received, List.append_assoc, List.singleton_append, ← head,
        h.fifo]
  | tick freshId outcome =>
    exact ⟨h.bounded, by simp only [Processor.tick_received, h.fifo],
      .tail h.processor (.tick _ freshId outcome)⟩

theorem LoggerInv.of_reachable {cfg : AuditLoggerConfig} {st₀ : σ} {l : Logger σ}
    (h : LoggerReachable write cfg st₀ l) : LoggerInv write cfg st₀ l := by
  induction h with
  | refl => exact ⟨Nat.zero_le _, rfl, .refl⟩
  | tail _ hstep ih => exact ih.step hstep

end Steps

/-- **Nothing the logger accepts is lost, duplicated or reordered.** From an empty channel and
task over an all-or-nothing backend, whatever the order of calls, deliveries and ticks and
whatever writes fail, the events stored, then the task's batch, then the events waiting in the
channel, are exactly the events whose `log` or `log_blocking` call succeeded, in the order of the
calls; and the channel never holds more than `channel_buffer_size` of them. -/
theorem logger_loses_nothing {cfg : AuditLoggerConfig} {l : Logger (List PersistedAuditEvent)}
    (h : LoggerReachable backendWriteBatch cfg [] l) :
    l.processor.storage.map (·.event) ++ l.processor.batch ++ l.queue = l.accepted ∧
      l.queue.length ≤ cfg.channelBufferSize := by
  have hinv := LoggerInv.of_reachable h
  exact ⟨by rw [single_received_eq hinv.processor, hinv.fifo], hinv.bounded⟩

/-- The audit path after one event is logged into an empty channel. -/
def oneQueued : Logger (List PersistedAuditEvent) :=
  Logger.enqueue (systemEvent "started") ⟨[], [], ⟨[], [], []⟩⟩

theorem oneQueued_reachable :
    LoggerReachable backendWriteBatch AuditLoggerConfig.default [] oneQueued :=
  .single (.log _ _ (by decide))

/-- One event logged into an empty channel of the default size: it waits in the queue. -/
theorem logger_loses_nothing_one :
    LoggerReachable backendWriteBatch AuditLoggerConfig.default [] oneQueued ∧
      oneQueued.processor.storage.map (·.event) ++ oneQueued.processor.batch ++ oneQueued.queue =
        oneQueued.accepted ∧
      oneQueued.queue.length ≤ AuditLoggerConfig.default.channelBufferSize :=
  ⟨oneQueued_reachable, logger_loses_nothing oneQueued_reachable⟩

/-- **`queue_size` is right only for an empty queue.** At every reachable state of a channel of
fewer than `2 ^ 64` events, `capacity() - max_capacity()` is `0` when nothing is queued, and
wraps to `2 ^ 64 - n` when `n > 0` events are queued (a debug build panics there instead). -/
theorem queueSize_reachable {Ω σ : Type}
    {write : Ω → List PersistedAuditEvent → σ → Except AppError Unit × σ}
    {cfg : AuditLoggerConfig} {st₀ : σ} {l : Logger σ} (h : LoggerReachable write cfg st₀ l)
    (hbuf : cfg.channelBufferSize < 2 ^ 64) :
    l.queueSize cfg = if l.queue.isEmpty then 0 else 2 ^ 64 - l.queue.length := by
  have hb := (LoggerInv.of_reachable h).bounded
  unfold Logger.queueSize Logger.capacity
  split_ifs with hq
  · rw [List.isEmpty_iff.1 hq, List.length_nil, Nat.sub_zero, Nat.add_sub_cancel_left,
      Nat.mod_self]
  · have hpos : 0 < l.queue.length := List.length_pos.2 (by simpa using hq)
    rw [show cfg.channelBufferSize - l.queue.length + 2 ^ 64 - cfg.channelBufferSize =
      2 ^ 64 - l.queue.length by omega, Nat.mod_eq_of_lt (by omega)]

/-- One event logged into an empty channel of the default size: `queue_size` reports
`2 ^ 64 - 1`. -/
theorem queueSize_one_queued :
    LoggerReachable backendWriteBatch AuditLoggerConfig.default [] oneQueued ∧
      AuditLoggerConfig.default.channelBufferSize < 2 ^ 64 ∧
      oneQueued.queueSize AuditLoggerConfig.default = 2 ^ 64 - 1 :=
  ⟨oneQueued_reachable, by decide,
    by rw [queueSize_reachable oneQueued_reachable (by decide)]; rfl⟩

end AgentIam.Audit
