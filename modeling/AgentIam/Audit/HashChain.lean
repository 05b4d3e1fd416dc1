import AgentIam.Basic
import AgentIam.Utf8

/-!
# The audit hash chain (`audit/tamper_proof.rs`)

`HashChain` links audit events: each event carries, as `previous_hash`, the hash of the event
before it, and the head carries none.

* `canonicalize` is the pipe-separated text the hash is taken of, `computeHash` the hash of
  it. The hash function is a variable `H`: SHA-256 followed by hex encoding.
* `verifyChain` and `findChainBreak` are the two loops over a chain, each carrying the hash of
  the event it has just passed (`verifyLinks`, `findBreakFrom`).
* `LinkOk H prev es i` is the linkage condition at position `i` of `es`, when the event before
  `es` has hash `prev` (`none` at the head of a chain).

`canonicalize` cannot fail (the `Result` of the source comes only from serialising a
`serde_json::Value`, which succeeds), so the loops return plain values here.

`verifyChain_iff` and `findChainBreak_eq_some_iff` characterise the two loops by the linkage
condition; `set_verifyChain` and `set_findChainBreak` say what replacing one event does.
`verifyHash` compares hashes with `constantTimeCompare`, which answers text equality
(`constantTimeCompare_eq_beq`, through `Utf8.toUTF8_inj`).
-/

namespace AgentIam.HashChain

/-- `HashableEvent`. -/
structure HashableEvent where
  id : Uuid
  tenantId : Uuid
  actorIdentityId : Option Uuid
  eventType : String
  action : String
  resourceType : String
  resourceId : Option String
  decision : Option String
  timestamp : String
  previousHash : Option String
  metadata : JsonValue
  deriving Repr

/-- `canonicalize`: `field=value` parts joined by `|`, an absent value written `null`. -/
def canonicalize (e : HashableEvent) : String :=
  "|".intercalate
    ["id=" ++ e.id.hyphenated,
     "tenant_id=" ++ e.tenantId.hyphenated,
     "actor_identity_id=" ++ (e.actorIdentityId.map Uuid.hyphenated).getD "null",
     "event_type=" ++ e.eventType,
     "action=" ++ e.action,
     "resource_type=" ++ e.resourceType,
     "resource_id=" ++ e.resourceId.getD "null",
     "decision=" ++ e.decision.getD "null",
     "timestamp=" ++ e.timestamp,
     "previous_hash=" ++ e.previousHash.getD "null",
     "metadata=" ++ e.metadata.serialize]

variable (H : String → String)

/-- `compute_hash`. -/
def computeHash (e : HashableEvent) : String := H (canonicalize e)

/-- The loop of `verify_chain`, carrying the hash of the event before. -/
def verifyLinks : Option String → List HashableEvent → Bool
  | _, [] => true
  | prev, e :: es => if e.previousHash ≠ prev then false else verifyLinks (some (computeHash H e)) es

/-- `verify_chain`. -/
def verifyChain : List HashableEvent → Bool
  | [] => true
  | e :: es => if e.previousHash.isSome then false else verifyLinks H none (e :: es)

/-- The loop of `find_chain_break`, carrying the hash of the event before and the index. -/
def findBreakFrom : Option String → ℕ → List HashableEvent → Option ℕ
  | _, _, [] => none
  | prev, idx, e :: es =>
    if e.previousHash ≠ prev then some idx else findBreakFrom (some (computeHash H e)) (idx + 1) es

/-- `find_chain_break`. -/
def findChainBreak : List HashableEvent → Option ℕ
  | [] => none
  | e :: es => if e.previousHash.isSome then some 0 else findBreakFrom H none 0 (e :: es)

/-! ### The linkage condition -/

/-- The `previous_hash` position `i` of `es` must carry, when the event before `es` has hash
`prev`. -/
def expectedPrev (prev : Option String) (es : List HashableEvent) : ℕ → Option String
  | 0 => prev
  | i + 1 => es[i]?.map (computeHash H)

/-- The linkage condition at position `i` (vacuous past the end). -/
def LinkOk (prev : Option String) (es : List HashableEvent) (i : ℕ) : Prop :=
  ∀ e ∈ es[i]?, e.previousHash = expectedPrev H prev es i

variable {H}

@[simp] theorem linkOk_nil {prev : Option String} {i : ℕ} : LinkOk H prev [] i := by
  simp [LinkOk]

@[simp] theorem linkOk_cons_zero {prev : Option String} {e : HashableEvent}
    {es : List HashableEvent} : LinkOk H prev (e :: es) 0 ↔ e.previousHash = prev := by
  simp [LinkOk, expectedPrev]

@[simp] theorem linkOk_cons_succ {prev : Option String} {e : HashableEvent}
    {es : List HashableEvent} {i : ℕ} :
    LinkOk H prev (e :: es) (i + 1) ↔ LinkOk H (some (computeHash H e)) es i := by
  cases i <;> simp [LinkOk, expectedPrev]

theorem linkOk_of_length_le {prev : Option String} {es : List HashableEvent} {i : ℕ}
    (h : es.length ≤ i) : LinkOk H prev es i := by
  simp [LinkOk, List.getElem?_eq_none h]

/-- Inside the chain, the condition at a later position reads the event before it. -/
theorem linkOk_succ_iff {prev : Option String} {es : List HashableEvent} {i : ℕ}
    (hi : i + 1 < es.length) :
    LinkOk H prev es (i + 1) ↔ es[i + 1].previousHash = some (computeHash H es[i]) := by
  simp [LinkOk, expectedPrev, List.getElem?_eq_getElem hi,
    List.getElem?_eq_getElem (Nat.lt_of_succ_lt hi)]

/-- The first position at which the linkage condition fails. -/
def FirstBreak (H : String → String) (prev : Option String) (es : List HashableEvent) (k : ℕ) :
    Prop :=
  ¬LinkOk H prev es k ∧ ∀ i < k, LinkOk H prev es i

theorem FirstBreak.unique {prev : Option String} {es : List HashableEvent} {j k : ℕ}
    (hj : FirstBreak H prev es j) (hk : FirstBreak H prev es k) : j = k := by
  rcases Nat.lt_trichotomy j k with h | h | h
  · exact absurd (hk.2 j h) hj.1
  · exact h
  · exact absurd (hj.2 k h) hk.1

@[simp] theorem firstBreak_cons_zero {prev : Option String} {e : HashableEvent}
    {es : List HashableEvent} : FirstBreak H prev (e :: es) 0 ↔ e.previousHash ≠ prev := by
  simp [FirstBreak]

theorem firstBreak_cons_succ {prev : Option String} {e : HashableEvent}
    {es : List HashableEvent} {k : ℕ} :
    FirstBreak H prev (e :: es) (k + 1) ↔
      e.previousHash = prev ∧ FirstBreak H (some (computeHash H e)) es k := by
  simp only [FirstBreak, linkOk_cons_succ]
  constructor
  · rintro ⟨hk, hlt⟩
    exact ⟨linkOk_cons_zero.1 (hlt 0 k.succ_pos), hk, fun i hi => by
      simpa using hlt (i + 1) (by omega)⟩
  · rintro ⟨h0, hk, hlt⟩
    refine ⟨hk, fun i hi => ?_⟩
    cases i with
    | zero => exact linkOk_cons_zero.2 h0
    | succ i => exact linkOk_cons_succ.2 (hlt i (by omega))

/-! ### The loops -/

theorem findBreakFrom_eq_none_iff {prev : Option String} {idx : ℕ} {es : List HashableEvent} :
    findBreakFrom H prev idx es = none ↔ ∀ i, LinkOk H prev es i := by
  induction es generalizing prev idx with
  | nil => simp [findBreakFrom]
  | cons e es ih =>
    by_cases h : e.previousHash = prev
    · simp only [findBreakFrom, h, ne_eq, not_true_eq_false, if_false, ih]
      constructor
      · intro hall i
        cases i with
        | zero => exact linkOk_cons_zero.2 h
        | succ i => exact linkOk_cons_succ.2 (hall i)
      · exact fun hall i => linkOk_cons_succ.1 (hall (i + 1))
    · simp only [findBreakFrom, ne_eq, h, not_false_eq_true, if_true, reduceCtorEq, false_iff]
      exact fun hall => h (linkOk_cons_zero.1 (hall 0))

theorem findBreakFrom_eq_some {prev : Option String} {idx k : ℕ} {es : List HashableEvent}
    (h : findBreakFrom H prev idx es = some k) : ∃ j, k = idx + j ∧ FirstBreak H prev es j := by
  induction es generalizing prev idx with
  | nil => simp [findBreakFrom] at h
  | cons e es ih =>
    by_cases he : e.previousHash = prev
    · simp only [findBreakFrom, he, ne_eq, not_true_eq_false, if_false] at h
      obtain ⟨j, rfl, hj⟩ := ih h
      exact ⟨j + 1, by omega, firstBreak_cons_succ.2 ⟨he, hj⟩⟩
    · simp only [findBreakFrom, ne_eq, he, not_false_eq_true, if_true, Option.some.injEq] at h
      exact ⟨0, by omega, firstBreak_cons_zero.2 he⟩

theorem verifyLinks_eq_isNone (prev : Option String) (idx : ℕ) (es : List HashableEvent) :
    verifyLinks H prev es = (findBreakFrom H prev idx es).isNone := by
  induction es generalizing prev idx with
  | nil => rfl
  | cons e es ih =>
    simp only [verifyLinks, findBreakFrom]
    split_ifs
    · rfl
    · exact ih _ _

/-- The head check of both functions is the loop's first comparison: `prev` starts as `none`. -/
theorem verifyChain_eq (es : List HashableEvent) : verifyChain H es = verifyLinks H none es := by
  cases es with
  | nil => rfl
  | cons e es => cases h : e.previousHash <;> simp [verifyChain, verifyLinks, h]

theorem findChainBreak_eq (es : List HashableEvent) :
    findChainBreak H es = findBreakFrom H none 0 es := by
  cases es with
  | nil => rfl
  | cons e es => cases h : e.previousHash <;> simp [findChainBreak, findBreakFrom, h]

theorem verifyChain_eq_true_iff {es : List HashableEvent} :
    verifyChain H es = true ↔ ∀ i, LinkOk H none es i := by
  rw [verifyChain_eq, verifyLinks_eq_isNone none 0, Option.isNone_iff_eq_none,
    findBreakFrom_eq_none_iff]

theorem findChainBreak_eq_none_iff {es : List HashableEvent} :
    findChainBreak H es = none ↔ verifyChain H es = true := by
  rw [findChainBreak_eq, findBreakFrom_eq_none_iff, verifyChain_eq_true_iff]

/-- `find_chain_break` returns the least index at which the linkage condition fails. -/
theorem findChainBreak_eq_some_iff {es : List HashableEvent} {k : ℕ} :
    findChainBreak H es = some k ↔ FirstBreak H none es k := by
  rw [findChainBreak_eq]
  constructor
  · intro h
    obtain ⟨j, rfl, hj⟩ := findBreakFrom_eq_some h
    simpa using hj
  · intro hk
    cases h : findBreakFrom H none 0 es with
    | none => exact absurd (findBreakFrom_eq_none_iff.1 h k) hk.1
    | some j =>
      obtain ⟨j', rfl, hj⟩ := findBreakFrom_eq_some h
      rw [hj.unique hk, Nat.zero_add]

/-- The linkage condition at every position, in the claim's words: the head has no
`previous_hash`, and every later event the hash of its predecessor. -/
theorem forall_linkOk_iff {es : List HashableEvent} :
    (∀ i, LinkOk H none es i) ↔ es = [] ∨
      ((∀ e ∈ es.head?, e.previousHash = none) ∧
        ∀ i (h : i + 1 < es.length), es[i + 1].previousHash = some (computeHash H es[i])) := by
  cases es with
  | nil => simp
  | cons e es =>
    simp only [reduceCtorEq, false_or, List.head?_cons, Option.mem_def, Option.some.injEq,
      forall_eq']
    constructor
    · intro hall
      exact ⟨linkOk_cons_zero.1 (hall 0), fun i hi => (linkOk_succ_iff hi).1 (hall (i + 1))⟩
    · rintro ⟨h0, hlink⟩ (_ | i)
      · exact linkOk_cons_zero.2 h0
      · by_cases hi : i + 1 < (e :: es).length
        · exact (linkOk_succ_iff hi).2 (hlink i hi)
        · exact linkOk_of_length_le (by omega)

/-- **The two loops, characterised.** `verify_chain` accepts exactly the chains whose head has
no `previous_hash` and whose every later event carries the hash of its predecessor;
`find_chain_break` finds nothing exactly when `verify_chain` accepts, and otherwise the least
position at which that condition fails. -/
theorem verifyChain_iff (es : List HashableEvent) :
    (verifyChain H es = true ↔ es = [] ∨
      ((∀ e ∈ es.head?, e.previousHash = none) ∧
        ∀ i (h : i + 1 < es.length), es[i + 1].previousHash = some (computeHash H es[i]))) ∧
    (findChainBreak H es = none ↔ verifyChain H es = true) ∧
    (∀ k, findChainBreak H es = some k ↔ ¬LinkOk H none es k ∧ ∀ i < k, LinkOk H none es i) :=
  ⟨verifyChain_eq_true_iff.trans forall_linkOk_iff, findChainBreak_eq_none_iff,
    fun _ => findChainBreak_eq_some_iff⟩

/-! ### A session -/

/-- An event that heads a chain. -/
def loginEvent : HashableEvent :=
  ⟨⟨1⟩, ⟨2⟩, none, "authentication", "login", "session", none, some "allow",
    "2026-02-12T10:00:00Z", none, .object []⟩

/-- The event that follows `loginEvent`, linked to it under the identity hash. -/
def logoutEvent : HashableEvent :=
  { loginEvent with
    id := ⟨3⟩, action := "logout", timestamp := "2026-02-12T11:00:00Z",
    previousHash := some (computeHash id loginEvent) }

/-- A session's two events, linked under the identity hash. -/
def sessionChain : List HashableEvent := [loginEvent, logoutEvent]

/-- The session chain verifies. -/
theorem sessionChain_valid : verifyChain id sessionChain = true := by
  simp [sessionChain, verifyChain, verifyLinks, logoutEvent, loginEvent]

/-! ### What the canonical form determines -/

theorem data_intercalate_go (acc s : String) :
    ∀ l : List String, (String.intercalate.go acc s l).data =
      acc.data ++ (l.map fun a => s.data ++ a.data).flatten
  | [] => by simp [String.intercalate.go]
  | a :: as => by simp [String.intercalate.go, data_intercalate_go _ s as]

theorem intercalate_cons {α : Type} (sep a : List α) :
    ∀ as : List (List α), sep.intercalate (a :: as) = a ++ (as.map (sep ++ ·)).flatten
  | [] => by simp [List.intercalate]
  | b :: as => by
    rw [List.intercalate, List.intersperse_cons₂, List.flatten_cons, List.flatten_cons,
      ← List.intercalate, intercalate_cons sep b as]
    simp

/-- `String.intercalate` is `List.intercalate` on the characters. -/
theorem data_intercalate (s : String) :
    ∀ l : List String, (s.intercalate l).data = s.data.intercalate (l.map String.data)
  | [] => rfl
  | a :: as => by
    rw [String.intercalate, data_intercalate_go, List.map_cons, intercalate_cons, List.map_map]
    rfl

/-- Lists of texts without the separator are determined by their join. -/
theorem intercalate_inj {l₁ l₂ : List (List Char)} (h₁ : ∀ x ∈ l₁, '|' ∉ x)
    (h₂ : ∀ x ∈ l₂, '|' ∉ x) (hne₁ : l₁ ≠ []) (hne₂ : l₂ ≠ [])
    (h : ['|'].intercalate l₁ = ['|'].intercalate l₂) : l₁ = l₂ := by
  rw [← List.splitOn_intercalate l₁ '|' h₁ hne₁, h, List.splitOn_intercalate l₂ '|' h₂ hne₂]

/-- The eleven `field=value` parts `canonicalize` joins. -/
def canonicalParts (e : HashableEvent) : List String :=
  ["id=" ++ e.id.hyphenated,
   "tenant_id=" ++ e.tenantId.hyphenated,
   "actor_identity_id=" ++ (e.actorIdentityId.map Uuid.hyphenated).getD "null",
   "event_type=" ++ e.eventType,
   "action=" ++ e.action,
   "resource_type=" ++ e.resourceType,
   "resource_id=" ++ e.resourceId.getD "null",
   "decision=" ++ e.decision.getD "null",
   "timestamp=" ++ e.timestamp,
   "previous_hash=" ++ e.previousHash.getD "null",
   "metadata=" ++ e.metadata.serialize]

theorem canonicalize_data (e : HashableEvent) :
    (canonicalize e).data = ['|'].intercalate ((canonicalParts e).map String.data) :=
  data_intercalate "|" _

/-- **Canonical forms collide.** An absent resource id and the resource id `null` are written
alike, and a separator inside the event type moves the boundary with the action: for every
event and all texts `x`, `y`, `z`, each pair below differs in a field and has one canonical
form, so one hash. -/
theorem canonicalize_collide (e : HashableEvent) (x y z : String) :
    ({ e with resourceId := none } : HashableEvent).resourceId ≠
        ({ e with resourceId := some "null" } : HashableEvent).resourceId ∧
      canonicalize { e with resourceId := none } =
        canonicalize { e with resourceId := some "null" } ∧
    ({ e with eventType := x ++ "|action=" ++ y, action := z } : HashableEvent).eventType ≠
        ({ e with eventType := x, action := y ++ "|action=" ++ z } : HashableEvent).eventType ∧
      canonicalize { e with eventType := x ++ "|action=" ++ y, action := z } =
        canonicalize { e with eventType := x, action := y ++ "|action=" ++ z } := by
  refine ⟨Option.noConfusion, rfl, fun h => ?_, String.ext ?_⟩
  · have h8 : "|action=".length = 8 := rfl
    have := congrArg String.length h
    dsimp only at this
    rw [String.length_append, String.length_append, h8] at this
    omega
  · rw [canonicalize_data, canonicalize_data]
    simp [canonicalParts, List.intercalate, String.data_append]

/-- An event none of whose texts holds the separator `|`, and none of whose optional texts is
the text `null` written for an absent one. -/
def Unambiguous (e : HashableEvent) : Prop :=
  (∀ t ∈ [e.eventType, e.action, e.resourceType, e.resourceId.getD "", e.decision.getD "",
    e.timestamp, e.previousHash.getD "", e.metadata.serialize], '|' ∉ t.data) ∧
  e.resourceId ≠ some "null" ∧ e.decision ≠ some "null" ∧ e.previousHash ≠ some "null"

instance (e : HashableEvent) : Decidable (Unambiguous e) := inferInstanceAs (Decidable (_ ∧ _))

/-- Two events agree on every field, the metadata compared by its serialisation. -/
structure SameFields (e₁ e₂ : HashableEvent) : Prop where
  id : e₁.id = e₂.id
  tenantId : e₁.tenantId = e₂.tenantId
  actorIdentityId : e₁.actorIdentityId = e₂.actorIdentityId
  eventType : e₁.eventType = e₂.eventType
  action : e₁.action = e₂.action
  resourceType : e₁.resourceType = e₂.resourceType
  resourceId : e₁.resourceId = e₂.resourceId
  decision : e₁.decision = e₂.decision
  timestamp : e₁.timestamp = e₂.timestamp
  previousHash : e₁.previousHash = e₂.previousHash
  metadata : e₁.metadata.serialize = e₂.metadata.serialize

theorem getD_null_inj {o₁ o₂ : Option String} (h₁ : o₁ ≠ some "null") (h₂ : o₂ ≠ some "null")
    (h : o₁.getD "null" = o₂.getD "null") : o₁ = o₂ := by
  cases o₁ <;> cases o₂ <;> simp_all [eq_comm]

theorem actor_inj {o₁ o₂ : Option Uuid}
    (h : (o₁.map Uuid.hyphenated).getD "null" = (o₂.map Uuid.hyphenated).getD "null") :
    o₁ = o₂ := by
  cases o₁ <;> cases o₂ <;> simp only [Option.map_none', Option.map_some', Option.getD_none,
    Option.getD_some] at h
  · rfl
  · exact absurd h.symm (hyphenated_ne_null _)
  · exact absurd h (hyphenated_ne_null _)
  · exact congrArg some (Uuid.hyphenated_injective h)

theorem pipe_not_mem_getD {o : Option String} (h : '|' ∉ (o.getD "").data) :
    '|' ∉ (o.getD "null").data := by
  cases o
  · decide
  · exact h

theorem pipe_not_mem_actor (o : Option Uuid) :
    '|' ∉ ((o.map Uuid.hyphenated).getD "null").data := by
  cases o
  · decide
  · exact not_mem_hyphenated (by decide) (by decide) (by decide) _

theorem pipe_not_mem_append {k v : String} (hk : '|' ∉ k.data) (hv : '|' ∉ v.data) :
    '|' ∉ (k ++ v).data := by
  rw [String.data_append, List.mem_append, not_or]
  exact ⟨hk, hv⟩

/-- The parts of an unambiguous event hold no separator. -/
theorem canonicalParts_sep {e : HashableEvent} (he : Unambiguous e) :
    ∀ x ∈ (canonicalParts e).map String.data, '|' ∉ x := by
  obtain ⟨ht, -⟩ := he
  simp only [List.forall_mem_cons] at ht
  obtain ⟨hty, hac, hrt, hri, hde, hts, hph, hmd, -⟩ := ht
  have hu (u : Uuid) : '|' ∉ u.hyphenated.data :=
    not_mem_hyphenated (by decide) (by decide) (by decide) u
  simp only [canonicalParts, List.map_cons, List.map_nil, List.forall_mem_cons]
  exact ⟨pipe_not_mem_append (by decide) (hu _), pipe_not_mem_append (by decide) (hu _),
    pipe_not_mem_append (by decide) (pipe_not_mem_actor _), pipe_not_mem_append (by decide) hty,
    pipe_not_mem_append (by decide) hac, pipe_not_mem_append (by decide) hrt,
    pipe_not_mem_append (by decide) (pipe_not_mem_getD hri),
    pipe_not_mem_append (by decide) (pipe_not_mem_getD hde), pipe_not_mem_append (by decide) hts,
    pipe_not_mem_append (by decide) (pipe_not_mem_getD hph), pipe_not_mem_append (by decide) hmd,
    fun _ h => (nomatch h)⟩

/-- Unambiguous events with one canonical form have the same parts. -/
theorem canonicalParts_eq {e₁ e₂ : HashableEvent} (h₁ : Unambiguous e₁) (h₂ : Unambiguous e₂)
    (h : canonicalize e₁ = canonicalize e₂) :
    (canonicalParts e₁).map String.data = (canonicalParts e₂).map String.data := by
  have hd := congrArg String.data h
  rw [canonicalize_data, canonicalize_data] at hd
  exact intercalate_inj (canonicalParts_sep h₁) (canonicalParts_sep h₂)
    (List.cons_ne_nil _ _) (List.cons_ne_nil _ _) hd

/-- **The canonical form determines every unambiguous event**: two events whose texts hold no
separator and whose optional texts are not `null` have the same canonical form only when they
agree on every field, the metadata compared by its serialisation. -/
theorem canonicalize_injective {e₁ e₂ : HashableEvent} (h₁ : Unambiguous e₁)
    (h₂ : Unambiguous e₂) (h : canonicalize e₁ = canonicalize e₂) : SameFields e₁ e₂ := by
  have hparts := canonicalParts_eq h₁ h₂ h
  simp only [canonicalParts, List.map_cons, List.map_nil, List.cons.injEq, String.data_append,
    List.append_cancel_left_eq, and_true] at hparts
  obtain ⟨hid, htid, hact, hty, hac, hrt, hri, hde, hts, hph, hmd⟩ := hparts
  exact ⟨Uuid.hyphenated_injective (String.ext hid), Uuid.hyphenated_injective (String.ext htid),
    actor_inj (String.ext hact), String.ext hty, String.ext hac, String.ext hrt,
    getD_null_inj h₁.2.1 h₂.2.1 (String.ext hri), getD_null_inj h₁.2.2.1 h₂.2.2.1 (String.ext hde),
    String.ext hts, getD_null_inj h₁.2.2.2 h₂.2.2.2 (String.ext hph), String.ext hmd⟩

/-- `canonicalize_injective` on the login event. -/
theorem canonicalize_injective_login :
    Unambiguous loginEvent ∧ canonicalize loginEvent = canonicalize loginEvent ∧
      SameFields loginEvent loginEvent :=
  have hu : Unambiguous loginEvent := by decide
  ⟨hu, rfl, canonicalize_injective hu hu rfl⟩

/-! ### Replacing one event -/

section Replace

variable {prev : Option String} {es : List HashableEvent} {k : ℕ} {e' : HashableEvent}

/-- Replacing the event at `k` changes only the hash expected at `k + 1`. -/
theorem expectedPrev_set (hk : k < es.length) (j : ℕ) :
    expectedPrev H prev (es.set k e') j =
      if j = k + 1 then some (computeHash H e') else expectedPrev H prev es j := by
  cases j with
  | zero => simp [expectedPrev]
  | succ j =>
    by_cases hj : j = k
    · subst hj; simp [expectedPrev, List.getElem?_set, hk]
    · simp [expectedPrev, List.getElem?_set, Ne.symm hj, hj]

/-- The linkage condition after replacing the event at `k`: at `k` it compares the new event,
at `k + 1` the new event's hash, and elsewhere it is unchanged. -/
theorem linkOk_set (hk : k < es.length) (j : ℕ) :
    LinkOk H prev (es.set k e') j ↔
      if j = k then e'.previousHash = expectedPrev H prev es k
      else if j = k + 1 then ∀ x ∈ es[k + 1]?, x.previousHash = some (computeHash H e')
      else LinkOk H prev es j := by
  by_cases hj : j = k
  · subst hj; simp [LinkOk, expectedPrev_set hk, List.getElem?_set, hk]
  · by_cases hj' : j = k + 1
    · subst hj'; simp [LinkOk, expectedPrev_set hk, List.getElem?_set]
    · simp [LinkOk, expectedPrev_set hk, List.getElem?_set, hj, hj', Ne.symm hj]

variable (hv : verifyChain H es = true) (hk : k < es.length)
include hv hk

/-- In a valid chain, the link into the event at `k` is the one that event carries. -/
theorem expectedPrev_of_valid : expectedPrev H none es k = es[k].previousHash := by
  have := verifyChain_eq_true_iff.1 hv k
  simp only [LinkOk, List.getElem?_eq_getElem hk, Option.mem_def, Option.some.injEq,
    forall_eq'] at this
  exact this.symm

/-- The link out of the event at `k` is its hash. -/
theorem succ_previousHash_of_valid (hk' : k + 1 < es.length) :
    es[k + 1].previousHash = some (computeHash H es[k]) := by
  have := verifyChain_eq_true_iff.1 hv (k + 1)
  simpa [LinkOk, List.getElem?_eq_getElem hk', expectedPrev, List.getElem?_eq_getElem hk]
    using this

/-- A valid chain with the event at `k` replaced is valid exactly when the new event keeps the
old `previous_hash` and, unless it is the last, the old hash. -/
theorem set_verifyChain :
    verifyChain H (es.set k e') = true ↔ e'.previousHash = es[k].previousHash ∧
      (k + 1 < es.length → computeHash H e' = computeHash H es[k]) := by
  have hall := verifyChain_eq_true_iff.1 hv
  rw [verifyChain_eq_true_iff]
  constructor
  · intro h
    have h0 := (linkOk_set hk k).1 (h k)
    rw [if_pos rfl, expectedPrev_of_valid hv hk] at h0
    refine ⟨h0, fun hk' => ?_⟩
    have h1 := (linkOk_set hk (k + 1)).1 (h (k + 1))
    simp only [show k + 1 ≠ k by omega, if_false, if_true, List.getElem?_eq_getElem hk',
      Option.mem_def, Option.some.injEq, forall_eq', succ_previousHash_of_valid hv hk hk'] at h1
    exact h1.symm
  · rintro ⟨h0, h1⟩ j
    rw [linkOk_set hk j]
    split_ifs with hj hj'
    · rw [expectedPrev_of_valid hv hk]; exact h0
    · intro x hx
      have hk' : k + 1 < es.length := by
        by_contra hc; simp [List.getElem?_eq_none (Nat.le_of_not_lt hc)] at hx
      simp only [List.getElem?_eq_getElem hk', Option.mem_def, Option.some.injEq] at hx
      rw [← hx, succ_previousHash_of_valid hv hk hk', h1 hk']
    · exact hall j

/-- Where the first break of a tampered valid chain lies: at `k` when the `previous_hash`
changed, at `k + 1` when only the hash did. -/
theorem set_findChainBreak :
    (e'.previousHash ≠ es[k].previousHash → findChainBreak H (es.set k e') = some k) ∧
      (e'.previousHash = es[k].previousHash → computeHash H e' ≠ computeHash H es[k] →
        k + 1 < es.length → findChainBreak H (es.set k e') = some (k + 1)) := by
  have hall := verifyChain_eq_true_iff.1 hv
  have hlt : ∀ j < k, LinkOk H none (es.set k e') j := fun j hj => by
    rw [linkOk_set hk, if_neg (by omega), if_neg (by omega)]; exact hall j
  refine ⟨fun hne => findChainBreak_eq_some_iff.2 ⟨?_, hlt⟩,
    fun heq hne hk' => findChainBreak_eq_some_iff.2 ⟨?_, fun j hj => ?_⟩⟩
  · rw [linkOk_set hk, if_pos rfl, expectedPrev_of_valid hv hk]; exact hne
  · rw [linkOk_set hk, if_neg (by omega), if_pos rfl]
    simp only [List.getElem?_eq_getElem hk', Option.mem_def, Option.some.injEq, forall_eq',
      succ_previousHash_of_valid hv hk hk']
    exact fun h => hne h.symm
  · rcases Nat.lt_or_ge j k with hj' | hj'
    · exact hlt j hj'
    · rw [linkOk_set hk, if_pos (by omega), expectedPrev_of_valid hv hk]; exact heq

omit hv hk in
/-- **Tampering with one event of a valid chain.** With an injective hash: changing the
event's `previous_hash` is reported at its own position; keeping it but changing the canonical
text is reported at the next position; and a change to the last event that keeps its
`previous_hash` goes undetected, since no later link covers it. -/
theorem tamper_evidence (hH : Function.Injective H) (hv : verifyChain H es = true)
    (hk : k < es.length) (e' : HashableEvent) :
    (e'.previousHash ≠ es[k].previousHash →
      verifyChain H (es.set k e') = false ∧ findChainBreak H (es.set k e') = some k) ∧
    (e'.previousHash = es[k].previousHash → canonicalize e' ≠ canonicalize es[k] →
      k + 1 < es.length →
      verifyChain H (es.set k e') = false ∧ findChainBreak H (es.set k e') = some (k + 1)) ∧
    (e'.previousHash = es[k].previousHash → k + 1 = es.length →
      verifyChain H (es.set k e') = true) := by
  have hhash : computeHash H e' = computeHash H es[k] ↔ canonicalize e' = canonicalize es[k] :=
    hH.eq_iff
  refine ⟨fun hne => ⟨?_, (set_findChainBreak hv hk).1 hne⟩,
    fun heq hne hk' => ⟨?_, (set_findChainBreak hv hk).2 heq (mt hhash.1 hne) hk'⟩,
    fun heq hlast => (set_verifyChain hv hk).2 ⟨heq, fun hk' => absurd hk' (by omega)⟩⟩
  · exact Bool.eq_false_iff.2 fun h => hne ((set_verifyChain hv hk).1 h).1
  · exact Bool.eq_false_iff.2 fun h => hne (hhash.1 (((set_verifyChain hv hk).1 h).2 hk'))

end Replace

/-- `tamper_evidence` on the session chain whose first event is given another action: the
break shows at the second event. -/
theorem tamper_evidence_session :
    Function.Injective (id : String → String) ∧ verifyChain id sessionChain = true ∧
      0 < sessionChain.length ∧
      verifyChain id (sessionChain.set 0 { loginEvent with action := "logout" }) = false ∧
      findChainBreak id (sessionChain.set 0 { loginEvent with action := "logout" }) =
        some (0 + 1) :=
  have hcanon : canonicalize { loginEvent with action := "logout" } ≠ canonicalize loginEvent :=
    fun h => by
      have hparts := canonicalParts_eq (by decide) (by decide) h
      simp only [canonicalParts, List.map_cons, List.cons.injEq] at hparts
      exact absurd hparts.2.2.2.2.1 (by decide)
  ⟨Function.injective_id, sessionChain_valid, by decide,
    (tamper_evidence Function.injective_id sessionChain_valid (by decide) _).2.1 rfl hcanon
      (by decide)⟩

/-- Replacing the last event of a chain by one with another action goes undetected. -/
theorem set_last_undetected :
    Function.Injective (id : String → String) ∧ verifyChain id [loginEvent] = true ∧
      { loginEvent with action := "logout" } ≠ loginEvent ∧
      verifyChain id ([loginEvent].set 0 { loginEvent with action := "logout" }) = true :=
  ⟨Function.injective_id, by decide,
    fun h => absurd (congrArg HashableEvent.action h) (by decide), by decide⟩

/-- The login event without a resource id and with the resource id `null` hash alike, and so
do its event type `authentication|action=login` with the action `session.create` and its event
type `authentication` with the action `login|action=session.create`. So the session chain whose
login event is given the resource id `null` still verifies. -/
theorem canonicalize_collisions :
    ({ loginEvent with resourceId := none } : HashableEvent).resourceId ≠
        ({ loginEvent with resourceId := some "null" } : HashableEvent).resourceId ∧
      canonicalize { loginEvent with resourceId := none } =
        canonicalize { loginEvent with resourceId := some "null" } ∧
    ({ loginEvent with
        eventType := "authentication" ++ "|action=" ++ "login", action := "session.create" } :
          HashableEvent).eventType ≠
        ({ loginEvent with
          eventType := "authentication", action := "login" ++ "|action=" ++ "session.create" } :
            HashableEvent).eventType ∧
      canonicalize { loginEvent with
          eventType := "authentication" ++ "|action=" ++ "login", action := "session.create" } =
        canonicalize { loginEvent with
          eventType := "authentication", action := "login" ++ "|action=" ++ "session.create" } ∧
    verifyChain id (sessionChain.set 0 { loginEvent with resourceId := some "null" }) = true :=
  have hc := canonicalize_collide loginEvent "authentication" "login" "session.create"
  ⟨hc.1, hc.2.1, hc.2.2.1, hc.2.2.2,
    (set_verifyChain sessionChain_valid (by decide)).2 ⟨rfl, fun _ => congrArg id hc.2.1.symm⟩⟩

/-! ### Hash verification -/

/-- `constant_time_compare`: the byte lengths, then the OR of the byte-wise XORs. -/
def constantTimeCompare (a b : String) : Bool :=
  if a.utf8ByteSize ≠ b.utf8ByteSize then false
  else
    let aBytes := a.toUTF8.data.toList
    let bBytes := b.toUTF8.data.toList
    (List.range aBytes.length).foldl
      (fun result i => result ||| (aBytes.getD i 0 ^^^ bBytes.getD i 0)) 0 == 0

/-- `HashChain::verify_hash`. -/
def verifyHash (H : String → String) (e : HashableEvent) (expectedHash : String) :
    Except AppError Bool :=
  .ok (constantTimeCompare (computeHash H e) expectedHash)

theorem lor_eq_zero {n m : ℕ} : n ||| m = 0 ↔ n = 0 ∧ m = 0 := by
  refine ⟨fun h => ?_, fun ⟨hn, hm⟩ => by rw [hn, hm]; rfl⟩
  have hbit : ∀ i, n.testBit i = false ∧ m.testBit i = false := fun i => by
    simpa [Nat.testBit_lor] using congrArg (Nat.testBit · i) h
  exact ⟨Nat.eq_of_testBit_eq fun i => by simp [(hbit i).1],
    Nat.eq_of_testBit_eq fun i => by simp [(hbit i).2]⟩

theorem uint8_eq_zero_iff (z : UInt8) : z = 0 ↔ z.toNat = 0 :=
  ⟨fun h => by rw [h]; rfl, fun h => UInt8.toNat.inj h⟩

theorem uint8_or_eq_zero {x y : UInt8} : x ||| y = 0 ↔ x = 0 ∧ y = 0 := by
  rw [uint8_eq_zero_iff, uint8_eq_zero_iff x, uint8_eq_zero_iff y]
  show (x.toBitVec ||| y.toBitVec).toNat = 0 ↔ _
  rw [BitVec.toNat_or]
  exact lor_eq_zero

theorem uint8_xor_eq_zero {x y : UInt8} : x ^^^ y = 0 ↔ x = y := by
  rw [uint8_eq_zero_iff]
  show (x.toBitVec ^^^ y.toBitVec).toNat = 0 ↔ _
  rw [BitVec.toNat_xor, Nat.xor_eq_zero]
  exact ⟨UInt8.toNat.inj, fun h => h ▸ rfl⟩

/-- The accumulated OR is zero exactly when every term is. -/
theorem foldl_or_eq_zero (f : ℕ → UInt8) (r : UInt8) :
    ∀ n, (List.range n).foldl (fun result i => result ||| f i) r = 0 ↔ r = 0 ∧ ∀ i < n, f i = 0
  | 0 => by simp
  | n + 1 => by
    rw [List.range_succ, List.foldl_append, List.foldl_cons, List.foldl_nil, uint8_or_eq_zero,
      foldl_or_eq_zero f r n, and_assoc]
    refine and_congr_right fun _ => ⟨fun ⟨hlt, hn⟩ i hi => ?_, fun h => ⟨fun i hi => h i (by omega),
      h n (by omega)⟩⟩
    rcases Nat.lt_succ_iff_lt_or_eq.1 hi with hi | rfl
    · exact hlt i hi
    · exact hn

/-- Two byte lists of one length agree at every index exactly when they are equal. -/
theorem getD_eq_iff {l₁ l₂ : List UInt8} (hlen : l₁.length = l₂.length) :
    (∀ i < l₁.length, l₁.getD i 0 = l₂.getD i 0) ↔ l₁ = l₂ := by
  refine ⟨fun h => List.ext_getElem hlen fun i h₁ h₂ => ?_, fun h _ _ => h ▸ rfl⟩
  simpa [List.getElem?_eq_getElem h₁, List.getElem?_eq_getElem h₂] using h i h₁

theorem constantTimeCompare_eq_beq (a b : String) : constantTimeCompare a b = (a == b) := by
  unfold constantTimeCompare
  by_cases hsize : a.utf8ByteSize = b.utf8ByteSize
  · have hlen : a.toUTF8.data.toList.length = b.toUTF8.data.toList.length := by
      show a.toUTF8.size = b.toUTF8.size
      simpa using hsize
    rw [if_neg (not_not.2 hsize)]
    simp only [beq_eq_decide, foldl_or_eq_zero, uint8_xor_eq_zero, true_and, getD_eq_iff hlen]
    exact decide_eq_decide.2 Utf8.toUTF8_inj
  · rw [if_pos hsize]
    exact (beq_eq_false_iff_ne.2 fun h => hsize (congrArg String.utf8ByteSize h)).symm

/-- **Constant-time comparison is equality**, and so verifying a hash is comparing it with the
computed one. -/
theorem constantTimeCompare_verifyHash :
    (∀ a b, constantTimeCompare a b = (a == b)) ∧
      ∀ (H : String → String) e h, verifyHash H e h = .ok (computeHash H e == h) :=
  ⟨constantTimeCompare_eq_beq, fun H e h => by rw [verifyHash, constantTimeCompare_eq_beq]⟩

end AgentIam.HashChain
