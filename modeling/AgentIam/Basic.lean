import Mathlib.Data.List.Basic
import Mathlib.Tactic.Ring
import Mathlib.Data.Nat.Digits

/-!
# Shared data: identifiers, JSON values, errors

The values that every component of the service passes around, as the Rust code has them:

* `Uuid` (the `uuid` crate): 128 bits, printed in the hyphenated lower-case form of its
  `Display` implementation;
* `JsonValue` (`serde_json::Value`) and `JsonValue.serialize`, the compact text that
  `serde_json::to_string` writes for it;
* `AppError` (`errors.rs`), each variant with the message it carries.

Instants (`chrono::DateTime<Utc>`, the database's `NOW()`) are Unix seconds in `ℤ`
throughout the development; the store's sub-second clock appears only in the limiter.
Floating-point JSON numbers are not modelled: a number is an integer, which is what every
number the service writes (timestamps, depths, counts) is.
-/

namespace AgentIam

/-- A UUID. -/
structure Uuid where
  bits : BitVec 128
  deriving DecidableEq, Repr

/-- The `Display` form of a UUID: 32 lower-case hex digits grouped 8-4-4-4-12. -/
def Uuid.hyphenated (u : Uuid) : String :=
  let cs := u.bits.toHex.toList
  String.mk (cs.take 8) ++ "-" ++ String.mk ((cs.drop 8).take 4) ++ "-" ++
    String.mk ((cs.drop 12).take 4) ++ "-" ++ String.mk ((cs.drop 16).take 4) ++ "-" ++
    String.mk (cs.drop 20)

/-- The nil UUID `00000000-0000-0000-0000-000000000000`. -/
def Uuid.nil : Uuid := ⟨0⟩

/-! ### UUID texts

Policies and revoked tokens are keyed by a UUID's text, and two UUIDs share a key only if they
are equal (`Uuid.hyphenated_injective`): the hex digits read back give the 128 bits
(`hexNumber_toHex`), and the hyphens sit where no digit can (`hyphenated_filter`). -/

/-- The value of a lower-case hex digit. -/
def hexValue (c : Char) : ℕ := if c.toNat < 58 then c.toNat - 48 else c.toNat - 87

/-- The number a list of hex digits spells, most significant first. -/
def hexNumber (cs : List Char) : ℕ := cs.foldl (fun n c => 16 * n + hexValue c) 0

theorem hexValue_digitChar {d : ℕ} (h : d < 16) : hexValue (Nat.digitChar d) = d := by
  have key : ∀ d : Fin 16, hexValue (Nat.digitChar d) = d := by decide
  exact key ⟨d, h⟩

theorem digitChar_ne_hyphen {d : ℕ} (h : d < 16) : Nat.digitChar d ≠ '-' := by
  have key : ∀ d : Fin 16, Nat.digitChar d ≠ '-' := by decide
  exact key ⟨d, h⟩

theorem foldl_hexNumber (cs : List Char) (acc : ℕ) :
    cs.foldl (fun n c => 16 * n + hexValue c) acc = 16 ^ cs.length * acc + hexNumber cs := by
  induction cs generalizing acc with
  | nil => simp [hexNumber]
  | cons c cs ih =>
    simp only [hexNumber, List.foldl_cons, List.length_cons] at *
    rw [ih, ih (16 * 0 + hexValue c)]
    ring

theorem hexNumber_cons (c : Char) (cs : List Char) :
    hexNumber (c :: cs) = 16 ^ cs.length * hexValue c + hexNumber cs := by
  rw [hexNumber, List.foldl_cons, foldl_hexNumber]
  simp

theorem hexNumber_toDigitsCore :
    ∀ {fuel n : ℕ} (ds : List Char), n < fuel →
      hexNumber (Nat.toDigitsCore 16 fuel n ds) = 16 ^ ds.length * n + hexNumber ds
  | 0, _, _, h => absurd h (Nat.not_lt_zero _)
  | fuel + 1, n, ds, h => by
    simp only [Nat.toDigitsCore]
    split
    case isTrue h0 =>
      rw [hexNumber_cons, hexValue_digitChar (by omega)]
      congr 2
      omega
    case isFalse h0 =>
      rw [hexNumber_toDigitsCore _ (by omega), hexNumber_cons, hexValue_digitChar (by omega),
        List.length_cons]
      conv_rhs => rw [← Nat.div_add_mod n 16]
      ring

/-- A character no hex digit is never among the digits `toDigitsCore` adds. -/
theorem not_mem_toDigitsCore {c : Char} (hc : ∀ d < 16, Nat.digitChar d ≠ c) :
    ∀ {fuel n : ℕ} {ds : List Char}, c ∉ ds → c ∉ Nat.toDigitsCore 16 fuel n ds
  | 0, _, _, h => h
  | fuel + 1, n, ds, h => by
    have hd : c ∉ Nat.digitChar (n % 16) :: ds := by
      simp only [List.mem_cons, not_or]
      exact ⟨(hc _ (Nat.mod_lt n (by decide))).symm, h⟩
    simp only [Nat.toDigitsCore]
    split
    · exact hd
    · exact not_mem_toDigitsCore hc hd

theorem hyphen_not_mem_toDigitsCore {fuel n : ℕ} {ds : List Char} (h : '-' ∉ ds) :
    '-' ∉ Nat.toDigitsCore 16 fuel n ds :=
  not_mem_toDigitsCore (fun _ hd => digitChar_ne_hyphen hd) h

theorem hexNumber_replicate_zero_append (k : ℕ) (cs : List Char) :
    hexNumber (List.replicate k '0' ++ cs) = hexNumber cs := by
  have hz : ∀ k, (List.replicate k '0').foldl (fun n c => 16 * n + hexValue c) 0 = 0 := by
    intro k; induction k with
    | zero => rfl
    | succ k ih => simpa [List.replicate_succ] using ih
  rw [hexNumber, List.foldl_append, hz]
  rfl

theorem hexNumber_toHex {n : ℕ} (x : BitVec n) : hexNumber x.toHex.data = x.toNat := by
  simp only [BitVec.toHex, String.data_append, List.asString, hexNumber_replicate_zero_append,
    Nat.toDigits]
  simpa using hexNumber_toDigitsCore [] (Nat.lt_succ_self x.toNat)

/-- A character that is neither a hex digit nor the padding `0` is not in `toHex`. -/
theorem not_mem_toHex {c : Char} (hc : ∀ d < 16, Nat.digitChar d ≠ c) (h0 : c ≠ '0') {n : ℕ}
    (x : BitVec n) : c ∉ x.toHex.data := by
  simp only [BitVec.toHex, String.data_append, List.asString, Nat.toDigits, List.mem_append,
    not_or]
  exact ⟨fun h => h0 (List.eq_of_mem_replicate h), not_mem_toDigitsCore hc (by simp)⟩

theorem hyphen_not_mem_toHex {n : ℕ} (x : BitVec n) : '-' ∉ x.toHex.data :=
  not_mem_toHex (fun _ hd => digitChar_ne_hyphen hd) (by decide) x

theorem hyphenated_filter (u : Uuid) :
    u.hyphenated.data.filter (· ≠ '-') = u.bits.toHex.data := by
  have hcs : '-' ∉ u.bits.toHex.toList := hyphen_not_mem_toHex u.bits
  rw [Uuid.hyphenated]
  show _ = u.bits.toHex.toList
  generalize u.bits.toHex.toList = cs at hcs ⊢
  have hsplit : cs.take 8 ++ ((cs.drop 8).take 4 ++ ((cs.drop 12).take 4 ++
      ((cs.drop 16).take 4 ++ cs.drop 20))) = cs := by
    simp only [← List.append_assoc, ← List.take_add, List.take_append_drop]
  have hkeep : cs.filter (· ≠ '-') = cs :=
    List.filter_eq_self.2 fun c hc => decide_eq_true (ne_of_mem_of_not_mem hc hcs)
  conv_rhs => rw [← hkeep, ← hsplit]
  simp [List.filter_append]

/-- **A UUID's text determines it**: distinct UUIDs print differently. -/
theorem Uuid.hyphenated_injective : Function.Injective Uuid.hyphenated := by
  intro u v h
  have hbits : u.bits.toNat = v.bits.toNat := by
    rw [← hexNumber_toHex, ← hexNumber_toHex, ← hyphenated_filter, ← hyphenated_filter, h]
  cases u; cases v
  exact congrArg _ (BitVec.eq_of_toNat_eq hbits)

/-- A character that is neither a hex digit, the padding `0` nor the hyphen is not in a UUID's
text. -/
theorem not_mem_hyphenated {c : Char} (hc : ∀ d : Fin 16, Nat.digitChar d ≠ c) (h0 : c ≠ '0')
    (hh : c ≠ '-') (u : Uuid) : c ∉ u.hyphenated.data := fun h =>
  not_mem_toHex (fun d hd => hc ⟨d, hd⟩) h0 u.bits
    (hyphenated_filter u ▸ List.mem_filter.2 ⟨h, decide_eq_true hh⟩)

/-- No UUID prints as `null`. -/
theorem hyphenated_ne_null (u : Uuid) : u.hyphenated ≠ "null" := fun h =>
  @not_mem_hyphenated 'n' (by decide) (by decide) (by decide) u (by rw [h]; decide)

/-! ### JSON values -/

/-- A `serde_json::Value`. An object lists its entries in the order of its map, which for
`serde_json`'s default `BTreeMap` is the order of the keys. -/
inductive JsonValue where
  | null
  | bool (b : Bool)
  | number (n : ℤ)
  | string (s : String)
  | array (xs : List JsonValue)
  | object (fields : List (String × JsonValue))
  deriving Repr, Inhabited

/-- A lower-case hex digit. -/
def hexDigit (n : ℕ) : Char :=
  if n < 10 then Char.ofNat (48 + n) else Char.ofNat (87 + n)

/-- The escape `serde_json` writes for one character of a string: the quote, the backslash
and the control characters are escaped, every other character is written as it is. -/
def escapeChar (c : Char) : String :=
  if c = '"' then "\\\""
  else if c = '\\' then "\\\\"
  else if c = '\n' then "\\n"
  else if c = '\r' then "\\r"
  else if c = '\t' then "\\t"
  else if c.toNat = 8 then "\\b"
  else if c.toNat = 12 then "\\f"
  else if c.toNat < 32 then
    String.mk ['\\', 'u', '0', '0', hexDigit (c.toNat / 16), hexDigit (c.toNat % 16)]
  else c.toString

/-- A JSON string literal. -/
def quoteJson (s : String) : String :=
  "\"" ++ String.join (s.toList.map escapeChar) ++ "\""

mutual

/-- `serde_json::to_string`: the compact serialisation, no whitespace. -/
def JsonValue.serialize : JsonValue → String
  | .null => "null"
  | .bool b => if b then "true" else "false"
  | .number n => toString n
  | .string s => quoteJson s
  | .array xs => "[" ++ JsonValue.serializeList xs ++ "]"
  | .object fs => "\x7b" ++ JsonValue.serializeFields fs ++ "\x7d"

/-- The comma-separated elements of an array. -/
def JsonValue.serializeList : List JsonValue → String
  | [] => ""
  | [x] => x.serialize
  | x :: xs => x.serialize ++ "," ++ JsonValue.serializeList xs

/-- The comma-separated entries of an object. -/
def JsonValue.serializeFields : List (String × JsonValue) → String
  | [] => ""
  | [(k, v)] => quoteJson k ++ ":" ++ v.serialize
  | (k, v) :: fs => quoteJson k ++ ":" ++ v.serialize ++ "," ++ JsonValue.serializeFields fs

end

/-- The entry of an object under a key (`Value::get`). -/
def JsonValue.get? : JsonValue → String → Option JsonValue
  | .object fs, k => (fs.find? (·.1 = k)).map (·.2)
  | _, _ => none

/-! ### Errors -/

/-- A sequence of two fallible steps succeeds exactly when both do. -/
@[simp] theorem except_bind_eq_ok {ε α β : Type} {x : Except ε α} {f : α → Except ε β}
    {b : β} :
    (x >>= f) = .ok b ↔ ∃ a, x = .ok a ∧ f a = .ok b := by
  cases x <;> simp [bind, Except.bind]

/-- A step that succeeds hands its value on. -/
@[simp] theorem except_ok_bind {ε α β : Type} (a : α) (f : α → Except ε β) :
    (Except.ok a >>= f) = f a := rfl

/-- `AppError`. The wrapped errors of the database (`sqlx::Error`), the key-value store
(`redis::RedisError`) and the policy library are kept as their messages. -/
inductive AppError where
  | database (msg : String)
  | redis (msg : String)
  | invalidCredentials
  | tokenGeneration (msg : String)
  | tokenValidation (msg : String)
  | tokenExpired
  | tokenRevoked
  | unauthorized
  | forbidden
  | policyEvaluation (msg : String)
  | identityNotFound
  | identityAlreadyExists
  | invalidIdentityType
  | sessionNotFound
  | sessionExpired
  | rateLimitExceeded
  | validationError (msg : String)
  | configuration (msg : String)
  | cryptographic (msg : String)
  | internal (msg : String)
  /-- Modelled from the spec: `api/authz.rs` raises `AppError::BadRequest`, which
  `errors.rs` does not declare; it is the spec's 400 validation kind. -/
  | badRequest (msg : String)
  /-- Modelled from the spec: the `From<anyhow::Error>` conversion that `authz/*.rs` relies
  on is not in `errors.rs`; such an error is an opaque internal error with its message. -/
  | other (msg : String)
  deriving DecidableEq, Repr

/-- The `Display` text of an error. -/
def AppError.message : AppError → String
  | .database e => "Database error: " ++ e
  | .redis e => "Redis error: " ++ e
  | .invalidCredentials => "Invalid credentials"
  | .tokenGeneration m => "Token generation failed: " ++ m
  | .tokenValidation m => "Token validation failed: " ++ m
  | .tokenExpired => "Token has expired"
  | .tokenRevoked => "Token has been revoked"
  | .unauthorized => "Unauthorized"
  | .forbidden => "Forbidden"
  | .policyEvaluation m => "Policy evaluation error: " ++ m
  | .identityNotFound => "Identity not found"
  | .identityAlreadyExists => "Identity already exists"
  | .invalidIdentityType => "Invalid identity type"
  | .sessionNotFound => "Session not found"
  | .sessionExpired => "Session has expired"
  | .rateLimitExceeded => "Rate limit exceeded"
  | .validationError m => "Validation error: " ++ m
  | .configuration m => "Configuration error: " ++ m
  | .cryptographic m => "Cryptographic error: " ++ m
  | .internal m => "Internal error: " ++ m
  | .badRequest m => m
  | .other m => m

end AgentIam
