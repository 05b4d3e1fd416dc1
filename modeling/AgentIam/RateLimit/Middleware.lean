import AgentIam.RateLimit.SlidingWindow
import AgentIam.Auth.Jwt

/-!
# The rate-limit middleware (`rate_limit/middleware.rs`, `rate_limit/limiter.rs`)

A request passes `rate_limit_middleware` (or `auth_rate_limit_middleware`) in four steps: an
identifier is read off its headers, the limiter's check for a limit class runs the admission
script on the key of that class and identifier, a denial is turned into an error, and an
admitted request gets the rate-limit headers on the response of the rest of the stack.

* `HeaderMap` with `get` and `insert`, names in lower case; `toStr` is `HeaderValue::to_str`,
  which yields the text of a value of visible ASCII characters only.
* `extractIdentifier`: the first twenty characters of the `authorization` header, else the
  first address of `x-forwarded-for`, else `x-real-ip`, else `ip:unknown`.
* `RateLimiter`: the store's sorted sets by key and the configuration. `checkAndIncrement`
  runs `SlidingWindow.admissionScript` on one key; a failure of the store is the call's
  `failure`. Four checks of `limiter.rs` are `classCheck` with the class's name, limit and
  window; `checkCustomRateLimit`, `getCount` and `reset` take their identifier as the key.
* `Response`, `AppError.intoResponse` (the status, and the body `{"error", "status"}`),
  `addRateLimitHeaders`, and `rateLimitLayer`, the body both middlewares share.

The two middlewares charge every bearer token of the manager to one key
(`extractIdentifier_bearer`); named classes never share a key (`classCheck_frame`), but a
custom check can use any class's key; and a denial is the response of `RateLimitExceeded`,
whose only header is the content type (`rateLimitLayer_denied`).

Over a run of the middleware on the requests of many clients (`middlewareRun`), one identifier's
key sees the one-key run of `SlidingWindow` over that identifier's requests
(`passedIn_middlewareRun`), so the requests of one identifier let through in a minute carry at
most the limit's number of distinct store timestamps (`rateLimitMiddleware_window_bound`).
Resetting the identifier of a request deletes a key the middleware never uses, so the run's
answers are those without the reset (`middlewareRun_reset`).
-/

namespace AgentIam

/-! ### Headers and responses -/

/-- `http::HeaderMap`: its entries, by lower-case name. -/
structure HeaderMap where
  entries : List (String × String)
  deriving DecidableEq, Repr

/-- `HeaderMap::get`: the first value under a name. -/
def HeaderMap.get (h : HeaderMap) (name : String) : Option String :=
  (h.entries.find? (·.1 = name)).map (·.2)

/-- `HeaderMap::insert`: the value replaces every value under the name. -/
def HeaderMap.insert (h : HeaderMap) (name value : String) : HeaderMap :=
  ⟨(name, value) :: h.entries.filter (·.1 ≠ name)⟩

@[simp] theorem HeaderMap.get_insert_self (h : HeaderMap) (name value : String) :
    (h.insert name value).get name = some value := by
  simp [HeaderMap.get, HeaderMap.insert]

@[simp] theorem HeaderMap.get_insert_of_ne {h : HeaderMap} {name other : String}
    (hne : other ≠ name) (value : String) : (h.insert name value).get other = h.get other := by
  simp only [HeaderMap.get, HeaderMap.insert, List.find?_cons, List.find?_filter,
    Ne.symm hne, decide_False]
  congr 2
  funext a
  by_cases ha : a.1 = other <;> simp [ha, hne]

/-- An HTTP response: the status, the headers and the body. -/
structure Response where
  status : ℕ
  headers : HeaderMap
  body : String
  deriving DecidableEq, Repr

/-- The status and the text `AppError::into_response` gives an error; the two kinds that
`errors.rs` does not declare answer as the spec's 400 and as an internal error. -/
def AppError.statusAndMessage : AppError → ℕ × String
  | .database _ => (500, "Internal server error")
  | .redis _ => (500, "Internal server error")
  | .invalidCredentials => (401, "Invalid credentials")
  | .tokenGeneration _ => (500, "Internal server error")
  | .tokenValidation _ => (401, "Invalid token")
  | .tokenExpired => (401, "Token expired")
  | .tokenRevoked => (401, "Token revoked")
  | .unauthorized => (401, "Unauthorized")
  | .forbidden => (403, "Forbidden")
  | .policyEvaluation _ => (500, "Internal server error")
  | .identityNotFound => (404, "Identity not found")
  | .identityAlreadyExists => (409, "Identity already exists")
  | .invalidIdentityType => (400, "Invalid identity type")
  | .sessionNotFound => (404, "Session not found")
  | .sessionExpired => (401, "Session expired")
  | .rateLimitExceeded => (429, "Rate limit exceeded")
  | .validationError m => (400, (AppError.validationError m).message)
  | .configuration _ => (500, "Internal server error")
  | .cryptographic _ => (500, "Internal server error")
  | .internal _ => (500, "Internal server error")
  | .badRequest m => (400, m)
  | .other _ => (500, "Internal server error")

/-- `AppError::into_response`: the status, and the JSON body `{"error", "status"}`. -/
def AppError.intoResponse (e : AppError) : Response :=
  ⟨e.statusAndMessage.1, ⟨[("content-type", "application/json")]⟩,
    (JsonValue.object [("error", .string e.statusAndMessage.2),
      ("status", .number e.statusAndMessage.1)]).serialize⟩

/-- The response of a handler's result, as `axum` makes it. -/
def respond : Except AppError Response → Response
  | .ok response => response
  | .error e => e.intoResponse

end AgentIam

namespace AgentIam.Middleware

open SlidingWindow Jwt

/-! ### Identifiers -/

/-- `is_visible_ascii`: the bytes `HeaderValue::to_str` accepts. -/
def isVisibleAscii (c : Char) : Bool := 32 ≤ c.toNat && c.toNat < 127 || c == '\t'

/-- `HeaderValue::to_str`. -/
def toStr (value : String) : Option String :=
  if value.data.all isVisibleAscii then some value else none

/-- `extract_identifier`. -/
def extractIdentifier (headers : HeaderMap) : String :=
  match (headers.get "authorization").bind toStr with
  | some authStr => "user:" ++ String.mk (authStr.data.take 20)
  | none =>
    match (headers.get "x-forwarded-for").bind toStr with
    | some ip => "ip:" ++ ((ip.splitOn ",").headD "unknown").trim
    | none =>
      match (headers.get "x-real-ip").bind toStr with
      | some ip => "ip:" ++ ip
      | none => "ip:unknown"

/-- The text of a token the manager signs, behind `Bearer `, is a header text. -/
theorem toStr_bearer (claims : JsonValue) (signature : List ℕ) :
    toStr ("Bearer " ++ compactText (Header.new "HS256") claims signature) =
      some ("Bearer " ++ compactText (Header.new "HS256") claims signature) := by
  have halpha : ∀ ch ∈ base64UrlAlphabet, isVisibleAscii ch := by decide
  rw [toStr, if_pos]
  simp only [String.data_append, List.all_append, Bool.and_eq_true, List.all_eq_true]
  refine ⟨by decide, fun ch h => ?_⟩
  rcases compactText_mem ch h with rfl | h
  · decide
  · exact halpha ch h

/-- **Every token the manager signs is one identifier**: behind `Bearer `, its first thirteen
characters are those of the header segment, whatever the claims and the signature. -/
theorem extractIdentifier_bearer (claims : JsonValue) (signature : List ℕ) :
    extractIdentifier
        ⟨[("authorization", "Bearer " ++ compactText (Header.new "HS256") claims signature)]⟩ =
      "user:Bearer eyJ0eXAiOiJKV" := by
  have htake : ("Bearer " ++ compactText (Header.new "HS256") claims signature).data.take 20 =
      "Bearer eyJ0eXAiOiJKV".data := by
    rw [compactText, encodePart_header]
    simp only [String.data_append, List.append_assoc]
    rw [List.take_append_eq_append_take, List.take_append_of_le_length (by decide)]
    rfl
  simp only [extractIdentifier, HeaderMap.get, List.find?_cons_of_pos, decide_True,
    Option.map_some', Option.some_bind, toStr_bearer, htake]
  rfl

/-! ### The limiter -/

/-- `RateLimitConfig`, the limits the limiter reads. -/
structure RateLimitConfig where
  defaultRequestsPerMinute : ℕ
  defaultRequestsPerHour : ℕ
  defaultRequestsPerDay : ℕ
  authRequestsPerMinute : ℕ

/-- `RateLimiter`: the store's sorted sets by key, and the configuration. -/
structure RateLimiter where
  store : String → Finset ℕ
  config : RateLimitConfig

/-- `SlidingWindowRateLimiter::check_and_increment` on `key`: the script on the key's set, or
the store's error, which leaves every set as it was. -/
def RateLimiter.checkAndIncrement (l : RateLimiter) (key : String) (limit windowSeconds : ℕ)
    (c : Call) (failure : Option String) : Except AppError RateLimitResult × RateLimiter :=
  match failure with
  | some e => (.error (.redis e), l)
  | none =>
    let (result, set) := admissionScript limit windowSeconds c (l.store key)
    (.ok result, { l with store := Function.update l.store key set })

/-- A check touches the set of its key only. -/
theorem checkAndIncrement_frame (l : RateLimiter) {key other : String} (hne : other ≠ key)
    (limit windowSeconds : ℕ) (c : Call) (failure : Option String) :
    (l.checkAndIncrement key limit windowSeconds c failure).2.store other = l.store other := by
  cases failure <;> simp [RateLimiter.checkAndIncrement, Function.update_noteq hne]

/-- The check of a named limit class: the key `className:identifier`, with the class's limit
and window. -/
def RateLimiter.classCheck (className : String) (limit windowSeconds : ℕ) (l : RateLimiter)
    (identifier : String) (c : Call) (failure : Option String) :
    Except AppError RateLimitResult × RateLimiter :=
  l.checkAndIncrement (className ++ ":" ++ identifier) limit windowSeconds c failure

/-- `RateLimiter::check_auth_rate_limit`. -/
def RateLimiter.checkAuthRateLimit (l : RateLimiter) (identifier : String) (c : Call)
    (failure : Option String) : Except AppError RateLimitResult × RateLimiter :=
  RateLimiter.classCheck "auth" l.config.authRequestsPerMinute 60 l identifier c failure

/-- `RateLimiter::check_default_rate_limit`. -/
def RateLimiter.checkDefaultRateLimit (l : RateLimiter) (identifier : String) (c : Call)
    (failure : Option String) : Except AppError RateLimitResult × RateLimiter :=
  RateLimiter.classCheck "default" l.config.defaultRequestsPerMinute 60 l identifier c failure

/-- `RateLimiter::check_hourly_rate_limit`. -/
def RateLimiter.checkHourlyRateLimit (l : RateLimiter) (identifier : String) (c : Call)
    (failure : Option String) : Except AppError RateLimitResult × RateLimiter :=
  RateLimiter.classCheck "hourly" l.config.defaultRequestsPerHour 3600 l identifier c failure

/-- `RateLimiter::check_daily_rate_limit`. -/
def RateLimiter.checkDailyRateLimit (l : RateLimiter) (identifier : String) (c : Call)
    (failure : Option String) : Except AppError RateLimitResult × RateLimiter :=
  RateLimiter.classCheck "daily" l.config.defaultRequestsPerDay 86400 l identifier c failure

/-- `RateLimiter::check_custom_rate_limit`: the identifier is the key. -/
def RateLimiter.checkCustomRateLimit (l : RateLimiter) (identifier : String)
    (limit windowSeconds : ℕ) (c : Call) (failure : Option String) :
    Except AppError RateLimitResult × RateLimiter :=
  l.checkAndIncrement identifier limit windowSeconds c failure

/-- `RateLimiter::get_count`: `get_current_count` with the identifier as the key. The pruning
and the count are two store commands; `pruneFailure` and `countFailure` are their errors, and
a failed count keeps the pruning. -/
def RateLimiter.getCount (l : RateLimiter) (identifier : String) (windowSeconds now : ℕ)
    (pruneFailure countFailure : Option String) : Except AppError ℕ × RateLimiter :=
  match pruneFailure with
  | some e => (.error (.redis e), l)
  | none =>
    let (count, set) := getCurrentCount windowSeconds now (l.store identifier)
    let l := { l with store := Function.update l.store identifier set }
    match countFailure with
    | some e => (.error (.redis e), l)
    | none => (.ok count, l)

/-- `RateLimiter::reset`: `DEL` with the identifier as the key. -/
def RateLimiter.reset (l : RateLimiter) (identifier : String) (failure : Option String) :
    Except AppError Unit × RateLimiter :=
  match failure with
  | some e => (.error (.redis e), l)
  | none => (.ok (), { l with store := Function.update l.store identifier ∅ })

/-- After a reset of a key, a check on it is the first of a fresh window. -/
theorem checkAndIncrement_reset (l : RateLimiter) (key : String) {limit : ℕ} (hlimit : 0 < limit)
    (windowSeconds : ℕ) (c : Call) :
    ((l.reset key none).2.checkAndIncrement key limit windowSeconds c none).1 =
      .ok ⟨true, limit, limit - 1, c.now + windowSeconds, 1⟩ := by
  simp [RateLimiter.reset, RateLimiter.checkAndIncrement, admissionScript, removeUpTo, hlimit]

/-- The name of a class is what precedes the first colon of its keys. -/
theorem takeWhile_classKey {className : String} (h : ':' ∉ className.data) (identifier : String) :
    (className ++ ":" ++ identifier).data.takeWhile (· ≠ ':') = className.data := by
  simp only [String.data_append, List.append_assoc]
  rw [List.takeWhile_append_of_pos fun ch hch => by simpa using ne_of_mem_of_not_mem hch h]
  simp

/-- **Named classes never share a key**: a check of one class leaves the keys of every other
class, whose name has no colon, as they were. -/
theorem classCheck_frame {className other : String} (h : ':' ∉ className.data)
    (hother : ':' ∉ other.data) (hne : other ≠ className) (limit windowSeconds : ℕ)
    (l : RateLimiter) (identifier identifier' : String) (c : Call) (failure : Option String) :
    (RateLimiter.classCheck className limit windowSeconds l identifier c failure).2.store
        (other ++ ":" ++ identifier') = l.store (other ++ ":" ++ identifier') :=
  checkAndIncrement_frame l (fun heq => hne (String.ext (by
    rw [← takeWhile_classKey hother identifier', heq, takeWhile_classKey h]))) _ _ _ _

/-- `RateLimitResult::retry_after` at `now`: the seconds to `reset`, for a denial. -/
def retryAfter (result : RateLimitResult) (now : ℕ) : Option ℕ :=
  if !result.allowed then some (result.reset - now) else none

/-- `add_rate_limit_headers` at `now`. -/
def addRateLimitHeaders (headers : HeaderMap) (result : RateLimitResult) (now : ℕ) : HeaderMap :=
  let headers := headers.insert "x-ratelimit-limit" (toString result.limit)
  let headers := headers.insert "x-ratelimit-remaining" (toString result.remaining)
  let headers := headers.insert "x-ratelimit-reset" (toString result.reset)
  if !result.allowed then
    match retryAfter result now with
    | some retryAfter => headers.insert "retry-after" (toString retryAfter)
    | none => headers
  else headers

/-! ### The middleware -/

/-- The body of both middlewares, with the limiter's `check`: `next` is the response of the
rest of the stack, `c` the call's clock. -/
def rateLimitLayer
    (check : RateLimiter → String → Call → Option String →
      Except AppError RateLimitResult × RateLimiter)
    (l : RateLimiter) (headers : HeaderMap) (next : Response) (c : Call)
    (failure : Option String) : Except AppError Response × RateLimiter :=
  let identifier := extractIdentifier headers
  match check l identifier c failure with
  | (.error e, l) => (.error e, l)
  | (.ok result, l) =>
    if !result.allowed then (.error .rateLimitExceeded, l)
    else (.ok { next with headers := addRateLimitHeaders next.headers result c.now }, l)

/-- `rate_limit_middleware`. -/
def rateLimitMiddleware (l : RateLimiter) (headers : HeaderMap) (next : Response) (c : Call)
    (failure : Option String) : Except AppError Response × RateLimiter :=
  rateLimitLayer RateLimiter.checkDefaultRateLimit l headers next c failure

/-- `auth_rate_limit_middleware`. -/
def authRateLimitMiddleware (l : RateLimiter) (headers : HeaderMap) (next : Response)
    (c : Call) (failure : Option String) : Except AppError Response × RateLimiter :=
  rateLimitLayer RateLimiter.checkAuthRateLimit l headers next c failure

section Layer

variable {check : RateLimiter → String → Call → Option String →
    Except AppError RateLimitResult × RateLimiter}
  {l : RateLimiter} {headers : HeaderMap} {next : Response} {c : Call} {failure : Option String}
  {result : RateLimitResult}

/-- The layer reads the request's headers only through the identifier they give. -/
theorem rateLimitLayer_of_identifier_eq {headers' : HeaderMap}
    (h : extractIdentifier headers = extractIdentifier headers') :
    rateLimitLayer check l headers next c failure =
      rateLimitLayer check l headers' next c failure := by
  simp only [rateLimitLayer, h]

/-- **A denied request is answered as `RateLimitExceeded`**: status 429, the JSON body, and the
content type as its only header. -/
theorem rateLimitLayer_denied (h : (check l (extractIdentifier headers) c failure).1 = .ok result)
    (hdenied : result.allowed = false) :
    respond (rateLimitLayer check l headers next c failure).1 =
      AppError.rateLimitExceeded.intoResponse := by
  rcases hcheck : check l (extractIdentifier headers) c failure with ⟨r, l'⟩
  rw [hcheck] at h
  cases h
  simp [rateLimitLayer, hcheck, hdenied, respond]

/-- An admitted request gets the limit, the remaining count and the reset time on the response
of the rest of the stack, and no `Retry-After` of the middleware's. -/
theorem rateLimitLayer_allowed (h : (check l (extractIdentifier headers) c failure).1 = .ok result)
    (hallowed : result.allowed = true) :
    let response := respond (rateLimitLayer check l headers next c failure).1
    response.headers.get "x-ratelimit-limit" = some (toString result.limit) ∧
      response.headers.get "x-ratelimit-remaining" = some (toString result.remaining) ∧
      response.headers.get "x-ratelimit-reset" = some (toString result.reset) ∧
      response.headers.get "retry-after" = next.headers.get "retry-after" := by
  rcases hcheck : check l (extractIdentifier headers) c failure with ⟨r, l'⟩
  rw [hcheck] at h
  cases h
  simp [rateLimitLayer, hcheck, hallowed, respond, addRateLimitHeaders]

end Layer

/-! ### Shared keys and denials -/

/-- A limiter with an empty store, admitting one request a minute. -/
def testLimiter : RateLimiter := ⟨fun _ => ∅, ⟨1, 100, 1000, 1⟩⟩

/-- A response of the rest of the stack. -/
def okResponse : Response := ⟨200, ⟨[]⟩, ""⟩

/-- The text of the access token `testManager` mints for identity `1` of tenant `2` at `1000`,
with the signature byte `1`. -/
def tokenOne : String :=
  compactText (Header.new "HS256") (JwtClaims.new ⟨1⟩ ⟨2⟩ "user" 900 1000 ⟨3⟩).fieldsJson [1]

/-- The text of the access token `testManager` mints for identity `4` of tenant `2` at `1000`,
with the signature byte `2`. -/
def tokenTwo : String :=
  compactText (Header.new "HS256") (JwtClaims.new ⟨4⟩ ⟨2⟩ "user" 900 1000 ⟨5⟩).fieldsJson [2]

/-- Access tokens minted for identities `1` and `4` give one identifier: after a request with
the first, a request with the second in the same second is denied. -/
theorem distinct_identities_share_bucket :
    (⟨1⟩ : Uuid) ≠ ⟨4⟩ ∧
    (∃ sigs, testManager.generateAccessToken [] ⟨1⟩ ⟨2⟩ "user" 1000 ⟨3⟩ tokenOne =
      .ok (tokenOne, sigs)) ∧
    (∃ sigs, testManager.generateAccessToken [] ⟨4⟩ ⟨2⟩ "user" 1000 ⟨5⟩ tokenTwo =
      .ok (tokenTwo, sigs)) ∧
    extractIdentifier ⟨[("authorization", "Bearer " ++ tokenOne)]⟩ =
      extractIdentifier ⟨[("authorization", "Bearer " ++ tokenTwo)]⟩ ∧
    (rateLimitMiddleware (rateLimitMiddleware testLimiter
        ⟨[("authorization", "Bearer " ++ tokenOne)]⟩ okResponse ⟨1000, 0⟩ none).2
      ⟨[("authorization", "Bearer " ++ tokenTwo)]⟩ okResponse ⟨1000, 1⟩ none).1 =
        .error .rateLimitExceeded := by
  refine ⟨by decide, ⟨_, rfl⟩, ⟨_, rfl⟩,
    by rw [tokenOne, tokenTwo, extractIdentifier_bearer, extractIdentifier_bearer], ?_⟩
  have hbearer : ∀ claims signature, extractIdentifier
      ⟨[("authorization", "Bearer " ++ compactText (Header.new "HS256") claims signature)]⟩ =
        extractIdentifier ⟨[("authorization", "Bearer eyJ0eXAiOiJKV")]⟩ :=
    fun _ _ => extractIdentifier_bearer _ _
  simp only [rateLimitMiddleware, tokenOne, tokenTwo,
    rateLimitLayer_of_identifier_eq (hbearer _ _)]
  rfl

/-- A custom check for `auth:x` is admitted by a fresh limiter, and denied once the auth check
for `x` has taken the slot: the two count on one key. -/
theorem custom_check_shares_auth_key :
    (testLimiter.checkCustomRateLimit "auth:x" 1 60 ⟨100, 1⟩ none).1 = .ok ⟨true, 1, 0, 160, 1⟩ ∧
    ((testLimiter.checkAuthRateLimit "x" ⟨100, 0⟩ none).2.checkCustomRateLimit "auth:x" 1 60
      ⟨100, 1⟩ none).1 = .ok ⟨false, 1, 0, 160, 1⟩ :=
  ⟨rfl, rfl⟩

/-- Under one request a minute, a second request from the same address is denied, and the
answer is a 429 whose only header is the content type. -/
theorem denied_request_lacks_rate_limit_headers :
    ((rateLimitMiddleware testLimiter ⟨[]⟩ okResponse ⟨100, 0⟩ none).2.checkDefaultRateLimit
        (extractIdentifier ⟨[]⟩) ⟨110, 0⟩ none).1 = .ok ⟨false, 1, 0, 160, 1⟩ ∧
    respond (rateLimitMiddleware (rateLimitMiddleware testLimiter ⟨[]⟩ okResponse ⟨100, 0⟩
        none).2 ⟨[]⟩ okResponse ⟨110, 0⟩ none).1 =
      ⟨429, ⟨[("content-type", "application/json")]⟩,
        "\x7b\"error\":\"Rate limit exceeded\",\"status\":429\x7d"⟩ :=
  ⟨rfl, rfl⟩

/-! ### Runs of the middleware

The server runs the middleware on many requests, of many clients, one after another as the store
runs their scripts. Only the requests of one identifier that reach the store touch its key, so
on that key the run is the one-key run of `SlidingWindow` (`passedIn_middlewareRun`), and the
window bound of that model holds of the requests the middleware lets through. -/

/-- A request as `rate_limit_middleware` meets it: its headers, the response of the rest of the
stack, the clock of its call, and the store's failure, if any. -/
structure LimitedRequest where
  headers : HeaderMap
  next : Response
  call : Call
  failure : Option String

/-- The results of `rate_limit_middleware` on requests in the order the store runs them. -/
def middlewareRun : RateLimiter → List LimitedRequest → List (Except AppError Response)
  | _, [] => []
  | l, r :: rs =>
    let out := rateLimitMiddleware l r.headers r.next r.call r.failure
    out.1 :: middlewareRun out.2 rs

/-- The request carries `identifier` and its script runs. -/
def Reaches (identifier : String) (r : LimitedRequest) : Bool :=
  decide (extractIdentifier r.headers = identifier) && r.failure.isNone

/-- The calls of the requests of `identifier` the middleware let through with
`now ∈ [t, t + windowSeconds)`. -/
def passedIn (identifier : String) (t windowSeconds : ℕ) (reqs : List LimitedRequest)
    (outs : List (Except AppError Response)) : List Call :=
  ((reqs.zip outs).filter fun p => decide (extractIdentifier p.1.headers = identifier) &&
    p.2.toBool && decide (t ≤ p.1.call.now) && decide (p.1.call.now < t + windowSeconds)).map
    (·.1.call)

theorem passedIn_cons (identifier : String) (t windowSeconds : ℕ) (r : LimitedRequest)
    (rs : List LimitedRequest) (o : Except AppError Response)
    (os : List (Except AppError Response)) :
    passedIn identifier t windowSeconds (r :: rs) (o :: os) =
      (if extractIdentifier r.headers = identifier ∧ o.toBool ∧ t ≤ r.call.now ∧
          r.call.now < t + windowSeconds then [r.call] else []) ++
        passedIn identifier t windowSeconds rs os := by
  simp only [passedIn, List.zip_cons_cons, List.filter_cons, Bool.and_eq_true, decide_eq_true_eq,
    and_assoc]
  split_ifs <;> rfl

/-- The key of a class names its identifier. -/
theorem classKey_injective {className a b : String}
    (h : className ++ ":" ++ a = className ++ ":" ++ b) : a = b :=
  String.ext (List.append_cancel_left (congrArg String.data h))

/-- A request whose script runs: it passes exactly when the script admits it, and the store
takes the script's set at its key. -/
theorem rateLimitMiddleware_none (l : RateLimiter) (headers : HeaderMap) (next : Response)
    (c : Call) :
    (rateLimitMiddleware l headers next c none).1.toBool =
        (admissionScript l.config.defaultRequestsPerMinute 60 c
          (l.store ("default" ++ ":" ++ extractIdentifier headers))).1.allowed ∧
      (rateLimitMiddleware l headers next c none).2 =
        { l with
          store := Function.update l.store ("default" ++ ":" ++ extractIdentifier headers)
            (admissionScript l.config.defaultRequestsPerMinute 60 c
              (l.store ("default" ++ ":" ++ extractIdentifier headers))).2 } := by
  simp only [rateLimitMiddleware, rateLimitLayer, RateLimiter.checkDefaultRateLimit,
    RateLimiter.classCheck, RateLimiter.checkAndIncrement]
  cases (admissionScript l.config.defaultRequestsPerMinute 60 c
    (l.store ("default" ++ ":" ++ extractIdentifier headers))).1.allowed <;> exact ⟨rfl, rfl⟩

/-- A request whose store call fails does not pass and leaves the limiter as it was. -/
theorem rateLimitMiddleware_some (l : RateLimiter) (headers : HeaderMap) (next : Response)
    (c : Call) (e : String) :
    rateLimitMiddleware l headers next c (some e) = (.error (.redis e), l) := rfl

/-- **On one identifier's key the middleware runs the one-key model**: in any interleaving of
requests, the requests of `identifier` let through in a window are those the one-key run admits,
run over the calls of that identifier's requests whose script runs, from the key's set. -/
theorem passedIn_middlewareRun (identifier : String) (t : ℕ) :
    ∀ (l : RateLimiter) (reqs : List LimitedRequest),
      passedIn identifier t 60 reqs (middlewareRun l reqs) =
        admitted t 60 ((reqs.filter (Reaches identifier)).map (·.call))
          (run l.config.defaultRequestsPerMinute 60 (l.store ("default" ++ ":" ++ identifier))
            ((reqs.filter (Reaches identifier)).map (·.call)))
  | _, [] => rfl
  | l, ⟨headers, next, c, some e⟩ :: rs => by
    have ih := passedIn_middlewareRun identifier t l rs
    rw [middlewareRun, passedIn_cons, rateLimitMiddleware_some,
      if_neg fun h => absurd h.2.1 Bool.false_ne_true, List.nil_append,
      List.filter_cons_of_neg (by simp [Reaches])]
    exact ih
  | l, ⟨headers, next, c, none⟩ :: rs => by
    obtain ⟨hok, hst⟩ := rateLimitMiddleware_none l headers next c
    have ih := passedIn_middlewareRun identifier t
      (rateLimitMiddleware l headers next c none).2 rs
    rw [hst] at ih
    rw [middlewareRun, passedIn_cons, hok, hst, ih]
    by_cases hid : extractIdentifier headers = identifier
    · subst hid
      rw [List.filter_cons_of_pos (by simp [Reaches]), List.map_cons, run_cons, admitted_cons]
      simp only [Function.update_same, true_and]
    · have hne :
          "default" ++ ":" ++ identifier ≠ "default" ++ ":" ++ extractIdentifier headers :=
        fun h => hid (classKey_injective h).symm
      rw [List.filter_cons_of_neg (by simp [Reaches, hid]), if_neg (fun h => hid h.1),
        List.nil_append]
      simp only [Function.update_noteq hne]

/-- **The middleware bounds what each identifier gets through in a minute.** Over any
interleaving of the requests of every client, with clocks that never go back and whatever calls
of the store fail, the requests of one identifier that `rate_limit_middleware` lets through with
`now ∈ [t, t + 60)` carry at most `default_requests_per_minute` distinct store timestamps. -/
theorem rateLimitMiddleware_window_bound (l : RateLimiter) {reqs : List LimitedRequest}
    (hord : ClockOrdered (reqs.map (·.call))) (identifier : String) {t : ℕ} (ht : 0 < t) :
    ((passedIn identifier t 60 reqs (middlewareRun l reqs)).map Call.score).toFinset.card ≤
      l.config.defaultRequestsPerMinute := by
  rw [passedIn_middlewareRun]
  exact admitted_score_card_le ht _ (hord.sublist ((List.filter_sublist reqs).map _))

/-- Two requests without headers, ten seconds apart, the store never failing. -/
def twoRequests : List LimitedRequest :=
  [⟨⟨[]⟩, okResponse, ⟨100, 0⟩, none⟩, ⟨⟨[]⟩, okResponse, ⟨110, 0⟩, none⟩]

/-- Two requests of one client ten seconds apart, under a limit of one a minute. -/
theorem rateLimitMiddleware_window_bound_two :
    ClockOrdered (twoRequests.map (·.call)) ∧ 0 < 100 ∧
      ((passedIn "ip:unknown" 100 60 twoRequests (middlewareRun testLimiter twoRequests)).map
        Call.score).toFinset.card ≤ testLimiter.config.defaultRequestsPerMinute :=
  ⟨by decide, by decide, rateLimitMiddleware_window_bound testLimiter (by decide) "ip:unknown"
    (by decide)⟩

/-! ### Resets

`RateLimiter::reset` takes its identifier as the key, like a custom check, so the buckets of the
named classes are out of its reach for every identifier the middleware derives. -/

/-- Two limiters with the same configuration and the same set under every key of the default
class. -/
structure SameDefaultBuckets (l l' : RateLimiter) : Prop where
  config : l.config = l'.config
  store : ∀ identifier, l.store ("default" ++ ":" ++ identifier) =
    l'.store ("default" ++ ":" ++ identifier)

/-- Writing one set under one key keeps two limiters' default buckets equal. -/
theorem SameDefaultBuckets.store_update {l l' : RateLimiter} (h : SameDefaultBuckets l l')
    (key : String) (set : Finset ℕ) (identifier : String) :
    Function.update l.store key set ("default" ++ ":" ++ identifier) =
      Function.update l'.store key set ("default" ++ ":" ++ identifier) := by
  by_cases hk : "default" ++ ":" ++ identifier = key
  · subst hk
    simp only [Function.update_same]
  · simp only [Function.update_noteq hk, h.store]

/-- One request of the middleware reads the limiter only through its configuration and its
default buckets. -/
theorem rateLimitMiddleware_congr {l l' : RateLimiter} (h : SameDefaultBuckets l l')
    (headers : HeaderMap) (next : Response) (c : Call) (failure : Option String) :
    (rateLimitMiddleware l headers next c failure).1 =
        (rateLimitMiddleware l' headers next c failure).1 ∧
      SameDefaultBuckets (rateLimitMiddleware l headers next c failure).2
        (rateLimitMiddleware l' headers next c failure).2 := by
  cases failure with
  | some e => exact ⟨rfl, h⟩
  | none =>
    simp only [rateLimitMiddleware, rateLimitLayer, RateLimiter.checkDefaultRateLimit,
      RateLimiter.classCheck, RateLimiter.checkAndIncrement, h.config,
      h.store (extractIdentifier headers)]
    split_ifs <;> exact ⟨rfl, rfl, h.store_update _ _⟩

/-- A run of the middleware reads the limiter only through its configuration and its default
buckets. -/
theorem middlewareRun_congr :
    ∀ {l l' : RateLimiter}, SameDefaultBuckets l l' → ∀ reqs : List LimitedRequest,
      middlewareRun l reqs = middlewareRun l' reqs
  | _, _, _, [] => rfl
  | _, _, h, r :: rs => by
    obtain ⟨hout, hl⟩ := rateLimitMiddleware_congr h r.headers r.next r.call r.failure
    rw [middlewareRun, middlewareRun, hout, middlewareRun_congr hl rs]

/-- The keys of the default class are not identifiers: those start with `user:` or `ip:`. -/
theorem defaultKey_ne_extractIdentifier (identifier : String) (headers : HeaderMap) :
    "default" ++ ":" ++ identifier ≠ extractIdentifier headers := by
  intro h
  have := congrArg (fun s : String => s.data.head?) h
  unfold extractIdentifier at this
  split at this
  · simp at this
  · split at this
    · simp at this
    · split at this <;> simp at this

/-- **A reset by identifier never reaches the middleware.** `RateLimiter::reset` deletes the
key it is given, while the middleware counts the requests of an identifier under
`default:identifier`: resetting the identifier the middleware reads off a request's headers
leaves every later answer of the middleware, to every request of every client, as it was. -/
theorem middlewareRun_reset (l : RateLimiter) (headers : HeaderMap) (reqs : List LimitedRequest) :
    middlewareRun (l.reset (extractIdentifier headers) none).2 reqs = middlewareRun l reqs :=
  @middlewareRun_congr (l.reset (extractIdentifier headers) none).2 l ⟨rfl, fun identifier =>
    Function.update_noteq (defaultKey_ne_extractIdentifier identifier headers) _ _⟩ reqs

end AgentIam.Middleware
