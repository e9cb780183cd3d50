import Mathlib.Algebra.Order.Archimedean.Basic
import Mathlib.Data.Rat.Floor
import Telima.Async.Caching
import Telima.Async.Relational
import Telima.Data.JsNumber
import Telima.Payments.Provider

/-!
# The access token of Orange Money

`OrangeMoneyProvider` asks Orange for an access token and caches it for 55 minutes at most, and never in the
last five minutes of its life, as Orange states it.  Calls run concurrently, and each of them that does
not find a live token asks for its own.  So the token of a request was given by Orange to this server, since
the call looked at the cache or in time before (`tokens_in_time`).
-/

namespace Telima

mutual

/-- `Number(String(value))`, for an element of a list: the text of `null` is empty. -/
def Json.elementNumber : Json → JsNumber
  | .null => .finite 0
  | .bool _ => .nan
  | .num q => .finite q
  | .str s => Number s.toList
  | .arr values => joinedNumber values
  | .obj _ => .nan

/-- `Number(values.join(','))`; a text with a comma is no number. -/
def joinedNumber : List Json → JsNumber
  | [] => .finite 0
  | [value] => value.elementNumber
  | _ :: _ :: _ => .nan

end

/-- `Number(value)` -/
def Json.toNumber : Json → JsNumber
  | .bool b => .finite (if b then 1 else 0)
  | value => value.elementNumber

theorem finite_min_finite (x y : ℚ) :
    (JsNumber.finite x).min (.finite y) = .finite (min x y) := by
  have hlt : (JsNumber.finite y).lt (.finite x) = decide (y < x) := rfl
  rw [JsNumber.min, if_neg (by simp), hlt]
  by_cases hyx : y < x
  · rw [if_pos (decide_eq_true hyx), min_eq_right hyx.le]
  · rw [if_neg (by simpa using hyx), min_eq_left (not_lt.mp hyx)]

namespace Payments.OAuth

/-- What the `fetch` of the access token answers; `body` is what the text parses to, if it does. -/
structure Response where
  status : ℕ
  body : Option Json

/-- The environment of the provider: its settings, and what Orange answers. -/
structure Env where
  OM_CLIENT_ID : Option String
  OM_CLIENT_SECRET : Option String
  OM_MERCHANT_KEY : Option String
  /-- `POST https://api.orange.com/oauth/v3/token`, with the credentials. -/
  oauth : String → Telima.Store → Response
  /-- The two requests of the payment API, with an access token. -/
  api : Json → OrangeApi
  /-- What a template makes of a value. -/
  text : Json → String

/-- The provider's cache, and the world around it. -/
structure Store where
  /-- `{ token, expiresAt }` -/
  cachedToken : Option (Json × JsNumber) := none
  world : Telima.Store

/-- The commands: `look` and `keep` are the accesses to the cache. -/
inductive Cmd where
  | look
  | requestToken (auth : String)
  | readBody
  | keep (token : Json) (cacheMs : JsNumber)
  | webPayment (token : Json)
  | transactionStatus (token : Json)
  | tick (ms : ℕ)

def Cmd.exec : Cmd → Store → Store
  | look, s | readBody, s => s
  | requestToken _, s | webPayment _, s | transactionStatus _, s =>
    { s with world := { s.world with externalCalls := s.world.externalCalls + 1 } }
  | keep token cacheMs, s =>
    { s with cachedToken := some (token, (JsNumber.finite s.world.now).add cacheMs) }
  | tick ms, s => { s with world := { s.world with now := s.world.now + ms } }

/-- The token a request presents. -/
def Cmd.presents : Cmd → Option Json
  | webPayment token | transactionStatus token => some token
  | _ => none

abbrev Prog := Async Store Cmd Error

/-- The text is there, and not empty. -/
def configured (setting : Option String) : Bool := setting.any (· != "")

/-- `response.ok` -/
def Response.ok (response : Response) : Bool :=
  decide (200 ≤ response.status) && decide (response.status < 300)

/-- `await response.json().catch(() => ({}))` -/
def Response.json (response : Response) : Prog Json :=
  (Async.query .readBody fun _ => response.body.getD (.obj [])).tryCatch fun _ => pure (.obj [])

/-- `data.expires_in ? Number(data.expires_in) : 3600` -/
def expiresIn (data : Json) : JsNumber :=
  match (data.field "expires_in").filter Json.truthy with
  | some value => value.toNumber
  | none => .finite 3600

/-- `Math.min(expiresIn - 300, 3300) * 1000` -/
def cacheMs (data : Json) : JsNumber :=
  (((expiresIn data).add (.finite (-300))).min (.finite 3300)).mul (.finite 1000)

/-- `data.access_token`, where the answer is accepted. -/
def accessToken (response : Response) (data : Json) : Option Json :=
  if response.ok then (data.field "access_token").filter Json.truthy else none

/-- The token that is kept, while `Date.now() < expiresAt`. -/
def Store.liveToken (s : Store) : Option Json :=
  s.cachedToken.bind fun kept =>
    if (JsNumber.finite s.world.now).lt kept.2 then some kept.1 else none

namespace OrangeMoneyProvider

variable (env : Env)

def isConfigured : Bool :=
  configured env.OM_CLIENT_ID && configured env.OM_CLIENT_SECRET && configured env.OM_MERCHANT_KEY

def merchantKey : Except Error String :=
  match env.OM_MERCHANT_KEY with
  | some key => if key = "" then .error (.serviceUnavailable "OM_MERCHANT_KEY non configure") else .ok key
  | none => .error (.serviceUnavailable "OM_MERCHANT_KEY non configure")

/-- The credentials, as `Basic` authorisation encodes them. -/
def credentials : Except Error String :=
  if configured env.OM_CLIENT_ID && configured env.OM_CLIENT_SECRET then
    .ok (env.OM_CLIENT_ID.getD "" ++ ":" ++ env.OM_CLIENT_SECRET.getD "")
  else
    .error (.serviceUnavailable "Credentials Orange Money manquants (OM_CLIENT_ID/OM_CLIENT_SECRET)")

/-- `data?.message ?? response.status` -/
def failureText (response : Response) (data : Json) : String :=
  match data.field "message" with
  | none | some .null => toString response.status
  | some message => env.text message

def getAccessToken : Prog Json := do
  let cached ← Async.read .look Store.liveToken
  match cached with
  | some token => pure token
  | none =>
    let auth ← (Async.done (credentials env) : Prog String)
    let response ← Async.query (.requestToken auth) fun s => env.oauth auth s.world
    let data ← response.json
    match accessToken response data with
    | none =>
      Async.throw (.serviceUnavailable
        ("Authentification Orange Money impossible: " ++ failureText env response data))
    | some token =>
      Async.emit (.keep token (cacheMs data))
      pure token

def initiate (input : PaymentInitiation) : Prog PaymentInitiationResult := do
  if !isConfigured env then
    Async.throw (.serviceUnavailable
      "Paiement Orange Money indisponible : integration non configuree")
  else
    let token ← getAccessToken env
    let _ ← (Async.done (merchantKey env) : Prog String)
    Async.queryE (.webPayment token) fun s =>
      Telima.OrangeMoneyProvider.initiate (env.api token) input s.world

def checkTransactionStatus (transactionRef orderId : String) (amount : ℚ) :
    Prog TransactionStatus := do
  let token ← getAccessToken env
  Async.queryE (.transactionStatus token) fun s =>
    Telima.OrangeMoneyProvider.checkTransactionStatus (env.api token) transactionRef orderId amount
      s.world

end OrangeMoneyProvider

/-! ### The calls of a server -/

inductive Call where
  | initiate (input : PaymentInitiation)
  | checkTransactionStatus (transactionRef orderId : String) (amount : ℚ)
  | wait (ms : ℕ)

inductive Answer where
  | initiated (result : PaymentInitiationResult)
  | checked (status : TransactionStatus)
  | nothing
  deriving DecidableEq

def Call.program (env : Env) : Call → Prog Answer
  | initiate input => do
    let result ← OrangeMoneyProvider.initiate env input
    pure (.initiated result)
  | checkTransactionStatus transactionRef orderId amount => do
    let status ← OrangeMoneyProvider.checkTransactionStatus env transactionRef orderId amount
    pure (.checked status)
  | wait ms => (Async.perform (.tick ms)).as .nothing

def system : System Store Cmd Error Answer where
  exec := Cmd.exec
  handlers _ := []

/-- The calls come in, with no token in the cache. -/
def start (env : Env) (world : Telima.Store) (calls : List Call) : Pool Store Cmd Error Answer :=
  Pool.init { world } (calls.map (Call.program env))

/-! ### How long a token is cached -/

/-- What the provider gets from the token endpoint. -/
structure Response.Grants (response : Response) (token data : Json) : Prop where
  body : response.body = some data
  accepted : accessToken response data = some token

/-- A token that Orange issued with `data` is looked for in time: 55 minutes after it was issued, and five
minutes before it expires, up to `lag`. -/
structure InTime (lag : ℕ) (data : Json) (issued looked : ℕ) : Prop where
  number : expiresIn data ≠ .nan
  cached : looked < issued + 3300000 + lag
  unexpired : ∀ seconds, expiresIn data = .finite seconds →
    (looked : ℚ) + 300000 < issued + seconds * 1000 + lag

theorem finite_cacheMs {data : Json} {ms : ℚ} (h : cacheMs data = .finite ms) :
    expiresIn data ≠ .nan ∧ ms ≤ 3300000 ∧
      ∀ seconds, expiresIn data = .finite seconds → ms ≤ (seconds - 300) * 1000 := by
  unfold cacheMs at h
  cases hseconds : expiresIn data with
  | nan =>
    rw [hseconds] at h
    cases h
  | infinite negative =>
    rw [hseconds] at h
    refine ⟨(by simp), ?_, (by simp)⟩
    cases negative with
    | true => cases h
    | false =>
      have hms : (3300 : ℚ) * 1000 = ms := JsNumber.finite.inj h
      rw [← hms]
      norm_num
  | finite seconds =>
    rw [hseconds] at h
    have hadd : (JsNumber.finite seconds).add (.finite (-300)) = .finite (seconds + -300) := rfl
    rw [hadd, finite_min_finite] at h
    have hms : min (seconds + -300) 3300 * 1000 = ms := JsNumber.finite.inj h
    have hmargin : min (seconds + -300) 3300 ≤ seconds + -300 := min_le_left _ _
    have hcap : min (seconds + -300) 3300 ≤ (3300 : ℚ) := min_le_right _ _
    refine ⟨(by simp), by linarith, fun seconds' hseconds' => ?_⟩
    obtain rfl := JsNumber.finite.inj hseconds'
    linarith

theorem InTime.of_cacheMs {lag issued looked : ℕ} {data : Json} {ms : ℚ}
    (hms : cacheMs data = .finite ms) (h : (looked : ℤ) < issued + ⌈ms⌉ + lag) :
    InTime lag data issued looked := by
  obtain ⟨hnumber, hcap, hmargin⟩ := finite_cacheMs hms
  have hlt : (looked : ℚ) < issued + ms + lag := by
    have hceil : (looked : ℤ) - issued - lag < ⌈ms⌉ := by linarith
    have hcast := Int.lt_ceil.mp hceil
    push_cast at hcast
    linarith
  refine ⟨hnumber, ?_, fun seconds hseconds => ?_⟩
  · have hcast : (looked : ℚ) < (issued + 3300000 + lag : ℕ) := by
      push_cast
      linarith
    exact_mod_cast hcast
  · have := hmargin seconds hseconds
    linarith

/-! ### The cache -/

/-- The first whole number that is not below. -/
def ceil? : JsNumber → Option ℤ
  | .finite q => some ⌈q⌉
  | _ => none

theorem ceil?_eq_some {x : JsNumber} {n : ℤ} (h : ceil? x = some n) : ∃ q, x = .finite q ∧ ⌈q⌉ = n := by
  cases x with
  | finite q => exact ⟨q, rfl, Option.some.inj h⟩
  | nan => cases h
  | infinite negative => cases h

/-- The token of an answer, and for how long it is kept. -/
def Response.token? (response : Response) : Option (Json × ℤ) :=
  response.body.bind fun data =>
    (accessToken response data).bind fun token => (ceil? (cacheMs data)).map fun life => (token, life)

theorem Response.grants_of_token? {response : Response} {token : Json} {life : ℤ}
    (h : response.token? = some (token, life)) :
    ∃ data ms, response.Grants token data ∧ cacheMs data = .finite ms ∧ ⌈ms⌉ = life := by
  obtain ⟨data, hbody, h⟩ := Option.bind_eq_some_iff.mp h
  obtain ⟨token', haccepted, h⟩ := Option.bind_eq_some_iff.mp h
  obtain ⟨life', hceil, h⟩ := Option.map_eq_some_iff.mp h
  obtain ⟨rfl, rfl⟩ := Prod.mk.inj h
  obtain ⟨ms, hms, hlife⟩ := ceil?_eq_some hceil
  exact ⟨data, ms, ⟨hbody, haccepted⟩, hms, hlife⟩

theorem Response.Grants.token?_eq {response : Response} {token data : Json} {ms : ℚ}
    (h : response.Grants token data) (hms : cacheMs data = .finite ms) :
    response.token? = some (token, ⌈ms⌉) := by
  rw [token?, h.body, Option.bind_some, h.accepted, Option.bind_some, hms]
  rfl

/-- The cache of the provider; only a token with a finite life can be live. -/
def cache (env : Env) : TtlCache system Unit Json where
  now s := s.world.now
  entry s _ := s.cachedToken.bind fun kept => (ceil? kept.2).map fun deadline => (kept.1, deadline)
  answer c s _ :=
    match c with
    | .requestToken auth => (env.oauth auth s.world).token?
    | _ => none
  fill c s _ :=
    match c with
    | .keep token ms => (ceil? ((JsNumber.finite s.world.now).add ms)).map fun deadline => (token, deadline)
    | _ => none
  entry_exec := by
    intro c s _ kept hentry
    cases c with
    | keep token ms => exact Or.inl hentry
    | _ => exact Or.inr hentry

/-! ### What a request presents -/

variable {env : Env} {lag i k : ℕ} {token : Json}

/-- Orange issued the token at moment `m`, with `data`. -/
def IssuedAt (env : Env) (w : World Store Cmd) (m : ℕ) (token data : Json) : Prop :=
  ∃ i auth, w.DidAt m i (.requestToken auth) ∧
    (env.oauth auth (w.storeAt m).world).Grants token data

/-- Before moment `k`, thread `i` looked at the cache, and Orange issued the token: later than that, or in
time. -/
def Supports (env : Env) (lag k i : ℕ) (token : Json) (w : World Store Cmd) : Prop :=
  ∃ l m data, l < k ∧ m < k ∧ w.DidAt l i .look ∧ IssuedAt env w m token data ∧
    (l < m ∨ InTime lag data (w.storeAt m).world.now (w.storeAt l).world.now)

theorem IssuedAt.of_suffix {w w' : World Store Cmd} {m : ℕ} {data : Json}
    (h : IssuedAt env w m token data) (hsuffix : w.trace <:+ w'.trace) :
    IssuedAt env w' m token data := by
  obtain ⟨i, auth, hdid, hgrants⟩ := h
  refine ⟨i, auth, hdid.of_suffix hsuffix, ?_⟩
  rwa [World.storeAt_of_suffix hsuffix hdid.lt]

theorem Supports.of_suffix {w w' : World Store Cmd} {k' : ℕ} (h : Supports env lag k i token w)
    (hk : k ≤ k') (hsuffix : w.trace <:+ w'.trace) : Supports env lag k' i token w' := by
  obtain ⟨l, m, data, hl, hm, hlook, hissued, hold⟩ := h
  refine ⟨l, m, data, hl.trans_le hk, hm.trans_le hk, hlook.of_suffix hsuffix,
    hissued.of_suffix hsuffix, ?_⟩
  obtain ⟨j, auth, hdid, -⟩ := hissued
  rwa [World.storeAt_of_suffix hsuffix hdid.lt, World.storeAt_of_suffix hsuffix hlook.lt]

/-- What the cache holds was issued, and its life is that of the token. -/
theorem exists_issuedAt {w : World Store Cmd} {m : ℕ} {life : ℤ}
    (h : (cache env).AnsweredAt w m () token life) :
    ∃ data ms, IssuedAt env w m token data ∧ cacheMs data = .finite ms ∧ ⌈ms⌉ = life := by
  obtain ⟨i, c, hdid, hanswer⟩ := h
  cases c with
  | requestToken auth =>
    obtain ⟨data, ms, hgrants, hms, hlife⟩ := Response.grants_of_token? hanswer
    exact ⟨data, ms, ⟨i, auth, hdid, hgrants⟩, hms, hlife⟩
  | _ => cases hanswer

/-- What holds in every world. -/
structure Inv (env : Env) (lag : ℕ) (w : World Store Cmd) : Prop where
  backed : (cache env).Backed lag w
  /-- No token is kept for ever. -/
  ends : ∀ kept, w.store.cachedToken = some kept → kept.2 ≠ .infinite false
  supported : ∀ k i c, w.DidAt k i c → ∀ token, c.presents = some token → Supports env lag k i token w

/-- What the threads promise each other: to keep what Orange issued, and to present what it issued. -/
structure Guar (env : Env) (lag i : ℕ) (w : World Store Cmd) (c : Cmd) : Prop where
  keeps : (cache env).KeepsAnswer i w c
  ends : ∀ token ms, c = .keep token ms → ms ≠ .infinite false
  supported : ∀ token, c.presents = some token → Supports env lag w.moment i token w

theorem historic_supported (k i : ℕ) (c : Cmd) : Protocol.Historic fun w : World Store Cmd =>
    ∀ token, c.presents = some token → Supports env lag k i token w :=
  fun _ _ hsuffix hw token hc => (hw token hc).of_suffix le_rfl hsuffix

theorem Inv.step {w : World Store Cmd} {c : Cmd} {n : ℕ} (h : Inv env lag w)
    (hprompt : (cache env).Prompt lag i w c) (hguar : Guar env lag i w c) :
    Inv env lag (w.step system i c n) where
  backed := h.backed.step hprompt hguar.keeps
  ends := by
    intro kept hkept
    rw [World.store_step] at hkept
    cases c with
    | keep token ms =>
      obtain rfl := Option.some.inj hkept
      have hms := hguar.ends token ms rfl
      cases ms with
      | infinite negative =>
        intro hsum
        exact hms hsum
      | _ => simp [JsNumber.add]
    | _ => exact h.ends kept hkept
  supported := Protocol.grounds_step historic_supported h.supported hguar.supported

def tokens (env : Env) (lag : ℕ) (fault : Error → Prop) : Protocol system where
  cond := (cache env).Prompt lag
  fault := fault
  inv := Inv env lag
  guar := Guar env lag
  inv_step hinv hprompt hguar _ _ := hinv.step hprompt hguar

section Proof

variable {fault : Error → Prop} {w : World Store Cmd}

/-- A command that neither keeps nor presents a token. -/
theorem guar_of_silent {c : Cmd} (hfill : ∀ s, (cache env).fill c s () = none)
    (hkeep : ∀ token ms, c ≠ .keep token ms) (hpresents : c.presents = none) :
    (tokens env lag fault).guar i w c := by
  refine ⟨TtlCache.keepsAnswer_of_not_fill fun _ => hfill _,
    fun token ms h => absurd h (hkeep token ms), fun token h => ?_⟩
  rw [hpresents] at h
  cases h

/-- A token that is found in the cache is in time. -/
theorem supports_of_liveToken {n : ℕ} (hinv : Inv env lag w)
    (htoken : w.store.liveToken = some token) :
    Supports env lag (w.step system i .look n).moment i token (w.step system i .look n) := by
  obtain ⟨⟨token', expiresAt⟩, hkept, hlive⟩ := Option.bind_eq_some_iff.mp htoken
  split_ifs at hlive with hnow
  obtain rfl := Option.some.inj hlive
  have hfinite : ∃ deadline, ceil? expiresAt = some deadline ∧ (w.store.world.now : ℤ) < deadline := by
    cases expiresAt with
    | finite q =>
      have hlt : (w.store.world.now : ℚ) < q := of_decide_eq_true hnow
      exact ⟨⌈q⌉, rfl, Int.lt_ceil.mpr (by exact_mod_cast hlt)⟩
    | nan => cases hnow
    | infinite negative =>
      have hends : JsNumber.infinite negative ≠ .infinite false := hinv.ends _ hkept
      cases negative with
      | true => cases hnow
      | false => exact absurd rfl hends
  obtain ⟨deadline, hceil, hlt⟩ := hfinite
  have hentry : (cache env).entry w.store () = some (token', deadline) := by
    show (w.store.cachedToken.bind _) = _
    rw [hkept, Option.bind_some, hceil]
    rfl
  obtain ⟨m, life, hanswered, hold⟩ :=
    TtlCache.served_of_entry (i := i) (c := .look) (n := n) hinv.backed hentry hlt
  obtain ⟨data, ms, hissued, hms, rfl⟩ := exists_issuedAt hanswered
  refine ⟨w.moment, m, data, World.moment_lt_step, hanswered.lt, World.didAt_step.1, hissued, ?_⟩
  exact hold.imp_right fun hlt => InTime.of_cacheMs hms hlt

/-- Since it looked at the cache at moment `l`, thread `i` has got an answer of the token endpoint. -/
def Answered (env : Env) (i l : ℕ) (response : Response) (w : World Store Cmd) : Prop :=
  (∃ m, l < m ∧ ∃ auth, w.DidAt m i (.requestToken auth) ∧
    env.oauth auth (w.storeAt m).world = response) ∧
  ∀ token life, response.token? = some (token, life) →
    ∃ t, w.lastAnswer i ((cache env).answerAt ()) = some ((token, life), t)

theorem answered_step {l n : ℕ} {auth : String} (hl : l < w.moment) :
    Answered env i l (env.oauth auth w.store.world) (w.step system i (.requestToken auth) n) := by
  obtain ⟨hdid, hstore⟩ := World.didAt_step (S := system) (w := w) (i := i) (c := .requestToken auth)
    (n := n)
  refine ⟨⟨w.moment, hl, auth, hdid, by rw [hstore]⟩, fun token life htoken => ?_⟩
  refine ⟨w.store.world.now, World.lastAnswer_step_self ?_⟩
  show ((env.oauth auth w.store.world).token?).map _ = _
  rw [htoken]
  rfl

theorem Answered.step {l j n : ℕ} {response : Response} {c : Cmd} (h : Answered env i l response w)
    (hc : j ≠ i ∨ ∀ s, (cache env).answer c s () = none) :
    Answered env i l response (w.step system j c n) := by
  obtain ⟨⟨m, hl, auth, hdid, hresponse⟩, hlast⟩ := h
  have hsuffix : w.trace <:+ (w.step system j c n).trace := World.trace_step_suffix
  refine ⟨⟨m, hl, auth, hdid.of_suffix hsuffix, ?_⟩, fun token life htoken => ?_⟩
  · rwa [World.storeAt_of_suffix hsuffix hdid.lt]
  · rw [World.lastAnswer_step_of_not (hc.imp_right fun h => ?_)]
    · exact hlast token life htoken
    · show ((cache env).answer c w.store ()).map _ = none
      rw [h, Option.map_none]

theorem stable_answered {l : ℕ} {response : Response} :
    (tokens env lag fault).Stable i (Answered env i l response) := by
  rintro w _ ⟨j, c, n, hj, -, -, -, -, -, -, rfl⟩ h
  exact h.step (Or.inl hj)

/-- What the provider has got, it may present. -/
theorem Answered.supports {l : ℕ} {response : Response} {data : Json}
    (h : Answered env i l response w) (hgrants : response.Grants token data)
    (hlook : w.DidAt l i .look) : Supports env lag w.moment i token w := by
  obtain ⟨⟨m, hl, auth, hdid, rfl⟩, -⟩ := h
  exact ⟨l, m, data, hlook.lt, hdid.lt, hlook, ⟨i, auth, hdid, hgrants⟩, Or.inl hl⟩

theorem cacheMs_ne_infinite (data : Json) : cacheMs data ≠ .infinite false := by
  unfold cacheMs
  cases hseconds : expiresIn data with
  | nan => decide
  | infinite negative => cases negative <;> decide
  | finite seconds =>
    have hadd : (JsNumber.finite seconds).add (.finite (-300)) = .finite (seconds + -300) := rfl
    rw [hadd, finite_min_finite]
    simp [JsNumber.mul]

/-- A token that is kept was the last one the thread was given. -/
theorem Answered.guar {l : ℕ} {response : Response} {data : Json}
    (h : Answered env i l response w) (hgrants : response.Grants token data) :
    (tokens env lag fault).guar i w (.keep token (cacheMs data)) where
  keeps := by
    intro _ token' deadline hfill
    obtain ⟨deadline', hceil, hpair⟩ := Option.map_eq_some_iff.mp hfill
    obtain ⟨rfl, rfl⟩ := Prod.mk.inj hpair
    cases hms : cacheMs data with
    | finite ms =>
      rw [hms] at hceil
      obtain ⟨t, hlast⟩ := h.2 _ _ (hgrants.token?_eq hms)
      have hdeadline : ⌈(w.store.world.now : ℚ) + ms⌉ = deadline' := Option.some.inj hceil
      refine ⟨⌈ms⌉, t, hlast, ?_⟩
      rw [← hdeadline, add_comm, Int.ceil_add_natCast, add_comm]
      rfl
    | nan =>
      rw [hms] at hceil
      cases hceil
    | infinite negative =>
      rw [hms] at hceil
      cases hceil
  ends := by
    intro token' ms hkeep
    obtain ⟨-, rfl⟩ := Cmd.keep.inj hkeep
    exact cacheMs_ne_infinite data
  supported := by
    intro _ hpresents
    cases hpresents

/-- What `getAccessToken` returns may be presented. -/
def Presentable (env : Env) (lag i : ℕ) (r : Except Error Json) (w : World Store Cmd) : Prop :=
  ∀ token, r = .ok token → Supports env lag w.moment i token w

theorem grants_of_accessToken {response : Response} {data : Json}
    (hdata : data = response.body.getD (.obj []) ∨ data = .obj [])
    (h : accessToken response data = some token) : response.Grants token data := by
  have hempty : accessToken response (.obj []) = none := by
    unfold accessToken
    split
    · rfl
    · rfl
  rcases hdata with rfl | rfl
  · cases hbody : response.body with
    | some body =>
      rw [hbody] at h
      exact ⟨hbody, h⟩
    | none =>
      rw [hbody] at h
      exact absurd (hempty.symm.trans h) (by simp)
  · exact absurd (hempty.symm.trans h) (by simp)

/-- Whatever becomes of the body, the thread has got its answer. -/
theorem wp_json {l : ℕ} {response : Response}
    (h : Answered env i l response w ∧ w.DidAt l i .look) :
    (tokens env lag fault).wp i response.json (fun r w =>
      (Answered env i l response w ∧ w.DidAt l i .look) ∧
        ∀ data, r = .ok data → data = response.body.getD (.obj []) ∨ data = .obj []) w := by
  have hstable : (tokens env lag fault).Stable i fun w =>
      Answered env i l response w ∧ w.DidAt l i .look :=
    stable_answered.and Protocol.historic_didAt.stable
  refine Protocol.wp_tryCatch (Protocol.wp_query hstable h (fun u hu _ _ => ?_) fun e u _ hu _ => ?_)
  · refine ⟨guar_of_silent (fun _ => rfl) (by simp) rfl, fun n _ _ => ?_⟩
    refine ⟨⟨hu.1.step (Or.inr fun _ => rfl), hu.2.of_suffix World.trace_step_suffix⟩, ?_⟩
    intro data hdata
    exact Or.inl (Except.ok.inj hdata).symm
  · exact ⟨hu, fun data hdata => Or.inr (Except.ok.inj hdata).symm⟩

theorem historic_presentable (r : Except Error Json) :
    Protocol.Historic (Presentable env lag i r) :=
  fun _ _ hsuffix hw token hr => (hw token hr).of_suffix hsuffix.length_le hsuffix

theorem wp_getAccessToken :
    (tokens env lag fault).wp i (OrangeMoneyProvider.getAccessToken env) (Presentable env lag i) w := by
  refine Protocol.wp_read_bind (Protocol.stable_const i True) trivial fun v _ hinv _ =>
    ⟨guar_of_silent (fun _ => rfl) (by simp) rfl, fun n _ _ => ?_⟩
  cases htoken : v.store.liveToken with
  | some token =>
    intro token' hr
    obtain rfl := Except.ok.inj hr
    exact supports_of_liveToken hinv htoken
  | none =>
    have hlook : (v.step system i .look n).DidAt v.moment i .look := World.didAt_step.1
    cases hauth : OrangeMoneyProvider.credentials env with
    | error e =>
      intro token hr
      cases hr
    | ok auth =>
      refine Protocol.wp_query_bind Protocol.historic_didAt.stable hlook (fun u hu _ _ =>
        ⟨guar_of_silent (fun _ => rfl) (by simp) rfl, fun n _ _ => ?_⟩)
        fun e u _ _ _ token hr => by cases hr
      refine Protocol.wp_bind (Protocol.wp_mono ?_
        (wp_json ⟨answered_step hu.lt, hu.of_suffix World.trace_step_suffix⟩))
      rintro (e | data) u' ⟨hu', hdata⟩
      · intro token hr
        cases hr
      have hstable : (tokens env lag fault).Stable i fun w =>
          Answered env i v.moment (env.oauth auth u.store.world) w ∧ w.DidAt v.moment i .look :=
        stable_answered.and Protocol.historic_didAt.stable
      rw [Async.done_ok_bind]
      cases haccepted : accessToken (env.oauth auth u.store.world) data with
      | none =>
        intro token hr
        cases hr
      | some token =>
        have hgrants := grants_of_accessToken (hdata data rfl) haccepted
        refine Protocol.wp_read_bind hstable hu' fun x hx _ _ => ⟨hx.1.guar hgrants, fun n _ _ => ?_⟩
        intro token' hr
        obtain rfl := Except.ok.inj hr
        have hsuffix : x.trace <:+ (x.step system i (.keep token (cacheMs data)) n).trace :=
          World.trace_step_suffix
        exact (hx.1.supports hgrants hx.2).of_suffix hsuffix.length_le hsuffix

/-- A request presents the token the provider has got. -/
theorem guar_of_presentable {c : Cmd} (hfill : ∀ s, (cache env).fill c s () = none)
    (hkeep : ∀ token ms, c ≠ .keep token ms) (hpresents : c.presents = some token)
    (h : Presentable env lag i (.ok token) w) : (tokens env lag fault).guar i w c := by
  refine ⟨TtlCache.keepsAnswer_of_not_fill fun _ => hfill _,
    fun token ms hc => absurd hc (hkeep token ms), ?_⟩
  intro token' htoken'
  obtain rfl : token = token' := Option.some.inj (hpresents.symm.trans htoken')
  exact h token rfl

theorem wp_program (call : Call) :
    (tokens env lag fault).wp i (call.program env) (fun _ _ => True) w := by
  have htrue : (tokens env lag fault).Stable i fun _ => True := Protocol.stable_const i True
  cases call with
  | initiate input =>
    refine Protocol.wp_bind (Protocol.wp_mono (fun r v _ => by cases r <;> trivial)
      (Q := fun _ _ => True) ?_)
    unfold OrangeMoneyProvider.initiate
    split
    · trivial
    refine Protocol.wp_bind (Protocol.wp_mono ?_ wp_getAccessToken)
    rintro (e | token) v hv
    · trivial
    rw [Async.done_ok_bind]
    cases OrangeMoneyProvider.merchantKey env with
    | error e => trivial
    | ok key =>
      rw [Async.bind_eq, Async.done_ok_bind]
      exact Protocol.wp_queryE (historic_presentable _).stable hv (fun u hu _ _ =>
        ⟨guar_of_presentable (fun _ => rfl) (by simp) rfl hu, fun _ _ _ => trivial⟩)
        fun _ _ _ _ _ => trivial
  | checkTransactionStatus transactionRef orderId amount =>
    refine Protocol.wp_bind (Protocol.wp_mono (fun r v _ => by cases r <;> trivial)
      (Q := fun _ _ => True) ?_)
    refine Protocol.wp_bind (Protocol.wp_mono ?_ wp_getAccessToken)
    rintro (e | token) v hv
    · trivial
    exact Protocol.wp_queryE (historic_presentable _).stable hv (fun u hu _ _ =>
      ⟨guar_of_presentable (fun _ => rfl) (by simp) rfl hu, fun _ _ _ => trivial⟩)
      fun _ _ _ _ _ => trivial
  | wait ms =>
    exact Protocol.wp_query_bind htrue trivial (fun _ _ _ _ =>
      ⟨guar_of_silent (fun _ => rfl) (by simp) rfl, fun _ _ _ => trivial⟩) fun _ _ _ _ _ => trivial

end Proof

/-- Whatever calls come in: if a token is kept at most `lag` after Orange has issued it, then every request
presents a token that Orange issued to this server, after the call has looked at the cache, or so long
before that it is neither 55 minutes old nor, by what Orange said, in its last five minutes (up to `lag`). -/
theorem tokens_in_time (env : Env) (lag : ℕ) (fault : Error → Prop) (world : Telima.Store)
    (calls : List Call) {p : Pool Store Cmd Error Answer}
    (hrun : Pool.Run system ((cache env).Prompt lag) fault (start env world calls) p)
    {k i : ℕ} {c : Cmd} {token : Json} (hc : p.world.DidAt k i c)
    (htoken : c.presents = some token) : Supports env lag k i token p.world := by
  have hstart : (tokens env lag fault).Safe (fun _ _ _ => True) (start env world calls) := by
    refine Protocol.safe_init ⟨fun _ _ _ h => (by cases h), fun _ h => (by cases h), ?_⟩ fun i t ht => ?_
    · intro k i c hdid
      exact absurd hdid.lt (Nat.not_lt_zero k)
    · rw [List.getElem?_map] at ht
      obtain ⟨call, -, rfl⟩ := Option.map_eq_some_iff.mp ht
      exact wp_program call
  have hsafe := hstart.run (fun i _ => Protocol.stable_const i True) (fun _ _ _ hk => by cases hk) hrun
  exact hsafe.inv.supported k i c hc token htoken

/-! ### A run -/

instance decidablePrompt (env : Env) (lag i : ℕ) (w : World Store Cmd) (c : Cmd) :
    Decidable ((cache env).Prompt lag i w c) := by
  cases c with
  | keep token ms => exact TtlCache.decidablePrompt [()] fun _ _ _ => List.mem_singleton_self _
  | _ => exact TtlCache.decidablePrompt [] fun _ _ hfill => by cases hfill

namespace Boutique

/-- Orange issues tokens for an hour, and accepts every payment. -/
def orange : Env where
  OM_CLIENT_ID := some "telima"
  OM_CLIENT_SECRET := some "secret"
  OM_MERCHANT_KEY := some "merchant"
  oauth _ _ := ⟨200, some (.obj [("access_token", .str "T"), ("expires_in", .str "3600")])⟩
  api _ :=
    { webPayment := fun _ _ _ => .ok ⟨some "pay", some "https://pay", none⟩
      transactionStatus := fun _ _ _ _ => .ok (some (.str "SUCCESS"), none) }
  text _ := ""

/-- A payment is started, and checked nearly 55 minutes later. -/
def calls : List Call :=
  [.initiate ⟨500, "+22370000001", 7⟩, .wait 3299999, .checkTransactionStatus "pay" "TL7" 500]

/-- The command presents the token. -/
def presentsT : Cmd → Bool
  | .webPayment (.str token) | .transactionStatus (.str token) => token == "T"
  | _ => false

theorem presents_of_presentsT {c : Cmd} (h : presentsT c = true) : c.presents = some (.str "T") := by
  unfold presentsT at h
  split at h
  · rw [eq_of_beq h]
    rfl
  · rw [eq_of_beq h]
    rfl
  · cases h

end Boutique

open Boutique in
/-- The check presents the token of the payment. -/
theorem tokens_in_time_boutique : ∃ q : Pool Store Cmd Error Answer,
    (∃ c, q.world.DidAt 7 2 c ∧ c.presents = some (.str "T")) ∧
      Supports orange 0 7 2 (.str "T") q.world := by
  obtain ⟨q, hrun, hdid⟩ := Pool.exists_run_of_schedule? system ((cache orange).Prompt 0)
    (fun _ => False) (start orange {} calls) [0, 0, 0, 0, 0, 1, 2, 2]
    (fun q => q.world.didKindAt 7 2 presentsT = true)
    (by decide +kernel)
  obtain ⟨c, hc, hpresents⟩ := World.exists_didAt hdid
  have htoken := presents_of_presentsT hpresents
  exact ⟨q, ⟨c, hc, htoken⟩, tokens_in_time orange 0 _ {} calls hrun hc htoken⟩

end Payments.OAuth

end Telima
