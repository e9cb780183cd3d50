import Telima.Async.Caching
import Telima.Async.Relational
import Telima.Pricing.Cache

/-!
# How old the rows of a surge are

Whether or not a call puts old rows back into the cache (`old_rows_used`), no multiplier is computed with
zones or rules that the tables have not held for more than a minute and the time that passed between a
query and the filling of the cache (`surge_recent`).
-/

namespace Telima.Pricing.Cache.Staleness

/-- The two parts of the cache. -/
inductive Part where
  | zones | rules
  deriving DecidableEq

/-- What a part holds. -/
abbrev PartRows : Type := List ZoneEntry ⊕ List RuleEntry

def partOf (data : SurgeData) : Part → PartRows
  | .zones => .inl data.zones
  | .rules => .inr data.rules

/-- The cache of the service, as one of zones and one of rules. -/
def surgeCache {ρ : Type} (S : System Store Cmd Error ρ) (hexec : S.exec = Cmd.exec) :
    TtlCache S Part PartRows where
  now := Store.now
  entry s part := s.cache.map fun entry => (partOf entry.1 part, (entry.2 : ℤ) + cacheTtlMs)
  answer c s part :=
    match c, part with
    | .findZones, .zones => some (.inl s.rows.activeZones, (cacheTtlMs : ℤ))
    | .findRules, .rules => some (.inr (loadedRules s.rows), (cacheTtlMs : ℤ))
    | _, _ => none
  fill c s part :=
    match c with
    | .fill data => some (partOf data part, (s.now : ℤ) + cacheTtlMs)
    | _ => none
  entry_exec := by
    intro c s part kept hentry
    rw [hexec] at hentry
    cases c with
    | fill data => exact Or.inl hentry
    | invalidate => cases hentry
    | _ => exact Or.inr hentry

/-! ### The calls -/

/-- The server again, whose calls of `getSurgeMultiplier` return the multiplier. -/
def quoteSystem : System Store Cmd Error (Option ℚ) where
  exec := Cmd.exec
  handlers _ := []

def quote (isWithinRadius : ℚ → ℚ → ZoneEntry → Bool) : Call → Async Store Cmd Error (Option ℚ)
  | .getSurgeMultiplier zonesFirst context => do
    let multiplier ← Cache.getSurgeMultiplier isWithinRadius zonesFirst context
    pure (some multiplier)
  | .mutation m => (Cache.mutation m).as none
  | .wait ms => (Async.perform (.tick ms)).as none

/-- The calls come in on tables with the rows, with an empty cache. -/
def startQuotes (isWithinRadius : ℚ → ℚ → ZoneEntry → Bool) (rows : Rows) (calls : List Call) :
    Pool Store Cmd Error (Option ℚ) :=
  Pool.init { rows := rows } (calls.map (quote isWithinRadius))

abbrev quotes : TtlCache quoteSystem Part PartRows := surgeCache quoteSystem rfl

/-- The multiplier is that of zones and of rules that the tables held at moments after the call has come
in, or less than `lag` and a minute before. -/
def Recent (isWithinRadius : ℚ → ℚ → ZoneEntry → Bool) (lag i : ℕ) (context : PricingContext)
    (multiplier : ℚ) (w : CacheWorld) : Prop :=
  ∃ l m m', w.DidAt l i .start ∧ m < w.moment ∧ m' < w.moment ∧
    Pricing.getSurgeMultiplier isWithinRadius
      ⟨(w.storeAt m).rows.activeZones, loadedRules (w.storeAt m').rows⟩ context = .ok multiplier ∧
    (l < m ∨ (w.storeAt l).now < (w.storeAt m).now + cacheTtlMs + lag) ∧
    (l < m' ∨ (w.storeAt l).now < (w.storeAt m').now + cacheTtlMs + lag)

section Proof

variable {lag i : ℕ} {fault : Error → Prop} {w : CacheWorld} {zonesFirst : Bool}
  {isWithinRadius : ℚ → ℚ → ZoneEntry → Bool} {context : PricingContext}

/-- The two queries, and their answers. -/
def loadRows (zonesFirst : Bool) : Async Store Cmd Error SurgeData :=
  (queryRows zonesFirst).bind fun data => (Async.perform .answer).bind fun _ => pure data

theorem loadData_eq_cached :
    loadData zonesFirst = Async.cached .start Store.cached (loadRows zonesFirst) .fill := by
  unfold loadData Async.cached
  congr 1
  funext cached
  cases cached with
  | some data => rfl
  | none =>
    show (queryRows zonesFirst).bind _ = ((queryRows zonesFirst).bind _).bind _
    rw [Async.bind_assoc]
    rfl

/-- What one of the two queries answers, before a program that goes on with it. -/
theorem wp_ask {α β : Type} {l : ℕ} {c : Cmd} {f : Store → β} {k : Part} {r : β → PartRows}
    {g : β → Async Store Cmd Error α} {B : CacheWorld → Prop}
    {Q : Except Error α → CacheWorld → Prop}
    (hanswer : ∀ s, quotes.answer c s k = some (r (f s), (cacheTtlMs : ℤ)))
    (hc : ∀ s part, quotes.fill c s part = none) (hl : l < w.moment)
    (hB : (quotes.protocol lag fault).Stable i B) (hw : B w)
    (hkeep : ∀ v n, B v → B (v.step quoteSystem i c n))
    (hnext : ∀ b v, l < v.moment → quotes.Loaded i l k (r b) cacheTtlMs v → B v →
      (quotes.protocol lag fault).wp i (g b) Q v)
    (herr : ∀ e v, Q (.error e) v) :
    (quotes.protocol lag fault).wp i ((Async.query c f).bind g) Q w := by
  have hstable := (Protocol.historic_lt_moment.stable (P := quotes.protocol lag fault) (i := i)
    (A := fun v => l < v.moment)).and hB
  refine Protocol.wp_query_bind hstable ⟨hl, hw⟩ (fun v hv _ _ => ?_) fun e v _ _ _ => herr e v
  refine ⟨TtlCache.keepsAnswer_of_not_fill (hc _), fun n _ _ => ?_⟩
  exact hnext (f v.store) _ (hv.1.trans World.moment_lt_step)
    (TtlCache.loaded_step hv.1 (hanswer v.store)) (hkeep v n hv.2)

/-- Both parts of the data were loaded since moment `l`. -/
def LoadedBoth (i l : ℕ) (r : Except Error SurgeData) (w : CacheWorld) : Prop :=
  ∀ data, r = .ok data → ∀ part, True → quotes.Loaded i l part (partOf data part) cacheTtlMs w

theorem loadedBoth_error {l : ℕ} (e : Error) : LoadedBoth i l (.error e) w := by
  intro data hdata
  cases hdata

/-- In either order, the two queries load the two parts. -/
theorem wp_loadRows {l : ℕ} (hl : l < w.moment) :
    (quotes.protocol lag fault).wp i (loadRows zonesFirst) (LoadedBoth i l) w := by
  have htrue : (quotes.protocol lag fault).Stable i fun _ => True := Protocol.stable_const i True
  have hanswered : ∀ (zones : List ZoneEntry) (rules : List RuleEntry) (v : CacheWorld),
      quotes.Loaded i l .zones (.inl zones) cacheTtlMs v →
      quotes.Loaded i l .rules (.inr rules) cacheTtlMs v →
      (quotes.protocol lag fault).wp i ((Async.perform .answer).bind fun _ =>
        (pure ⟨zones, rules⟩ : Async Store Cmd Error SurgeData)) (LoadedBoth i l) v := by
    intro zones rules v hzones hrules
    refine Protocol.wp_query_bind (TtlCache.stable_loaded.and TtlCache.stable_loaded)
      ⟨hzones, hrules⟩ (fun u hu _ _ => ⟨TtlCache.keepsAnswer_of_not_fill fun _ => rfl, fun n _ _ => ?_⟩)
      fun e u _ _ _ => loadedBoth_error e
    rintro data hdata part -
    obtain rfl := Except.ok.inj hdata
    cases part with
    | zones => exact hu.1.step rfl
    | rules => exact hu.2.step rfl
  unfold loadRows queryRows
  cases zonesFirst with
  | true =>
    rw [if_pos rfl, Async.bind_eq, Async.bind_assoc]
    refine wp_ask (k := .zones) (r := .inl) (fun _ => rfl) (fun _ _ => rfl) hl htrue trivial
      (fun _ _ _ => trivial) (fun zones v hlv hzones _ => ?_)
      fun e v => loadedBoth_error e
    rw [Async.bind_eq, Async.bind_assoc]
    exact wp_ask (k := .rules) (r := .inr) (fun _ => rfl) (fun _ _ => rfl) hlv
      TtlCache.stable_loaded hzones (fun u n hu => hu.step rfl)
      (fun rules u _ hrules hzones => hanswered zones rules u hzones hrules)
      fun e v => loadedBoth_error e
  | false =>
    rw [if_neg Bool.false_ne_true, Async.bind_eq, Async.bind_assoc]
    refine wp_ask (k := .rules) (r := .inr) (fun _ => rfl) (fun _ _ => rfl) hl htrue trivial
      (fun _ _ _ => trivial) (fun rules v hlv hrules _ => ?_)
      fun e v => loadedBoth_error e
    rw [Async.bind_eq, Async.bind_assoc]
    exact wp_ask (k := .zones) (r := .inl) (fun _ => rfl) (fun _ _ => rfl) hlv
      TtlCache.stable_loaded hrules (fun u n hu => hu.step rfl)
      (fun zones u _ hzones hrules => hanswered zones rules u hzones hrules)
      fun e v => loadedBoth_error e

theorem wp_loadData :
    (quotes.protocol lag fault).wp i (loadData zonesFirst)
      (quotes.Returned lag i .start (fun _ => True) partOf) w := by
  rw [loadData_eq_cached]
  refine TtlCache.wp_cached (d := fun _ _ => (cacheTtlMs : ℤ)) (fun _ _ => rfl) ?_
    (fun l v hl => wp_loadRows hl) ?_ (fun _ _ _ => rfl) w
  · rintro s data hcached part -
    obtain ⟨⟨data', loadedAt⟩, hcache, hlive⟩ := Option.bind_eq_some_iff.mp hcached
    split_ifs at hlive with hnow
    obtain rfl := Option.some.inj hlive
    refine ⟨(loadedAt : ℤ) + cacheTtlMs, ?_, by exact_mod_cast hnow⟩
    show s.cache.map _ = _
    rw [hcache, Option.map_some]
  · intro data s part rows deadline hfill
    obtain ⟨rfl, rfl⟩ := Prod.mk.inj (Option.some.inj hfill)
    exact ⟨trivial, rfl, le_rfl⟩

/-- What a part is answered. -/
theorem rows_of_answer {c : Cmd} {s : Store} {data : SurgeData} {life : ℤ} :
    (quotes.answer c s .zones = some (partOf data .zones, life) →
      data.zones = s.rows.activeZones) ∧
    (quotes.answer c s .rules = some (partOf data .rules, life) →
      data.rules = loadedRules s.rows) := by
  refine ⟨fun h => ?_, fun h => ?_⟩
  · cases c <;> try cases h
    obtain ⟨hzones, -⟩ := Prod.mk.inj (Option.some.inj h)
    exact (Sum.inl.inj hzones).symm
  · cases c <;> try cases h
    obtain ⟨hrules, -⟩ := Prod.mk.inj (Option.some.inj h)
    exact (Sum.inr.inj hrules).symm

theorem life_of_answer {c : Cmd} {s : Store} {part : Part} {rows : PartRows} {life : ℤ}
    (h : quotes.answer c s part = some (rows, life)) : life = cacheTtlMs := by
  cases c <;> cases part <;> try cases h
  · rfl
  · rfl

/-- What holds when a thread has ended. -/
def Quoted (isWithinRadius : ℚ → ℚ → ZoneEntry → Bool) (lag : ℕ) (calls : List Call) (i : ℕ)
    (r : Except Error (Option ℚ)) (w : CacheWorld) : Prop :=
  ∀ zonesFirst context multiplier, calls[i]? = some (.getSurgeMultiplier zonesFirst context) →
    r = .ok (some multiplier) → Recent isWithinRadius lag i context multiplier w

theorem historic_quoted {calls : List Call} {r : Except Error (Option ℚ)} :
    Protocol.Historic (Quoted isWithinRadius lag calls i r) := by
  intro w w' hsuffix hw zonesFirst context multiplier hcall hr
  obtain ⟨l, m, m', hl, hm, hm', hquote, hold, hold'⟩ := hw zonesFirst context multiplier hcall hr
  have hlook := World.storeAt_of_suffix hsuffix hl.lt
  have hzones := World.storeAt_of_suffix hsuffix hm
  have hrules := World.storeAt_of_suffix hsuffix hm'
  refine ⟨l, m, m', hl.of_suffix hsuffix, hm.trans_le hsuffix.length_le,
    hm'.trans_le hsuffix.length_le, ?_, ?_, ?_⟩
  · rwa [hzones, hrules]
  · rwa [hzones, hlook]
  · rwa [hrules, hlook]

theorem wp_quote {calls : List Call} {call : Call} (hcall : calls[i]? = some call) :
    (quotes.protocol lag fault).wp i (quote isWithinRadius call)
      (Quoted isWithinRadius lag calls i) w := by
  have htrue : (quotes.protocol lag fault).Stable i fun _ => True := Protocol.stable_const i True
  cases call with
  | getSurgeMultiplier zonesFirst context =>
    show (quotes.protocol lag fault).wp i
      (((loadData zonesFirst).bind fun data => (Async.emit (.use data)).bind fun _ =>
        Async.done (Pricing.getSurgeMultiplier isWithinRadius data context)).bind fun multiplier =>
          pure (some multiplier)) _ w
    rw [Async.bind_assoc]
    refine Protocol.wp_bind (Protocol.wp_mono ?_ wp_loadData)
    rintro (e | data) v hv
    · intro _ _ _ _ hr
      cases hr
    refine Protocol.wp_read_bind (TtlCache.historic_returned _).stable hv fun u hu _ _ =>
      ⟨TtlCache.keepsAnswer_of_not_fill fun _ => rfl, fun n _ _ => ?_⟩
    have hreturned := TtlCache.historic_returned _ (World.trace_step_suffix (S := quoteSystem) (i := i)
      (c := .use data) (n := n)) hu
    cases hresult : Pricing.getSurgeMultiplier isWithinRadius data context with
    | error e =>
      intro _ _ _ _ hr
      cases hr
    | ok multiplier =>
      intro zonesFirst' context' multiplier' hcall' hr
      obtain ⟨-, rfl⟩ := Call.getSurgeMultiplier.inj (Option.some.inj (hcall.symm.trans hcall'))
      obtain rfl := Option.some.inj (Except.ok.inj hr)
      obtain ⟨l, hl, hserved⟩ := hreturned data rfl
      obtain ⟨m, hm, hold⟩ := (hserved .zones trivial).exists_answeredAt (t := cacheTtlMs)
        fun _ _ _ _ hanswer => life_of_answer hanswer
      obtain ⟨m', hm', hold'⟩ := (hserved .rules trivial).exists_answeredAt (t := cacheTtlMs)
        fun _ _ _ _ hanswer => life_of_answer hanswer
      obtain ⟨j, c, -, hzones⟩ := id hm
      obtain ⟨j', c', -, hrules⟩ := id hm'
      refine ⟨l, m, m', hl, hm.lt, hm'.lt, ?_, hold, hold'⟩
      rw [← rows_of_answer.1 hzones, ← rows_of_answer.2 hrules]
      exact hresult
  | mutation m =>
    have hkeeps : (quotes.protocol lag fault).wp i ((mutation m).as none)
        (fun (_ : Except Error (Option ℚ)) _ => True) w := by
      refine Protocol.wp_as (Protocol.wp_queryE_bind htrue trivial (fun v _ _ _ =>
        ⟨TtlCache.keepsAnswer_of_not_fill fun _ => rfl, fun n _ _ => ?_⟩) fun _ _ _ _ _ => trivial)
      cases hresult : (if m.accepted v.store.rows then .ok () else .error .recordNotFound :
          Except Error Unit) with
      | error e => trivial
      | ok a =>
        refine Protocol.wp_query_bind htrue trivial (fun _ _ _ _ =>
          ⟨TtlCache.keepsAnswer_of_not_fill fun _ => rfl, fun _ _ _ => ?_⟩) fun _ _ _ _ _ => trivial
        exact Protocol.wp_read_bind (g := fun r => Async.done (.ok r)) htrue trivial fun _ _ _ _ =>
          ⟨TtlCache.keepsAnswer_of_not_fill fun _ => rfl, fun _ _ _ => trivial⟩
    refine Protocol.wp_mono (fun r v _ => ?_) hkeeps
    intro _ _ _ hcall'
    cases hcall.symm.trans hcall'
  | wait ms =>
    refine Protocol.wp_query_bind htrue trivial (fun _ _ _ _ =>
      ⟨TtlCache.keepsAnswer_of_not_fill fun _ => rfl, fun _ _ _ => ?_⟩) fun _ _ _ _ _ => ?_
    · intro _ _ _ hcall'
      cases hcall.symm.trans hcall'
    · intro _ _ _ hcall'
      cases hcall.symm.trans hcall'

end Proof

/-- Whatever calls and mutations come in: if the cache is filled at most `lag` after each of the two
queries was answered, then every multiplier that is returned is that of zones and rules that were active
after the call came in, or less than a minute and `lag` before. -/
theorem surge_recent (isWithinRadius : ℚ → ℚ → ZoneEntry → Bool) (lag : ℕ) (fault : Error → Prop)
    (rows : Rows) (calls : List Call) {p : Pool Store Cmd Error (Option ℚ)}
    (hrun : Pool.Run quoteSystem (quotes.Prompt lag) fault (startQuotes isWithinRadius rows calls) p)
    {i : ℕ} {zonesFirst : Bool} {context : PricingContext} {multiplier : ℚ}
    (hcall : calls[i]? = some (.getSurgeMultiplier zonesFirst context))
    (hi : p.results[i]? = some (some (.ok (some multiplier)))) :
    Recent isWithinRadius lag i context multiplier p.world := by
  have hstart : (quotes.protocol lag fault).Safe (Quoted isWithinRadius lag calls)
      (startQuotes isWithinRadius rows calls) := by
    refine Protocol.safe_init (fun _ _ _ hentry => by cases hentry) fun i t ht => ?_
    rw [List.getElem?_map] at ht
    obtain ⟨call, hcall, rfl⟩ := Option.map_eq_some_iff.mp ht
    exact wp_quote hcall
  have hsafe := hstart.run (fun i r => historic_quoted.stable) (fun _ _ _ hk => by cases hk) hrun
  exact hsafe.threads (Pool.thread_of_results hi) zonesFirst context multiplier hcall rfl

/-! ### A run -/

instance decidablePrompt (lag i : ℕ) (w : CacheWorld) (c : Cmd) :
    Decidable (quotes.Prompt lag i w c) :=
  TtlCache.decidablePrompt [.zones, .rules] fun part _ _ => by cases part <;> simp

namespace Rush

open Town

/-- The pickup of the request is the centre of the zone. -/
def atCentre (lat lng : ℚ) (zone : ZoneEntry) : Bool :=
  decide (zone.centerLat = lat) && decide (zone.centerLng = lng)

/-- While the surge is asked for the first time, the zone's is doubled. -/
def calls : List Call :=
  [.getSurgeMultiplier true request, .mutation (.updateZone "plateau" { surgeMultiplier := some 3 }),
    .wait 1000, .getSurgeMultiplier true request]

end Rush

open Rush Town in
/-- The last call is given the surge the zone had a second before. -/
theorem surge_recent_rush : ∃ q : Pool Store Cmd Error (Option ℚ),
    q.results[3]? = some (some (.ok (some (3 / 2)))) ∧
      Recent atCentre 0 3 request (3 / 2) q.world := by
  obtain ⟨q, hrun, hresult⟩ := Pool.exists_run_of_schedule? quoteSystem (quotes.Prompt 0)
    (fun _ => False) (startQuotes atCentre { zones := [plateau] } calls)
    [0, 0, 0, 1, 1, 1, 0, 0, 0, 2, 3, 3]
    (fun q => q.results[3]? = some (some (.ok (some (3 / 2))))) (by decide +kernel)
  exact ⟨q, hresult, surge_recent atCentre 0 _ { zones := [plateau] } calls hrun (i := 3) rfl hresult⟩

end Telima.Pricing.Cache.Staleness
