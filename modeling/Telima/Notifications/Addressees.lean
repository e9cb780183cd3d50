import Telima.Async.Started
import Telima.Notifications.Pushes

/-!
# Every event is told once, to the one it concerns

A handler of `NotificationHandler` looks up whom its event concerns (`Event.addressee?`), then his devices,
and pushes the notice of the event to them, while trips get other drivers and devices other owners.

`pushes_accounted`: every push is the notice of one event that was emitted before, to all devices its
addressee had; no event is told twice; and where nothing fails, every event is told, unless there was
nobody to tell, or he had no device.
-/

namespace Telima.Notifications.Pushes

variable {ρ : Type} {env : Env} {push : PushEnv} {reply : ρ}

/-! ### What a handler does -/

/-- `sendToUser`, if there is somebody to tell. -/
def sendToTarget (push : PushEnv) (notice : Notice) (target : Option ℕ) : Prog Unit :=
  target.elim (pure ()) fun userId => NotificationHandler.sendToUser push userId notice

/-- The handlers of `Notifications.Service` send as the others do. -/
theorem embed_sendToUser (userId : ℕ) (notification : Notification) :
    (Notifications.NotificationHandler.sendToUser push.forChat userId notification).embed id
      Cmd.ofNotification = NotificationHandler.sendToUser push userId notification.notice := by
  unfold Notifications.NotificationHandler.sendToUser NotificationHandler.sendToUser
  rw [Async.embed_tryCatch, Async.bind_eq, Async.embed_query_bind, Async.bind_eq]
  refine congrArg₂ Async.tryCatch (congrArg (Async.bind _) (funext fun tokens => ?_)) rfl
  split_ifs
  · rfl
  · show Async.await _ _ _ = Async.await _ _ _
    simp only [Cmd.ofNotification, Cmd.ofChat, PushEnv.forChat, List.map_map]
    rfl

theorem embed_sendToTarget (target : Option ℕ) (notification : Notification) :
    (Notifications.NotificationHandler.sendToTarget push.forChat target notification).embed id
      Cmd.ofNotification = sendToTarget push notification.notice target := by
  cases target with
  | none => rfl
  | some userId => exact embed_sendToUser userId notification

/-- A handler knows whom to tell, or looks it up first. -/
def Tells (push : PushEnv) (event : Event) (notice : Notice) (handler : Prog Unit) : Prop :=
  (∃ userId, (∀ s, event.addressee? s = some userId) ∧
    handler = NotificationHandler.sendToUser push userId notice) ∨
  ∃ c : Cmd, c.pushes? = none ∧
    handler = (Async.query c event.addressee?).bind (sendToTarget push notice)

theorem tells_sendToDriver {event : Event} {driverId : ℕ} (notice : Notice)
    (hevent : event.addressee? = fun s => (s.core.drivers.find? driverId).map Driver.userId) :
    Tells push event notice (NotificationHandler.sendToDriver push driverId notice) := by
  refine Or.inr ⟨.findDriverUser driverId, rfl, ?_⟩
  rw [hevent]
  refine congrArg (Async.bind _) (funext fun target => ?_)
  cases target <;> rfl

theorem tells_findParties {event : Event} {notice : Notice} {tripId : ℕ}
    {target : Parties → Option ℕ} {notification : Notification}
    {handler : Option Parties → Notifications.Prog Unit} (hnone : handler none = pure ())
    (hsome : ∀ trip, handler (some trip) =
      Notifications.NotificationHandler.sendToTarget push.forChat (target trip) notification)
    (hnotice : notice = notification.notice)
    (hevent : event.addressee? = fun s => (s.parties tripId).bind target) :
    Tells push event notice (((findParties tripId).bind handler).embed id Cmd.ofNotification) := by
  refine Or.inr ⟨.ofNotification (.findParties tripId), rfl, ?_⟩
  rw [findParties, Async.embed_query_bind, hevent, hnotice]
  refine congrArg₂ (Async.await _) (funext fun s => ?_) rfl
  show (handler (s.parties tripId)).embed id Cmd.ofNotification =
    sendToTarget push notification.notice ((s.parties tripId).bind target)
  cases s.parties tripId with
  | none =>
    rw [hnone]
    rfl
  | some trip => rw [hsome, embed_sendToTarget, Option.bind_some]

theorem handle_tells {event : Event} {handler : Prog Unit}
    (h : NotificationHandler.handle push event = some handler) :
    ∃ notice, event.notice? push = some notice ∧ Tells push event notice handler := by
  cases event with
  | chatMessageSent event =>
    refine ⟨_, rfl, ?_⟩
    rw [← Option.some.inj h, NotificationHandler.handleChatMessageSent,
      Notifications.NotificationHandler.handleChatMessageSent]
    exact tells_findParties rfl (fun _ => rfl) rfl rfl
  | domain event =>
    cases event with
    | driverNotified | commissionPaid =>
      rw [← Option.some.inj h]
      exact ⟨_, rfl, tells_sendToDriver _ rfl⟩
    | tripAccepted | tripArrived | tripStarted | tripCompleted =>
      rw [← Option.some.inj h]
      exact ⟨_, rfl, Or.inl ⟨_, fun _ => rfl, rfl⟩⟩
    | tripCancelled tripId cancelledBy reason =>
      refine ⟨_, rfl, ?_⟩
      rw [← Option.some.inj h, NotificationHandler.handleTripCancelled,
        Notifications.NotificationHandler.handleTripCancelled]
      exact tells_findParties rfl (fun _ => rfl) rfl rfl
    | _ => cases h

theorem exists_handle {event : Event} {notice : Notice} (h : event.notice? push = some notice) :
    ∃ handler, NotificationHandler.handle push event = some handler := by
  cases event with
  | chatMessageSent event => exact ⟨_, rfl⟩
  | domain event =>
    cases event with
    | driverNotified | commissionPaid | tripAccepted | tripArrived | tripStarted | tripCompleted
    | tripCancelled => exact ⟨_, rfl⟩
    | _ => cases h

/-! ### What was so in the past -/

abbrev PushWorld := World Store Cmd

/-- At moment `m₁` the event concerned the user. -/
def ConcernedAt (w : PushWorld) (k m₁ : ℕ) (event : Event) (userId : Option ℕ) : Prop :=
  k ≤ m₁ ∧ m₁ < w.moment ∧ event.addressee? (w.storeAt m₁) = userId

/-- Between `k` and `m`, somebody was the addressee of the event, and then had these devices. -/
def Found (w : PushWorld) (k m : ℕ) (event : Event) (rows : List DeviceToken) : Prop :=
  ∃ userId m₁ m₂, ConcernedAt w k m₁ event (some userId) ∧ m₁ < m₂ ∧ m₂ < m ∧ m₂ < w.moment ∧
    devices userId (w.storeAt m₂) = rows

/-- Thread `i` has pushed. -/
def HasPushed (w : PushWorld) (i : ℕ) : Prop := w.Did i fun c => ∃ pushes, c = .sendMulticast pushes

/-- Thread `i` tells of the event that the command `c` emitted at moment `k`. -/
def Notifies (env : Env) (reply : ρ) (w : PushWorld) (k i : ℕ) (c : Cmd) : Prop :=
  w.StartedAt k i c (coreHandlers env reply c).length

/-- Thread `i` pushes the notice of the event emitted at moment `k`, to all devices of the addressee. -/
def CausedAt (env : Env) (push : PushEnv) (reply : ρ) (k m i : ℕ) (pushes : List Push)
    (w : PushWorld) : Prop :=
  ∃ c event notice rows, Notifies env reply w k i c ∧ c.event? = some event ∧
    event.notice? push = some notice ∧ Found w k m event rows ∧ rows ≠ [] ∧
    pushes = rows.map fun row => notice.push row.token

/-- The event emitted at moment `k` was pushed by thread `i`, or there was nobody to tell, or he had no
device. -/
def Settled (w : PushWorld) (k i : ℕ) (event : Event) : Prop :=
  (∃ m pushes, w.DidAt m i (.sendMulticast pushes)) ∨ (∃ m₁, ConcernedAt w k m₁ event none) ∨
    Found w k w.moment event []

section Past

variable {w w' : PushWorld} {k m m₁ i : ℕ} {c : Cmd} {event : Event} {rows : List DeviceToken}
  {userId : Option ℕ}

theorem ConcernedAt.of_suffix (h : ConcernedAt w k m₁ event userId)
    (hsuffix : w.trace <:+ w'.trace) : ConcernedAt w' k m₁ event userId := by
  obtain ⟨hk, hlt, huser⟩ := h
  exact ⟨hk, hlt.trans_le hsuffix.length_le, by rwa [World.storeAt_of_suffix hsuffix hlt]⟩

theorem Found.of_suffix (h : Found w k m event rows) (hsuffix : w.trace <:+ w'.trace) :
    Found w' k m event rows := by
  obtain ⟨userId, m₁, m₂, huser, hlt, hm, hm₂, hrows⟩ := h
  refine ⟨userId, m₁, m₂, huser.of_suffix hsuffix, hlt, hm, hm₂.trans_le hsuffix.length_le, ?_⟩
  rwa [World.storeAt_of_suffix hsuffix hm₂]

theorem Found.mono {m' : ℕ} (h : Found w k m event rows) (hm : m ≤ m') :
    Found w k m' event rows := by
  obtain ⟨userId, m₁, m₂, huser, hlt, hm₂, hrest⟩ := h
  exact ⟨userId, m₁, m₂, huser, hlt, hm₂.trans_le hm, hrest⟩

theorem historic_found : Protocol.Historic fun w => Found w k w.moment event rows :=
  fun _ _ hsuffix h => (h.of_suffix hsuffix).mono hsuffix.length_le

theorem historic_causedAt {pushes : List Push} :
    Protocol.Historic (CausedAt env push reply k m i pushes) := by
  rintro w w' hsuffix ⟨c, event, notice, rows, hstarted, hevent, hnotice, hfound, hrest⟩
  exact ⟨c, event, notice, rows, hstarted.of_suffix hsuffix, hevent, hnotice,
    hfound.of_suffix hsuffix, hrest⟩

theorem historic_settled : Protocol.Historic fun w => Settled w k i event := by
  rintro w w' hsuffix (⟨m, pushes, hdid⟩ | ⟨m₁, hnobody⟩ | hfound)
  · exact Or.inl ⟨m, pushes, hdid.of_suffix hsuffix⟩
  · exact Or.inr (Or.inl ⟨m₁, hnobody.of_suffix hsuffix⟩)
  · exact Or.inr (Or.inr (historic_found hsuffix hfound))

end Past

/-! ### The protocol of the threads -/

section Protocol

variable {cond : ℕ → PushWorld → Cmd → Prop} {fault : Error → Prop} {w : PushWorld}
  {i j k m n : ℕ} {c d : Cmd} {event : Event} {notice : Notice}

/-- Every push has a cause, and no thread pushes twice. -/
structure Orderly (env : Env) (push : PushEnv) (reply : ρ) (w : PushWorld) : Prop where
  caused : ∀ m i c, w.DidAt m i c → ∀ pushes, c = .sendMulticast pushes →
    ∃ k, CausedAt env push reply k m i pushes w
  once : ∀ m m' i pushes pushes', w.DidAt m i (.sendMulticast pushes) →
    w.DidAt m' i (.sendMulticast pushes') → m = m'

theorem Orderly.step (h : Orderly env push reply w)
    (hc : ∀ pushes, c = .sendMulticast pushes →
      (∃ k, CausedAt env push reply k w.moment i pushes w) ∧ ¬ HasPushed w i) :
    Orderly env push reply (w.step (system env push reply) i c n) := by
  refine ⟨Protocol.grounds_step (R := fun m i c w => ∀ pushes, c = .sendMulticast pushes →
    ∃ k, CausedAt env push reply k m i pushes w) ?_ h.caused fun pushes hpushes =>
    (hc pushes hpushes).1, ?_⟩
  · intro m i c v v' hsuffix hd pushes hpushes
    obtain ⟨k, hk⟩ := hd pushes hpushes
    exact ⟨k, historic_causedAt hsuffix hk⟩
  intro m m' j pushes pushes' hdid hdid'
  have hpast : ∀ {m pushes}, w.DidAt m j (.sendMulticast pushes) → HasPushed w j :=
    fun hd => hd.did ⟨_, rfl⟩
  rcases hdid.of_step with hold | ⟨rfl, rfl, rfl⟩
  · rcases hdid'.of_step with hold' | ⟨rfl, rfl, rfl⟩
    · exact h.once m m' j pushes pushes' hold hold'
    · exact absurd (hpast hold) (hc _ rfl).2
  · rcases hdid'.of_step with hold' | ⟨rfl, -, -⟩
    · exact absurd (hpast hold') (hc _ rfl).2
    · rfl

variable (env push reply cond fault) in
/-- Every thread has a cause for what it pushes, and pushes at most once. -/
def protocol : Protocol (system env push reply) where
  cond := cond
  fault := fault
  inv := Orderly env push reply
  guar i w c := ∀ pushes, c = .sendMulticast pushes →
    (∃ k, CausedAt env push reply k w.moment i pushes w) ∧ ¬ HasPushed w i
  inv_step hinv _ hc _ _ := hinv.step hc

theorem eq_sendMulticast {pushes : List Push} (hc : c.pushes? = some pushes) :
    c = .sendMulticast pushes := by
  cases c with
  | sendMulticast sent => rw [Option.some.inj hc]
  | _ => cases hc

theorem not_sendMulticast {pushes : List Push} (hc : c.pushes? = none) :
    c ≠ .sendMulticast pushes := by
  rintro rfl
  cases hc

theorem keeps_of_only {α : Type} {p : Prog α} (hp : p.Only fun c => c.pushes? = none) :
    (protocol env push reply cond fault).Keeps i p := by
  have hframe : (protocol env push reply cond fault).Frame i (fun c => c.pushes? = none)
      fun _ => True :=
    ⟨Protocol.stable_const i True, fun hc _ _ _ =>
      ⟨fun _ hpushes => absurd hpushes (not_sendMulticast hc), fun _ _ _ => trivial⟩⟩
  exact hframe.keeps hp

/-! ### The thread of a handler -/

/-- Thread `i` tells of the event of `c`, and has not pushed yet. -/
def Ready (env : Env) (reply : ρ) (k i : ℕ) (c : Cmd) (w : PushWorld) : Prop :=
  Notifies env reply w k i c ∧ ¬ HasPushed w i

theorem stable_ready : (protocol env push reply cond fault).Stable i (Ready env reply k i c) :=
  World.historic_startedAt.stable.and (Protocol.stable_not_did i _)

theorem Ready.step (h : Ready env reply k i c w) (hd : d.pushes? = none) :
    Ready env reply k i c (w.step (system env push reply) i d n) := by
  refine ⟨h.1.of_suffix World.trace_step_suffix, fun hpushed => h.2 ?_⟩
  refine (World.did_step_of_not ?_).mp hpushed
  rintro ⟨pushes, hpushes⟩
  exact not_sendMulticast hd hpushes

/-- What a handler comes to, unless a command of its fails. -/
def Ends (fault : Error → Prop) (k i : ℕ) (event : Event) (w : PushWorld) : Prop :=
  Settled w k i event ∨ ∃ e, fault e

theorem wp_sendToUser {userId m₁ : ℕ} (hevent : c.event? = some event)
    (hnotice : event.notice? push = some notice)
    (hw : Ready env reply k i c w ∧ ConcernedAt w k m₁ event (some userId)) :
    (protocol env push reply cond fault).wp i (NotificationHandler.sendToUser push userId notice)
      (fun _ => Ends fault k i event) w := by
  have hstable : (protocol env push reply cond fault).Stable i fun w =>
      ConcernedAt w k m₁ event (some userId) :=
    Protocol.Historic.stable fun _ _ hsuffix h => h.of_suffix hsuffix
  unfold NotificationHandler.sendToUser
  rw [Async.bind_eq]
  refine Protocol.wp_tryCatch (Protocol.wp_query_bind (stable_ready.and hstable) hw
    (fun v hv _ _ => ⟨fun _ hpushes => absurd hpushes (not_sendMulticast rfl), fun n _ _ => ?_⟩)
    fun e _ he _ _ => Or.inr ⟨e, he⟩)
  -- the devices are the user's at this moment
  have hfound : Found (v.step (system env push reply) i (.ofNotification (.findDeviceTokens userId))
      n) k (v.step (system env push reply) i (.ofNotification (.findDeviceTokens userId)) n).moment
      event (devices userId v.store) :=
    ⟨userId, m₁, v.moment, hv.2.of_suffix World.trace_step_suffix, hv.2.2.1, World.moment_lt_step,
      World.moment_lt_step, by rw [World.didAt_step.2]⟩
  split_ifs with hnone
  · rw [hnone] at hfound
    exact Or.inl (Or.inr (Or.inr hfound))
  refine Protocol.wp_queryE (stable_ready.and historic_found.stable) ⟨hv.1.step rfl, hfound⟩
    (fun u hu _ _ => ⟨?_, fun n' _ _ => ?_⟩) fun e _ he _ _ => Or.inr ⟨e, he⟩
  · intro pushes hpushes
    obtain rfl := Cmd.sendMulticast.inj hpushes
    exact ⟨⟨k, c, event, notice, _, hu.1.1, hevent, hnotice, hu.2, hnone, rfl⟩, hu.1.2⟩
  · have hended : Ends fault k i event (u.step (system env push reply) i (.sendMulticast
        ((devices userId v.store).map fun row => notice.push row.token)) n') :=
      Or.inl (Or.inl ⟨u.moment, _, World.didAt_step.1⟩)
    generalize push.sendMulticast _ u.store = answer
    cases answer with
    | error e => exact hended
    | ok _ => exact hended

theorem wp_sendToTarget {userId : Option ℕ} {m₁ : ℕ} (hevent : c.event? = some event)
    (hnotice : event.notice? push = some notice) (hready : Ready env reply k i c w)
    (hw : ConcernedAt w k m₁ event userId) :
    (protocol env push reply cond fault).wp i (sendToTarget push notice userId)
      (fun _ => Ends fault k i event) w := by
  cases userId with
  | none => exact Or.inl (Or.inr (Or.inl ⟨m₁, hw⟩))
  | some userId => exact wp_sendToUser hevent hnotice ⟨hready, hw⟩

theorem wp_handler {handler : Prog Unit} (hevent : c.event? = some event)
    (hhandler : NotificationHandler.handle push event = some handler)
    (hw : Ready env reply k i c w) :
    (protocol env push reply cond fault).wp i handler (fun _ => Ends fault k i event) w := by
  obtain ⟨notice, hnotice, ⟨userId, huser, rfl⟩ | ⟨d, hd, rfl⟩⟩ := handle_tells hhandler
  · exact wp_sendToUser hevent hnotice ⟨hw, le_rfl, hw.1.lt, huser _⟩
  · have hstarted : (protocol env push reply cond fault).Stable i fun w => k < w.moment :=
      Protocol.historic_lt_moment.stable
    refine Protocol.wp_query_bind (stable_ready.and hstarted) ⟨hw, hw.1.lt⟩ (fun v hv _ _ =>
      ⟨fun _ hpushes => absurd hpushes (not_sendMulticast hd), fun n _ _ => ?_⟩)
      fun e _ he _ _ => Or.inr ⟨e, he⟩
    refine wp_sendToTarget hevent hnotice (hv.1.step hd) ⟨hv.2.le, World.moment_lt_step, ?_⟩
    rw [World.didAt_step.2]

/-! ### The run -/

/-- What holds when thread `i` has ended: it was a request, or it was started, and has told of its event
if it was started to. -/
def Post (env : Env) (reply : ρ) (fault : Error → Prop) (requests i : ℕ)
    (_ : Except Error (Reply ρ)) (w : PushWorld) : Prop :=
  i < requests ∨ ∃ k c d, w.StartedAt k i c d ∧ (d = (coreHandlers env reply c).length →
    ∀ event, c.event? = some event → Ends fault k i event w)

theorem historic_post {requests : ℕ} {r : Except Error (Reply ρ)} :
    Protocol.Historic (Post env reply fault requests i r) := by
  rintro w w' hsuffix (hrequest | ⟨k, c, d, hstarted, hends⟩)
  · exact Or.inl hrequest
  · refine Or.inr ⟨k, c, d, hstarted.of_suffix hsuffix, fun hd event hevent => ?_⟩
    rcases hends hd event hevent with hsettled | hfault
    · exact Or.inl (historic_settled hsuffix hsettled)
    · exact Or.inr hfault

/-- A thread that was started, and does not tell of an event. -/
theorem wp_started {requests e : ℕ} {p : Prog (Reply ρ)} (hp : p.Only fun c => c.pushes? = none)
    (hstarted : w.StartedAt k i c e) (he : e ≠ (coreHandlers env reply c).length) :
    (protocol env push reply cond fault).wp i p (Post env reply fault requests i) w := by
  refine Protocol.wp_mono ?_ (Protocol.wp_historic World.historic_startedAt (keeps_of_only hp w)
    hstarted)
  rintro r v ⟨-, hv⟩
  exact Or.inr ⟨k, c, e, hv, fun heq => absurd heq he⟩

/-- A thread that tells of an event. -/
theorem wp_notifier {requests : ℕ} {handler : Prog Unit} (hevent : c.event? = some event)
    (hhandler : NotificationHandler.handle push event = some handler)
    (hw : Ready env reply k i c w) : (protocol env push reply cond fault).wp i
      (handler.as .nothing) (Post env reply fault requests i) w := by
  refine Protocol.wp_bind (Protocol.wp_mono ?_ (Protocol.wp_historic World.historic_startedAt
    (wp_handler hevent hhandler hw) hw.1))
  have hpost : ∀ {r : Except Error (Reply ρ)} {v : PushWorld}, Ends fault k i event v →
      Notifies env reply v k i c → Post env reply fault requests i r v := by
    intro r v hends hstarted
    refine Or.inr ⟨k, c, _, hstarted, fun _ event' hevent' => ?_⟩
    obtain rfl : event = event' := Option.some.inj (hevent.symm.trans hevent')
    exact hends
  rintro (e | a) v ⟨hends, hstarted⟩
  · exact hpost hends hstarted
  · exact hpost hends hstarted

theorem only_coreThread (p : Telima.Prog ρ) : (coreThread p).Only fun c => c.pushes? = none := by
  refine Async.Only.bind (Async.only_embed (fun c => ?_) p) fun _ => trivial
  rfl

theorem handlersKeep {requests : ℕ} :
    (protocol env push reply cond fault).HandlersKeep (Post env reply fault requests) := by
  intro c e h hh j n w hinv _ hguar hj hfresh
  have hstarted : (w.step (system env push reply) j c n).StartedAt w.moment (n + e) c e :=
    World.startedAt_step (List.getElem?_eq_some_iff.mp hh).1
  have hthread : (coreHandlers env reply c ++ notifiers push c)[e]? = some h := hh
  rcases Nat.lt_or_ge e (coreHandlers env reply c).length with hlt | hge
  · rw [List.getElem?_append_left hlt] at hthread
    refine wp_started ?_ hstarted hlt.ne
    have hmem : h ∈ coreHandlers env reply c := List.mem_of_getElem? hthread
    unfold coreHandlers at hmem
    split at hmem
    · obtain ⟨p, -, rfl⟩ := List.mem_map.mp hmem
      exact only_coreThread p
    · cases hmem
  · rw [List.getElem?_append_right hge, notifiers, List.getElem?_map] at hthread
    obtain ⟨handler, hhandler, rfl⟩ := Option.map_eq_some_iff.mp hthread
    obtain ⟨hzero, hget⟩ := List.getElem?_eq_some_iff.mp hhandler
    obtain ⟨event, hevent, hhandle⟩ := Option.bind_eq_some_iff.mp
      (Option.mem_toList.mp (List.mem_of_getElem? hhandler))
    have heq : e = (coreHandlers env reply c).length := by
      have hone : (c.event?.bind (NotificationHandler.handle push)).toList.length ≤ 1 :=
        Option.length_toList_le
      omega
    subst heq
    refine wp_notifier hevent hhandle ⟨hstarted, ?_⟩
    rw [HasPushed, World.did_step_of_ne (by omega)]
    exact hfresh.not_did (Nat.le_add_right _ _) _

theorem safe_start (s : Store) (programs : List (Telima.Prog ρ)) (requests : List Request) :
    (protocol env push reply cond fault).Safe
      (Post env reply fault (programs.length + requests.length)) (start s programs requests) := by
  refine Protocol.safe_init ⟨?_, ?_⟩ fun i t ht => ?_
  · intro m i c hd
    exact absurd hd.lt (Nat.not_lt_zero m)
  · intro m m' i pushes pushes' hd
    exact absurd hd.lt (Nat.not_lt_zero m)
  · have hlt : i < programs.length + requests.length := by
      simpa using (List.getElem?_eq_some_iff.mp ht).1
    have honly : t.Only fun c => c.pushes? = none := by
      rcases List.mem_append.mp (List.mem_of_getElem? ht) with hcore | hrequest
      · obtain ⟨program, -, rfl⟩ := List.mem_map.mp hcore
        exact only_coreThread program
      · obtain ⟨request, -, rfl⟩ := List.mem_map.mp hrequest
        exact (quiet_request request).mono fun _ hc => hc.2
    exact Protocol.wp_mono (fun _ _ _ => Or.inl hlt) (keeps_of_only honly _)

theorem Orderly.exists_cause (h : Orderly env push reply w) : ∃ cause : ℕ → ℕ,
    ∀ m i pushes, w.DidAt m i (.sendMulticast pushes) →
      CausedAt env push reply (cause m) m i pushes w := by
  have hcause : ∀ m, ∃ k, ∀ i pushes, w.DidAt m i (.sendMulticast pushes) →
      CausedAt env push reply k m i pushes w := by
    intro m
    by_cases hpush : ∃ i pushes, w.DidAt m i (.sendMulticast pushes)
    · obtain ⟨i, pushes, hdid⟩ := hpush
      obtain ⟨k, hk⟩ := h.caused m i _ hdid pushes rfl
      refine ⟨k, fun i' pushes' hdid' => ?_⟩
      obtain ⟨rfl, hsame⟩ := hdid.unique hdid'
      obtain rfl := Cmd.sendMulticast.inj hsame
      exact hk
    · exact ⟨0, fun i pushes hdid => absurd ⟨i, pushes, hdid⟩ hpush⟩
  choose cause hcause using hcause
  exact ⟨cause, hcause⟩

/-- One thread tells of one event. -/
theorem notifies_unique {i' : ℕ} (h : Notifies env reply w k i c)
    (h' : Notifies env reply w k i' d) : i = i' := by
  obtain ⟨⟨j, hemitted⟩, -⟩ := id h
  obtain ⟨⟨j', hemitted'⟩, -⟩ := id h'
  obtain ⟨-, rfl⟩ := hemitted.unique hemitted'
  exact Pool.startedAt_unique h h'

/-- An event that has a notice starts a thread that tells of it. -/
theorem exists_notifies {s : Store} {ps : List (Prog (Reply ρ))} {p : Pool Store Cmd Error (Reply ρ)}
    (hrun : Pool.Run (system env push reply) cond fault (Pool.init s ps) p)
    (hemitted : p.world.DidAt k j c) (hevent : c.event? = some event)
    (hnotice : event.notice? push = some notice) :
    ∃ i < p.threads.length, Notifies env reply p.world k i c := by
  obtain ⟨handler, hhandler⟩ := exists_handle hnotice
  refine Pool.Run.exists_startedAt hrun hemitted ?_
  have hone : (notifiers push c : List (Prog (Reply ρ))).length = 1 := by
    rw [notifiers, hevent, Option.bind_some, hhandler]
    rfl
  show _ < (coreHandlers env reply c ++ notifiers push c).length
  rw [List.length_append]
  omega

end Protocol

/-- The command at moment `m` pushes the notice of the event that was emitted at moment `k`, to all
devices its addressee had in between. -/
def PushedFor (push : PushEnv) (w : PushWorld) (k m : ℕ) (pushes : List Push) : Prop :=
  ∃ j c event notice rows, w.DidAt k j c ∧ c.event? = some event ∧
    event.notice? push = some notice ∧ Found w k m event rows ∧ rows ≠ [] ∧
    pushes = rows.map fun row => notice.push row.token

/-- Every push is that of one event, which was emitted before, to all devices its addressee had; no event
is pushed twice; and when nothing has failed and all has ended, every event that has a notice was pushed,
unless it concerned nobody, or somebody without a device, when that was looked up. -/
theorem pushes_accounted (env : Env) (push : PushEnv) (reply : ρ)
    (cond : ℕ → PushWorld → Cmd → Prop) (fault : Error → Prop) (s : Store)
    (programs : List (Telima.Prog ρ)) (requests : List Request)
    {p : Pool Store Cmd Error (Reply ρ)}
    (hrun : Pool.Run (system env push reply) cond fault (start s programs requests) p) :
    ∃ cause : ℕ → ℕ,
      (∀ m i pushes, p.world.DidAt m i (.sendMulticast pushes) →
        PushedFor push p.world (cause m) m pushes) ∧
      (∀ m m' i i' pushes pushes', p.world.DidAt m i (.sendMulticast pushes) →
        p.world.DidAt m' i' (.sendMulticast pushes') → cause m = cause m' → m = m') ∧
      ((∀ e, ¬ fault e) → p.Finished → ∀ k j c event notice, p.world.DidAt k j c →
        c.event? = some event → event.notice? push = some notice →
        (∃ m i pushes, p.world.DidAt m i (.sendMulticast pushes) ∧ cause m = k) ∨
          (∃ m₁, ConcernedAt p.world k m₁ event none) ∨
          Found p.world k p.world.moment event []) := by
  have hsafe := (safe_start s programs requests).run (fun _ _ => historic_post.stable) handlersKeep
    hrun
  obtain ⟨cause, hcause⟩ := hsafe.inv.exists_cause
  refine ⟨cause, ?_, ?_, ?_⟩
  · intro m i pushes hdid
    obtain ⟨c, event, notice, rows, ⟨⟨j, hemitted⟩, -⟩, hrest⟩ := hcause m i pushes hdid
    exact ⟨j, c, event, notice, rows, hemitted, hrest⟩
  · intro m m' i i' pushes pushes' hdid hdid' hsame
    obtain ⟨c, -, -, -, hstarted, -⟩ := hcause m i pushes hdid
    obtain ⟨c', -, -, -, hstarted', -⟩ := hcause m' i' pushes' hdid'
    rw [← hsame] at hstarted'
    obtain rfl := notifies_unique hstarted hstarted'
    exact hsafe.inv.once m m' i pushes pushes' hdid hdid'
  · intro hfault hfinished k j c event notice hemitted hevent hnotice
    obtain ⟨i, hi, hstarted⟩ := exists_notifies hrun hemitted hevent hnotice
    obtain ⟨r, hrequest | ⟨k', c', d', hstarted', hends⟩⟩ := hsafe.post_of_finished hfinished hi
    · have hle := Pool.Run.le_of_startedAt hrun hstarted
      simp only [List.length_append, List.length_map] at hle
      omega
    · obtain ⟨rfl, rfl, rfl⟩ := Pool.Run.startedAt_inj hrun hstarted hstarted'
      obtain ⟨m, pushes, hdid⟩ | hsettled := (hends rfl event hevent).resolve_right
        fun ⟨e, he⟩ => hfault e he
      · refine Or.inl ⟨m, i, pushes, hdid, ?_⟩
        obtain ⟨c', -, -, -, hstarted'', -⟩ := hcause m i pushes hdid
        exact (Pool.Run.startedAt_inj hrun hstarted'' hstarted).1
      · exact Or.inr hsettled

open Arrival in
/-- The driver arrives, and the client's phone is pushed to. -/
theorem pushes_accounted_arrival : ∃ p : Pool Store Cmd Error (Reply Bool),
    p.Finished ∧ ∃ k pushes, PushedFor pushEnv p.world k 14 pushes := by
  obtain ⟨p, hrun, hfinished, hdid⟩ := Pool.exists_run_of_schedule? (system .offline pushEnv true)
    (fun _ _ _ => True) (fun _ => False) (start store programs []) (List.replicate 12 0 ++ [1, 1])
    (fun p => p.Finished ∧ p.world.didKindAt 14 1 (fun c => c.pushes?.isSome) = true)
    (by decide +kernel)
  obtain ⟨cause, hcause, -, -⟩ := pushes_accounted .offline pushEnv true _ _ store programs [] hrun
  obtain ⟨c, hc, hpush⟩ := World.exists_didAt hdid
  obtain ⟨pushes, hpushes⟩ := Option.isSome_iff_exists.mp hpush
  obtain rfl := eq_sendMulticast hpushes
  exact ⟨p, hfinished, cause 14, pushes, hcause 14 1 pushes hc⟩

end Telima.Notifications.Pushes
