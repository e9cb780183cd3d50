import Telima.Async.RelyGuarantee
import Telima.Payments.Service
import Telima.Trips.Service

/-!
# The server

The event handlers of the modelled modules (`@OnEvent`) and the system they form with the commands.
The push notifications other handlers send do not write the store and are left out.
-/

namespace Telima

/-- Everything outside the modelled functions. -/
structure Env where
  payment : PaymentProvider
  prisma : PrismaClient
  dispatch : DispatchEnv
  geo : GeoEnv

/-- No service answers: Orange Money refuses every request, and no driver is near.  Webhooks still
arrive. -/
def Env.offline : Env where
  payment := OrangeMoneyProvider.provider
    { webPayment := fun _ _ _ => .error .unavailable
      transactionStatus := fun _ _ _ _ => .error .unavailable }
  prisma := .basic
  dispatch := { getDispatchConfig := fun _ _ => defaultConfig
                findNearbyDrivers := fun _ _ _ _ _ => [] }
  geo := { getDriverLocation := fun _ _ => none
           calculateDistance := fun _ _ _ => 0 }

/-- The mock provider confirms payments at once; everything else as in `Env.offline`. -/
def Env.mock : Env := { Env.offline with payment := MockPaymentProvider.provider }

/-- The handlers of a domain event. -/
def eventHandlers (env : Env) : DomainEvent → List (Prog Unit)
  | .tripCreated tripId pickup serviceType vehicleTypeId =>
    [DispatchService.handleTripCreated env.dispatch tripId pickup serviceType vehicleTypeId]
  | .tripCompleted tripId _ _ _ => [CommissionsService.handleTripCompleted tripId]
  | .driverAssigned tripId driverId => [TripsService.handleDriverAssigned env.geo tripId driverId]
  | .dispatchFailed tripId reason => [TripsService.handleDispatchFailed tripId reason]
  | _ => []

/-- The handlers a command starts; their result is `reply`. -/
def handlers (env : Env) {ρ : Type} (reply : ρ) : Cmd → List (Async Store Cmd Error ρ)
  | .emit event => (eventHandlers env event).map fun h => h.as reply
  | _ => []

/-- The commands and handlers of the server. -/
def system (env : Env) {ρ : Type} (reply : ρ) : System Store Cmd Error ρ where
  exec := Cmd.exec
  handlers := handlers env reply

@[simp] theorem system_exec (env : Env) {ρ : Type} (reply : ρ) :
    (system env reply).exec = Cmd.exec := rfl

@[simp] theorem system_handlers (env : Env) {ρ : Type} (reply : ρ) :
    (system env reply).handlers = handlers env reply := rfl

theorem handlers_of_not_isMessage {env : Env} {ρ : Type} {reply : ρ} {c : Cmd}
    (h : c.isMessage = false) : handlers env reply c = [] := by
  cases c <;> first | rfl | cases h

/-! ### The events of a run -/

/-- The events and messages of a run, in order. -/
def messages {α : Type} (o : Outcome Store Cmd Error α) : List Cmd := o.cmds.filter Cmd.isMessage

theorem messages_eq_nil_iff {α : Type} {o : Outcome Store Cmd Error α} :
    messages o = [] ↔ ∀ c ∈ o.cmds, c.isMessage = false := by
  simp [messages]

theorem messages_after {α : Type} {cs : List Cmd} (hcs : ∀ c ∈ cs, c.isMessage = false)
    (o : Outcome Store Cmd Error α) : messages (o.after cs) = messages o := by
  have hnone : cs.filter Cmd.isMessage = [] :=
    List.filter_eq_nil_iff.mpr fun c hc => by simp [hcs c hc]
  rw [messages, Outcome.cmds_after, List.filter_append, hnone]
  rfl

/-- The domain event a command emits. -/
def Cmd.event? : Cmd → Option DomainEvent
  | .emit event => some event
  | _ => none

/-- The domain event an entry of the history records. -/
def EventKind.event? : EventKind Cmd → Option DomainEvent
  | .did c => c.event?
  | .spawned _ => none

theorem EventKind.event?_eq_some_iff {kind : EventKind Cmd} {event : DomainEvent} :
    kind.event? = some event ↔ kind = .did (.emit event) := by
  cases kind with
  | did c => cases c <;> simp [EventKind.event?, Cmd.event?]
  | spawned c => simp [EventKind.event?]

/-- The domain events that were emitted, newest first. -/
def World.emitted (w : World Store Cmd) : List DomainEvent :=
  w.trace.filterMap fun e => e.kind.event?

theorem World.mem_emitted {w : World Store Cmd} {event : DomainEvent} :
    event ∈ w.emitted ↔ ∃ e ∈ w.trace, e.kind = .did (.emit event) := by
  simp only [World.emitted, List.mem_filterMap, EventKind.event?_eq_some_iff]

end Telima
