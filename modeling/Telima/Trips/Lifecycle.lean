import Telima.Store.Schema

/-!
# The trip lifecycle
-/

namespace Telima

/-- The text of a status. -/
def TripStatus.name : TripStatus → String
  | .pending => "pending"
  | .accepted => "accepted"
  | .driverArriving => "driver_arriving"
  | .inProgress => "in_progress"
  | .completed => "completed"
  | .cancelledByClient => "cancelled_by_client"
  | .cancelledByDriver => "cancelled_by_driver"
  | .cancelledAuto => "cancelled_auto"

/-- The rows of `TRANSITIONS`. -/
def transitions : TripStatus → List TripStatus
  | .pending => [.accepted, .cancelledByClient, .cancelledByDriver, .cancelledAuto]
  | .accepted => [.driverArriving, .cancelledByClient, .cancelledByDriver]
  | .driverArriving => [.inProgress, .cancelledByClient, .cancelledByDriver]
  | .inProgress => [.completed]
  | .completed => []
  | .cancelledByClient => []
  | .cancelledByDriver => []
  | .cancelledAuto => []

def canTransition (source target : TripStatus) : Bool := (transitions source).contains target

/-- The statuses `sweepStaleAssigned` selects. -/
def isAssigned (status : TripStatus) : Bool := [.accepted, .driverArriving].contains status

/-- The trip is over. -/
def isTerminal (status : TripStatus) : Bool := transitions status = []

/-- The status is one of the three `cancelled_*` statuses. -/
def isCancelled : TripStatus → Bool
  | .cancelledByClient | .cancelledByDriver | .cancelledAuto => true
  | _ => false

theorem not_canTransition_of_isTerminal {source target : TripStatus} (h : isTerminal source = true) :
    canTransition source target = false := by
  simp_all [isTerminal, canTransition]

theorem canTransition_accepted_iff {source : TripStatus} :
    canTransition source .accepted = true ↔ source = .pending := by
  cases source <;> decide

theorem canTransition_completed_iff {source : TripStatus} :
    canTransition source .completed = true ↔ source = .inProgress := by
  cases source <;> decide

theorem canTransition_cancelledAuto_iff {source : TripStatus} :
    canTransition source .cancelledAuto = true ↔ source = .pending := by
  cases source <;> decide

/-- Only a trip that has not started can be cancelled. -/
theorem canTransition_cancelledByClient_iff {source : TripStatus} :
    canTransition source .cancelledByClient = true ↔
      source = .pending ∨ source = .accepted ∨ source = .driverArriving := by
  cases source <;> decide

end Telima
