import Telima.System
import Telima.Trips.Runs

/-!
# Who may change a status

`updateStatus_succeeds_iff` says when `updateStatus` succeeds.  Two of its checks let more through
than they should: `cancelled_by_client` is refused only to a user who is neither in the role of a
client nor the client of the trip, and `cancelled_auto` is not checked at all.
-/

namespace Telima

open TripsService

/-- The user may set the status: the rules of the trip's life. -/
def Authorized (s : Store) (trip : Trip) (userId : ℕ) : TripStatus → Prop
  | .accepted => ∃ driver ∈ s.drivers.rows, driver.userId = userId ∧
    TripRepository.isNotified s trip.id driver.id = true
  | .driverArriving | .inProgress | .completed | .cancelledByDriver =>
    ∃ driver ∈ s.drivers.rows, driver.userId = userId ∧ trip.driverId = some driver.id
  | .cancelledByClient => userId = trip.clientId
  | .cancelledAuto => False
  | .pending => True

section Authorized

variable {s : Store} {trip : Trip} {userId : ℕ} {role : UserRole}

theorem mem_of_findDriver {driver : Driver}
    (h : (s.drivers.findFirst fun d => decide (d.userId = userId)) = some driver) :
    driver ∈ s.drivers.rows ∧ driver.userId = userId := by
  obtain ⟨hfind, hp⟩ := Table.find?_of_findFirst h
  exact ⟨Table.mem_of_find? hfind, of_decide_eq_true hp⟩

/-- What the switch permits is authorized, but for the two slips. -/
theorem authorized_of_permits {status : TripStatus} (h : Permits s trip userId role status) :
    Authorized s trip userId status ↔
      ¬ (status = .cancelledAuto ∨ status = .cancelledByClient ∧ userId ≠ trip.clientId) := by
  have hassigned : (role = .driver ∧
      ∃ driver, (s.drivers.findFirst fun d => decide (d.userId = userId)) = some driver ∧
        trip.driverId = some driver.id) →
      ∃ driver ∈ s.drivers.rows, driver.userId = userId ∧ trip.driverId = some driver.id := by
    rintro ⟨-, driver, hdriver, hid⟩
    obtain ⟨hmem, huser⟩ := mem_of_findDriver hdriver
    exact ⟨driver, hmem, huser, hid⟩
  cases status with
  | accepted =>
    obtain ⟨-, driver, hdriver, hnotified⟩ := h
    obtain ⟨hmem, huser⟩ := mem_of_findDriver hdriver
    exact iff_of_true ⟨driver, hmem, huser, hnotified⟩ (by simp)
  | driverArriving => exact iff_of_true (hassigned h) (by simp)
  | inProgress => exact iff_of_true (hassigned h) (by simp)
  | completed => exact iff_of_true (hassigned h) (by simp)
  | cancelledByDriver => exact iff_of_true (hassigned h) (by simp)
  | cancelledByClient => simp [Authorized]
  | cancelledAuto => exact iff_of_false id fun hn => hn (Or.inl rfl)
  | pending => exact iff_of_true trivial (by simp)

end Authorized

/-- Whenever `updateStatus` succeeds the user was authorized, unless the status is `cancelled_auto` on
a pending trip, or `cancelled_by_client` on a trip that can be cancelled, by a user in the role of a
client who is not the trip's. -/
theorem updateStatus_authorized_iff (s : Store) (tripId userId : ℕ) (role : UserRole)
    (dto : UpdateTripStatusDto) :
    ((updateStatus tripId userId role dto).Succeeds Cmd.exec s →
        ∃ trip, s.trips.find? tripId = some trip ∧ Authorized s trip userId dto.status) ↔
      ∀ trip, s.trips.find? tripId = some trip →
        ¬ (trip.status = .pending ∧ dto.status = .cancelledAuto) ∧
        ¬ ((trip.status = .pending ∨ trip.status = .accepted ∨ trip.status = .driverArriving) ∧
          dto.status = .cancelledByClient ∧ role = .client ∧ userId ≠ trip.clientId) := by
  rw [updateStatus_succeeds_iff]
  constructor
  · intro h trip htrip
    have hauthorized : canTransition trip.status dto.status = true →
        Permits s trip userId role dto.status → Authorized s trip userId dto.status := by
      intro hcan hpermits
      obtain ⟨trip', htrip', hauth⟩ := h ⟨trip, htrip, hcan, hpermits⟩
      obtain rfl := Option.some.inj (htrip.symm.trans htrip')
      exact hauth
    constructor
    · rintro ⟨hpending, hauto⟩
      rw [hpending, hauto] at hauthorized
      exact hauthorized (by decide) trivial
    · rintro ⟨hopen, hclient, hrole, huser⟩
      rw [hclient] at hauthorized
      exact huser (hauthorized (canTransition_cancelledByClient_iff.mpr hopen) (Or.inl hrole))
  · rintro h ⟨trip, htrip, hcan, hpermits⟩
    obtain ⟨hauto, hclient⟩ := h trip htrip
    refine ⟨trip, htrip, (authorized_of_permits hpermits).mpr ?_⟩
    rintro (hstatus | ⟨hstatus, huser⟩)
    · rw [hstatus] at hcan
      exact hauto ⟨canTransition_cancelledAuto_iff.mp hcan, hstatus⟩
    · rw [hstatus] at hcan hpermits
      have hrole : role = .client := hpermits.resolve_right huser
      exact hclient ⟨canTransition_cancelledByClient_iff.mp hcan, hstatus, hrole, huser⟩

namespace Authorization

/-- A pending trip of client 20. -/
def pendingTripStore : Store where
  trips :=
    .single { id := 1, clientId := 20, vehicleTypeId := 1, serviceType := .ride
              pickupLocation := ⟨0, 0⟩, dropoffLocation := ⟨0, 0⟩, createdAt := 0, updatedAt := 0 }

end Authorization

open Authorization in
/-- User 21, a client, cancels the trip of user 20; and any user sets `cancelled_auto`. -/
theorem updateStatus_unauthorized :
    (updateStatus 1 21 .client { status := .cancelledByClient }).Succeeds Cmd.exec pendingTripStore ∧
    (¬ ∃ trip, pendingTripStore.trips.find? 1 = some trip ∧
      Authorized pendingTripStore trip 21 .cancelledByClient) ∧
    (updateStatus 1 21 .client { status := .cancelledAuto }).Succeeds Cmd.exec pendingTripStore ∧
    ¬ ∃ trip, pendingTripStore.trips.find? 1 = some trip ∧
      Authorized pendingTripStore trip 21 .cancelledAuto := by
  refine ⟨⟨_, rfl⟩, ?_, ⟨_, rfl⟩, ?_⟩
  · rintro ⟨trip, htrip, hauth⟩
    obtain rfl := Option.some.inj htrip
    exact absurd (show (21 : ℕ) = 20 from hauth) (by decide)
  · rintro ⟨trip, -, hauth⟩
    exact hauth

end Telima
