import Telima.Dispatch.OfferState

/-!
# The offers as a protocol

What the searches, the answers and the timeouts do to offers is a sequence of moves (`Offers.Move`);
besides, an offer can be opened again (`Offers.rearm`), and keys expire (`Offers.Elapsed`).  Two
invariants hold whatever happens: a lock is backed by a notified attempt, and a job name never names
the job of another trip or driver.
-/

namespace Telima

namespace Offers

variable {tripId driverId : ℕ} {X : ℕ → Prop} {answer : ℕ → Option DispatchStatus}
variable {o o' : Offers}

/-- Every withdrawn attempt is answered. -/
def Answers (answer : ℕ → Option DispatchStatus) : Prop :=
  ∀ d, ∃ a, answer d = some a ∧ a ≠ .driverNotified

theorem answers_const {a : DispatchStatus} (h : a ≠ .driverNotified) : Answers fun _ => some a :=
  fun _ => ⟨a, rfl, h⟩

theorem answers_accept : Answers fun d =>
    some (if d = driverId then .driverAccepted else .driverDeclined) := by
  intro d
  refine ⟨_, rfl, ?_⟩
  split_ifs <;> exact DispatchStatus.noConfusion

/-- A move of the protocol. -/
inductive Move : Offers → Offers → Prop
  | withdrawn {tripId : ℕ} {X : ℕ → Prop} {answer : ℕ → Option DispatchStatus} {o o' : Offers}
      (hanswer : Answers answer) (h : Withdrawn tripId X answer o o') : Move o o'
  /-- A timeout job runs. -/
  | expired {job : TimeoutJob} {o o' : Offers} (hjob : job ∈ o.jobs)
      (h : TimedOut job.tripId job.driverId (o.removeJob job.id) o') : Move o o'
  | offered {tripId driverId runAt : ℕ} {o o' : Offers} (h : Offered tripId driverId runAt o o') :
      Move o o'

/-- Any number of moves. -/
abbrev Moves : Offers → Offers → Prop := Relation.ReflTransGen Move

theorem moves_of_eq (h : o' = o) : Moves o o' := h ▸ .refl

theorem Moves.induction {P : Offers → Prop} (h : Moves o o') (hP : ∀ {o o'}, Move o o' → P o → P o')
    (ho : P o) : P o' := by
  induction h with
  | refl => exact ho
  | tail _ hmove ih => exact hP hmove ih

/-! ### What closing offers leaves -/

/-- An attempt that is still notified was notified before, and is not one that was closed. -/
theorem Closed.notified (h : Closed tripId X answer o o') (hanswer : Answers answer) {t d : ℕ}
    (hn : o'.Notified t d) : o.Notified t d ∧ (t = tripId → ¬ X d) := by
  by_cases hclosed : t = tripId ∧ X d ∧ o.Notified t d
  · obtain ⟨rfl, hX, hbefore⟩ := hclosed
    obtain ⟨a, ha, hne⟩ := hanswer d
    have hstatus : o'.status t d = some a := h.answered d a hX hbefore ha
    rw [Notified, hstatus, Option.some_inj] at hn
    exact absurd hn hne
  · have hsame : o'.status t d = o.status t d :=
      h.status t d fun ht hX hbefore => absurd ⟨ht, hX, hbefore⟩ hclosed
    have hbefore : o.Notified t d := hsame.symm.trans hn
    exact ⟨hbefore, fun ht hX => hclosed ⟨ht, hX, hbefore⟩⟩

/-- An attempt that is not one of the closed ones stays notified. -/
theorem Closed.keeps_notified (h : Closed tripId X answer o o') {t d : ℕ} (hn : o.Notified t d)
    (hX : t = tripId → ¬ X d) : o'.Notified t d := by
  have hsame : o'.status t d = o.status t d := h.status t d fun ht hXd => absurd hXd (hX ht)
  exact hsame.trans hn

theorem Offered.notified {runAt : ℕ} (h : Offered tripId driverId runAt o o') {t d : ℕ} :
    o'.Notified t d ↔ (t = tripId ∧ d = driverId) ∨ o.Notified t d := by
  rw [Notified, h.status, Notified]
  by_cases htd : t = tripId ∧ d = driverId
  · rw [if_pos htd]
    exact ⟨fun _ => Or.inl htd, fun _ => rfl⟩
  · rw [if_neg htd]
    exact ⟨Or.inr, fun h => h.resolve_left htd⟩

theorem notified_rearm {t d : ℕ} : (o.rearm tripId driverId).Notified t d ↔
    (t = tripId ∧ d = driverId) ∨ o.Notified t d := by
  by_cases htd : t = tripId ∧ d = driverId
  · exact ⟨fun _ => Or.inl htd, fun _ => if_pos htd⟩
  · have hsame : (o.rearm tripId driverId).status t d = o.status t d := if_neg htd
    rw [Notified, hsame, Notified]
    exact ⟨Or.inr, fun h => h.resolve_left htd⟩

/-! ### Locks -/

/-- A lock is held for a trip its driver is offered. -/
def Backed (o : Offers) : Prop := ∀ d t, o.lock d = some t → o.Notified t d

theorem Closed.backed (h : Closed tripId X answer o o') (hb : o.Backed) : o'.Backed := by
  intro d t hlock
  by_cases hX : X d
  · rw [h.unlocked d hX] at hlock
    cases hlock
  · rw [h.lock d hX] at hlock
    exact h.keeps_notified (hb d t hlock) fun _ => hX

theorem Move.backed (h : Move o o') (hb : o.Backed) : o'.Backed := by
  cases h with
  | withdrawn _ h => exact h.toClosed.backed hb
  | expired _ h => exact h.toClosed.backed hb
  | @offered tripId driverId _ _ _ h =>
    intro d t hlock
    rw [h.notified]
    by_cases hd : d = driverId
    · subst hd
      rcases h.locked with hheld | hfree
      · rw [hheld, Option.some_inj] at hlock
        exact Or.inl ⟨hlock.symm, rfl⟩
      · rw [hfree] at hlock
        cases hlock
    · rw [h.lock d hd] at hlock
      exact Or.inr (hb d t hlock)

theorem Backed.rearm (hb : o.Backed) : (o.rearm tripId driverId).Backed := by
  intro d t hlock
  rw [notified_rearm]
  by_cases hd : d = driverId
  · have hheld : (o.rearm tripId driverId).lock d = some tripId := if_pos hd
    rw [hheld, Option.some_inj] at hlock
    exact Or.inl ⟨hlock.symm, hd⟩
  · have hsame : (o.rearm tripId driverId).lock d = o.lock d := if_neg hd
    rw [hsame] at hlock
    exact Or.inr (hb d t hlock)

theorem Elapsed.backed (h : Elapsed o o') (hb : o.Backed) : o'.Backed := by
  intro d t hlock
  rw [Notified, h.status]
  exact hb d t (h.lock d t hlock)

/-- Free locks were taken for the trip, and nothing else happened to the locks. -/
structure TakesFree (tripId : ℕ) (o o' : Offers) : Prop where
  kept : ∀ d t, o.lock d = some t → o'.lock d = some t
  taken : ∀ d t, o'.lock d = some t → o.lock d = some t ∨ t = tripId

theorem TakesFree.of_eq (h : o' = o) : TakesFree tripId o o' := by
  subst h
  exact ⟨fun _ _ => id, fun _ _ => Or.inl⟩

theorem TakesFree.offered {runAt : ℕ} {o'' : Offers} (h : TakesFree tripId o o')
    (hoffered : Offered tripId driverId runAt o' o'') : TakesFree tripId o o'' := by
  refine ⟨fun d t hlock => ?_, fun d t hlock => ?_⟩
  · have hheld : o'.lock d = some t := h.kept d t hlock
    have hd : d ≠ driverId := by
      rintro rfl
      rw [hoffered.free] at hheld
      cases hheld
    rw [hoffered.lock d hd, hheld]
  · by_cases hd : d = driverId
    · subst hd
      rcases hoffered.locked with hheld | hfree
      · rw [hheld, Option.some_inj] at hlock
        exact Or.inr hlock.symm
      · rw [hfree] at hlock
        cases hlock
    · rw [hoffered.lock d hd] at hlock
      exact h.taken d t hlock

/-- A lock that is overwritten might as well have been deleted before. -/
theorem takesFree_rearm : TakesFree tripId (o.setLock driverId none) (o.rearm tripId driverId) := by
  refine ⟨fun d t hlock => ?_, fun d t hlock => ?_⟩
  · simp only [setLock] at hlock
    split_ifs at hlock with hd
    exact (if_neg hd).trans hlock
  · by_cases hd : d = driverId
    · have hheld : (o.rearm tripId driverId).lock d = some tripId := if_pos hd
      rw [hheld, Option.some_inj] at hlock
      exact Or.inr hlock.symm
    · have hsame : (o.rearm tripId driverId).lock d = o.lock d := if_neg hd
      rw [hsame] at hlock
      exact Or.inl ((if_neg hd).trans hlock)

/-- Some locks are deleted, then free ones are taken: the locks of other trips stay exactly when
none of them is deleted. -/
theorem keeps_locks_iff {o'' : Offers} (hX : ∀ d, X d → o'.lock d = none)
    (hother : ∀ d, ¬ X d → o'.lock d = o.lock d) (htakes : TakesFree tripId o' o'') :
    (∀ d t, t ≠ tripId → o.lock d = some t → o''.lock d = some t) ↔
      ∀ d, X d → ∀ t, o.lock d = some t → t = tripId := by
  constructor
  · intro hkeeps d hXd t hlock
    by_contra hne
    rcases htakes.taken d t (hkeeps d t hne hlock) with hbefore | rfl
    · rw [hX d hXd] at hbefore
      cases hbefore
    · exact hne rfl
  · intro hown d t hne hlock
    have hXd : ¬ X d := fun hXd => hne (hown d hXd t hlock)
    exact htakes.kept d t ((hother d hXd).trans hlock)

/-! ### Job names -/

/-- The id of a job is at most `jobCount`, and what is named for a trip and a driver is their job. -/
structure WellKeyed (o : Offers) : Prop where
  job_le : ∀ job ∈ o.jobs, job.id ≤ o.jobCount
  name_le : ∀ t d j, o.jobKey t d = some j → j ≤ o.jobCount
  owner : ∀ t d j, o.jobKey t d = some j → ∀ job ∈ o.jobs, job.id = j →
    job.tripId = t ∧ job.driverId = d

theorem Closed.wellKeyed (h : Closed tripId X answer o o') (hjobs : ∀ job ∈ o'.jobs, job ∈ o.jobs)
    (hk : o.WellKeyed) : o'.WellKeyed := by
  have hname : ∀ t d j, o'.jobKey t d = some j → o.jobKey t d = some j := by
    intro t d j hj
    by_cases htd : t = tripId ∧ X d
    · obtain ⟨rfl, hX⟩ := htd
      rw [h.unnamed d hX] at hj
      cases hj
    · rwa [h.jobKey t d fun ht hX => htd ⟨ht, hX⟩] at hj
  refine ⟨fun job hjob => ?_, fun t d j hj => ?_, fun t d j hj job hjob hid => ?_⟩
  · rw [h.jobCount]
    exact hk.job_le job (hjobs job hjob)
  · rw [h.jobCount]
    exact hk.name_le t d j (hname t d j hj)
  · exact hk.owner t d j (hname t d j hj) job (hjobs job hjob) hid

theorem WellKeyed.removeJob (hk : o.WellKeyed) (jobId : ℕ) : (o.removeJob jobId).WellKeyed where
  job_le := fun job hjob => hk.job_le job (List.mem_of_mem_filter hjob)
  name_le := hk.name_le
  owner := fun t d j hj job hjob hid => hk.owner t d j hj job (List.mem_of_mem_filter hjob) hid

theorem Move.wellKeyed (h : Move o o') (hk : o.WellKeyed) : o'.WellKeyed := by
  cases h with
  | withdrawn _ h => exact h.toClosed.wellKeyed (fun job hjob => ((h.jobs job).mp hjob).1) hk
  | @expired job _ _ _ h =>
    refine h.toClosed.wellKeyed (fun job hjob => ?_) (hk.removeJob job.id)
    rw [h.jobs] at hjob
    exact hjob
  | @offered tripId driverId runAt _ _ h =>
    refine ⟨fun job hjob => ?_, fun t d j hj => ?_, fun t d j hj job hjob hid => ?_⟩
    · rw [h.jobCount]
      rcases (h.jobs job).mp hjob with ⟨hold, -⟩ | rfl
      · exact Nat.le_succ_of_le (hk.job_le job hold)
      · exact le_rfl
    · rw [h.jobCount]
      rw [h.jobKey] at hj
      split_ifs at hj
      · exact (Option.some.inj hj).ge
      · exact Nat.le_succ_of_le (hk.name_le t d j hj)
    · rw [h.jobKey] at hj
      split_ifs at hj with htd
      · obtain rfl := Option.some.inj hj
        rcases (h.jobs job).mp hjob with ⟨hold, -⟩ | rfl
        · -- the new id is greater than every id in use
          have hle : job.id ≤ o.jobCount := hk.job_le job hold
          omega
        · exact ⟨htd.1.symm, htd.2.symm⟩
      · rcases (h.jobs job).mp hjob with ⟨hold, -⟩ | rfl
        · exact hk.owner t d j hj job hold hid
        · have hle : j ≤ o.jobCount := hk.name_le t d j hj
          dsimp only at hid
          omega

theorem WellKeyed.rearm (hk : o.WellKeyed) : (o.rearm tripId driverId).WellKeyed :=
  ⟨hk.job_le, hk.name_le, hk.owner⟩

theorem Elapsed.wellKeyed (h : Elapsed o o') (hk : o.WellKeyed) : o'.WellKeyed := by
  refine ⟨fun job hjob => ?_, fun t d j hj => ?_, fun t d j hj job hjob hid => ?_⟩
  · rw [h.jobs] at hjob
    rw [h.jobCount]
    exact hk.job_le job hjob
  · rw [h.jobCount]
    exact hk.name_le t d j (h.jobKey t d j hj)
  · rw [h.jobs] at hjob
    exact hk.owner t d j (h.jobKey t d j hj) job hjob hid

end Offers

end Telima
