import Telima.Async.RelyGuarantee

/-!
# Protocols that promise more

A protocol `P'` refines `P` if its runs are runs of `P`, and its invariant and guarantees promise
what those of `P` do.  A program that keeps `P` also keeps `P'`, if each of its commands keeps what
`P'` adds (`Refines.wp`).  So a second invariant is laid over a system whose programs are known to
keep a first one (`Protocol.add`), and only the programs it is about are looked at again.
-/

namespace Telima

variable {σ ℓ ε α ρ : Type} {S : System σ ℓ ε ρ}

namespace Protocol

/-- `P'` promises what `P` promises, and more. -/
structure Refines (P' P : Protocol S) : Prop where
  cond : ∀ {i w c}, P'.cond i w c → P.cond i w c
  fault : ∀ {e}, P'.fault e → P.fault e
  inv : ∀ {w}, P'.inv w → P.inv w
  guar : ∀ {i w c}, P'.guar i w c → P.guar i w c

/-- A second invariant over that of `P`, and what keeps it. -/
structure Layer (P : Protocol S) where
  cond : ℕ → World σ ℓ → ℓ → Prop
  inv : World σ ℓ → Prop
  guar : ℕ → World σ ℓ → ℓ → Prop
  cond_of_cond : ∀ {i w c}, cond i w c → P.cond i w c
  inv_step : ∀ {w i c n}, P.inv w → inv w → cond i w c → P.guar i w c → guar i w c →
    inv (w.step S i c n)

/-- The protocol with the second invariant. -/
def add (P : Protocol S) (L : P.Layer) : Protocol S where
  cond := L.cond
  fault := P.fault
  inv w := P.inv w ∧ L.inv w
  guar i w c := P.guar i w c ∧ L.guar i w c
  inv_step hinv hcond hguar hi hfresh :=
    ⟨P.inv_step hinv.1 (L.cond_of_cond hcond) hguar.1 hi hfresh,
      L.inv_step hinv.1 hinv.2 hcond hguar.1 hguar.2⟩

variable {P P' : Protocol S} {i : ℕ}

theorem refines_add (L : P.Layer) : (P.add L).Refines P where
  cond h := L.cond_of_cond h
  fault h := h
  inv h := h.1
  guar h := h.1

/-- The others do nothing `P` does not know of. -/
theorem Refines.other (h : P'.Refines P) {w w' : World σ ℓ} (hw : P'.Other i w w') :
    P.Other i w w' := by
  obtain ⟨j, c, n, hj, hi, hjn, hfresh, hinv, hcond, hguar, rfl⟩ := hw
  exact ⟨j, c, n, hj, hi, hjn, hfresh, h.inv hinv, h.cond hcond, h.guar hguar, rfl⟩

theorem Refines.interferes (h : P'.Refines P) {w w' : World σ ℓ} (hw : P'.Interferes i w w') :
    P.Interferes i w w' :=
  Relation.ReflTransGen.mono (fun _ _ hstep => h.other hstep) w w' hw

/-- A program that keeps `P` keeps `P'`, if its commands keep what `P'` adds. -/
theorem Refines.wp (h : P'.Refines P) {H : ℓ → Prop} {p : Async σ ℓ ε α} (hp : p.Only H)
    (hH : ∀ {c w}, H c → P'.inv w → P'.cond i w c → P.guar i w c → P'.guar i w c)
    {Q : Except ε α → World σ ℓ → Prop} {w : World σ ℓ} (hwp : P.wp i p Q w) : P'.wp i p Q w := by
  induction p generalizing w with
  | done r => exact hwp
  | await c next reject ih ihr =>
    intro w' hw' hinv
    obtain ⟨hact, hrej⟩ := hwp w' (h.interferes hw') (h.inv hinv)
    refine ⟨fun hcond => ?_, fun e he => ihr e (hp.2.2 e) (hrej e (h.fault he))⟩
    obtain ⟨hguar, hnext⟩ := hact (h.cond hcond)
    exact ⟨hH hp.1 hinv hcond hguar, fun n hn hfresh => ih _ (hp.2.1 _) (hnext n hn hfresh)⟩
  | sync c next ih =>
    intro w' hw' hinv hcond
    obtain ⟨hguar, hnext⟩ := hwp w' (h.interferes hw') (h.inv hinv) (h.cond hcond)
    exact ⟨hH hp.1 hinv hcond hguar, fun n hn hfresh => ih _ (hp.2 _) (hnext n hn hfresh)⟩

/-- So do the handlers. -/
theorem Refines.handlersKeep (h : P'.Refines P) {H : ℓ → Prop}
    {post : ℕ → Except ε ρ → World σ ℓ → Prop} (hhandlers : P.HandlersKeep post)
    (honly : ∀ ⦃c p⦄, p ∈ S.handlers c → p.Only H)
    (hH : ∀ {i c w}, H c → P'.inv w → P'.cond i w c → P.guar i w c → P'.guar i w c) :
    P'.HandlersKeep post := by
  intro c k p hk j n w hinv hcond hguar hj hfresh
  have hwp : P.wp (n + k) p (post (n + k)) (w.step S j c n) :=
    hhandlers hk (h.inv hinv) (h.cond hcond) (h.guar hguar) hj hfresh
  exact h.wp (honly (List.mem_of_getElem? hk)) hH hwp

end Protocol

end Telima
