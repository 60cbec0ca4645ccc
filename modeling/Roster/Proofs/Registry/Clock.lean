import Mathlib.Logic.Relation
import Roster.Proofs.Registry.Queries

/-!
# The virtual clock

On a virtual clock no time passes while a task can run, nor beyond a moment at which one can
(`mayPass`). To let time pass (`advance`), and to wait for the end of a refresh (`refresh`), keeps
to this clock, and takes moments only in which no user does anything
(`Recorded.isSingle_or_elapses`).
-/

namespace Roster.PollingRegistry

variable {options : PollingOptions} {source : Catalog} {r r' : PollingRegistry} {m : Action}

/-- Whether some milliseconds may pass: no time passes while a task can run, nor beyond a moment at
which one can. -/
def mayPass (r : PollingRegistry) (ms : Nat) : Bool :=
  r.tasks.all fun t => (t.wake? r.now).all fun wake => r.now + ms ≤ max r.now wake

def Action.isTimely (r : PollingRegistry) : Action → Bool
  | .pass ms => r.mayPass ms
  | _ => true

def areTimely (r : PollingRegistry) : List Action → Bool
  | [] => true
  | action :: rest => action.isTimely r && (r.perform action).areTimely rest

/-- A moment that keeps to the virtual clock, and in which no user does anything. -/
structure Action.IsInner (r : PollingRegistry) (m : Action) : Prop where
  isSingle : m.isSingle = true
  isTimely : m.isTimely r = true
  byUser?_eq : m.byUser? = none

/-- One registry becomes another in moments that keep to the virtual clock, and in which no user
does anything. -/
def Elapses : PollingRegistry → PollingRegistry → Prop :=
  Relation.ReflTransGen fun r r' => ∃ m : Action, m.IsInner r ∧ r.perform m = r'

theorem mayPass_iff {ms : Nat} :
    r.mayPass ms = true ↔
      ∀ t ∈ r.tasks, ∀ wake, t.wake? r.now = some wake → r.now + ms ≤ max r.now wake := by
  simp [mayPass, Option.all_eq_true]

theorem elapses_of_isInner (hm : m.IsInner r) : r.Elapses (r.perform m) := .single ⟨m, hm, rfl⟩

theorem Recorded.elapses (h : r.Recorded options source) (hr : r.Elapses r') :
    r'.Recorded options source := by
  induction hr with
  | refl => exact h
  | tail _ hmoment ih =>
    obtain ⟨m, hm, rfl⟩ := hmoment
    exact ih.perform hm.isSingle

/-- Time may pass up to some point, or up to the next one at which a task can run. -/
theorem elapses_later {time : Nat} (h : ∀ wake, r.nextWake? = some wake → time ≤ max r.now wake) :
    r.Elapses { r with now := max r.now time } := by
  have hpass : r.perform (.pass (time - r.now)) = { r with now := max r.now time } := by
    have hnow : r.now + (time - r.now) = max r.now time := by omega
    show ({ r with now := r.now + (time - r.now) } : PollingRegistry) = _
    rw [hnow]
  have htimely : r.mayPass (time - r.now) = true := by
    refine mayPass_iff.mpr fun t ht wake hwake => ?_
    have hmem : wake ∈ r.tasks.filterMap (·.wake? r.now) := List.mem_filterMap.mpr ⟨t, ht, hwake⟩
    obtain ⟨least, hleast⟩ := Option.isSome_iff_exists.mp (List.isSome_min?_of_mem hmem)
    have hle : least ≤ wake := (List.min?_eq_some_iff.mp hleast).2 wake hmem
    have htime := h least hleast
    omega
  rw [← hpass]
  exact elapses_of_isInner ⟨rfl, htimely, rfl⟩

theorem elapses_runTask (i fuel : Nat) (r : PollingRegistry) : r.Elapses (runTask i fuel r) := by
  induction fuel generalizing r with
  | zero => exact .refl
  | succ fuel ih =>
    unfold runTask
    split
    · have hstep : r.Elapses (r.perform (.step i {})) := elapses_of_isInner ⟨rfl, rfl, rfl⟩
      exact hstep.trans (ih (r.step i {}))
    · exact .refl

theorem elapses_settleWithin (fuel : Nat) (r : PollingRegistry) :
    r.Elapses (settleWithin fuel r) := by
  induction fuel generalizing r with
  | zero => exact .refl
  | succ fuel ih =>
    unfold settleWithin
    split
    · exact (elapses_runTask _ _ r).trans (ih _)
    · exact .refl

theorem Recorded.elapses_settle (h : r.Recorded options source) : r.Elapses r.settle := by
  have hwithin := elapses_settleWithin (2 * r.tasks.length + 1) r
  rw [settle, reclaim, (h.elapses hwithin).isKept, Bool.false_and, if_neg Bool.false_ne_true]
  exact hwithin

theorem Recorded.elapses_passUntil (target fuel : Nat) (h : r.Recorded options source) :
    r.Elapses (passUntil target fuel r) := by
  induction fuel generalizing r with
  | zero => exact .refl
  | succ fuel ih =>
    have hsettles := h.elapses_settle
    unfold passUntil
    dsimp only
    split
    · next wake hwake =>
      split
      · have hpasses : r.settle.Elapses { r.settle with now := max r.settle.now wake } := by
          refine elapses_later fun wake' hwake' => ?_
          obtain rfl : wake = wake' := Option.some.inj (hwake.symm.trans hwake')
          exact Nat.le_max_right _ _
        have hreaches := hsettles.trans hpasses
        exact hreaches.trans (ih (h.elapses hreaches))
      · refine hsettles.trans (elapses_later fun wake' hwake' => ?_)
        obtain rfl : wake = wake' := Option.some.inj (hwake.symm.trans hwake')
        omega
    · next hidle =>
      refine hsettles.trans (elapses_later fun wake' hwake' => ?_)
      rw [hidle] at hwake'
      cases hwake'

theorem Recorded.elapses_refresh (h : r.Recorded options source) (service : String) :
    r.Elapses (r.refresh service) := by
  have hbegins : r.Elapses (r.perform (.beginRefresh service)) :=
    elapses_of_isInner ⟨rfl, rfl, rfl⟩
  unfold PollingRegistry.refresh
  dsimp only
  split
  · exact hbegins.trans ((h.elapses hbegins).elapses_passUntil _ _)
  · exact hbegins

/-- An action that is no single moment takes moments that keep to the clock, and in which no user
does anything. -/
theorem Recorded.isSingle_or_elapses (h : r.Recorded options source) (action : Action) :
    action.isSingle = true ∨ action.byUser? = none ∧ r.Elapses (r.perform action) := by
  cases action with
  | refresh service => exact Or.inr ⟨rfl, h.elapses_refresh service⟩
  | advance ms => exact Or.inr ⟨rfl, h.elapses_passUntil _ _⟩
  | _ => exact Or.inl rfl

end Roster.PollingRegistry
