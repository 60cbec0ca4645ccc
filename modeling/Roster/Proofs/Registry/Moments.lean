import Roster.Proofs.Registry.Polling

/-!
# What one moment brings

What a task does in a step is a `Move`, which its phase, the time and the choice of the step decide
(`step_eq_carryOut`). A moment is an action in which no task takes more than one step
(`Action.isSingle`). It starts one query at most (`query?`), and ends one at most (`ending?`). The
main statement says what a moment does to members and subscriptions (`state_perform`): the commit of
a query that ends with entries, what its user does, and nothing otherwise.
-/

namespace Roster

/-- What a task does in a step. -/
inductive Move where
  | stay
  | breakDown
  | giveUp
  | ask (next : Option Nat)
  | complete (next : Option Nat) (result : Except String (List CatalogEntry))

inductive Ending where
  | completed (result : Except String (List CatalogEntry))
  | abandoned

namespace Ending

def entries? : Ending → Option (List CatalogEntry)
  | .completed (.ok entries) => some entries
  | .completed (.error _) => none
  | .abandoned => none

theorem completed_of_entries? {e : Ending} {entries : List CatalogEntry}
    (h : e.entries? = some entries) : e = .completed (.ok entries) := by
  unfold entries? at h
  split at h
  · cases h
    rfl
  · cases h
  · cases h

/-- What the end of a query about a service does to members: entries are committed. -/
def commit? (service : String) (e : Ending) : Option State.Action :=
  e.entries?.map fun entries => .commit service (entries.map fun e => ⟨service, e.address⟩)

end Ending

namespace PollingTask

def isQuerying (t : PollingTask) : Bool :=
  match t.phase with
  | .querying _ _ _ => true
  | _ => false

def moveAt (t : PollingTask) (period now due : Nat) (choice : StepChoice) : Move :=
  if t.isCancelled && (choice.endsAtWait || now < due) then .giveUp
  else if now < due then .stay
  else if t.isCancelled && choice.endsBeforeQuery then .giveUp
  else .ask (some (nextTick period due now))

/-- What a task does in a step. -/
def move (t : PollingTask) (period now : Nat) (choice : StepChoice) : Move :=
  match t.phase with
  | .fresh => if period = 0 then .breakDown else t.moveAt period now now choice
  | .waiting due => t.moveAt period now due choice
  | .querying next finish result =>
    if t.isCancelled && (choice.endsAtWait || now < finish) then .giveUp
    else if now < finish then .stay
    else .complete next result
  | .ended => .stay
  | .failed => .stay

section Move

variable {t : PollingTask} {period now : Nat} {choice : StepChoice} {next : Option Nat}
  {result : Except String (List CatalogEntry)}

theorem phase_of_isQuerying (h : t.isQuerying = true) :
    ∃ next finish result, t.phase = .querying next finish result := by
  unfold isQuerying at h
  split at h
  · next next finish result hphase => exact ⟨next, finish, result, hphase⟩
  · cases h

theorem isQuerying_of_move_eq_ask (h : t.move period now choice = .ask next) :
    t.isQuerying = false := by
  unfold move at h
  unfold isQuerying
  cases hphase : t.phase with
  | querying next finish result =>
    rw [hphase] at h
    dsimp only at h
    split at h
    · cases h
    · split at h <;> cases h
  | _ => rfl

theorem isCancelled_of_moveAt_eq_giveUp {due : Nat}
    (h : t.moveAt period now due choice = .giveUp) : t.isCancelled = true := by
  unfold moveAt at h
  split at h
  · next hends => exact (Bool.and_eq_true _ _ ▸ hends).1
  · split at h
    · cases h
    · split at h
      · next hends => exact (Bool.and_eq_true _ _ ▸ hends).1
      · cases h

theorem isCancelled_of_move_eq_giveUp (h : t.move period now choice = .giveUp) :
    t.isCancelled = true := by
  unfold move at h
  split at h
  · split at h
    · cases h
    · exact isCancelled_of_moveAt_eq_giveUp h
  · exact isCancelled_of_moveAt_eq_giveUp h
  · split at h
    · next hends => exact (Bool.and_eq_true _ _ ▸ hends).1
    · split at h <;> cases h
  · cases h
  · cases h

theorem moveAt_ne_complete (due : Nat) :
    t.moveAt period now due choice ≠ .complete next result := by
  unfold moveAt
  split
  · nofun
  · split
    · nofun
    · split <;> nofun

theorem phase_of_move_eq_complete (h : t.move period now choice = .complete next result) :
    ∃ finish, t.phase = .querying next finish result := by
  unfold move at h
  cases hphase : t.phase with
  | fresh =>
    rw [hphase] at h
    dsimp only at h
    split at h
    · cases h
    · exact absurd h (moveAt_ne_complete now)
  | waiting due =>
    rw [hphase] at h
    exact absurd h (moveAt_ne_complete due)
  | querying next' finish result' =>
    rw [hphase] at h
    dsimp only at h
    split at h
    · cases h
    · split at h
      · cases h
      · cases h
        exact ⟨finish, rfl⟩
  | ended =>
    rw [hphase] at h
    cases h
  | failed =>
    rw [hphase] at h
    cases h

end Move

end PollingTask

namespace PollingRegistry

/-- The registry after a task made a move. -/
def carryOut (r : PollingRegistry) (i : Nat) (t : PollingTask) : Move → PollingRegistry
  | .stay => r
  | .breakDown => r.setTask i { t with phase := .failed }
  | .giveUp => r.finishTask i t
  | .ask next => r.startQuery i t next
  | .complete next result => r.completeQuery i t next result

variable {r : PollingRegistry} {i : Nat} {t : PollingTask}

theorem tick_eq_carryOut (due : Nat) (choice : StepChoice) :
    r.tick i t due choice = r.carryOut i t (t.moveAt r.options.period r.now due choice) := by
  unfold tick PollingTask.moveAt
  split
  · rfl
  · split
    · rfl
    · split <;> rfl

theorem step_eq_carryOut (ht : r.tasks[i]? = some t) (choice : StepChoice) :
    r.step i choice = r.carryOut i t (t.move r.options.period r.now choice) := by
  unfold step PollingTask.move
  rw [ht]
  dsimp only
  cases t.phase with
  | fresh =>
    dsimp only
    split
    · rfl
    · exact tick_eq_carryOut r.now choice
  | waiting due => exact tick_eq_carryOut due choice
  | querying next finish result =>
    dsimp only
    split
    · rfl
    · split <;> rfl
  | ended => rfl
  | failed => rfl

/-! ## Moments -/

/-- Whether an action is a single moment. -/
def Action.isSingle : Action → Bool
  | .refresh _ => false
  | .advance _ => false
  | _ => true

def askEnding? (r : PollingRegistry) (t : PollingTask) : Option Ending :=
  let answer := (r.catalog.ask (r.backendName t.service)).1
  if answer.delay = 0 then some (.completed answer.result)
  else if t.isCancelled then some .abandoned
  else none

/-- How the query of a task ends when the task makes a move. -/
def moveEnding? (r : PollingRegistry) (t : PollingTask) : Move → Option Ending
  | .ask _ => r.askEnding? t
  | .complete _ result => some (.completed result)
  | .giveUp => if t.isQuerying then some .abandoned else none
  | .stay => none
  | .breakDown => none

def refresher (r : PollingRegistry) (service : String) : PollingTask :=
  { service, phase := .fresh, rank := r.waits }

/-- The query that ends in a moment: about which service, and how. -/
def ending? (r : PollingRegistry) : Action → Option (String × Ending)
  | .beginRefresh service => (r.askEnding? (r.refresher service)).map (service, ·)
  | .step i choice =>
    r.tasks[i]?.bind fun t =>
      (r.moveEnding? t (t.move r.options.period r.now choice)).map (t.service, ·)
  | _ => none

def Action.byUser? : Action → Option State.Action
  | .watch id service => some (.subscribe id service)
  | .stop id => some (.stop id)
  | .receive id limit => some (.receive id limit)
  | .dropReceiver id => some (.dropReceiver id)
  | _ => none

/-- What a moment does to members and subscriptions. -/
def onState? (r : PollingRegistry) (m : Action) : Option State.Action :=
  ((r.ending? m).bind fun e => e.2.commit? e.1).or m.byUser?

variable {m : Action}

theorem onState?_of_ending {service : String} {e : Ending} (h : r.ending? m = some (service, e)) :
    r.onState? m = e.commit? service := by
  have huser : m.byUser? = none := by
    cases m with
    | beginRefresh service => rfl
    | step i choice => rfl
    | _ => cases h
  rw [onState?, h, huser, Option.or_none]
  rfl

theorem onState?_of_none (h : r.ending? m = none) : r.onState? m = m.byUser? := by
  rw [onState?, h]
  rfl

/-! ## Members and subscriptions -/

theorem state_adopt (r : PollingRegistry) (service : String)
    (result : Except String (List CatalogEntry)) :
    (r.adopt service result).state =
      r.state.performAll ((Ending.completed result).commit? service).toList := by
  cases result with
  | error e => rfl
  | ok entries =>
    show (r.state.commit service ((entries.map _).map _)).2 = _
    rw [List.map_map]
    rfl

theorem state_completeQuery (r : PollingRegistry) (i : Nat) (t : PollingTask) (next : Option Nat)
    (result : Except String (List CatalogEntry)) :
    (r.completeQuery i t next result).state =
      r.state.performAll ((Ending.completed result).commit? t.service).toList := by
  obtain ⟨pollers, phase, rank, waits, _, heq⟩ := completeQuery_eq r i t next result
  rw [heq, ← state_adopt]

theorem state_startQuery (r : PollingRegistry) (i : Nat) (t : PollingTask) (next : Option Nat) :
    (r.startQuery i t next).state =
      r.state.performAll ((r.askEnding? t).bind (Ending.commit? t.service)).toList := by
  unfold startQuery askEnding?
  dsimp only
  split
  · exact state_completeQuery _ i t next _
  · split <;> rfl

theorem state_carryOut (r : PollingRegistry) (i : Nat) (t : PollingTask) (move : Move) :
    (r.carryOut i t move).state =
      r.state.performAll ((r.moveEnding? t move).bind (Ending.commit? t.service)).toList := by
  cases move with
  | stay => rfl
  | breakDown => rfl
  | giveUp =>
    simp only [moveEnding?]
    split <;> rfl
  | ask next => exact state_startQuery r i t next
  | complete next result => exact state_completeQuery r i t next result

theorem state_subscribe (r : PollingRegistry) (id : Nat) (service : String) :
    (r.subscribe id service).state = r.state.subscribe id service := by
  unfold subscribe ensurePoller
  split <;> rfl

theorem state_cancel (r : PollingRegistry) (i : Nat) : (r.cancel i).state = r.state := by
  unfold cancel
  split <;> rfl

theorem state_stop (r : PollingRegistry) (id : Nat) : (r.stop id).state = (r.state.stop id).2 := by
  rcases stop_cases r id with hstays | ⟨service, i, _, _, hcancels⟩
  · rw [hstays]
  · rw [hcancels, state_cancel]

/-- What a moment does to members and subscriptions: the commit of a query that ends with entries,
or what its user does, or nothing. -/
theorem state_perform (r : PollingRegistry) (hm : m.isSingle = true) :
    (r.perform m).state = r.state.performAll (r.onState? m).toList := by
  cases m with
  | watch id service => exact state_subscribe r id service
  | stop id => exact state_stop r id
  | receive id limit => rfl
  | dropReceiver id => rfl
  | dropHandle id => rfl
  | beginRefresh service =>
    refine (state_startQuery _ r.tasks.length (r.refresher service) none).trans ?_
    simp only [onState?, ending?, Action.byUser?, Option.bind_map, Option.or_none]
    rfl
  | refresh service => cases hm
  | step i choice =>
    simp only [perform, onState?, ending?, Action.byUser?, Option.or_none]
    cases ht : r.tasks[i]? with
    | none =>
      rw [step_of_none ht]
      rfl
    | some t =>
      rw [step_eq_carryOut ht, state_carryOut, Option.bind_some, Option.bind_map]
      rfl
  | pass ms => rfl
  | advance ms => cases hm

end PollingRegistry

end Roster
