import Roster.Proofs.Registry.History

/-!
# Subscribers do not see each other

Two runs are compared: one of any requests, and the one that is left when every request about the
subscription of a number is deleted. The states of the two runs differ by the subscriptions of that
number and nothing else (`without_performAll`), since no action looks at one subscription to change
another (`without_perform`). So every request that is left is answered alike in both runs, unless
the answer counts the watchers of a service, and the deleted subscription is one of them
(`isolated`).
-/

namespace Roster.State

/-! ## Requests and answers -/

/-- What is asked of a registry's state: to do something, or to tell something. -/
inductive Request where
  | act (action : Action)
  | instances (service : String)
  | services
  | watcherCount (service : String)
  | isStopped (id : Nat)
  deriving DecidableEq

inductive Answer where
  | done
  | changes (cs : List Change)
  | left (n : Option Nat)
  | receipt (r : Option Receipt)
  | members (is : List Instance)
  | names (services : List String)
  | count (n : Nat)
  | flag (b : Bool)
  deriving DecidableEq

def Request.subject? : Request → Option Nat
  | .act action => action.subject?
  | .isStopped id => some id
  | _ => none

/-- The service whose watchers the answer to a request counts. -/
def Request.counted? : Request → Option String
  | .act (.unsubscribe service _) => some service
  | .watcherCount service => some service
  | _ => none

def answer (s : State) : Request → Answer
  | .act (.commit service is) => .changes (s.commit service is).1
  | .act (.unsubscribe service id) => .left (s.unsubscribe service id).1
  | .act (.receive id limit) => .receipt ((s.receive id limit).map (·.1))
  | .act _ => .done
  | .instances service => .members (s.instances service)
  | .services => .names s.services
  | .watcherCount service => .count (s.watcherCount service)
  | .isStopped id => .flag (s.isStopped id)

def after (s : State) : Request → State
  | .act action => s.perform action
  | _ => s

def afterAll (s : State) (requests : List Request) : State := requests.foldl after s

/-- Requests in turn, each with its answer. -/
def transcript (s : State) : List Request → List (Request × Answer)
  | [] => []
  | q :: rest => (q, s.answer q) :: transcript (s.after q) rest

def servicesOf (id : Nat) (requests : List Request) : List String :=
  requests.filterMap fun
    | .act (.subscribe id' service) => if id' = id then some service else none
    | _ => none

/-- An answer without the number that it counts. -/
def Answer.veiled : Answer → Answer
  | .count _ => .count 0
  | .left n => .left (n.map fun _ => 0)
  | other => other

/-- A request with its answer, which is veiled if it counts the watchers of one of some services. -/
def veil (services : List String) (e : Request × Answer) : Request × Answer :=
  if e.1.counted?.any (services.contains ·) then (e.1, e.2.veiled) else e

/-! ## States without the subscriptions of a number -/

/-- The state without the subscriptions of a number. -/
def without (s : State) (a : Nat) : State :=
  { s with subscriptions := s.subscriptions.filter (·.id != a) }

variable {s : State} {a id : Nat} {service : String} {services : List String}

theorem subscription?_without (h : id ≠ a) :
    (s.without a).subscription? id = s.subscription? id := by
  simp only [subscription?, without, List.find?_filter]
  congr 1
  funext sub
  by_cases hid : sub.id = id
  · simp [hid, h]
  · simp [hid]

theorem watcherCount_eq_without :
    s.watcherCount service =
      (s.without a).watcherCount service +
        s.subscriptions.countP fun sub => sub.id == a && sub.isTo service := by
  simp only [watcherCount, without, List.countP_filter]
  induction s.subscriptions with
  | nil => rfl
  | cons sub rest ih =>
    simp only [List.countP_cons, ih]
    by_cases hid : sub.id = a <;> simp [hid] <;> omega

theorem filter_id_map {f : Subscription → Subscription} (hf : ∀ sub, (f sub).id = sub.id)
    (subs : List Subscription) :
    (subs.map f).filter (·.id != a) = (subs.filter (·.id != a)).map f := by
  rw [List.filter_map]
  congr 2
  funext sub
  simp [hf]

theorem without_alter {f : Subscription → Subscription} (hf : ∀ sub, (f sub).id = sub.id) :
    (s.alter id f).without a = (s.without a).alter id f := by
  simp only [without, alter]
  rw [filter_id_map]
  intro sub
  split
  · exact hf sub
  · rfl

theorem alter_without_self (f : Subscription → Subscription) :
    (s.without a).alter a f = s.without a := by
  simp only [alter, without]
  congr 1
  refine (List.map_congr_left fun sub hsub => ?_).trans (List.map_id' _)
  have hne := (List.mem_filter.mp hsub).2
  exact if_neg (by simpa using hne)

theorem any_without (h : id ≠ a) (p : Subscription → Bool) :
    ((s.without a).subscriptions.any fun sub => p sub && sub.id == id) =
      s.subscriptions.any fun sub => p sub && sub.id == id := by
  simp only [without, List.any_filter]
  congr 1
  funext sub
  by_cases hid : sub.id = id
  · simp [hid, h]
  · simp [hid]

theorem without_unsubscribe (h : id ≠ a) :
    (s.unsubscribe service id).2.without a = ((s.without a).unsubscribe service id).2 := by
  unfold unsubscribe
  rw [any_without h]
  split
  · exact without_alter fun _ => rfl
  · rfl

theorem without_stop (h : id ≠ a) : (s.stop id).2.without a = ((s.without a).stop id).2 := by
  unfold stop
  rw [subscription?_without h]
  cases s.subscription? id with
  | none => rfl
  | some sub =>
    dsimp only
    split
    · rfl
    · rw [without_unsubscribe h, without_alter]
      exact fun _ => rfl

theorem without_receive (h : id ≠ a) (limit : Option Nat) :
    (s.perform (.receive id limit)).without a = (s.without a).perform (.receive id limit) := by
  simp only [perform, receive]
  rw [subscription?_without h]
  cases s.subscription? id with
  | none => rfl
  | some sub => exact without_alter fun _ => rfl

/-! ## One action in both runs -/

/-- What is done about other subscriptions, or about none, is done alike in both states. -/
theorem without_perform {action : Action} (h : action.subject? ≠ some a) :
    (s.perform action).without a = (s.without a).perform action := by
  cases action with
  | commit service is =>
    simp only [perform, commit, without]
    rw [filter_id_map (Subscription.notify_id service _)]
    rfl
  | subscribe id service =>
    have hne : id ≠ a := fun hid => h (congrArg some hid)
    simp [perform, subscribe, without, List.filter_append, hne, capacityFor, instances]
  | unsubscribe service id => exact without_unsubscribe fun hid => h (congrArg some hid)
  | stop id => exact without_stop fun hid => h (congrArg some hid)
  | receive id limit => exact without_receive (fun hid => h (congrArg some hid)) limit
  | dropReceiver id => exact without_alter fun _ => rfl

theorem without_alter_self {f : Subscription → Subscription} (hf : ∀ sub, (f sub).id = sub.id) :
    (s.alter a f).without a = s.without a := by
  rw [without_alter hf, alter_without_self]

/-- What is done about the subscription of a number shows in that subscription only. -/
theorem without_perform_self {action : Action} (h : action.subject? = some a) :
    (s.perform action).without a = s.without a := by
  have hself {t : State} {service : String} :
      (t.unsubscribe service a).2.without a = t.without a := by
    unfold unsubscribe
    split
    · exact without_alter_self fun _ => rfl
    · rfl
  cases action with
  | commit service is => cases h
  | subscribe id service =>
    cases h
    simp [perform, subscribe, without, List.filter_append]
  | unsubscribe service id =>
    cases h
    exact hself
  | stop id =>
    cases h
    simp only [perform, stop]
    cases s.subscription? a with
    | none => rfl
    | some sub =>
      dsimp only
      split
      · rfl
      · rw [hself, without_alter_self]
        exact fun _ => rfl
  | receive id limit =>
    cases h
    simp only [perform, receive]
    cases s.subscription? a with
    | none => rfl
    | some sub => exact without_alter_self fun _ => rfl
  | dropReceiver id =>
    cases h
    exact without_alter_self fun _ => rfl

theorem without_after {q : Request} (h : q.subject? ≠ some a) :
    (s.after q).without a = (s.without a).after q := by
  cases q with
  | act action => exact without_perform h
  | _ => rfl

theorem without_after_self {q : Request} (h : q.subject? = some a) :
    (s.after q).without a = s.without a := by
  cases q with
  | act action => exact without_perform_self h
  | _ => rfl

theorem without_afterAll (requests : List Request) :
    (s.afterAll requests).without a =
      (s.without a).afterAll (requests.filter (·.subject? != some a)) := by
  induction requests generalizing s with
  | nil => rfl
  | cons q rest ih =>
    show ((s.after q).afterAll rest).without a = _
    rw [ih]
    by_cases h : q.subject? = some a
    · rw [without_after_self h, List.filter_cons_of_neg (by simp [h])]
    · rw [without_after h, List.filter_cons_of_pos (by simp [h])]
      rfl

/-! ## Where a number subscribes -/

/-- The subscriptions of a number are to some services only. -/
def Confined (s : State) (a : Nat) (services : List String) : Prop :=
  ∀ sub ∈ s.subscriptions, sub.id = a → sub.service ∈ services

theorem Confined.alter (h : s.Confined a services)
    {f : Subscription → Subscription}
    (hf : ∀ sub, (f sub).id = sub.id ∧ (f sub).service = sub.service) :
    (s.alter id f).Confined a services := by
  intro sub' hsub' hid
  obtain ⟨sub, hsub, rfl⟩ := List.mem_map.mp hsub'
  by_cases hsame : sub.id = id
  · rw [if_pos hsame, (hf sub).1] at hid
    rw [if_pos hsame, (hf sub).2]
    exact h sub hsub hid
  · rw [if_neg hsame] at hid ⊢
    exact h sub hsub hid

theorem Confined.unsubscribe (h : s.Confined a services) :
    (s.unsubscribe service id).2.Confined a services := by
  unfold State.unsubscribe
  split
  · exact h.alter fun _ => ⟨rfl, rfl⟩
  · exact h

theorem Confined.perform (h : s.Confined a services) {action : Action}
    (hsubscribe : ∀ service, action = .subscribe a service → service ∈ services) :
    (s.perform action).Confined a services := by
  cases action with
  | commit service is =>
    intro sub' hsub' hid
    obtain ⟨sub, hsub, rfl⟩ := List.mem_map.mp hsub'
    rw [Subscription.notify_service]
    exact h sub hsub ((Subscription.notify_id service _ sub).symm.trans hid)
  | subscribe id service =>
    intro sub hsub hid
    rcases List.mem_append.mp hsub with hold | hnew
    · exact h sub hold hid
    · rw [List.mem_singleton] at hnew
      subst hnew
      exact hsubscribe service (congrArg (Action.subscribe · service) hid)
  | unsubscribe service id => exact h.unsubscribe
  | stop id =>
    simp only [State.perform, State.stop]
    split
    · exact h
    · split
      · exact h
      · refine Confined.unsubscribe ?_
        exact h.alter fun _ => ⟨rfl, rfl⟩
  | receive id limit =>
    simp only [State.perform, State.receive]
    cases s.subscription? id with
    | none => exact h
    | some sub => exact h.alter fun _ => ⟨rfl, rfl⟩
  | dropReceiver id => exact h.alter fun _ => ⟨rfl, rfl⟩

theorem Confined.after (h : s.Confined a services) {q : Request}
    (hservices : servicesOf a [q] ⊆ services) : (s.after q).Confined a services := by
  cases q with
  | act action =>
    refine h.perform fun service hsubscribe => hservices ?_
    subst hsubscribe
    simp [servicesOf]
  | _ => exact h

theorem Confined.watcherCount_without (h : s.Confined a services)
    (hservice : service ∉ services) :
    (s.without a).watcherCount service = s.watcherCount service := by
  rw [watcherCount_eq_without (s := s) (a := a), List.countP_eq_zero.mpr, Nat.add_zero]
  intro sub hsub hto
  simp only [Subscription.isTo, Bool.and_eq_true, beq_iff_eq] at hto
  exact hservice (hto.2.2 ▸ h sub hsub hto.1)

/-! ## One answer in both runs -/

/-- What others are told is the same in both states, except for the number of watchers of a service
to which the number subscribes. -/
theorem veil_answer_without {q : Request} (h : q.subject? ≠ some a)
    (hconfined : s.Confined a services) :
    veil services (q, (s.without a).answer q) = veil services (q, s.answer q) := by
  cases q with
  | instances service => rfl
  | services => rfl
  | isStopped id =>
    have hid : id ≠ a := fun hid => h (congrArg some hid)
    simp only [answer, isStopped, subscription?_without hid]
  | watcherCount service =>
    by_cases hservice : service ∈ services
    · simp [veil, Request.counted?, hservice, answer, Answer.veiled]
    · simp only [answer, hconfined.watcherCount_without hservice]
  | act action =>
    cases action with
    | commit service is => rfl
    | subscribe id service => rfl
    | stop id => rfl
    | dropReceiver id => rfl
    | receive id limit =>
      have hid : id ≠ a := fun hid => h (congrArg some hid)
      simp only [answer, receive, subscription?_without hid, Option.map_map]
      rfl
    | unsubscribe service id =>
      have hid : id ≠ a := fun hid => h (congrArg some hid)
      -- The watchers are counted after the withdrawal, which leaves the number where it was.
      have hnext : (s.unsubscribe service id).2.without a =
          ((s.without a).unsubscribe service id).2 := without_unsubscribe hid
      have hconfined' : (s.unsubscribe service id).2.Confined a services := hconfined.unsubscribe
      simp only [answer]
      unfold unsubscribe at hnext hconfined' ⊢
      rw [any_without hid] at hnext ⊢
      split
      · next hany =>
        rw [if_pos hany, if_pos hany] at hnext
        rw [if_pos hany] at hconfined'
        by_cases hservice : service ∈ services
        · simp [veil, Request.counted?, hservice, Answer.veiled]
        · dsimp only at hnext ⊢
          rw [← hnext, hconfined'.watcherCount_without hservice]
      · rfl

/-! ## Both runs -/

theorem servicesOf_cons (q : Request) (rest : List Request) :
    servicesOf a (q :: rest) = servicesOf a [q] ++ servicesOf a rest :=
  List.filterMap_append (l := [q])

theorem transcript_without (hconfined : s.Confined a services)
    {requests : List Request} (hservices : servicesOf a requests ⊆ services) :
    ((s.transcript requests).filter (·.1.subject? != some a)).map (veil services) =
      ((s.without a).transcript (requests.filter (·.subject? != some a))).map (veil services) := by
  induction requests generalizing s with
  | nil => rfl
  | cons q rest ih =>
    rw [servicesOf_cons, List.append_subset] at hservices
    -- Deleted or not, the request leads both runs to states that match again.
    have hrest := ih (hconfined.after hservices.1) hservices.2
    by_cases h : q.subject? = some a
    · rw [without_after_self h] at hrest
      rw [transcript, List.filter_cons_of_neg (by simp [h]), List.filter_cons_of_neg (by simp [h])]
      exact hrest
    · rw [without_after h] at hrest
      rw [transcript, List.filter_cons_of_pos (by simp [h]), List.filter_cons_of_pos (by simp [h]),
        transcript, List.map_cons, List.map_cons, veil_answer_without h hconfined, hrest]

/-- Take any run of requests, and the run that is left when every request about the subscription of
a number is deleted. Each request that is left is answered alike in both runs, except that the
watchers of a service to which the number subscribes are more in the first run by those of the
number. -/
theorem isolated (buffer a : Nat) (requests : List Request) :
    let others := requests.filter (·.subject? != some a)
    let own := servicesOf a requests
    (((new buffer).transcript requests).filter (·.1.subject? != some a)).map (veil own) =
        ((new buffer).transcript others).map (veil own) ∧
      ∀ service, ((new buffer).afterAll requests).watcherCount service =
        ((new buffer).afterAll others).watcherCount service +
          ((new buffer).afterAll requests).subscriptions.countP fun sub =>
            sub.id == a && sub.isTo service := by
  intro others own
  have hconfined : (new buffer).Confined a own := nofun
  refine ⟨transcript_without hconfined (List.Subset.refl own), fun service => ?_⟩
  rw [watcherCount_eq_without (a := a), without_afterAll]
  rfl

end Roster.State
