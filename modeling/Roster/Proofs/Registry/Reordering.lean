import Roster.Proofs.Registry.Isolation
import Roster.Proofs.Registry.Reload
import Roster.Registry

/-!
# Commits to different services in any order

Two states are `Alike` if they have the same members, the same subscriptions and the same least
capacity of a queue. They may differ in the order in which services got their first members, which
no answer shows: states that are alike answer every run of requests in the same way
(`Alike.transcript_eq`). Two commits to different services lead to states that are alike, whichever
comes first (`alike_swap`), and a permutation is made of such swaps (`commits_perm`). A pass of a
reload and the commits of a static registry are families of such commits.
-/

namespace Roster.State

variable {s t : State} {service service' : String} {is is' : List Instance}

/-! ## States that are alike -/

/-- Two states with the same members and subscriptions. -/
structure Alike (s t : State) : Prop where
  buffer_eq : s.buffer = t.buffer
  get?_eq : ∀ service, s.snapshots.get? service = t.snapshots.get? service
  subscriptions_eq : s.subscriptions = t.subscriptions

theorem Alike.refl (s : State) : s.Alike s := ⟨rfl, fun _ => rfl, rfl⟩

theorem Alike.trans {u : State} (h : s.Alike t) (h' : t.Alike u) : s.Alike u where
  buffer_eq := h.buffer_eq.trans h'.buffer_eq
  get?_eq service := (h.get?_eq service).trans (h'.get?_eq service)
  subscriptions_eq := h.subscriptions_eq.trans h'.subscriptions_eq

theorem Alike.instances_eq (h : s.Alike t) (service : String) :
    s.instances service = t.instances service :=
  congrArg (·.getD []) (h.get?_eq service)

theorem Alike.services_eq (h : s.Alike t) : s.services = t.services := by
  refine mergeSort_le_eq_of_perm
    ((List.perm_ext_iff_of_nodup s.snapshots.distinct t.snapshots.distinct).mpr fun service => ?_)
  show service ∈ s.snapshots.keys ↔ service ∈ t.snapshots.keys
  rw [Table.mem_keys_iff, Table.mem_keys_iff, h.get?_eq]

theorem snapshots_perform {action : Action}
    (hcommit : ∀ service is, action ≠ .commit service is) :
    (s.perform action).snapshots = s.snapshots := by
  cases action with
  | commit service is => exact absurd rfl (hcommit service is)
  | subscribe id service => rfl
  | unsubscribe service id => exact (congrArg snapshots (unsubscribe_eq s service id)).trans rfl
  | stop id => exact (congrArg snapshots (stop_eq s id)).trans rfl
  | receive id limit => exact (congrArg snapshots (receive_eq s id limit)).trans rfl
  | dropReceiver id => rfl

theorem act_withSnapshots (s : State) (snapshots : Table (List Instance)) {action : Action}
    (hcommit : ∀ service is, action ≠ .commit service is)
    (hsubscribe : ∀ id service, action ≠ .subscribe id service) :
    let t : State := { s with snapshots }
    s.answer (.act action) = t.answer (.act action) ∧
      (s.perform action).subscriptions = (t.perform action).subscriptions := by
  cases action with
  | commit service is => exact absurd rfl (hcommit service is)
  | subscribe id service => exact absurd rfl (hsubscribe id service)
  | unsubscribe service id =>
    simp only [answer, perform, unsubscribe]
    split <;> exact ⟨rfl, rfl⟩
  | stop id =>
    refine ⟨rfl, ?_⟩
    simp only [perform, stop, subscription?]
    split
    · rfl
    · split
      · rfl
      · simp only [unsubscribe, alter]
        split <;> rfl
  | receive id limit =>
    simp only [answer, perform, receive, subscription?]
    cases s.subscriptions.find? (·.id == id) <;> exact ⟨rfl, rfl⟩
  | dropReceiver id => exact ⟨rfl, rfl⟩

theorem Alike.commit (h : s.Alike t) (service : String) (is : List Instance) :
    (s.commit service is).1 = (t.commit service is).1 ∧
      (s.commit service is).2.Alike (t.commit service is).2 := by
  have hchanges : (s.commit service is).1 = (t.commit service is).1 :=
    congrArg (difference · (distinct is)) (h.instances_eq service)
  refine ⟨hchanges, h.buffer_eq, fun service' => ?_, ?_⟩
  · rw [get?_snapshots_commit, get?_snapshots_commit, h.get?_eq]
  · show s.subscriptions.map (Subscription.notify service (s.commit service is).1) =
      t.subscriptions.map (Subscription.notify service (t.commit service is).1)
    rw [hchanges, h.subscriptions_eq]

theorem Alike.subscribe (h : s.Alike t) (id : Nat) (service : String) :
    (s.subscribe id service).Alike (t.subscribe id service) := by
  refine ⟨h.buffer_eq, h.get?_eq, ?_⟩
  show s.subscriptions ++ [s.opening id service] = t.subscriptions ++ [t.opening id service]
  rw [h.subscriptions_eq, opening, opening, capacityFor, capacityFor, h.instances_eq, h.buffer_eq]

theorem Alike.act (h : s.Alike t) {action : Action}
    (hcommit : ∀ service is, action ≠ .commit service is)
    (hsubscribe : ∀ id service, action ≠ .subscribe id service) :
    s.answer (.act action) = t.answer (.act action) ∧
      (s.perform action).Alike (t.perform action) := by
  have heq : t = { s with snapshots := t.snapshots } := by
    obtain ⟨buffer, snapshots, subscriptions⟩ := t
    obtain ⟨rfl, _, rfl⟩ := h
    rfl
  obtain ⟨hanswer, hsubscriptions⟩ := act_withSnapshots s t.snapshots hcommit hsubscribe
  rw [← heq] at hanswer hsubscriptions
  refine ⟨hanswer, ?_, fun service => ?_, hsubscriptions⟩
  · rw [buffer_perform, buffer_perform, h.buffer_eq]
  · rw [snapshots_perform hcommit, snapshots_perform hcommit, h.get?_eq]

/-- A request is answered alike, and leads to states that are alike. -/
theorem Alike.request (h : s.Alike t) (q : Request) :
    s.answer q = t.answer q ∧ (s.after q).Alike (t.after q) := by
  cases q with
  | act action =>
    cases action with
    | commit service is =>
      obtain ⟨hchanges, hnext⟩ := h.commit service is
      exact ⟨congrArg Answer.changes hchanges, hnext⟩
    | subscribe id service => exact ⟨rfl, h.subscribe id service⟩
    | _ => exact h.act nofun nofun
  | instances service => exact ⟨congrArg Answer.members (h.instances_eq service), h⟩
  | services => exact ⟨congrArg Answer.names h.services_eq, h⟩
  | watcherCount service =>
    refine ⟨?_, h⟩
    rw [answer, answer, watcherCount, watcherCount, h.subscriptions_eq]
  | isStopped id =>
    refine ⟨?_, h⟩
    rw [answer, answer, isStopped, isStopped, subscription?, subscription?, h.subscriptions_eq]

theorem Alike.transcript_eq (h : s.Alike t) (requests : List Request) :
    s.transcript requests = t.transcript requests := by
  induction requests generalizing s t with
  | nil => rfl
  | cons q rest ih =>
    obtain ⟨hanswer, hnext⟩ := h.request q
    rw [transcript, transcript, hanswer, ih hnext]

theorem Alike.afterAll (h : s.Alike t) (requests : List Request) :
    (s.afterAll requests).Alike (t.afterAll requests) := by
  induction requests generalizing s t with
  | nil => exact h
  | cons q rest ih => exact ih (h.request q).2

/-! ## Commits in another order -/

def committing (c : String × List Instance) : Request := .act (.commit c.1 c.2)

theorem commit_commit_fst (h : service ≠ service') (s : State) (is is' : List Instance) :
    ((s.commit service is).2.commit service' is').1 = (s.commit service' is').1 :=
  congrArg (difference · (distinct is')) ((instances_commit s service service' is).trans (if_neg h))

/-- No subscription is to both services, so what one commit does to it the other one leaves. -/
theorem notify_notify_comm (h : service ≠ service') (cs cs' : List Change) (sub : Subscription) :
    (sub.notify service cs).notify service' cs' = (sub.notify service' cs').notify service cs := by
  by_cases hservice : sub.service = service
  · have hother : sub.service ≠ service' := hservice ▸ h
    rw [Subscription.notify_of_ne hother, Subscription.notify_of_ne]
    rwa [Subscription.notify_service]
  · have hother : (sub.notify service' cs').service ≠ service := by
      rwa [Subscription.notify_service]
    rw [Subscription.notify_of_ne hservice, Subscription.notify_of_ne hother]

theorem alike_swap (h : service ≠ service') (s : State) (is is' : List Instance) :
    ((s.commit service is).2.commit service' is').2.Alike
      ((s.commit service' is').2.commit service is).2 := by
  refine ⟨rfl, fun x => ?_, ?_⟩
  · simp only [get?_snapshots_commit]
    by_cases hx : service = x
    · have hx' : service' ≠ x := fun heq => h (hx.trans heq.symm)
      rw [if_neg hx', if_pos hx, if_pos hx]
    · rw [if_neg hx, if_neg hx]
  · show (s.subscriptions.map (Subscription.notify service (s.commit service is).1)).map
        (Subscription.notify service' ((s.commit service is).2.commit service' is').1) =
      (s.subscriptions.map (Subscription.notify service' (s.commit service' is').1)).map
        (Subscription.notify service ((s.commit service' is').2.commit service is).1)
    rw [commit_commit_fst h, commit_commit_fst h.symm, List.map_map, List.map_map]
    exact List.map_congr_left fun sub _ => notify_notify_comm h _ _ sub

/-- In any order, commits to different services give the same changes each, and lead to states that
are alike. -/
theorem commits_perm {commits commits' : List (String × List Instance)}
    (hperm : commits.Perm commits') (hdistinct : (commits.map Prod.fst).Nodup) (s : State) :
    (s.transcript (commits.map committing)).Perm (s.transcript (commits'.map committing)) ∧
      (s.afterAll (commits.map committing)).Alike (s.afterAll (commits'.map committing)) := by
  induction hperm generalizing s with
  | nil => exact ⟨.refl _, .refl s⟩
  | cons c _ ih =>
    obtain ⟨hanswers, halike⟩ := ih (List.nodup_cons.mp hdistinct).2 (s.after (committing c))
    exact ⟨hanswers.cons _, halike⟩
  | swap c c' rest =>
    have hne : c'.1 ≠ c.1 := by
      intro heq
      exact (List.nodup_cons.mp hdistinct).1 (heq ▸ List.mem_cons_self)
    have halike := alike_swap hne s c'.2 c.2
    refine ⟨?_, halike.afterAll (rest.map committing)⟩
    simp only [List.map_cons, transcript, committing, answer, after, perform]
    rw [commit_commit_fst hne, commit_commit_fst hne.symm, halike.transcript_eq]
    exact .swap _ _ _
  | trans hfirst _ ih ih' =>
    obtain ⟨hanswers, halike⟩ := ih hdistinct s
    obtain ⟨hanswers', halike'⟩ := ih' ((hfirst.map Prod.fst).nodup_iff.mp hdistinct) s
    exact ⟨hanswers.trans hanswers', halike.trans halike'⟩

/-! ## Listings -/

theorem afterAll_map_act (s : State) (actions : List Action) :
    s.afterAll (actions.map .act) = s.performAll actions :=
  List.foldl_map

def listed (listing : Listing) (service : String) : String × List Instance :=
  (service, ((listing.get? service).getD []).map fun a => ⟨service, a⟩)

theorem commitAll_eq_afterAll (s : State) (listing : Listing) (services : List String) :
    (s.commitAll listing services).2 =
      s.afterAll ((services.map (listed listing)).map committing) := by
  rw [commitAll_eq_performAll, ← afterAll_map_act, List.map_map, List.map_map]
  rfl

theorem commitAll_perm {services services' : List String} (hperm : services.Perm services')
    (hdistinct : services.Nodup) (s : State) (listing : Listing) :
    (s.commitAll listing services).1 = (s.commitAll listing services').1 ∧
      (s.commitAll listing services).2.Alike (s.commitAll listing services').2 := by
  refine ⟨?_, ?_⟩
  · rw [count_commitAll s listing hdistinct,
      count_commitAll s listing (hperm.nodup_iff.mp hdistinct)]
    exact (hperm.map _).sum_nat
  · rw [commitAll_eq_afterAll, commitAll_eq_afterAll]
    refine (commits_perm (hperm.map (listed listing)) ?_ s).2
    rw [List.map_map]
    exact (List.map_id services).symm ▸ hdistinct

theorem ofListing_eq_afterAll (buffer : Nat) (listing : Listing) :
    ofListing buffer listing = (new buffer).afterAll
      ((listing.entries.map fun e => (e.1, e.2.map fun a => ⟨e.1, a⟩)).map committing) := by
  rw [afterAll, List.map_map, List.foldl_map]
  rfl

theorem ofListing_perm {listing listing' : Listing}
    (hperm : listing.entries.Perm listing'.entries) (buffer : Nat) :
    (ofListing buffer listing).Alike (ofListing buffer listing') := by
  rw [ofListing_eq_afterAll, ofListing_eq_afterAll]
  refine (commits_perm (hperm.map _) ?_ (new buffer)).2
  rw [List.map_map]
  exact listing.distinct

/-- In whatever state a registry is, commits to pairwise different services may be made in any
order: each of them gives the same changes, every service has the same members afterwards, the
same subscriptions are there with the same queues, and every later run of requests gets the same
answers. So nobody finds out in which order the registry of a listing took it in, or a reload went
through the services. -/
theorem order_unseen :
    (∀ (s : State) (commits commits' : List (String × List Instance)),
      (commits.map Prod.fst).Nodup → commits.Perm commits' →
      let one := s.afterAll (commits.map committing)
      let other := s.afterAll (commits'.map committing)
      (s.transcript (commits.map committing)).Perm (s.transcript (commits'.map committing)) ∧
      (∀ service, one.instances service = other.instances service) ∧
      one.services = other.services ∧
      one.subscriptions = other.subscriptions ∧
      ∀ later, one.transcript later = other.transcript later) ∧
    (∀ listing listing' : Listing, listing.entries.Perm listing'.entries →
      ∀ later, (Registry.ofListing listing).state.transcript later =
        (Registry.ofListing listing').state.transcript later) ∧
    ∀ (s : State) (listing : Listing) (services : List String),
      services.Perm (s.servicesWith listing) →
      (s.commitAll listing services).1 = (s.adopt listing).1 ∧
      (s.commitAll listing services).2.subscriptions = (s.adopt listing).2.subscriptions ∧
      ∀ later, (s.commitAll listing services).2.transcript later =
        (s.adopt listing).2.transcript later := by
  refine ⟨fun s commits commits' hdistinct hperm => ?_, fun listing listing' hperm => ?_,
    fun s listing services hperm => ?_⟩
  · obtain ⟨hanswers, halike⟩ := commits_perm hperm hdistinct s
    exact ⟨hanswers, halike.instances_eq, halike.services_eq, halike.subscriptions_eq,
      halike.transcript_eq⟩
  · exact (ofListing_perm hperm defaultWatchBuffer).transcript_eq
  · have hdistinct : services.Nodup := hperm.nodup_iff.mpr (nodup_servicesWith s listing)
    obtain ⟨hcount, halike⟩ := commitAll_perm hperm hdistinct s listing
    exact ⟨hcount, halike.subscriptions_eq, halike.transcript_eq⟩

/-- Three commits and their reverse, where one queue overflows, one receiver is gone, and one
service loses all its members; a listing of two services, and a pass over three, in both orders. -/
theorem order_unseen_reversed :
    let s := (new 1).performAll [.commit "orders" [⟨"orders", "a:1"⟩], .subscribe 0 "users",
      .subscribe 1 "orders", .dropReceiver 1]
    let commits : List (String × List Instance) :=
      [("users", [⟨"users", "b:1"⟩, ⟨"users", "c:1"⟩]), ("orders", []),
        ("carts", [⟨"carts", "d:1"⟩])]
    let one := s.afterAll (commits.map committing)
    let other := s.afterAll (commits.reverse.map committing)
    let listing : Listing := Table.ofList [("users", ["b:1"]), ("carts", ["d:1"])]
    let listing' : Listing := Table.ofList [("carts", ["d:1"]), ("users", ["b:1"])]
    let services := ["users", "orders", "carts"]
    (commits.map Prod.fst).Nodup ∧
      (s.transcript (commits.map committing)).Perm
        (s.transcript (commits.reverse.map committing)) ∧
      one.subscriptions = other.subscriptions ∧
      other.subscriptions.map (fun sub => (sub.queue, sub.isListed)) =
        [([.joined ⟨"users", "b:1"⟩], true), ([], false)] ∧
      listing.entries.Perm listing'.entries ∧
      (∀ later, (Registry.ofListing listing).state.transcript later =
        (Registry.ofListing listing').state.transcript later) ∧
      services.Perm (s.servicesWith listing) ∧
      (s.commitAll listing services).1 = (s.adopt listing).1 := by
  intro s commits one other listing listing' services
  have hdistinct : (commits.map Prod.fst).Nodup := by decide
  have hlisting : listing.entries.Perm listing'.entries := by decide
  have hservices : services.Perm (s.servicesWith listing) := by
    refine List.Perm.trans ?_ (List.mergeSort_perm
      (s.snapshots.keys ++ listing.keys.filter fun k => !s.snapshots.keys.contains k) _).symm
    decide
  obtain ⟨hcommits, hlistings, hpass⟩ := order_unseen
  obtain ⟨hanswers, _, _, hsubscriptions, _⟩ :=
    hcommits s commits commits.reverse hdistinct commits.reverse_perm.symm
  exact ⟨hdistinct, hanswers, hsubscriptions, by decide, hlisting, hlistings _ _ hlisting,
    hservices, (hpass s listing services hservices).1⟩

end Roster.State
