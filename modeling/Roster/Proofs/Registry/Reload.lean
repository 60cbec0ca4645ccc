import Mathlib.Algebra.BigOperators.Group.Finset.Basic
import Mathlib.Algebra.GroupWithZero.Nat
import Roster.Proofs.Difference
import Roster.Proofs.Registry.History
import Roster.Registry.File

/-!
# Reloads

A reload goes through the services that have members or are listed, and commits each of them once.
A pass over some services leaves of each of them what is listed (`snapshots_commitAll`), offers each
subscription the difference of its own service alone (`subscriptions_commitAll`), and counts the
changes (`count_commitAll`). A state that shows a listing already takes it without any change
(`commitAll_of_shows`), whatever subscriptions there are. Whatever cannot be read is found out
before anything is committed (`Listing.load_spec`).
-/

namespace Roster

/-- The members that a listing gives a service: the listed addresses, each where it is first. -/
def Listing.members (listing : Listing) (service : String) : List Instance :=
  distinct (((listing.get? service).getD []).map fun a => ⟨service, a⟩)

theorem Listing.members_eq_nil_iff {listing : Listing} {service : String} :
    listing.members service = [] ↔ (listing.get? service).getD [] = [] := by
  unfold members
  cases (listing.get? service).getD [] <;> simp [distinct]

namespace State

/-- The members of every service are those that a listing gives it. -/
def Shows (s : State) (listing : Listing) : Prop :=
  ∀ service, s.snapshots.get? service = kept? (listing.members service)

theorem Shows.instances_eq {s : State} {listing : Listing} (h : s.Shows listing)
    (service : String) : s.instances service = listing.members service := by
  rw [instances, h service, getD_kept?]

theorem Shows.withSubscriptions {s : State} {listing : Listing} (h : s.Shows listing)
    (subscriptions : List Subscription) : ({ s with subscriptions } : State).Shows listing :=
  h

theorem mem_services {s : State} {service : String} :
    service ∈ s.services ↔ (s.snapshots.get? service).isSome = true := by
  rw [services, List.mem_mergeSort, Table.mem_keys_iff]

theorem nodup_services (s : State) : s.services.Nodup :=
  (List.mergeSort_perm _ _).nodup_iff.mpr s.snapshots.distinct

theorem Shows.mem_services_iff {s : State} {listing : Listing} (h : s.Shows listing)
    {service : String} :
    service ∈ s.services ↔
      ∃ addresses, listing.get? service = some addresses ∧ addresses ≠ [] := by
  rw [mem_services, h service, kept?]
  have hnil := @Listing.members_eq_nil_iff listing service
  cases hget : listing.get? service with
  | none =>
    rw [hget] at hnil
    simp [hnil.mpr rfl]
  | some addresses =>
    rw [hget, Option.getD_some] at hnil
    by_cases haddresses : addresses = []
    · simp [hnil.mpr haddresses, haddresses]
    · simp [mt hnil.mp haddresses, haddresses]

/-! ## A pass over services -/

def commitListed (s : State) (listing : Listing) (service : String) : List Change × State :=
  s.commitAddresses service ((listing.get? service).getD [])

theorem commitAll_cons (s : State) (listing : Listing) (service : String) (rest : List String) :
    s.commitAll listing (service :: rest) =
      ((s.commitListed listing service).1.length +
          ((s.commitListed listing service).2.commitAll listing rest).1,
        ((s.commitListed listing service).2.commitAll listing rest).2) := rfl

theorem commitAll_eq_performAll (s : State) (listing : Listing) (services : List String) :
    (s.commitAll listing services).2 = s.performAll (services.map fun service =>
      .commit service (((listing.get? service).getD []).map fun a => ⟨service, a⟩)) := by
  induction services generalizing s with
  | nil => rfl
  | cons first rest ih =>
    rw [commitAll_cons, ih, List.map_cons, performAll_cons]
    rfl

theorem commitListed_fst (s : State) (listing : Listing) (service : String) :
    (s.commitListed listing service).1 =
      difference (s.instances service) (listing.members service) := rfl

theorem subscriptions_commitListed (s : State) (listing : Listing) (service : String) :
    (s.commitListed listing service).2.subscriptions =
      s.subscriptions.map (Subscription.notify service (s.commitListed listing service).1) := rfl

theorem instances_commitListed_of_ne {s : State} {listing : Listing} {service service' : String}
    (h : service ≠ service') :
    (s.commitListed listing service).2.instances service' = s.instances service' :=
  (instances_commit s service service' _).trans (if_neg h)

/-- A pass leaves of every service in it what is listed, and of every other one what was there. -/
theorem snapshots_commitAll (s : State) (listing : Listing) (services : List String)
    (service : String) :
    (s.commitAll listing services).2.snapshots.get? service =
      if service ∈ services then kept? (listing.members service)
      else s.snapshots.get? service := by
  induction services generalizing s with
  | nil => rfl
  | cons first rest ih =>
    rw [commitAll_cons, ih]
    show (if _ then _ else (s.commit first _).2.snapshots.get? service) = _
    rw [get?_snapshots_commit]
    by_cases hrest : service ∈ rest
    · rw [if_pos hrest, if_pos (List.mem_cons_of_mem first hrest)]
    · by_cases hfirst : first = service
      · subst hfirst
        rw [if_neg hrest, if_pos rfl, if_pos List.mem_cons_self]
        rfl
      · have hnot : service ∉ first :: rest := by
          rw [List.mem_cons, not_or]
          exact ⟨Ne.symm hfirst, hrest⟩
        rw [if_neg hrest, if_neg hfirst, if_neg hnot]

/-- A pass offers each subscription the difference that its own service made. -/
theorem subscriptions_commitAll (s : State) (listing : Listing) {services : List String}
    (hnodup : services.Nodup) :
    (s.commitAll listing services).2.subscriptions = s.subscriptions.map fun sub =>
      if sub.service ∈ services then
        sub.notify sub.service
          (difference (s.instances sub.service) (listing.members sub.service))
      else sub := by
  induction services generalizing s with
  | nil => exact (List.map_id' s.subscriptions).symm
  | cons first rest ih =>
    obtain ⟨hfirst, hrest⟩ := List.nodup_cons.mp hnodup
    rw [commitAll_cons, ih _ hrest, subscriptions_commitListed, List.map_map]
    refine List.map_congr_left fun sub _ => ?_
    rw [Function.comp_apply, Subscription.notify_service]
    by_cases hservice : sub.service = first
    · -- The rest of the pass does not come back to the first service.
      rw [hservice, if_neg hfirst, if_pos List.mem_cons_self]
      rfl
    · rw [Subscription.notify_of_ne hservice]
      by_cases hmem : sub.service ∈ rest
      · rw [if_pos hmem, if_pos (List.mem_cons_of_mem first hmem),
          instances_commitListed_of_ne (Ne.symm hservice)]
      · have hnot : sub.service ∉ first :: rest := by
          rw [List.mem_cons, not_or]
          exact ⟨hservice, hmem⟩
        rw [if_neg hmem, if_neg hnot]

theorem count_commitAll (s : State) (listing : Listing) {services : List String}
    (hnodup : services.Nodup) :
    (s.commitAll listing services).1 = (services.map fun service =>
      (difference (s.instances service) (listing.members service)).length).sum := by
  induction services generalizing s with
  | nil => rfl
  | cons first rest ih =>
    obtain ⟨hfirst, hrest⟩ := List.nodup_cons.mp hnodup
    rw [commitAll_cons, ih _ hrest, List.map_cons, List.sum_cons, commitListed_fst]
    refine congrArg (_ + List.sum ·) (List.map_congr_left fun service hservice => ?_)
    have hne : first ≠ service := by
      rintro rfl
      exact hfirst hservice
    rw [instances_commitListed_of_ne hne]

/-! ## A listing that is shown already -/

theorem commitListed_of_shows {s : State} {listing : Listing} (h : s.Shows listing)
    (service : String) : s.commitListed listing service = ([], s) := by
  have hchanges : (s.commitListed listing service).1 = [] := by
    rw [commitListed_fst, h.instances_eq]
    exact difference_eq_nil fun _ => rfl
  have hsubscriptions : (s.commitListed listing service).2.subscriptions = s.subscriptions := by
    rw [subscriptions_commitListed, hchanges]
    exact (List.map_congr_left fun sub _ => Subscription.notify_nil service sub).trans
      (List.map_id' s.subscriptions)
  have hsnapshots : (s.commitListed listing service).2.snapshots = s.snapshots := by
    show (if (listing.members service).isEmpty then s.snapshots.erase service
      else s.snapshots.set service (listing.members service)) = s.snapshots
    have hkept := h service
    unfold kept? at hkept
    split
    · next hempty =>
      rw [if_pos hempty] at hkept
      exact Table.erase_eq_self hkept
    · next hsome =>
      rw [if_neg hsome] at hkept
      exact Table.set_eq_self hkept
  have hstate : (s.commitListed listing service).2 =
      { s with
        snapshots := (s.commitListed listing service).2.snapshots
        subscriptions := (s.commitListed listing service).2.subscriptions } := rfl
  rw [hsnapshots, hsubscriptions] at hstate
  exact Prod.ext hchanges hstate

theorem commitAll_of_shows {s : State} {listing : Listing} (h : s.Shows listing)
    (services : List String) : s.commitAll listing services = (0, s) := by
  induction services with
  | nil => rfl
  | cons first rest ih =>
    rw [commitAll_cons, commitListed_of_shows h, ih]
    rfl

/-! ## The pass of a reload -/

theorem mem_servicesWith {s : State} {listing : Listing} {service : String} :
    service ∈ s.servicesWith listing ↔ service ∈ s.services ∨ service ∈ listing.keys := by
  rw [servicesWith, services, List.mem_mergeSort, List.mem_mergeSort, List.mem_append,
    List.mem_filter]
  by_cases hkey : service ∈ s.snapshots.keys <;> simp [hkey]

theorem nodup_servicesWith (s : State) (listing : Listing) : (s.servicesWith listing).Nodup := by
  refine (List.mergeSort_perm _ _).nodup_iff.mpr (List.nodup_append.mpr ?_)
  refine ⟨s.snapshots.distinct, List.filter_sublist.nodup listing.distinct, ?_⟩
  rintro service hservice _ hlisted rfl
  have hnew := (List.mem_filter.mp hlisted).2
  rw [List.contains_iff_mem.mpr hservice] at hnew
  cases hnew

theorem nothing_of_not_mem_servicesWith {s : State} {listing : Listing} {service : String}
    (h : service ∉ s.servicesWith listing) :
    s.snapshots.get? service = none ∧ listing.members service = [] := by
  rw [mem_servicesWith, not_or, mem_services, Bool.not_eq_true, Option.isSome_eq_false_iff,
    Option.isNone_iff_eq_none, ← Table.get?_eq_none_iff] at h
  exact ⟨h.1, Listing.members_eq_nil_iff.mpr (by rw [h.2]; rfl)⟩

/-- After a reload every service has the members that the listing gives it. -/
theorem shows_adopt (s : State) (listing : Listing) : (s.adopt listing).2.Shows listing := by
  intro service
  rw [adopt, snapshots_commitAll]
  split
  · rfl
  · next hnot =>
    obtain ⟨hnone, hmembers⟩ := nothing_of_not_mem_servicesWith hnot
    rw [hnone, hmembers]
    rfl

theorem subscriptions_adopt (s : State) (listing : Listing) :
    (s.adopt listing).2.subscriptions = s.subscriptions.map fun sub =>
      sub.notify sub.service
        (difference (s.instances sub.service) (listing.members sub.service)) := by
  rw [adopt, subscriptions_commitAll s listing (nodup_servicesWith s listing)]
  refine List.map_congr_left fun sub _ => ?_
  split
  · rfl
  · next hnot =>
    obtain ⟨hnone, hmembers⟩ := nothing_of_not_mem_servicesWith hnot
    rw [instances, hnone, hmembers]
    exact (Subscription.notify_nil _ _).symm

/-- A reload counts, over all services, the addresses that left or entered. -/
theorem count_adopt (s : State) (listing : Listing) :
    (s.adopt listing).1 = ∑ service ∈ (s.services ++ listing.keys).toFinset,
      ((addressSet (s.instances service) \ addressSet (listing.members service)).card +
        (addressSet (listing.members service) \ addressSet (s.instances service)).card) := by
  have hset : (s.services ++ listing.keys).toFinset = (s.servicesWith listing).toFinset := by
    ext service
    rw [List.mem_toFinset, List.mem_toFinset, List.mem_append, mem_servicesWith]
  rw [hset, List.sum_toFinset _ (nodup_servicesWith s listing), adopt,
    count_commitAll s listing (nodup_servicesWith s listing)]
  congr 1
  exact List.map_congr_left fun service _ => length_difference _ _

end State

/-! ## Documents that can be read -/

/-- The document at a path spells a listing: its notation is known, the file holds a text that is
not blank, and the text reads as the listing. -/
def Listing.SpelledAt (listing : Listing) (disk : Disk) (path : String) : Prop :=
  ∃ format text, ListingFormat.ofPath path = .ok format ∧ disk.read path = .ok text ∧
    Text.allBlank text = false ∧ format.read? text = some listing

/-- What keeps a document from being read: its notation is unknown, the file is missing, a directory
or no text, or the text is blank or malformed. -/
def Listing.Unreadable (disk : Disk) (path : String) : Prop :=
  (∃ e, ListingFormat.ofPath path = .error e) ∨ (∃ refusal, disk.read path = .error refusal) ∨
    ∃ format text, ListingFormat.ofPath path = .ok format ∧ disk.read path = .ok text ∧
      (Text.allBlank text = true ∨ format.read? text = none)

/-- Reading a document anew gives the listing that it spells, and fails if something keeps it from
being read. -/
theorem Listing.load_spec (disk : Disk) (path : String) :
    (∀ listing : Listing, Listing.load disk path false = .ok listing ↔
      listing.SpelledAt disk path) ∧
    ((∃ e, Listing.load disk path false = .error e) ↔ Listing.Unreadable disk path) := by
  unfold Listing.load Listing.SpelledAt Listing.Unreadable
  cases hformat : ListingFormat.ofPath path with
  | error e => simp [bind, Except.bind]
  | ok format =>
    cases htext : disk.read path with
    | error refusal => simp [bind, Except.bind, Except.mapError]
    | ok text =>
      cases hblank : Text.allBlank text with
      | true => simp [bind, Except.bind, Except.mapError, hblank]
      | false =>
        cases hread : format.read? text with
        | none => simp [bind, Except.bind, Except.mapError, hblank, hread]
        | some spelled => simp [bind, Except.bind, Except.mapError, hblank, hread]

namespace FileRegistry

variable {r : FileRegistry} {disk : Disk}

theorem start_eq_ok {path : String} {buffer : Nat} (h : start disk path buffer = .ok r) :
    ∃ listing, Listing.load disk path true = .ok listing ∧
      r = { path, state := ((State.new buffer).adopt listing).2 } := by
  unfold start load at h
  cases hload : Listing.load disk path true with
  | error e =>
    rw [hload] at h
    cases h
  | ok listing =>
    rw [hload] at h
    cases h
    exact ⟨listing, rfl, rfl⟩

theorem reload_of_spelledAt {listing : Listing} (h : listing.SpelledAt disk r.path) :
    r.reload disk =
      (.ok (r.state.adopt listing).1, { r with state := (r.state.adopt listing).2 }) := by
  rw [reload, load, ((Listing.load_spec disk r.path).1 listing).mpr h]

theorem reload_of_shows {listing : Listing} (hshows : r.state.Shows listing)
    (h : listing.SpelledAt disk r.path) : r.reload disk = (.ok 0, r) := by
  rw [reload_of_spelledAt h, State.adopt, State.commitAll_of_shows hshows]

theorem reload_eq_error_iff :
    (∃ e, (r.reload disk).1 = .error e) ↔ Listing.Unreadable disk r.path := by
  rw [← (Listing.load_spec disk r.path).2, reload, load]
  cases Listing.load disk r.path false with
  | error e => exact ⟨fun _ => ⟨e, rfl⟩, fun _ => ⟨e, rfl⟩⟩
  | ok listing => simp

theorem reload_of_error {e : RoutingError} (h : (r.reload disk).1 = .error e) :
    (r.reload disk).2 = r := by
  rw [reload, load] at h ⊢
  cases hload : Listing.load disk r.path false with
  | error e' => rfl
  | ok listing =>
    rw [hload] at h
    cases h

/-- Whatever state a registry is in, a reload is all or nothing. If the document spells a listing,
every service has the members that are listed for it, the services are those with any, the answer
counts the addresses that left or entered any service, and the difference of its own service waits
for each subscription as far as there is room, which is nothing if the service kept its addresses;
another reload of
the same listing, whatever subscriptions there are by then, answers zero and changes nothing.
Otherwise the reload fails, and the registry is what it was. -/
theorem reload_exact (r : FileRegistry) (disk : Disk) :
    let answer := (r.reload disk).1
    let next := (r.reload disk).2
    (∀ listing : Listing, listing.SpelledAt disk r.path →
      (∀ service, next.state.instances service = listing.members service) ∧
      (next.state.services.Nodup ∧ ∀ service, service ∈ next.state.services ↔
        ∃ addresses, listing.get? service = some addresses ∧ addresses ≠ []) ∧
      answer = .ok (∑ service ∈ (r.state.services ++ listing.keys).toFinset,
        ((addressSet (r.state.instances service) \
            addressSet (next.state.instances service)).card +
          (addressSet (next.state.instances service) \
            addressSet (r.state.instances service)).card)) ∧
      next.state.subscriptions = r.state.subscriptions.map (fun sub => sub.informed
        (difference (r.state.instances sub.service) (next.state.instances sub.service))) ∧
      (∀ sub : Subscription, addressSet (r.state.instances sub.service) =
          addressSet (next.state.instances sub.service) →
        sub.informed (difference (r.state.instances sub.service)
          (next.state.instances sub.service)) = sub) ∧
      ∀ (disk' : Disk) (subscriptions : List Subscription), listing.SpelledAt disk' r.path →
        let later := { next with state := { next.state with subscriptions } }
        later.reload disk' = (.ok 0, later)) ∧
    ((∃ e, answer = .error e) ↔ Listing.Unreadable disk r.path) ∧
    ∀ e, answer = .error e → next = r := by
  intro answer next
  refine ⟨fun listing hspelled => ?_, reload_eq_error_iff, fun e he => reload_of_error he⟩
  have hreload := reload_of_spelledAt hspelled
  have hanswer : answer = .ok (r.state.adopt listing).1 := congrArg Prod.fst hreload
  have hnext : next = { r with state := (r.state.adopt listing).2 } := congrArg Prod.snd hreload
  clear_value answer next
  have hshows : next.state.Shows listing := hnext ▸ State.shows_adopt r.state listing
  have hinstances : ∀ service, next.state.instances service = listing.members service :=
    hshows.instances_eq
  refine ⟨hinstances, ⟨State.nodup_services _, fun service => hshows.mem_services_iff⟩, ?count,
    ?offers, ?unaffected, ?again⟩
  case count =>
    simp only [hinstances]
    rw [hanswer, State.count_adopt]
  case offers =>
    simp only [hinstances, ← Subscription.notify_eq_informed rfl]
    rw [hnext, State.subscriptions_adopt]
  case unaffected =>
    intro sub hsame
    rw [← Subscription.notify_eq_informed rfl, difference_eq_nil, Subscription.notify_nil]
    intro a
    rw [Bool.eq_iff_iff, ← mem_addressSet, ← mem_addressSet, hsame]
  case again =>
    intro disk' subscriptions hspelled' later
    have hpath : next.path = r.path := by rw [hnext]
    exact reload_of_shows (hshows.withSubscriptions subscriptions) (hpath ▸ hspelled')

/-- A member moves to another address, which the document lists twice. -/
theorem reload_exact_moved :
    let text := "\x7b\"users\":[\"b:1\",\"b:1\"]\x7d"
    let disk : Disk := Table.ofList [("r.json", .file text.toUTF8)]
    let listing : Listing := Table.ofList [("users", ["b:1", "b:1"])]
    let r : FileRegistry :=
      { path := "r.json"
        state := (State.new 1).performAll
          [.commit "users" [⟨"users", "a:1"⟩], .subscribe 0 "users"] }
    listing.SpelledAt disk r.path ∧ (r.reload disk).1 = .ok 2 ∧
      (r.reload disk).2.state.instances "users" = [⟨"users", "b:1"⟩] ∧
      (r.reload disk).2.reload disk = (.ok 0, (r.reload disk).2) := by
  intro text disk listing r
  have hsplit : "r.json".splitOn "/" = ["r.json"] := by
    rw [String.splitOn, if_neg (by decide)]
    iterate 6 rw [String.splitOnAux, if_neg (by decide +kernel), if_neg (by decide +kernel)]
    rw [String.splitOnAux, if_pos (by decide +kernel)]
    decide +kernel
  have hnames : Path.names "r.json" = ["r.json"] := by
    rw [Path.names, hsplit]
    decide
  have hformat : ListingFormat.ofPath r.path = .ok .json := by
    show ListingFormat.ofPath "r.json" = _
    rw [ListingFormat.ofPath, Path.extension?, Path.fileName?, hnames]
    decide +kernel
  have htext : disk.read r.path = .ok text := by
    have hentry : disk.get? "r.json" = some (.file text.toUTF8) := by rfl
    have hdecoded : String.fromUTF8? text.toUTF8 = some text := dif_pos text.isValidUTF8
    show disk.read "r.json" = _
    rw [Disk.read, hnames, Path.asksForDirectory, hsplit, if_neg (by decide)]
    dsimp only
    rw [hentry]
    dsimp only
    rw [hdecoded]
    rfl
  have hspelled : listing.SpelledAt disk r.path :=
    ⟨.json, text, hformat, htext, by decide +kernel, by decide +kernel⟩
  obtain ⟨hinstances, _, hanswer, _, _, hagain⟩ := (reload_exact r disk).1 listing hspelled
  have hsecond := hagain disk (r.reload disk).2.state.subscriptions hspelled
  generalize r.reload disk = first at *
  refine ⟨hspelled, ?_, ?_, hsecond⟩
  · rw [hanswer]
    simp only [hinstances]
    decide +kernel
  · rw [hinstances]
    decide

end FileRegistry

end Roster
