import Roster.Proofs.Connections

/-!
# When connections are made and pickers are built

A list of members is gone through once. At each member the connector is called exactly if there is
no connection to its address by then: none was held before, and none was made at an earlier member
(`Visited`, `visited_connectAll`). So a connection lasts as long as its address is listed
(`held_of_keeps`), and an address that was not held starts without a mark.

A channel remembers from its past only whether it was closed and whether a list was accepted
(`Remembers`). With this, the pickers that are built are those of the operations that are `Due`
(`builds_perform`).
-/

namespace Roster.Connections

variable {σ C : Type}

/-! ## Attempts -/

structure Attempt (C : Type) where
  member : Instance
  result : Except RoutingError C

/-- A connector that takes notes of its calls. -/
def recording (connect : Connector σ C) : Connector (σ × List (Attempt C)) C :=
  fun s m => ((connect s.1 m).1, (connect s.1 m).2, s.2 ++ [⟨m, (connect s.1 m).1⟩])

/-- A member of a list in its turn: the result of the connector, if it is called. -/
structure Visit (C : Type) where
  member : Instance
  outcome : Option (Except RoutingError C)

namespace Visit

def attempt? (v : Visit C) : Option (Attempt C) := v.outcome.map (⟨v.member, ·⟩)

def Makes (v : Visit C) (address : String) (c : C) : Prop :=
  v.member.address = address ∧ v.outcome = some (.ok c)

end Visit

/-- The connections before and after some members were visited in turn. The connector is called for
a member if there is no connection to its address by then. -/
structure Visited (held held' : Table C) (visits : List (Visit C)) : Prop where
  called_iff : ∀ earlier v later, visits = earlier ++ v :: later →
    (v.outcome.isSome = true ↔
      held.get? v.member.address = none ∧ ∀ u ∈ earlier, ∀ c, ¬ u.Makes v.member.address c)
  held_iff : ∀ a c, held'.get? a = some c ↔
    held.get? a = some c ∨ ∃ v ∈ visits, v.Makes a c

variable {held held₁ held' : Table C} {visits : List (Visit C)}

theorem visited_nil (held : Table C) : Visited held held [] where
  called_iff earlier v later h := by cases earlier <;> cases h
  held_iff a c := by simp

/-- A visit comes first: the connector is called if there was no connection, and what it makes is
there for the later ones. -/
theorem Visited.cons (h : Visited held₁ held' visits) {v : Visit C}
    (hcalled : v.outcome.isSome = true ↔ held.get? v.member.address = none)
    (hheld : ∀ a c, held₁.get? a = some c ↔ held.get? a = some c ∨ v.Makes a c) :
    Visited held held' (v :: visits) where
  called_iff earlier u later heq := by
    have hnone (a : String) : held₁.get? a = none ↔ held.get? a = none ∧ ∀ c, ¬ v.Makes a c := by
      simp only [Option.eq_none_iff_forall_ne_some, ne_eq, hheld, not_or, forall_and]
    cases earlier with
    | nil =>
      obtain ⟨rfl, _⟩ := List.cons.inj heq
      simpa using hcalled
    | cons v' earlier =>
      obtain ⟨rfl, hrest⟩ := List.cons.inj heq
      rw [h.called_iff earlier u later hrest, hnone, List.forall_mem_cons, and_assoc]
  held_iff a c := by
    rw [h.held_iff, hheld, or_assoc]
    simp only [List.mem_cons, exists_eq_or_imp]

/-- To connect to members in turn is to visit them. -/
theorem visited_connectAll (connect : Connector σ C) (held : Table C)
    (w : σ × List (Attempt C)) (members : List Instance) :
    ∃ visits : List (Visit C), visits.map Visit.member = members ∧
      Visited held (connectAll (recording connect) held w members).1 visits ∧
      (connectAll (recording connect) held w members).2.2 =
        w.2 ++ visits.filterMap Visit.attempt? := by
  induction members generalizing held w with
  | nil => exact ⟨[], rfl, visited_nil held, (List.append_nil _).symm⟩
  | cons m rest ih =>
    unfold connectAll
    split
    · next hheld =>
      obtain ⟨visits, hmembers, hvisited, hlog⟩ := ih held w
      refine ⟨⟨m, none⟩ :: visits, congrArg (m :: ·) hmembers, hvisited.cons ?_ ?_, hlog⟩
      · simp [Option.isSome_iff_ne_none.mp hheld]
      · simp [Visit.Makes]
    · next hfree =>
      rw [Bool.not_eq_true, Option.isSome_eq_false_iff, Option.isNone_iff_eq_none] at hfree
      have hnote : (recording connect w m).2.2 = w.2 ++ [⟨m, (recording connect w m).1⟩] := rfl
      split
      · next c w' hconnect =>
        rw [hconnect] at hnote
        obtain ⟨visits, hmembers, hvisited, hlog⟩ := ih (held.set m.address c) w'
        refine ⟨⟨m, some (.ok c)⟩ :: visits, congrArg (m :: ·) hmembers, hvisited.cons ?_ ?_, ?_⟩
        · simp [hfree]
        · intro a c'
          rw [Table.get?_set]
          split
          · next ha =>
            subst ha
            simp [hfree, Visit.Makes]
          · next ha => simp [ha, Visit.Makes]
        · rw [hlog, hnote, List.append_assoc]
          rfl
      · next e w' hconnect =>
        rw [hconnect] at hnote
        obtain ⟨visits, hmembers, hvisited, hlog⟩ := ih held w'
        refine ⟨⟨m, some (.error e)⟩ :: visits, congrArg (m :: ·) hmembers,
          hvisited.cons ?_ ?_, ?_⟩
        · simp [hfree]
        · simp [Visit.Makes]
        · rw [hlog, hnote, List.append_assoc]
          rfl

/-! ## Lists of members -/

variable {c : Connections C} {connect : Connector σ C} {w : σ} {members : List Instance}

/-- The connections after a list of members was brought in, with a new picker if one is due. -/
def renewed (c next : Connections C) : Connections C :=
  if !c.isBuilt || c.readyAddresses != next.readyAddresses then next.rebuild else next

theorem sink_of_isClosed (h : c.isClosed = true) :
    sink connect (c, w) members = (.error .sinkClosed, (c, w)) := by
  unfold sink update
  dsimp only
  rw [if_pos h]

theorem sink_of_open (h : c.isClosed = false) :
    sink connect (c, w) members =
      (.ok (), c.renewed (c.bringIn connect w members).1, (c.bringIn connect w members).2) := by
  unfold sink update renewed
  dsimp only
  rw [h, if_neg Bool.false_ne_true]
  cases !c.isBuilt || c.readyAddresses != (c.bringIn connect w members).1.readyAddresses with
  | true => rfl
  | false => rfl

theorem update_of_isClosed (h : c.isClosed = true) :
    perform connect (c, w) (.update members) = (c, w) :=
  congrArg Prod.snd (sink_of_isClosed h)

theorem update_of_open (h : c.isClosed = false) :
    perform connect (c, w) (.update members) =
      (c.renewed (c.bringIn connect w members).1, (c.bringIn connect w members).2) :=
  congrArg Prod.snd (sink_of_open h)

theorem renewed_eq (c next : Connections C) :
    (c.renewed next).held = next.held ∧ (c.renewed next).unready = next.unready ∧
      (c.renewed next).isClosed = next.isClosed := by
  unfold renewed
  split <;> exact ⟨rfl, rfl, rfl⟩

/-! ## Notes do not matter -/

def withoutNotes (s : Connections C × σ × List (Attempt C)) : Connections C × σ := (s.1, s.2.1)

theorem connectAll_recording (connect : Connector σ C) (held : Table C)
    (w : σ × List (Attempt C)) (members : List Instance) :
    (connectAll (recording connect) held w members).1 = (connectAll connect held w.1 members).1 ∧
      (connectAll (recording connect) held w members).2.1 =
        (connectAll connect held w.1 members).2 := by
  induction members generalizing held w with
  | nil => exact ⟨rfl, rfl⟩
  | cons m rest ih =>
    unfold connectAll
    split
    · exact ih held w
    · unfold recording
      split
      · next heq =>
        obtain ⟨hresult, rfl⟩ := Prod.mk.inj heq
        rw [show connect w.1 m = (_, _) from Prod.ext hresult rfl]
        exact ih _ _
      · next heq =>
        obtain ⟨hresult, rfl⟩ := Prod.mk.inj heq
        rw [show connect w.1 m = (_, _) from Prod.ext hresult rfl]
        exact ih _ _

theorem withoutNotes_perform (connect : Connector σ C) (s : Connections C × σ × List (Attempt C))
    (action : Action) :
    withoutNotes (perform (recording connect) s action) =
      perform connect (withoutNotes s) action := by
  cases action with
  | update members =>
    obtain ⟨c, w⟩ := s
    show _ = perform connect (c, w.1) (.update members)
    cases hclosed : c.isClosed with
    | true =>
      rw [update_of_isClosed hclosed, update_of_isClosed hclosed]
      rfl
    | false =>
      obtain ⟨hheld, hrecord⟩ := connectAll_recording connect (c.retain members).held w members
      rw [update_of_open hclosed, update_of_open hclosed]
      unfold withoutNotes bringIn
      dsimp only
      rw [hheld, hrecord]
  | _ => rfl

theorem withoutNotes_performAll (connect : Connector σ C)
    (s : Connections C × σ × List (Attempt C)) (actions : List Action) :
    withoutNotes (actions.foldl (perform (recording connect)) s) =
      actions.foldl (perform connect) (withoutNotes s) := by
  induction actions generalizing s with
  | nil => rfl
  | cons action rest ih => rw [List.foldl_cons, List.foldl_cons, ih, withoutNotes_perform]

/-! ## What becomes of connections -/

variable {s : Connections C × σ × List (Attempt C)} {action : Action} {a : String} {v : C}

/-- An open channel visits the members of a list, with the connections to listed addresses that it
holds. -/
theorem visited_perform (connect : Connector σ C) (hopen : s.1.isClosed = false)
    (members : List Instance) :
    let s' := perform (recording connect) s (.update members)
    ∃ visits : List (Visit C), visits.map Visit.member = members ∧
      Visited (s.1.held.filter (hasAddress members)) s'.1.held visits ∧
      s'.2.2 = s.2.2 ++ visits.filterMap Visit.attempt? := by
  obtain ⟨c, w⟩ := s
  intro s'
  have hs' : s' = _ := update_of_open hopen
  rw [hs', (renewed_eq c _).1]
  exact visited_connectAll connect (c.retain members).held w members

/-- Outside of updates the connector is not called, and connections go with a close only. -/
theorem perform_of_not_update (connect : Connector σ C) (s : Connections C × σ)
    (h : ∀ members, action ≠ .update members) :
    (perform connect s action).2 = s.2 ∧
      (action ≠ .close → (perform connect s action).1.held = s.1.held) := by
  cases action with
  | update members => exact absurd rfl (h members)
  | markReady a =>
    refine ⟨rfl, fun _ => ?_⟩
    simp only [perform, markReady]
    split <;> rfl
  | markUnready a =>
    refine ⟨rfl, fun _ => ?_⟩
    simp only [perform, markUnready]
    split <;> rfl
  | close => exact ⟨rfl, fun hne => absurd rfl hne⟩
  | pick draw call => exact ⟨rfl, fun _ => rfl⟩

theorem get?_ready_of_new (connect : Connector σ C) {w : σ} {members : List Instance}
    (hnone : c.held.get? a = none)
    (hsome : (perform connect (c, w) (.update members)).1.held.get? a = some v) :
    (perform connect (c, w) (.update members)).1.ready.get? a = some v := by
  refine (get?_ready _).mpr ⟨hsome, fun hmark => ?_⟩
  cases hclosed : c.isClosed with
  | true =>
    rw [update_of_isClosed hclosed] at hsome
    cases hnone.symm.trans hsome
  | false =>
    rw [update_of_open hclosed, (renewed_eq c _).2.1] at hmark
    -- Marks that stay belong to addresses that were held.
    have hheld := ((mem_unready_retain c members).mp hmark).2
    rw [get?_held_retain, hnone, ite_self] at hheld
    cases hheld

/-- An action after which a connection to an address is the one that it was before. -/
def Action.Keeps (a : String) : Action → Prop
  | .update members => hasAddress members a = true
  | .close => False
  | _ => True

def attemptsAt (a : String) (log : List (Attempt C)) : List (Attempt C) :=
  log.filter (·.member.address == a)

theorem Visited.held_of_held (h : Visited held held' visits) (hheld : held.get? a = some v) :
    held'.get? a = some v ∧ attemptsAt a (visits.filterMap Visit.attempt?) = [] := by
  refine ⟨(h.held_iff a v).mpr (Or.inl hheld), List.filter_eq_nil_iff.mpr ?_⟩
  intro attempt hattempt haddress
  obtain ⟨u, hu, hattempt⟩ := List.mem_filterMap.mp hattempt
  obtain ⟨result, houtcome, rfl⟩ := Option.map_eq_some_iff.mp hattempt
  obtain ⟨earlier, later, heq⟩ := List.append_of_mem hu
  have hcalled := (h.called_iff earlier u later heq).mp (Option.isSome_of_mem houtcome)
  rw [beq_iff_eq.mp haddress, hheld] at hcalled
  cases hcalled.1

/-- As long as its address is listed, a connection stays, and no other one is tried. -/
theorem held_of_keeps (connect : Connector σ C) (hkeeps : action.Keeps a)
    (hheld : s.1.held.get? a = some v) :
    let s' := perform (recording connect) s action
    s'.1.held.get? a = some v ∧ attemptsAt a s'.2.2 = attemptsAt a s.2.2 := by
  intro s'
  by_cases hupdate : ∃ members, action = .update members
  · obtain ⟨members, rfl⟩ := hupdate
    cases hclosed : s.1.isClosed with
    | true =>
      have hsame : s' = s := update_of_isClosed hclosed
      rw [hsame]
      exact ⟨hheld, rfl⟩
    | false =>
      obtain ⟨visits, _, hvisited, hlog⟩ := visited_perform connect hclosed members
      have hlisted : (s.1.held.filter (hasAddress members)).get? a = some v := by
        rw [Table.get?_filter, hheld]
        exact if_pos hkeeps
      obtain ⟨hheld', hnone⟩ := hvisited.held_of_held hlisted
      refine ⟨hheld', ?_⟩
      rw [hlog, attemptsAt, List.filter_append]
      exact (congrArg _ hnone).trans (List.append_nil _)
  · have hnot : action ≠ .close := by
      rintro rfl
      exact hkeeps
    obtain ⟨hsame, hheld'⟩ :=
      perform_of_not_update (recording connect) s (not_exists.mp hupdate)
    refine ⟨?_, congrArg (fun w => attemptsAt a w.2) hsame⟩
    rw [hheld' hnot]
    exact hheld

theorem held_of_all_keep (connect : Connector σ C) {later : List Action}
    (hkeep : ∀ action ∈ later, action.Keeps a) (hheld : s.1.held.get? a = some v) :
    let s' := later.foldl (perform (recording connect)) s
    s'.1.held.get? a = some v ∧ attemptsAt a s'.2.2 = attemptsAt a s.2.2 := by
  induction later generalizing s with
  | nil => exact ⟨hheld, rfl⟩
  | cons action rest ih =>
    obtain ⟨hfirst, hrest⟩ := List.forall_mem_cons.mp hkeep
    obtain ⟨hheld', hsame⟩ := held_of_keeps connect hfirst hheld
    obtain ⟨hlast, hattempts⟩ := ih hrest hheld'
    exact ⟨hlast, hattempts.trans hsame⟩

/-! ## What a channel remembers -/

theorem markReady_cases (c : Connections C) (a : String) :
    a ∉ c.unready ∧ c.markReady a = c ∨
      a ∈ c.unready ∧
        c.markReady a = { c with unready := c.unready.filter (· != a) }.rebuild := by
  unfold markReady
  by_cases hmarked : a ∈ c.unready
  · exact Or.inr ⟨hmarked, if_pos (List.contains_iff_mem.mpr hmarked)⟩
  · exact Or.inl ⟨hmarked, if_neg fun hcontains => hmarked (List.contains_iff_mem.mp hcontains)⟩

theorem markUnready_cases (c : Connections C) (a : String) :
    ¬ ((c.held.get? a).isSome = true ∧ a ∉ c.unready) ∧ c.markUnready a = c ∨
      (c.held.get? a).isSome = true ∧ a ∉ c.unready ∧
        c.markUnready a = { c with unready := a :: c.unready }.rebuild := by
  unfold markUnready
  split
  · next hmark =>
    rw [Bool.and_eq_true, Bool.not_eq_true', ← Bool.not_eq_true, List.contains_iff_mem] at hmark
    exact Or.inr ⟨hmark.1, hmark.2, rfl⟩
  · next hmark =>
    rw [Bool.and_eq_true, Bool.not_eq_true', ← Bool.not_eq_true, List.contains_iff_mem] at hmark
    exact Or.inl ⟨hmark, rfl⟩

/-- An action that neither closes the channel nor brings in a list. -/
def Action.Passes (action : Action) : Prop :=
  action ≠ .close ∧ ∀ members, action ≠ .update members

/-- What a channel knows about its past: whether it was closed, and, while it is open, whether a
list of members was brought in. -/
structure Remembers (past : List Action) (c : Connections C) : Prop where
  closed_iff : c.isClosed = true ↔ .close ∈ past
  built_iff : .close ∉ past → (c.isBuilt = true ↔ ∃ members, .update members ∈ past)
  /-- There are no connections before the first list. -/
  held_built : ∀ a, (c.held.get? a).isSome = true → c.isBuilt = true

variable {past : List Action} {options : ShardOptions}

theorem Remembers.open_iff (h : Remembers past c) : c.isClosed = false ↔ .close ∉ past := by
  rw [← h.closed_iff, Bool.not_eq_true]

theorem remembers_new (options : ShardOptions) : Remembers [] (new options : Connections C) where
  closed_iff := by simp [new]
  built_iff _ := by simp [new]
  held_built a ha := by cases ha

theorem Remembers.same (h : Remembers past c) (action : Action) (hpasses : action.Passes)
    {c' : Connections C} (hclosed : c'.isClosed = c.isClosed) (hbuilt : c'.isBuilt = c.isBuilt)
    (hheld : c'.held = c.held) : Remembers (past ++ [action]) c' where
  closed_iff := by
    rw [hclosed, h.closed_iff]
    simp [hpasses.1.symm]
  built_iff hopen := by
    rw [hbuilt, h.built_iff (fun hclose => hopen (List.mem_append_left _ hclose))]
    simp [(hpasses.2 _).symm]
  held_built a ha := by
    rw [hbuilt]
    exact h.held_built a (hheld ▸ ha)

theorem Remembers.markReady (h : Remembers past c) (hcoherent : Coherent options c) (a : String) :
    Remembers (past ++ [.markReady a]) (c.markReady a) := by
  rcases markReady_cases c a with ⟨_, hsame⟩ | ⟨hmarked, hready⟩
  · rw [hsame]
    exact h.same (.markReady a) ⟨nofun, nofun⟩ rfl rfl rfl
  · rw [hready]
    have hbuilt := h.held_built a (hcoherent.unready_held a hmarked)
    exact h.same (.markReady a) ⟨nofun, nofun⟩ rfl hbuilt.symm rfl

theorem Remembers.markUnready (h : Remembers past c) (a : String) :
    Remembers (past ++ [.markUnready a]) (c.markUnready a) := by
  rcases markUnready_cases c a with ⟨_, hsame⟩ | ⟨hheld, _, hready⟩
  · rw [hsame]
    exact h.same (.markUnready a) ⟨nofun, nofun⟩ rfl rfl rfl
  · rw [hready]
    exact h.same (.markUnready a) ⟨nofun, nofun⟩ rfl (h.held_built a hheld).symm rfl

theorem Remembers.close (h : Remembers past c) : Remembers (past ++ [.close]) c.close := by
  have hlast : Action.close ∈ past ++ [.close] := List.mem_append_right _ List.mem_cons_self
  unfold Connections.close
  split
  · next hclosed => exact ⟨by simp [hclosed], fun hopen => absurd hlast hopen, h.held_built⟩
  · exact ⟨by simp, fun hopen => absurd hlast hopen, fun a ha => by cases ha⟩

theorem Remembers.update (h : Remembers past c) (connect : Connector σ C) (w : σ)
    (members : List Instance) :
    Remembers (past ++ [.update members]) (perform connect (c, w) (.update members)).1 := by
  cases hclosed : c.isClosed with
  | true =>
    rw [update_of_isClosed hclosed]
    have hpast := h.closed_iff.mp hclosed
    exact ⟨by simp [hclosed, hpast], fun hopen => absurd (List.mem_append_left _ hpast) hopen,
      h.held_built⟩
  | false =>
    rw [update_of_open hclosed]
    have hbuilt : (c.renewed (c.bringIn connect w members).1).isBuilt = true := by
      unfold renewed
      split
      · rfl
      · next hdue =>
        rw [Bool.or_eq_true, not_or, Bool.not_eq_true', Bool.not_eq_false] at hdue
        exact hdue.1
    have hpast : Action.close ∉ past := h.open_iff.mp hclosed
    refine ⟨?_, fun _ => ?_, fun _ _ => hbuilt⟩
    · rw [(renewed_eq c _).2.2, show (c.bringIn connect w members).1.isClosed = false from hclosed]
      simp [hpast]
    · rw [hbuilt]
      simp

theorem Remembers.perform {s : Connections C × σ} (h : Remembers past s.1)
    (hcoherent : Coherent options s.1) (connect : Connector σ C) (action : Action) :
    Remembers (past ++ [action]) (perform connect s action).1 := by
  cases action with
  | update members => exact h.update connect s.2 members
  | markReady a => exact h.markReady hcoherent a
  | markUnready a => exact h.markUnready a
  | close => exact h.close
  | pick draw call => exact h.same (.pick draw call) ⟨nofun, nofun⟩ rfl rfl rfl

/-! ## Pickers that are built -/

theorem readyAddresses_eq_iff {c c' : Connections C} :
    c.readyAddresses = c'.readyAddresses ↔
      ∀ a, a ∈ c.readyAddresses ↔ a ∈ c'.readyAddresses := by
  constructor
  · intro heq a
    rw [heq]
  · intro hmem
    refine mergeSort_le_eq_of_perm
      ((List.perm_ext_iff_of_nodup c.ready.distinct c'.ready.distinct).mpr fun a => ?_)
    exact List.mem_mergeSort.symm.trans ((hmem a).trans List.mem_mergeSort)

/-- A picker is due with the first list that is accepted, with the first close, and whenever the set
of ready addresses changes. -/
def Due (past : List Action) (action : Action) (c c' : Connections C) : Prop :=
  (∃ members, action = .update members) ∧ .close ∉ past ∧ (∀ members, .update members ∉ past) ∨
  action = .close ∧ .close ∉ past ∨
  ¬ ∀ a, a ∈ c.readyAddresses ↔ a ∈ c'.readyAddresses

/-- One picker is built if it is due, for the connections that are ready then, and calls go by what
the builder returned. Otherwise the balancer stays as it is. -/
structure BuildsIf (due : Prop) (c c' : Connections C) : Prop where
  builds : due → c'.balancer.builds = c.balancer.builds ++ [c'.readyAddresses]
  picker_eq : due → c'.balancer.picker = some (c.balancer.builder.build c'.ready).1
  builder_eq : due → c'.balancer.builder = (c.balancer.builder.build c'.ready).2
  stays : ¬ due → c'.balancer = c.balancer

variable {due : Prop} {c' : Connections C}

theorem buildsIf_of_due (hdue : due) (hupdate : c'.balancer = c.balancer.update c'.ready) :
    BuildsIf due c c' where
  builds _ := congrArg Balancer.builds hupdate
  picker_eq _ := congrArg Balancer.picker hupdate
  builder_eq _ := congrArg Balancer.builder hupdate
  stays hnot := absurd hdue hnot

theorem buildsIf_of_not_due (hnot : ¬ due) (hsame : c'.balancer = c.balancer) :
    BuildsIf due c c' where
  builds hdue := absurd hdue hnot
  picker_eq hdue := absurd hdue hnot
  builder_eq hdue := absurd hdue hnot
  stays _ := hsame

theorem not_due_self (haction : (∃ members, action = .update members) → ¬ (.close ∉ past ∧
    ∀ members, .update members ∉ past)) (hclose : action = .close → .close ∈ past) :
    ¬ Due past action c c := by
  rintro (⟨hupdate, hpast⟩ | ⟨heq, hopen⟩ | hready)
  · exact haction hupdate hpast
  · exact hopen (hclose heq)
  · exact hready fun a => Iff.rfl

theorem buildsIf_self (hnot : ¬ due) : BuildsIf due c c := buildsIf_of_not_due hnot rfl

theorem buildsIf_markReady (hcoherent : Coherent options c) (a : String) :
    BuildsIf (Due past (.markReady a) c (c.markReady a)) c (c.markReady a) := by
  rcases markReady_cases c a with ⟨_, hsame⟩ | ⟨hmarked, hready⟩
  · rw [hsame]
    exact buildsIf_self (not_due_self nofun nofun)
  · refine buildsIf_of_due (Or.inr (Or.inr fun hset => ?_)) (by rw [hready]; rfl)
    have hnow : a ∈ (c.markReady a).readyAddresses := by
      rw [hready, mem_readyAddresses]
      refine ⟨hcoherent.unready_held a hmarked, ?_⟩
      simp [rebuild]
    exact ((mem_readyAddresses c).mp ((hset a).mpr hnow)).2 hmarked

theorem buildsIf_markUnready (c : Connections C) (a : String) :
    BuildsIf (Due past (.markUnready a) c (c.markUnready a)) c (c.markUnready a) := by
  rcases markUnready_cases c a with ⟨_, hsame⟩ | ⟨hheld, hunmarked, hready⟩
  · rw [hsame]
    exact buildsIf_self (not_due_self nofun nofun)
  · refine buildsIf_of_due (Or.inr (Or.inr fun hset => ?_)) (by rw [hready]; rfl)
    have hbefore : a ∈ c.readyAddresses := (mem_readyAddresses c).mpr ⟨hheld, hunmarked⟩
    have hnow := (hset a).mp hbefore
    rw [hready, mem_readyAddresses] at hnow
    exact hnow.2 List.mem_cons_self

theorem buildsIf_close (h : Remembers past c) :
    BuildsIf (Due past .close c c.close) c c.close := by
  cases hclosed : c.isClosed with
  | true =>
    have hsame : c.close = c := if_pos hclosed
    rw [hsame]
    exact buildsIf_self (not_due_self nofun fun _ => h.closed_iff.mp hclosed)
  | false =>
    have hopen : Action.close ∉ past := h.open_iff.mp hclosed
    refine buildsIf_of_due (Or.inr (Or.inl ⟨rfl, hopen⟩)) ?_
    rw [close, if_neg (Bool.eq_false_iff.mp hclosed)]
    rfl

theorem buildsIf_update (h : Remembers past c) (connect : Connector σ C) (w : σ)
    (members : List Instance) :
    let c' := (perform connect (c, w) (.update members)).1
    BuildsIf (Due past (.update members) c c') c c' := by
  intro c'
  cases hclosed : c.isClosed with
  | true =>
    have hsame : c' = c := congrArg Prod.fst (update_of_isClosed hclosed)
    rw [hsame]
    have hpast := h.closed_iff.mp hclosed
    exact buildsIf_self (not_due_self (fun _ hfirst => hfirst.1 hpast) nofun)
  | false =>
    have hopen : Action.close ∉ past := h.open_iff.mp hclosed
    have hc' : c' = c.renewed (c.bringIn connect w members).1 :=
      congrArg Prod.fst (update_of_open hclosed)
    have hbuilt := h.built_iff hopen
    rw [hc']
    unfold renewed
    split
    · next hdue =>
      refine buildsIf_of_due ?_ rfl
      rw [Bool.or_eq_true, Bool.not_eq_true', bne_iff_ne, ne_eq, readyAddresses_eq_iff] at hdue
      refine hdue.imp (fun hfirst => ⟨⟨members, rfl⟩, hopen, fun ms hms => ?_⟩) Or.inr
      rw [hbuilt.mpr ⟨ms, hms⟩] at hfirst
      cases hfirst
    · next hnot =>
      rw [Bool.or_eq_true, not_or, Bool.not_eq_true', Bool.not_eq_false, bne_iff_ne, ne_eq,
        Classical.not_not, readyAddresses_eq_iff] at hnot
      obtain ⟨ms, hms⟩ := hbuilt.mp hnot.1
      refine buildsIf_of_not_due (fun hdue => ?_) rfl
      rcases hdue with ⟨_, _, hfirst⟩ | ⟨heq, _⟩ | hready
      · exact absurd hms (hfirst ms)
      · cases heq
      · exact absurd hnot.2 hready

/-- Every action builds a picker if it is due, and no other. -/
theorem buildsIf_perform {s : Connections C × σ} (h : Remembers past s.1)
    (hcoherent : Coherent options s.1) (connect : Connector σ C) (action : Action) :
    let c' := (perform connect s action).1
    BuildsIf (Due past action s.1 c') s.1 c' := by
  cases action with
  | update members => exact buildsIf_update h connect s.2 members
  | markReady a => exact buildsIf_markReady hcoherent a
  | markUnready a => exact buildsIf_markUnready s.1 a
  | close => exact buildsIf_close h
  | pick draw call => exact buildsIf_self (not_due_self nofun nofun)

/-! ## Whole runs -/

theorem remembers_performAll {s : Connections C × σ} (h : Remembers past s.1)
    (hcoherent : Coherent options s.1) (connect : Connector σ C) (actions : List Action) :
    Remembers (past ++ actions) (actions.foldl (perform connect) s).1 ∧
      Coherent options (actions.foldl (perform connect) s).1 := by
  induction actions generalizing s past with
  | nil => exact ⟨(List.append_nil past).symm ▸ h, hcoherent⟩
  | cons action rest ih =>
    rw [List.append_cons]
    exact ih (h.perform hcoherent connect action) (hcoherent.perform connect action)

theorem Visited.get?_of_not_listed (h : Visited (held.filter (hasAddress members)) held' visits)
    (hmembers : visits.map Visit.member = members) (hlisted : hasAddress members a = false) :
    held'.get? a = none := by
  rw [Option.eq_none_iff_forall_ne_some]
  intro v hv
  rcases (h.held_iff a v).mp hv with hkept | ⟨u, hu, haddress, _⟩
  · rw [Table.get?_filter, hlisted] at hkept
    cases hkept
  · have hmem : a ∈ members.map (·.address) := by
      rw [← hmembers, ← haddress]
      exact List.mem_map_of_mem (List.mem_map_of_mem hu)
    rw [hasAddress_iff.mpr hmem] at hlisted
    cases hlisted

/-- Whatever happened to a channel before, a list of members is accepted unless the channel was
closed. Then each member in turn calls the connector exactly if there is no connection to its
address by then, so that an address without a connection is tried again at each member. The
connections to addresses that are not listed are gone, with their marks, and an address that gets a
connection is ready. Nothing else calls the connector, and as long as an address is listed, it keeps
its connection. A picker is built by the first list that is accepted, by the first close, and by
what changes the set of ready addresses, once each, and by nothing else; calls then go by the picker
that the builder returned for the connections that are ready. -/
theorem upkeep_exact (connect : Connector σ C) (options : ShardOptions) (w : σ)
    (actions : List Action) :
    let s := actions.foldl (perform (recording connect)) (new options, w, [])
    s.1 = after connect options w actions ∧
    (∀ members,
      let answer := (sink (recording connect) s members).1
      let s' := perform (recording connect) s (.update members)
      (.close ∈ actions → answer = .error .sinkClosed ∧ s' = s) ∧
      (.close ∉ actions → answer = .ok () ∧
        (∃ visits : List (Visit C), visits.map Visit.member = members ∧
          Visited (s.1.held.filter (hasAddress members)) s'.1.held visits ∧
          s'.2.2 = s.2.2 ++ visits.filterMap Visit.attempt?) ∧
        (∀ a, hasAddress members a = false →
          s'.1.held.get? a = none ∧ a ∉ s'.1.unready) ∧
        ∀ a v, s.1.held.get? a = none → s'.1.held.get? a = some v →
          s'.1.ready.get? a = some v)) ∧
    (∀ action, (∀ members, action ≠ .update members) →
      let s' := perform (recording connect) s action
      s'.2 = s.2 ∧ (action ≠ .close → s'.1.held = s.1.held)) ∧
    (∀ (a : String) (v : C) (later : List Action), (∀ action ∈ later, action.Keeps a) →
      s.1.held.get? a = some v →
      let s' := later.foldl (perform (recording connect)) s
      s'.1.held.get? a = some v ∧ attemptsAt a s'.2.2 = attemptsAt a s.2.2) ∧
    ∀ action,
      let c' := (perform (recording connect) s action).1
      BuildsIf (Due actions action s.1 c') s.1 c' := by
  intro s
  have hstart := remembers_new (C := C) options
  obtain ⟨hpast, hcoherent⟩ : Remembers actions s.1 ∧ Coherent options s.1 :=
    remembers_performAll (s := (new options, w, [])) hstart coherent_new (recording connect) actions
  refine ⟨?run, fun members => ⟨fun hclosed => ?closed, fun hopen => ⟨?accepts, ?visits, ?gone,
    fun a v hnone hsome => get?_ready_of_new _ hnone hsome⟩⟩,
    fun action hnot => perform_of_not_update _ s hnot,
    fun a v later hkeep hheld => held_of_all_keep connect hkeep hheld,
    buildsIf_perform hpast hcoherent (recording connect)⟩
  case run => exact congrArg Prod.fst (withoutNotes_performAll connect (new options, w, []) actions)
  case closed =>
    have hclosed := hpast.closed_iff.mpr hclosed
    exact ⟨congrArg Prod.fst (sink_of_isClosed hclosed), update_of_isClosed hclosed⟩
  all_goals
    have hopen : s.1.isClosed = false := hpast.open_iff.mpr hopen
  case accepts => exact congrArg Prod.fst (sink_of_open hopen)
  case visits => exact visited_perform connect hopen members
  case gone =>
    intro a hlisted
    obtain ⟨visits, hmembers, hvisited, _⟩ := visited_perform connect hopen members
    have hnone := hvisited.get?_of_not_listed hmembers hlisted
    refine ⟨hnone, fun hmark => ?_⟩
    have hheld := (hcoherent.perform (recording connect) (.update members)).unready_held a hmark
    rw [hnone] at hheld
    cases hheld

/-- The connector refuses its first call, so that the second member of the first list calls it
again. The address is marked, leaves with an empty list, and when it returns, it gets a new
connection, which is ready. The picker that is built then is the one of the ready connections. -/
theorem upkeep_exact_returning :
    let member : Instance := ⟨"users", "10.0.0.1:80"⟩
    let connect : Connector Nat Nat := fun n _ =>
      (if n = 0 then .error .noConnectionAvailable else .ok n, n + 1)
    let actions : List Action :=
      [.update [member, member], .markUnready member.address, .update []]
    let s := actions.foldl (perform (recording connect)) (new {}, 0, [])
    let s' := perform (recording connect) s (.update [member])
    s'.2.2.map (·.result.isOk) = [false, true, true] ∧
      s.1.held.get? member.address = none ∧ s'.1.ready.get? member.address = some 2 ∧
      s'.1.balancer.builds = s.1.balancer.builds ++ [s'.1.readyAddresses] ∧
      s'.1.balancer.picker = some (s.1.balancer.builder.build s'.1.ready).1 := by
  intro member connect actions s s'
  obtain ⟨_, hupdate, _, _, hbuilds⟩ := upkeep_exact connect {} 0 actions
  obtain ⟨_, _, _, hnew⟩ := (hupdate [member]).2 (by simp [actions])
  have hnone : s.1.held.get? member.address = none := by decide +kernel
  have hsome : s'.1.held.get? member.address = some 2 := by decide +kernel
  have hready : s'.1.ready.get? member.address = some 2 := hnew _ _ hnone hsome
  have hlog : s'.2.2.map (·.result.isOk) = [false, true, true] := by decide +kernel
  have hdue : Due actions (.update [member]) s.1 s'.1 := by
    refine Or.inr (Or.inr fun hset => ?_)
    have hnow : member.address ∈ s'.1.readyAddresses := by
      rw [mem_readyAddresses]
      exact ⟨by rw [hsome]; rfl, ((get?_ready s'.1).mp hready).2⟩
    have hbefore := ((mem_readyAddresses s.1).mp ((hset _).mpr hnow)).1
    rw [hnone] at hbefore
    cases hbefore
  have hbuilt := hbuilds (.update [member])
  exact ⟨hlog, hnone, hready, hbuilt.builds hdue, hbuilt.picker_eq hdue⟩

end Roster.Connections
