import Roster.Proofs.Registry.Reload

/-!
# Files that change while they are watched

A registry that watches its file is opened in steps: the document is read, the watch is installed,
and the task that reloads is started. The file may be replaced at any time. What the watch sees
becomes a notice, unless enough notices wait; the task takes a notice and loads the document, which
means to begin, to read and to adopt what was read. One load does not begin before another one is
over, whoever asked for it. The invariant `Vigil.Tended` says that a change after which no load has
begun is still on its way to the task, unless it came before the watch. Hence no change is lost that
came after it (`no_change_lost`), and the last one before it is (`lost_before_watch`).
-/

namespace Roster

/-! ## Loads in parts -/

namespace FileRegistry

/-- The registry after what was read of its document was adopted, if it could be read. -/
def adoptAnswer (r : FileRegistry) (answer : Except RoutingError Listing) : FileRegistry :=
  match answer with
  | .ok listing => { r with state := (r.state.adopt listing).2 }
  | .error _ => r

variable {r : FileRegistry} {disk : Disk}

theorem load_snd (mayBeBlank : Bool) :
    (r.load disk mayBeBlank).2 = r.adoptAnswer (Listing.load disk r.path mayBeBlank) := by
  unfold load adoptAnswer
  cases Listing.load disk r.path mayBeBlank <;> rfl

end FileRegistry

theorem Listing.SpelledAt.load_eq {listing : Listing} {disk : Disk} {path : String}
    (h : listing.SpelledAt disk path) (mayBeBlank : Bool) :
    Listing.load disk path mayBeBlank = .ok listing := by
  obtain ⟨format, text, hformat, htext, hblank, hread⟩ := h
  simp [load, hformat, htext, hblank, hread, bind, Except.bind, Except.mapError]

/-! ## Vigils -/

/-- What the task that reloads does. -/
inductive Keeper where
  | absent
  | idle
  | summoned
  | busy
  deriving DecidableEq

inductive LoadPhase where
  | none
  | begun (byKeeper : Bool)
  | read (byKeeper : Bool) (answer : Except RoutingError Listing)

/-- A registry that is opened and watches its file, with what came of it so far. -/
structure Vigil where
  disk : Disk
  registry : FileRegistry
  /-- How many changes the watch saw that it has not handed on. -/
  sightings : Nat := 0
  keeper : Keeper := .absent
  load : LoadPhase := .none
  edition : Nat := 0
  /-- How often the file had been replaced when the last load began. -/
  seen : Nat := 0
  /-- Whether the file was replaced before there was a watch, and no load has begun since. -/
  isMissed : Bool := false
  /-- What was last read of the document when it could be read. -/
  shown : Listing

namespace Vigil

inductive Event where
  /-- The file is replaced, and the watch, if there is one, sees this once or more often. -/
  | replace (disk : Disk) (more : Nat)
  | install
  | start
  | handOn
  | take
  | begin (byKeeper : Bool)
  | read
  | adopt

/-- Whether a load may begin: no other one goes on, and the task has a notice to load for. -/
def mayBegin (v : Vigil) (byKeeper : Bool) : Bool :=
  match v.load with
  | .none => !byKeeper || v.keeper = .summoned
  | _ => false

/-- The vigil after an event. Nothing happens out of turn. -/
def step (v : Vigil) : Event → Vigil
  | .replace disk more =>
    if v.registry.watched.isSome then
      { v with disk, edition := v.edition + 1, sightings := v.sightings + more + 1 }
    else { v with disk, edition := v.edition + 1, isMissed := true }
  | .install =>
    match v.registry.watchFile true with
    | .ok registry => { v with registry }
    | .error _ => v
  | .start =>
    if v.registry.watched.isSome && v.keeper = .absent then { v with keeper := .idle } else v
  | .handOn =>
    match v.sightings, v.registry.watched with
    | n + 1, some name => { v with sightings := n, registry := v.registry.notice name }
    | _, _ => v
  | .take =>
    match v.keeper, v.registry.notices with
    | .idle, n + 1 =>
      { v with keeper := .summoned, registry := { v.registry with notices := n } }
    | _, _ => v
  | .begin byKeeper =>
    if v.mayBegin byKeeper then
      { v with
        keeper := if byKeeper then .busy else v.keeper
        load := .begun byKeeper
        seen := v.edition
        isMissed := false }
    else v
  | .read =>
    match v.load with
    | .begun byKeeper =>
      { v with load := .read byKeeper (Listing.load v.disk v.registry.path false) }
    | _ => v
  | .adopt =>
    match v.load with
    | .read byKeeper answer =>
      { v with
        load := .none
        keeper := if byKeeper then .idle else v.keeper
        registry := v.registry.adoptAnswer answer
        shown := answer.toOption.getD v.shown }
    | _ => v

def run (v : Vigil) (events : List Event) : Vigil := events.foldl step v

/-- The vigil of a registry whose document was read for the first time. -/
def opening (disk : Disk) (r : FileRegistry) : Vigil where
  disk := disk
  registry := r
  shown := ((Listing.load disk r.path true).toOption).getD Table.empty

/-- Nothing is on its way to the task, which was started, and no load goes on. -/
structure IsQuiet (v : Vigil) : Prop where
  sightings_eq : v.sightings = 0
  notices_eq : v.registry.notices = 0
  keeper_eq : v.keeper = .idle
  load_eq : v.load = .none

variable {v : Vigil}

/-- The task's load, if nothing comes between its parts, is a turn of the registry. -/
theorem run_turn (hkeeper : v.keeper = .idle) (hload : v.load = .none)
    (hnotices : v.registry.notices ≠ 0) :
    (v.run [.take, .begin true, .read, .adopt]).registry = v.registry.turn v.disk := by
  obtain ⟨n, hn⟩ := Nat.exists_eq_succ_of_ne_zero hnotices
  simp [run, step, mayBegin, hkeeper, hload, hn, FileRegistry.turn, FileRegistry.reload,
    FileRegistry.load_snd]

/-- A load that someone asks for, if nothing comes between its parts, is a reload. -/
theorem run_reload (hload : v.load = .none) :
    (v.run [.begin false, .read, .adopt]).registry = (v.registry.reload v.disk).2 := by
  simp [run, step, mayBegin, hload, FileRegistry.reload, FileRegistry.load_snd]

/-! ## The invariant -/

/-- Each change after which no load has begun is on its way to the task or came before the watch.
What is held of the document, or was adopted, is what was last read; it is what the document spells
if the file was not replaced since the load began. -/
structure Tended (v : Vigil) : Prop where
  seen_le : v.seen ≤ v.edition
  missed : v.isMissed = true → v.seen < v.edition
  awaited : v.seen = v.edition ∨ v.isMissed = true ∨ 0 < v.sightings ∨
    0 < v.registry.notices ∨ v.keeper = .summoned
  busy : ∀ answer, v.load = .read true answer → v.keeper = .busy
  begun : v.load = .begun true → v.keeper = .busy
  held : ∀ byKeeper answer, v.load = .read byKeeper answer → v.seen = v.edition →
    answer = Listing.load v.disk v.registry.path false
  current : v.load = .none → v.seen = v.edition → ∀ listing : Listing,
    listing.SpelledAt v.disk v.registry.path → v.registry.state.Shows listing
  shows : v.registry.state.Shows v.shown

theorem tended_opening {disk : Disk} {path : String} {buffer : Nat} {r : FileRegistry}
    (hstart : FileRegistry.start disk path buffer = .ok r) : (opening disk r).Tended := by
  obtain ⟨listing, hload, rfl⟩ := FileRegistry.start_eq_ok hstart
  refine ⟨Nat.le_refl 0, nofun, Or.inl rfl, nofun, nofun, nofun, fun _ _ listing' hspelled => ?_,
    ?_⟩
  · have hsame := hspelled.load_eq true
    rw [show (opening disk _).registry.path = path from rfl, show (opening disk _).disk = disk
      from rfl, hload] at hsame
    cases hsame
    exact State.shows_adopt _ listing
  · simp only [opening, hload]
    exact State.shows_adopt _ listing

theorem Tended.replace (h : v.Tended) (disk : Disk) (more : Nat) :
    (v.step (.replace disk more)).Tended := by
  -- No load has begun since, so that nothing is said of what is held or shown.
  have hlt : v.seen < v.edition + 1 := Nat.lt_succ_of_le h.seen_le
  have hne : v.seen ≠ v.edition + 1 := Nat.ne_of_lt hlt
  simp only [step]
  split
  · exact ⟨hlt.le, fun _ => hlt, Or.inr (Or.inr (Or.inl (Nat.succ_pos _))), h.busy, h.begun,
      fun _ _ _ hsame => absurd hsame hne, fun _ hsame => absurd hsame hne, h.shows⟩
  · exact ⟨hlt.le, fun _ => hlt, Or.inr (Or.inl rfl), h.busy, h.begun,
      fun _ _ _ hsame => absurd hsame hne, fun _ hsame => absurd hsame hne, h.shows⟩

theorem Tended.congr (h : v.Tended) {r : FileRegistry} (hpath : r.path = v.registry.path)
    (hstate : r.state = v.registry.state) {sightings : Nat} {keeper : Keeper}
    (hawaited : v.seen = v.edition ∨ v.isMissed = true ∨ 0 < sightings ∨ 0 < r.notices ∨
      keeper = .summoned)
    (hkeeper : v.keeper = .busy → keeper = .busy) :
    Tended { v with registry := r, sightings, keeper } where
  seen_le := h.seen_le
  missed := h.missed
  awaited := hawaited
  busy answer hload := hkeeper (h.busy answer hload)
  begun hload := hkeeper (h.begun hload)
  held := by
    show ∀ byKeeper answer, _ → _ → answer = Listing.load v.disk r.path false
    rw [hpath]
    exact h.held
  current := by
    show _ → _ → ∀ listing : Listing, listing.SpelledAt v.disk r.path → r.state.Shows listing
    rw [hpath, hstate]
    exact h.current
  shows := by
    show r.state.Shows v.shown
    rw [hstate]
    exact h.shows

theorem Tended.install (h : v.Tended) : (v.step .install).Tended := by
  cases hname : Path.fileName? v.registry.path with
  | none => simpa [step, FileRegistry.watchFile, hname] using h
  | some name =>
    simp only [step, FileRegistry.watchFile, hname, Bool.not_true, if_neg Bool.false_ne_true]
    exact h.congr (r := { v.registry with watched := some name }) rfl rfl h.awaited id

theorem Tended.start (h : v.Tended) : (v.step .start).Tended := by
  simp only [step]
  split
  · next hready =>
    obtain ⟨_, habsent⟩ := Bool.and_eq_true_iff.mp hready
    have hkeeper : v.keeper = .absent := of_decide_eq_true habsent
    refine h.congr rfl rfl ?_ fun hbusy => absurd (hkeeper.symm.trans hbusy) nofun
    simpa [hkeeper] using h.awaited
  · exact h

theorem Tended.handOn (h : v.Tended) : (v.step .handOn).Tended := by
  simp only [step]
  split
  · next n name _ hname =>
    rw [FileRegistry.notice, if_pos hname]
    refine h.congr (r := { v.registry with
      notices := min (v.registry.notices + 1) FileRegistry.noticeLimit }) rfl rfl
      (Or.inr (Or.inr (Or.inr (Or.inl ?_)))) id
    show 0 < min (v.registry.notices + 1) 16
    omega
  · exact h

theorem Tended.take (h : v.Tended) : (v.step .take).Tended := by
  simp only [step]
  split
  · next n hkeeper _ =>
    exact h.congr (r := { v.registry with notices := n }) rfl rfl
      (Or.inr (Or.inr (Or.inr (Or.inr rfl)))) fun hbusy => absurd (hkeeper.symm.trans hbusy) nofun
  · exact h

theorem Tended.begin (h : v.Tended) (byKeeper : Bool) : (v.step (.begin byKeeper)).Tended := by
  simp only [step]
  split
  · refine ⟨Nat.le_refl _, nofun, Or.inl rfl, nofun, fun heq => ?_, nofun, nofun, h.shows⟩
    obtain rfl : byKeeper = true := LoadPhase.begun.inj heq
    rfl
  · exact h

theorem Tended.read (h : v.Tended) : (v.step .read).Tended := by
  simp only [step]
  split
  · next byKeeper hload =>
    refine ⟨h.seen_le, h.missed, h.awaited, fun answer heq => ?_, nofun,
      fun _ answer heq _ => ?_, nofun, h.shows⟩
    · cases heq
      exact h.begun hload
    · cases heq
      rfl
  · exact h

theorem Tended.adopt (h : v.Tended) : (v.step .adopt).Tended := by
  simp only [step]
  split
  · next byKeeper answer hload =>
    have hpath : (v.registry.adoptAnswer answer).path = v.registry.path := by
      cases answer <;> rfl
    have hnotices : (v.registry.adoptAnswer answer).notices = v.registry.notices := by
      cases answer <;> rfl
    refine ⟨h.seen_le, h.missed, ?awaited, nofun, nofun, nofun, fun _ hsame listing hspelled => ?_,
      ?shows⟩
    case awaited =>
      -- A task that loads has begun to, so that its notice is spent.
      cases byKeeper with
      | true => simpa [hnotices, h.busy answer hload] using h.awaited
      | false => simpa [hnotices] using h.awaited
    · simp only [hpath] at hspelled
      obtain rfl : answer = .ok listing :=
        (h.held byKeeper answer hload hsame).trans (hspelled.load_eq false)
      exact State.shows_adopt _ listing
    case shows =>
      cases answer with
      | ok listing => exact State.shows_adopt _ listing
      | error e => exact h.shows
  · exact h

/-- Whatever happens, every change stays on its way until a load begins. -/
theorem Tended.step (h : v.Tended) (e : Event) : (v.step e).Tended := by
  cases e with
  | replace disk more => exact h.replace disk more
  | install => exact h.install
  | start => exact h.start
  | handOn => exact h.handOn
  | take => exact h.take
  | begin byKeeper => exact h.begin byKeeper
  | read => exact h.read
  | adopt => exact h.adopt

theorem Tended.run (h : v.Tended) (events : List Event) : (v.run events).Tended := by
  induction events generalizing v with
  | nil => exact h
  | cons e rest ih => exact ih (h.step e)

/-! ## What is lost and what is not -/

theorem watched_step (h : v.registry.watched.isSome = true) (e : Event) :
    (v.step e).registry.watched.isSome = true := by
  cases e with
  | install =>
    simp only [Vigil.step, FileRegistry.watchFile]
    cases Path.fileName? v.registry.path with
    | none => exact h
    | some name => rfl
  | handOn =>
    simp only [Vigil.step]
    split
    · next n name _ hname =>
      rw [FileRegistry.notice, if_pos hname]
      exact h
    · exact h
  | adopt =>
    simp only [Vigil.step]
    split
    · next byKeeper answer _ => cases answer <;> exact h
    · exact h
  | _ =>
    simp only [Vigil.step]
    split <;> exact h

theorem isMissed_step (h : v.registry.watched.isSome = true) (hmissed : v.isMissed = false)
    (e : Event) : (v.step e).isMissed = false := by
  cases e with
  | replace disk more =>
    simp only [Vigil.step]
    rw [if_pos h]
    exact hmissed
  | begin byKeeper =>
    simp only [Vigil.step]
    split
    · rfl
    · exact hmissed
  | _ =>
    simp only [Vigil.step]
    split <;> exact hmissed

theorem isMissed_run (h : v.registry.watched.isSome = true) (hmissed : v.isMissed = false)
    (events : List Event) : (v.run events).isMissed = false := by
  induction events generalizing v with
  | nil => exact hmissed
  | cons e rest ih => exact ih (watched_step h e) (isMissed_step h hmissed e)

theorem IsQuiet.seen_eq_iff (hquiet : v.IsQuiet) (h : v.Tended) :
    v.seen = v.edition ↔ v.isMissed = false := by
  constructor
  · intro hseen
    refine Bool.eq_false_iff.mpr fun hmissed => ?_
    have hlt := h.missed hmissed
    omega
  · intro hkept
    rcases h.awaited with hseen | hmissed | hsightings | hnotices | hsummoned
    · exact hseen
    · rw [hkept] at hmissed
      cases hmissed
    · rw [hquiet.sightings_eq] at hsightings
      omega
    · rw [hquiet.notices_eq] at hnotices
      omega
    · exact absurd (hquiet.keeper_eq.symm.trans hsummoned) nofun

/-- A document was read for the first time, the rest of opening goes on, and the file is replaced at
any time. The members are always those of the last document that could be read. When nothing is on
its way to the task, the last load began after the last replacement, and the members are those of
the present document if it can be read, unless the file was last replaced before there was a watch:
from then on nothing is missed. -/
theorem no_change_lost {disk : Disk} {path : String} {buffer : Nat} {r : FileRegistry}
    (hstart : FileRegistry.start disk path buffer = .ok r) (events : List Event) :
    let v := (opening disk r).run events
    v.registry.state.Shows v.shown ∧
    (v.IsQuiet → (v.seen = v.edition ↔ v.isMissed = false) ∧
      (v.isMissed = false → ∀ listing : Listing, listing.SpelledAt v.disk v.registry.path →
        v.registry.state.Shows listing)) ∧
    (v.registry.watched.isSome = true → v.isMissed = false → ∀ later,
      (v.run later).isMissed = false) := by
  intro v
  have h : v.Tended := (tended_opening hstart).run events
  refine ⟨h.shows, fun hquiet => ⟨hquiet.seen_eq_iff h, fun hkept listing hspelled => ?_⟩,
    fun hwatched hkept later => isMissed_run hwatched hkept later⟩
  exact h.current hquiet.load_eq ((hquiet.seen_eq_iff h).mpr hkept) listing hspelled

/-- The file is replaced after the document was read and before there is a watch. The registry goes
quiet without a load, and shows what it read first. -/
theorem lost_before_watch {disk : Disk} {path name : String} {buffer : Nat} {r : FileRegistry}
    (hstart : FileRegistry.start disk path buffer = .ok r)
    (hname : Path.fileName? path = some name) (disk' : Disk) :
    let v := (opening disk r).run [.replace disk' 0, .install, .start]
    v.IsQuiet ∧ v.seen < v.edition ∧ v.disk = disk' ∧ v.registry.state = r.state := by
  obtain ⟨listing, hload, rfl⟩ := FileRegistry.start_eq_ok hstart
  intro v
  have hv : v = {
      disk := disk'
      registry := { path, state := ((State.new buffer).adopt listing).2, watched := some name }
      keeper := .idle
      edition := 1
      isMissed := true
      shown := listing } := by
    simp [v, run, Vigil.step, opening, FileRegistry.watchFile, hname, hload, Except.toOption]
  rw [hv]
  exact ⟨⟨rfl, rfl, rfl, rfl⟩, Nat.one_pos, rfl, rfl⟩

end Vigil

end Roster
