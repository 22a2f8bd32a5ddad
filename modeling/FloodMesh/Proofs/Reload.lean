/-
Reloading the known nodes of a running node.

An attempt that gives no list changes nothing. Otherwise the status table follows the list
and the list is published as a whole. The relay learns of it when it next minds the known
nodes; it may skip lists that were replaced in the meantime. Whenever it has nothing left
to learn, its memory has the size for the list that is published.

Frames come, the poller polls and files change at any time between these moments.
-/

import FloodMesh.Host
import FloodMesh.Proofs.Defaults
import FloodMesh.Proofs.Echo
import FloodMesh.Proofs.FifoSet
import FloodMesh.Proofs.Guards
import FloodMesh.Proofs.Life
import FloodMesh.Proofs.Listening
import Mathlib

namespace FloodMesh

/-! ### What an attempt reads -/

namespace Environment

inductive Faulty (environment : Environment) (tree : FileTree) : Prop
  | unreadable {fault : ReadFault} (there : tree.has environment.configPath = true)
      (unread : tree.readText environment.configPath = .error fault)
  | unparsable {text : String} (there : tree.has environment.configPath = true)
      (read : tree.readText environment.configPath = .ok text)
      (invalid : environment.defaults.parse? text = none)
  | malformed {config : Config} {item : String} {error : FrameError}
      (loaded : environment.load tree = .ok config) (listed : item ∈ config.mesh.knownNodes)
      (wrong : Address.ofString item = .error error)

variable {environment : Environment} {tree : FileTree}

private theorem mapM_eq_error_iff {α β ε : Type} {read : α → Except ε β} {items : List α} :
    (∃ error, items.mapM read = .error error) ↔
      ∃ item ∈ items, ∃ error, read item = .error error := by
  induction items with
  | nil => simp [pure, Except.pure]
  | cons item rest ih =>
      rw [List.mapM_cons]
      cases first : read item with
      | error error => simp [bind, Except.bind, first]
      | ok value =>
          simp only [bind, Except.bind, List.mem_cons, exists_eq_or_imp, first, reduceCtorEq,
            exists_false, false_or]
          rw [← ih]
          cases rest.mapM read <;> simp [pure, Except.pure]

private theorem listing_eq_error_iff :
    (∃ error, environment.listing tree = .error error) ↔ environment.Faulty tree := by
  constructor
  · rintro ⟨error, failed⟩
    cases loaded : environment.load tree with
    | error cause =>
        obtain ⟨there, ⟨fault, unread⟩ | ⟨text, read, invalid⟩⟩ :=
          load_eq_error_iff.mp ⟨cause, loaded⟩
        · exact .unreadable there unread
        · exact .unparsable there read invalid
    | ok config =>
        have unlisted : config.knownNodes = .error error := by
          rw [listing, loaded] at failed
          exact failed
        obtain ⟨item, listed, cause, wrong⟩ := mapM_eq_error_iff.mp ⟨error, unlisted⟩
        unfold Config.addressIn at wrong
        cases reads : Address.ofString item with
        | error reason => exact .malformed loaded listed reads
        | ok address =>
            rw [reads] at wrong
            cases wrong
  · intro faulty
    have unloaded : (∃ error, environment.load tree = .error error) →
        ∃ error, environment.listing tree = .error error := by
      rintro ⟨error, failed⟩
      exact ⟨error, by rw [listing, failed]; rfl⟩
    cases faulty with
    | unreadable there unread => exact unloaded (load_eq_error_iff.mpr ⟨there, .inl ⟨_, unread⟩⟩)
    | unparsable there read invalid =>
        exact unloaded (load_eq_error_iff.mpr ⟨there, .inr ⟨_, read, invalid⟩⟩)
    | malformed loaded listed wrong =>
        have refused : ∃ cause, Config.addressIn "mesh.known_nodes" _ = .error cause :=
          ⟨_, by rw [Config.addressIn, wrong]⟩
        obtain ⟨error, failed⟩ := mapM_eq_error_iff.mpr ⟨_, listed, refused⟩
        refine ⟨error, ?_⟩
        rw [listing, loaded]
        exact failed

end Environment

/-- The reload of a running node is an attempt, and, if it gives a list, a new status
table and a publication. -/
theorem Daemon.reload_eq (daemon : Daemon) :
    daemon.reload =
      (daemon.environment.listing daemon.tree).map fun known =>
        { daemon with
          field :=
            (daemon.field.changeNode 0 fun node =>
              { node with status := node.status.track known }).publish known } := by
  unfold reload Environment.listing
  cases daemon.environment.load daemon.tree with
  | error cause => rfl
  | ok config =>
      simp only [bind, Except.bind]
      cases config.knownNodes <;> rfl

/-! ### The poller leaves the memory alone -/

def Sending.Turn.Spares (ring : Ring) : Sending.Turn → Prop
  | .goesOn _ node _ => node.ring = ring
  | .ends _ node => node.ring = ring

private theorem Sending.spares_turn (errand : Errand) (verdict : Verdict) (node : Node)
    (sending : Sending) : (sending.turn errand verdict node).Spares node.ring := by
  cases sending with
  | composed request =>
      simp only [turn]
      split <;> rfl
  | numbered request =>
      simp only [turn, Turn.Spares]
      split <;> rfl
  | starting | accepted => rfl

def Poll.Turn.Spares (ring : Ring) : Poll.Turn → Prop
  | .goesOn _ node _ => node.ring = ring
  | .ends _ node _ => node.ring = ring
  | .sleeps => True

private theorem Poll.spares_turn (poller : Poller) (moment : Moment) (node : Node) (poll : Poll) :
    (poll.turn poller moment node).Spares node.ring := by
  cases stage : poll.stage with
  | sending sending =>
      have spares := Sending.spares_turn (errand poller poll) moment.verdict node sending
      simp only [turn, stage]
      cases turned : sending.turn (errand poller poll) moment.verdict node with
      | goesOn next later effects =>
          rw [turned] at spares
          exact spares
      | ends result later =>
          rw [turned] at spares
          cases result <;> exact spares
  | sent =>
      simp only [turn, stage]
      rfl
  | waiting waiter =>
      simp only [turn, stage]
      cases waiter.turn node.queue moment.clock <;> first | rfl | trivial

def PollCycle.Turn.Spares (ring : Ring) : PollCycle.Turn → Prop
  | .goesOn _ node _ => node.ring = ring
  | .ends _ node => node.ring = ring
  | .sleeps => True

private theorem PollCycle.spares_turn (poller : Poller) (moment : Poll.Moment) (node : Node)
    (cycle : PollCycle) : (cycle.turn poller moment node).Spares node.ring := by
  cases current : cycle.current with
  | some poll =>
      have spares := Poll.spares_turn poller moment node poll
      simp only [turn, current]
      cases turned : poll.turn poller moment node <;> rw [turned] at spares <;> exact spares
  | none =>
      simp only [turn, current]
      cases cycle.remaining <;> rfl

private theorem PollLoop.ring_of_goesOn {known : List Address} {moment : Poll.Moment}
    {node later : Node} {loop next : PollLoop} {effects : List Effect}
    (went : loop.turn known moment node = .goesOn next later effects) :
    later.ring = node.ring := by
  cases current : loop.cycle with
  | some cycle =>
      have spares := PollCycle.spares_turn loop.poller moment node cycle
      simp only [turn, current] at went
      cases turned : cycle.turn loop.poller moment node <;> rw [turned] at went spares <;>
        cases went <;> exact spares
  | none =>
      simp only [turn, current] at went
      split at went
      · cases went
      · split at went <;> cases went
        rfl

/-! ### What a turn of the relay does to the memory -/

private theorem Course.nodup {node : Node} {surroundings : Surroundings} {frame : Bytes}
    {outcome : Outcome} {done : List Effect} {ring : Ring}
    (course : Course node surroundings frame outcome done ring)
    (distinct : node.ring.entries.Nodup) : ring.entries.Nodup := by
  have absorbed : node.absorbedRing.entries.Nodup := Ring.nodup_foldl_insert distinct _
  cases course with
  | dropped => exact absorbed
  | forwarded | forwardFailed | queued | reported | ignored | replyFailed =>
      exact Ring.nodup_insert absorbed _
  | replied => exact Ring.nodup_insert (Ring.nodup_insert absorbed _) _

private theorem Node.ring_setKnownCount (node : Node) (count : Nat) :
    (node.setKnownCount count).1.ring = node.ring.resize (Ring.capacityFor count) := by
  rw [setKnownCount_eq]

namespace RelayLoop

inductive Changes (known : Watch (List Address)) (place : Place) (branch : Branch) :
    Place → Prop
  | nothing {later : Place} (seen_eq : later.loop.seen = place.loop.seen)
      (node_eq : later.node = place.node) : Changes known place branch later
  | processes {later : Place} (surroundings : Surroundings) (frame : Bytes)
      (seen_eq : later.loop.seen = place.loop.seen)
      (node_eq : later.node = (place.node.process surroundings frame).node) :
      Changes known place branch later
  | fits {later : Place} (minded : branch = .known)
      (unseen : place.loop.seen.any known.changedSince = true)
      (seen_eq : later.loop.seen = some known.version)
      (node_eq : later.node = (place.node.setKnownCount known.value.length).1) :
      Changes known place branch later
  | unwatches {later : Place} (nothingNew : place.loop.seen.any known.changedSince = false)
      (closed : known.closed = true) (seen_eq : later.loop.seen = none)
      (node_eq : later.node = place.node) : Changes known place branch later

variable {known : Watch (List Address)} {now : Nat} {place later : Place}
  {effects : List Effect} {branch : Branch}

private theorem changes_of_update (updated : update known place = .goesOn later effects) :
    Changes known place .known later := by
  have kept : (interrupt place).loop.seen = place.loop.seen := rfl
  cases seen : place.loop.seen with
  | none =>
      simp only [update, kept, seen] at updated
      cases updated
  | some version =>
      simp only [update, kept, seen] at updated
      split at updated
      · rename_i changed
        cases updated
        exact .fits rfl (by rw [seen]; exact changed) rfl rfl
      · rename_i unchanged
        split at updated
        · rename_i closed
          cases updated
          exact .unwatches (by rw [seen]; exact eq_false_of_ne_true unchanged) closed rfl rfl
        · cases updated

private theorem changes_of_receive (received : receive now place = .goesOn later effects) :
    Changes known place .frame later := by
  unfold receive at received
  cases phase : place.loop.phase with
  | ready =>
      simp only [phase] at received
      cases received
      exact .nothing rfl rfl
  | listening =>
      simp only [phase] at received
      split at received
      · cases received
        exact .nothing rfl rfl
      · cases received
        exact .processes _ _ rfl rfl
  | asleep =>
      simp only [phase] at received
      split at received
      · cases received
        exact .nothing rfl rfl
      · cases received

private theorem changes_of_turn (turned : branch.turn known now place = .goesOn later effects) :
    Changes known place branch later := by
  cases branch with
  | shutdown =>
      rw [Branch.turn] at turned
      split at turned <;> cases turned
  | known =>
      rw [Branch.turn] at turned
      split at turned
      · exact changes_of_update turned
      · cases turned
  | frame => exact changes_of_receive turned

end RelayLoop

/-! ### The memory fits the list -/

namespace Host

variable {host later next : Host} {move : Move} {moves : List Move}

structure Fits (host : Host) : Prop where
  distinct : host.ring.entries.Nodup
  behind : ∀ seen, host.place.loop.seen = some seen → seen ≤ host.known.version
  unwatched : host.place.loop.seen = none → host.known.closed = true
  fitted : host.hasUnseen = false →
    host.ring.capacity = Ring.capacityFor host.known.value.length

private theorem fits_opened (environment : Environment) (tree : FileTree) (memory : Path)
    (fresh : Node) (station : Station) (known : List Address) (poller : Option PollLoop) :
    (opened environment tree memory fresh station known poller).Fits where
  distinct := by
    simp only [ring, opened, Daemon.restored, Cache.ring_restore]
    exact Ring.nodup_refill_empty _ _
  behind seen watched := by
    cases watched
    exact Nat.zero_le _
  unwatched watched := by cases watched
  fitted _ := by
    simp only [ring, opened, Daemon.restored, Cache.ring_restore, Ring.capacity_refill,
      Ring.capacity_empty]

/-- A step that does not touch the memory, nor the list, nor what was seen of it. -/
theorem Fits.of_spared (fits : host.Fits) (ring_eq : later.ring = host.ring)
    (seen_eq : later.place.loop.seen = host.place.loop.seen)
    (known_eq : later.known = host.known) : later.Fits where
  distinct := ring_eq ▸ fits.distinct
  behind := by
    rw [seen_eq, known_eq]
    exact fits.behind
  unwatched := by
    rw [seen_eq, known_eq]
    exact fits.unwatched
  fitted := by
    unfold hasUnseen
    rw [seen_eq, known_eq, ring_eq]
    exact fits.fitted

private theorem Fits.changed (fits : host.Fits) {branch : RelayLoop.Branch}
    (known_eq : later.known = host.known)
    (changes : RelayLoop.Changes host.known host.place branch later.place) : later.Fits := by
  cases changes with
  | nothing seen_eq node_eq =>
      exact fits.of_spared (congrArg Node.ring node_eq) seen_eq known_eq
  | processes surroundings frame seen_eq node_eq =>
      have course := course_process host.place.node surroundings frame
      rw [← node_eq] at course
      refine ⟨course.nodup fits.distinct, ?_, ?_, ?_⟩
      · rw [seen_eq, known_eq]
        exact fits.behind
      · rw [seen_eq, known_eq]
        exact fits.unwatched
      · intro seenAll
        have capacity_eq : later.ring.capacity = host.ring.capacity := course.capacity
        unfold hasUnseen at seenAll
        rw [seen_eq, known_eq] at seenAll
        rw [capacity_eq, known_eq]
        exact fits.fitted seenAll
  | fits minded unseen seen_eq node_eq =>
      have ring_eq : later.ring =
          host.ring.resize (Ring.capacityFor host.known.value.length) := by
        rw [ring, node_eq, Node.ring_setKnownCount]
        rfl
      refine ⟨?_, ?_, ?_, ?_⟩
      · rw [ring_eq]
        exact Ring.nodup_resize fits.distinct _
      · intro seen watched
        rw [seen_eq] at watched
        cases watched
        rw [known_eq]
      · intro impossible
        rw [seen_eq] at impossible
        cases impossible
      · intro _
        rw [ring_eq, Ring.capacity_resize, known_eq]
  | unwatches nothingNew closed seen_eq node_eq =>
      have ring_eq : later.ring = host.ring := congrArg Node.ring node_eq
      refine ⟨ring_eq ▸ fits.distinct, ?_, ?_, ?_⟩
      · intro seen impossible
        rw [seen_eq] at impossible
        cases impossible
      · intro _
        rw [known_eq]
        exact closed
      · intro _
        rw [ring_eq, known_eq]
        exact fits.fitted nothingNew

/-- A published list is new to whoever still watches. -/
theorem Fits.published (fits : host.Fits) (addresses : List Address) (reload : Reload) :
    Fits { host with known := host.known.publish addresses, reload } := by
  by_cases closed : host.known.closed = true
  · have known_eq : host.known.publish addresses = host.known := if_pos closed
    rw [known_eq]
    exact fits.of_spared rfl rfl rfl
  · have known_eq : host.known.publish addresses =
        { host.known with value := addresses, version := host.known.version + 1 } :=
      if_neg closed
    rw [known_eq]
    refine ⟨fits.distinct, ?_, fits.unwatched, ?_⟩
    · intro seen watched
      exact Nat.le_succ_of_le (fits.behind seen watched)
    · intro seenAll
      cases watched : host.place.loop.seen with
      | none => exact absurd (fits.unwatched watched) closed
      | some seen =>
          have older := fits.behind seen watched
          have same : host.known.version + 1 = seen := by
            simpa [hasUnseen, watched, Watch.changedSince] using seenAll
          omega

private theorem changes_of_step {branch : RelayLoop.Branch} {now : Nat}
    (stepped : host.step? (.runs branch now) = some later) :
    later.known = host.known ∧
      RelayLoop.Changes host.known host.place branch later.place := by
  simp only [step?] at stepped
  split at stepped
  · cases stepped
  · split at stepped
    · rename_i turned
      cases stepped
      exact ⟨rfl, RelayLoop.changes_of_turn turned⟩
    · rename_i turned
      cases stepped
      rw [RelayLoop.ends_of_turn turned]
      exact ⟨rfl, .nothing rfl rfl⟩
    · cases stepped

private theorem Fits.step (fits : host.Fits) (stepped : host.step? move = some later) :
    later.Fits := by
  cases move with
  | runs branch now =>
      obtain ⟨known_eq, changes⟩ := changes_of_step stepped
      exact fits.changed known_eq changes
  | polls moment =>
      obtain ⟨loop, _, turned⟩ := Option.bind_eq_some_iff.mp stepped
      split at turned
      · rename_i went
        cases turned
        exact fits.of_spared (PollLoop.ring_of_goesOn went) rfl rfl
      · cases turned
        exact fits.of_spared rfl rfl rfl
      · cases turned
  | attempts =>
      simp only [step?] at stepped
      split at stepped
      · split at stepped <;> cases stepped <;> exact fits.of_spared rfl rfl rfl
      · cases stepped
  | tracks =>
      simp only [step?] at stepped
      split at stepped <;> cases stepped
      exact fits.of_spared rfl rfl rfl
  | publishes =>
      simp only [step?] at stepped
      split at stepped <;> cases stepped
      exact fits.published _ _
  | abandons =>
      simp only [step?] at stepped
      split at stepped <;> cases stepped
      exact ⟨fits.distinct, fits.behind, fun _ => rfl, fits.fitted⟩
  | stores | rings | tunes | tells | flushes | edits | signals =>
      cases stepped
      exact fits.of_spared rfl rfl rfl

private theorem Fits.follow (fits : host.Fits) (followed : host.follow? moves = some later) :
    later.Fits := by
  induction moves generalizing host with
  | nil =>
      cases followed
      exact fits
  | cons move rest ih =>
      obtain ⟨middle, stepped, remaining⟩ := Option.bind_eq_some_iff.mp followed
      exact ih (fits.step stepped) remaining

/-! ### Resizes -/

/-- Only the relay, when it minds a change, changes the size of the memory. -/
theorem capacity_step (stepped : host.step? move = some later) :
    later.ring.capacity = host.ring.capacity ∨
      (∃ now, move = .runs .known now) ∧ host.hasUnseen = true := by
  cases move with
  | runs branch now =>
      obtain ⟨_, changes⟩ := changes_of_step stepped
      cases changes with
      | nothing seen_eq node_eq | unwatches nothingNew closed seen_eq node_eq =>
          exact .inl (congrArg (fun node => node.ring.capacity) node_eq)
      | processes surroundings frame seen_eq node_eq =>
          have course := course_process host.place.node surroundings frame
          rw [← node_eq] at course
          exact .inl course.capacity
      | fits minded unseen seen_eq node_eq => exact .inr ⟨⟨now, by rw [minded]⟩, unseen⟩
  | polls moment =>
      obtain ⟨loop, _, turned⟩ := Option.bind_eq_some_iff.mp stepped
      split at turned
      · rename_i went
        cases turned
        exact .inl (congrArg Ring.capacity (PollLoop.ring_of_goesOn went))
      · cases turned
        exact .inl rfl
      · cases turned
  | attempts | tracks | publishes | abandons =>
      simp only [step?] at stepped
      repeat' split at stepped
      all_goals cases stepped
      all_goals exact .inl rfl
  | stores | rings | tunes | tells | flushes | edits | signals =>
      cases stepped
      exact .inl rfl

private theorem resized_of_step {now : Nat} (unseen : host.hasUnseen = true)
    (stepped : host.step? (.runs .known now) = some later) :
    later.hasUnseen = false ∧ later.known = host.known ∧
      later.place.node =
        { host.place.node with
          ring := host.ring.resize (Ring.capacityFor host.known.value.length) } := by
  obtain ⟨seen, watched, changed⟩ :
      ∃ seen, host.place.loop.seen = some seen ∧ host.known.changedSince seen = true := by
    simpa [hasUnseen, Option.any_eq_true] using unseen
  have minded : RelayLoop.minds host.known host.place.loop = true := by
    simp [RelayLoop.minds, watched, changed]
  have updated : RelayLoop.update host.known host.place =
      .goesOn
        { RelayLoop.interrupt host.place with
          node := (host.place.node.setKnownCount host.known.value.length).1
          loop :=
            { (RelayLoop.interrupt host.place).loop with seen := some host.known.version } }
        (host.place.node.setKnownCount host.known.value.length).2 := by
    simp only [RelayLoop.update, RelayLoop.interrupt, watched, changed, if_true]
  simp only [step?] at stepped
  split at stepped
  · cases stepped
  · rw [RelayLoop.Branch.turn, if_pos minded, updated] at stepped
    cases stepped
    refine ⟨?_, rfl, ?_⟩
    · simp [hasUnseen, Watch.changedSince]
    · rw [setKnownCount_eq]
      rfl

end Host

namespace Node

/-- What becomes of a frame with this fingerprint: it is a duplicate, or it is handled. -/
theorem outcome_of_admitted {node : Node} {surroundings : Surroundings} {frame : Bytes}
    {packet : Packet} (admitted : examine (Ring.empty 0) frame = .ok packet) :
    if packet.fingerprint ∈ node.absorbedRing.entries then
      (node.process surroundings frame).outcome = .dropped .duplicate
    else ∀ reason, (node.process surroundings frame).outcome ≠ .dropped reason := by
  have examined : examine node.absorbedRing frame = _ := examine_of_admitted admitted
  split at examined
  · rename_i known
    rw [if_pos known, process_of_refused surroundings examined]
  · rename_i unknown
    rw [if_neg unknown]
    intro reason dropped
    have refused := (course_process node surroundings frame).refused dropped
    rw [examined] at refused
    cases refused

end Node

/-! ### Reloads -/

namespace Host

variable {host later next : Host}

private theorem attempt_fails_iff (idle : host.reload = .idle) :
    host.step? .attempts = some host ↔ host.environment.Faulty host.tree := by
  rw [← Environment.listing_eq_error_iff]
  simp only [step?, idle]
  cases listed : host.environment.listing host.tree with
  | error error => simp
  | ok addresses =>
      simp only [Option.some.injEq, reduceCtorEq, exists_false, iff_false]
      intro same
      have impossible := congrArg Host.reload same
      rw [idle] at impossible
      cases impossible

structure Resized (host later : Host) : Prop where
  learned : later.hasUnseen = false
  capacity_eq : later.ring.capacity = min 10 host.known.value.length
  entries_eq : later.ring.entries = newest (min 10 host.known.value.length) host.ring.entries
  sorts : ∀ surroundings frame packet, Node.examine (Ring.empty 0) frame = .ok packet →
    if packet.fingerprint ∈ later.place.node.absorbedRing.entries then
      (later.place.node.process surroundings frame).outcome = .dropped .duplicate
    else ∀ reason, (later.place.node.process surroundings frame).outcome ≠ .dropped reason
  survivors : later.place.node.announced = [] → later.place.node.absorbedRing = later.ring
  evicted : ∀ fingerprint, fingerprint ∉ later.ring.entries →
    fingerprint ∉ later.place.node.announced →
    fingerprint ∉ later.place.node.absorbedRing.entries

private theorem Fits.resized (fits : host.Fits) {now : Nat} (unseen : host.hasUnseen = true)
    (stepped : host.step? (.runs .known now) = some later) : host.Resized later := by
  obtain ⟨learned, _, node_eq⟩ := resized_of_step unseen stepped
  have capacityFor_eq : Ring.capacityFor host.known.value.length =
      min 10 host.known.value.length := Nat.min_comm _ _
  have ring_eq : later.ring = host.ring.resize (min 10 host.known.value.length) := by
    rw [ring, node_eq, capacityFor_eq]
  refine ⟨learned, ?_, ?_, ?_, ?_, ?_⟩
  · rw [ring_eq, Ring.capacity_resize]
  · rw [ring_eq, Ring.entries_resize fits.distinct]
  · exact fun surroundings frame packet admitted => Node.outcome_of_admitted admitted
  · intro nothing
    rw [Node.absorbedRing, nothing]
    rfl
  · exact fun fingerprint unknown apart => Ring.not_mem_foldl_insert unknown apart

/-- Whatever happens to a node from its start on, and in whatever order:

* an attempt that finds the settings faulty leaves everything as it is, and no other does;
* while the relay has no unseen change of the list, its memory has the size for the list;
* only the relay, when it minds a change, changes that size. It keeps the newest that fit:
  a frame that was remembered and still is stays a duplicate, and one that is remembered no
  more, and was not announced since, is handled like a new one. -/
theorem reloads_atomic {environment : Environment} {tree : FileTree} {memory : Path}
    {fresh : Node} {station : Station} {known : List Address} {poller : Option PollLoop}
    {moves : List Move}
    (followed :
      (opened environment tree memory fresh station known poller).follow? moves = some later) :
    (later.reload = .idle →
        (later.step? .attempts = some later ↔ later.environment.Faulty later.tree)) ∧
      (later.hasUnseen = false →
        later.ring.capacity = min 10 later.known.value.length) ∧
      (∀ move next, later.step? move = some next →
        next.ring.capacity = later.ring.capacity ∨
          (∃ now, move = .runs .known now) ∧ later.hasUnseen = true) ∧
      ∀ now next, later.hasUnseen = true → later.step? (.runs .known now) = some next →
        later.Resized next := by
  have fits := (fits_opened environment tree memory fresh station known poller).follow followed
  refine ⟨attempt_fails_iff, ?_, fun move next => capacity_step, fun now next => fits.resized⟩
  intro learned
  rw [fits.fitted learned]
  exact Nat.min_comm _ _

def listingOf (nodes : String) : FileTree where
  items := [(["c"], .file (Utf8.ofString ("[mesh]\nknown_nodes = [" ++ nodes ++ "]\n")))]

/-- A node that knows three others, and is about to remember three packets. -/
def smallHost : Host :=
  opened { bindings := [("AGROMESH_CONFIG", "c")] } {} { text := "m" }
    { address := .numbered 0
      duty := .controller
      ring := Ring.empty 0
      announced := [Cache.stamp 1, Cache.stamp 2, Cache.stamp 3]
      queue := Queue.new 4 }
    {} [.numbered 1, .numbered 2, .numbered 3] none

/-- A frame is heard, two nodes are taken off the list, and the file is broken. -/
def shrinking : List Move :=
  [ .stores [], .rings, .runs .frame 0, .runs .frame 0, .edits (listingOf "\"node01\""),
    .attempts, .tracks, .publishes, .edits (listingOf "\"node01"), .attempts ]

theorem reloads_atomic_shrinking :
    ∃ later next, smallHost.follow? shrinking = some later ∧
      later.ring.entries = [Cache.stamp 1, Cache.stamp 2, Cache.stamp 3] ∧
      later.step? (.runs .known 0) = some next ∧ next.ring.entries = [Cache.stamp 3] := by
  have went : (smallHost.follow? shrinking).bind (fun later =>
      (later.step? (.runs .known 0)).map fun _ =>
        (later.hasUnseen, later.known.value.length, later.ring.entries)) =
      some (true, 1, [Cache.stamp 1, Cache.stamp 2, Cache.stamp 3]) := by decide +kernel
  obtain ⟨later, followed, went⟩ := Option.bind_eq_some_iff.mp went
  obtain ⟨next, stepped, standing⟩ := Option.map_eq_some_iff.mp went
  obtain ⟨unseen, count, entries⟩ := by simpa only [Prod.mk.injEq] using standing
  have resized := (reloads_atomic followed).2.2.2 0 next unseen stepped
  refine ⟨later, next, followed, entries, stepped, ?_⟩
  rw [resized.entries_eq, count, entries]
  rfl

end Host

end FloodMesh
