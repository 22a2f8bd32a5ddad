/-
A poll cycle accounts for every node that it was to poll.

While a cycle runs, others may append readings, tell of them, take readings away
and replace the list of known nodes, in any order and as often as they like. Time
passes only while the cycle sleeps, and not beyond the moment when it is due. One
account is opened for each polled node, in order, and everything the cycle leaves
behind can be read off the accounts: the report, the frames that the radio was
handed with its answers, the requests and notices with their times, the numbers
used up and the time that went by.
-/

import FloodMesh.Poll.Cycle
import FloodMesh.Proofs.Course
import FloodMesh.Proofs.WakeUp
import Mathlib

namespace FloodMesh

/-! ### Accounts -/

structure Account where
  dest : Address
  outcome : Polled
  /-- Milliseconds from the request to the outcome. -/
  waited : Nat

namespace Account

def isAnswered (account : Account) : Bool :=
  match account.outcome with
  | .answered _ => true
  | _ => false

def isTimedOut (account : Account) : Bool :=
  match account.outcome with
  | .timedOut => true
  | _ => false

def isSendFailed (account : Account) : Bool :=
  match account.outcome with
  | .sendFailed _ => true
  | _ => false

def verdict (account : Account) : Verdict :=
  match account.outcome with
  | .sendFailed fault => some fault
  | _ => none

def sends (account : Account) : Nat := if account.isSendFailed then 0 else 1

/-- What was seen of a poll that began at this time with this request. -/
def effects (account : Account) (request : Packet) (begun : Nat) : List (Nat × Effect) :=
  match account.outcome with
  | .answered _ => [(begun, .sent request.frame)]
  | .timedOut =>
      [(begun, .sent request.frame),
        (begun + account.waited, .notified account.dest .noResponse)]
  | .sendFailed _ => [(begun, .notified account.dest .sendFailed)]

end Account

def PollReport.ofAccounts (accounts : List Account) : PollReport where
  answered := (accounts.filter Account.isAnswered).map Account.dest
  timedOut := (accounts.filter Account.isTimedOut).map Account.dest
  sendFailed := (accounts.filter Account.isSendFailed).map Account.dest

private theorem PollReport.ofAccounts_concat (accounts : List Account) (last : Account) :
    PollReport.ofAccounts (accounts ++ [last]) =
      (PollReport.ofAccounts accounts).add last.dest last.outcome := by
  obtain ⟨dest, outcome, waited⟩ := last
  cases outcome <;>
    simp [PollReport.ofAccounts, PollReport.add, List.filter_cons, Account.isAnswered,
      Account.isTimedOut, Account.isSendFailed]

/-- Requests tell the length of the list, or 255 if it is longer. -/
theorem PollCycle.announcedSize_eq (known : List Address) :
    announcedSize known = UInt8.ofNat (min 255 known.length) := by
  rw [announcedSize, Nat.min_comm]

structure Office where
  poller : Poller
  node : Node
  known : List Address
  now : Nat

namespace Office

variable (office : Office)

/-- The request to a node, after so many others of the cycle went out. -/
def request (dest : Address) (sent : Nat) : Packet where
  dest := dest
  src := office.node.address
  content := .request (UInt8.ofNat (min 255 office.known.length))
  hops := office.poller.hops
  fingerprint :=
    Fingerprint.generate office.node.address (office.node.sequence + UInt8.ofNat sent)

def Keeps (account : Account) : Prop :=
  match account.outcome with
  | .answered entry =>
      entry.isFor office.node.address account.dest = true ∧
        account.waited ≤ office.poller.timeout
  | .timedOut => account.waited = office.poller.timeout
  | .sendFailed _ => account.waited = 0

/-- What was seen from this time on, after so many requests: one poll after the
other, each begun when the last had ended. -/
def chronicleFrom (begun sent : Nat) : List Account → List (Nat × Effect)
  | [] => []
  | account :: rest =>
      account.effects (office.request account.dest sent) begun ++
        chronicleFrom (begun + account.waited) (sent + account.sends) rest

def chronicle (accounts : List Account) : List (Nat × Effect) :=
  office.chronicleFrom office.now 0 accounts

def exchangesFrom (sent : Nat) : List Account → List (Bytes × Verdict)
  | [] => []
  | account :: rest =>
      ((office.request account.dest sent).frame, account.verdict) ::
        exchangesFrom (sent + account.sends) rest

def exchanges (accounts : List Account) : List (Bytes × Verdict) :=
  office.exchangesFrom 0 accounts

end Office

def elapsed (accounts : List Account) : Nat := (accounts.map Account.waited).sum

def requestsSent (accounts : List Account) : Nat := (accounts.map Account.sends).sum

private theorem elapsed_concat (accounts : List Account) (last : Account) :
    elapsed (accounts ++ [last]) = elapsed accounts + last.waited := by
  simp [elapsed]

private theorem requestsSent_concat (accounts : List Account) (last : Account) :
    requestsSent (accounts ++ [last]) = requestsSent accounts + last.sends := by
  simp [requestsSent]

/-- A request went out for each node that answered or kept silent. -/
theorem requestsSent_eq (accounts : List Account) :
    requestsSent accounts =
      (PollReport.ofAccounts accounts).answered.length +
        (PollReport.ofAccounts accounts).timedOut.length := by
  simp only [PollReport.ofAccounts, List.length_map, requestsSent]
  induction accounts with
  | nil => rfl
  | cons first rest ih =>
      obtain ⟨dest, outcome, waited⟩ := first
      rw [List.map_cons, List.sum_cons, ih]
      cases outcome <;>
        simp [List.filter_cons, Account.sends, Account.isAnswered, Account.isTimedOut,
          Account.isSendFailed] <;>
        omega

namespace Office

variable {office : Office}

private theorem chronicleFrom_concat {begun sent : Nat} (accounts : List Account) (last : Account) :
    office.chronicleFrom begun sent (accounts ++ [last]) =
      office.chronicleFrom begun sent accounts ++
        last.effects (office.request last.dest (sent + requestsSent accounts))
          (begun + elapsed accounts) := by
  induction accounts generalizing begun sent with
  | nil => simp [chronicleFrom, requestsSent, elapsed]
  | cons first rest ih =>
      simp only [List.cons_append, chronicleFrom, ih, List.append_assoc, requestsSent, elapsed,
        List.map_cons, List.sum_cons, Nat.add_assoc]

private theorem chronicle_concat (accounts : List Account) (last : Account) :
    office.chronicle (accounts ++ [last]) =
      office.chronicle accounts ++
        last.effects (office.request last.dest (requestsSent accounts))
          (office.now + elapsed accounts) := by
  unfold chronicle
  rw [chronicleFrom_concat, Nat.zero_add]

private theorem exchangesFrom_concat {sent : Nat} (accounts : List Account) (last : Account) :
    office.exchangesFrom sent (accounts ++ [last]) =
      office.exchangesFrom sent accounts ++
        [((office.request last.dest (sent + requestsSent accounts)).frame, last.verdict)] := by
  induction accounts generalizing sent with
  | nil => simp [exchangesFrom, requestsSent]
  | cons first rest ih =>
      simp only [List.cons_append, exchangesFrom, ih, requestsSent, List.map_cons,
        List.sum_cons, Nat.add_assoc]

private theorem exchanges_concat (accounts : List Account) (last : Account) :
    office.exchanges (accounts ++ [last]) =
      office.exchanges accounts ++
        [((office.request last.dest (requestsSent accounts)).frame, last.verdict)] := by
  unfold exchanges
  rw [exchangesFrom_concat, Nat.zero_add]

end Office

/-! ### A cycle among others -/

structure Round where
  office : Office
  cycle : PollCycle
  /-- Each frame that the radio was handed, and its answer. -/
  asked : List (Bytes × Verdict) := []
  log : List (Nat × Effect) := []

def Office.begin (office : Office) : Round :=
  { office, cycle := PollCycle.start office.node.address office.known }

namespace Round

inductive Move
  /-- The cycle takes its turn; this is the radio's answer if it is asked. -/
  | works (verdict : Verdict)
  | appends (dest src : Address) (data : Reading) (receivedAt : Nat)
  | tells
  | pops
  | drains
  | publishes (known : List Address)
  | passes (time : Nat)

def handed? (round : Round) : Option Bytes :=
  match round.cycle.current.map Poll.stage with
  | some (.sending (.composed request)) => some request.frame
  | _ => none

def turn (round : Round) (verdict : Verdict) : PollCycle.Turn :=
  round.cycle.turn round.office.poller { verdict, clock := round.office.now } round.office.node

def report? (round : Round) : Option PollReport :=
  match round.turn none with
  | .ends report _ => some report
  | _ => none

def after (round : Round) (verdict : Verdict) (cycle : PollCycle) (node : Node)
    (effects : List Effect) : Round where
  office := { round.office with node }
  cycle := cycle
  asked := round.asked ++ round.handed?.toList.map fun frame => (frame, verdict)
  log := round.log ++ effects.map fun effect => (round.office.now, effect)

def withQueue (round : Round) (queue : Queue) : Round :=
  { round with office := { round.office with node := { round.office.node with queue } } }

def step? (round : Round) : Move → Option Round
  | .works verdict =>
      match round.turn verdict with
      | .goesOn cycle node effects => some (round.after verdict cycle node effects)
      | _ => none
  | .appends dest src data receivedAt =>
      some (round.withQueue (round.office.node.queue.push dest src data receivedAt).2)
  | .tells => some { round with cycle := round.cycle.tell }
  | .pops => some (round.withQueue round.office.node.queue.pop.2)
  | .drains => some (round.withQueue round.office.node.queue.drain.2)
  | .publishes known => some { round with office := { round.office with known } }
  | .passes time =>
      match round.turn none, round.cycle.due? with
      | .sleeps, some due =>
          if round.office.now ≤ time ∧ time ≤ due then
            some { round with office := { round.office with now := time } }
          else none
      | _, _ => none

def follow? (round : Round) : List Move → Option Round
  | [] => some round
  | move :: rest => (round.step? move).bind fun later => later.follow? rest

end Round

/-! ### What one turn of a waiter leaves alone -/

namespace Waiter

variable {waiter later : Waiter} {queue : Queue} {now : Nat}

theorem becomes_of_goesOn (went : waiter.turn queue now = .goesOn later) :
    waiter.Becomes queue now (.waiting later) :=
  wait?_turn_eq_some_iff.mp (by rw [went]; rfl)

theorem Becomes.same (becomes : waiter.Becomes queue now (.waiting later)) :
    later.dest = waiter.dest ∧ later.src = waiter.src ∧ later.deadline = waiter.deadline := by
  cases becomes with
  | asks phase => exact ⟨rfl, rfl, rfl⟩
  | rests phase lacks => exact ⟨rfl, rfl, rfl⟩
  | wakes phase told => exact ⟨rfl, rfl, rfl⟩

theorem isFor_of_found {entry : Entry} (went : waiter.turn queue now = .found entry) :
    entry.isFor waiter.dest waiter.src = true := by
  have becomes : waiter.Becomes queue now (.found entry now) :=
    wait?_turn_eq_some_iff.mp (by rw [went]; rfl)
  cases becomes with
  | finds phase oldest => exact oldest.1

theorem late_of_expired (went : waiter.turn queue now = .expired) : waiter.deadline ≤ now := by
  have becomes : waiter.Becomes queue now (.expired now) :=
    wait?_turn_eq_some_iff.mp (by rw [went]; rfl)
  cases becomes with
  | expires unaware late => exact late

theorem early_of_sleeps (went : waiter.turn queue now = .sleeps) : now < waiter.deadline := by
  by_contra late
  cases phase : waiter.phase with
  | asking => simp [turn, phase] at went
  | looking =>
      simp only [turn, phase] at went
      split at went <;> cases went
  | asleep =>
      simp only [turn, phase, Nat.not_lt.mp late, if_true] at went
      split at went <;> cases went

end Waiter

/-! ### The books while the cycle runs -/

namespace Round

structure Books where
  now : Nat
  sequence : UInt8
  asked : List (Bytes × Verdict)
  log : List (Nat × Effect)

def books (round : Round) : Books where
  now := round.office.now
  sequence := round.office.node.sequence
  asked := round.asked
  log := round.log

def settled (office : Office) (accounts : List Account) : Books where
  now := office.now + elapsed accounts
  sequence := office.node.sequence + UInt8.ofNat (requestsSent accounts)
  asked := office.exchanges accounts
  log := office.chronicle accounts

def requested (office : Office) (accounts : List Account) (dest : Address) : Books :=
  let frame := (office.request dest (requestsSent accounts)).frame
  let before := settled office accounts
  { before with
    asked := before.asked ++ [(frame, none)]
    log := before.log ++ [(before.now, .sent frame)] }

def Books.advance (books : Books) : Books := { books with sequence := books.sequence + 1 }

def Explained (office : Office) (accounts : List Account) (dest : Address) (books : Books) :
    Poll.Stage → Prop
  | .sending .starting => books = settled office accounts
  | .sending (.composed request) =>
      books = settled office accounts ∧
        request = office.request dest (requestsSent accounts)
  | .sending (.accepted _) => books = requested office accounts dest
  | .sending (.numbered _) => books = (requested office accounts dest).advance
  | .sent => books = (requested office accounts dest).advance
  -- Only here time may have passed since the request.
  | .waiting waiter =>
      (waiter.dest = office.node.address ∧ waiter.src = dest ∧
          waiter.deadline = office.now + elapsed accounts + office.poller.timeout) ∧
        (office.now + elapsed accounts ≤ books.now ∧ books.now ≤ waiter.deadline) ∧
        books = { (requested office accounts dest).advance with now := books.now }

section Entries

variable {office : Office} {accounts : List Account} {dest : Address}

private theorem settled_refused {fault : RadioFault} :
    settled office (accounts ++ [{ dest, outcome := .sendFailed fault, waited := 0 }]) =
      let before := settled office accounts
      { before with
        asked := before.asked ++
          [((office.request dest (requestsSent accounts)).frame, some fault)]
        log := before.log ++ [(before.now, .notified dest .sendFailed)] } := by
  simp only [settled, elapsed_concat, requestsSent_concat, Office.exchanges_concat,
    Office.chronicle_concat]
  rfl

private theorem settled_answered {entry : Entry} {waited : Nat} :
    settled office (accounts ++ [{ dest, outcome := .answered entry, waited }]) =
      { (requested office accounts dest).advance with
        now := office.now + elapsed accounts + waited } := by
  simp only [settled, elapsed_concat, requestsSent_concat, Office.exchanges_concat,
    Office.chronicle_concat, Account.sends, UInt8.ofNat_add, Nat.add_assoc, UInt8.add_assoc,
    requested, Books.advance]
  rfl

private theorem settled_timedOut {waited : Nat} :
    settled office (accounts ++ [{ dest, outcome := .timedOut, waited }]) =
      let before := (requested office accounts dest).advance
      { before with
        now := office.now + elapsed accounts + waited
        log := before.log ++
          [(office.now + elapsed accounts + waited, .notified dest .noResponse)] } := by
  simp only [settled, elapsed_concat, requestsSent_concat, Office.exchanges_concat,
    Office.chronicle_concat, Account.sends, UInt8.ofNat_add, Nat.add_assoc, UInt8.add_assoc,
    Account.effects, requested, Books.advance, List.append_assoc]
  rfl

end Entries

/-- The accounts explain all that has happened. -/
structure Kept (office : Office) (accounts : List Account) (round : Round) : Prop where
  poller_eq : round.office.poller = office.poller
  address_eq : round.office.node.address = office.node.address
  meshSize_eq : round.cycle.meshSize = UInt8.ofNat (min 255 office.known.length)
  keeps : ∀ account ∈ accounts, office.Keeps account
  report_eq : round.cycle.report = PollReport.ofAccounts accounts
  polled_eq :
    accounts.map Account.dest ++ round.cycle.current.toList.map Poll.dest ++
        round.cycle.remaining =
      office.known.filter fun address => address ≠ office.node.address
  explained :
    match round.cycle.current with
    | none => round.books = settled office accounts
    | some poll =>
        poll.meshSize = UInt8.ofNat (min 255 office.known.length) ∧
          Explained office accounts poll.dest round.books poll.stage

private theorem kept_begin (office : Office) : Kept office [] office.begin where
  poller_eq := rfl
  address_eq := rfl
  meshSize_eq := PollCycle.announcedSize_eq office.known
  keeps account here := by cases here
  report_eq := rfl
  polled_eq := rfl
  explained := by
    simp [Office.begin, PollCycle.start, books, settled, elapsed, requestsSent,
      Office.exchanges, Office.exchangesFrom, Office.chronicle, Office.chronicleFrom]

section Steps

variable {office : Office} {accounts : List Account} {round later : Round}

theorem step?_works_eq_some_iff {verdict : Verdict} :
    round.step? (.works verdict) = some later ↔
      ∃ cycle node effects, round.turn verdict = .goesOn cycle node effects ∧
        later = round.after verdict cycle node effects := by
  simp only [step?]
  cases round.turn verdict with
  | goesOn cycle node effects =>
      constructor
      · intro stepped
        exact ⟨cycle, node, effects, rfl, (Option.some.inj stepped).symm⟩
      · rintro ⟨_, _, _, went, rfl⟩
        cases went
        rfl
  | ends report node => simp
  | sleeps => simp

private theorem Kept.withQueue (kept : Kept office accounts round) (queue : Queue) :
    Kept office accounts (round.withQueue queue) where
  poller_eq := kept.poller_eq
  address_eq := kept.address_eq
  meshSize_eq := kept.meshSize_eq
  keeps := kept.keeps
  report_eq := kept.report_eq
  polled_eq := kept.polled_eq
  explained := kept.explained

private theorem Kept.published (kept : Kept office accounts round) (known : List Address) :
    Kept office accounts { round with office := { round.office with known } } where
  poller_eq := kept.poller_eq
  address_eq := kept.address_eq
  meshSize_eq := kept.meshSize_eq
  keeps := kept.keeps
  report_eq := kept.report_eq
  polled_eq := kept.polled_eq
  explained := kept.explained

private theorem Kept.told (kept : Kept office accounts round) :
    Kept office accounts { round with cycle := round.cycle.tell } where
  poller_eq := kept.poller_eq
  address_eq := kept.address_eq
  meshSize_eq := kept.meshSize_eq
  keeps := kept.keeps
  report_eq := kept.report_eq
  polled_eq := by
    rw [← kept.polled_eq]
    simp only [PollCycle.tell]
    cases round.cycle.current with
    | none => rfl
    | some poll =>
        simp only [Option.map_some, Option.toList_some, List.map_cons, List.map_nil, Poll.tell]
        cases poll.stage <;> rfl
  explained := by
    have explained := kept.explained
    cases current : round.cycle.current with
    | none =>
        simp only [PollCycle.tell, current, Option.map_none] at explained ⊢
        exact explained
    | some poll =>
        simp only [PollCycle.tell, current, Option.map_some, Poll.tell] at explained ⊢
        cases stage : poll.stage with
        | sending sending =>
            rw [stage] at explained
            simp only [stage]
            exact explained
        | sent =>
            rw [stage] at explained
            simp only [stage]
            exact explained
        | waiting waiter =>
            rw [stage] at explained
            have same : waiter.tell.dest = waiter.dest ∧ waiter.tell.src = waiter.src ∧
                waiter.tell.deadline = waiter.deadline := by
              unfold Waiter.tell
              cases waiter.phase <;> exact ⟨rfl, rfl, rfl⟩
            simp only [Explained, same.1, same.2.1, same.2.2] at explained ⊢
            exact explained

/-- A poll that is not over yet changes the books as its stage says. -/
theorem Kept.goesOn (kept : Kept office accounts round) {poll : Poll} {stage : Poll.Stage}
    (current : round.cycle.current = some poll) {node : Node}
    (address_eq : node.address = round.office.node.address)
    {asked : List (Bytes × Verdict)} {log : List (Nat × Effect)}
    (explained : Explained office accounts poll.dest
      { now := round.office.now, sequence := node.sequence, asked, log } stage) :
    Kept office accounts
      { office := { round.office with node }
        cycle := { round.cycle with current := some { poll with stage } }
        asked
        log } where
  poller_eq := kept.poller_eq
  address_eq := address_eq.trans kept.address_eq
  meshSize_eq := kept.meshSize_eq
  keeps := kept.keeps
  report_eq := kept.report_eq
  polled_eq := by
    rw [← kept.polled_eq, current]
    rfl
  explained := by
    have before := kept.explained
    rw [current] at before
    exact ⟨before.1, explained⟩

/-- A poll that is over opens one account. -/
theorem Kept.closes (kept : Kept office accounts round) {poll : Poll}
    (current : round.cycle.current = some poll) {node : Node}
    (address_eq : node.address = round.office.node.address)
    {asked : List (Bytes × Verdict)} {log : List (Nat × Effect)}
    {outcome : Polled} {waited : Nat}
    (keeps : office.Keeps { dest := poll.dest, outcome, waited })
    (books_eq : { now := round.office.now, sequence := node.sequence, asked, log } =
      settled office (accounts ++ [{ dest := poll.dest, outcome, waited }])) :
    Kept office (accounts ++ [{ dest := poll.dest, outcome, waited }])
      { office := { round.office with node }
        cycle :=
          { round.cycle with
            current := none
            report := round.cycle.report.add poll.dest outcome }
        asked
        log } where
  poller_eq := kept.poller_eq
  address_eq := address_eq.trans kept.address_eq
  meshSize_eq := kept.meshSize_eq
  keeps := by
    intro account member
    rcases List.mem_append.mp member with earlier | last
    · exact kept.keeps account earlier
    · rw [List.mem_singleton.mp last]
      exact keeps
  report_eq := by rw [PollReport.ofAccounts_concat, ← kept.report_eq]
  polled_eq := by
    rw [← kept.polled_eq, current]
    simp
  explained := books_eq

/-- A turn in which the radio is not asked and nothing is seen. -/
theorem after_of_quiet (quiet : round.handed? = none) (verdict : Verdict) (cycle : PollCycle)
    (node : Node) :
    round.after verdict cycle node [] =
      { round with office := { round.office with node }, cycle } := by
  simp only [after, quiet, Option.toList_none, List.map_nil, List.append_nil]

private theorem Kept.takesUp (kept : Kept office accounts round)
    (current : round.cycle.current = none) {dest : Address} {rest : List Address}
    (remaining : round.cycle.remaining = dest :: rest) :
    Kept office accounts
      { round with
        cycle :=
          { round.cycle with
            remaining := rest
            current := some { dest, meshSize := round.cycle.meshSize } } } where
  poller_eq := kept.poller_eq
  address_eq := kept.address_eq
  meshSize_eq := kept.meshSize_eq
  keeps := kept.keeps
  report_eq := kept.report_eq
  polled_eq := by
    rw [← kept.polled_eq, current, remaining]
    simp
  explained := by
    have before := kept.explained
    rw [current] at before
    exact ⟨kept.meshSize_eq, before⟩

private theorem Kept.compose_eq (kept : Kept office accounts round) {poll : Poll}
    (current : round.cycle.current = some poll) (stage : poll.stage = .sending .starting) :
    Sending.compose (Poll.errand round.office.poller poll) round.office.node =
      office.request poll.dest (requestsSent accounts) := by
  have explained := kept.explained
  simp only [current, stage] at explained
  have sequence_eq : round.office.node.sequence =
      office.node.sequence + UInt8.ofNat (requestsSent accounts) :=
    congrArg Books.sequence explained.2
  simp only [Sending.compose, Poll.errand, Office.request, explained.1, kept.poller_eq,
    kept.address_eq, sequence_eq]

private theorem Kept.sends (kept : Kept office accounts round) {poll : Poll} {sending : Sending}
    (current : round.cycle.current = some poll) (stage : poll.stage = .sending sending)
    {verdict : Verdict} {cycle : PollCycle} {node : Node} {effects : List Effect}
    (went : round.turn verdict = .goesOn cycle node effects) :
    ∃ more, Kept office (accounts ++ more) (round.after verdict cycle node effects) := by
  have explained := kept.explained
  simp only [current, stage] at explained
  have books_eq := explained.2
  cases sending with
  | starting =>
      have handed : round.handed? = none := by simp [handed?, current, stage]
      have compose_eq := kept.compose_eq current stage
      simp only [turn, PollCycle.turn, Poll.turn, current, stage, Sending.turn] at went
      cases went
      refine ⟨[], ?_⟩
      rw [after_of_quiet handed, List.append_nil]
      exact kept.goesOn current rfl ⟨books_eq, compose_eq⟩
  | composed request =>
      have handed : round.handed? = some request.frame := by simp [handed?, current, stage]
      obtain ⟨books_eq, rfl⟩ := books_eq
      obtain ⟨now_eq, sequence_eq, asked_eq, log_eq⟩ := Books.mk.inj books_eq
      simp only [turn, PollCycle.turn, Poll.turn, current, stage, Sending.turn,
        Node.vet_frame] at went
      cases verdict with
      | none =>
          cases went
          refine ⟨[], ?_⟩
          simp only [after, handed, Option.toList_some, List.map_cons, List.map_nil,
            List.append_nil]
          apply kept.goesOn current rfl
          simp only [Explained, requested, settled, now_eq, sequence_eq, asked_eq, log_eq]
      | some fault =>
          cases went
          refine ⟨[{ dest := poll.dest, outcome := .sendFailed fault, waited := 0 }], ?_⟩
          simp only [after, handed, Option.toList_some, List.map_cons, List.map_nil,
            Poll.notify]
          apply kept.closes current
          · rfl
          · rfl
          · rw [settled_refused]
            simp only [settled, now_eq, sequence_eq, asked_eq, log_eq]
  | accepted request =>
      have handed : round.handed? = none := by simp [handed?, current, stage]
      obtain ⟨now_eq, sequence_eq, asked_eq, log_eq⟩ := Books.mk.inj books_eq
      simp only [turn, PollCycle.turn, Poll.turn, current, stage, Sending.turn] at went
      cases went
      refine ⟨[], ?_⟩
      rw [after_of_quiet handed, List.append_nil]
      apply kept.goesOn current
      · rfl
      · simp only [Explained, Books.advance, requested, now_eq, sequence_eq, asked_eq, log_eq]
  | numbered request =>
      have handed : round.handed? = none := by simp [handed?, current, stage]
      simp only [turn, PollCycle.turn, Poll.turn, current, stage, Sending.turn] at went
      cases went
      refine ⟨[], ?_⟩
      rw [after_of_quiet handed, List.append_nil]
      apply kept.goesOn current
      · split <;> rfl
      · simp only [Explained]
        split <;> exact books_eq

private theorem Kept.sitsDown (kept : Kept office accounts round) {poll : Poll}
    (current : round.cycle.current = some poll) (stage : poll.stage = .sent)
    {verdict : Verdict} {cycle : PollCycle} {node : Node} {effects : List Effect}
    (went : round.turn verdict = .goesOn cycle node effects) :
    Kept office accounts (round.after verdict cycle node effects) := by
  have explained := kept.explained
  simp only [current, stage] at explained
  obtain ⟨now_eq, sequence_eq, asked_eq, log_eq⟩ := Books.mk.inj explained.2
  have handed : round.handed? = none := by simp [handed?, current, stage]
  simp only [turn, PollCycle.turn, Poll.turn, current, stage] at went
  cases went
  rw [after_of_quiet handed]
  have begun : round.office.now = office.now + elapsed accounts := now_eq
  apply kept.goesOn current
  · rfl
  · refine ⟨⟨kept.address_eq, rfl, ?_⟩, ⟨?_, ?_⟩, ?_⟩
    · simp only [begun, kept.poller_eq]
    · exact Nat.le_of_eq begun.symm
    · exact Nat.le_add_right _ _
    · simp only [sequence_eq, asked_eq, log_eq, Books.advance]

private theorem Kept.waits (kept : Kept office accounts round) {poll : Poll} {waiter : Waiter}
    (current : round.cycle.current = some poll) (stage : poll.stage = .waiting waiter)
    {verdict : Verdict} {cycle : PollCycle} {node : Node} {effects : List Effect}
    (went : round.turn verdict = .goesOn cycle node effects) :
    ∃ more, Kept office (accounts ++ more) (round.after verdict cycle node effects) := by
  have explained := kept.explained
  simp only [current, stage] at explained
  obtain ⟨_, ⟨dest_eq, src_eq, deadline_eq⟩, ⟨begun, timely⟩, books_eq⟩ := explained
  have handed : round.handed? = none := by simp [handed?, current, stage]
  obtain ⟨_, sequence_eq, asked_eq, log_eq⟩ := Books.mk.inj books_eq
  have now_eq : round.books.now = round.office.now := rfl
  rw [now_eq] at begun timely
  simp only [turn, PollCycle.turn, Poll.turn, current, stage] at went
  cases turned : waiter.turn round.office.node.queue round.office.now with
  | goesOn next =>
      rw [turned] at went
      cases went
      refine ⟨[], ?_⟩
      rw [after_of_quiet handed, List.append_nil]
      obtain ⟨dest_same, src_same, deadline_same⟩ := (Waiter.becomes_of_goesOn turned).same
      apply kept.goesOn current rfl
      refine ⟨⟨dest_same.trans dest_eq, src_same.trans src_eq,
        deadline_same.trans deadline_eq⟩, ⟨begun, deadline_same ▸ timely⟩, ?_⟩
      simp only [sequence_eq, asked_eq, log_eq]
  | found entry =>
      rw [turned] at went
      cases went
      have wanted := Waiter.isFor_of_found turned
      rw [dest_eq, src_eq] at wanted
      refine ⟨[{
        dest := poll.dest
        outcome := .answered entry
        waited := round.office.now - (office.now + elapsed accounts) }], ?_⟩
      rw [after_of_quiet handed]
      apply kept.closes current
      · rfl
      · exact ⟨wanted, by simp only; omega⟩
      · rw [settled_answered, Nat.add_sub_of_le begun]
        simp only [sequence_eq, asked_eq, log_eq]
  | expired =>
      -- Not before the deadline, as the waiter says, and not after it, as the books say.
      rw [turned] at went
      cases went
      have late := Waiter.late_of_expired turned
      have now_eq : round.office.now = office.now + elapsed accounts + office.poller.timeout := by
        omega
      refine ⟨[{ dest := poll.dest, outcome := .timedOut, waited := office.poller.timeout }], ?_⟩
      simp only [after, handed, Option.toList_none, List.map_nil, List.append_nil, Poll.notify,
        List.map_cons]
      apply kept.closes current
      · rfl
      · rfl
      · rw [settled_timedOut]
        simp only [sequence_eq, asked_eq, log_eq, now_eq]
  | sleeps =>
      rw [turned] at went
      cases went

private theorem Kept.works (kept : Kept office accounts round) {verdict : Verdict}
    (stepped : round.step? (.works verdict) = some later) :
    ∃ more, Kept office (accounts ++ more) later := by
  obtain ⟨cycle, node, effects, went, rfl⟩ := step?_works_eq_some_iff.mp stepped
  cases current : round.cycle.current with
  | some poll =>
      cases stage : poll.stage with
      | sending sending => exact kept.sends current stage went
      | sent =>
          refine ⟨[], ?_⟩
          rw [List.append_nil]
          exact kept.sitsDown current stage went
      | waiting waiter => exact kept.waits current stage went
  | none =>
      have handed : round.handed? = none := by simp [handed?, current]
      cases remaining : round.cycle.remaining with
      | nil =>
          simp only [turn, PollCycle.turn, current, remaining] at went
          cases went
      | cons dest rest =>
          simp only [turn, PollCycle.turn, current, remaining] at went
          cases went
          refine ⟨[], ?_⟩
          rw [after_of_quiet handed, List.append_nil]
          exact kept.takesUp current remaining

/-- Only a cycle that waits for an answer is due at some time. -/
theorem waiting_of_due {due : Nat} (isDue : round.cycle.due? = some due) :
    ∃ poll waiter, round.cycle.current = some poll ∧ poll.stage = .waiting waiter ∧
      waiter.deadline = due := by
  obtain ⟨poll, current, pollDue⟩ := Option.bind_eq_some_iff.mp isDue
  unfold Poll.due? at pollDue
  split at pollDue
  · rename_i waiter stage
    exact ⟨poll, waiter, current, stage, Option.some.inj pollDue⟩
  · cases pollDue

theorem step?_passes_eq_some_iff {time : Nat} :
    round.step? (.passes time) = some later ↔
      round.turn none = .sleeps ∧
        (∃ due, round.cycle.due? = some due ∧ round.office.now ≤ time ∧ time ≤ due) ∧
        later = { round with office := { round.office with now := time } } := by
  simp only [step?]
  cases went : round.turn none with
  | goesOn cycle node effects => simp
  | ends report node => simp
  | sleeps =>
      cases isDue : round.cycle.due? with
      | none => simp
      | some due => simp [eq_comm]

private theorem Kept.passed (kept : Kept office accounts round) {time : Nat}
    (stepped : round.step? (.passes time) = some later) : Kept office accounts later := by
  obtain ⟨_, ⟨due, isDue, forward, timely⟩, rfl⟩ := step?_passes_eq_some_iff.mp stepped
  obtain ⟨poll, waiter, current, stage, rfl⟩ := waiting_of_due isDue
  refine ⟨kept.poller_eq, kept.address_eq, kept.meshSize_eq, kept.keeps, kept.report_eq,
    kept.polled_eq, ?_⟩
  have explained := kept.explained
  simp only [current, stage] at explained ⊢
  obtain ⟨meshSize_eq, same, ⟨begun, _⟩, books_eq⟩ := explained
  obtain ⟨_, sequence_eq, asked_eq, log_eq⟩ := Books.mk.inj books_eq
  refine ⟨meshSize_eq, same, ⟨Nat.le_trans begun forward, timely⟩, ?_⟩
  simp only [books, sequence_eq, asked_eq, log_eq]

private theorem Kept.step (kept : Kept office accounts round) {move : Move}
    (stepped : round.step? move = some later) :
    ∃ more, Kept office (accounts ++ more) later := by
  cases move with
  | works verdict => exact kept.works stepped
  | appends dest src data receivedAt =>
      cases stepped
      exact ⟨[], by rw [List.append_nil]; exact kept.withQueue _⟩
  | tells =>
      cases stepped
      exact ⟨[], by rw [List.append_nil]; exact kept.told⟩
  | pops =>
      cases stepped
      exact ⟨[], by rw [List.append_nil]; exact kept.withQueue _⟩
  | drains =>
      cases stepped
      exact ⟨[], by rw [List.append_nil]; exact kept.withQueue _⟩
  | publishes known =>
      cases stepped
      exact ⟨[], by rw [List.append_nil]; exact kept.published known⟩
  | passes time => exact ⟨[], by rw [List.append_nil]; exact kept.passed stepped⟩

private theorem Kept.follow (kept : Kept office accounts round) {moves : List Move}
    (followed : round.follow? moves = some later) :
    ∃ more, Kept office (accounts ++ more) later := by
  induction moves generalizing round accounts with
  | nil =>
      cases followed
      exact ⟨[], by rw [List.append_nil]; exact kept⟩
  | cons move rest ih =>
      obtain ⟨middle, stepped, remaining⟩ := Option.bind_eq_some_iff.mp followed
      obtain ⟨more, keptMiddle⟩ := kept.step stepped
      obtain ⟨others, keptLater⟩ := ih keptMiddle remaining
      rw [List.append_assoc] at keptLater
      exact ⟨more ++ others, keptLater⟩

end Steps

end Round

/-! ### A cycle comes to its end -/

namespace Waiter

/-- How many turns a waiter takes before it sleeps untold, and one more. -/
def turnsLeft (waiter : Waiter) : Nat :=
  match waiter.phase, waiter.told with
  | .asking, _ => 3
  | .looking, false => 2
  | .asleep, false => 1
  | .looking, true => 5
  | .asleep, true => 4

private theorem Becomes.turnsLeft_lt {waiter next : Waiter} {queue : Queue} {now : Nat}
    (becomes : waiter.Becomes queue now (.waiting next)) :
    next.turnsLeft < waiter.turnsLeft := by
  cases becomes with
  | asks phase => simp [turnsLeft, phase]
  | rests phase lacks => cases told : waiter.told <;> simp [turnsLeft, phase, told]
  | wakes phase told => simp [turnsLeft, phase, told]

end Waiter

namespace Poll

def turnsLeft (poll : Poll) : Nat :=
  match poll.stage with
  | .sending sending => 4 + sending.turnsLeft
  | .sent => 4
  | .waiting waiter => waiter.turnsLeft

variable {poller : Poller} {moment : Moment} {node later : Node} {poll next : Poll}
  {effects : List Effect}

private theorem turnsLeft_lt (went : poll.turn poller moment node = .goesOn next later effects) :
    next.turnsLeft < poll.turnsLeft := by
  cases stage : poll.stage with
  | sending sending =>
      simp only [turn, stage] at went
      cases turned : sending.turn (errand poller poll) moment.verdict node with
      | goesOn after middle sent =>
          rw [turned] at went
          cases went
          have fewer := Sending.turnsLeft_lt turned
          simp only [turnsLeft, stage]
          omega
      | ends result middle =>
          rw [turned] at went
          cases result with
          | error fault => cases went
          | ok fingerprint =>
              cases went
              simp only [turnsLeft, stage]
              cases sending <;> simp [Sending.turnsLeft]
  | sent =>
      simp only [turn, stage] at went
      cases went
      simp [turnsLeft, stage, Waiter.turnsLeft]
  | waiting waiter =>
      simp only [turn, stage] at went
      cases turned : waiter.turn node.queue moment.clock with
      | goesOn after =>
          rw [turned] at went
          cases went
          simp only [turnsLeft, stage]
          exact (Waiter.becomes_of_goesOn turned).turnsLeft_lt
      | found entry =>
          rw [turned] at went
          cases went
      | expired =>
          rw [turned] at went
          cases went
      | sleeps =>
          rw [turned] at went
          cases went

end Poll

namespace PollCycle

/-- How many turns a cycle takes at most if nobody tells it of anything. -/
def turnsLeft (cycle : PollCycle) : Nat :=
  10 * cycle.remaining.length + (cycle.current.map fun poll => poll.turnsLeft + 1).getD 0

variable {poller : Poller} {moment : Poll.Moment} {node later : Node} {cycle next : PollCycle}
  {effects : List Effect}

private theorem turnsLeft_lt (went : cycle.turn poller moment node = .goesOn next later effects) :
    next.turnsLeft < cycle.turnsLeft := by
  cases current : cycle.current with
  | some poll =>
      simp only [turn, current] at went
      cases turned : poll.turn poller moment node with
      | goesOn after middle sent =>
          rw [turned] at went
          cases went
          have fewer := Poll.turnsLeft_lt turned
          simp only [turnsLeft, current, Option.map_some, Option.getD_some]
          omega
      | ends result middle sent =>
          rw [turned] at went
          cases went
          simp only [turnsLeft, current, Option.map_some, Option.getD_some, Option.map_none,
            Option.getD_none]
          omega
      | sleeps =>
          rw [turned] at went
          cases went
  | none =>
      cases remaining : cycle.remaining with
      | nil =>
          simp only [turn, current, remaining] at went
          cases went
      | cons dest rest =>
          simp only [turn, current, remaining] at went
          cases went
          simp only [turnsLeft, current, remaining, Option.map_some, Option.getD_some,
            Option.map_none, Option.getD_none, List.length_cons, Poll.turnsLeft,
            Sending.turnsLeft]
          omega

/-- Only a cycle whose waiter sleeps has nothing to do. -/
theorem sleeping_of_sleeps (went : cycle.turn poller moment node = .sleeps) :
    ∃ poll waiter, cycle.current = some poll ∧ poll.stage = .waiting waiter ∧
      waiter.turn node.queue moment.clock = .sleeps := by
  unfold turn at went
  split at went
  · rename_i poll current
    split at went
    · cases went
    · cases went
    · rename_i turned
      unfold Poll.turn at turned
      split at turned
      · split at turned <;> cases turned
      · cases turned
      · rename_i waiter stage
        refine ⟨poll, waiter, current, stage, ?_⟩
        split at turned
        · cases turned
        · cases turned
        · cases turned
        · assumption
  · split at went <;> cases went

end PollCycle

namespace Round

variable {round later : Round}

def Move.isAlone : Move → Bool
  | .works _ => true
  | .passes _ => true
  | _ => false

def Ends (round : Round) : Prop :=
  ∃ moves later, (∀ move ∈ moves, move.isAlone = true) ∧
    round.follow? moves = some later ∧ later.report?.isSome = true

private theorem ends_of_step {move : Move} (alone : move.isAlone = true)
    (stepped : round.step? move = some later) (ends : later.Ends) : round.Ends := by
  obtain ⟨moves, last, allAlone, followed, reported⟩ := ends
  refine ⟨move :: moves, last, ?_, ?_, reported⟩
  · intro other member
    rcases List.mem_cons.mp member with rfl | rest
    · exact alone
    · exact allAlone other rest
  · rw [follow?, stepped]
    exact followed

private theorem ends_of_awake (awake : round.turn none ≠ .sleeps)
    (rest : ∀ next : Round, next.cycle.turnsLeft < round.cycle.turnsLeft → next.Ends) :
    round.Ends := by
  cases went : round.turn none with
  | ends report node =>
      refine ⟨[], round, ?_, rfl, ?_⟩
      · intro move impossible
        cases impossible
      · simp only [report?, went, Option.isSome_some]
  | goesOn cycle node effects =>
      have stepped := step?_works_eq_some_iff.mpr ⟨cycle, node, effects, went, rfl⟩
      exact ends_of_step rfl stepped (rest _ (PollCycle.turnsLeft_lt went))
  | sleeps => exact absurd went awake

theorem ends (round : Round) : round.Ends := by
  induction left : round.cycle.turnsLeft using Nat.strongRecOn generalizing round with
  | ind turns ih =>
      subst left
      by_cases asleep : round.turn none = .sleeps
      · -- the clock passes to the deadline, and there the waiter gives up
        obtain ⟨poll, waiter, current, stage, sleeps⟩ := PollCycle.sleeping_of_sleeps asleep
        have early := Waiter.early_of_sleeps sleeps
        have isDue : round.cycle.due? = some waiter.deadline := by
          simp only [PollCycle.due?, current, Option.bind_some, Poll.due?, stage]
        have passed := step?_passes_eq_some_iff.mpr
          ⟨asleep, ⟨_, isDue, Nat.le_of_lt early, Nat.le_refl _⟩, rfl⟩
        apply ends_of_step rfl passed
        apply ends_of_awake
        · intro still
          obtain ⟨other, same, otherCurrent, otherStage, otherSleeps⟩ :=
            PollCycle.sleeping_of_sleeps still
          have otherEarly := Waiter.early_of_sleeps otherSleeps
          cases current.symm.trans otherCurrent
          cases stage.symm.trans otherStage
          exact Nat.lt_irrefl _ otherEarly
        · intro next fewer
          exact ih _ fewer next rfl
      · apply ends_of_awake asleep
        intro next fewer
        exact ih _ fewer next rfl

/-- A cycle reports when no node is left. -/
theorem finished_of_report? {report : PollReport} (reported : round.report? = some report) :
    (round.cycle.current = none ∧ round.cycle.remaining = []) ∧
      round.cycle.report = report := by
  unfold report? turn PollCycle.turn at reported
  cases current : round.cycle.current with
  | some poll =>
      simp only [current] at reported
      cases turned : poll.turn round.office.poller
          { verdict := none, clock := round.office.now } round.office.node <;>
        rw [turned] at reported <;> cases reported
  | none =>
      cases remaining : round.cycle.remaining with
      | nil =>
          simp only [current, remaining] at reported
          exact ⟨⟨rfl, rfl⟩, Option.some.inj reported⟩
      | cons dest rest =>
          simp only [current, remaining] at reported
          cases reported

/-- Whatever others do while a cycle runs, and whatever the radio answers, the cycle
can always come to its end. When it does, one account was opened for each node that
was known when it began, in order and without the controller itself. The accounts
add up to the report, and the requests, the notices, the numbers and the time are
theirs and nothing else. -/
theorem every_node_accounted_for {office : Office} {moves : List Move}
    (followed : office.begin.follow? moves = some later) :
    later.Ends ∧
      ∀ report, later.report? = some report →
        ∃ accounts : List Account,
          accounts.map Account.dest =
              office.known.filter (fun address => address ≠ office.node.address) ∧
            (∀ account ∈ accounts, office.Keeps account) ∧
            report = PollReport.ofAccounts accounts ∧
            later.asked = office.exchanges accounts ∧
            later.log = office.chronicle accounts ∧
            later.office.node.sequence = office.node.sequence +
              UInt8.ofNat (report.answered.length + report.timedOut.length) ∧
            later.office.now = office.now + (accounts.map Account.waited).sum := by
  refine ⟨later.ends, ?_⟩
  intro report reported
  obtain ⟨accounts, kept⟩ := (kept_begin office).follow followed
  rw [List.nil_append] at kept
  obtain ⟨finished, report_eq⟩ := finished_of_report? reported
  have polled_eq := kept.polled_eq
  have books_eq := kept.explained
  simp only [finished.1, finished.2, Option.toList_none, List.map_nil, List.append_nil] at polled_eq
  simp only [finished.1] at books_eq
  obtain ⟨now_eq, sequence_eq, asked_eq, log_eq⟩ := Books.mk.inj books_eq
  have reportOf := report_eq.symm.trans kept.report_eq
  refine ⟨accounts, polled_eq, kept.keeps, reportOf, asked_eq, log_eq, ?_, now_eq⟩
  rw [reportOf, ← requestsSent_eq]
  exact sequence_eq

/-- A controller that knows three nodes, itself and one of them twice. Its next
request takes the last number there is. -/
def smallOffice : Office where
  poller := { hops := 3, timeout := 5 }
  node :=
    { address := .numbered 0
      duty := .controller
      ring := Ring.empty 4
      sequence := 255
      queue := Queue.new 4 }
  known := [.numbered 1, .numbered 0, .numbered 2, .numbered 1]
  now := 10

def turns (count : Nat) : List Move := List.replicate count (.works none)

/-- The first node answers after three milliseconds, while the list is replaced. The
radio refuses the second request, and the third stays without an answer. -/
def smallRound : List Move :=
  List.flatten
    [ turns 8,
      [.passes 13, .appends (.numbered 0) (.numbered 1) .zero 7, .publishes [], .tells],
      turns 3, [.pops], turns 2, [.works (some .busy)], turns 8, [.passes 18, .works none] ]

theorem every_node_accounted_for_smallRound :
    ∃ later, smallOffice.begin.follow? smallRound = some later ∧
      ∃ accounts : List Account,
        accounts.map Account.dest = [.numbered 1, .numbered 2, .numbered 1] ∧
          PollReport.ofAccounts accounts =
            { answered := [.numbered 1]
              timedOut := [.numbered 1]
              sendFailed := [.numbered 2] } ∧
          later.log = smallOffice.chronicle accounts ∧
          later.office.node.sequence = 1 ∧
          elapsed accounts = 8 := by
  have finished : (smallOffice.begin.follow? smallRound).bind
      (fun later => later.report?.map fun report => (report, later.office.now)) =
        some ({ answered := [.numbered 1], timedOut := [.numbered 1],
                sendFailed := [.numbered 2] }, 18) := by decide +kernel
  obtain ⟨later, followed, reportedAt⟩ := Option.bind_eq_some_iff.mp finished
  obtain ⟨report, reported, pairEq⟩ := Option.map_eq_some_iff.mp reportedAt
  obtain ⟨reportEq, nowEq⟩ := Prod.mk.inj pairEq
  obtain ⟨accounts, polled, _, reportOf, _, logEq, sequenceEq, timeEq⟩ :=
    (every_node_accounted_for followed).2 report reported
  refine ⟨later, followed, accounts, ?_, reportOf.symm.trans reportEq, logEq, ?_, ?_⟩
  · rw [polled]
    decide +kernel
  · rw [sequenceEq, reportEq]
    rfl
  · have started : smallOffice.now = 10 := rfl
    unfold elapsed
    omega

end Round

end FloodMesh
