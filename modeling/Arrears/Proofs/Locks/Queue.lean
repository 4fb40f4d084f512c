import Arrears.Proofs.Locks.Table

/-!
# The lock table as queues

**Specification.** `TicketQueue` keeps nothing but the tickets that are out, each with its account,
in the order in which they were taken.  The tickets of one account are its queue: a new ticket goes
to the end, a ticket that is given back leaves wherever it stands, and the first one holds the
account.  There are no locks in it, and nothing is ever made, handed over or removed.

**Simulation.** A table in order answers every step as the queues of its tickets do
(`Orderly.step`), and stays in order.
-/

namespace Arrears

/-- A step of those who use the locks. -/
inductive LockStep
  | acquire (account : Int)
  /-- Asks whether a ticket holds its account. -/
  | poll (ticket : Ticket)
  | release (ticket : Ticket)
deriving DecidableEq, Repr

/-- The answer to a step. -/
inductive LockAnswer
  | taken (ticket : Ticket) (held : Bool)
  | standing (held : Bool)
  | released
  /-- The ticket is not out. -/
  | unknown
deriving DecidableEq, Repr

/-- The tickets that are out with their accounts, in the order in which they were taken. -/
structure TicketQueue where
  out : List (Ticket × Int)
  next : Ticket
deriving DecidableEq, Repr

namespace TicketQueue

def empty : TicketQueue :=
  ⟨[], 0⟩

/-- The tickets for one account. -/
def queueOf (queue : TicketQueue) (account : Int) : List Ticket :=
  (queue.out.filter fun entry => entry.2 = account).map (·.1)

def acquire (queue : TicketQueue) (account : Int) : TicketQueue :=
  ⟨queue.out ++ [(queue.next, account)], queue.next + 1⟩

def release (queue : TicketQueue) (ticket : Ticket) : TicketQueue :=
  { queue with out := queue.out.filter fun entry => entry.1 ≠ ticket }

def step (queue : TicketQueue) : LockStep → LockAnswer × TicketQueue
  | .acquire account => (.taken queue.next (queue.queueOf account).isEmpty, queue.acquire account)
  | .poll ticket =>
    match queue.out.lookup ticket with
    | some account => (.standing ((queue.queueOf account).head? = some ticket), queue)
    | none => (.unknown, queue)
  | .release ticket =>
    match queue.out.lookup ticket with
    | some _ => (.released, queue.release ticket)
    | none => (.unknown, queue)

def run (queue : TicketQueue) : List LockStep → List LockAnswer × TicketQueue
  | [] => ([], queue)
  | step :: steps =>
    let (answer, after) := queue.step step
    let (answers, last) := after.run steps
    (answer :: answers, last)

/-- The ticket is out for the account, and no ticket for the account was taken before it. -/
def Earliest (queue : TicketQueue) (ticket : Ticket) (account : Int) : Prop :=
  (ticket, account) ∈ queue.out ∧ ∀ other, (other, account) ∈ queue.out → ticket ≤ other

theorem mem_queueOf {queue : TicketQueue} {ticket : Ticket} {account : Int} :
    ticket ∈ queue.queueOf account ↔ (ticket, account) ∈ queue.out := by
  simp [queueOf]

theorem queueOf_acquire (queue : TicketQueue) (account : Int) :
    (queue.acquire account).queueOf account = queue.queueOf account ++ [queue.next] := by
  simp [queueOf, acquire]

/-- In a queue of ascending tickets, the first is the earliest. -/
theorem earliest_iff {queue : TicketQueue} (h : (queue.out.map (·.1)).Pairwise (· < ·))
    {ticket : Ticket} {account : Int} :
    queue.Earliest ticket account ↔ (queue.queueOf account).head? = some ticket := by
  have hqueue : (queue.queueOf account).Pairwise (· < ·) := h.sublist (List.filter_sublist.map _)
  simp only [Earliest, ← mem_queueOf]
  cases hcase : queue.queueOf account with
  | nil => simp
  | cons first others =>
      rw [hcase, List.pairwise_cons] at hqueue
      rw [List.head?_cons, Option.some.injEq]
      constructor
      · rintro ⟨hmem, hleast⟩
        rcases List.mem_cons.mp hmem with rfl | hothers
        · rfl
        · have hle := hleast first List.mem_cons_self
          exact absurd (hqueue.1 ticket hothers) (Nat.not_lt.mpr hle)
      · rintro rfl
        refine ⟨List.mem_cons_self, fun other hother => ?_⟩
        rcases List.mem_cons.mp hother with rfl | hothers
        · exact Nat.le_refl _
        · exact Nat.le_of_lt (hqueue.1 other hothers)

end TicketQueue

namespace LockTable

def step (table : LockTable) : LockStep → LockAnswer × LockTable
  | .acquire account =>
    let (ticket, after) := table.acquire account
    (.taken ticket (after.holds ticket), after)
  | .poll ticket =>
    match table.lockOf? ticket with
    | some _ => (.standing (table.holds ticket), table)
    | none => (.unknown, table)
  | .release ticket =>
    match table.lockOf? ticket with
    | some _ => (.released, table.release ticket)
    | none => (.unknown, table)

def run (table : LockTable) : List LockStep → List LockAnswer × LockTable
  | [] => ([], table)
  | step :: steps =>
    let (answer, after) := table.step step
    let (answers, last) := after.run steps
    (answer :: answers, last)

/-- The tickets of a table, each with the account of its lock. -/
def queue (table : LockTable) (account : LockId → Int) : TicketQueue :=
  ⟨table.tickets.map fun entry => (entry.1, account entry.2), table.nextTicket⟩

variable {table : LockTable} {account : LockId → Int}

theorem Orderly.ascending_queue (h : table.Orderly account) :
    ((table.queue account).out.map (·.1)).Pairwise (· < ·) := by
  rw [queue, List.map_map]
  exact h.ascending

/-- The queue of an account is made of the tickets that refer to its lock. -/
theorem Orderly.queueOf_queue (h : table.Orderly account) {lock : LockId}
    (hentry : (account lock, lock) ∈ table.entries) :
    (table.queue account).queueOf (account lock) = table.ticketsOf lock := by
  have hsame : ∀ entry ∈ table.tickets,
      decide (account entry.2 = account lock) = decide (entry.2 = lock) := by
    intro entry hmem
    rw [decide_eq_decide]
    exact ⟨h.eq_of_account_eq (h.current entry hmem) hentry, congrArg account⟩
  rw [TicketQueue.queueOf, queue, ticketsOf, List.filter_map, List.map_map]
  exact congrArg (List.map _) (List.filter_congr hsame)

theorem lookup_queue (table : LockTable) (account : LockId → Int) (ticket : Ticket) :
    (table.queue account).out.lookup ticket = (table.lockOf? ticket).map account := by
  simp only [queue, lockOf?]
  induction table.tickets with
  | nil => rfl
  | cons entry entries ih =>
      rw [List.map_cons, List.lookup_cons, List.lookup_cons, ih]
      cases ticket == entry.1 <;> rfl

/-- A ticket holds its account exactly when it is the first of the account's queue. -/
theorem Orderly.holds_eq (h : table.Orderly account) {ticket : Ticket} {lock : LockId}
    (hticket : (ticket, lock) ∈ table.tickets) :
    table.holds ticket =
      decide (((table.queue account).queueOf (account lock)).head? = some ticket) := by
  rw [h.queueOf_queue (h.current _ hticket), Bool.eq_iff_iff, decide_eq_true_eq]
  exact h.holds_iff hticket

/-- Taking a ticket puts it at the end of the queue, where it holds the account if nobody is in
front of it. -/
theorem Orderly.step_acquire (h : table.Orderly account) (number : Int) :
    ∃ account', (table.step (.acquire number)).2.Orderly account' ∧
      (table.queue account).step (.acquire number) =
        ((table.step (.acquire number)).1, (table.step (.acquire number)).2.queue account') := by
  obtain ⟨hticket, hnext, account', lock, horderly, haccount, htickets, hsame⟩ := h.acquire number
  have hqueue : (table.acquire number).2.queue account' =
      (table.queue account).acquire number := by
    have hold : table.tickets.map (fun entry => (entry.1, account' entry.2)) =
        table.tickets.map fun entry => (entry.1, account entry.2) :=
      List.map_congr_left fun entry hmem => by rw [hsame entry hmem]
    rw [queue, htickets, hnext, List.map_append, hold, TicketQueue.acquire, queue, List.map_cons,
      haccount, List.map_nil]
  have hmem : (table.nextTicket, lock) ∈ (table.acquire number).2.tickets := by
    rw [htickets]
    exact List.mem_append_right _ (List.mem_singleton_self _)
  have hheld : (table.acquire number).2.holds table.nextTicket =
      ((table.queue account).queueOf number).isEmpty := by
    rw [horderly.holds_eq hmem, hqueue, haccount, TicketQueue.queueOf_acquire]
    cases hcase : (table.queue account).queueOf number with
    | nil => simp [queue]
    | cons first others =>
        have hfirst : (first, number) ∈ (table.queue account).out :=
          TicketQueue.mem_queueOf.mp (hcase ▸ List.mem_cons_self)
        obtain ⟨entry, hentry, heq⟩ := List.mem_map.mp hfirst
        obtain ⟨rfl, -⟩ := Prod.mk.inj heq
        simp [Nat.ne_of_lt (h.fresh entry hentry)]
  refine ⟨account', horderly, ?_⟩
  rw [TicketQueue.step, step]
  simp only [hticket, hheld, hqueue]
  rfl

theorem Orderly.step_poll (h : table.Orderly account) (ticket : Ticket) :
    (table.step (.poll ticket)).2 = table ∧
      (table.queue account).step (.poll ticket) =
        ((table.step (.poll ticket)).1, table.queue account) := by
  rw [TicketQueue.step, step, lookup_queue]
  cases hlookup : table.lockOf? ticket with
  | none => exact ⟨rfl, rfl⟩
  | some lock =>
      have hticket : (ticket, lock) ∈ table.tickets := h.lockOf?_eq_some_iff.mp hlookup
      simp only [Option.map_some, h.holds_eq hticket, and_self]

theorem Orderly.step_release (h : table.Orderly account) (ticket : Ticket) :
    (table.step (.release ticket)).2.Orderly account ∧
      (table.queue account).step (.release ticket) =
        ((table.step (.release ticket)).1, (table.step (.release ticket)).2.queue account) := by
  rw [TicketQueue.step, step, lookup_queue]
  cases hlookup : table.lockOf? ticket with
  | none => exact ⟨h, rfl⟩
  | some lock =>
      have hqueue : (table.release ticket).queue account =
          (table.queue account).release ticket := by
        rw [LockTable.release, hlookup, TicketQueue.release, queue, queue, List.filter_map]
        rfl
      simp only [Option.map_some, hqueue, and_true]
      exact h.release ticket

/-- **Simulation.** A table in order answers a step as its queues do, and is then in order for
the queues after the step. -/
theorem Orderly.step (h : table.Orderly account) (step : LockStep) :
    ∃ account', (table.step step).2.Orderly account' ∧
      (table.queue account).step step =
        ((table.step step).1, (table.step step).2.queue account') := by
  cases step with
  | acquire number => exact h.step_acquire number
  | poll ticket =>
      obtain ⟨hsame, hanswer⟩ := h.step_poll ticket
      rw [hsame]
      exact ⟨account, h, hanswer⟩
  | release ticket => exact ⟨account, h.step_release ticket⟩

theorem Orderly.run (h : table.Orderly account) (steps : List LockStep) :
    ∃ account', (table.run steps).2.Orderly account' ∧
      (table.queue account).run steps =
        ((table.run steps).1, (table.run steps).2.queue account') := by
  induction steps generalizing table account with
  | nil => exact ⟨account, h, rfl⟩
  | cons step steps ih =>
      obtain ⟨between, hbetween, hstep⟩ := h.step step
      obtain ⟨last, hlast, hrun⟩ := ih hbetween
      refine ⟨last, hlast, ?_⟩
      rw [TicketQueue.run, hstep]
      simp only [hrun]
      rfl

/-- A ticket that is out holds its account exactly when it is the earliest for it. -/
theorem Orderly.holds_iff_earliest (h : table.Orderly account) {ticket : Ticket} {number : Int}
    (hmem : (ticket, number) ∈ (table.queue account).out) :
    table.holds ticket = true ↔ (table.queue account).Earliest ticket number := by
  obtain ⟨entry, hentry, heq⟩ := List.mem_map.mp hmem
  obtain ⟨rfl, rfl⟩ := Prod.mk.inj heq
  rw [TicketQueue.earliest_iff h.ascending_queue, h.holds_eq hentry, decide_eq_true_eq]

/-- **Locks are queues.** Over any steps, a new table answers as the queues of the accounts do: a
new ticket holds its account if no ticket for it is out, and an older one if it is the first that
is out.  At the end the tickets that hold an account are the earliest for it: no two tickets hold
one account, and an account with tickets is held by one that nobody overtook. -/
theorem run_queues (steps : List LockStep) :
    (empty.run steps).1 = (TicketQueue.empty.run steps).1 ∧
      (∀ ticket account, (ticket, account) ∈ (TicketQueue.empty.run steps).2.out →
        ((empty.run steps).2.holds ticket = true ↔
          (TicketQueue.empty.run steps).2.Earliest ticket account)) ∧
      (∀ one other account, (one, account) ∈ (TicketQueue.empty.run steps).2.out →
        (other, account) ∈ (TicketQueue.empty.run steps).2.out →
        (empty.run steps).2.holds one = true → (empty.run steps).2.holds other = true →
        one = other) ∧
      ∀ ticket account, (ticket, account) ∈ (TicketQueue.empty.run steps).2.out →
        ∃ holder ≤ ticket, (holder, account) ∈ (TicketQueue.empty.run steps).2.out ∧
          (empty.run steps).2.holds holder = true := by
  obtain ⟨account, horderly, hrun⟩ := (orderly_empty fun _ => 0).run steps
  have hqueue : TicketQueue.empty.run steps =
      ((empty.run steps).1, (empty.run steps).2.queue account) :=
    hrun
  rw [hqueue]
  refine ⟨rfl, fun ticket number hmem => horderly.holds_iff_earliest hmem, ?exclusive, ?held⟩
  case exclusive =>
    intro one other number hone hother hholds hholds'
    have hearliest := (horderly.holds_iff_earliest hone).mp hholds
    have hearliest' := (horderly.holds_iff_earliest hother).mp hholds'
    exact Nat.le_antisymm (hearliest.2 other hother) (hearliest'.2 one hone)
  case held =>
    intro ticket number hmem
    cases hcase : ((empty.run steps).2.queue account).queueOf number with
    | nil =>
        have hnone := TicketQueue.mem_queueOf.mpr hmem
        rw [hcase] at hnone
        cases hnone
    | cons holder others =>
        have hearliest : ((empty.run steps).2.queue account).Earliest holder number := by
          rw [TicketQueue.earliest_iff horderly.ascending_queue, hcase]
          rfl
        exact ⟨holder, hearliest.2 ticket hmem, hearliest.1,
          (horderly.holds_iff_earliest hearliest.1).mpr hearliest⟩

/-- A ticket that was handed the account and is given back before anybody asked passes it on. -/
example :
    (empty.run [.acquire 1, .acquire 1, .acquire 1, .release 0, .release 1, .poll 2]).1 =
      [.taken 0 true, .taken 1 false, .taken 2 false, .released, .released, .standing true] := by
  decide

end LockTable
end Arrears
