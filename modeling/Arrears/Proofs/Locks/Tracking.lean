import Arrears.Ledger
import Arrears.Proofs.Locks.Queue
import Mathlib.Data.List.Dedup

/-!
# Locks in use

An account is in use while a ticket for it is out.  Taking a ticket removes the entries of the
accounts that are not in use, and makes one for its own account if there is none.  A posting holds
the lock of its account from its first query to its commit.
-/

namespace Arrears

/-! ## The accounts in the lock table

A lock has one reference by its entry and one by each ticket for it, whether the ticket holds the
lock, waits for it, or has been handed it.  So an entry is removed just when no ticket refers to its
lock, and right after a ticket was taken every entry has a ticket.
-/

namespace TicketQueue

/-- The accounts in use, each of them once. -/
def accounts (queue : TicketQueue) : List Int :=
  (queue.out.map (·.2)).dedup

theorem mem_accounts_acquire (queue : TicketQueue) (account : Int) :
    account ∈ (queue.acquire account).accounts := by
  rw [accounts, List.mem_dedup, acquire, List.map_append]
  exact List.mem_append_right _ (List.mem_singleton_self _)

theorem run_append (queue : TicketQueue) (front back : List LockStep) :
    (queue.run (front ++ back)).2 = ((queue.run front).2.run back).2 := by
  induction front generalizing queue with
  | nil => rfl
  | cons step front ih => exact ih (queue.step step).2

end TicketQueue

/-- Whether the step takes a ticket. -/
def LockStep.isAcquire : LockStep → Bool
  | .acquire _ => true
  | .poll _ | .release _ => false

namespace LockTable

variable {table : LockTable} {account : LockId → Int}

/-! ### References -/

/-- A lock is referred to by its entry and by the tickets in its line. -/
theorem references_eq (table : LockTable) (lock : LockId) :
    table.references lock = 1 + (table.ticketsOf lock).length := by
  rw [references, ticketsOf, List.length_map]

/-- Every lock in the table has a ticket. -/
def Occupied (table : LockTable) : Prop :=
  ∀ entry ∈ table.entries, ∃ ticket, (ticket, entry.2) ∈ table.tickets

theorem occupied_prune (table : LockTable) : table.prune.Occupied := by
  intro entry hentry
  have hreferences : 1 < table.references entry.2 :=
    of_decide_eq_true (List.mem_filter.mp hentry).2
  rw [references_eq] at hreferences
  have hpos : 0 < (table.ticketsOf entry.2).length := by omega
  obtain ⟨ticket, hticket⟩ := List.exists_mem_of_length_pos hpos
  exact ⟨ticket, mem_ticketsOf.mp hticket⟩

/-- Finding the lock of an account adds no other entry, and no ticket. -/
theorem entryOf_spec (table : LockTable) (number : Int) :
    (∀ entry ∈ (table.entryOf number).2.entries,
        entry ∈ table.entries ∨ entry.2 = (table.entryOf number).1) ∧
      (table.entryOf number).2.tickets = table.tickets := by
  rw [entryOf]
  cases table.entries.lookup number with
  | some lock => exact ⟨fun _ hentry => Or.inl hentry, rfl⟩
  | none =>
      refine ⟨fun entry hentry => ?_, rfl⟩
      rcases List.mem_append.mp hentry with hold | hnew
      · exact Or.inl hold
      · rw [List.mem_singleton.mp hnew]
        exact Or.inr rfl

/-- Right after a ticket was taken, every lock in the table has one. -/
theorem occupied_acquire (table : LockTable) (number : Int) :
    (table.acquire number).2.Occupied := by
  intro entry hentry
  obtain ⟨hentries, htickets⟩ := table.prune.entryOf_spec number
  have hall : (table.acquire number).2.tickets = (table.prune.entryOf number).2.tickets ++
      [((table.prune.entryOf number).2.nextTicket, (table.prune.entryOf number).1)] :=
    rfl
  rw [hall, htickets]
  rcases hentries entry hentry with hold | hnew
  · obtain ⟨ticket, hticket⟩ := table.occupied_prune entry hold
    exact ⟨ticket, List.mem_append_left _ hticket⟩
  · refine ⟨(table.prune.entryOf number).2.nextTicket, List.mem_append_right _ ?_⟩
    rw [hnew]
    exact List.mem_singleton_self _

/-! ### Entries and accounts -/

/-- A ticket that is out refers to the lock that the table has for its account. -/
theorem Orderly.lookup_entries (h : table.Orderly account) {ticket : Ticket} {number : Int}
    (hmem : (ticket, number) ∈ (table.queue account).out) :
    ∃ lock, table.lockOf? ticket = some lock ∧ table.entries.lookup number = some lock := by
  obtain ⟨entry, hentry, heq⟩ := List.mem_map.mp hmem
  obtain ⟨rfl, rfl⟩ := Prod.mk.inj heq
  exact ⟨entry.2, h.lockOf?_eq_some_iff.mpr hentry,
    (lookup_eq_some_iff_mem h.single).mpr (h.current entry hentry)⟩

/-- Where every lock in the table has a ticket, the accounts in the table are those in use. -/
theorem Orderly.mem_accounts_iff (h : table.Orderly account) (hoccupied : table.Occupied)
    {number : Int} :
    number ∈ (table.queue account).accounts ↔ number ∈ table.entries.map (·.1) := by
  rw [TicketQueue.accounts, List.mem_dedup, queue, List.map_map]
  constructor
  · intro hmem
    obtain ⟨entry, hentry, rfl⟩ := List.mem_map.mp hmem
    exact List.mem_map.mpr ⟨_, h.current entry hentry, rfl⟩
  · intro hmem
    obtain ⟨entry, hentry, rfl⟩ := List.mem_map.mp hmem
    obtain ⟨ticket, hticket⟩ := hoccupied entry hentry
    exact List.mem_map.mpr ⟨_, hticket, (h.made entry hentry).1⟩

theorem Orderly.entries_perm (h : table.Orderly account) (hoccupied : table.Occupied) :
    (table.entries.map (·.1)).Perm (table.queue account).accounts := by
  refine (List.perm_ext_iff_of_nodup h.single (List.nodup_dedup _)).mpr fun number => ?_
  exact (h.mem_accounts_iff hoccupied).symm

/-! ### Runs -/

theorem run_append (table : LockTable) (front back : List LockStep) :
    (table.run (front ++ back)).2 = ((table.run front).2.run back).2 := by
  induction front generalizing table with
  | nil => rfl
  | cons step front ih => exact ih (table.step step).2

theorem entries_step {step : LockStep} (h : step.isAcquire = false) (table : LockTable) :
    (table.step step).2.entries = table.entries := by
  cases step with
  | acquire number => cases h
  | poll ticket =>
      rw [LockTable.step]
      cases table.lockOf? ticket <;> rfl
  | release ticket =>
      rw [LockTable.step]
      cases hlookup : table.lockOf? ticket with
      | none => rfl
      | some lock =>
          dsimp only
          rw [LockTable.release, hlookup]

theorem tracked_step {step : LockStep} (h : step.isAcquire = false) (table : LockTable) :
    (table.step step).2.tracked = table.tracked :=
  congrArg List.length (entries_step h table)

theorem tracked_run {steps : List LockStep} (h : ∀ step ∈ steps, step.isAcquire = false)
    (table : LockTable) : (table.run steps).2.tracked = table.tracked := by
  induction steps generalizing table with
  | nil => rfl
  | cons step steps ih =>
      obtain ⟨hfirst, hrest⟩ := List.forall_mem_cons.mp h
      exact (ih hrest (table.step step).2).trans (tracked_step hfirst table)

/-- A table that was run from a new one has the tickets of the queues in order. -/
theorem exists_orderly_run (steps : List LockStep) :
    ∃ account, (empty.run steps).2.Orderly account ∧
      (TicketQueue.empty.run steps).2 = (empty.run steps).2.queue account := by
  obtain ⟨account, horderly, hrun⟩ := (orderly_empty fun _ => 0).run steps
  exact ⟨account, horderly, congrArg Prod.snd hrun⟩

/-- Right after a ticket was taken, the accounts in the table are those in use. -/
theorem entries_run_acquire_perm (steps : List LockStep) (number : Int) :
    ((empty.run (steps ++ [.acquire number])).2.entries.map (·.1)).Perm
      (TicketQueue.empty.run (steps ++ [.acquire number])).2.accounts := by
  obtain ⟨account, horderly, hqueue⟩ := exists_orderly_run (steps ++ [.acquire number])
  have hoccupied : (empty.run (steps ++ [.acquire number])).2.Occupied := by
    rw [run_append]
    exact occupied_acquire _ number
  rw [hqueue]
  exact horderly.entries_perm hoccupied

/-- **The accounts in the table.**  After any steps from a new table, each ticket that is out
refers to the lock that the table has for its account, so that no account in use loses its lock or
gets a second one.  Right after a ticket was taken, the table has the accounts in use, each of them
once, the one of the new ticket among them.  Polling and giving back leave the number of entries
alone, so until the next ticket is taken it is the number of accounts that were in use right after
the last one was, and before the first one it is zero. -/
theorem run_tracks (steps : List LockStep) :
    (∀ ticket account, (ticket, account) ∈ (TicketQueue.empty.run steps).2.out →
        ∃ lock, (empty.run steps).2.lockOf? ticket = some lock ∧
          (empty.run steps).2.entries.lookup account = some lock) ∧
      (∀ account,
        account ∈ (TicketQueue.empty.run (steps ++ [.acquire account])).2.accounts ∧
          ((empty.run (steps ++ [.acquire account])).2.entries.map (·.1)).Perm
            (TicketQueue.empty.run (steps ++ [.acquire account])).2.accounts ∧
          (empty.run (steps ++ [.acquire account])).2.tracked =
            (TicketQueue.empty.run (steps ++ [.acquire account])).2.accounts.length) ∧
      (∀ ticket,
        ((empty.run steps).2.step (.poll ticket)).2.tracked = (empty.run steps).2.tracked ∧
          ((empty.run steps).2.step (.release ticket)).2.tracked = (empty.run steps).2.tracked) ∧
      (∀ account later, (∀ step ∈ later, step.isAcquire = false) →
        (empty.run (steps ++ .acquire account :: later)).2.tracked =
          (TicketQueue.empty.run (steps ++ [.acquire account])).2.accounts.length) ∧
      ((∀ step ∈ steps, step.isAcquire = false) → (empty.run steps).2.tracked = 0) := by
  have htracked (number : Int) : (empty.run (steps ++ [.acquire number])).2.tracked =
      (TicketQueue.empty.run (steps ++ [.acquire number])).2.accounts.length := by
    rw [← (entries_run_acquire_perm steps number).length_eq, List.length_map, tracked]
  refine ⟨?current, ?taken, ?unchanged, ?later, fun h => tracked_run h empty⟩
  case current =>
    obtain ⟨account, horderly, hqueue⟩ := exists_orderly_run steps
    intro ticket number hmem
    rw [hqueue] at hmem
    exact horderly.lookup_entries hmem
  case taken =>
    refine fun number => ⟨?_, entries_run_acquire_perm steps number, htracked number⟩
    rw [TicketQueue.run_append]
    exact TicketQueue.mem_accounts_acquire _ number
  case unchanged => exact fun ticket => ⟨tracked_step rfl _, tracked_step rfl _⟩
  case later =>
    intro number later hlater
    rw [List.append_cons, run_append, tracked_run hlater, htracked]

/-- The entries of the accounts 1 and 2 go when a ticket for the account 3 is taken, but the one of
the account 4 stays: its second ticket still waits to be asked for. -/
example :
    (empty.run [.acquire 4, .acquire 4, .acquire 1, .release 2, .acquire 2, .release 3, .release 0,
      .acquire 3]).2.entries.map (·.1) = [4, 3] := by
  decide

end LockTable

/-! ## Postings under locks

If no ticket for the account is out, the lock is granted at once, and in the end the same tickets are
out as before.  So postings one after the other never wait, whoever holds other accounts, and
`Ledger.post` can leave the locks out.
-/

namespace LockTable

variable {table : LockTable} {account : LockId → Int}

/-- Nobody has to wait for an account for which no ticket is out. -/
theorem Orderly.holds_acquire (h : table.Orderly account) {number : Int}
    (hfree : ∀ entry ∈ table.tickets, account entry.2 ≠ number) :
    (table.acquire number).2.holds (table.acquire number).1 = true := by
  have hempty : (table.queue account).queueOf number = [] := by
    rw [queue, TicketQueue.queueOf, List.map_eq_nil_iff, List.filter_map, List.map_eq_nil_iff,
      List.filter_eq_nil_iff]
    exact fun entry hentry => by simpa using hfree entry hentry
  obtain ⟨account', -, hstep⟩ := h.step_acquire number
  have hanswer : LockAnswer.taken (table.queue account).next
      ((table.queue account).queueOf number).isEmpty =
        .taken (table.acquire number).1 ((table.acquire number).2.holds (table.acquire number).1) :=
    congrArg Prod.fst hstep
  rw [hempty] at hanswer
  exact (LockAnswer.taken.inj hanswer).2.symm

/-- A ticket that is taken and given back leaves the others as they were. -/
theorem Orderly.release_acquire (h : table.Orderly account) (number : Int) :
    ∃ account',
      ((table.acquire number).2.release (table.acquire number).1).Orderly account' ∧
      ((table.acquire number).2.release (table.acquire number).1).tickets = table.tickets ∧
      ∀ entry ∈ table.tickets, account' entry.2 = account entry.2 := by
  obtain ⟨hticket, -, account', lock, horderly, -, htickets, hsame⟩ := h.acquire number
  refine ⟨account', horderly.release _, ?_, hsame⟩
  have hout : (table.acquire number).2.lockOf? table.nextTicket = some lock :=
    horderly.lockOf?_eq_some_iff.mpr (by simp [htickets])
  have hold : ∀ entry ∈ table.tickets, decide (entry.1 ≠ table.nextTicket) = true :=
    fun entry hentry => decide_eq_true (Nat.ne_of_lt (h.fresh entry hentry))
  rw [hticket, LockTable.release, hout]
  change (table.acquire number).2.tickets.filter _ = table.tickets
  rw [htickets, List.filter_append, List.filter_eq_self.mpr hold]
  simp

end LockTable

namespace Ledger

variable {table : LockTable} {account : LockId → Int}

/-- A posting to an account for which no ticket is out does not notice the locks. -/
theorem postUnderLock_eq (h : table.Orderly account) {request : NewTransaction}
    (hfree : ∀ entry ∈ table.tickets, account entry.2 ≠ request.accountId) (now : Moment)
    (db : Database) :
    ∃ table' account',
      postUnderLock now request table db =
        (some (post now request db).1, table', (post now request db).2) ∧
      table'.Orderly account' ∧ table'.tickets = table.tickets ∧
      ∀ entry ∈ table.tickets, account' entry.2 = account entry.2 := by
  cases hcheck : request.check with
  | error cause =>
      refine ⟨table, account, ?_, h, rfl, fun _ _ => rfl⟩
      rw [postUnderLock, post, hcheck]
  | ok valid =>
      obtain ⟨account', horderly, htickets, hsame⟩ := h.release_acquire request.accountId
      refine ⟨_, account', ?_, horderly, htickets, hsame⟩
      rw [postUnderLock, post, hcheck]
      simp only [h.holds_acquire hfree, if_true]

/-- **Postings under locks.**  Whichever accounts others hold, postings to further accounts, one
after the other, have the results and leave the database that they have without any locks, and they
leave the tickets of the others alone. -/
theorem postAllUnderLock_eq (h : table.Orderly account) {requests : List NewTransaction}
    (hfree : ∀ request ∈ requests, ∀ entry ∈ table.tickets, account entry.2 ≠ request.accountId)
    (clock : Nat → Moment) (db : Database) :
    ∃ table',
      postAllUnderLock clock requests table db =
        ((postAll clock requests db).1.map some, table', (postAll clock requests db).2) ∧
      table'.tickets = table.tickets := by
  induction requests generalizing table account db with
  | nil => exact ⟨table, rfl, rfl⟩
  | cons request requests ih =>
      obtain ⟨hfirst, hrest⟩ := List.forall_mem_cons.mp hfree
      obtain ⟨table₁, account₁, hpost, horderly, htickets, hsame⟩ :=
        postUnderLock_eq h hfirst (clock db.size) db
      have hfree₁ : ∀ request ∈ requests, ∀ entry ∈ table₁.tickets,
          account₁ entry.2 ≠ request.accountId := by
        intro request hrequest entry hentry
        rw [htickets] at hentry
        rw [hsame entry hentry]
        exact hrest request hrequest entry hentry
      obtain ⟨table', hposts, htickets'⟩ := ih horderly hfree₁ (post (clock db.size) request db).2
      refine ⟨table', ?_, htickets'.trans htickets⟩
      simp only [postAllUnderLock, hpost, hposts, postAll, List.map_cons]

end Ledger

end Arrears
