/-!
# Account locks

Postings to one account run one after the other.  Whoever wants to post takes a ticket for the
account; the ticket holds the account, or waits in line until it does, and is given back at the end.
The table names the lock of each account that is in use.  A new ticket first removes the entries of
locks that no ticket refers to.
-/

namespace Arrears

/-- The number of a ticket; tickets are numbered in the order in which they are taken. -/
abbrev Ticket : Type :=
  Nat

structure FairLock where
  holder : Option Ticket
  /-- The tickets that wait, the first in line first. -/
  waiting : List Ticket
deriving DecidableEq, Repr

namespace FairLock

def free : FairLock :=
  ⟨none, []⟩

/-- Takes the lock, or stands in line for it. -/
def enter (ticket : Ticket) (lock : FairLock) : FairLock :=
  match lock.holder with
  | none => { lock with holder := some ticket }
  | some _ => { lock with waiting := lock.waiting ++ [ticket] }

def handOver (lock : FairLock) : FairLock :=
  match lock.waiting with
  | [] => free
  | first :: others => ⟨some first, others⟩

/-- Gives a ticket back: its holder passes the lock on, a waiting ticket leaves the line. -/
def leave (ticket : Ticket) (lock : FairLock) : FairLock :=
  if lock.holder = some ticket then lock.handOver
  else { lock with waiting := lock.waiting.filter fun other => other ≠ ticket }

end FairLock

/-- The place of a lock among all locks ever made. -/
abbrev LockId : Type :=
  Nat

structure LockTable where
  /-- Every lock ever made. -/
  locks : List FairLock
  /-- The lock of each account in the table. -/
  entries : List (Int × LockId)
  /-- The lock that each ticket that is out refers to. -/
  tickets : List (Ticket × LockId)
  nextTicket : Ticket
deriving DecidableEq, Repr

namespace LockTable

def empty : LockTable :=
  ⟨[], [], [], 0⟩

def lockAt (table : LockTable) (lock : LockId) : FairLock :=
  table.locks[lock]?.getD .free

def lockOf? (table : LockTable) (ticket : Ticket) : Option LockId :=
  table.tickets.lookup ticket

def holds (table : LockTable) (ticket : Ticket) : Bool :=
  match table.lockOf? ticket with
  | some lock => (table.lockAt lock).holder = some ticket
  | none => false

def tracked (table : LockTable) : Nat :=
  table.entries.length

/-- The references to a lock in the table: one by its entry, and one by each ticket for it. -/
def references (table : LockTable) (lock : LockId) : Nat :=
  1 + (table.tickets.filter fun entry => entry.2 = lock).length

def prune (table : LockTable) : LockTable :=
  { table with entries := table.entries.filter fun entry => 1 < table.references entry.2 }

/-- The lock of an account; an account without entry is given a new lock. -/
def entryOf (account : Int) (table : LockTable) : LockId × LockTable :=
  match table.entries.lookup account with
  | some lock => (lock, table)
  | none =>
    let lock := table.locks.length
    (lock,
      { table with
        locks := table.locks ++ [.free]
        entries := table.entries ++ [(account, lock)] })

def acquire (account : Int) (table : LockTable) : Ticket × LockTable :=
  let (lock, table) := table.prune.entryOf account
  let ticket := table.nextTicket
  (ticket,
    { table with
      locks := table.locks.modify lock (FairLock.enter ticket)
      tickets := table.tickets ++ [(ticket, lock)]
      nextTicket := ticket + 1 })

def release (ticket : Ticket) (table : LockTable) : LockTable :=
  match table.lockOf? ticket with
  | none => table
  | some lock =>
    { table with
      locks := table.locks.modify lock (FairLock.leave ticket)
      tickets := table.tickets.filter fun entry => entry.1 ≠ ticket }

end LockTable
end Arrears
