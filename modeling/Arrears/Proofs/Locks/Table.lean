import Arrears.LockTable
import Mathlib.Data.List.Nodup

/-!
# The lock table in order

**Lines.** A lock and the tickets that refer to it form one line: the holder first, the waiting
tickets behind it.  Entering the lock is standing at the end of the line, leaving it is leaving the
line.

**Invariant.** `Orderly` says of a table that every account has at most one lock in it, that each
ticket refers to the lock that the table has for its account, and that the line of each lock is made
of the tickets that refer to it, in the order in which they were taken.  A lock without tickets can
therefore be forgotten, and one with tickets never is.
-/

namespace Arrears
namespace FairLock

/-- The tickets of a lock, the holder first. -/
def line (lock : FairLock) : List Ticket :=
  lock.holder.toList ++ lock.waiting

/-- Nobody waits for a lock that nobody holds. -/
def Proper (lock : FairLock) : Prop :=
  lock.holder = none → lock.waiting = []

theorem proper_free : free.Proper :=
  fun _ => rfl

theorem holder_eq_head? {lock : FairLock} (h : lock.Proper) : lock.holder = lock.line.head? := by
  cases hholder : lock.holder with
  | none => simp [line, hholder, h hholder]
  | some holder => simp [line, hholder]

theorem line_enter {lock : FairLock} (h : lock.Proper) (ticket : Ticket) :
    (lock.enter ticket).line = lock.line ++ [ticket] := by
  cases hholder : lock.holder with
  | none => simp [line, enter, hholder, h hholder]
  | some holder => simp [line, enter, hholder]

theorem proper_enter (lock : FairLock) (ticket : Ticket) : (lock.enter ticket).Proper := by
  cases hholder : lock.holder with
  | none => simp [Proper, enter, hholder]
  | some holder => simp [Proper, enter, hholder]

theorem line_handOver (lock : FairLock) : lock.handOver.line = lock.waiting := by
  rw [handOver]
  cases lock.waiting <;> rfl

theorem proper_handOver (lock : FairLock) : lock.handOver.Proper := by
  rw [handOver]
  cases lock.waiting with
  | nil => exact proper_free
  | cons first others => exact fun hnone => nomatch hnone

theorem line_leave {lock : FairLock} (h : lock.Proper) (hnodup : lock.line.Nodup)
    (ticket : Ticket) :
    (lock.leave ticket).line = lock.line.filter fun other => other ≠ ticket := by
  cases hholder : lock.holder with
  | none => simp [line, leave, hholder, h hholder]
  | some holder =>
      have hline : lock.line = holder :: lock.waiting := by
        rw [line, hholder]
        rfl
      rw [hline, List.nodup_cons] at hnodup
      by_cases heq : holder = ticket
      · subst heq
        have hothers : ∀ other ∈ lock.waiting, decide (other ≠ holder) = true := by
          intro other hother
          exact decide_eq_true (ne_of_mem_of_not_mem hother hnodup.1)
        rw [leave, if_pos hholder, line_handOver, hline, List.filter_cons_of_neg (by simp),
          List.filter_eq_self.mpr hothers]
      · rw [leave, if_neg (by simpa [hholder] using heq), hline,
          List.filter_cons_of_pos (by simpa using heq), line, hholder]
        rfl

theorem proper_leave {lock : FairLock} (h : lock.Proper) (ticket : Ticket) :
    (lock.leave ticket).Proper := by
  rw [leave]
  split
  · exact proper_handOver lock
  · intro hnone
    simp [h hnone]

end FairLock

namespace LockTable

variable {table : LockTable} {account : LockId → Int}

/-- The tickets that refer to a lock, in the order in which they were taken. -/
def ticketsOf (table : LockTable) (lock : LockId) : List Ticket :=
  (table.tickets.filter fun entry => entry.2 = lock).map (·.1)

/-- A table in order, where `account` tells for which account each lock was made. -/
structure Orderly (table : LockTable) (account : LockId → Int) : Prop where
  /-- Every account has at most one lock. -/
  single : (table.entries.map (·.1)).Nodup
  made : ∀ entry ∈ table.entries, account entry.2 = entry.1 ∧ entry.2 < table.locks.length
  /-- A ticket refers to the lock that the table has for its account. -/
  current : ∀ entry ∈ table.tickets, (account entry.2, entry.2) ∈ table.entries
  lines : ∀ lock, (table.lockAt lock).line = table.ticketsOf lock
  proper : ∀ lock, (table.lockAt lock).Proper
  ascending : (table.tickets.map (·.1)).Pairwise (· < ·)
  /-- Tickets to come have higher numbers. -/
  fresh : ∀ entry ∈ table.tickets, entry.1 < table.nextTicket

theorem orderly_empty (account : LockId → Int) : empty.Orderly account where
  single := List.nodup_nil
  made := by simp [empty]
  current := by simp [empty]
  lines := by simp [empty, lockAt, ticketsOf, FairLock.free, FairLock.line]
  proper := by simp [empty, lockAt, FairLock.proper_free]
  ascending := List.Pairwise.nil
  fresh := by simp [empty]

theorem Orderly.nodup (h : table.Orderly account) : (table.tickets.map (·.1)).Nodup :=
  h.ascending.imp fun hlt => Nat.ne_of_lt hlt

theorem Orderly.nodup_line (h : table.Orderly account) (lock : LockId) :
    (table.lockAt lock).line.Nodup := by
  rw [h.lines, ticketsOf]
  exact h.nodup.sublist (List.filter_sublist.map _)

theorem Orderly.eq_of_account_eq (h : table.Orderly account) {lock other : LockId}
    (hlock : (account lock, lock) ∈ table.entries) (hother : (account other, other) ∈ table.entries)
    (heq : account lock = account other) : lock = other :=
  congrArg Prod.snd (List.inj_on_of_nodup_map h.single hlock hother heq)

/-! ## Looking up -/

theorem lookup_eq_some_iff_mem {α β : Type} [DecidableEq α] {entries : List (α × β)}
    (hkeys : (entries.map (·.1)).Nodup) {key : α} {value : β} :
    entries.lookup key = some value ↔ (key, value) ∈ entries := by
  rw [List.lookup_eq_some_iff]
  constructor
  · rintro ⟨front, back, rfl, -⟩
    exact List.mem_append_right _ List.mem_cons_self
  · intro hmem
    obtain ⟨front, back, rfl⟩ := List.append_of_mem hmem
    refine ⟨front, back, rfl, fun entry hentry => ?_⟩
    rw [List.map_append, List.map_cons, List.nodup_append] at hkeys
    have hne : entry.1 ≠ key :=
      hkeys.2.2 entry.1 (List.mem_map_of_mem hentry) key List.mem_cons_self
    simpa using hne.symm

theorem Orderly.lockOf?_eq_some_iff (h : table.Orderly account) {ticket : Ticket}
    {lock : LockId} : table.lockOf? ticket = some lock ↔ (ticket, lock) ∈ table.tickets :=
  lookup_eq_some_iff_mem h.nodup

/-- A ticket that is out holds its account exactly when it is the first of its line. -/
theorem Orderly.holds_iff (h : table.Orderly account) {ticket : Ticket} {lock : LockId}
    (hticket : (ticket, lock) ∈ table.tickets) :
    table.holds ticket = true ↔ (table.ticketsOf lock).head? = some ticket := by
  rw [holds, h.lockOf?_eq_some_iff.mpr hticket, ← h.lines,
    ← FairLock.holder_eq_head? (h.proper lock), decide_eq_true_eq]

theorem lockAt_modify (table : LockTable) (change : FairLock → FairLock) {lock : LockId}
    (hlock : lock < table.locks.length) (other : LockId) :
    (table.locks.modify lock change)[other]?.getD .free =
      if lock = other then change (table.lockAt other) else table.lockAt other := by
  rw [List.getElem?_modify, lockAt]
  by_cases heq : lock = other
  · subst heq
    simp [List.getElem?_eq_getElem hlock]
  · simp [heq]

/-! ## Taking a ticket -/

theorem Orderly.prune (h : table.Orderly account) : table.prune.Orderly account where
  single := h.single.sublist (List.filter_sublist.map _)
  made entry hentry := h.made entry (List.mem_filter.mp hentry).1
  current := by
    intro entry hentry
    have hreferences : 1 < table.references entry.2 := by
      have hmem : entry ∈ table.tickets.filter fun other => other.2 = entry.2 :=
        List.mem_filter.mpr ⟨hentry, decide_eq_true rfl⟩
      have hpos := List.length_pos_of_mem hmem
      rw [references]
      omega
    exact List.mem_filter.mpr ⟨h.current entry hentry, decide_eq_true hreferences⟩
  lines := h.lines
  proper := h.proper
  ascending := h.ascending
  fresh := h.fresh

theorem Orderly.lt_length (h : table.Orderly account) {entry : Ticket × LockId}
    (hentry : entry ∈ table.tickets) : entry.2 < table.locks.length :=
  (h.made _ (h.current entry hentry)).2

theorem lockAt_addLock (table : LockTable) (number : Int) (lock : LockId) :
    { table with
      locks := table.locks ++ [.free]
      entries := table.entries ++ [(number, table.locks.length)] : LockTable }.lockAt lock =
        table.lockAt lock := by
  rw [lockAt, lockAt, List.getElem?_append]
  by_cases hlock : lock < table.locks.length
  · rw [if_pos hlock]
  · rw [if_neg hlock, List.getElem?_eq_none (Nat.le_of_not_lt hlock)]
    cases lock - table.locks.length <;> rfl

/-- A new lock for an account that has none keeps a table in order. -/
theorem Orderly.addLock (h : table.Orderly account) {number : Int}
    (hnew : ∀ entry ∈ table.entries, entry.1 ≠ number) :
    { table with
      locks := table.locks ++ [.free]
      entries := table.entries ++ [(number, table.locks.length)] : LockTable }.Orderly
        (Function.update account table.locks.length number) := by
  have hold : ∀ lock, lock < table.locks.length →
      Function.update account table.locks.length number lock = account lock :=
    fun lock hlock => Function.update_of_ne (Nat.ne_of_lt hlock) _ _
  constructor
  · rw [List.map_append, List.nodup_append]
    refine ⟨h.single, List.nodup_singleton _, ?_⟩
    intro key hkey other hother
    obtain ⟨entry, hentry, rfl⟩ := List.mem_map.mp hkey
    obtain rfl : other = number := by simpa using hother
    exact hnew entry hentry
  · intro entry hentry
    rw [List.length_append, List.length_singleton]
    rcases List.mem_append.mp hentry with hentry | hentry
    · obtain ⟨haccount, hlock⟩ := h.made entry hentry
      exact ⟨by rw [hold entry.2 hlock, haccount], Nat.lt_succ_of_lt hlock⟩
    · obtain rfl := List.mem_singleton.mp hentry
      exact ⟨Function.update_self _ _ _, Nat.lt_succ_self _⟩
  · intro entry hentry
    rw [hold entry.2 (h.lt_length hentry)]
    exact List.mem_append_left _ (h.current entry hentry)
  · intro lock
    rw [lockAt_addLock]
    exact h.lines lock
  · intro lock
    rw [lockAt_addLock]
    exact h.proper lock
  · exact h.ascending
  · exact h.fresh

/-- Finding the lock of an account, or making one, keeps a table in order. -/
theorem Orderly.entryOf (h : table.Orderly account) (number : Int) :
    ∃ account', (table.entryOf number).2.Orderly account' ∧
      (number, (table.entryOf number).1) ∈ (table.entryOf number).2.entries ∧
      (table.entryOf number).2.tickets = table.tickets ∧
      (table.entryOf number).2.nextTicket = table.nextTicket ∧
      ∀ entry ∈ table.tickets, account' entry.2 = account entry.2 := by
  rw [LockTable.entryOf]
  cases hlookup : table.entries.lookup number with
  | some lock =>
      have hentry := (lookup_eq_some_iff_mem h.single).mp hlookup
      exact ⟨account, h, hentry, rfl, rfl, fun _ _ => rfl⟩
  | none =>
      have hnew : ∀ entry ∈ table.entries, entry.1 ≠ number := by
        intro entry hentry heq
        have hsome : table.entries.lookup number = some entry.2 := by
          rw [lookup_eq_some_iff_mem h.single, ← heq]
          exact hentry
        rw [hlookup] at hsome
        cases hsome
      refine ⟨Function.update account table.locks.length number, h.addLock hnew,
        List.mem_append_right _ (List.mem_singleton_self _), rfl, rfl, fun entry hentry => ?_⟩
      exact Function.update_of_ne (Nat.ne_of_lt (h.lt_length hentry)) _ _

theorem Orderly.enter (h : table.Orderly account) {lock : LockId}
    (hentry : (account lock, lock) ∈ table.entries) :
    { table with
      locks := table.locks.modify lock (FairLock.enter table.nextTicket)
      tickets := table.tickets ++ [(table.nextTicket, lock)]
      nextTicket := table.nextTicket + 1 : LockTable }.Orderly account := by
  have hlock : lock < table.locks.length := (h.made _ hentry).2
  constructor
  · exact h.single
  · intro entry hmem
    rw [List.length_modify]
    exact h.made entry hmem
  · intro entry hmem
    rcases List.mem_append.mp hmem with hmem | hmem
    · exact h.current entry hmem
    · obtain rfl := List.mem_singleton.mp hmem
      exact hentry
  · intro other
    rw [lockAt, lockAt_modify table _ hlock, ticketsOf, List.filter_append, List.map_append]
    by_cases heq : lock = other
    · subst heq
      rw [if_pos rfl, FairLock.line_enter (h.proper lock), h.lines, ticketsOf,
        List.filter_cons_of_pos (by simp)]
      rfl
    · rw [if_neg heq, h.lines, ticketsOf, List.filter_cons_of_neg (by simpa using heq)]
      simp
  · intro other
    rw [lockAt, lockAt_modify table _ hlock]
    split
    · exact FairLock.proper_enter _ _
    · exact h.proper other
  · rw [List.map_append, List.pairwise_append]
    refine ⟨h.ascending, List.pairwise_singleton _ _, ?_⟩
    intro ticket hticket next hnext
    obtain ⟨entry, hmem, rfl⟩ := List.mem_map.mp hticket
    obtain rfl : next = table.nextTicket := by simpa using hnext
    exact h.fresh entry hmem
  · intro entry hmem
    rcases List.mem_append.mp hmem with hmem | hmem
    · exact Nat.lt_succ_of_lt (h.fresh entry hmem)
    · obtain rfl := List.mem_singleton.mp hmem
      exact Nat.lt_succ_self _

/-- **Taking a ticket** keeps a table in order and adds the next ticket, for a lock of the
account. -/
theorem Orderly.acquire (h : table.Orderly account) (number : Int) :
    (table.acquire number).1 = table.nextTicket ∧
      (table.acquire number).2.nextTicket = table.nextTicket + 1 ∧
      ∃ account' lock, (table.acquire number).2.Orderly account' ∧ account' lock = number ∧
        (table.acquire number).2.tickets = table.tickets ++ [(table.nextTicket, lock)] ∧
        ∀ entry ∈ table.tickets, account' entry.2 = account entry.2 := by
  obtain ⟨account', horderly, hentry, htickets, hnext, hsame⟩ := h.prune.entryOf number
  have haccount : account' (table.prune.entryOf number).1 = number := (horderly.made _ hentry).1
  have hentry' : (account' (table.prune.entryOf number).1, (table.prune.entryOf number).1) ∈
      (table.prune.entryOf number).2.entries := by
    rw [haccount]
    exact hentry
  have hlast : (table.acquire number).2.tickets = (table.prune.entryOf number).2.tickets ++
      [((table.prune.entryOf number).2.nextTicket, (table.prune.entryOf number).1)] :=
    rfl
  refine ⟨hnext, congrArg (· + 1) hnext, account', _, horderly.enter hentry', haccount, ?_, hsame⟩
  rw [hlast, hnext, htickets]
  rfl

/-! ## Giving a ticket back -/

theorem ticketsOf_filter_ne (table : LockTable) (ticket : Ticket) (lock : LockId) :
    { table with
      tickets := table.tickets.filter fun entry => entry.1 ≠ ticket : LockTable }.ticketsOf lock =
        (table.ticketsOf lock).filter fun other => other ≠ ticket := by
  rw [ticketsOf, ticketsOf, List.filter_map, List.filter_filter, List.filter_filter]
  congr 1
  exact List.filter_congr fun entry _ => Bool.and_comm _ _

theorem mem_ticketsOf {ticket : Ticket} {lock : LockId} :
    ticket ∈ table.ticketsOf lock ↔ (ticket, lock) ∈ table.tickets := by
  simp [ticketsOf]

/-- **Giving a ticket back** keeps a table in order. -/
theorem Orderly.release (h : table.Orderly account) (ticket : Ticket) :
    (table.release ticket).Orderly account := by
  rw [LockTable.release]
  cases hlookup : table.lockOf? ticket with
  | none => exact h
  | some lock =>
      have hticket : (ticket, lock) ∈ table.tickets := h.lockOf?_eq_some_iff.mp hlookup
      have hlock : lock < table.locks.length := h.lt_length hticket
      constructor
      · exact h.single
      · intro entry hmem
        rw [List.length_modify]
        exact h.made entry hmem
      · exact fun entry hmem => h.current entry (List.mem_filter.mp hmem).1
      · intro other
        rw [lockAt, lockAt_modify table _ hlock]
        by_cases heq : lock = other
        · subst heq
          rw [if_pos rfl, FairLock.line_leave (h.proper lock) (h.nodup_line lock), h.lines]
          exact (ticketsOf_filter_ne table ticket lock).symm
        · have hother : ticket ∉ table.ticketsOf other := by
            intro hmem
            have hfound := h.lockOf?_eq_some_iff.mpr (mem_ticketsOf.mp hmem)
            rw [hlookup] at hfound
            exact heq (Option.some.inj hfound)
          have hkeep : ∀ one ∈ table.ticketsOf other, decide (one ≠ ticket) = true :=
            fun one hone => decide_eq_true (ne_of_mem_of_not_mem hone hother)
          rw [if_neg heq, h.lines, ← List.filter_eq_self.mpr hkeep]
          exact (ticketsOf_filter_ne table ticket other).symm
      · intro other
        rw [lockAt, lockAt_modify table _ hlock]
        split
        · exact FairLock.proper_leave (h.proper other) _
        · exact h.proper other
      · exact h.ascending.sublist (List.filter_sublist.map _)
      · exact fun entry hmem => h.fresh entry (List.mem_filter.mp hmem).1

end LockTable
end Arrears
