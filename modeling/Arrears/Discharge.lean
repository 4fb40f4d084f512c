import Arrears.Moment
import Arrears.Money

/-!
# Discharging debts

The debts are put in order of age, ties going by id.  The credit pays them one after the other, each
as far as the credit lasts; entries that carry no debt are passed over.
-/

namespace Arrears

/-- A booking that may still carry debt. -/
structure OpenDebit where
  id : Int
  createdAt : Moment
  balance : Money
deriving DecidableEq, Repr

/-- The balance that a booking has after a discharge. -/
structure BalanceUpdate where
  transactionId : Int
  newBalance : Money
deriving DecidableEq, Repr

structure Settlement where
  updates : List BalanceUpdate
  remaining : Money
deriving DecidableEq, Repr

namespace OpenDebit

/-- The order of age: the earlier moment first, and at one moment the lower id. -/
def notAfter (a b : OpenDebit) : Bool :=
  a.createdAt < b.createdAt || (a.createdAt = b.createdAt && a.id ≤ b.id)

/-- The debts in order of age; equal entries keep their order. -/
def byAge (debits : List OpenDebit) : List OpenDebit :=
  debits.mergeSort notAfter

end OpenDebit

namespace Settlement

/-- Pays debts from a credit, in the order of the list. -/
def pay (credit : Money) : List OpenDebit → Except Overflow Settlement
  | [] => .ok ⟨[], credit⟩
  | debit :: debits =>
    if !credit.isPositive then
      .ok ⟨[], credit⟩
    else if !debit.balance.isNegative then
      pay credit debits
    else do
      let owed ← debit.balance.negate
      let consumed := min owed credit
      let rest ← credit.subtract consumed
      let newBalance ← debit.balance.add consumed
      let settlement ← pay rest debits
      return ⟨⟨debit.id, newBalance⟩ :: settlement.updates, settlement.remaining⟩

def discharged (settlement : Settlement) (credit : Money) : Except Overflow Money :=
  credit.subtract settlement.remaining

end Settlement

def discharge (credit : Money) (debits : List OpenDebit) : Except Overflow Settlement :=
  Settlement.pay credit (OpenDebit.byAge debits)

end Arrears
