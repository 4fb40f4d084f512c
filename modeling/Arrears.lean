import Arrears.Main
import Arrears.Proofs.Text.Words
import Arrears.Proofs.Text.Numeral
import Arrears.Proofs.Text.Utf8
import Arrears.Proofs.Text.OneLine
import Arrears.Proofs.Json.Reading
import Arrears.Proofs.Decimal.Reading
import Arrears.Proofs.Decimal.Acceptance
import Arrears.Proofs.Money
import Arrears.Proofs.Money.Text
import Arrears.Proofs.Money.Writing
import Arrears.Proofs.Moment.Text
import Arrears.Proofs.Moment.Reading
import Arrears.Proofs.Discharge.Payment
import Arrears.Proofs.Discharge.ClosedForm
import Arrears.Proofs.Discharge.Overflow
import Arrears.Proofs.Store.Merging
import Arrears.Proofs.Store.Update
import Arrears.Proofs.Store.Writing
import Arrears.Proofs.Store.Snapshot
import Arrears.Proofs.Ledger.Posting
import Arrears.Proofs.Ledger.Run
import Arrears.Proofs.Ledger.Conservation
import Arrears.Proofs.Ledger.Queue
import Arrears.Proofs.Ledger.Effect
import Arrears.Proofs.Ledger.Credits
import Arrears.Proofs.Ledger.History
import Arrears.Proofs.Ledger.Isolation
import Arrears.Proofs.Ledger.Outcome
import Arrears.Proofs.Locks.Table
import Arrears.Proofs.Locks.Queue
import Arrears.Proofs.Locks.Tracking
import Arrears.Proofs.Shell.Commands
import Arrears.Proofs.Shell.Language
import Arrears.Proofs.Shell.Execution
import Arrears.Proofs.Shell.Processing
import Arrears.Proofs.Shell.Transcript
import Arrears.Proofs.Shell.Restart
