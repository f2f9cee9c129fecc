import CharacterLedger.Character.Lookup
import CharacterLedger.Main
import CharacterLedger.Value.Json.Writer
import CharacterLedger.Proofs.Ledger.AllOrNothing
import CharacterLedger.Proofs.Ledger.Refinement
import CharacterLedger.Proofs.Ledger.Serializability
import CharacterLedger.Proofs.Ledger.Exclusion
import CharacterLedger.Proofs.Storage.Lending
import CharacterLedger.Proofs.Storage.Tracked
import CharacterLedger.Proofs.Ledger.Conservation
import CharacterLedger.Proofs.Ledger.Leftovers
import CharacterLedger.Proofs.Storage.Causes
import CharacterLedger.Proofs.Ledger.Surfacing
import CharacterLedger.Proofs.Ledger.Waiting
import CharacterLedger.Proofs.Ledger.Rolls
import CharacterLedger.Proofs.Bootstrap
import CharacterLedger.Proofs.Ledger.Sessions
import CharacterLedger.Proofs.Settings.Variables
import CharacterLedger.Proofs.Settings.Resolution
import CharacterLedger.Proofs.Ledger.Tracing
import CharacterLedger.Proofs.Settings.TestMode
import CharacterLedger.Proofs.Ledger.Linearization
import CharacterLedger.Proofs.Ledger.CorruptRows
import CharacterLedger.Proofs.Ledger.Quarantine
import CharacterLedger.Proofs.Dice.Improvement
import CharacterLedger.Proofs.Ledger.Precedence
import CharacterLedger.Proofs.Ledger.SingleFlight
import CharacterLedger.Proofs.Character.Forms
import CharacterLedger.Proofs.Ledger.Renaming
import CharacterLedger.Proofs.Character.Names
import CharacterLedger.Proofs.Ledger.Repository
import CharacterLedger.Proofs.Character.Clamping
import CharacterLedger.Proofs.Ledger.Returns
import CharacterLedger.Proofs.Ledger.Adjustments
import CharacterLedger.Proofs.Character.Updates
import CharacterLedger.Proofs.Dice.Series
