import DatasetSync.Database.Definition
import DatasetSync.Main
import DatasetSync.Proofs.Account
import DatasetSync.Proofs.Cache.Clearing
import DatasetSync.Proofs.Cache.Downloads
import DatasetSync.Proofs.Cache.Interruption
import DatasetSync.Proofs.Cache.Storing
import DatasetSync.Proofs.Commands
import DatasetSync.Proofs.Database.Progress
import DatasetSync.Proofs.Database.Refusal
import DatasetSync.Proofs.Database.Statement
import DatasetSync.Proofs.Dataset.Naming
import DatasetSync.Proofs.Dataset.Ragged
import DatasetSync.Proofs.Dataset.Written
import DatasetSync.Proofs.FailFast
import DatasetSync.Proofs.History
import DatasetSync.Proofs.Inference
import DatasetSync.Proofs.Loadable
import DatasetSync.Proofs.Order
import DatasetSync.Proofs.OwnTables
import DatasetSync.Proofs.Recorded
import DatasetSync.Proofs.Repetition
import DatasetSync.Proofs.Reserved
import DatasetSync.Proofs.Resumption
import DatasetSync.Proofs.Screen.Progress
import DatasetSync.Proofs.Screen.Quitting
import DatasetSync.Proofs.Source.Manifest
import DatasetSync.Proofs.Source.Selection
