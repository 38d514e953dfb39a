import PairwiseId.Json.Parse
import PairwiseId.Json.Print
import PairwiseId.Store
import PairwiseId.Configuration
import PairwiseId.Console.Basic
import PairwiseId.Console.Preferences
import PairwiseId.Export
import PairwiseId.Unicode.Columns
import PairwiseId.Console.Arguments
import PairwiseId.Console.Layout
import PairwiseId.Console.Run
import PairwiseId.Console.Disk
import PairwiseId.Main
import PairwiseId.Mapper.Summary
import PairwiseId.Proofs.KeyMap
import PairwiseId.Proofs.Mapper.Types
import PairwiseId.Proofs.Store.Salts
import PairwiseId.Proofs.Mapping.Derivation
import PairwiseId.Proofs.Mapping.Accepted
import PairwiseId.Proofs.Mapper.Saves
import PairwiseId.Proofs.Store.Ids
import PairwiseId.Proofs.PseudonymList.Saved
import PairwiseId.Proofs.Export.Owners
import PairwiseId.Proofs.Export.Replay
import PairwiseId.Proofs.Export.Verdict
import PairwiseId.Proofs.Export.Stable
import PairwiseId.Proofs.Export.Kept
import PairwiseId.Proofs.Claims.Surface
import PairwiseId.Proofs.Mapper.Order
import PairwiseId.Proofs.Mapper.Transform
import PairwiseId.Proofs.PseudonymList.Entries
import PairwiseId.Proofs.Mapper.Issue
import PairwiseId.Proofs.Store.Issuance
import PairwiseId.Proofs.PseudonymList.Fidelity
import PairwiseId.Proofs.Claims.Custom
import PairwiseId.Proofs.Store.Requests
import PairwiseId.Proofs.Mapper.Schedule
import PairwiseId.Proofs.Repetition
import PairwiseId.Proofs.Claims.Path
import PairwiseId.Proofs.Claims.Edits
import PairwiseId.Proofs.Mapper.Repeat
import PairwiseId.Proofs.Mapping.Concealed
import PairwiseId.Proofs.Store.Concealed
import PairwiseId.Proofs.Export.Concealed
import PairwiseId.Proofs.Console.Validate
import PairwiseId.Proofs.Mapping.Refused
import PairwiseId.Proofs.Mapper.Refusals
import PairwiseId.Proofs.Store.Refusals
import PairwiseId.Proofs.Mapper.Failures
import PairwiseId.Proofs.Claims.Visible
import PairwiseId.Proofs.Mapper.Surfaces
import PairwiseId.Proofs.Mapper.Confined
import PairwiseId.Proofs.Mac
import PairwiseId.Proofs.Pseudonym.Message
import PairwiseId.Proofs.Pseudonym.Key
import PairwiseId.Proofs.Json.Fields
import PairwiseId.Proofs.Claims.Reading
import PairwiseId.Proofs.Json.Text
import PairwiseId.Proofs.Uuid
import PairwiseId.Proofs.Export.Reading
import PairwiseId.Proofs.Store.Resaves
import PairwiseId.Proofs.Text.Trim
import PairwiseId.Proofs.Mapping.Specified
import PairwiseId.Proofs.Text.Split
import PairwiseId.Proofs.Mapping.Address
import PairwiseId.Proofs.Uri.Written
import PairwiseId.Proofs.PseudonymList.Separator
import PairwiseId.Proofs.PseudonymList.Usable
import PairwiseId.Proofs.Mapper.Targets
import PairwiseId.Proofs.Mapper.Subject
import PairwiseId.Proofs.Console.Derivation
import PairwiseId.Proofs.Console.Rejection
import PairwiseId.Proofs.Console.Transaction
import PairwiseId.Proofs.Claims.Lens
import PairwiseId.Proofs.PseudonymList.Merged
import PairwiseId.Proofs.Console.Algorithms
import PairwiseId.Proofs.Pseudonym.Canonical
