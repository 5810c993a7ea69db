import TriggerScript.Main
import TriggerScript.Command.FileTree
import TriggerScript.ScriptFile.Session
import TriggerScript.Tree.Draft
import TriggerScript.Workspace.Edit
import TriggerScript.Proofs.Binary.Words
import TriggerScript.Proofs.Chunk.StoredText
import TriggerScript.Proofs.Chunk.Slice
import TriggerScript.Proofs.Chunk.Dispatch
import TriggerScript.Proofs.ScriptFile.Decoder
import TriggerScript.Proofs.ScriptFile.Loading
import TriggerScript.Proofs.Chunk.Layout
import TriggerScript.Proofs.Chunk.LabelTable
import TriggerScript.Proofs.Chunk.Replay
import TriggerScript.Proofs.ScriptFile.Reload
import TriggerScript.Proofs.ScriptFile.Stability
import TriggerScript.Proofs.Config.Verify
import TriggerScript.Proofs.ScriptFile.Collecting
import TriggerScript.Proofs.ScriptFile.Resaving
import TriggerScript.Proofs.Command.FileTree
import TriggerScript.Proofs.ScriptFile.Qualified
import TriggerScript.Proofs.Command.Qualify
import TriggerScript.Proofs.Chunk.Cursor
import TriggerScript.Proofs.Chunk.Stepping
import TriggerScript.Proofs.ScriptFile.Positions
import TriggerScript.Proofs.ScriptFile.WellFormed
import TriggerScript.Proofs.Registry.History
import TriggerScript.Proofs.Tree.References
import TriggerScript.Proofs.Chunk.Content
import TriggerScript.Proofs.Chunk.Walk
import TriggerScript.Proofs.ScriptFile.Effort
import TriggerScript.Proofs.Chunk.Pieces
import TriggerScript.Proofs.ScriptFile.Foreign
import TriggerScript.Proofs.Workspace.Counts
import TriggerScript.Proofs.Workspace.Ledger
import TriggerScript.Proofs.Chunk.Handing
import TriggerScript.Proofs.ScriptFile.Failures
import TriggerScript.Proofs.ScriptFile.ConditionBody
import TriggerScript.Proofs.Decimal.Numeral
import TriggerScript.Proofs.Text.Legible
import TriggerScript.Proofs.Tree.Expression
import TriggerScript.Proofs.Json.Grammar
import TriggerScript.Proofs.Json.Reading
import TriggerScript.Proofs.Command.Responses
import TriggerScript.Proofs.Tree.Copies
import TriggerScript.Proofs.Tree.Requalification
import TriggerScript.Proofs.Registry.Overlay
import TriggerScript.Proofs.Config.Overlay
import TriggerScript.Proofs.Config.Refusals
import TriggerScript.Proofs.Parameter.Codec
import TriggerScript.Proofs.Chunk.Buffer
import TriggerScript.Proofs.Chunk.CallTree
import TriggerScript.Proofs.Chunk.Scopes
import TriggerScript.Proofs.ScriptFile.Scopes
import TriggerScript.Proofs.Chunk.Opening
import TriggerScript.Proofs.Text.EditDistance
import TriggerScript.Proofs.Text.Integer
import TriggerScript.Proofs.Registry.Queries
import TriggerScript.Proofs.Registry.Suggestions
import TriggerScript.Proofs.Command.Changes
