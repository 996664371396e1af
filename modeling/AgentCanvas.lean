import AgentCanvas.Cli.Run
import AgentCanvas.Command.Reading
import AgentCanvas.Log.Panic
import AgentCanvas.Main
import AgentCanvas.Message.Grammar
import AgentCanvas.Proofs.Command.Failures
import AgentCanvas.Proofs.Command.Reports
import AgentCanvas.Proofs.Message.Accounts
import AgentCanvas.Proofs.Message.FencedBlock
import AgentCanvas.Proofs.Message.InlineGrammar
import AgentCanvas.Proofs.Scene.Observers
import AgentCanvas.Proofs.Scene.Selection
import AgentCanvas.Scene.Debug
import AgentCanvas.Scene.Uuid
import AgentCanvas.Proofs.Command.Identity
import AgentCanvas.Proofs.Element.Documents
import AgentCanvas.Proofs.Scene.Documents
import AgentCanvas.Proofs.Number.Characters
import AgentCanvas.Proofs.Text.OneLine
import AgentCanvas.Proofs.Element.Complaints
import AgentCanvas.Proofs.Cli.OutcomeLines
import AgentCanvas.Proofs.Json.NumberEnds
import AgentCanvas.Proofs.Json.Escapes
import AgentCanvas.Proofs.Json.Texts
import AgentCanvas.Proofs.Json.Reread
import AgentCanvas.Proofs.Message.PrintedCommands
import AgentCanvas.Proofs.Element.Contents
import AgentCanvas.Proofs.Element.Patches
import AgentCanvas.Proofs.Command.Repeating
import AgentCanvas.Proofs.Command.Commuting
import AgentCanvas.Proofs.Command.Noninterference
import AgentCanvas.Proofs.Message.CommandLines
import AgentCanvas.Proofs.Message.IssuedIds
import AgentCanvas.Proofs.Element.Decoding
import AgentCanvas.Proofs.Element.Overlay
import AgentCanvas.Proofs.Command.Creating
import AgentCanvas.Proofs.Json.FiniteNumbers
import AgentCanvas.Proofs.Scene.FiniteNumbers
import AgentCanvas.Proofs.Command.Outcomes
import AgentCanvas.Proofs.Message.LogLines
import AgentCanvas.Proofs.Element.Successive
import AgentCanvas.Proofs.Command.Readers
import AgentCanvas.Proofs.Message.Targets
import AgentCanvas.Proofs.Message.FreeText
import AgentCanvas.Proofs.Scene.FreshIds
import AgentCanvas.Proofs.Log.Events
import AgentCanvas.Proofs.Log.Settings
import AgentCanvas.Proofs.Log.Session
import AgentCanvas.Proofs.Text.Cuts
import AgentCanvas.Proofs.Message.BlockPattern
import AgentCanvas.Proofs.Message.BlockCut
