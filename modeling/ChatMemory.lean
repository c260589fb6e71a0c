import ChatMemory.Format.FixedPoint
import ChatMemory.Logging.Settings
import ChatMemory.Proofs.Conversation.OlderMessages
import ChatMemory.Proofs.Conversation.RepeatedTopics
import ChatMemory.Proofs.Conversation.TitleFallback
import ChatMemory.Proofs.Conversation.TitleLength
import ChatMemory.Proofs.Conversation.WiderBudget
import ChatMemory.Proofs.Engine.Addressing
import ChatMemory.Proofs.Engine.Restart
import ChatMemory.Proofs.Engine.SuppliedMessages
import ChatMemory.Proofs.Foreign.Requests
import ChatMemory.Proofs.Relevance.DocumentUpdates
import ChatMemory.Proofs.Relevance.LengthBound
import ChatMemory.Proofs.Search.Finding
import ChatMemory.Proofs.Search.Growth
import ChatMemory.Proofs.Session.Rebuilding
import ChatMemory.Proofs.Session.Reconciling
import ChatMemory.Proofs.Session.Report
import ChatMemory.Proofs.Settings.Overrides
import ChatMemory.Proofs.Store.ArrivalOrder
import ChatMemory.Proofs.Store.Commuting
import ChatMemory.Proofs.Store.Filing
import ChatMemory.Proofs.Store.Flushing
import ChatMemory.Proofs.Store.Opening
import ChatMemory.Proofs.Store.Pinning
import ChatMemory.Proofs.Store.StoppedSaves
import ChatMemory.Proofs.Text.Plurals
import ChatMemory.Settings.Loading
