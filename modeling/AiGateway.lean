import AiGateway.Foundations.Interaction
import AiGateway.Foundations.ConditionalStore
import AiGateway.Foundations.Separators
import AiGateway.Accounting.QuotaCap
import AiGateway.Accounting.ExactlyOnce
import AiGateway.Accounting.QueueText
import AiGateway.Accounting.TrackedAgreement
import AiGateway.Accounting.LateReconciliation
import AiGateway.Accounting.Redelivery
import AiGateway.Accounting.FailedReserve
import AiGateway.Accounting.WindowPartition
import AiGateway.Streaming.FinalUsage
import AiGateway.Streaming.ChargedTotals
import AiGateway.Streaming.EventBoundaries
import AiGateway.Admission.RateLimit
import AiGateway.Admission.StreamSlots
import AiGateway.ProviderMock.EndToEndUsage
import AiGateway.ProviderMock.StreamShape
import AiGateway.Proxy.ContentNegotiation
import AiGateway.Proxy.ReservationBudget
import AiGateway.Proxy.KeyLimitReader
import AiGateway.Proxy.OpenAiRewriting
import AiGateway.Proxy.OrphanedReservations
import AiGateway.Proxy.SlotLifecycle
import AiGateway.Proxy.Billing
import AiGateway.Proxy.ResponseCharges
import AiGateway.Proxy.Shutdown
import AiGateway.Proxy.ConnectionHeaders
import AiGateway.Proxy.RequestBody
import AiGateway.Scripts.Teardown
