import LiquidityClient.Main
import LiquidityClient.Redacted
import LiquidityClient.Proofs.Transcript
import LiquidityClient.Proofs.PaymentRounds
import LiquidityClient.Proofs.RedeemScript
import LiquidityClient.Proofs.Script.Evaluation
import LiquidityClient.Proofs.SpendingConditions
import LiquidityClient.Proofs.DerSignature
import LiquidityClient.Proofs.Script.WitnessSpend
import LiquidityClient.Proofs.RefundBuild
import LiquidityClient.Proofs.RefundSpendable
import LiquidityClient.Proofs.TransactionSize
import LiquidityClient.Proofs.RefundAccounts
import LiquidityClient.Proofs.RefundWeight
import LiquidityClient.Proofs.RouteConsistency
import LiquidityClient.Proofs.SentRoutes
import LiquidityClient.Proofs.Interleaving
import LiquidityClient.Proofs.RebalancePhases
import LiquidityClient.Proofs.FieldPrime
import LiquidityClient.Proofs.CompressedKey
import LiquidityClient.Proofs.WitnessAddress
import LiquidityClient.Proofs.ScriptParameters
import LiquidityClient.Proofs.SwapRegistration
import LiquidityClient.Proofs.RebalanceRequests
import LiquidityClient.Proofs.Operations
import LiquidityClient.Proofs.RefundIndependence
import LiquidityClient.Proofs.ExcludedEdges
import LiquidityClient.Proofs.SessionSteps
import LiquidityClient.Proofs.ClientCalls
import LiquidityClient.Proofs.SessionCache
import LiquidityClient.Proofs.RebalanceTransfer
import LiquidityClient.Proofs.RebalanceTarget
import LiquidityClient.Proofs.CurveGroup
import LiquidityClient.Proofs.KeyAgreement
import LiquidityClient.Proofs.LocalHop
import LiquidityClient.Proofs.SealedEnvelope
import LiquidityClient.Proofs.Wire.FieldText
import LiquidityClient.Proofs.Wire.Merging
import LiquidityClient.Proofs.Wire.RoundTrip
import LiquidityClient.Proofs.Wire.Extension
import LiquidityClient.Proofs.PaymentRegistration
import LiquidityClient.Proofs.RegisteredAmounts
import LiquidityClient.Proofs.PaymentSettlement
import LiquidityClient.Proofs.FailureReports
import LiquidityClient.Proofs.RebalanceClosing
import LiquidityClient.Proofs.SessionIdentity
import LiquidityClient.Proofs.RouteDocument
import LiquidityClient.Proofs.ServiceFee
import LiquidityClient.Proofs.RefundBroadcast
import LiquidityClient.Proofs.ConfigurationFiles
import LiquidityClient.Proofs.DigitTexts
import LiquidityClient.Proofs.NumberFields
import LiquidityClient.Proofs.ReceivableAmounts
import LiquidityClient.Proofs.ChannelPoints
