import RunenNet.Core.Replication.Agreement
import RunenNet.Core.Replication.AuthorityRelease
import RunenNet.Core.Replication.ClientSafety
import RunenNet.Core.Delivery.ReliableDelivery
import RunenNet.Quic.Establishment
import RunenNet.Quic.Termination
import RunenNet.Quic.NegotiationCodec
import RunenNet.Core.SessionSafety
import RunenNet.Core.Input.AuthorityAccounting
import RunenNet.Core.Input.PredictionFrontier
import RunenNet.Core.Delivery.Conservation
import RunenNet.Core.Delivery.SequencedFlow
import RunenNet.Core.NegotiationRun
import RunenNet.Quic.Envelope
import RunenNet.Quic.ControlCodec
import RunenNet.Quic.ProposalCodec
import RunenNet.Quic.RegistryConsistency
import RunenNet.Quic.ExchangeOwnership
import RunenNet.Quic.IncomingDecision
import RunenNet.Quic.FinishRun
import RunenNet.Quic.WireLaws
import RunenNet.Core.Delivery.Isolation
import RunenNet.Quic.DatagramCustody
import RunenNet.Quic.ReliableDecoder
import RunenNet.Quic.FlowAtomicity
import RunenNet.Quic.ControlOrder
import RunenNet.Quic.StreamRun
import RunenNet.Quic.StreamClose
import RunenNet.Quic.HonestExchange
import RunenNet.Quic.NegotiationAgreement
import RunenNet.Quic.FailedStream
import RunenNet.Quic.Lifecycle
import RunenNet.Quic.ProfileBootstrap
import RunenNet.Quic.BootstrapAgreement
import RunenNet.Quic.DatagramDelivery
import RunenNet.Quic.DatagramFairness
