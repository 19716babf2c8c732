import HyperliquidSdk.Foundation.Bytes
import HyperliquidSdk.Foundation.TransitionSystem
import HyperliquidSdk.Foundation.History
import HyperliquidSdk.Foundation.Program
import HyperliquidSdk.Foundation.Throwing
import HyperliquidSdk.Foundation.Traversal
import HyperliquidSdk.Foundation.Registration
import HyperliquidSdk.Foundation.PrefixCode
import HyperliquidSdk.Foundation.MessagePack
import HyperliquidSdk.Foundation.MachineIntegers
import HyperliquidSdk.Foundation.Significand
import HyperliquidSdk.Foundation.Binary64
import HyperliquidSdk.Foundation.DoubleRounding
import HyperliquidSdk.Foundation.NumberText
import HyperliquidSdk.Foundation.Numeral
import HyperliquidSdk.Foundation.DecimalText
import HyperliquidSdk.Foundation.OrderedJson
import HyperliquidSdk.Foundation.OnDemand
import HyperliquidSdk.Foundation.ObjectReader
import HyperliquidSdk.Foundation.ObjectSearch
import HyperliquidSdk.Foundation.ReaderRuns
import HyperliquidSdk.Foundation.Utf8
import HyperliquidSdk.Foundation.Inflation
import HyperliquidSdk.Foundation.Relocation
import HyperliquidSdk.Foundation.Sponge
import HyperliquidSdk.Foundation.KeccakP
import HyperliquidSdk.Foundation.JsonText
import HyperliquidSdk.Types.RequestTypes
import HyperliquidSdk.Types.ResponseTypes
import HyperliquidSdk.Types.WebsocketTypes
import HyperliquidSdk.Messages.ExchangeRequestBuilder
import HyperliquidSdk.Messages.ExchangeRequest
import HyperliquidSdk.Messages.InfoRequest
import HyperliquidSdk.Messages.InfoRequestBuilder
import HyperliquidSdk.Messages.OrderWires
import HyperliquidSdk.Messages.UsdAmounts
import HyperliquidSdk.Messages.FloatToWire
import HyperliquidSdk.Messages.SymbolMapping
import HyperliquidSdk.Signing.Sha3
import HyperliquidSdk.Signing.SignatureScope
import HyperliquidSdk.Signing.NextNonce
import HyperliquidSdk.Signing.SigningHelpers
import HyperliquidSdk.Signing.Keccak
import HyperliquidSdk.Signing.HexCodec
import HyperliquidSdk.Signing.Keys
import HyperliquidSdk.Signing.Signing
import HyperliquidSdk.Signing.SignedBody
import HyperliquidSdk.Signing.VaultFallback
import HyperliquidSdk.Signing.L1Preimage
import HyperliquidSdk.Signing.FieldBinding
import HyperliquidSdk.Signing.SignedFields
import HyperliquidSdk.Rest.Decoder
import HyperliquidSdk.Rest.MarketParsers
import HyperliquidSdk.Rest.OutcomeParsers
import HyperliquidSdk.Rest.OrderParsers
import HyperliquidSdk.Rest.ExchangeParsers
import HyperliquidSdk.Rest.AccountParsers
import HyperliquidSdk.Rest.DecoderProperties
import HyperliquidSdk.Rest.DecoderRuns
import HyperliquidSdk.Rest.ListPositions
import HyperliquidSdk.Rest.SpotContexts
import HyperliquidSdk.Rest.OutcomeProperties
import HyperliquidSdk.Rest.OutcomeText
import HyperliquidSdk.Rest.WireShapes
import HyperliquidSdk.Rest.ShapeRuns
import HyperliquidSdk.Rest.ShapedParsers
import HyperliquidSdk.Rest.ShapedDocuments
import HyperliquidSdk.Rest.RestApi
import HyperliquidSdk.Rest.RestCalls
import HyperliquidSdk.Rest.RestApiMessageParser
import HyperliquidSdk.Websocket.PostRequests
import HyperliquidSdk.Websocket.SignAndSend
import HyperliquidSdk.Websocket.NonceOrder
import HyperliquidSdk.Websocket.PostResponseDispatch
import HyperliquidSdk.Websocket.PostResponseDispatchProperties
import HyperliquidSdk.Websocket.HostileResponses
import HyperliquidSdk.Websocket.TypedDispatch
import HyperliquidSdk.Websocket.PostCorrelation
import HyperliquidSdk.Websocket.WebsocketParsingUtils
import HyperliquidSdk.Websocket.WebsocketMessageParser
import HyperliquidSdk.Websocket.MessageIsolation
import HyperliquidSdk.Websocket.Base64
import HyperliquidSdk.Websocket.L2Books
import HyperliquidSdk.Websocket.StreamingEntries
import HyperliquidSdk.Websocket.Subscriptions
import HyperliquidSdk.Websocket.RestAgreement
import HyperliquidSdk.Websocket.TwapSliceFills
import HyperliquidSdk.Websocket.ClearinghouseStates
import HyperliquidSdk.Websocket.InflateLoop
import HyperliquidSdk.Websocket.FastAssetCtxs
import HyperliquidSdk.Websocket.WebsocketRunner
import HyperliquidSdk.Websocket.RunnerConnection
import HyperliquidSdk.Websocket.RunnerStop
import HyperliquidSdk.Websocket.RunnerBackoff
import HyperliquidSdk.Websocket.RunnerKeepalive
import HyperliquidSdk.Websocket.RunnerRecovery
import HyperliquidSdk.Websocket.RunnerReading
import HyperliquidSdk.Websocket.RunnerWriteQueue
import HyperliquidSdk.Websocket.RunnerMessages
import HyperliquidSdk.Websocket.OrphanedRequests
