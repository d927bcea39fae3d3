import SpritexPay.Access
import SpritexPay.AccessProperties
import SpritexPay.AccountabilityProperties
import SpritexPay.AcknowledgementProperties
import SpritexPay.Activity
import SpritexPay.ActivityProperties
import SpritexPay.Administration
import SpritexPay.AdministrationProperties
import SpritexPay.Ai
import SpritexPay.AmountProperties
import SpritexPay.AnnouncementProperties
import SpritexPay.AnswerProperties
import SpritexPay.Api
import SpritexPay.ApiProperties
import SpritexPay.Arrivals
import SpritexPay.AuthorityProperties
import SpritexPay.Binary64
import SpritexPay.Books
import SpritexPay.BooksProperties
import SpritexPay.Charge
import SpritexPay.Checkout
import SpritexPay.CheckoutAmountProperties
import SpritexPay.CheckoutPage
import SpritexPay.CheckoutPageProperties
import SpritexPay.CheckoutProperties
import SpritexPay.CollectionProperties
import SpritexPay.ConfidentialityProperties
import SpritexPay.ConfirmationProperties
import SpritexPay.Console
import SpritexPay.ConversionProperties
import SpritexPay.Crates
import SpritexPay.CreditProperties
import SpritexPay.Crypto
import SpritexPay.CurrencyProperties
import SpritexPay.DeviceProperties
import SpritexPay.DisclosureProperties
import SpritexPay.Dispatch
import SpritexPay.DispatchProperties
import SpritexPay.DisplayProperties
import SpritexPay.Drafting
import SpritexPay.DraftingProperties
import SpritexPay.EscapeProperties
import SpritexPay.Evolution
import SpritexPay.Fraud
import SpritexPay.FraudProperties
import SpritexPay.FulfilmentProperties
import SpritexPay.Gateway
import SpritexPay.HandlerProperties
import SpritexPay.Handlers
import SpritexPay.Http
import SpritexPay.Hundredths
import SpritexPay.Ingestion
import SpritexPay.IntegrityProperties
import SpritexPay.InterferenceProperties
import SpritexPay.IntroductionProperties
import SpritexPay.Invoice
import SpritexPay.Keyed.Computation
import SpritexPay.Ledger
import SpritexPay.LedgerProperties
import SpritexPay.LinkProperties
import SpritexPay.MatcherProperties
import SpritexPay.Merchant
import SpritexPay.MerchantProperties
import SpritexPay.MessageProperties
import SpritexPay.MintingProperties
import SpritexPay.MsisdnProperties
import SpritexPay.OpeningProperties
import SpritexPay.OutboundProperties
import SpritexPay.OutlierProperties
import SpritexPay.PairingProperties
import SpritexPay.Pattern
import SpritexPay.PatternLanguage
import SpritexPay.PatternProperties
import SpritexPay.PaymentLink
import SpritexPay.RaceProperties
import SpritexPay.ReadingProperties
import SpritexPay.Reconcile
import SpritexPay.RecoveryProperties
import SpritexPay.Redaction
import SpritexPay.RedeliveryProperties
import SpritexPay.RefusalProperties
import SpritexPay.ReissueProperties
import SpritexPay.Relational.Groups
import SpritexPay.Relational.Growth
import SpritexPay.Relational.Page
import SpritexPay.Relational.Table
import SpritexPay.Relational.Total
import SpritexPay.ReplayProperties
import SpritexPay.ReplyProperties
import SpritexPay.Representation
import SpritexPay.ResettlementProperties
import SpritexPay.Resumption.Annex
import SpritexPay.Resumption.Beside
import SpritexPay.Resumption.Daemon
import SpritexPay.Resumption.Failing
import SpritexPay.Resumption.Gate
import SpritexPay.Resumption.Interruption
import SpritexPay.Resumption.Invariant
import SpritexPay.Resumption.Lockstep
import SpritexPay.Resumption.Milestone
import SpritexPay.Resumption.Pool
import SpritexPay.Resumption.Program
import SpritexPay.Resumption.Protocol
import SpritexPay.Resumption.Purge
import SpritexPay.Resumption.Rely
import SpritexPay.Resumption.Seclusion
import SpritexPay.Resumption.Transcript
import SpritexPay.Rounding
import SpritexPay.Roundtrip
import SpritexPay.Schema
import SpritexPay.Serving
import SpritexPay.Settings
import SpritexPay.SettingsProperties
import SpritexPay.SettleableProperties
import SpritexPay.Settlement
import SpritexPay.SettlementProperties
import SpritexPay.SettlementProtocol
import SpritexPay.SettlementSafety
import SpritexPay.SignatureProperties
import SpritexPay.Sms
import SpritexPay.SmsProperties
import SpritexPay.Statement
import SpritexPay.StatementProperties
import SpritexPay.Steadiness
import SpritexPay.Suggestion
import SpritexPay.SummaryProperties
import SpritexPay.SurfaceProperties
import SpritexPay.Textual.Escape
import SpritexPay.Textual.Format
import SpritexPay.Textual.Like
import SpritexPay.Textual.Slice
import SpritexPay.TokenProperties
import SpritexPay.TotalProperties
import SpritexPay.Uri
import SpritexPay.VerificationProperties
import SpritexPay.Webhook
import SpritexPay.WhitelistProperties
