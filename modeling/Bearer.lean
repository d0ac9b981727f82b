import Bearer.Builder
import Bearer.Client
import Bearer.Coding
import Bearer.Digest.Base64
import Bearer.Digest.Sha256
import Bearer.DomainName
import Bearer.DomainName.Label
import Bearer.DomainName.LabelData
import Bearer.DomainName.Punycode
import Bearer.Endpoint
import Bearer.Environment
import Bearer.Event
import Bearer.Exchange
import Bearer.Failure
import Bearer.Field
import Bearer.GivenToken
import Bearer.HttpClient
import Bearer.Issue
import Bearer.Json.Basic
import Bearer.Json.Reader
import Bearer.Json.Shown
import Bearer.Json.Writer
import Bearer.Level
import Bearer.Logging
import Bearer.Logging.Disk
import Bearer.Logging.FileName
import Bearer.Logging.Format
import Bearer.Metrics
import Bearer.Network
import Bearer.Number.Decimal
import Bearer.Number.Double
import Bearer.Number.Integer
import Bearer.Proofs.Acceptance
import Bearer.Proofs.Agreement
import Bearer.Proofs.Builder.Calls
import Bearer.Proofs.Builder.Modes
import Bearer.Proofs.Builder.Presets
import Bearer.Proofs.Call
import Bearer.Proofs.Digest.Base64
import Bearer.Proofs.Disclosure.Answer
import Bearer.Proofs.Disclosure.Token
import Bearer.Proofs.Endpoint.Destination
import Bearer.Proofs.Endpoint.Path
import Bearer.Proofs.Endpoint.Post
import Bearer.Proofs.Endpoint.Prefix
import Bearer.Proofs.Endpoint.Query
import Bearer.Proofs.Endpoint.Quoting
import Bearer.Proofs.Endpoint.Refusal
import Bearer.Proofs.Endpoint.Validity
import Bearer.Proofs.Except
import Bearer.Proofs.Exchange
import Bearer.Proofs.Execution
import Bearer.Proofs.Failures
import Bearer.Proofs.Fallback
import Bearer.Proofs.Fault
import Bearer.Proofs.GivenToken
import Bearer.Proofs.Https
import Bearer.Proofs.Journal
import Bearer.Proofs.Json
import Bearer.Proofs.Json.Grammar
import Bearer.Proofs.Json.Likeness
import Bearer.Proofs.Json.StringLiteral
import Bearer.Proofs.Lifecycle
import Bearer.Proofs.Likeness
import Bearer.Proofs.Limit
import Bearer.Proofs.Logging
import Bearer.Proofs.Logging.Disk
import Bearer.Proofs.Masking
import Bearer.Proofs.Metrics
import Bearer.Proofs.Metrics.Requests
import Bearer.Proofs.Metrics.ServiceCalls
import Bearer.Proofs.Network
import Bearer.Proofs.Number.Integer
import Bearer.Proofs.Number.Nearest
import Bearer.Proofs.Number.Order
import Bearer.Proofs.Number.Rounding
import Bearer.Proofs.Padding
import Bearer.Proofs.Retry
import Bearer.Proofs.Retry.Budget
import Bearer.Proofs.Retry.Loop
import Bearer.Proofs.Retry.Wait
import Bearer.Proofs.Runs
import Bearer.Proofs.Settings
import Bearer.Proofs.Settings.Acceptance
import Bearer.Proofs.Span
import Bearer.Proofs.Text.Blank
import Bearer.Proofs.Text.Case
import Bearer.Proofs.Text.CodePoint
import Bearer.Proofs.Text.Pieces
import Bearer.Proofs.Text.Utf8
import Bearer.Proofs.TokenInfo.Expiry
import Bearer.Proofs.TokenInfo.Grammar
import Bearer.Proofs.TokenInfo.Likeness
import Bearer.Proofs.TokenInfo.RoundTrip
import Bearer.Proofs.TokenInfo.Strictness
import Bearer.Proofs.Url.Form
import Bearer.Proofs.Url.Host
import Bearer.Proofs.Url.Percent
import Bearer.Proofs.Url.Reader
import Bearer.Proxy
import Bearer.Redirect
import Bearer.Response
import Bearer.Retry
import Bearer.Session
import Bearer.Settings
import Bearer.Submission
import Bearer.Text.Blank
import Bearer.Text.Case
import Bearer.Text.CaseData
import Bearer.Text.CodePoint
import Bearer.Text.Composed
import Bearer.Text.ComposedData
import Bearer.Text.Hex
import Bearer.Text.Pieces
import Bearer.Text.PrintableData
import Bearer.Text.Quoted
import Bearer.Text.Table
import Bearer.Text.Utf8
import Bearer.Token
import Bearer.TokenInfo
import Bearer.TokenInfo.Parser
import Bearer.Trace
import Bearer.Url.Address
import Bearer.Url.Basic
import Bearer.Url.Form
import Bearer.Url.Join
import Bearer.Url.Percent
import Bearer.Url.Reader
