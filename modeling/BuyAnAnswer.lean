import BuyAnAnswer.Core.Transaction
import BuyAnAnswer.Core.Ledger
import BuyAnAnswer.Core.Machine
import BuyAnAnswer.Core.Reordering
import BuyAnAnswer.Contract.Types
import BuyAnAnswer.Contract.OpenZeppelin
import BuyAnAnswer.Contract.World
import BuyAnAnswer.Contract.Escrow
import BuyAnAnswer.Contract.Effects
import BuyAnAnswer.Contract.Calls
import BuyAnAnswer.Contract.Interference
import BuyAnAnswer.Contract.Books
import BuyAnAnswer.Contract.Execution
import BuyAnAnswer.Contract.PlainToken
import BuyAnAnswer.Contract.Solvency
import BuyAnAnswer.Contract.Reentrancy
import BuyAnAnswer.Contract.Session
import BuyAnAnswer.Contract.Lifecycle
import BuyAnAnswer.Contract.EventLog
import BuyAnAnswer.Contract.Settlement
import BuyAnAnswer.Contract.Custody
import BuyAnAnswer.Contract.Operator
import BuyAnAnswer.Contract.Interleaving
import BuyAnAnswer.Contract.Recovery
import BuyAnAnswer.Core.Table
import BuyAnAnswer.Core.Text
import BuyAnAnswer.Shared.Ref
import BuyAnAnswer.Shared.Schema
import BuyAnAnswer.Indexer.Events
import BuyAnAnswer.Indexer.Reconcile
import BuyAnAnswer.Api.Schemas
import BuyAnAnswer.Contract.History
import BuyAnAnswer.WorkerKit.Idempotency
import BuyAnAnswer.Api.Questions
import BuyAnAnswer.Platform.System
import BuyAnAnswer.Platform.Mirror
import BuyAnAnswer.Platform.Payment
import BuyAnAnswer.Core.Pool
import BuyAnAnswer.Workers.Statements
import BuyAnAnswer.Workers.Cloud
import BuyAnAnswer.Workers.Passes
import BuyAnAnswer.Api.Presenters
import BuyAnAnswer.Workers.Routes
import BuyAnAnswer.Workers.System
import BuyAnAnswer.Workers.Cursor
import BuyAnAnswer.Workers.Rules
import BuyAnAnswer.Workers.Rows
import BuyAnAnswer.Workers.Answers
import BuyAnAnswer.Workers.Sweep
import BuyAnAnswer.Workers.Emission
import BuyAnAnswer.Workers.Acceptance
import BuyAnAnswer.Core.Replay
import BuyAnAnswer.Workers.Convergence
import BuyAnAnswer.Core.Credit
import BuyAnAnswer.Workers.Counting
import BuyAnAnswer.Core.Hex
import BuyAnAnswer.Shared.RefCodec
import BuyAnAnswer.Contract.Permit
import BuyAnAnswer.Core.Paging
import BuyAnAnswer.Workers.Requests
import BuyAnAnswer.Web.QuestionList
import BuyAnAnswer.Workers.RateLimit
import BuyAnAnswer.Workers.Backlog
import BuyAnAnswer.Workers.Retries
import BuyAnAnswer.Core.Tiling
import BuyAnAnswer.Workers.Backfill
import BuyAnAnswer.Workers.Validation
import BuyAnAnswer.Workers.SignIn
import BuyAnAnswer.Workers.Nonces
import BuyAnAnswer.Workers.Authority
import BuyAnAnswer.Core.Numeral
import BuyAnAnswer.Web.Usdc
import BuyAnAnswer.Web.ProfileEditor
import BuyAnAnswer.Web.Allowance
import BuyAnAnswer.Core.Component
import BuyAnAnswer.Web.Chains
import BuyAnAnswer.Web.SettleAction
import BuyAnAnswer.Web.AskAndPay
import BuyAnAnswer.Web.OwnChain
import BuyAnAnswer.Web.PayOnce
import BuyAnAnswer.Core.Unwinding
import BuyAnAnswer.Workers.Noninterference
import BuyAnAnswer.Workers.Paywall
import BuyAnAnswer.Core.Conduct
import BuyAnAnswer.Core.Tally
import BuyAnAnswer.Workers.Footprint
import BuyAnAnswer.Workers.Profiles
import BuyAnAnswer.Core.Percent
import BuyAnAnswer.Web.Handle
import BuyAnAnswer.Web.Boards
import BuyAnAnswer.Workers.Cards
import BuyAnAnswer.Web.Status
import BuyAnAnswer.Platform.Offers
import BuyAnAnswer.Workers.Quota
import BuyAnAnswer.Workers.Outcomes
import BuyAnAnswer.Core.Tags
import BuyAnAnswer.Platform.AnswerPage
import BuyAnAnswer.Web.Presentable
import BuyAnAnswer.Web.Forms
import BuyAnAnswer.Platform.Submissions
