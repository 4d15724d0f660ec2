import Tchatator.Library.Bursts
import Tchatator.Library.Failover
import Tchatator.Library.Journal
import Tchatator.Library.Keyed
import Tchatator.Library.Ledger
import Tchatator.Library.Mailbox
import Tchatator.Library.OpenAddressing
import Tchatator.Library.Paging
import Tchatator.Library.Probing
import Tchatator.Library.Resources
import Tchatator.Library.Run
import Tchatator.Library.Stream
import Tchatator.Library.Ternary
import Tchatator.Library.Transaction
import Tchatator.Library.View
import Tchatator.Model.Action
import Tchatator.Model.ActionEvaluate
import Tchatator.Model.ActionJson
import Tchatator.Model.ActionParse
import Tchatator.Model.Bytes
import Tchatator.Model.Cfg
import Tchatator.Model.CfgFile
import Tchatator.Model.Client
import Tchatator.Model.ClientSession
import Tchatator.Model.Db
import Tchatator.Model.DynArray
import Tchatator.Model.Facade
import Tchatator.Model.HashMap
import Tchatator.Model.Interactive
import Tchatator.Model.Json
import Tchatator.Model.Log
import Tchatator.Model.Main
import Tchatator.Model.MainMemory
import Tchatator.Model.Memlst
import Tchatator.Model.Resources
import Tchatator.Model.Schema
import Tchatator.Model.Server
import Tchatator.Model.Slurp
import Tchatator.Model.Socket
import Tchatator.Model.Sql
import Tchatator.Model.TestData
import Tchatator.Model.Transaction
import Tchatator.Model.Triggers
import Tchatator.Model.Turnstile
import Tchatator.Model.TurnstileMap
import Tchatator.Model.Types
import Tchatator.Model.Uuid
import Tchatator.Model.WhoisNodes
import Tchatator.Model.WriteLoop
import Tchatator.Proof.ApiKeys
import Tchatator.Proof.Authentication
import Tchatator.Proof.Authorisation
import Tchatator.Proof.Batches
import Tchatator.Proof.Blocks
import Tchatator.Proof.Branches
import Tchatator.Proof.Causes
import Tchatator.Proof.ClientRequests
import Tchatator.Proof.ClientSession
import Tchatator.Proof.Commands
import Tchatator.Proof.Configuration
import Tchatator.Proof.ConnectionStrings
import Tchatator.Proof.Contact
import Tchatator.Proof.Deleted
import Tchatator.Proof.Deliveries
import Tchatator.Proof.DynArray
import Tchatator.Proof.Evaluation
import Tchatator.Proof.Forms
import Tchatator.Proof.HashIndex
import Tchatator.Proof.HashMap
import Tchatator.Proof.History
import Tchatator.Proof.Inbox
import Tchatator.Proof.Integers
import Tchatator.Proof.Interactive
import Tchatator.Proof.KeyResolution
import Tchatator.Proof.Limiter
import Tchatator.Proof.Log
import Tchatator.Proof.Mailboxes
import Tchatator.Proof.Main
import Tchatator.Proof.MainMemory
import Tchatator.Proof.Memlst
import Tchatator.Proof.MessageRows
import Tchatator.Proof.Messages
import Tchatator.Proof.OutRecords
import Tchatator.Proof.Ownership
import Tchatator.Proof.Pages
import Tchatator.Proof.Parsing
import Tchatator.Proof.Policy
import Tchatator.Proof.Promises
import Tchatator.Proof.Protocol
import Tchatator.Proof.RateLimit
import Tchatator.Proof.Readers
import Tchatator.Proof.Releases
import Tchatator.Proof.Reports
import Tchatator.Proof.Resources
import Tchatator.Proof.Responses
import Tchatator.Proof.Roles
import Tchatator.Proof.Runs
import Tchatator.Proof.Secrecy
import Tchatator.Proof.Secrets
import Tchatator.Proof.Serial
import Tchatator.Proof.Serving
import Tchatator.Proof.Shape
import Tchatator.Proof.Signals
import Tchatator.Proof.Slurp
import Tchatator.Proof.Statuses
import Tchatator.Proof.Texts
import Tchatator.Proof.Transactions
import Tchatator.Proof.Turnstile
import Tchatator.Proof.TurnstileMap
import Tchatator.Proof.UserKeys
import Tchatator.Proof.Uuid
import Tchatator.Proof.UuidAccess
import Tchatator.Proof.Verification
import Tchatator.Proof.ViewUpdates
import Tchatator.Proof.WhoisBodies
import Tchatator.Proof.WriteLoop
