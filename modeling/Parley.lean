import Parley.Text.Blank
import Parley.Text.Digits
import Parley.Text.Utf8
import Parley.Text.Base64
import Parley.Text.Hidden
import Parley.Text.Quoted
import Parley.Text.Similar
import Parley.Decimal.Shortest
import Parley.Time.Calendar
import Parley.Time.Instant
import Parley.Time.Notation
import Parley.Time.Reading
import Parley.Json.Problem
import Parley.Json.Reading
import Parley.Json.Number
import Parley.Json.Skip
import Parley.Json.Record
import Parley.Json.Writing
import Parley.Message
import Parley.Message.Writing
import Parley.Message.Reading
import Parley.Failure
import Parley.Credentials
import Parley.Frame
import Parley.Host
import Parley.Url
import Parley.Url.Escape
import Parley.Url.Form
import Parley.Url.Reading
import Parley.Url.Resolve
import Parley.Http
import Parley.Http.Status
import Parley.Http.Target
import Parley.Http.Exchange
import Parley.Network
import Parley.Server
import Parley.Server.Answers
import Parley.Server.Calls
import Parley.Socket.Frame
import Parley.Socket.Endpoint
import Parley.Socket.Handshake
import Parley.Connection
import Parley.Connection.Reader
import Parley.Connection.Link
import Parley.Connection.Tasks
import Parley.Client
import Parley.Client.Turn
import Parley.Client.Tasks
import Parley.Shell.ChatId
import Parley.Shell.Flag
import Parley.Shell.Arguments
import Parley.Shell.Display
import Parley.Shell.Input
import Parley.Shell.Log
import Parley.Shell.Talk
import Parley.Shell.Program
import Parley.Shell.Desk
import Parley.Main
import Parley.Proofs.Digits
import Parley.Proofs.Calendar
import Parley.Proofs.InstantText
import Parley.Proofs.Document
import Parley.Proofs.Token
import Parley.Proofs.Skipping
import Parley.Proofs.Typed
import Parley.Proofs.Members
import Parley.Proofs.Record
import Parley.Proofs.Written
import Parley.Proofs.MessageForm
import Parley.Proofs.Frame
import Parley.Proofs.Reader
import Parley.Proofs.MovedPhase
import Parley.Proofs.Link
import Parley.Proofs.Manager
import Parley.Proofs.Ledger
import Parley.Proofs.SharedPhase
import Parley.Proofs.Session
import Parley.Proofs.Client
import Parley.Proofs.FailedConnect
import Parley.Proofs.Wire
import Parley.Proofs.Interleaving
import Parley.Proofs.Events
import Parley.Proofs.Handles
import Parley.Proofs.Dialing
import Parley.Proofs.Owner
import Parley.Proofs.SentLog
import Parley.Proofs.Query
import Parley.Proofs.HostText
import Parley.Proofs.Place
import Parley.Proofs.Script
import Parley.Proofs.Stages
import Parley.Proofs.Splice
import Parley.Proofs.ReceivedLog
import Parley.Proofs.Stirring
import Parley.Proofs.Moves
import Parley.Proofs.Schedules
import Parley.Proofs.Settling
import Parley.Proofs.Answers
import Parley.Proofs.LoginHeader
import Parley.Proofs.HostColon
import Parley.Proofs.Authority
import Parley.Proofs.Endpoints
import Parley.Proofs.ChatToken
import Parley.Proofs.Unambiguous
import Parley.Proofs.FrameShape
import Parley.Proofs.Reports
import Parley.Proofs.Lines
import Parley.Proofs.Conversation
import Parley.Proofs.Desk
import Parley.Proofs.MillisText
import Parley.Proofs.Asking
import Parley.Proofs.Password
import Parley.Proofs.Audience
import Parley.Proofs.Interludes
import Parley.Proofs.Beside
import Parley.Proofs.Abreast
import Parley.Proofs.BesideClient
import Parley.Proofs.Unnoticed
