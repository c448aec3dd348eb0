import SessionMux.Wire.Stream
import SessionMux.Monitor.Alarm.Record
import SessionMux.Monitor.Dispatch
import SessionMux.Host.News
import SessionMux.Connect.Script
import SessionMux.Command.ForwardRule
import SessionMux.Settings.Load
import SessionMux.Log.Changes
import SessionMux.Log.Filter
import SessionMux.Command.Arguments
import SessionMux.Link.Security
import SessionMux.Manager.Run
import SessionMux.Settings.Record
import SessionMux.Command.Service
import SessionMux.Main
import SessionMux.Proofs.Wire.Chunking
import SessionMux.Proofs.Wire.RoundTrip
import SessionMux.Proofs.Wire.Language
import SessionMux.Proofs.Wire.Limits
import SessionMux.Proofs.Channel.Truthful
import SessionMux.Proofs.Host.Ledger
import SessionMux.Proofs.Host.Run
import SessionMux.Proofs.Host.Trace
import SessionMux.Proofs.Peers.Lane
import SessionMux.Proofs.Peers.Phase
import SessionMux.Proofs.Peers.Heard
import SessionMux.Proofs.Peers.View
import SessionMux.Proofs.Peers.System
import SessionMux.Proofs.Peers.Acknowledged
import SessionMux.Proofs.Peers.Agreement
import SessionMux.Proofs.Peers.Closing
import SessionMux.Proofs.Peers.Exchange
import SessionMux.Proofs.Connect.Resolution
import SessionMux.Proofs.Connect.Breakdown
import SessionMux.Proofs.Connect.Custody
import SessionMux.Proofs.Channel.Duplicates
import SessionMux.Proofs.Channel.Register
import SessionMux.Proofs.Channel.Endings
import SessionMux.Proofs.Host.Tasks
import SessionMux.Proofs.Host.Effect
import SessionMux.Proofs.Host.Waits
import SessionMux.Proofs.Host.Verdict
import SessionMux.Proofs.Host.Handle
import SessionMux.Proofs.Channel.Delivery
import SessionMux.Proofs.Host.Release
import SessionMux.Proofs.Manager.Table
import SessionMux.Proofs.Channel.Alerts
import SessionMux.Proofs.Host.Rest
import SessionMux.Proofs.Host.Wake
import SessionMux.Proofs.Host.Delivery
import SessionMux.Proofs.Channel.Outgoing
import SessionMux.Proofs.Host.Outgoing
import SessionMux.Proofs.Channel.Balance
import SessionMux.Proofs.Host.Balance
import SessionMux.Proofs.Channel.Failure
import SessionMux.Proofs.Host.Failure
import SessionMux.Proofs.Channel.Isolation
import SessionMux.Proofs.Host.Replies
import SessionMux.Proofs.Monitor.Delivery
import SessionMux.Proofs.Channel.Deeds
import SessionMux.Proofs.Link.Connection
import SessionMux.Proofs.Host.Deeds
import SessionMux.Proofs.Host.Course
import SessionMux.Proofs.Host.LastWord
import SessionMux.Proofs.Link.Reading
import SessionMux.Proofs.Host.Intake
import SessionMux.Proofs.Link.Writing
import SessionMux.Proofs.Host.Output
import SessionMux.Proofs.Channel.Spared
import SessionMux.Proofs.Host.Events
import SessionMux.Proofs.Host.Forwards
import SessionMux.Proofs.Forward.Passage
import SessionMux.Proofs.Host.Bridge
import SessionMux.Proofs.Host.Forwarding
import SessionMux.Proofs.Monitor.Window
import SessionMux.Proofs.Host.Numbering
import SessionMux.Proofs.Host.Draining
import SessionMux.Proofs.Connect.Budget
import SessionMux.Proofs.Host.Datagrams
import SessionMux.Proofs.Wire.Decoders
import SessionMux.Proofs.Wire.Appending
import SessionMux.Proofs.Host.Crossing
import SessionMux.Proofs.Channel.Attended
import SessionMux.Proofs.Host.Dismissal
import SessionMux.Proofs.Manager.Redial
import SessionMux.Proofs.Command.ForwardRule
