import HostLookup.Address
import HostLookup.Address.Parser
import HostLookup.Address.Printer
import HostLookup.Blocking
import HostLookup.Blocking.Operation
import HostLookup.Engine
import HostLookup.Engine.Channel
import HostLookup.Engine.Directory
import HostLookup.Engine.Domain
import HostLookup.Engine.Session
import HostLookup.Engine.Workload
import HostLookup.Error
import HostLookup.Fault
import HostLookup.Host
import HostLookup.Hub
import HostLookup.Hub.Session
import HostLookup.Hub.Step
import HostLookup.Idna.Direction
import HostLookup.Idna.Joiner
import HostLookup.Idna.Mapping
import HostLookup.Idna.MappingTable
import HostLookup.Idna.Name
import HostLookup.Idna.NormalForm
import HostLookup.Idna.NormalTable
import HostLookup.Idna.PropertyTable
import HostLookup.Idna.Punycode
import HostLookup.NameInfo
import HostLookup.Operation
import HostLookup.Platform
import HostLookup.Platform.Literal
import HostLookup.Platform.Service
import HostLookup.Query
import HostLookup.Record
import HostLookup.Rendezvous
import HostLookup.Resolver.Builder
import HostLookup.Resolver.Lifecycle
import HostLookup.Resolver.Live
import HostLookup.Resolver.Printer
import HostLookup.Resolver.State
import HostLookup.Resolver.Step
import HostLookup.Script
import HostLookup.Script.Scene
import HostLookup.Script.Session
import HostLookup.Service
import HostLookup.Settings
import HostLookup.Settings.Duration
import HostLookup.Settings.Printer
import HostLookup.Settings.Seconds
import HostLookup.Socket
import HostLookup.Text.Blank
import HostLookup.Text.Description
import HostLookup.Text.Numeral
import HostLookup.Text.Numeric
import HostLookup.Text.Packed
import HostLookup.Text.Quoted
import HostLookup.Text.Quoted.Hidden
import HostLookup.Text.Utf8
import HostLookup.Proofs.Custody
import HostLookup.Proofs.Frame
import HostLookup.Proofs.Reachable
import HostLookup.Proofs.Ownership
import HostLookup.Proofs.History
import HostLookup.Proofs.Flow
import HostLookup.Proofs.Journal
import HostLookup.Proofs.Plans
import HostLookup.Proofs.Course
import HostLookup.Proofs.Shift
import HostLookup.Proofs.Coherence
import HostLookup.Proofs.Retry
import HostLookup.Proofs.Dispatch
import HostLookup.Proofs.Attendance
import HostLookup.Proofs.Teardown
import HostLookup.Proofs.Freshness
import HostLookup.Proofs.Waking
import HostLookup.Proofs.Stranding
import HostLookup.Proofs.Bystanders
import HostLookup.Proofs.Transcript
import HostLookup.Proofs.Moves
import HostLookup.Proofs.Steady
import HostLookup.Proofs.Closing
import HostLookup.Proofs.Replies
import HostLookup.Proofs.Independence
import HostLookup.Proofs.Queueing
import HostLookup.Proofs.Notices
import HostLookup.Proofs.Walk
import HostLookup.Proofs.Outcomes
import HostLookup.Proofs.Bypass
import HostLookup.Proofs.Origins
import HostLookup.Proofs.Families
import HostLookup.Proofs.Brevity
import HostLookup.Proofs.Sessions
import HostLookup.Proofs.Draining
import HostLookup.Proofs.Handover
import HostLookup.Proofs.Refusals
import HostLookup.Proofs.Reverse
import HostLookup.Proofs.Numerals
import HostLookup.Proofs.Literals
import HostLookup.Proofs.BuiltIn
import HostLookup.Proofs.Tasks
import HostLookup.Proofs.Tracking
import HostLookup.Proofs.ServiceTexts
import HostLookup.Proofs.Aftermath
import HostLookup.Proofs.Tokens
import HostLookup.Proofs.Defaults
import HostLookup.Proofs.Answers
import HostLookup.Proofs.Redirection
import HostLookup.Proofs.Endpoints
import HostLookup.Proofs.Expansion
import HostLookup.Proofs.Requests
import HostLookup.Proofs.Entries
import HostLookup.Proofs.Emptiness
import HostLookup.Proofs.Admission
import HostLookup.Proofs.Ports
import HostLookup.Proofs.ServerLists
import HostLookup.Proofs.ServiceGrammar
import HostLookup.Proofs.EmptyNames
import HostLookup.Proofs.Gathering
import HostLookup.Proofs.Elements
