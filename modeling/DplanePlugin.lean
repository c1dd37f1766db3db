import DplanePlugin.Lib.Prog
import DplanePlugin.Lib.Follows
import DplanePlugin.Lib.History
import DplanePlugin.Proto
import DplanePlugin.World
import DplanePlugin.Records
import DplanePlugin.RpcStats
import DplanePlugin.MsgCache
import DplanePlugin.Comm
import DplanePlugin.Requests
import DplanePlugin.Connect
import DplanePlugin.Responses
import DplanePlugin.Process
import DplanePlugin.Plugin
import DplanePlugin.Script
import DplanePlugin.Actions
import DplanePlugin.Refinement
import DplanePlugin.Typing
import DplanePlugin.Handshake
import DplanePlugin.Fifo
import DplanePlugin.Answering
import DplanePlugin.Contexts
import DplanePlugin.Completions
import DplanePlugin.Acceptance
import DplanePlugin.Wedge
import DplanePlugin.Handling
import DplanePlugin.ConnectAnswer
import DplanePlugin.Matching
import DplanePlugin.Drain
import DplanePlugin.Purge
import DplanePlugin.Lib.Avoids
import DplanePlugin.Faults
import DplanePlugin.Ownership
import DplanePlugin.Lib.Counters
import DplanePlugin.Statistics
import DplanePlugin.Events
import DplanePlugin.Notifications
import DplanePlugin.Dataplane
import DplanePlugin.Alignment
import DplanePlugin.Agreement
import DplanePlugin.Lib.Service
import DplanePlugin.Service
import DplanePlugin.Session
import DplanePlugin.Lib.Within
import DplanePlugin.Inner
import DplanePlugin.Callbacks
import DplanePlugin.Keepalive
import DplanePlugin.Display
import DplanePlugin.Processing
import DplanePlugin.Stuck
import DplanePlugin.Lib.Recursion
import DplanePlugin.Recursion
import DplanePlugin.Calm
import DplanePlugin.Recovery
import DplanePlugin.Allotment
import DplanePlugin.Finalize
import DplanePlugin.Nexthops
import DplanePlugin.Lib.CString
import DplanePlugin.SockPaths
import DplanePlugin.Lib.Strtok
import DplanePlugin.Tokenize
import DplanePlugin.Lib.GetOpt
import DplanePlugin.Options
