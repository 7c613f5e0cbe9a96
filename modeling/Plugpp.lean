import Plugpp.Runs
import Plugpp.Bytes
import Plugpp.Code
import Plugpp.UserInfo
import Plugpp.Lexer
import Plugpp.QuotedArgs
import Plugpp.Command
import Plugpp.Directory
import Plugpp.Slots
import Plugpp.CommandRuns
import Plugpp.Buffers
import Plugpp.Plugin
import Plugpp.PluginEntry
import Plugpp.Barrier
import Plugpp.Answers
import Plugpp.Kicks
import Plugpp.Rounds
import Plugpp.Verdicts
import Plugpp.Ownership
import Plugpp.Lifecycle
import Plugpp.AddressText
import Plugpp.Clients
import Plugpp.Join
import Plugpp.Lookups
import Plugpp.Messages
import Plugpp.NetAddr
import Plugpp.TimeDuration
import Plugpp.Trim
import Plugpp.Tokenize
import Plugpp.ReplaceAll
import Plugpp.QuotedArgsInvariant
import Plugpp.DurationText
import Plugpp.CmdLine
import Plugpp.Colours
import Plugpp.Denials
import Plugpp.AuthWrites
import Plugpp.AccessGranted
import Plugpp.Refinement
import Plugpp.Scopes
import Plugpp.History
import Plugpp.Calls
import Plugpp.Sessions
import Plugpp.Failures
import Plugpp.Server
import Plugpp.Attributes
import Plugpp.Condensed
import Plugpp.Affixes
import Plugpp.Handles
import Plugpp.Words
import Plugpp.Placement
import Plugpp.LoadOrder
import Plugpp.Stores
