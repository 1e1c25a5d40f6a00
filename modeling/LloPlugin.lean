import LloPlugin.GoMap
import LloPlugin.Basic
import LloPlugin.Outcome
import LloPlugin.Observation
import LloPlugin.Tally
import LloPlugin.Run
import LloPlugin.Lifecycle
import LloPlugin.Channels
import LloPlugin.Reports
import LloPlugin.Capacity
import LloPlugin.Windows
import LloPlugin.Determinism
import LloPlugin.Medians
import LloPlugin.Validation
import LloPlugin.Reconcile
import LloPlugin.Votes
import LloPlugin.ChannelHash
import LloPlugin.ObservationOrder
import LloPlugin.Retirement
import LloPlugin.Progress
import LloPlugin.FaultyMinority
import LloPlugin.FaultyReconcile
import LloPlugin.Agreement
import LloPlugin.Liveness
