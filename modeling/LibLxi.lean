import LibLxi.OwnedHandles
import LibLxi.BrowserTable
import LibLxi.LinkErrors
import LibLxi.RawFailures
import LibLxi.ReadOverrun
import LibLxi.Reassembly
import LibLxi.RawReceive
import LibLxi.RawSend
import LibLxi.SessionMap
import LibLxi.HandleGuard
import LibLxi.SelectLimit
import LibLxi.JoinDeadlock
import LibLxi.DiscoveryStatus
import LibLxi.SearchSockets
import LibLxi.ServiceCallbacks
import LibLxi.LinkProtocol
import LibLxi.AbandonedLinks
import LibLxi.TransferBounds
import LibLxi.ConnectDeadline
import LibLxi.ReadTermination
import LibLxi.ProbeExits
import LibLxi.DiscoverAnswers
import LibLxi.IdBounds
import LibLxi.XmlFallback
import LibLxi.ProbeSockets
import LibLxi.ErrorStream
import LibLxi.BrowseRefs
import LibLxi.WriteLimit
import LibLxi.RemoteIsolation
import LibLxi.RemoteSearch
import LibLxi.Linearization
import LibLxi.Reinit
import LibLxi.DnssdLoader
import LibLxi.AvahiLoop
