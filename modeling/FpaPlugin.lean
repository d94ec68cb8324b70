import FpaPlugin.ArpIndices
import FpaPlugin.RouteCount
import FpaPlugin.RoutingAdmin
import FpaPlugin.RoutingFlows
import FpaPlugin.RoutingUnwind
import FpaPlugin.RoutingRemoval
import FpaPlugin.RouteReplace
import FpaPlugin.IpReconfigure
import FpaPlugin.PortRegistry
import FpaPlugin.PortLookup
import FpaPlugin.FdbMap
import FpaPlugin.MlearnBuffers
import FpaPlugin.MlearnTables
import FpaPlugin.MlearnRecords
import FpaPlugin.MlearnPorts
import FpaPlugin.RouteRefs
import FpaPlugin.GroupOwners
import FpaPlugin.VlanPasses
import FpaPlugin.VlanSync
import FpaPlugin.VlanView
import FpaPlugin.VlanLoops
import FpaPlugin.VlanHandover
import FpaPlugin.HostTable
import FpaPlugin.RouteMask
import FpaPlugin.HostUnwind
import FpaPlugin.InternalVlans
import FpaPlugin.BundleRemoval
import FpaPlugin.Tap
import FpaPlugin.TapMaps
import FpaPlugin.TapWrites
import FpaPlugin.Dev
import FpaPlugin.DevMutex
import FpaPlugin.DevCount
import FpaPlugin.ProtoNames
import FpaPlugin.RoutedVlan
import FpaPlugin.PrefixSyntax
import FpaPlugin.RouteMap
import FpaPlugin.HostLookups
import FpaPlugin.Lib.ByteMemory
import FpaPlugin.TapFrames
import FpaPlugin.TapForward
import FpaPlugin.TapReads
import FpaPlugin.Lib.HmapCursor
import FpaPlugin.PortDump
import FpaPlugin.TapDeinit
import FpaPlugin.SourceMacs
import FpaPlugin.FdbLookups
import FpaPlugin.PendingVlans
import FpaPlugin.MlearnMirror
import FpaPlugin.MlearnTimer
import FpaPlugin.PortFeatures
import FpaPlugin.NetdevTaps
import FpaPlugin.NetdevLinks
import FpaPlugin.NetdevPorts
import FpaPlugin.TapWatch
import FpaPlugin.IpText
import FpaPlugin.FdbText
import FpaPlugin.HostHit
import FpaPlugin.RoutingTable
