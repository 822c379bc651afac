import HvacCache.CachePolicy
import HvacCache.PolicyHistory
import HvacCache.Admission
import HvacCache.TierMoves
import HvacCache.Eviction
import HvacCache.PolicyLock
import HvacCache.RpcBlock
import HvacCache.AddressFile
import HvacCache.AddressRoundTrip
import HvacCache.DataMover
import HvacCache.Redirection
import HvacCache.Descriptors
import HvacCache.TrackedPaths
import HvacCache.OpenFailure
import HvacCache.DescriptorReuse
import HvacCache.FreshDescriptor
import HvacCache.Library.Cursors
import HvacCache.ReadFallback
import HvacCache.ReadArguments
import HvacCache.ReadTransparency
import HvacCache.SeekConsistency
import HvacCache.ReadYourWrites
import HvacCache.MultiSourceRead
import HvacCache.RemoteSeek
import HvacCache.HostSelection
import HvacCache.PolicyInit
import HvacCache.Library.CriticalSection
import HvacCache.PolicyThreads
import HvacCache.AddressRegistration
import HvacCache.ServerRoster
import HvacCache.CachePartition
import HvacCache.DescriptorLeaks
import HvacCache.Library.Sessions
import HvacCache.FileSessions
import HvacCache.ServerSettling
import HvacCache.Library.TieredStore
import HvacCache.PolicyStore
import HvacCache.Library.EventLoop
import HvacCache.ProgressLoop
import HvacCache.ServerProgress
import HvacCache.ClientProgress
