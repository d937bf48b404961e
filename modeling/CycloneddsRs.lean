import CycloneddsRs.StepRuns
import CycloneddsRs.ScatterGather
import CycloneddsRs.Serdes
import CycloneddsRs.Serdata
import CycloneddsRs.SampleHeap
import CycloneddsRs.SampleLedger
import CycloneddsRs.InstanceIdentity
import CycloneddsRs.Transports
import CycloneddsRs.AbsenceWatch
import CycloneddsRs.AbsenceRuns
import CycloneddsRs.AbsenceNotification
import CycloneddsRs.Watchdog
import CycloneddsRs.KeyedGraph
import CycloneddsRs.KeyedTraversal
import CycloneddsRs.DelimitedText
import CycloneddsRs.Naming
import CycloneddsRs.InterfaceGen
import CycloneddsRs.DefinitionText
import CycloneddsRs.SchemaTraversal
import CycloneddsRs.SchemaConflicts
import CycloneddsRs.IdlListing
import CycloneddsRs.RosMessage
import CycloneddsRs.DdsError
import CycloneddsRs.AsyncRead
import CycloneddsRs.DomainRegistry
import CycloneddsRs.Reassembly
import CycloneddsRs.CopiedWindows
import CycloneddsRs.ReadBuffer
import CycloneddsRs.TakenBatches
import CycloneddsRs.CdrReads
import CycloneddsRs.KeyHolder
import CycloneddsRs.Keyedness
import CycloneddsRs.QosPolicy
import CycloneddsRs.TypeReferences
import CycloneddsRs.DeclaredIdentifiers
import CycloneddsRs.CddsAttributes
import CycloneddsRs.TopicDerive
import CycloneddsRs.BigEndianCdr
import CycloneddsRs.KeyEncoding
import CycloneddsRs.Md5Decision
import CycloneddsRs.NameGrammar
import CycloneddsRs.LatencyStatistics
import CycloneddsRs.BoundarySearch
import CycloneddsRs.BoundaryPayload
import CycloneddsRs.WriterLoans
import CycloneddsRs.BuiltinLoans
import CycloneddsRs.SampleArrays
import CycloneddsRs.ListenerChains
import CycloneddsRs.ReceiveVerdict
import CycloneddsRs.EntityLifetimes
import CycloneddsRs.LifetimeInvariants
import CycloneddsRs.LifetimeRuns
import CycloneddsRs.BenchProtocol
import CycloneddsRs.BenchRuns
import CycloneddsRs.Relay
import CycloneddsRs.SharedWindows
import CycloneddsRs.WatchdogProgress
import CycloneddsRs.BuilderListeners
import CycloneddsRs.AsyncAnswers
import CycloneddsRs.InterfaceDerive
import CycloneddsRs.QosLedger
import CycloneddsRs.GraphUnfoldings
import CycloneddsRs.IdlStructure
