import MirrordLean.Agent.File.Path
import MirrordLean.Agent.File.Protocol
import MirrordLean.Agent.File.ResolvePath
import MirrordLean.Agent.File.Streams
import MirrordLean.Agent.File.Manager
import MirrordLean.Agent.File.HostPath
import MirrordLean.Agent.File.Ids
import MirrordLean.Agent.File.Close
import MirrordLean.Agent.File.Getdents
import MirrordLean.Agent.File.Misuse
import MirrordLean.Agent.File.DirStreams
import MirrordLean.Agent.Sniffer.Session
import MirrordLean.Agent.Sniffer.Subscriptions
import MirrordLean.Agent.Sniffer.Sniffer
import MirrordLean.Agent.Sniffer.Delivery
import MirrordLean.Agent.Iptables.Table
import MirrordLean.Agent.Iptables.Chain
import MirrordLean.Agent.Iptables.Interleaving
import MirrordLean.Layer.Close
import MirrordLean.Layer.FileHooks
import MirrordLean.Protocol.BatchedBody
import MirrordLean.Kube.Container
import MirrordLean.Kube.Rollout
import MirrordLean.Config.TlsDelivery
import MirrordLean.Sip.Rpath
import MirrordLean.Operator.Crd
