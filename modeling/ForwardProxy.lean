import ForwardProxy.FileTable
import ForwardProxy.Main
import ForwardProxy.Proofs.Accept.Idle
import ForwardProxy.Proofs.Network.Targets
import ForwardProxy.Proofs.RequestHead.Written
import ForwardProxy.Proofs.Response.Sending
import ForwardProxy.Proofs.Server.Draining
import ForwardProxy.Proofs.Server.Pool
import ForwardProxy.Proofs.Server.Retrying
import ForwardProxy.Proofs.Server.Undisturbed
import ForwardProxy.Proofs.Session.Destinations
import ForwardProxy.Proofs.Session.Forging
import ForwardProxy.Proofs.Session.Replies
import ForwardProxy.Proofs.Settings.Written
import ForwardProxy.Proofs.Stream.Deadline
import ForwardProxy.Proofs.Target.Spellings
import ForwardProxy.Proofs.Tunnel.Counters
import ForwardProxy.Proofs.Tunnel.Silence
import ForwardProxy.Proofs.Tunnel.Stillness
import ForwardProxy.Shutdown
