import Nightdrop.Proofs.Relay.Conservation
import Nightdrop.Proofs.Relay.Accounting
import Nightdrop.Proofs.Relay.Fleet
import Nightdrop.Lib.Ledger
import Nightdrop.Lib.Reach
import Nightdrop.Node.Run
import Nightdrop.Proofs.Node.Send
import Nightdrop.Proofs.Node.Life
import Nightdrop.Proofs.Node.Converge
import Nightdrop.Proofs.Node.Revise
import Nightdrop.Proofs.Node.Local
import Nightdrop.Proofs.Node.Polling
import Nightdrop.Proofs.Node.Epoch
import Nightdrop.Proofs.Node.Agreement
import Nightdrop.Proofs.Node.Heal
import Nightdrop.Proofs.Relay.Persistence
import Nightdrop.Proofs.Relay.Retire
import Nightdrop.Proofs.Node.Retire
import Nightdrop.Node.Merge
import Nightdrop.Proofs.Node.Admission
import Nightdrop.Proofs.Node.Crossing
import Nightdrop.Proofs.Storage.Throttle
import Nightdrop.Proofs.Node.Partition
import Nightdrop.Proofs.Node.Saving
import Nightdrop.Proofs.Node.Keyroll
import Nightdrop.Proofs.Node.Invites
import Nightdrop.Proofs.Node.Standing
import Nightdrop.Proofs.Node.Recall
import Nightdrop.Proofs.Node.OneOff
import Nightdrop.Proofs.Relay.Watchdog
import Nightdrop.Proofs.Node.Cap
import Nightdrop.Proofs.Node.Door
import Nightdrop.Proofs.Node.Fanout
import Nightdrop.Proofs.Node.Gate
import Nightdrop.Proofs.Node.Gone
import Nightdrop.Proofs.Node.Request
import Nightdrop.Proofs.Node.Flood
import Nightdrop.Proofs.Transport.Lines
import Nightdrop.Proofs.Update.Head
import Nightdrop.Proofs.Moat.Http
import Nightdrop.Proofs.Transport.Inbound
import Nightdrop.Proofs.Moat.Meek
import Nightdrop.Proofs.Update.Download
import Nightdrop.Proofs.Node.Photo
import Nightdrop.Proofs.Webtunnel.Args
import Nightdrop.Proofs.Wire.Framing
import Nightdrop.Proofs.Node.Sweep
import Nightdrop.Proofs.Node.Sequence
import Nightdrop.Proofs.Node.RelayList
import Nightdrop.Proofs.Update.Version
import Nightdrop.Proofs.Node.Movie
import Nightdrop.Proofs.Node.Envelope
import Nightdrop.Proofs.Node.Keystore
import Nightdrop.Proofs.Node.Names
import Nightdrop.Proofs.Node.Waiting
import Nightdrop.Proofs.Node.Scrub
import Nightdrop.Proofs.Diag.Redact
import Nightdrop.Proofs.Diag.Limiter
import Nightdrop.Proofs.Diag.Stamp
import Nightdrop.Lib.Observer
import Nightdrop.Node.Rendezvous
import Nightdrop.Proofs.Node.Rendezvous
