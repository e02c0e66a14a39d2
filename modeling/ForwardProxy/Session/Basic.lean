import ForwardProxy.Log
import ForwardProxy.Network.Dial
import ForwardProxy.Protocol
import ForwardProxy.RequestHead.Reader
import ForwardProxy.Settings.Basic
import ForwardProxy.Socks5.Handshake
import ForwardProxy.Tunnel

namespace ForwardProxy

/-!
# Sessions

A session serves one client: it finds out what the client wants, dials the target, tells the
client, and joins the two by a tunnel.  In the program a session is a task of `handle_client`.

* `Session`, `Phase` — what a session has seen and done, and what it is doing.
* `SessionFailure` — how a session can fail, with the wording in a report and in the log.
* `Session.start` — a session that has done nothing yet.
* `Session.result?`, `Session.isOver` — how it ended.
* `Session.deadlines` — the instants that it waits for.
-/

/-- How a session fails. -/
inductive SessionFailure where
  | proxy (failure : Failure)
  /-- The failure of a SOCKS5 handshake. -/
  | socks (failure : Socks5.SocksFailure)
  deriving DecidableEq, Repr

namespace SessionFailure

/-- The wording of a failure. -/
def message : SessionFailure → String
  | proxy failure => failure.message
  | socks failure => failure.message

/-- The wording of a failure, followed by that of its cause if the cause is an error of its own. -/
def withCause : SessionFailure → String
  | proxy (.io fault) => s!"{(Failure.io fault).message}: {fault.message}"
  | failure => failure.message

end SessionFailure

/-- How a session is entered. -/
inductive Entry where
  /-- By the first octet, which tells the protocol. -/
  | detecting
  /-- By a protocol that is known. -/
  | speaking (protocol : Protocol)
  deriving DecidableEq, Repr

/-- What a session is doing. -/
inductive Phase where
  /-- Waiting for the first octet. -/
  | peeking (deadline : Nat)
  | readingHead (reader : HeadReader) (deadline : Nat)
  | negotiating (handshake : Socks5.Handshake) (deadline : Nat)
  | dialling (protocol : Protocol) (dial : Dial)
  /-- An HTTP error is being answered; `left` of the answer is not written yet. -/
  | refusing (failure : Failure) (left : Bytes)
  /-- A SOCKS5 reply that tells a failure is being written, by a single write. -/
  | rejecting (failure : SessionFailure) (reply : Bytes)
  /-- The client is told that the target is reached; `left` is not written yet. -/
  | announcing (protocol : Protocol) (target : Text) (left : Bytes)
  | relaying (protocol : Protocol) (target : Text) (tunnel : Tunnel)
  | finished (failure : Option SessionFailure)
  deriving DecidableEq, Repr

/-- A client that is being served. -/
structure Session where
  settings : Settings
  /-- The address of the client. -/
  peer : SocketAddress
  entry : Entry
  /-- The order in which the halves of the tunnel come to move. -/
  turn : Turn
  client : Lookahead
  outbound : Option Outbound
  phase : Phase
  /-- What the session has told the operator. -/
  log : List LogLine
  /-- The names that it has looked up. -/
  lookups : List Text
  /-- The addresses that it has connected to. -/
  dials : List SocketAddress
  deriving DecidableEq, Repr

/-- The terms on which request heads are read. -/
def Settings.headTerms (s : Settings) : HeadTerms := ⟨s.maxRequestBytes, s.requestReadTimeout⟩

namespace Session

/-- The phase in which a protocol is spoken from `now` on. -/
def opening (settings : Settings) (now : Nat) : Protocol → Phase
  | .socks5 => .negotiating .start (Time.deadline now settings.requestReadTimeout)
  | .httpConnect =>
    .readingHead (.start settings.maxRequestBytes) (Time.deadline now settings.requestReadTimeout)

/-- A session that begins at `now`, with a client on a channel. -/
def start (settings : Settings) (peer : SocketAddress) (entry : Entry) (turn : Turn) (now : Nat)
    (channel : Channel) : Session where
  settings := settings
  peer := peer
  entry := entry
  turn := turn
  client := .ofChannel channel
  outbound := none
  phase :=
    match entry with
    | .detecting => .peeking (Time.deadline now settings.peekTimeout)
    | .speaking protocol => opening settings now protocol
  log := []
  lookups := []
  dials := []

/-- The address of the client as it stands in the log. -/
def peerText (s : Session) : String := String.ofList s.peer.render

/-- The session with one more line in its log. -/
def note (level : LogLevel) (message : String) (s : Session) : Session :=
  { s with log := s.log ++ [⟨level, message⟩] }

/-- Whether a session has ended. -/
def isOver (s : Session) : Bool :=
  match s.phase with
  | .finished _ => true
  | _ => false

/-- How a session ended.  One that was entered by its first octet puts its failure into the log
    and reports none. -/
def result? (s : Session) : Option (Except SessionFailure Unit) :=
  match s.phase, s.entry with
  | .finished (some failure), .speaking _ => some (.error failure)
  | .finished _, _ => some (.ok ())
  | _, _ => none

/-- The instants that a session waits for. -/
def deadlines (s : Session) : List Nat :=
  match s.phase with
  | .peeking deadline => [deadline]
  | .readingHead _ deadline => [deadline]
  | .negotiating _ deadline => [deadline]
  | .dialling _ dial => [dial.deadline]
  | .relaying _ _ tunnel => tunnel.deadlines
  | _ => []

/-! ### What others do -/

/-- The session after something that its client does. -/
def applyClient (e : Channel.Event) (s : Session) : Session :=
  { s with client := s.client.apply e }

/-- The session after something that happens on a connection, which need not be its own. -/
def applyPeer (number : Nat) (e : Channel.Event) (s : Session) : Session :=
  { s with outbound := s.outbound.map fun o => if o.number = number then o.apply e else o }

/-- The session, the halves of whose tunnel come to move in another order from now on. -/
def reorder (turn : Turn) (s : Session) : Session :=
  { s with
    turn := turn
    phase :=
      match s.phase with
      | .relaying protocol target tunnel => .relaying protocol target { tunnel with turn := turn }
      | phase => phase }

end Session

end ForwardProxy
