import Nightdrop.Lib.KeyedMap
import Nightdrop.Nearby.Address

/-! The local path beside the main transport: whom it dials, whom it lets in, and when it listens. -/

namespace Nightdrop

/-- Opening of a local connection; a token and a line break follow. -/
def PREAMBLE : Bytes := utf8 "ND-NEARBY/1 "

/-- At most this many local connections are served at once. -/
def MAX_CONNECTIONS : Nat := 16

/-- After a local attempt fails, sends skip the local path this long, in seconds. -/
def RETRY_AFTER : Nat := 60

/-- Routes by the onion of the peer. -/
abbrev NearbyRoutes := KeyedMap String NearbyRoute

/-- An accepted connection that is being served. -/
structure Connection where
  onion : String
  /-- What the dialer presented. -/
  token : Bytes
  /-- Its listener was told to stop. -/
  halted : Bool := false
  /-- It waits for a frame, past its last look at `halted`. -/
  reading : Bool := false
deriving DecidableEq, Repr

/-- The local side of the transport, its routes aside. -/
structure LocalNet where
  /-- The interfaces as the app last listed them. -/
  interfaces : Option (List (String × Ipv4)) := none
  /-- The address of the default route, as the system says. -/
  defaultRoute : Option Ipv4 := none
  /-- The port we listen on. -/
  listening : Option UInt16 := none
  connections : List Connection := []
  /-- When each peer was last reached, and last failed, on the local network. -/
  reachable : KeyedMap String Nat := ∅
  failed : KeyedMap String Nat := ∅
  /-- Peers with a probe running. -/
  probing : List String := []

namespace LocalNet

/-- Whether an interface listed by the app may be shared with someone nearby. -/
def usable (listed : String × Ipv4) : Bool := isPrivate listed.2 && (interfaceRank listed.1).isSome

/-- Every local address we could be reached on. -/
def localIps (net : LocalNet) : List Ipv4 :=
  match net.interfaces with
  | some listed => (listed.filter usable).map (·.2)
  | none => (net.defaultRoute.filter isPrivate).toList

/-- The first of the best-ranked. -/
def bestRanked : List (Nat × Ipv4) → Option (Nat × Ipv4)
  | [] => none
  | e :: rest => match bestRanked rest with
    | some best => if best.1 < e.1 then some best else some e
    | none => some e

/-- The address we announce: that of the best interface listed, else of the default route. -/
def localIp (net : LocalNet) : Option Ipv4 :=
  match net.interfaces with
  | some listed =>
    (bestRanked ((listed.filter (fun e => isPrivate e.2)).filterMap (fun e =>
      (interfaceRank e.1).map (fun rank => (rank, e.2))))).map (·.2)
  | none => net.defaultRoute.filter isPrivate

/-- Whether a peer's address is on a network of ours. -/
def onOurNetwork (net : LocalNet) (peer : Ipv4) : Bool := net.localIps.any (sameSubnet · peer)

/-- A connection is answered only from a local address in our own subnet. -/
def admitsSource (net : LocalNet) (source : Ipv4) : Bool := isPrivate source && net.onOurNetwork source

/-- Where we listen, as we would announce it. -/
def address (net : LocalNet) : Option SocketAddr := do
  let port ← net.listening
  return ⟨← net.localIp, port⟩

/-- Records how an attempt went. -/
def record (net : LocalNet) (peer : String) (ok : Bool) (now : Nat) : LocalNet :=
  if ok then
    { net with reachable := net.reachable.insert peer now, failed := net.failed.erase peer }
  else { net with failed := net.failed.insert peer now }

/-- Whether an attempt at a peer failed too recently to try again. -/
def recentlyFailed (net : LocalNet) (peer : String) (now : Nat) : Bool :=
  (net.failed.lookup peer).any (fun since => now - since < RETRY_AFTER)

/-- Whether a peer was reached within a time. -/
def reachableWithin (net : LocalNet) (peer : String) (within now : Nat) : Bool :=
  (net.reachable.lookup peer).any (fun since => now - since < within)

/-- Whom a dial would connect to, and the token that must be answered: nobody without a route with
an address on our network. -/
def target (net : LocalNet) (routes : NearbyRoutes) (peer : String) : Option (SocketAddr × String) :=
  match routes.lookup peer with
  | some { ourToken := ourToken, peer := some (listens, _) } =>
    if net.onOurNetwork listens.ip then some (listens, ourToken) else none
  | _ => none

/-- Whether the other end answered with our token; no answer is no connection. -/
def exchanged (ourToken : String) (answer : Option Bytes) : Bool :=
  answer.any (fun answer => answer.length = TOKEN_CHARS + 1
    && tokensEqual (answer.take TOKEN_CHARS) (utf8 ourToken) && answer.drop TOKEN_CHARS = utf8 "\n")

/-- Opens a local connection and runs the token exchange; only a failed attempt is recorded. -/
def dial (net : LocalNet) (routes : NearbyRoutes) (peer : String) (answer : Option Bytes)
    (now : Nat) : LocalNet × Bool :=
  match net.target routes peer with
  | none => (net, false)
  | some (_, ourToken) =>
    if exchanged ourToken answer then (net, true) else (net.record peer false now, false)

/-- Which path took a frame over. -/
inductive Path where
  | nearby
  | main
deriving DecidableEq, Repr

/-- Tries the local path for a frame; `wrote` is whether it could be written once connected. -/
def sendNearby (net : LocalNet) (routes : NearbyRoutes) (peer : String) (answer : Option Bytes)
    (wrote : Bool) (now : Nat) : LocalNet × Bool :=
  if net.recentlyFailed peer now then (net, false)
  else
    let dialed := net.dial routes peer answer now
    if dialed.2 then (dialed.1.record peer wrote now, wrote) else (dialed.1, false)

/-- Sends a frame: on the local network, and failing that by the main transport. -/
def send (net : LocalNet) (routes : NearbyRoutes) (peer : String) (answer : Option Bytes)
    (wrote : Bool) (now : Nat) : LocalNet × Path :=
  let tried := net.sendNearby routes peer answer wrote now
  (tried.1, if tried.2 then .nearby else .main)

/-- The address a send attempts to connect to. -/
def attempts (net : LocalNet) (routes : NearbyRoutes) (peer : String) (now : Nat) :
    Option SocketAddr :=
  if net.recentlyFailed peer now then none else (net.target routes peer).map (·.1)

/-- Takes over the current routes; with the first one we listen, at `bound` if a port was to be had,
and with none we stop, and so does every connection before its next read. -/
def setNearby (net : LocalNet) (routes : NearbyRoutes) (bound : Option UInt16) : LocalNet :=
  if routes.entries ≠ [] then
    if net.listening.isNone then { net with listening := bound } else net
  else if net.listening.isSome then
    { net with
      listening := none
      connections := net.connections.map (fun c => { c with halted := true }) }
  else net

/-- Starts a probe of each route that neither succeeded nor failed lately. -/
def startProbes (net : LocalNet) (routes : NearbyRoutes) (now : Nat) : LocalNet :=
  let due := (routes.entries.filter (fun e => e.2.peer.isSome)).map (·.1)
  let due := due.filter (fun onion =>
    !net.reachableWithin onion RETRY_AFTER now && !net.recentlyFailed onion now)
  { net with probing := due.foldl (fun probing onion =>
      if onion ∈ probing then probing else probing ++ [onion]) net.probing }

/-- Runs a probe: the token exchange alone. -/
def probe (net : LocalNet) (routes : NearbyRoutes) (peer : String) (answer : Option Bytes)
    (now : Nat) : LocalNet :=
  let dialed := net.dial routes peer answer now
  let net := if dialed.2 then dialed.1.record peer true now else dialed.1
  { net with probing := net.probing.filter (· ≠ peer) }

/-- The token a dialer presents, if its opening line is one. -/
def presented (hello : Bytes) : Option Bytes :=
  if hello.length = PREAMBLE.length + TOKEN_CHARS + 1 && PREAMBLE.isPrefixOf hello
      && hello.getLast? = some 10 then
    some ((hello.drop PREAMBLE.length).take TOKEN_CHARS)
  else none

/-- The route a presented token belongs to, and the token to answer with: every route is compared,
and one whose peer told us nothing yet does not count. -/
def admitted (routes : NearbyRoutes) (token : Bytes) : Option (String × String) :=
  (routes.entries.filterMap (fun e =>
    if tokensEqual token (utf8 e.2.ourToken) then e.2.peer.map (fun listens => (e.1, listens.2))
    else none)).getLast?

/-- Accepts a connection from a source and checks what it presents. -/
def accept (net : LocalNet) (routes : NearbyRoutes) (source : Ipv4) (hello : Bytes) :
    Option Connection := do
  let _ ← net.listening
  if net.admitsSource source && net.connections.length < MAX_CONNECTIONS then
    let token ← presented hello
    let (onion, _) ← admitted routes token
    return { onion := onion, token := token }
  else none

end LocalNet

end Nightdrop
