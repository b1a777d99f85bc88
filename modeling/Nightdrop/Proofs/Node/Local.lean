import Nightdrop.Lib.Reach
import Nightdrop.Node.Symbolic
import Nightdrop.Proofs.Node.Located

/-! The nearby path stays local and opt-in, as far as the transport's routes are those of the chats. -/

namespace Nightdrop

variable {X : Externals}

/-- Every route the transport was given is that of a chat that is open now, with nearby on. -/
def Node.RoutesCurrent (n : Node X) : Prop :=
  ∀ peer route, n.nearbyRoutes.lookup peer = some route →
    ∃ contact chat, n.chats.lookup contact = some chat ∧ chat.closed = false
      ∧ chat.nearbyToken = some route.ourToken ∧ chat.peerAddress = peer
      ∧ chat.peerNearby = route.peer

namespace LocalWorld

/-- A token of ours is that of an open chat with nearby on. -/
def Switched (w : LocalWorld X) (token : Bytes) : Prop :=
  ∃ contact chat ours, w.node.chats.lookup contact = some chat ∧ chat.closed = false
    ∧ chat.nearbyToken = some ours ∧ utf8 ours = token

/-- An address in the subnet of a usable interface the app lists. -/
def OnListed (w : LocalWorld X) (address : SocketAddr) : Prop :=
  ∃ listed name ours, w.net.interfaces = some listed ∧ (name, ours) ∈ listed
    ∧ isPrivate ours = true ∧ (interfaceRank name).isSome = true ∧ sameSubnet ours address.ip = true

/-- An address in the subnet of the default route, while the app has listed nothing. -/
def OnDefaultRoute (w : LocalWorld X) (address : SocketAddr) : Prop :=
  w.net.interfaces = none
    ∧ ∃ ours, w.net.defaultRoute = some ours ∧ isPrivate ours = true ∧ sameSubnet ours address.ip = true

/-- An address of a peer that may be dialed: their chat has nearby on here, they announced it, and it
is a private one on a high port in a subnet of ours. -/
def Near (w : LocalWorld X) (peer : String) (address : SocketAddr) : Prop :=
  (∃ contact chat theirs, w.node.chats.lookup contact = some chat ∧ chat.closed = false
    ∧ chat.nearbyToken.isSome = true ∧ chat.peerAddress = peer ∧ chat.peerNearbyOn = true
    ∧ chat.peerNearby = some (address, theirs))
  ∧ isPrivate address.ip = true ∧ MIN_PORT ≤ address.port.toNat
  ∧ (w.OnListed address ∨ w.OnDefaultRoute address)

/-- What is promised of each step: whom it dials and whom it lets in, and that a frame the local path
did not take goes to the main transport. -/
def Proper (w : LocalWorld X) : LocalEvent X → Prop
  | .send peer answer wrote now =>
    (∀ address, w.net.attempts w.node.nearbyRoutes peer now = some address → w.Near peer address)
    ∧ ((w.net.send w.node.nearbyRoutes peer answer wrote now).2 = .main
      ∨ wrote = true ∧ ∃ address ourToken,
        w.net.target w.node.nearbyRoutes peer = some (address, ourToken)
          ∧ LocalNet.exchanged ourToken answer = true)
  | .probe peer _ _ =>
    ∀ address, (w.net.target w.node.nearbyRoutes peer).map (·.1) = some address → w.Near peer address
  | .accept _ _ c _ => w.Switched c.token
  | .deliver c _ => w.Switched c.token
  | _ => True

/-- A frame comes in under a token that the routes still hold. -/
def Steady (w : LocalWorld X) : LocalEvent X → Prop
  | .deliver c _ =>
    ∃ peer route, w.node.nearbyRoutes.lookup peer = some route ∧ utf8 route.ourToken = c.token
  | _ => True

/-- A device just started: nothing listens. -/
structure Begins (w : LocalWorld X) : Prop where
  located : w.node.Located
  silent : w.net.listening = none

/-- What every run keeps: no place that may not be dialed, and no listener without a route. -/
structure Sound (w : LocalWorld X) : Prop where
  located : w.node.Located
  routed : w.net.listening.isSome = true → w.node.nearbyRoutes.entries ≠ []

end LocalWorld

namespace Node

/-- The routes with that of one more chat, if it is open with nearby on. -/
def addRoute (routes : NearbyRoutes) (e : Sigma fun _ : String => Chat X) : NearbyRoutes :=
  match e.2.nearbyToken with
  | some token =>
    if e.2.closed then routes
    else routes.insert e.2.peerAddress { ourToken := token, peer := e.2.peerNearby }
  | none => routes

/-- A route added for a chat of ours is that of a chat of ours. -/
theorem RoutesCurrent.addRoute {n : Node X} {routes : NearbyRoutes}
    (current : RoutesCurrent { n with nearbyRoutes := routes })
    {e : Sigma fun _ : String => Chat X} (inside : n.chats.lookup e.1 = some e.2) :
    RoutesCurrent { n with nearbyRoutes := Node.addRoute routes e } := by
  unfold Node.addRoute
  cases switched : e.2.nearbyToken with
  | none => exact current
  | some token =>
    cases closed : e.2.closed with
    | true => exact current
    | false =>
      simp only [Bool.false_eq_true, if_false]
      intro peer route found
      by_cases same : peer = e.2.peerAddress
      · subst same
        rw [AList.lookup_insert] at found
        cases found
        exact ⟨e.1, e.2, inside, closed, switched, rfl, rfl⟩
      · rw [AList.lookup_insert_ne same] at found
        exact current peer route found

/-- The routes are made of the chats, so they are current when they are handed over. -/
theorem pushNearbyRoutes_current (n : Node X) : n.pushNearbyRoutes.RoutesCurrent := by
  -- The entries gone through so far have left only routes of chats that are there.
  have gone (entries : List (Sigma fun _ : String => Chat X)) (routes : NearbyRoutes)
      (inside : ∀ e ∈ entries, n.chats.lookup e.1 = some e.2)
      (current : RoutesCurrent { n with nearbyRoutes := routes }) :
      RoutesCurrent { n with nearbyRoutes := entries.foldl Node.addRoute routes } := by
    induction entries generalizing routes with
    | nil => exact current
    | cons e rest ih =>
      exact ih _ (fun e member => inside e (.tail _ member)) (current.addRoute (inside e (.head _)))
  refine gone n.chats.entries ∅ (fun e member => AList.mem_lookup_iff.mpr member) fun peer route found => ?_
  simp at found

/-- Sending, holding or giving up a frame leaves the routes alone. -/
theorem deliverWith_nearbyRoutes (n : Node X) (peerAddress contact : String)
    (frame : Frame X.OlmMessage) (fresh : Bool) (done : OutboundDone X) (now : Nat) :
    (n.deliverWith peerAddress contact frame fresh done now).nearbyRoutes = n.nearbyRoutes := by
  unfold deliverWith
  split
  · cases done with
    | announced kind id =>
      cases kind with
      | block on | nearby seq => simp [applyAnnounced, retractAnnounced, apply_ite Node.nearbyRoutes]
      | burns | version | mailbox | address | relaySet | captures | upgradeNotice =>
        simp [applyAnnounced, retractAnnounced]
    | nothing | caller _ | pendingControl _ | held _ | unconfirmed _ | cover => rfl
  · rfl

/-- What of a chat decides its route. -/
def routeView (chat : Chat X) : Bool × Option String × String × Option (SocketAddr × String) :=
  (chat.closed, chat.nearbyToken, chat.peerAddress, chat.peerNearby)

/-- Routes stay current while neither they nor what decides them change. -/
theorem RoutesCurrent.keeps {n n' : Node X} (current : n.RoutesCurrent)
    (routes : n'.nearbyRoutes = n.nearbyRoutes) (keeps : n.Keeps routeView n') : n'.RoutesCurrent := by
  intro peer route found
  rw [routes] at found
  obtain ⟨contact, chat, inside, isOpen, switched, listed, place⟩ := current peer route found
  obtain ⟨chat', inside', same⟩ := keeps.lookup inside
  simp only [routeView, Prod.mk.injEq] at same
  exact ⟨contact, chat', inside', same.1.trans isOpen, same.2.1.trans switched,
    same.2.2.1.trans listed, same.2.2.2.trans place⟩

/-- Announcing nearby leaves the routes, and every chat but for its session. -/
theorem announceNearbyTo_spec {β : Type*} {view : Chat X → β} (unsealed : Chat.Unsealed view)
    (n : Node X) (contact : String) (now : Nat) :
    (n.announceNearbyTo contact now).nearbyRoutes = n.nearbyRoutes
      ∧ n.Keeps view (n.announceNearbyTo contact now) := by
  unfold announceNearbyTo
  split
  · exact ⟨rfl, .refl n⟩
  · refine ⟨?_, announce_keeps unsealed n contact _ _ _ now fun _ => rfl⟩
    unfold announce
    split
    · rfl
    · rename_i n1 address frame did
      obtain ⟨_, session, _, -, -, rfl, -, -⟩ := authedControl_eq did
      exact deliverWith_nearbyRoutes _ address contact frame false _ now

/-- A tick hands over the routes of the chats, and leaves every chat but for its session and number. -/
theorem nearbyTick_spec {β : Type*} (view : Chat X → β) (unsealed : Chat.Unsealed view)
    (unnumbered : ∀ (chat : Chat X) seq, view { chat with nearbySeq := seq } = view chat) (n : Node X)
    (address : Option SocketAddr) (nowMs now : Nat) :
    (n.nearbyTick address nowMs now).nearbyRoutes = n.routesNearby
      ∧ n.Keeps view (n.nearbyTick address nowMs now) := by
  have told (contacts : List String) (n1 : Node X) :
      (contacts.foldl (fun n contact => n.announceNearbyTo contact now) n1).nearbyRoutes = n1.nearbyRoutes
        ∧ n1.Keeps view (contacts.foldl (fun n contact => n.announceNearbyTo contact now) n1) := by
    induction contacts generalizing n1 with
    | nil => exact ⟨rfl, .refl n1⟩
    | cons contact rest ih =>
      have one := announceNearbyTo_spec unsealed n1 contact now
      have others := ih (n1.announceNearbyTo contact now)
      exact ⟨others.1.trans one.1, one.2.trans others.2⟩
  have noted : (n.pushNearbyRoutes.noteNearbyAddress address nowMs).nearbyRoutes = n.routesNearby
      ∧ n.Keeps view (n.pushNearbyRoutes.noteNearbyAddress address nowMs) := by
    unfold noteNearbyAddress
    split
    · exact ⟨rfl, .of_chats rfl⟩
    · refine ⟨rfl, fun contact => ?_⟩
      -- Every chat with nearby on gets a new number.
      have same (chat : Chat X) : view (if chat.nearbyToken.isSome then
          { chat with nearbySeq := max nowMs (chat.nearbySeq + 1) } else chat) = view chat := by
        split
        · exact unnumbered chat _
        · rfl
      simp only [mapChats, KeyedMap.lookup_mapMaybe, pushNearbyRoutes]
      cases n.chats.lookup contact with
      | none => rfl
      | some chat => exact congrArg some (same chat)
  unfold nearbyTick
  exact ⟨(told _ _).1.trans noted.1, noted.2.trans (told _ _).2⟩

/-- A tick makes the routes current again. -/
theorem nearbyTick_current (n : Node X) (address : Option SocketAddr) (nowMs now : Nat) :
    (n.nearbyTick address nowMs now).RoutesCurrent := by
  have spec := nearbyTick_spec routeView (fun _ _ => rfl) (fun _ _ => rfl) n address nowMs now
  exact (pushNearbyRoutes_current n).keeps spec.1 spec.2

/-- Turning nearby on or off leaves the places, and the routes to the tick that follows. -/
theorem switchNearby_spec {n n' : Node X} {contact fresh : String} {on : Bool} {nowMs now : Nat}
    (switched : n.switchNearby contact on fresh nowMs now = some n') :
    n'.nearbyRoutes = n.nearbyRoutes ∧ n.Keeps Chat.place n' := by
  unfold switchNearby at switched
  split at switched
  · cases switched
  · split at switched
    · cases switched
    · split at switched
      · cases switched
      · cases switched
        refine ⟨rfl, Keeps.trans (.modifyChat n contact _ fun chat _ => ?_) (.of_chats rfl)⟩
        rfl

/-- Deleting a chat leaves the places of the others, and the routes as they are. -/
theorem deleteChat_spec {n n' : Node X} {contact : String} {now : Nat} (located : n.Located)
    (deleted : n.deleteChat contact now = .ok n') :
    n'.nearbyRoutes = n.nearbyRoutes ∧ n'.Located := by
  unfold deleteChat at deleted
  split at deleted
  · cases deleted
  · rename_i chat _
    cases deleted
    have told : ∀ n1 : Node X, n1.nearbyRoutes = n.nearbyRoutes → n1.Located →
        Node.nearbyRoutes { n1 with chats := n1.chats.erase contact } = n.nearbyRoutes
          ∧ Located { n1 with chats := n1.chats.erase contact } := by
      intro n1 routes known
      refine ⟨routes, fun other chat' found => ?_⟩
      by_cases same : other = contact
      · subst same
        simp at found
      · rw [AList.lookup_erase_ne same] at found
        exact known other chat' found
    cases did : n.authedControl contact MARK_CLOSED .closed with
    | none => exact told n rfl located
    | some result =>
      obtain ⟨n1, address, frame⟩ := result
      have keeps := authedControl_keeps Chat.beside_place.session did
      obtain ⟨_, session, _, -, -, rfl, -, -⟩ := authedControl_eq did
      exact told _ rfl ((located.keeps keeps).keeps (.of_chats rfl))

end Node

namespace LocalNet

/-- Only with routes does the transport listen. -/
theorem setNearby_listening (net : LocalNet) (routes : NearbyRoutes) (bound : Option UInt16)
    (listens : (net.setNearby routes bound).listening.isSome = true) : routes.entries ≠ [] := by
  intro bare
  unfold setNearby at listens
  simp only [bare, ne_eq, not_true_eq_false, if_false] at listens
  split at listens
  · cases listens
  · rename_i silent
    exact silent listens

/-- Recording how an attempt went starts no listener. -/
@[simp] theorem record_listening (net : LocalNet) (peer : String) (ok : Bool) (now : Nat) :
    (net.record peer ok now).listening = net.listening := by
  unfold record
  split <;> rfl

/-- Dialing starts no listener. -/
@[simp] theorem dial_listening (net : LocalNet) (routes : NearbyRoutes) (peer : String)
    (answer : Option Bytes) (now : Nat) :
    (net.dial routes peer answer now).1.listening = net.listening := by
  unfold dial
  split
  · rfl
  · split <;> simp

/-- Nor does sending, or probing. -/
theorem send_listening (net : LocalNet) (routes : NearbyRoutes) (peer : String)
    (answer : Option Bytes) (wrote : Bool) (now : Nat) :
    (net.send routes peer answer wrote now).1.listening = net.listening := by
  unfold send sendNearby
  simp only []
  split
  · rfl
  · split <;> simp

theorem probe_listening (net : LocalNet) (routes : NearbyRoutes) (peer : String)
    (answer : Option Bytes) (now : Nat) :
    (net.probe routes peer answer now).listening = net.listening := by
  unfold probe
  simp only []
  split <;> simp

/-- A frame stays off the main transport only if it was written to whom a dial reached. -/
theorem send_nearby {net : LocalNet} {routes : NearbyRoutes} {peer : String} {answer : Option Bytes}
    {wrote : Bool} {now : Nat} (taken : (net.send routes peer answer wrote now).2 = .nearby) :
    wrote = true ∧ ∃ address ourToken, net.target routes peer = some (address, ourToken)
      ∧ exchanged ourToken answer = true := by
  unfold send sendNearby dial at taken
  grind

/-- A dial goes to the place a route names, on a network of ours. -/
theorem target_spec {net : LocalNet} {routes : NearbyRoutes} {peer ourToken : String}
    {address : SocketAddr} (dialed : net.target routes peer = some (address, ourToken)) :
    ∃ theirs, routes.lookup peer = some { ourToken := ourToken, peer := some (address, theirs) }
      ∧ net.onOurNetwork address.ip = true := by
  unfold target at dialed
  split at dialed
  · rename_i mine listens theirs found
    split at dialed
    · rename_i near
      cases dialed
      exact ⟨theirs, found, near⟩
    · cases dialed
  · cases dialed

/-- What was admitted holds the token of a route. -/
theorem accept_spec {net : LocalNet} {routes : NearbyRoutes} {source : Ipv4} {hello : Bytes}
    {c : Connection} (accepted : net.accept routes source hello = some c) :
    ∃ peer route, routes.lookup peer = some route ∧ utf8 route.ourToken = c.token := by
  unfold accept at accepted
  simp only [Option.bind_eq_bind, Option.bind_eq_some_iff] at accepted
  obtain ⟨port, -, accepted⟩ := accepted
  split at accepted
  · simp only [Option.bind_eq_some_iff] at accepted
    obtain ⟨token, -, ⟨onion, theirs⟩, known, made⟩ := accepted
    cases made
    unfold admitted at known
    obtain ⟨e, member, matched⟩ := List.mem_filterMap.mp (List.mem_of_getLast? known)
    split at matched
    · rename_i equal
      refine ⟨e.1, e.2, AList.mem_lookup_iff.mpr member, ?_⟩
      simp only [tokensEqual, Bool.and_eq_true, decide_eq_true_eq] at equal
      exact equal.2.symm
    · cases matched
  · cases accepted

end LocalNet

namespace LocalWorld

/-- Nothing listens on a device just started. -/
theorem Begins.sound {w : LocalWorld X} (begins : w.Begins) : w.Sound where
  located := begins.located
  routed listens := by
    rw [begins.silent] at listens
    cases listens

/-- A tick keeps what every run keeps: it listens for the routes it hands over. -/
theorem Sound.tick {w : LocalWorld X} (sound : w.Sound) (bound : Option UInt16) (nowMs now : Nat) :
    (w.tick bound nowMs now).Sound := by
  have spec := Node.nearbyTick_spec Chat.place Chat.beside_place.session (fun _ _ => rfl) w.node
    ((w.pushed bound).startProbes w.node.routesNearby now).address nowMs now
  refine ⟨sound.located.keeps spec.2, fun listens => ?_⟩
  show (w.node.nearbyTick _ nowMs now).nearbyRoutes.entries ≠ []
  rw [spec.1]
  exact LocalNet.setNearby_listening w.net w.node.routesNearby bound listens

/-- What does not touch the core or its listener keeps what every run keeps. -/
theorem Sound.of_net {w : LocalWorld X} (sound : w.Sound) {net : LocalNet}
    (listening : net.listening = w.net.listening) : Sound { w with net := net } where
  located := sound.located
  routed listens := sound.routed (listening ▸ listens)

/-- Every step keeps the places that may be dialed, and listens only for a route. -/
theorem Sound.step {w w' : LocalWorld X} {event : LocalEvent X} (sound : w.Sound)
    (taken : LocalStep w event w') : w'.Sound := by
  cases taken with
  | receive took routed =>
    subst took
    refine ⟨Node.Located.takeIn sound.located _ _ _ _, fun listens => ?_⟩
    rcases routed with ⟨routes, net⟩ | net
    · subst net
      show (w.node.takeIn _ _ _ _).1.nearbyRoutes.entries ≠ []
      rw [routes]
      exact sound.routed listens
    · subst net
      exact LocalNet.setNearby_listening w.net _ _ listens
  | setNearby =>
    unfold LocalWorld.setNearby
    split
    · exact sound
    · rename_i n switched
      have spec := Node.switchNearby_spec switched
      refine Sound.tick ⟨sound.located.keeps spec.2, fun listens => ?_⟩ _ _ _
      show n.nearbyRoutes.entries ≠ []
      rw [spec.1]
      exact sound.routed listens
  | tick => exact sound.tick _ _ _
  | deleteChat deleted =>
    have spec := Node.deleteChat_spec sound.located deleted
    refine ⟨spec.2, fun listens => ?_⟩
    rw [spec.1]
    exact sound.routed listens
  | core located routes =>
    refine ⟨located sound.located, fun listens => ?_⟩
    rw [routes]
    exact sound.routed listens
  | setLocalAddresses => exact sound.of_net rfl
  | reroute => exact sound.of_net rfl
  | send => exact sound.of_net (LocalNet.send_listening ..)
  | probe => exact sound.of_net (LocalNet.probe_listening ..)
  | accept => exact sound.of_net (LocalNet.record_listening ..)
  | await => exact sound.of_net rfl
  | deliver => exact sound.of_net rfl
  | hangUp => exact sound.of_net rfl

/-- Whatever steps a device took, its places may be dialed and its listener has a route. -/
theorem Begins.run {start w : LocalWorld X} (begins : start.Begins) (reached : Reach start LocalStep w) :
    w.Sound :=
  reached.invariant begins.sound fun _ _ _ _ sound taken => sound.step taken

/-- The token of a route is that of a chat that is open with nearby on, while the routes are current. -/
theorem switched_of_route {w : LocalWorld X} (current : w.node.RoutesCurrent) {peer : String}
    {route : NearbyRoute} (found : w.node.nearbyRoutes.lookup peer = some route) :
    w.Switched (utf8 route.ourToken) := by
  obtain ⟨contact, chat, inside, isOpen, switched, -, -⟩ := current peer route found
  exact ⟨contact, chat, route.ourToken, inside, isOpen, switched, rfl⟩

/-- An address on a network of ours is on one the app lists, or else on that of the default route. -/
theorem listed_or_default {w : LocalWorld X} {address : SocketAddr}
    (near : w.net.onOurNetwork address.ip = true) : w.OnListed address ∨ w.OnDefaultRoute address := by
  unfold LocalNet.onOurNetwork LocalNet.localIps at near
  split at near
  · rename_i listed known
    left
    simp only [List.any_eq_true, List.mem_map, List.mem_filter] at near
    obtain ⟨ours, ⟨⟨name, ip⟩, ⟨member, usable⟩, rfl⟩, same⟩ := near
    simp only [LocalNet.usable, Bool.and_eq_true] at usable
    exact ⟨listed, name, ip, known, member, usable.1, usable.2, same⟩
  · rename_i unknown
    right
    simp only [List.any_eq_true, Option.mem_toList, Option.filter_eq_some_iff] at near
    obtain ⟨ours, ⟨route, isPrivate⟩, same⟩ := near
    exact ⟨unknown, ours, route, isPrivate, same⟩

/-- Whom a dial goes to is near. -/
theorem Sound.near {w : LocalWorld X} (sound : w.Sound) (current : w.node.RoutesCurrent)
    {peer ourToken : String} {address : SocketAddr}
    (dialed : w.net.target w.node.nearbyRoutes peer = some (address, ourToken)) : w.Near peer address := by
  obtain ⟨theirs, found, onOurs⟩ := LocalNet.target_spec dialed
  obtain ⟨contact, chat, inside, isOpen, switched, listens, place⟩ := current peer _ found
  -- Wherever they listen, they announced it while on, and it was checked then.
  obtain ⟨on, isPrivate, high, -⟩ := sound.located contact chat inside _ place
  refine ⟨⟨contact, chat, theirs, inside, isOpen, by simp [switched], listens, on, place⟩, isPrivate, ?_,
    listed_or_default onOurs⟩
  simpa [validPort] using high

end LocalWorld

/-- The token a chat of ours was given, and those two peers gave. -/
def ourToken : String := String.ofList (List.replicate TOKEN_CHARS 'a')
def theirToken : String := String.ofList (List.replicate TOKEN_CHARS 'b')

/-- Where their device listens. -/
def theirPlace : SocketAddr := ⟨⟨192, 168, 1, 5⟩, 40000⟩

/-- A chat with nearby on at both ends. -/
def nearbyChat (peerAddress token : String) : Chat symbolic :=
  { Symbolic.chat with
    peerAddress := peerAddress
    nearbyToken := some token
    peerNearbyOn := true
    peerNearby := some (theirPlace, theirToken) }

/-- A device with two such chats, started in a network at home. -/
def home : LocalWorld symbolic where
  node := { Symbolic.device with
    chats := ((∅ : KeyedMap String (Chat symbolic)).insert "them" (nearbyChat "them.onion" ourToken)).insert
      "other" (nearbyChat "other.onion" theirToken) }
  net := { interfaces := some [("wlan0", ⟨192, 168, 1, 4⟩)] }

/-- It listens, and has handed over its routes. -/
def atHome : LocalWorld symbolic := home.tick (some 40001) 6 7

/-- A connection of the first contact. -/
def fromNearby : Connection := { onion := "them.onion", token := utf8 ourToken }

/-- The first contact has connected. -/
def met : LocalWorld symbolic :=
  { atHome with net := { atHome.net.record "them.onion" true 8 with connections := [fromNearby] } }

/-- The switch of the chat with them is then turned off. -/
def parted : LocalWorld symbolic := met.setNearby "them" false "" none 9 10

/-- The device listens nowhere when it starts, and its chats were checked. -/
theorem home_begins : home.Begins where
  located contact chat found := by
    have checked : ∀ e ∈ home.node.chats.entries, e.2.peerNearbyOn = true
        ∧ e.2.peerNearby = some (theirPlace, theirToken) := by decide +kernel
    have told := checked ⟨contact, chat⟩ (AList.mem_lookup_iff.mp found)
    intro listens located
    rw [told.2] at located
    cases located
    exact ⟨told.1, by decide +kernel, by decide +kernel, by decide +kernel⟩
  silent := rfl

/-- The run up to the connection. -/
theorem reached_met : Reach home LocalStep met := by
  refine .step (.accept ⟨192, 168, 1, 5⟩ (PREAMBLE ++ utf8 ourToken ++ utf8 "\n") fromNearby 8)
    (.step (.tick (some 40001) 6 7) .start .tick) (.accept ?_)
  have routes := (Node.nearbyTick_spec Chat.place Chat.beside_place.session (fun _ _ => rfl)
    home.node ((home.pushed (some 40001)).startProbes home.node.routesNearby 7).address 6 7).1
  show LocalNet.accept _ (home.node.nearbyTick _ 6 7).nearbyRoutes _ _ = _
  rw [routes]
  decide +kernel

/-- The same device before the app has listed its interfaces. -/
def unlisted : LocalWorld symbolic := { home with net := { defaultRoute := some ⟨192, 168, 1, 4⟩ } }

end Nightdrop
