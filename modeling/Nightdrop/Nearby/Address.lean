import Nightdrop.Lib.Text

/-! The local network: addresses, subnets, interfaces, and what a contact may announce of theirs. -/

namespace Nightdrop

/-- An IPv4 address, octet by octet. -/
structure Ipv4 where
  a : UInt8
  b : UInt8
  c : UInt8
  d : UInt8
deriving DecidableEq, Repr

/-- An address and a port. -/
structure SocketAddr where
  ip : Ipv4
  port : UInt16
deriving DecidableEq, Repr

/-- The length of a token. -/
def TOKEN_CHARS : Nat := 43

/-- The lowest port a nearby announcement may name. -/
def MIN_PORT : Nat := 32768

/-- RFC 1918 and link-local: the only addresses a nearby announcement may name. -/
def isPrivate (ip : Ipv4) : Bool :=
  ip.a = 10 || (ip.a = 172 && 16 ≤ ip.b && ip.b ≤ 31) || (ip.a = 192 && ip.b = 168)
    || (ip.a = 169 && ip.b = 254)

/-- Whether two private addresses are on one local network. -/
def sameSubnet (x y : Ipv4) : Bool :=
  if x.a = 127 then y.a = 127
  else if x.a = 10 then y.a = 10
  else if x.a = 192 ∧ x.b = 168 then y.a = x.a && y.b = x.b && y.c = x.c
  else y.a = x.a && y.b = x.b

/-- A port a nearby announcement may name. -/
def validPort (port : UInt16) : Bool := MIN_PORT ≤ port.toNat

/-- Interfaces no one nearby shares: mobile data, tunnels and virtual bridges. -/
def NEVER_INTERFACES : List String :=
  ["lo", "rmnet", "ccmni", "v4-", "tun", "tap", "ppp", "wg", "utun", "dummy", "docker", "veth",
    "virbr", "vboxnet"]

def WIFI_INTERFACES : List String := ["wlan", "swlan", "ap", "softap", "wl", "wi-fi", "wifi"]

def WIRED_INTERFACES : List String := ["eth", "en", "ethernet", "usb"]

/-- How suitable an interface is for nearby contacts: lower is better, `none` never. -/
def interfaceRank (name : String) : Option Nat :=
  let leads := fun (mark : String) => mark.toList.isPrefixOf (name.toList.map Char.toLower)
  if NEVER_INTERFACES.any leads || leads "br-" || leads "podman" then none
  else if WIFI_INTERFACES.any leads then some 0
  else if WIRED_INTERFACES.any leads then some 1
  else some 2

example : interfaceRank "Wi-Fi" = some 0 ∧ interfaceRank "v4-rmnet0" = none := by decide +kernel

/-- A token as an announcement carries it. -/
def validToken (token : String) : Bool :=
  token.utf8ByteSize = TOKEN_CHARS
    && token.toList.all (fun c => (c.isAlphanum && c.toNat < 0x80) || c = '-' || c = '_')

/-- Whether two tokens of the expected length are equal. -/
def tokensEqual (x y : Bytes) : Bool :=
  x.length = TOKEN_CHARS && y.length = TOKEN_CHARS && x = y

/-- One part of a dotted address: up to three digits, none of them a leading zero. -/
def parseOctet (digits : List Char) : Option UInt8 :=
  let value := Nat.ofDigitChars 10 digits 0
  if digits ≠ [] ∧ digits.length ≤ 3 ∧ digits.all Char.isDigit
      ∧ (digits.head? = some '0' → digits.length = 1) ∧ value ≤ 255 then
    some (UInt8.ofNat value)
  else none

/-- The address a dotted text says. -/
def parseIpv4 (text : List Char) : Option Ipv4 :=
  match text.splitOn '.' with
  | [a, b, c, d] => do return ⟨← parseOctet a, ← parseOctet b, ← parseOctet c, ← parseOctet d⟩
  | _ => none

def U16_MAX : Nat := 2 ^ 16 - 1

/-- What a contact announced of where they listen. -/
structure PeerNearby where
  seq : Nat
  on : Bool
  listens : Option (SocketAddr × String)
deriving DecidableEq, Repr

/-- Reads the body of an announcement: nothing malformed, no public address and no low port. -/
def parseBody (body : Bytes) : Option PeerNearby := do
  let text ← fromUtf8 body
  let parts := text.toList.splitOn ':'
  let seq ← parseDecimal (2 ^ 64 - 1) (String.ofList (parts.headD []))
  match parts.tail with
  | [['0']] => return ⟨seq, false, none⟩
  | [['1']] => return ⟨seq, true, none⟩
  | [['1'], ip, port, token] =>
    let ip ← parseIpv4 ip
    let port ← (parseDecimal U16_MAX (String.ofList port)).filter
      (fun port => validPort (UInt16.ofNat port))
    if isPrivate ip && validToken (String.ofList token) then
      return ⟨seq, true, some (⟨ip, UInt16.ofNat port⟩, String.ofList token)⟩
    else none
  | _ => none

/-- What the node tells the transport about one chat with nearby on. -/
structure NearbyRoute where
  /-- The token we gave this chat: a connection presenting it is theirs. -/
  ourToken : String
  /-- Where they listen and the token they gave us, once they turned it on too. -/
  peer : Option (SocketAddr × String)
deriving DecidableEq, Repr

/-- An address a contact may have us dial. -/
def Dialable (listens : SocketAddr × String) : Prop :=
  isPrivate listens.1.ip = true ∧ validPort listens.1.port = true ∧ validToken listens.2 = true

/-- Whatever a contact announces, they listen at an address that may be dialed, and only while on. -/
theorem parseBody_dialable {body : Bytes} {peer : PeerNearby} {listens : SocketAddr × String}
    (read : parseBody body = some peer) (located : peer.listens = some listens) :
    peer.on = true ∧ Dialable listens := by
  unfold parseBody at read
  -- Only the form with an address leaves one, and it is kept only once it passed the checks.
  simp only [Option.bind_eq_bind, Option.bind_eq_some_iff] at read
  obtain ⟨text, -, seq, -, read⟩ := read
  split at read
  · cases read; cases located
  · cases read; cases located
  · simp only [Option.bind_eq_some_iff, Option.filter_eq_some_iff] at read
    obtain ⟨ip, -, port, ⟨-, high⟩, read⟩ := read
    split at read
    · rename_i checked
      cases read
      cases located
      rw [Bool.and_eq_true] at checked
      exact ⟨rfl, checked.1, high, checked.2⟩
    · cases read
  · cases read

end Nightdrop
