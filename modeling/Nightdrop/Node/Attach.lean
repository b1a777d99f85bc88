import Nightdrop.Node.Control

/-! Attachments: their envelopes, the sealed files behind them, and the frames that carry them. -/

namespace Nightdrop

variable {X : Externals}

/-- Largest preview image a contact may send ahead of a video. -/
def MAX_THUMB_BYTES : Nat := 256 * 1024

/-- The text of a length-led field, and what follows it. -/
def takeText (buf : Bytes) : Except String (String × Bytes) :=
  match takeField buf with
  | none => .error "corrupt media envelope"
  | some (field, rest) => match fromUtf8 field with
    | none => .error "invalid utf-8 sequence"
    | some text => .ok (text, rest)

/-- What an attachment may claim to be: a video, or else an image. -/
def sanitizeKind (kind : String) : Kind := if kind = "video" then .video else .image

/-- The transfer id and kind that lead every attachment envelope, and what follows its mime. -/
def takeMediaHead (buf : Bytes) : Except String (String × Kind × Bytes) := do
  let (transferId, rest) ← takeText buf
  if !saneId transferId then throw "bad transfer id"
  let (kind, rest) ← takeText rest
  let (_mime, rest) ← takeText rest
  return (transferId, sanitizeKind kind, rest)

/-- The transfer id, kind and data of a `Media` envelope. -/
def unpackMedia (buf : Bytes) : Except String (String × Kind × Bytes) := takeMediaHead buf

/-- The timer of a `BurnMedia` envelope, and the `Media` envelope it leads. -/
def unpackBurnMedia (buf : Bytes) : Except String (Nat × String × Kind × Bytes) := do
  let (secs, rest) ← takeText buf
  let (transferId, kind, data) ← takeMediaHead rest
  return ((parseDecimal U64_MAX secs).getD 0, transferId, kind, data)

/-- The transfer id, kind and preview of a `MediaIncoming` envelope, past its eight size bytes. -/
def unpackMediaIncoming (buf : Bytes) : Except String (String × Kind × Bytes) := do
  let (transferId, kind, rest) ← takeMediaHead buf
  if rest.length < 8 then throw "corrupt media-incoming envelope"
  return (transferId, kind, rest.drop 8)

/-- Whether an id can name a sealed file. -/
def isMediaId (id : String) : Bool :=
  (1 ≤ id.utf8ByteSize ∧ id.utf8ByteSize ≤ 64)
    && id.toList.all (fun c => ('A' ≤ c ∧ c ≤ 'Z') ∨ ('0' ≤ c ∧ c ≤ '9') ∨ c = '-')

/-- What a frame brings from outside: what pairing needs, and the random id a sealed file gets, if
the store takes it. -/
structure Node.FrameInputs extends Node.PairingInputs where
  mediaId : Option String := none

/-- An attachment of the contact's that arrived whole under this transfer id. -/
def ChatMessage.isArrived (transferId : String) (m : ChatMessage) : Bool :=
  !m.fromMe && m.transferId ≠ "" && m.transferId = transferId && m.mediaId ≠ ""

/-- A placeholder that waits for the attachment of this transfer id. -/
def ChatMessage.isAwaited (transferId : String) (m : ChatMessage) : Bool :=
  m.transferId ≠ "" && m.transferId = transferId && m.mediaId = ""

/-- One of our burn messages that a `Viewed` names. -/
def ChatMessage.isViewed (target : String) (m : ChatMessage) : Bool :=
  m.fromMe && 0 < m.burnSecs
    && ((m.msgId ≠ "" && m.msgId = target) || (m.transferId ≠ "" && m.transferId = target))

/-- The sealed files behind a message. -/
def ChatMessage.files (m : ChatMessage) : List String :=
  [m.mediaId, m.thumbId].filter (· ≠ "")

namespace Node

/-- Seals bytes into the media store under a fresh id. -/
def storeMedia (n : Node X) (mediaId : Option String) : Option (Node X × String) :=
  mediaId.map (fun id => ({ n with media := n.media ++ [id] }, id))

/-- Deletes one sealed file. -/
def forgetMedia (n : Node X) (id : String) : Node X :=
  if isMediaId id then { n with media := n.media.filter (· ≠ id) } else n

/-- Owes the sender a receipt for an attachment. -/
def receiptMedia (n : Node X) (sender transferId : String) : Node X :=
  { n with pendingReceipts := n.pendingReceipts ++ [(sender, "t:" ++ transferId)] }

/-- Counts an attachment of this size against the contact's allowance. -/
def admitMedia (n : Node X) (sender : String) (size now : Nat) : Node X × Bool :=
  (n.modifyChat sender (fun chat => (withinAllowance chat size now).1),
    n.shows sender (fun chat => withinAllowance chat size now))

/-- A video is on its way: its placeholder, with the preview sealed at rest. -/
def receiveMediaIncoming (n : Node X) (sender : String) (message : WireOlm X.OlmMessage)
    (inputs : FrameInputs) (now : Nat) : Node X × Processed :=
  n.openApproved sender message (fun n plaintext =>
    match unpackMediaIncoming plaintext with
    | .error reason => (n, .error reason)
    | .ok (transferId, kind, thumb) =>
      -- Anything bigger than a preview is not one: it is dropped, and the placeholder stays.
      let thumb := if MAX_THUMB_BYTES < thumb.length then [] else thumb
      match n.admitMedia sender thumb.length now with
      | (n, false) => (n, .ok none)
      | (n, true) =>
        let stored := if thumb = [] then some (n, "") else n.storeMedia inputs.mediaId
        match stored with
        | none => (n, .error "media not available without persistence")
        | some (n, thumbId) =>
          (n.modifyChat sender (fun chat =>
              { chat with
                history := chat.history ++ [.ofMedia false kind "" transferId thumbId now] }),
            .ok (some (sender, ""))))

/-- An attachment: it completes its placeholder, or is a message of its own. -/
def receiveMedia (n : Node X) (sender : String) (message : WireOlm X.OlmMessage)
    (inputs : FrameInputs) (now : Nat) : Node X × Processed :=
  n.openApproved sender message (fun n plaintext =>
    match unpackMedia plaintext with
    | .error reason => (n, .error reason)
    | .ok (transferId, kind, data) =>
      if (n.chats.lookup sender).any (·.history.any (·.isArrived transferId)) then
        (n.receiptMedia sender transferId, .ok none)
      else match n.admitMedia sender data.length now with
      | (n, false) =>
        (((n.modifyChat sender (fun chat =>
            { chat with
              history := chat.history.filter (fun m =>
                !(m.transferId = transferId && !m.fromMe && m.mediaId = "")) })).receiptMedia sender
                  transferId), .ok none)
      | (n, true) => match n.storeMedia inputs.mediaId with
        | none => (n, .error "media not available without persistence")
        | some (n, mediaId) =>
          let n := n.modifyChat sender (fun chat =>
            { chat with
              history :=
                if chat.history.any (·.isAwaited transferId) then
                  updateFirst (·.isAwaited transferId) ({ · with mediaId := mediaId }) chat.history
                else chat.history ++ [.ofMedia false kind mediaId transferId "" now] })
          (n.receiptMedia sender transferId, .ok (some (sender, ""))))

/-- A burn attachment: one whose timer cannot be read is dropped. -/
def receiveBurnMedia (n : Node X) (sender : String) (message : WireOlm X.OlmMessage)
    (inputs : FrameInputs) (now : Nat) : Node X × Processed :=
  n.openApproved sender message (fun n plaintext =>
    match unpackBurnMedia plaintext with
    | .error reason => (n, .error reason)
    | .ok (burnSecs, transferId, kind, data) =>
      if burnSecs = 0 then (n, .ok none)
      else if (n.chats.lookup sender).any (·.history.any (·.isArrived transferId)) then
        (n.receiptMedia sender transferId, .ok none)
      else match n.admitMedia sender data.length now with
      | (n, false) => (n.receiptMedia sender transferId, .ok none)
      | (n, true) => match n.storeMedia inputs.mediaId with
        | none => (n, .error "media not available without persistence")
        | some (n, mediaId) =>
          let m := { ChatMessage.ofMedia false kind mediaId transferId "" now with
            burnSecs := burnSecs }
          let n := n.modifyChat sender (fun chat => { chat with history := chat.history ++ [m] })
          (n.receiptMedia sender transferId, .ok (some (sender, ""))))

/-- The contact opened a burn message of ours: our copy goes. -/
def receiveViewed (n : Node X) (sender : String) (message : WireOlm X.OlmMessage) :
    Node X × Processed :=
  n.openApproved sender message (fun n plaintext =>
    match fromUtf8 plaintext with
    | none => (n, .error "invalid utf-8 sequence")
    | some target =>
      let gone := ((n.chats.lookup sender).map (·.history.filter (·.isViewed target))).getD []
      let n := n.modifyChat sender (fun chat =>
        { chat with history := chat.history.filter (!·.isViewed target) })
      let n := (gone.flatMap ChatMessage.files).foldl forgetMedia n
      (n, .ok (if gone = [] then none else some (sender, ""))))

end Node

end Nightdrop
