import Nightdrop.Node.Revise
import Nightdrop.Node.Symbolic
import Nightdrop.Proofs.Node.Change

/-! A revision that reports an error has left everything as it was, exactly when it never began. -/

namespace Nightdrop

variable {X : Externals} {n n' : Node X} {contact msgId : String} {chat : Chat X}

/-- Whether a session still seals a plaintext. -/
def Chat.seals (chat : Chat X) (plaintext : Bytes) : Bool := (X.encrypt chat.session plaintext).isSome

namespace Node

/-- Whether a frame is taken by the contact or a relay, or may wait here as there is no relay. -/
def getsThrough (n : Node X) (contact address : String) (route : Route) (net : CallNetwork)
    (now : Nat) : Bool :=
  !n.hasRelayRoute contact || (route ≠ .relayOnly && address ≠ "" && net.answered)
    || (queueOnRelays net.answers (n.routeTo contact).1 (n.routeTo contact).2
      ((n.postHandle contact now).getD "")).isSome

/-- Whether the contact is told of a revision: an outdated one is once they have updated. -/
def tells (n : Node X) (contact : String) (chat : Chat X) (plaintext : Bytes) (net : CallNetwork)
    (now : Nat) : Bool :=
  chat.seals plaintext
    && (chat.outdated || n.getsThrough contact chat.peerAddress .directThenRelay net now)

/-- The relay copies a message still has by its receipts. -/
def copiesOf (chat : Chat X) (m : ChatMessage) : List QueuedReceipt :=
  if m.delivery = .queued then (chat.relayReceipts.lookup m.msgId).getD [] else []

/-- Whether a revision of a message that passed its checks goes through to its end. -/
def goesThrough (n : Node X) (contact : String) (chat : Chat X) (m : ChatMessage)
    (revision : Revision) (net : CallNetwork) (later : Nat) : Bool :=
  let held := (n.heldUnsent contact m.msgId).isSome
  let recalled := recallReceipts n.relay net.recalled (copiesOf chat m)
  match revision with
  | .edit newText =>
    if held then
      let burnSecs := ((chat.history.find? (·.isOwn m.msgId)).map (·.burnSecs)).getD 0
      chat.seals (userPlaintext burnSecs newText)
    else if recalled then
      chat.seals (utf8 newText) && n.getsThrough contact "" .relayOnly net later
    else n.tells contact chat (packEdit m.msgId newText) net later
  | .unsend => held || recalled || n.tells contact chat (packUnsend m.msgId) net later

/-- Whether a revision changes nothing that is shown, and takes no receipts. -/
def vain (chat : Chat X) (m : ChatMessage) (revision : Revision) : Prop :=
  shownAs m.msgId (revision.apply m.msgId chat.history) = shownAs m.msgId chat.history
    ∧ copiesOf chat m = []

/-- When an error of a call leaves the message as it was: the call is refused by its checks, or
it goes through, so that there is no error, or it would have changed nothing anyway. -/
def RevisesSafely (n : Node X) (contact msgId : String) (revision : Revision) (net : CallNetwork)
    (now later : Nat) : Prop :=
  ∀ chat m, n.chats.lookup contact = some chat → chat.closed = false →
    chat.history.find? (·.isOwnText msgId) = some m → m.changeable now = true →
      n.goesThrough contact chat m revision net later = true ∨ vain chat m revision

/-- A call that reports an error has left the message, and what brings it across, as they were. -/
def AtomicOnError (n : Node X) (contact msgId : String) (revision : Revision) (net : CallNetwork)
    (now later : Nat) : Prop :=
  ∀ reason, (n.revise contact msgId revision net now later).2 = .error reason →
    (n.revise contact msgId revision net now later).1.standing contact msgId
        = n.standing contact msgId
      ∧ n.takenBack contact msgId revision net now = []

/-- Routes depend on a chat only by its mailbox and the relay set it was told. -/
theorem routeTo_modifyChat (n : Node X) (contact other : String) {f : Chat X → Chat X}
    (mailbox : ∀ chat, (f chat).mailbox = chat.mailbox)
    (set : ∀ chat, (f chat).relaySet = chat.relaySet) :
    (n.modifyChat contact f).routeTo other = n.routeTo other := by
  have boxes : ((n.modifyChat contact f).chats.lookup other).bind (·.mailbox)
      = (n.chats.lookup other).bind (·.mailbox) := by
    rw [lookup_modifyChat]
    split
    · rename_i same
      subst same
      cases n.chats.lookup other <;> simp [mailbox]
    · rfl
  have sets : ((n.modifyChat contact f).chats.lookup other).bind (·.relaySet)
      = (n.chats.lookup other).bind (·.relaySet) := by
    rw [lookup_modifyChat]
    split
    · rename_i same
      subst same
      cases n.chats.lookup other <;> simp [set]
    · rfl
  unfold routeTo mailboxAgreed relaysBetween
  rw [boxes, sets]
  rfl

/-- The handle to post under depends on a chat only by its mailbox. -/
theorem postHandle_modifyChat (n : Node X) (contact other : String) (now : Nat) {f : Chat X → Chat X}
    (mailbox : ∀ chat, (f chat).mailbox = chat.mailbox) :
    (n.modifyChat contact f).postHandle other now = n.postHandle other now := by
  unfold postHandle
  rw [lookup_modifyChat]
  split
  · rename_i same
    subst same
    cases n.chats.lookup other with
    | none => rfl
    | some chat => simp [mailbox, modifyChat]
  · rfl

theorem getsThrough_modifyChat (n : Node X) (contact other address : String) (route : Route)
    (net : CallNetwork) (now : Nat) {f : Chat X → Chat X}
    (mailbox : ∀ chat, (f chat).mailbox = chat.mailbox)
    (set : ∀ chat, (f chat).relaySet = chat.relaySet) :
    (n.modifyChat contact f).getsThrough other address route net now
      = n.getsThrough other address route net now := by
  unfold getsThrough hasRelayRoute
  rw [routeTo_modifyChat n contact other mailbox set, postHandle_modifyChat n contact other now mailbox]

/-- A caller's send fails just when its frame does not get through. -/
theorem callerFailed_run (n : Node X) (contact address : String) (bytes : Envelope X.OlmMessage)
    {route : Route} (direct : route = .relayOnly ∨ route = .directThenRelay)
    (record : Option (String × String)) (net : CallNetwork) (now : Nat) :
    (Outbound.run ⟨n.detach address contact bytes false now, route, .caller record⟩ net.answered
        net.answers).callerFailed
      = !n.getsThrough contact address route net now := by
  unfold Finished.callerFailed Outbound.run DetachedSend.run getsThrough hasRelayRoute detach
  rcases direct with rfl | rfl
  · cases queueOnRelays net.answers (n.routeTo contact).1 (n.routeTo contact).2
      ((n.postHandle contact now).getD "") <;>
    cases (n.routeTo contact).1 <;> simp
  · cases queueOnRelays net.answers (n.routeTo contact).1 (n.routeTo contact).2
      ((n.postHandle contact now).getD "") <;>
    cases (n.routeTo contact).1 <;> cases net.answered <;> simp <;> grind

/-- How the rest of a call ends: well if its frame goes through, else with the message as `changed`. -/
inductive Ended (changed : Node X) (contact msgId : String) :
    Bool → Node X × Except String Unit → Prop where
  | through {n : Node X} : Ended changed contact msgId true (n, .ok ())
  | failed {n : Node X} {reason : String}
      (same : n.standing contact msgId = changed.standing contact msgId) :
      Ended changed contact msgId false (n, .error reason)

/-- Only what there is of the message counts of the node it ends as. -/
theorem Ended.standing {through : Bool} {result : Node X × Except String Unit}
    (ended : Ended n contact msgId through result)
    (same : n.standing contact msgId = n'.standing contact msgId) :
    Ended n' contact msgId through result := by
  cases ended with
  | through => exact .through
  | failed kept => exact .failed (kept.trans same)

/-- No send an API call waits on is left in the outbox. -/
def Served (n : Node X) : Prop := ∀ o ∈ n.outbox, o.isCaller = false

/-- The last part of a call: it takes its sends, runs them and records what became of them. -/
def callEnd (n : Node X) (net : CallNetwork) (now : Nat) : Node X × Except String Unit :=
  n.takeCallerOutbox.1.sendForCaller n.takeCallerOutbox.2 net now

/-- A call that queued nothing to send ends well. -/
theorem callEnd_idle (served : n.Served) (changed : Node X) (net : CallNetwork) (now : Nat) :
    Ended changed contact msgId true (n.callEnd net now) := by
  have nothing : n.outbox.filter (·.isCaller) = [] := by
    rw [List.filter_eq_nil_iff]
    intro o queued
    simp [served o queued]
  unfold callEnd takeCallerOutbox sendForCaller
  rw [nothing]
  exact .through

/-- A call that queued one frame ends well just when it gets through, and else as if it had not. -/
theorem callEnd_send (served : n.Served) (contact msgId address : String)
    (bytes : Envelope X.OlmMessage)
    {route : Route} (direct : route = .relayOnly ∨ route = .directThenRelay)
    (record : Option (String × String)) (net : CallNetwork) (now : Nat) :
    Ended n contact msgId (n.getsThrough contact address route net now)
      ((n.sendOrQueue (n.detach address contact bytes false now) route (.caller record)).callEnd net
        now) := by
  let send : Outbound X := ⟨n.detach address contact bytes false now, route, .caller record⟩
  have mine : (n.outbox ++ [send]).filter (·.isCaller) = [send] := by
    rw [List.filter_append, List.filter_eq_nil_iff.mpr fun o queued => by simp [served o queued]]
    rfl
  have rest : (n.outbox ++ [send]).filter (!·.isCaller) = n.outbox := by
    rw [List.filter_append, List.filter_eq_self.mpr fun o queued => by simp [served o queued]]
    simp [send, Outbound.isCaller]
  have failing := callerFailed_run n contact address bytes direct record net now
  unfold callEnd takeCallerOutbox sendForCaller sendOrQueue
  simp only []
  rw [mine, rest]
  simp only [List.map_cons, List.map_nil, List.any_cons, List.any_nil, Bool.or_false]
  rw [failing]
  cases reached : n.getsThrough contact address route net now with
  | true => exact .through
  | false =>
    -- A frame that failed although there was a relay is recorded nowhere.
    refine .failed ?_
    have lost : (send.run net.answered net.answers).callerFailed = true := by rw [failing, reached]; rfl
    have unrecorded : n.applyFinished (send.run net.answered net.answers) now = n := by
      simp only [Finished.callerFailed, send, Outbound.run, Bool.and_eq_true,
        Bool.not_eq_true'] at lost
      obtain ⟨failed, hasRelay⟩ := lost
      unfold applyFinished noteReach holdLost
      simp only [send, Outbound.run, of_decide_eq_true failed, hasRelay]
      cases record <;> simp
    exact congrArg (·.standing contact msgId) unrecorded

/-- Sealing a plaintext fails with the session, or advances it by one ciphertext. -/
theorem sealFor_seals (found : n.chats.lookup contact = some chat) (plaintext : Bytes) :
    (chat.seals plaintext = false ∧ n.sealFor contact plaintext = none)
      ∨ ∃ session message, X.encrypt chat.session plaintext = some (session, message)
        ∧ chat.seals plaintext = true ∧ n.sealFor contact plaintext
          = some (n.modifyChat contact (fun chat => { chat with session := session }), message) := by
  unfold Chat.seals sealFor
  rw [found]
  cases encrypted : X.encrypt chat.session plaintext with
  | none => simp [encrypted]
  | some taken => exact .inr ⟨taken.1, taken.2, rfl, rfl, by simp [encrypted]⟩

/-- The same, where it does not matter what the ciphertext is. -/
theorem sealFor_cases (found : n.chats.lookup contact = some chat) (plaintext : Bytes) :
    (chat.seals plaintext = false ∧ n.sealFor contact plaintext = none)
      ∨ ∃ session message, chat.seals plaintext = true ∧ n.sealFor contact plaintext
          = some (n.modifyChat contact (fun chat => { chat with session := session }), message) := by
  rcases sealFor_seals found plaintext with refused | ⟨session, message, -, enciphered⟩
  · exact .inl refused
  · exact .inr ⟨session, message, enciphered⟩

/-- What there is of a message depends on its chat only by the history and the receipts. -/
theorem standing_modifyChat (n : Node X) (contact msgId : String) {f : Chat X → Chat X}
    (history : ∀ chat, (f chat).history = chat.history)
    (receipts : ∀ chat, (f chat).relayReceipts = chat.relayReceipts) :
    (n.modifyChat contact f).standing contact msgId = n.standing contact msgId := by
  unfold standing
  rw [lookup_modifyChat, if_pos rfl]
  cases n.chats.lookup contact with
  | none => rfl
  | some chat => simp [history, receipts, modifyChat]

/-- A frame told through the ordinary helper: it ends well if it is sealed and gets through. -/
theorem deliver_ended (served : n.Served) (msgId : String)
    (found : n.chats.lookup contact = some chat)
    (plaintext : Bytes) (frame : String → X.OlmMessage → Frame X.OlmMessage) (net : CallNetwork)
    (now : Nat) :
    Ended n contact msgId (n.tells contact chat plaintext net now)
      (match n.sealFor contact plaintext with
        | none => (n, .error "encrypt: the peer's ratchet key is unusable")
        | some (n, message) => (n.deliverWith chat.peerAddress contact (frame n.identityKey message)
            false (.caller none) now).callEnd net now) := by
  unfold tells
  rcases sealFor_cases found plaintext with ⟨unusable, refused⟩ | ⟨session, message, usable, sealed⟩
  · rw [unusable, refused]
    exact .failed rfl
  · rw [usable, sealed]
    simp only [Bool.true_and]
    let advanced := n.modifyChat contact (fun chat => { chat with session := session })
    have same : advanced.standing contact msgId = n.standing contact msgId :=
      standing_modifyChat n contact msgId (fun _ => rfl) (fun _ => rfl)
    have outdated : advanced.peerOutdated contact = chat.outdated := by
      simp [advanced, peerOutdated, found, Chat.outdated]
    have reaches := getsThrough_modifyChat n contact contact chat.peerAddress .directThenRelay net now
      (f := fun chat => { chat with session := session }) (fun _ => rfl) (fun _ => rfl)
    unfold deliverWith
    rw [show (n.modifyChat contact fun chat => { chat with session := session }).peerOutdated contact
      = chat.outdated from outdated]
    cases chat.outdated with
    | true => exact callEnd_idle (n := { advanced with held := _, dirty := true }) served n net now
    | false =>
      have ended := callEnd_send (show advanced.Served from served) contact msgId
        chat.peerAddress (encode (frame n.identityKey message)) (.inr rfl) none net now
      rw [show advanced.getsThrough contact chat.peerAddress .directThenRelay net now = _ from reaches] at ended
      exact ended.standing same

/-- The second half of an edit, and what follows it. -/
theorem finishEdit_ended (served : n.Served) (found : n.chats.lookup contact = some chat)
    (msgId newText : String) (recalled : Option Bool) (net : CallNetwork) (now : Nat) :
    Ended n contact msgId
      (if (n.heldUnsent contact msgId).isSome then
          chat.seals (userPlaintext
            (((chat.history.find? (·.isOwn msgId)).map (·.burnSecs)).getD 0) newText)
        else if recalled = some true then
          chat.seals (utf8 newText) && n.getsThrough contact "" .relayOnly net now
        else n.tells contact chat (packEdit msgId newText) net now)
      (match n.finishEdit contact msgId newText recalled now with
        | .error reason => (n, .error reason)
        | .ok n => n.callEnd net now) := by
  unfold finishEdit
  cases n.heldUnsent contact msgId with
  | some i =>
    simp only [Option.isSome_some, if_true, resealHeld, found]
    rcases sealFor_cases found (userPlaintext
      (((chat.history.find? (·.isOwn msgId)).map (·.burnSecs)).getD 0) newText)
      with ⟨unusable, refused⟩ | ⟨session, message, usable, sealed⟩
    · rw [unusable, refused]
      exact .failed rfl
    · rw [usable, sealed]
      exact callEnd_idle (n := { n.modifyChat contact _ with held := _, dirty := true }) served n net now
  | none =>
    simp only [Option.isSome_none, Bool.false_eq_true, if_false, found]
    by_cases all : recalled = some true
    · -- The old text is gone everywhere: the new one goes out as the message itself.
      simp only [all, if_true]
      rcases sealFor_cases found (utf8 newText) with ⟨unusable, refused⟩ | ⟨session, message, usable, sealed⟩
      · rw [unusable, refused]
        exact .failed rfl
      · rw [usable, sealed, Bool.true_and]
        let advanced := n.modifyChat contact (fun chat => { chat with session := session })
        have reaches : advanced.getsThrough contact "" .relayOnly net now
            = n.getsThrough contact "" .relayOnly net now :=
          getsThrough_modifyChat n contact contact "" .relayOnly net now (fun _ => rfl) (fun _ => rfl)
        have ended := callEnd_send (show advanced.Served from served) contact msgId ""
          (encode (.message n.identityKey msgId (.fromOlm message))) (.inl rfl) (some (contact, msgId))
          net now
        rw [reaches] at ended
        exact ended.standing (standing_modifyChat n contact msgId (fun _ => rfl) (fun _ => rfl))
    · simp only [all, if_false]
      have told := deliver_ended served msgId found (packEdit msgId newText)
        (fun sender message => .edit sender (.fromOlm message)) net now
      cases sealed : n.sealFor contact (packEdit msgId newText) with
      | none => simpa only [sealed] using told
      | some taken => simpa only [sealed] using told

/-- A text found by its id has that id. -/
theorem named_of_hit {m : ChatMessage} {history : List ChatMessage}
    (hit : history.find? (·.isOwnText msgId) = some m) : m.msgId = msgId := by
  have picked := List.find?_some hit
  simp only [ChatMessage.isOwnText, Bool.and_eq_true, decide_eq_true_eq] at picked
  exact picked.2

/-- What a revision makes of the node when it says so, its frame aside. -/
def revised (n : Node X) (contact msgId : String) (m : ChatMessage) (revision : Revision) : Node X :=
  n.modifyChat contact (fun chat =>
    { chat with
      history := revision.apply msgId chat.history
      relayReceipts := if m.delivery = .queued then chat.relayReceipts.erase msgId
        else chat.relayReceipts })

/-- What a revision of a message hands over to recall. -/
def planOf (n : Node X) (contact : String) (chat : Chat X) (m : ChatMessage) : Option RecallPlan :=
  if m.delivery = .queued then some (n.recallPlan contact (copiesOf chat m)) else none

/-- A message that passes the checks of an edit is changed, and its copies are handed over. -/
theorem beginEdit_eq {m : ChatMessage} {now : Nat} (found : n.chats.lookup contact = some chat)
    (isOpen : chat.closed = false) (hit : chat.history.find? (·.isOwnText msgId) = some m)
    (changeable : m.changeable now = true) (newText : String) :
    n.beginEdit contact msgId newText now
      = .ok (n.revised contact msgId m (.edit newText), n.planOf contact chat m) := by
  unfold beginEdit
  simp only [found, isOpen, hit, changeable, Bool.false_eq_true, if_false, Bool.not_true]
  by_cases queued : m.delivery = .queued
  · simp [queued, revised, planOf, copiesOf, takeReceipts, recallPlan, found, modifyChat_modifyChat,
      Revision.apply]
    exact ⟨rfl, by rw [named_of_hit hit]⟩
  · simp [queued, revised, planOf, Revision.apply]

/-- The receipts of a queued message taken for a recall. -/
def recalling (n : Node X) (contact msgId : String) (m : ChatMessage) : Node X :=
  if m.delivery = .queued then (n.takeReceipts contact msgId).1 else n

/-- Taking receipts for a recall queues nothing. -/
theorem Served.recalling (served : n.Served) (contact msgId : String) (m : ChatMessage) :
    (n.recalling contact msgId m).Served := by
  unfold Node.recalling
  split
  · exact served
  · exact served

theorem recalling_held (n : Node X) (contact msgId : String) (m : ChatMessage) :
    (n.recalling contact msgId m).heldUnsent contact msgId = n.heldUnsent contact msgId := by
  unfold recalling
  split <;> rfl

theorem recalling_getsThrough (n : Node X) (contact msgId : String) (m : ChatMessage)
    (address : String) (route : Route) (net : CallNetwork) (now : Nat) :
    (n.recalling contact msgId m).getsThrough contact address route net now
      = n.getsThrough contact address route net now := by
  unfold recalling
  split
  · exact getsThrough_modifyChat n contact contact address route net now (fun _ => rfl) (fun _ => rfl)
  · rfl

/-- The tombstone behind a recall is what the revision makes of the message. -/
theorem recalling_standing (found : n.chats.lookup contact = some chat) (m : ChatMessage) :
    ((n.recalling contact msgId m).modifyChat contact (fun chat =>
        { chat with history := Revision.unsend.apply msgId chat.history })).standing contact msgId
      = (n.revised contact msgId m .unsend).standing contact msgId := by
  unfold recalling takeReceipts revised standing
  by_cases queued : m.delivery = .queued
  · simp [queued, found, modifyChat]
  · simp [queued, found, modifyChat]

/-- A message that passes the checks of an unsend stays, and its copies are handed over. -/
theorem beginUnsend_eq {m : ChatMessage} {now : Nat} (found : n.chats.lookup contact = some chat)
    (isOpen : chat.closed = false) (hit : chat.history.find? (·.isOwnText msgId) = some m)
    (changeable : m.changeable now = true) :
    n.beginUnsend contact msgId now = .ok (n.recalling contact msgId m, n.planOf contact chat m) := by
  unfold beginUnsend recalling planOf copiesOf
  simp only [found, isOpen, hit, changeable, Bool.false_eq_true, if_false, Bool.not_true]
  by_cases queued : m.delivery = .queued
  · simp [queued, takeReceipts, recallPlan, found]
    rw [named_of_hit hit]
  · simp [queued]

/-- The second half of an unsend of a message still there, and what follows it. -/
theorem finishUnsend_ended (served : n.Served) (found : n.chats.lookup contact = some chat)
    {m : ChatMessage} (hit : chat.history.find? (·.isOwnText msgId) = some m) (recalled : Option Bool)
    (net : CallNetwork) (now : Nat) :
    Ended (n.modifyChat contact (fun chat =>
        { chat with history := Revision.unsend.apply msgId chat.history })) contact msgId
      ((n.heldUnsent contact msgId).isSome || recalled = some true
        || n.tells contact chat (packUnsend msgId) net now)
      (match n.finishUnsend contact msgId recalled now with
        | (n, .error reason) => (n, .error reason)
        | (n, .ok ()) => n.callEnd net now) := by
  unfold finishUnsend
  cases n.heldUnsent contact msgId with
  | some i =>
    exact callEnd_idle (n := { n with held := _, chats := _, dirty := true }) served _ net now
  | none =>
    have present : ∃ i, chat.history.findIdx? (fun m => m.fromMe && !m.system && m.msgId = msgId)
        = some i := by
      rw [← Option.isSome_iff_exists, List.findIdx?_isSome, List.any_eq_true]
      have picked := List.find?_some hit
      simp only [ChatMessage.isOwnText, Bool.and_eq_true, decide_eq_true_eq] at picked
      exact ⟨m, List.mem_of_find?_eq_some hit, by simp [picked]⟩
    obtain ⟨i, target⟩ := present
    simp only [found, target, Option.isSome_none, Bool.false_or]
    by_cases all : recalled = some true
    · simp only [all, if_true, decide_true, Bool.true_or]
      exact callEnd_idle (n := n.modifyChat contact _) served _ net now
    · simp only [all, if_false, decide_false, Bool.false_or]
      -- The tombstone is there before the frame about it is sealed.
      let buried := n.modifyChat contact (fun chat =>
        { chat with history := chat.history.modify i ChatMessage.tombstone })
      have foundNow : buried.chats.lookup contact
          = some { chat with history := chat.history.modify i ChatMessage.tombstone } := by
        simp [buried, found]
      have told := deliver_ended (show buried.Served from served) msgId foundNow (packUnsend msgId)
        (fun sender message => .unsend sender (.fromOlm message)) net now
      have reaches := getsThrough_modifyChat n contact contact chat.peerAddress .directThenRelay net now
        (f := fun chat => { chat with history := chat.history.modify i ChatMessage.tombstone })
        (fun _ => rfl) (fun _ => rfl)
      have same : buried.tells contact
          { chat with history := chat.history.modify i ChatMessage.tombstone } (packUnsend msgId) net now
          = n.tells contact chat (packUnsend msgId) net now := by
        unfold tells
        rw [reaches]
        rfl
      rw [same] at told
      have shown : buried.standing contact msgId = (n.modifyChat contact (fun chat =>
          { chat with history := Revision.unsend.apply msgId chat.history })).standing contact msgId := by
        unfold standing
        simp only [buried, lookup_modifyChat, found, if_true, Option.map_some, Revision.apply,
          updateFirst_eq_modify, target]
        rfl
      refine Ended.standing ?_ shown
      cases sealed : buried.sealFor contact (packUnsend msgId) with
      | none => simpa only [buried, sealed] using told
      | some taken => simpa only [buried, sealed] using told

/-- Only a plan with copies can have them all recalled. -/
theorem recalled_iff (n : Node X) (contact : String) (chat : Chat X) (m : ChatMessage)
    (recalled : QueuedReceipt → Bool) :
    (n.planOf contact chat m).map (·.run recalled) = some true
      ↔ recallReceipts n.relay recalled (copiesOf chat m) = true := by
  unfold planOf
  by_cases queued : m.delivery = .queued
  · simp [queued, RecallPlan.run, recallPlan]
  · simp [queued, copiesOf, recallReceipts]

/-- Editing keeps the timers of our messages as they are. -/
theorem burnSecs_edit (msgId newText : String) (history : List ChatMessage) :
    (((Revision.edit newText).apply msgId history).find? (·.isOwn msgId)).map (·.burnSecs)
      = (history.find? (·.isOwn msgId)).map (·.burnSecs) := by
  unfold Revision.apply
  induction history with
  | nil => rfl
  | cons m rest ih =>
    unfold updateFirst
    cases target : m.isOwnText msgId with
    | true =>
      -- The message edited is one of ours by this id, before and after.
      have ours : m.fromMe = true ∧ m.msgId = msgId := by
        simp only [ChatMessage.isOwnText, Bool.and_eq_true, decide_eq_true_eq] at target
        exact ⟨target.1.1.1, target.2⟩
      simp [ChatMessage.isOwn, ours]
    | false =>
      simp only [Bool.false_eq_true, if_false, List.find?_cons]
      split
      · rfl
      · exact ih

/-- A revision that passed its checks goes through, or fails with the message already changed. -/
theorem revise_ended (served : n.Served) {m : ChatMessage} {now : Nat}
    (found : n.chats.lookup contact = some chat) (isOpen : chat.closed = false)
    (hit : chat.history.find? (·.isOwnText msgId) = some m) (changeable : m.changeable now = true)
    (revision : Revision) (net : CallNetwork) (later : Nat) :
    Ended (n.revised contact msgId m revision) contact msgId
      (n.goesThrough contact chat m revision net later)
      (n.revise contact msgId revision net now later) := by
  have named := named_of_hit hit
  have recalled := recalled_iff n contact chat m net.recalled
  cases revision with
  | edit newText =>
    show Ended _ _ _ _ (n.editMessage contact msgId newText net now later)
    unfold editMessage
    rw [beginEdit_eq found isOpen hit changeable newText]
    have foundNow : (n.revised contact msgId m (.edit newText)).chats.lookup contact = some
        { chat with
          history := (Revision.edit newText).apply msgId chat.history
          relayReceipts := if m.delivery = .queued then chat.relayReceipts.erase msgId
            else chat.relayReceipts } := by
      simp [revised, found]
    have ended := finishEdit_ended (n := n.revised contact msgId m (.edit newText)) served foundNow msgId
      newText ((n.planOf contact chat m).map (·.run net.recalled)) net later
    simp only [burnSecs_edit] at ended
    have reaches (address : String) (route : Route) :
        (n.revised contact msgId m (.edit newText)).getsThrough contact address route net later
          = n.getsThrough contact address route net later :=
      getsThrough_modifyChat n contact contact address route net later (fun _ => rfl) (fun _ => rfl)
    unfold tells at ended
    simp only [reaches] at ended
    unfold goesThrough tells
    simp only [named, ← recalled]
    exact ended
  | unsend =>
    show Ended _ _ _ _ (n.unsendMessage contact msgId net now later)
    unfold unsendMessage
    rw [beginUnsend_eq found isOpen hit changeable]
    have foundNow : (n.recalling contact msgId m).chats.lookup contact = some
        { chat with
          relayReceipts := if m.delivery = .queued then chat.relayReceipts.erase msgId
            else chat.relayReceipts } := by
      unfold recalling takeReceipts
      split <;> simp [found]
    have ended := finishUnsend_ended (n := n.recalling contact msgId m) (served.recalling contact msgId m)
      foundNow hit ((n.planOf contact chat m).map (·.run net.recalled)) net later
    unfold tells at ended
    simp only [recalling_held, recalling_getsThrough, recalled, Bool.decide_eq_true] at ended
    unfold goesThrough tells
    simp only [named]
    exact Ended.standing ended (recalling_standing found m)

/-- A call that its checks refuse changes nothing. -/
theorem revise_refused (n : Node X) (contact msgId : String) {now : Nat}
    (refused : ∀ chat m, n.chats.lookup contact = some chat → chat.closed = false →
      chat.history.find? (·.isOwnText msgId) = some m → m.changeable now = false)
    (revision : Revision) (net : CallNetwork) (later : Nat) :
    (n.revise contact msgId revision net now later).1 = n
      ∧ n.takenBack contact msgId revision net now = [] := by
  have stopped : (∀ newText, ∃ reason, n.beginEdit contact msgId newText now = .error reason)
      ∧ ∃ reason, n.beginUnsend contact msgId now = .error reason := by
    unfold beginEdit beginUnsend
    cases found : n.chats.lookup contact with
    | none => simp
    | some chat =>
      cases closed : chat.closed with
      | true => simp [closed]
      | false =>
        cases hit : chat.history.find? (·.isOwnText msgId) with
        | none => simp [closed, hit]
        | some m =>
          have late := refused chat m found closed hit
          simp [closed, hit, late]
  cases revision with
  | edit newText =>
    obtain ⟨reason, refusal⟩ := stopped.1 newText
    simp [revise, editMessage, takenBack, refusal]
  | unsend =>
    obtain ⟨reason, refusal⟩ := stopped.2
    simp [revise, unsendMessage, takenBack, refusal]

/-- A revision leaves what there is of the message exactly when it is vain. -/
theorem revised_standing (found : n.chats.lookup contact = some chat) {m : ChatMessage}
    (named : m.msgId = msgId) (revision : Revision) :
    (n.revised contact msgId m revision).standing contact msgId = n.standing contact msgId
      ↔ vain chat m revision := by
  unfold standing vain copiesOf revised
  subst named
  by_cases queued : m.delivery = .queued
  · simp only [modifyChat, KeyedMap.lookup_modify, if_true, found, Option.map_some, queued,
      Option.bind_some, AList.lookup_erase, Option.getD_some, Option.getD_none, Standing.mk.injEq,
      and_true]
    exact and_congr_right fun _ => eq_comm
  · simp [queued, found, modifyChat]

/-- A plan with no copies takes none back. -/
theorem takenBack_vain {m : ChatMessage} {now : Nat} (found : n.chats.lookup contact = some chat)
    (isOpen : chat.closed = false) (hit : chat.history.find? (·.isOwnText msgId) = some m)
    (changeable : m.changeable now = true) (revision : Revision) (net : CallNetwork)
    (bare : copiesOf chat m = []) : n.takenBack contact msgId revision net now = [] := by
  have none_taken : ((n.planOf contact chat m).map (·.taken net.recalled)).getD [] = [] := by
    unfold planOf RecallPlan.taken recallPlan
    rw [bare]
    split <;> rfl
  cases revision with
  | edit newText =>
    simp only [takenBack, beginEdit_eq found isOpen hit changeable]
    cases planned : n.planOf contact chat m with
    | none => rfl
    | some plan =>
      rw [planned] at none_taken
      exact none_taken
  | unsend =>
    simp only [takenBack, beginUnsend_eq found isOpen hit changeable]
    cases planned : n.planOf contact chat m with
    | none => rfl
    | some plan =>
      rw [planned] at none_taken
      exact none_taken

/-- Recording what became of callers' sends queues nothing more. -/
theorem applyOutbound_outbox (finished : List (Finished X)) (n : Node X) (now : Nat)
    (callers : ∀ f ∈ finished, ∃ record, f.done = .caller record) :
    (n.applyOutbound finished now).outbox = n.outbox := by
  induction finished generalizing n with
  | nil => rfl
  | cons f rest ih =>
    obtain ⟨record, caller⟩ := callers f (.head _)
    have here : (n.applyFinished f now).outbox = n.outbox := by
      have reach : (n.noteReach f now).outbox = n.outbox := by
        unfold noteReach heldRetryFailed
        grind
      have held : ((n.noteReach f now).holdLost f).outbox = n.outbox := by
        unfold holdLost
        split <;> exact reach
      unfold applyFinished
      rw [caller]
      rcases record with _ | ⟨id, msgId⟩
      · exact held
      · cases f.delivery <;> exact held
    exact (ih (n.applyFinished f now) fun f member => callers f (.tail _ member)).trans here

theorem beginEdit_outbox {newText : String} {now : Nat} {plan : Option RecallPlan}
    (begun : n.beginEdit contact msgId newText now = .ok (n', plan)) : n'.outbox = n.outbox := by
  unfold beginEdit at begun
  split at begun
  · cases begun
  · split at begun
    · cases begun
    · split at begun
      · cases begun
      · split at begun
        · cases begun
        · simp only [] at begun
          split at begun <;> cases begun <;> rfl

theorem beginUnsend_outbox {now : Nat} {plan : Option RecallPlan}
    (begun : n.beginUnsend contact msgId now = .ok (n', plan)) : n'.outbox = n.outbox := by
  unfold beginUnsend at begun
  split at begun
  · cases begun
  · split at begun
    · cases begun
    · split at begun
      · cases begun
      · split at begun
        · cases begun
        · split at begun <;> cases begun <;> rfl

/-- An unsend that cannot seal its frame queued nothing. -/
theorem finishUnsend_outbox {recalled : Option Bool} {now : Nat} {reason : String}
    (failed : n.finishUnsend contact msgId recalled now = (n', .error reason)) :
    n'.outbox = n.outbox := by
  unfold finishUnsend at failed
  grind [modifyChat]

/-- A call leaves no send of its own behind. -/
theorem callEnd_served (n : Node X) (net : CallNetwork) (now : Nat) : (n.callEnd net now).1.Served := by
  unfold callEnd sendForCaller Served
  rw [applyOutbound_outbox]
  · intro o kept
    simpa [takeCallerOutbox] using (List.mem_filter.mp kept).2
  · intro f member
    obtain ⟨o, queued, rfl⟩ := List.mem_map.mp member
    have caller := (List.mem_filter.mp queued).2
    unfold Outbound.isCaller at caller
    cases done : o.done <;> simp_all [Outbound.run]

end Node

/-- What a call makes of a device between calls is a device between calls. -/
theorem Core.revise_served (core : Core X) (contact msgId : String) (revision : Revision)
    (net : CallNetwork) (now later : Nat) :
    (core.node.revise contact msgId revision net now later).1.Served := by
  cases revision with
  | edit newText =>
    show (core.node.editMessage contact msgId newText net now later).1.Served
    unfold Node.editMessage
    cases begun : core.node.beginEdit contact msgId newText now with
    | error reason => exact core.served
    | ok first =>
      cases finished : first.1.finishEdit contact msgId newText (first.2.map (·.run net.recalled)) later with
      | ok n =>
        simp only [finished]
        exact n.callEnd_served net later
      | error reason =>
        simp only [finished]
        unfold Node.Served
        rw [Node.beginEdit_outbox begun]
        exact core.served
  | unsend =>
    show (core.node.unsendMessage contact msgId net now later).1.Served
    unfold Node.unsendMessage
    cases begun : core.node.beginUnsend contact msgId now with
    | error reason => exact core.served
    | ok first =>
      cases finished : first.1.finishUnsend contact msgId (first.2.map (·.run net.recalled)) later with
      | mk n result =>
        cases result with
        | ok _ =>
          simp only [finished]
          exact n.callEnd_served net later
        | error reason =>
          simp only [finished]
          unfold Node.Served
          rw [Node.finishUnsend_outbox finished, Node.beginUnsend_outbox begun]
          exact core.served

/--
Edit and unsend are atomic on error exactly where they are refused, go through or change nothing.

Past its checks, a call that cannot seal its frame, or whose frame nobody takes, reports an error with
the text already rewritten or buried, and the message's copies already taken back.
-/
theorem Core.atomic_on_error_iff (core : Core X) (contact msgId : String) (revision : Revision)
    (net : CallNetwork) (now later : Nat) :
    core.node.AtomicOnError contact msgId revision net now later
      ↔ core.node.RevisesSafely contact msgId revision net now later := by
  constructor
  · intro atomic chat m found isOpen hit changeable
    have ended := Node.revise_ended core.served found isOpen hit changeable revision net later
    cases through : core.node.goesThrough contact chat m revision net later with
    | true => exact .inl rfl
    | false =>
      right
      rw [through] at ended
      generalize result : core.node.revise contact msgId revision net now later = final at ended
      unfold Node.AtomicOnError at atomic
      rw [result] at atomic
      cases ended with
      | failed same =>
        have kept := (atomic _ rfl).1
        exact (Node.revised_standing found (Node.named_of_hit hit) revision).mp (same.symm.trans kept)
  · intro safe reason failed
    by_cases eligible : ∃ chat m, core.node.chats.lookup contact = some chat ∧ chat.closed = false
        ∧ chat.history.find? (·.isOwnText msgId) = some m ∧ m.changeable now = true
    · obtain ⟨chat, m, found, isOpen, hit, changeable⟩ := eligible
      have ended := Node.revise_ended core.served found isOpen hit changeable revision net later
      rcases safe chat m found isOpen hit changeable with through | vain
      · -- A call that goes through reports no error.
        rw [through] at ended
        generalize core.node.revise contact msgId revision net now later = final at ended failed
        cases ended
        cases failed
      · refine ⟨?_, Node.takenBack_vain found isOpen hit changeable revision net vain.2⟩
        have unchanged := (Node.revised_standing found (Node.named_of_hit hit) revision).mpr vain
        generalize core.node.goesThrough contact chat m revision net later = through at ended
        generalize core.node.revise contact msgId revision net now later = final at ended failed
        cases ended with
        | through => cases failed
        | failed same => exact same.trans unchanged
    · have refused := Node.revise_refused core.node contact msgId
        (fun chat m found isOpen hit => Bool.eq_false_iff.mpr fun changeable =>
          eligible ⟨chat, m, found, isOpen, hit, changeable⟩) revision net later
      exact ⟨by rw [refused.1], refused.2⟩

/-- A device with one text of ours on the relay, and its receipt. -/
def posted : Core symbolic where
  node := { Symbolic.device with
    relay := some {}
    chats := (∅ : KeyedMap String (Chat symbolic)).insert "them" { Symbolic.chat with
      history := [{ ChatMessage.ofText true "meet at six" "m1" 5 with delivery := .queued }]
      relayReceipts := (∅ : KeyedMap String (List QueuedReceipt)).insert "m1"
        [{ handle := "mbx:them", msgId := "b1", deleteToken := "t1" }]
      mailbox := some (.seeded [1])
      relaySet := some { nightdrop := true } } }
  served _ queued := absurd queued List.not_mem_nil

/-- The relay gives back the copy it has, and then takes no other; the contact does not answer. -/
def lostAfterRecall : CallNetwork where
  recalled _ := true
  answered := false
  answers _ := none

/-- An edit that cannot be posted any more leaves its new text here, and no copy of it anywhere. -/
theorem edit_not_atomic :
    ¬ posted.node.AtomicOnError "them" "m1" (.edit "meet at seven") lostAfterRecall 60 61 := by
  intro atomic
  have failed : (posted.node.revise "them" "m1" (.edit "meet at seven") lostAfterRecall 60 61).2
      = .error "peer offline and no relay accepted the message" := by rfl
  have shown := congrArg Standing.shown (atomic _ failed).1
  exact absurd shown (by decide +kernel)

end Nightdrop
