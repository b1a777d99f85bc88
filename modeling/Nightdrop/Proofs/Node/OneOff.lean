import Nightdrop.Node.OneOff
import Nightdrop.Proofs.Node.Keeps
import Nightdrop.Proofs.Node.Revise
import Nightdrop.Proofs.Node.Talk

/-! A one-off frame is lost just where nobody hears of its failure and a relay route failed it. -/

namespace Nightdrop

variable {X : Externals} {n n' n1 n2 : Node X} {contact : String} {bytes : Envelope X.OlmMessage}

/-- Only a call that waits can return a failure. -/
theorem Notice.waits_of_reported {notice : Notice} (reported : notice.reported = true) :
    notice.waits = true := by
  cases notice with
  | approval | edit | unsend => rfl
  | rename | timer | storage | approvalEcho | clientKey | verified => cases reported

theorem Notice.isOneOff_done (notice : Notice) :
    (notice.done : OutboundDone X).isOneOff = true := by
  unfold Notice.done
  split <;> rfl

/-- A relay that is asked nothing takes nothing. -/
theorem postOnions_refused (handle : String) (posted relays : List String) :
    postOnions (fun _ => none) handle posted relays = [] := by
  induction relays generalizing posted with
  | nil => rfl
  | cons relay rest ih =>
    unfold postOnions
    split
    · exact ih posted
    · simpa using ih (posted ++ [relay])

theorem queueOnRelays_refused (primary : Option RelayClient) (peerRelays : List String)
    (handle : String) : queueOnRelays (fun _ => none) primary peerRelays handle = none := by
  unfold queueOnRelays
  simp [postOnions_refused]

/-- A send that the core shuts down before running ends as one that nobody answers. -/
theorem Outbound.abandon_eq_run (o : Outbound X) : o.abandon = o.run false (fun _ => none) := by
  unfold abandon run DetachedSend.run
  rw [queueOnRelays_refused]
  cases o.route <;> simp

namespace Node

/-- The frame is on its way: it is held, or in the outbox under the outcome of its notice. -/
def Underway (n : Node X) (contact : String) (bytes : Envelope X.OlmMessage) (notice : Notice) :
    Prop :=
  n.Holds contact bytes ∨ ∃ o ∈ n.outbox, o.send.recipientIk = contact ∧ o.send.bytes = bytes
    ∧ o.route = .directThenRelay ∧ o.done = notice.done

/-- What is queued and held stays so. -/
def Onward (n n' : Node X) : Prop := n.outbox ⊆ n'.outbox ∧ n.held ⊆ n'.held

namespace Onward

theorem refl (n : Node X) : n.Onward n := ⟨List.Subset.refl _, List.Subset.refl _⟩

theorem trans (first : n.Onward n1) (second : n1.Onward n2) : n.Onward n2 :=
  ⟨List.Subset.trans first.1 second.1, List.Subset.trans first.2 second.2⟩

theorem of_same (outbox : n'.outbox = n.outbox) (held : n'.held = n.held) : n.Onward n' :=
  ⟨by rw [outbox]; exact List.Subset.refl _, by rw [held]; exact List.Subset.refl _⟩

end Onward

theorem Underway.onward {notice : Notice} (underway : n.Underway contact bytes notice)
    (onward : n.Onward n') : n'.Underway contact bytes notice := by
  rcases underway with holds | ⟨o, queued, same⟩
  · exact .inl (onward.2 holds)
  · exact .inr ⟨o, onward.1 queued, same⟩

/-- A frame delivered under its notice's outcome is under way. -/
theorem deliverWith_underway (notice : Notice) (n : Node X) (address contact : String)
    (frame : Frame X.OlmMessage) (now : Nat) :
    (n.deliverWith address contact frame false notice.done now).Underway contact (encode frame)
      notice := by
  unfold deliverWith
  split
  · -- The contact's app is too old: the frame is held for it.
    left
    unfold Notice.done Holds
    cases notice.waits <;> exact List.mem_append_right _ (List.mem_singleton_self _)
  · exact .inr ⟨_, List.mem_append_right _ (List.mem_singleton_self _), rfl, rfl, rfl, rfl⟩

theorem deliverWith_onward (n : Node X) (address contact : String) (frame : Frame X.OlmMessage)
    (fresh : Bool) (done : OutboundDone X) (now : Nat) :
    n.Onward (n.deliverWith address contact frame fresh done now) := by
  unfold deliverWith
  split
  · cases done with
    | announced kind id =>
      obtain ⟨outbox, held⟩ := applyAnnounced_failed_silent n kind id now
      exact .of_same outbox held
    | nothing | caller _ =>
      exact ⟨List.Subset.refl _, List.subset_append_left _ _⟩
    | pendingControl _ | held _ | unconfirmed _ | cover => exact .refl n
  · exact ⟨List.subset_append_left _ _, List.Subset.refl _⟩

theorem authedControl_onward {address : String} {marker : Bytes} {kind : SealedKind}
    {frame : Frame X.OlmMessage} (did : n.authedControl contact marker kind = some (n', address, frame)) :
    n.Onward n' := by
  obtain ⟨chat, session, message, -, -, rfl, -, -⟩ := authedControl_eq did
  exact .refl n

/-- An announcement takes nothing back but itself. -/
theorem announce_onward (n : Node X) (contact : String) (kind : Announce) (carrier : SealedKind)
    (marker : Bytes) {raise : Node X → Node X} (now : Nat) (flags : ∀ n : Node X, n.Onward (raise n)) :
    n.Onward (n.announce contact kind carrier marker raise now) := by
  unfold announce
  split
  · exact .refl n
  · rename_i n1 address frame did
    exact ((authedControl_onward did).trans (flags n1)).trans (deliverWith_onward ..)

theorem announceRelaySetTo_onward (n : Node X) (contact : String) (now : Nat) :
    n.Onward (n.announceRelaySetTo contact now) := by
  unfold announceRelaySetTo
  simp only []
  split
  · exact .refl n
  · split
    · exact .refl n
    · exact announce_onward n contact _ _ _ now fun n => .refl n

theorem announceStanding_onward (n : Node X) (contact : String) (now : Nat) :
    n.Onward (n.announceStanding contact now) := by
  have captures (n : Node X) : n.Onward (n.announceCapturesTo contact now) := by
    unfold announceCapturesTo
    split
    · exact .refl n
    · exact announce_onward n contact _ _ _ now fun n => .refl n
  have block (n : Node X) : n.Onward (n.announceBlockTo contact now) := by
    unfold announceBlockTo
    split
    · exact .refl n
    · exact announce_onward n contact _ _ _ now fun n => .refl n
  have version (n : Node X) : n.Onward (n.announceVersionTo contact now) := by
    unfold announceVersionTo
    split
    · exact .refl n
    · exact announce_onward n contact _ _ _ now fun n => .refl n
  have burns (n : Node X) : n.Onward (n.announceBurnsTo contact now) :=
    announce_onward n contact _ _ _ now fun n => .refl n
  exact (((captures n).trans (block _)).trans (burns _)).trans (version _)

theorem applyPendingKeys_onward (n : Node X) (contact : String) :
    n.Onward (n.applyPendingKeys contact) := by
  unfold applyPendingKeys
  split <;> exact .refl n

theorem announceClientKey_onward (n : Node X) (contact peerAddress : String)
    (minted : Option (String × Bytes)) (now : Nat) :
    n.Onward (n.announceClientKey contact peerAddress minted now) := by
  unfold announceClientKey
  split
  · exact .refl n
  · simp only []
    split
    · exact .refl n
    · rename_i n1 address frame did
      have enciphered := authedControl_onward did
      exact Onward.trans enciphered (deliverWith_onward ..)

theorem sendMailboxKey_onward (n : Node X) (contact : String) (fresh : Bytes) (now : Nat) :
    n.Onward (n.sendMailboxKey contact fresh now) := by
  unfold sendMailboxKey
  split
  · exact .refl n
  · split
    · exact .refl n
    · split
      · exact .refl n
      · simp only []
        split
        · exact .refl n
        · rename_i n1 address frame did
          have enciphered := authedControl_onward did
          refine enciphered.trans (Onward.trans ?_ (deliverWith_onward ..))
          exact .of_same rfl rfl

/-- A change that is told is told by a frame that is on its way. -/
theorem changeAndTell_underway (notice : Notice) {change : Chat X → Chat X} {payload : Bytes}
    {carrier : SealedKind} {address : String} {frame : Frame X.OlmMessage}
    (told : n.changeAndSeal contact change payload carrier = (n1, .ok (some (address, frame))))
    (now : Nat) :
    (n.changeAndTell contact change payload carrier notice.done now).1.Underway contact
      (encode frame) notice := by
  unfold changeAndTell
  rw [told]
  exact deliverWith_underway notice n1 address contact frame now

/-- A decision that lets a contact in has sent its approval. -/
theorem authorize_underway {chat : Chat X} {now : Nat} (found : n.chats.lookup contact = some chat)
    (waiting : chat.authorized = false) (decided : n.authorize contact true now = .ok n')
    (approved : (n'.chats.lookup contact).any (·.authorized) = true) :
    n'.Underway contact (encode (.approved n.identityKey (chat.code.getD ""))) .approval := by
  unfold authorize at decided
  simp only [Bool.not_true, Bool.false_eq_true, if_false, found, waiting, Bool.not_false,
    Bool.true_and] at decided
  split at decided
  · cases decided
  · split at decided
    · -- A code that is in use lets nobody in.
      obtain rfl := Except.ok.inj decided
      simp [AList.lookup_erase] at approved
    · obtain rfl := Except.ok.inj decided
      have delivered := deliverWith_underway .approval ((n.modifyChat contact (fun chat =>
          { chat with authorized := true })).applyPendingKeys contact) chat.peerAddress contact
        (.approved ((n.modifyChat contact (fun chat =>
          { chat with authorized := true })).applyPendingKeys contact).identityKey (chat.code.getD ""))
        now
      have same : ((n.modifyChat contact (fun chat =>
          { chat with authorized := true })).applyPendingKeys contact).identityKey
            = n.identityKey := by
        unfold applyPendingKeys
        split <;> rfl
      rw [same] at delivered
      rw [same]
      exact delivered.onward ((announceRelaySetTo_onward _ contact now).trans
        (announceStanding_onward _ contact now))

/-- A contact already let in hears the approval again when it pairs anew. -/
theorem receiveHello_underway {prior : Chat X} {now : Nat} {address : String}
    {message : WireOlm X.OlmMessage} {olm : X.OlmMessage} {account : X.Account} {session : X.Session}
    {plaintext : Bytes} (found : n.chats.lookup contact = some prior)
    (approved : prior.authorized = true) (isOpen : prior.closed = false)
    (readable : message.toOlm = some olm)
    (accepted : X.acceptInbound n.account contact olm = some (account, session, plaintext))
    (fromAddress : Option String) (inputs : PairingInputs) :
    (n.receiveHello fromAddress contact address message inputs now).1.Underway contact
      (encode (.approved n.identityKey (prior.code.getD ""))) .approvalEcho := by
  unfold receiveHello
  simp only [readable, accepted]
  generalize (if saneAddress address then address else fromAddress.getD "") = peerAddress
  have adopted : (Node.adoptHello { n with account := account } contact peerAddress session
      (X.readHello plaintext) now).Underway contact
      (encode (.approved n.identityKey (prior.code.getD ""))) .approvalEcho := by
    unfold adoptHello
    simp only [found, isOpen, approved, Bool.not_false, if_true]
    exact deliverWith_underway .approvalEcho (Node.modifyChat { n with account := account } contact
      (rekeyed session peerAddress (X.readHello plaintext))) peerAddress contact
      (.approved n.identityKey (prior.code.getD "")) now
  revert adopted
  generalize Node.adoptHello { n with account := account } contact peerAddress session
    (X.readHello plaintext) now = n1
  intro adopted
  -- What follows tells the contact more, and takes nothing back.
  have keyed : n1.Onward (if (n1.chats.lookup contact).any (·.authorized) then
      n1.applyPendingKeys contact else n1) := by
    split
    · exact applyPendingKeys_onward n1 contact
    · exact .refl n1
  refine Underway.onward adopted (keyed.trans ?_)
  generalize (if (n1.chats.lookup contact).any (·.authorized) then n1.applyPendingKeys contact
    else n1) = n2
  have handed : n2.Onward (if peerAddress ≠ ""
        && (((X.readHello plaintext).bind (·.pass)).bind X.decodeSecret).isNone then
      n2.announceClientKey contact peerAddress inputs.minted now else n2) := by
    split
    · exact announceClientKey_onward ..
    · exact .refl n2
  refine handed.trans ?_
  generalize (if peerAddress ≠ ""
        && (((X.readHello plaintext).bind (·.pass)).bind X.decodeSecret).isNone then
      n2.announceClientKey contact peerAddress inputs.minted now else n2) = n3
  split
  · refine ((announceStanding_onward n3 contact now).trans (announceRelaySetTo_onward _ contact
      now)).trans ?_
    split
    · exact .refl _
    · exact sendMailboxKey_onward ..
  · exact .refl n3

/-- What is produced is on its way when the operation returns. -/
theorem Produces.underway {notice : Notice} {now : Nat}
    (produced : n.Produces contact now notice bytes n') : n'.Underway contact bytes notice := by
  cases produced with
  | rename told => exact changeAndTell_underway .rename told now
  | timer told => exact changeAndTell_underway .timer told now
  | @storage on address n1 frame available told =>
    unfold setRemoteStorage
    rw [if_neg]
    · exact changeAndTell_underway .storage told now
    · cases on with
      | false => simp
      | true => simp [available rfl]
  | approval found waiting decided approved => exact authorize_underway found waiting decided approved
  | approvalEcho found approved isOpen readable accepted =>
    exact receiveHello_underway found approved isOpen readable accepted _ _
  | @edit msgId newText recalled n1 n' message told enciphered finished =>
    obtain ⟨unheld, kept⟩ := told
    unfold finishEdit at finished
    cases found : n.chats.lookup contact with
    | none => simp [unheld, found] at finished
    | some chat =>
      simp only [unheld, found, kept, if_false, enciphered] at finished
      obtain rfl := Except.ok.inj finished
      exact deliverWith_underway .edit n1 chat.peerAddress contact _ now
  | @unsend msgId recalled chat i n1 message found told there enciphered =>
    obtain ⟨unheld, kept⟩ := told
    unfold finishUnsend
    simp only [unheld, found, there, kept, if_false, enciphered]
    exact deliverWith_underway .unsend n1 chat.peerAddress contact _ now
  | @clientKey peerAddress address clientKey secret n1 frame enciphered =>
    unfold announceClientKey
    simp only [enciphered]
    exact deliverWith_underway .clientKey n1 peerAddress contact frame now
  | @verified on address chat n1 frame found enciphered =>
    unfold setVerified sendControl
    simp only [found, enciphered]
    exact deliverWith_underway .verified n1 address contact frame now

/-- The end of a call returns the failure of every send it waited on. -/
theorem callEnd_reports {o : Outbound X} {net : CallNetwork} (queued : o ∈ n.outbox)
    (failed : (o.run net.answered net.answers).callerFailed = true) (now : Nat) :
    (n.callEnd net now).2 = .error "peer offline and no relay accepted the message" := by
  have caller : o.isCaller = true := by
    unfold Finished.callerFailed Outbound.run at failed
    unfold Outbound.isCaller
    cases done : o.done with
    | caller record => rfl
    | nothing | announced _ _ | pendingControl _ | held _ | unconfirmed _ | cover =>
      simp [done] at failed
  have mine : o ∈ n.takeCallerOutbox.2 := List.mem_filter.mpr ⟨queued, caller⟩
  unfold callEnd sendForCaller
  have among : ((n.takeCallerOutbox.2.map fun o => o.run net.answered net.answers).any
      (·.callerFailed)) = true :=
    List.any_eq_true.mpr ⟨_, List.mem_map_of_mem mine, failed⟩
  simp only [among, if_true]

/-- An approval that fails is an error of the call that gave it. -/
theorem authorizeCall_reports {accept : Bool} {o : Outbound X} {net : CallNetwork} {now : Nat}
    (decided : n.authorize contact accept now = .ok n') (queued : o ∈ n'.outbox)
    (failed : (o.run net.answered net.answers).callerFailed = true) :
    (n.authorizeCall contact accept net now).2
      = .error "peer offline and no relay accepted the message" := by
  unfold authorizeCall
  simp only [decided]
  exact callEnd_reports queued failed now

/-- A timer that fails to be told is no error of the call that set it. -/
theorem setDisappearingCall_silent (n : Node X) (contact : String) (secs : Nat) (net : CallNetwork)
    (now : Nat) :
    (n.setDisappearingCall contact secs net now).2 = (n.setDisappearing contact secs now).2 := by
  unfold setDisappearingCall
  generalize n.setDisappearing contact secs now = result
  obtain ⟨n1, reason | done⟩ := result
  · rfl
  · rfl

/-- Noting whom a send reached leaves the chats and the queue. -/
theorem noteReach_same (n : Node X) (f : Finished X) (now : Nat) :
    (n.noteReach f now).chats = n.chats ∧ (n.noteReach f now).held = n.held := by
  unfold noteReach heldRetryFailed
  grind

/-- The outcome of a one-off send is what holding a lost frame makes of it. -/
theorem applyFinished_oneOff {f : Finished X} {notice : Notice} (outcome : f.done = notice.done)
    (later : Nat) : n.applyFinished f later = (n.noteReach f later).holdLost f := by
  unfold applyFinished
  rw [outcome]
  unfold Notice.done
  cases notice.waits with
  | true => rfl
  | false => rfl

/-- A one-off send ends well exactly if it gets out, or its caller hears of the failure. -/
theorem endsWell_iff {o : Outbound X} {notice : Notice} (route : o.route = .directThenRelay)
    (outcome : o.done = notice.done) (answered : Bool) (answers : RelayAnswers)
    (isOpen : (n.chats.lookup o.send.recipientIk).any (!·.closed) = true) (later : Nat) :
    n.EndsWell notice (o.run answered answers) later
      ↔ (o.reaches answered answers = true ∨ notice.reported = true) := by
  have recorded := applyFinished_oneOff (n := n) (f := o.run answered answers) outcome later
  obtain ⟨chats, held⟩ := noteReach_same n (o.run answered answers) later
  have oneOff : (o.run answered answers).done.isOneOff = true := by
    show o.done.isOneOff = true
    rw [outcome]
    exact notice.isOneOff_done
  have openThere : ((n.noteReach (o.run answered answers) later).chats.lookup
      (o.run answered answers).recipient).any (!·.closed) = true := by
    rw [chats]
    exact isOpen
  unfold EndsWell
  rw [recorded]
  by_cases direct : (o.send.peerAddress ≠ "" && answered) = true
  · -- The dial is answered.
    have landed : (o.run answered answers).delivery = .direct := by
      simp only [Outbound.run, DetachedSend.run, route, direct, if_true]
    have reaches : o.reaches answered answers = true := by
      simp only [Outbound.reaches, direct, Bool.true_or]
    simp [landed, reaches]
  · have missed : (o.send.peerAddress ≠ "" && answered) = false := Bool.eq_false_iff.mpr direct
    by_cases relayless : (o.send.primary.isNone && o.send.peerRelays = []) = true
    · -- Nowhere to post a copy: the frame is held.
      have failed : (o.run answered answers).delivery = .failed := by
        simp only [Outbound.run, DetachedSend.run, route, missed, relayless, Bool.false_eq_true,
          if_false, if_true]
      have bare : (o.run answered answers).relayless = true := relayless
      have reaches : o.reaches answered answers = true := by
        simp only [Outbound.reaches, relayless, Bool.or_true, Bool.true_or]
      have kept : ((n.noteReach (o.run answered answers) later).holdLost (o.run answered answers)).held
          = n.held ++ [{ contactId := (o.run answered answers).recipient, msgId := ""
                         bytes := (o.run answered answers).bytes }] := by
        unfold holdLost
        simp [failed, bare, oneOff, openThere, held]
      simp [kept, reaches]
    · have routed : (o.send.primary.isNone && o.send.peerRelays = []) = false :=
        Bool.eq_false_iff.mpr relayless
      cases posted : queueOnRelays answers o.send.primary o.send.peerRelays o.send.handle with
      | some copies =>
        have landed : (o.run answered answers).delivery = .relay copies := by
          simp only [Outbound.run, DetachedSend.run, route, missed, routed, posted,
            Bool.false_eq_true, if_false]
        have reaches : o.reaches answered answers = true := by simp [Outbound.reaches, posted]
        simp [landed, reaches]
      | none =>
        -- The relay route failed it: only a caller that hears of it is left.
        have failed : (o.run answered answers).delivery = .failed := by
          simp only [Outbound.run, DetachedSend.run, route, missed, routed, posted,
            Bool.false_eq_true, if_false]
        have bare : (o.run answered answers).relayless = false := routed
        have misses : o.reaches answered answers = false := by
          simp only [Outbound.reaches, missed, routed, posted, Option.isSome_none, Bool.or_false]
        have dropped : ((n.noteReach (o.run answered answers) later).holdLost
            (o.run answered answers)).held ≠ n.held
              ++ [{ contactId := (o.run answered answers).recipient, msgId := ""
                    bytes := (o.run answered answers).bytes }] := by
          unfold holdLost
          simp [bare, held]
        have heard : notice.reported = true → (o.run answered answers).callerFailed = true := by
          intro reported
          have waits := Notice.waits_of_reported reported
          have caller : (o.run answered answers).done = .caller none := by
            show o.done = _
            rw [outcome, Notice.done, waits]
            rfl
          simp [Finished.callerFailed, caller, failed, bare]
        simp only [failed, ne_eq, not_true_eq_false, dropped, misses, Bool.false_eq_true, false_or]
        exact ⟨fun both => both.1, fun reported => ⟨reported, heard reported⟩⟩

/--
A one-off frame for an open contact lands, or is held, or its caller hears that it failed, except
that a best-effort one is dropped exactly where a relay route failed it.

Best effort are a rename, a timer, a storage switch, a client key, a verified notice, and the
approval a contact hears again.
-/
theorem one_off_ends_well {notice : Notice} {now : Nat}
    (produced : n.Produces contact now notice bytes n') :
    n'.Holds contact bytes ∨ ∃ o ∈ n'.outbox, o.send.recipientIk = contact ∧ o.send.bytes = bytes
      ∧ ∀ (m : Node X) (answered : Bool) (answers : RelayAnswers) (later : Nat),
        (m.chats.lookup contact).any (!·.closed) = true →
          (m.EndsWell notice (o.run answered answers) later
            ↔ (o.reaches answered answers = true ∨ notice.reported = true)) := by
  rcases produced.underway with holds | ⟨o, queued, rfl, same, route, outcome⟩
  · exact .inl holds
  · exact .inr ⟨o, queued, rfl, same, fun m answered answers later isOpen =>
      endsWell_iff route outcome answered answers isOpen later⟩

end Node

/-- A device with a relay, and a contact to whom it is told. -/
def withRelay : Node symbolic :=
  { Symbolic.device with
    relay := some {}
    relays := [.nightDrop]
    chats := (∅ : KeyedMap String (Chat symbolic)).insert "them" { Symbolic.chat with
      mailbox := some (.seeded [1])
      relaySet := some { nightdrop := true } } }

/-- What tells the contact of a new name. -/
def renameFrame : Envelope symbolic.OlmMessage :=
  encode (.sealed .name "me" (.fromOlm (⟨"first", true, 1, utf8 "Robin"⟩ : Symbolic.Cipher)))

/-- The device once it was renamed. -/
def renamed : Node symbolic := (withRelay.setMyName "them" "Robin" 5).1

/-- The rename is on its way. -/
theorem rename_ends_well :
    renamed.Holds "them" renameFrame ∨ ∃ o ∈ renamed.outbox, o.send.recipientIk = "them"
      ∧ o.send.bytes = renameFrame
      ∧ ∀ (m : Node symbolic) (answered : Bool) (answers : RelayAnswers) (later : Nat),
        (m.chats.lookup "them").any (!·.closed) = true →
          (m.EndsWell .rename (o.run answered answers) later
            ↔ (o.reaches answered answers = true ∨ Notice.rename.reported = true)) := by
  have produced : withRelay.Produces "them" 5 .rename renameFrame renamed := .rename rfl
  exact Node.one_off_ends_well produced

/-- A rename that neither the contact nor the relay takes is gone, and nobody hears of it. -/
theorem rename_lost :
    withRelay.Produces "them" 5 .rename renameFrame renamed ∧ ¬ renamed.Holds "them" renameFrame
      ∧ ∀ o ∈ renamed.outbox, ¬ renamed.EndsWell .rename (o.run false fun _ => none) 6 := by
  refine ⟨.rename rfl, ?_, ?_⟩
  · exact List.not_mem_nil
  · intro o queued
    obtain rfl := List.mem_singleton.mp queued
    decide +kernel

end Nightdrop
