import Nightdrop.Node.Gate
import Nightdrop.Proofs.Node.Door
import Nightdrop.Proofs.Node.Footing

/-! Onion access follows approval, but for those whose closed chat still has them admitted. -/

namespace Nightdrop

variable {X : Externals}

namespace Node

variable {n n' : Node X} {contact other : String}

/-- Chats approved as before are approved as before. -/
theorem Keeps.approves (keeps : n.Keeps Chat.authorized n') (contact : String) :
    n'.approves contact = n.approves contact := by
  have same := keeps contact
  unfold Node.approves
  revert same
  cases n'.chats.lookup contact <;> cases n.chats.lookup contact <;> simp

theorem approves_erase (n : Node X) (apart : other ≠ contact) :
    ({ n with chats := n.chats.erase contact } : Node X).approves other = n.approves other := by
  unfold Node.approves
  rw [KeyedMap.lookup_erase_if, if_neg apart]

/-- No frame but a `Hello` moves whether a chat is approved. -/
theorem processFrame_approval (n : Node X) (fromAddress : Option String) {frame : Frame X.OlmMessage}
    (inputs : FrameInputs) (now : Nat)
    (pairs : ∀ contact address message, frame ≠ .hello contact address message) :
    n.Keeps Chat.authorized (n.processFrame fromAddress frame inputs now).1 := by
  have noted : n.Keeps Chat.authorized { n with dirty := true } := .of_chats rfl
  by_cases refuses : ∃ sender code, frame = .codeInUse sender code
  · obtain ⟨sender, code, rfl⟩ := refuses
    exact noted.trans (receiveCodeInUse_keeps now (fun _ => rfl) _ sender)
  · by_cases closes : ∃ sender message, frame = .sealed .closed sender message
    · obtain ⟨sender, message, rfl⟩ := closes
      refine noted.trans ?_
      have checked := (verifyControl_footing { n with dirty := true } sender message MARK_CLOSED
        now).coarser Prod.fst
      simp only [processFrame, processSealed, receiveClosed]
      revert checked
      generalize verifyControl { n with dirty := true } sender message MARK_CLOSED now = verdict
      obtain ⟨n1, genuine⟩ := verdict
      intro checked
      cases genuine with
      | false => exact checked
      | true =>
        simp only []
        split
        · refine Keeps.trans checked (.modifyChat n1 sender _ fun chat _ => ?_)
          rfl
        · exact checked
    · exact (processFrame_footing n fromAddress inputs now pairs
        (fun sender message same => closes ⟨sender, message, same⟩)
        (fun sender code same => refuses ⟨sender, code, same⟩)).coarser Prod.fst

/-- A `Hello` moves only its own chat. -/
theorem adoptHello_elsewhere (n : Node X) (peerAddress : String) (session : X.Session)
    (body : Option HelloBody) (now : Nat) (apart : other ≠ contact) :
    (n.adoptHello contact peerAddress session body now).chats.lookup other = n.chats.lookup other := by
  unfold adoptHello
  split
  · simp only [lookup_modifyChat, if_neg apart]
    split
    · split
      · rw [deliverWith_chats, lookup_modifyChat, if_neg apart]
      · rw [lookup_modifyChat, if_neg apart]
    · rw [KeyedMap.lookup_insert_if, if_neg apart]
  · rw [KeyedMap.lookup_insert_if, if_neg apart]

/-- After a `Hello` a chat is approved if it was and was open, or if requests are not asked about. -/
theorem adoptHello_approves (n : Node X) (contact peerAddress : String) (session : X.Session)
    (body : Option HelloBody) (now : Nat)
    (kept : n.requireAuthorization = false
      ∨ ∃ chat, n.chats.lookup contact = some chat ∧ chat.authorized = true ∧ chat.closed = false)
    (approved : n.approves contact = true) :
    (n.adoptHello contact peerAddress session body now).approves contact = true := by
  have fresh (chats : KeyedMap String (Chat X)) (asks : n.requireAuthorization = false) :
      ((chats.insert contact (n.greeted session peerAddress body now)).lookup contact).any
        (·.authorized) = true := by
    simp [greeted, Chat.newPaired, asks]
  unfold Node.approves at approved ⊢
  unfold adoptHello
  cases found : n.chats.lookup contact with
  | none => simp [found] at approved
  | some prior =>
    have was : prior.authorized = true := by simpa [found] using approved
    simp only [lookup_modifyChat, if_true, Option.any_map, was]
    split
    · rw [deliverWith_chats, lookup_modifyChat, if_pos rfl, found]
      exact was
    · rename_i closed
      rcases kept with asks | ⟨chat, there, -, open'⟩
      · exact fresh _ asks
      · rw [found] at there
        cases there
        simp [open'] at closed

/-- Approving puts keys to use, and moves no approval. -/
theorem applyPendingKeys_approval (n : Node X) (contact : String) :
    n.Keeps Chat.authorized (n.applyPendingKeys contact) := by
  unfold applyPendingKeys
  split
  · exact .refl n
  · refine Keeps.trans (.modifyChat n contact _ fun chat _ => ?_) (.of_chats rfl)
    rfl

/-- What a join does to the approvals: the contact joined is approved, and no one else's moves. -/
theorem connectWithInvite_approves {peerAddress : String} {bundle : PreKeyBundle}
    {extras : InviteExtras} {inputs : JoinInputs} {now : Nat}
    (joins : n.connectWithInvite peerAddress bundle extras inputs now = .ok n') :
    n'.approves bundle.identityKey = true
      ∧ ∀ other, other ≠ bundle.identityKey → n'.approves other = n.approves other := by
  unfold connectWithInvite at joins
  simp only [] at joins
  split at joins
  · cases joins
  · split at joins
    · cases joins
    · split at joins
      · cases joins
      · rename_i session message _
        cases joins
        -- What follows the join announces, and leaves the chats as they stand.
        have announced (n2 : Node X) : n2.Keeps Chat.authorized
            ((if inputs.ownKey.isNone then
              n2.announceClientKey bundle.identityKey peerAddress inputs.minted now
              else n2).announceStanding bundle.identityKey now) := by
          refine Keeps.trans ?_ (announceStanding_keeps (fun _ _ => rfl) _ bundle.identityKey now)
          split
          · exact announceClientKey_keeps (fun _ _ => rfl) (fun _ _ => rfl) n2 _ _ _ now
          · exact .refl n2
        have joinKeys (pass own : Option Bytes) (chat : Chat X) :
            (setJoinKeys pass own chat).authorized = chat.authorized := by
          unfold setJoinKeys
          split <;> rfl
        rw [(announced _).approves bundle.identityKey]
        refine ⟨?_, fun other apart => ?_⟩
        · unfold Node.approves
          split
          · rename_i chat found
            rw [lookup_modifyChat, if_pos rfl, found]
            simp [rejoined, joinKeys]
          · rw [AList.lookup_insert]
            simp [joined, joinKeys, Chat.newPaired]
        · rw [(announced _).approves other]
          unfold Node.approves
          split
          · rw [lookup_modifyChat, if_neg apart]
            rfl
          · rw [AList.lookup_insert_ne apart]
            rfl

/-- A deletion moves no other approval. -/
theorem deleteChat_approves {now : Nat} (deletes : n.deleteChat contact now = .ok n') :
    n'.chats.lookup contact = none
      ∧ ∀ other, other ≠ contact → n'.approves other = n.approves other := by
  unfold deleteChat at deletes
  cases found : n.chats.lookup contact with
  | none => simp [found] at deletes
  | some chat =>
    simp only [found] at deletes
    cases deletes
    refine ⟨by rw [KeyedMap.lookup_erase_if, if_pos rfl], fun other apart => ?_⟩
    rw [approves_erase _ apart]
    split
    · rfl
    · rename_i n1 address frame did
      exact ((authedControl_keeps (fun _ _ => rfl) did).trans (.of_chats rfl)).approves other

end Node

namespace Door

/-- A change that admits no one else, and after which those admitted are approved as before. -/
theorem AccessFollows.of_less {d d' : Door X} (follows : d.AccessFollows)
    (less : ∀ name, d'.admits name = true → d.admits name = true)
    (same : ∀ name, d'.node.approves name = d.node.approves name) : d'.AccessFollows := by
  intro name admitted
  rw [same]
  exact follows name (less name admitted)

/-- A change that concerns one client: it follows for the others, and what is said of that one. -/
theorem AccessFollows.of_client {d d' : Door X} (client : String) (follows : d.AccessFollows)
    (less : ∀ name, name ≠ client → d'.admits name = true → d.admits name = true)
    (same : ∀ name, name ≠ client → d'.node.approves name = d.node.approves name)
    (theirs : d'.admits client = true →
      (∃ otk, client = passName otk) ∨ d'.node.approves client = true) : d'.AccessFollows := by
  intro name admitted
  by_cases this : name = client
  · subst this
    exact theirs admitted
  · rw [same name this]
    exact follows name (less name this admitted)

/-- Our own keys admit no one. -/
theorem given_insert_clients {α : Type} (d : Door X) (value : Option α) (onion : α → String)
    (secret : α → Bytes) :
    (d.given value (fun d a => d.insertClientKey (onion a) (secret a))).clients = d.clients := by
  cases value <;> rfl

/-- A `Hello` that was spent for admits no one it did not before. -/
theorem admits_given_spend (d : Door X) (otk : Option String) (name : String)
    (admitted : (d.given otk spendPass).admits name = true) : d.admits name = true := by
  cases otk with
  | none => exact admitted
  | some otk => exact ((admits_retirePasses d name).mp admitted).1

/-- An accepted `Hello` keeps access in step, unless it reopens a closed chat that is still admitted. -/
theorem receiveHello_follows {d : Door X} (follows : d.AccessFollows) (noted : d.node.dirty = true)
    {contact : String} {message : WireOlm X.OlmMessage} (orderly : d.reopens contact message = false)
    (fromAddress : Option String) (address : String) (inputs : Node.PairingInputs) (now : Nat) :
    (d.receiveHello fromAddress contact address message inputs now).AccessFollows := by
  cases readable : message.toOlm with
  | none =>
    rw [receiveHello_refused fun olm found => by simp [readable] at found]
    exact follows
  | some olm =>
    by_cases named : isKeyText contact = true
    · cases accepted : X.acceptInbound d.node.account contact olm with
      | none =>
        rw [receiveHello_refused fun other found _ => ?_]
        · exact follows
        · rw [readable] at found
          cases found
          exact accepted
      | some opening =>
        obtain ⟨account, session, plaintext⟩ := opening
        have nodes := receiveHello_node noted named fromAddress address message inputs now
        have keeps : Node.Keeps Chat.authorized _ _ := Node.receiveHello_keeps (fun _ _ => rfl)
          (fun _ _ _ _ => rfl) (fun _ _ => rfl) d.node readable accepted fromAddress address inputs now
        rw [← nodes] at keeps
        have opened : ({ d with node := { d.node with account := account } }.given (X.oneTimeKey olm)
            spendPass).node = { d.node with account := account } := by
          refine given_node _ _ fun d' otk same => ?_
          rw [spendPass_node, same]
          simp [noted]
        have beside {client : String} (only : client = contact ∨ Node.approves
            (Node.adoptHello { d.node with account := account } contact
              (if saneAddress address then address else fromAddress.getD "") session
              (X.readHello plaintext) now) contact = false) :=
          receiveHello_beside readable named accepted fromAddress address inputs now
            (only.imp id fun unapproved => by rw [opened]; exact unapproved)
        revert keeps beside
        generalize (if saneAddress address then address else fromAddress.getD "") = peerAddress
        intro keeps beside
        refine follows.of_client contact (fun name apart admitted => ?_) (fun name apart => ?_)
          fun admitted => ?_
        · rw [(beside (.inl rfl)).admits name apart] at admitted
          exact admits_given_spend d _ name admitted
        · rw [keeps.approves name]
          unfold Node.approves
          rw [Node.adoptHello_elsewhere _ peerAddress session _ now apart]
        · right
          rw [keeps.approves contact]
          by_contra unapproved
          rw [Bool.not_eq_true] at unapproved
          -- An unapproved chat's contact was admitted before: its chat was approved then, and is
          -- not now, so it was closed.
          have apart : passName "" ≠ contact := ne_passName named ""
          have before : d.admits contact = true := by
            have untouched : Beside (passName "") _ _ := beside (.inr unapproved)
            rw [untouched.admits contact apart.symm] at admitted
            exact admits_given_spend d _ contact admitted
          have was : d.node.approves contact = true := by
            rcases follows contact before with ⟨otk, same⟩ | approved
            · exact absurd same.symm (ne_passName named otk)
            · exact approved
          refine absurd (Node.adoptHello_approves { d.node with account := account } contact peerAddress
            session (X.readHello plaintext) now ?_ was) (by rw [unapproved]; exact Bool.false_ne_true)
          by_cases asks : d.node.requireAuthorization = true
          · right
            cases found : d.node.chats.lookup contact with
            | none => simp [Node.approves, found] at was
            | some chat =>
              refine ⟨chat, rfl, by simpa [Node.approves, found] using was, ?_⟩
              simpa [reopens, asks, before, found, named, readable, accepted] using orderly
          · exact .inl (by simpa using asks)
    · rw [receiveHello_refused fun _ _ named' => absurd named' named]
      exact follows

/-- No frame takes access out of step, unless it is such a `Hello`. -/
theorem receiveFrame_follows {d : Door X} (follows : d.AccessFollows) (fromAddress : Option String)
    (frame : Frame X.OlmMessage) (inputs : Node.FrameInputs) (now : Nat)
    (orderly : d.Orderly (.frame fromAddress frame inputs now)) :
    (d.receiveFrame fromAddress frame inputs now).AccessFollows := by
  -- All but a `Hello` leave the approvals, and only a client key admits anyone.
  have quiet {frame : Frame X.OlmMessage} (d' : Door X)
      (pairs : ∀ contact address message, frame ≠ .hello contact address message)
      (less : ∀ name, d'.admits name = true → d.admits name = true
        ∨ d.node.approves name = true) :
      ({ d' with node := (d.node.processFrame fromAddress frame inputs now).1 } : Door X).AccessFollows := by
    intro name admitted
    rw [(Node.processFrame_approval d.node fromAddress inputs now pairs).approves name]
    rcases less name admitted with before | approved
    · exact follows name before
    · exact .inr approved
  have keyed {α : Type} (value : Option α) (onion : α → String) (secret : α → Bytes) (name : String)
      (admitted : (d.given value (fun d a => d.insertClientKey (onion a) (secret a))).admits name = true) :
      d.admits name = true := by
    unfold admits at admitted ⊢
    rwa [given_insert_clients] at admitted
  cases frame with
  | hello contact address message =>
    exact receiveHello_follows (d := { d with node := { d.node with dirty := true } }) follows rfl
      orderly fromAddress address inputs.toPairingInputs now
  | «sealed» kind sender message =>
    cases kind with
    | clientKeySealed =>
      refine quiet _ (fun _ _ _ => by simp) fun name admitted => ?_
      split at admitted
      · rename_i approved
        by_cases this : name = sender
        · rw [this]
          exact .inr approved
        · left
          rw [(given_beside sender d (d.node.heardClientKey sender message) fun d key =>
            authorizeClient_beside d sender key).admits name this] at admitted
          exact admitted
      · exact .inl admitted
    | address =>
      refine quiet _ (fun _ _ _ => by simp) fun name admitted => .inl ?_
      revert admitted
      generalize (d.node.reading sender message).filter _ = heard
      cases heard with
      | none => exact id
      | some plaintext => exact keyed inputs.minted (fun _ => fromUtf8Lossy plaintext) (·.2) name
    | relaySet =>
      exact quiet _ (fun _ _ _ => by simp) fun name admitted => .inl (keyed _ _ _ name admitted)
    | _ => exact quiet d (fun _ _ _ => by simp) fun _ => .inl
  | _ => exact quiet d (fun _ _ _ => by simp) fun _ => .inl

/-- A join admits whom it approves. -/
theorem connectWithInvite_follows {d : Door X} (follows : d.AccessFollows)
    (seals : ∀ account bundle session plaintext, X.openOutbound account bundle = some session →
      X.encrypt session plaintext ≠ none)
    (peerAddress : String) (bundle : PreKeyBundle) (extras : InviteExtras)
    (reply : Option (String × Bytes)) (inputs : JoinInputs) (now : Nat) :
    (d.connectWithInvite peerAddress bundle extras reply inputs now).1.AccessFollows := by
  unfold connectWithInvite
  simp only []
  split
  · exact follows
  · rename_i uncapped
    split
    · exact follows
    · rename_i session opens
      generalize reply.filter (fun key => X.validateKey key.1) = reply
      -- Our own keys come first, then the reply pass for the inviter.
      have keyed {α : Type} (d : Door X) (value : Option α) (secret : α → Bytes) :
          Beside bundle.identityKey d (d.given value (fun d a => d.insertClientKey peerAddress (secret a)))
            ∧ (d.given value (fun d a => d.insertClientKey peerAddress (secret a))).node = d.node :=
        ⟨given_beside _ d value fun _ _ => ⟨rfl, rfl, fun _ _ => rfl⟩,
          given_node d value fun _ _ same => same⟩
      have own (d : Door X) (chosen : Bool) :
          Beside bundle.identityKey d (if chosen then
            d.given inputs.ownKey (fun d key => d.insertClientKey peerAddress key.2) else d)
            ∧ (if chosen then d.given inputs.ownKey (fun d key => d.insertClientKey peerAddress key.2)
              else d).node = d.node := by
        split
        · exact keyed d inputs.ownKey (·.2)
        · exact ⟨.refl d, rfl⟩
      have passed := keyed d extras.pass id
      have chosen := own (d.given extras.pass (fun d pass => d.insertClientKey peerAddress pass))
        extras.pass.isNone
      have begun := passed.1.trans chosen.1
      have node := chosen.2.trans passed.2
      revert begun node
      generalize (if extras.pass.isNone then
        (d.given extras.pass (fun d pass => d.insertClientKey peerAddress pass)).given inputs.ownKey
          (fun d key => d.insertClientKey peerAddress key.2)
        else d.given extras.pass (fun d pass => d.insertClientKey peerAddress pass)) = d1
      intro begun node
      have replied := given_beside bundle.identityKey d1 reply fun d key =>
        authorizeClient_beside d bundle.identityKey key.1
      have replied' : (d1.given reply (fun d key => d.authorizeClient bundle.identityKey key.1)).node
          = d.node :=
        (given_node d1 reply fun d' key same =>
          (authorizeClient_node d' bundle.identityKey key.1).trans same).trans node
      have client := begun.trans replied
      revert client replied'
      generalize d1.given reply (fun d key => d.authorizeClient bundle.identityKey key.1) = d2
      intro replied' client
      split
      · -- The session that was just opened seals, so the join cannot fail here.
        rename_i reason failed
        rw [replied'] at failed
        unfold Node.connectWithInvite at failed
        simp only [uncapped, opens, Bool.false_eq_true, if_false] at failed
        split at failed
        · rename_i unsealed
          exact absurd unsealed (seals _ _ _ _ opens)
        · cases failed
      · rename_i n joined
        rw [replied'] at joined
        obtain ⟨theirs, others⟩ := Node.connectWithInvite_approves joined
        have minted : ∀ name, name ≠ bundle.identityKey → (if inputs.ownKey.isNone then
            d2.given inputs.minted (fun d key => d.insertClientKey peerAddress key.2) else d2).admits name
            = d.admits name := by
          intro name apart
          rw [← client.admits name apart]
          split
          · exact (keyed d2 inputs.minted (·.2)).1.admits name apart
          · rfl
        exact follows.of_client bundle.identityKey (fun name apart admitted =>
          (minted name apart).symm.trans admitted) others fun _ => .inr theirs

@[simp] theorem admits_forgetContact (d : Door X) (contact peerAddress name : String) :
    (d.forgetContact contact peerAddress).admits name = (name ≠ contact && d.admits name) := by
  have revoked : (d.revokeClient contact).admits name = (name ≠ contact && d.admits name) := by
    unfold admits revokeClient
    rw [KeyedMap.lookup_erase_if]
    by_cases this : name = contact
    · simp [this]
    · simp [this]
  unfold forgetContact
  simp only []
  split
  · exact revoked
  · exact revoked

@[simp] theorem node_forgetContact (d : Door X) (contact peerAddress : String) :
    (d.forgetContact contact peerAddress).node = d.node := by
  unfold forgetContact
  simp only []
  split <;> rfl

/-- With a chat go the contact's key for our onion and our key for theirs. -/
theorem keys_forgetContact (d : Door X) (contact : String) {peerAddress : String}
    (known : peerAddress ≠ "") :
    (d.forgetContact contact peerAddress).keys.lookup peerAddress = none := by
  unfold forgetContact forgetPeerKey
  simp only [if_pos known]
  exact AList.lookup_erase peerAddress _

/-- Forgetting a contact with their chat keeps access in step. -/
theorem forgetContact_follows {d : Door X} (follows : d.AccessFollows) (contact peerAddress : String)
    {n : Node X} (others : ∀ other, other ≠ contact → n.approves other = d.node.approves other) :
    (({ d with node := n } : Door X).forgetContact contact peerAddress).AccessFollows := by
  refine follows.of_client contact (fun name apart admitted => ?_) (fun name apart => ?_)
    fun admitted => ?_
  · simp only [admits_forgetContact, Bool.and_eq_true] at admitted
    exact admitted.2
  · rw [node_forgetContact]
    exact others name apart
  · simp at admitted

/-- A deletion keeps access in step. -/
theorem deleteChat_follows {d : Door X} (follows : d.AccessFollows) (contact : String) (now : Nat) :
    (d.deleteChat contact now).1.AccessFollows := by
  unfold deleteChat
  split
  · exact follows
  · split
    · exact follows
    · rename_i n deleted
      exact forgetContact_follows follows contact _ (Node.deleteChat_approves deleted).2

/-- And so does every decision on a request. -/
theorem authorize_follows {d : Door X} (follows : d.AccessFollows) (contact : String) (accept : Bool)
    (now : Nat) : (d.authorize contact accept now).1.AccessFollows := by
  unfold authorize
  split
  · split
    · exact follows
    · exact forgetContact_follows follows contact _ fun other apart => Node.approves_erase _ apart
  · cases found : d.node.chats.lookup contact with
    | none => exact follows
    | some chat =>
      simp only []
      split
      · exact follows
      · split
        · exact follows
        · rename_i pending
          have waiting : d.node.approves contact = false := by
            simpa [Node.approves, found] using pending
          split
          · -- The chat goes without a word to the transport, which admitted nobody for it.
            refine follows.of_client contact (fun _ _ => id) (fun name apart => ?_) fun admitted => ?_
            · rw [Node.approves_erase _ apart]
              unfold Node.approves
              rw [Node.deliverWith_chats]
            · rcases follows contact admitted with pass | approved
              · exact .inl pass
              · rw [waiting] at approved
                cases approved
          · have approved : (d.node.modifyChat contact
                (fun chat => { chat with authorized := true })).approves contact = true := by
              simp [Node.approves, found]
            have others (name : String) (apart : name ≠ contact) : (d.node.modifyChat contact
                (fun chat => { chat with authorized := true })).approves name = d.node.approves name := by
              unfold Node.approves
              rw [Node.lookup_modifyChat, if_neg apart]
            revert approved others
            generalize d.node.modifyChat contact (fun chat => { chat with authorized := true }) = n
            intro approved others
            have applied := applyPendingKeys_beside { d with node := n } contact
            have told (n1 : Node X) (peerAddress : String) (frame : Frame X.OlmMessage) :
                n1.Keeps Chat.authorized (((n1.deliverWith peerAddress contact frame false (.caller none)
                  now).announceRelaySetTo contact now).announceStanding contact now) :=
              (Node.Keeps.of_chats (Node.deliverWith_chats ..)).trans
                ((Node.announceRelaySetTo_keeps (fun _ _ => rfl) _ contact now).trans
                  (Node.announceStanding_keeps (fun _ _ => rfl) _ contact now))
            have keeps (name : String) := (Node.applyPendingKeys_approval n contact).approves name
            refine follows.of_client contact (fun name apart admitted => ?_) (fun name apart => ?_)
              fun _ => .inr ?_
            · exact (applied.admits name apart).symm.trans admitted
            · rw [(told _ _ _).approves name, applyPendingKeys_node, keeps name]
              exact others name apart
            · rw [(told _ _ _).approves contact, applyPendingKeys_node, keeps contact]
              exact approved

/-- A restarted device has the approvals of its state file. -/
theorem restore_approves {n : Node X} (platform : Node.Platform) (now : Nat)
    {p : PersistedChat X} (written : p ∈ n.exportState.chats) (approved : p.authorized = true) :
    (Node.restore n.exportState platform now).approves p.contactId = true := by
  have named : n.exportState.chats.map (·.contactId) = n.chats.keys := by
    unfold Node.exportState AList.keys List.keys
    simp [Chat.toPersisted]
  have distinct : (n.exportState.chats.map (·.contactId)).Nodup := by
    rw [named]
    exact n.chats.nodupKeys
  have found := KeyedMap.lookup_foldl_insert (·.contactId) (fun p => p.toChat now) distinct ∅ written
  unfold Node.approves
  show Option.any _ ((n.exportState.chats.foldl
    (fun (chats : KeyedMap String (Chat X)) p => chats.insert p.contactId (p.toChat now)) ∅).lookup
      p.contactId) = true
  rw [found]
  simpa [PersistedChat.toChat] using approved

/-- Restoring our own keys at startup moves no approval. -/
theorem restoreClientKeys_approves (d : Door X) (minted : String → Option (String × Bytes))
    (now : Nat) : d.node.Keeps Chat.authorized (d.restoreClientKeys minted now).node := by
  unfold restoreClientKeys
  generalize d.node.chats.entries = chats
  induction chats generalizing d with
  | nil => exact .refl _
  | cons e rest ih =>
    rw [List.foldl_cons]
    refine Node.Keeps.trans ?_ (ih _)
    split
    · exact .refl _
    · split
      · exact .refl _
      · rw [announceClientKey_node]
        exact Node.announceClientKey_keeps (fun _ _ => rfl) (fun _ _ => rfl) _ _ _ _ now

/-- What holds of a door all along a run of orderly events. -/
structure Guarded (d : Door X) : Prop where
  follows : d.AccessFollows
  written : ∃ n : Node X, d.saved.state = n.exportState

/-- A restart from a state file that has the approvals keeps access in step. -/
theorem restart_follows {d : Door X} (guarded : d.Guarded) (platform : Node.Platform)
    (minted : String → Option (String × Bytes)) (now : Nat)
    (orderly : d.Orderly (.restart platform minted now)) :
    (d.restart platform minted now).AccessFollows := by
  obtain ⟨n, written⟩ := guarded.written
  unfold restart
  generalize beginning : ({ d with
    node := Node.restore d.saved.state platform now
    passes := d.saved.passes
    keys := ∅ } : Door X) = d1
  intro name admitted
  by_cases pass : ∃ otk, name = passName otk
  · exact .inl pass
  · right
    rw [(restoreClientKeys_approves d1 minted now).approves name]
    -- The onion still admits whom it admitted, and the file has their approval.
    have apart : name ≠ passName "" := fun same => pass ⟨"", same⟩
    rw [(restoreClientKeys_beside (passName "") d1 minted now).admits name apart] at admitted
    subst beginning
    rcases orderly name admitted with pass' | ⟨p, listed, rfl, approved⟩
    · exact absurd pass' pass
    · show (Node.restore d.saved.state platform now).approves p.contactId = true
      rw [written] at listed ⊢
      exact restore_approves platform now listed approved

/-- Nothing done with a value, if there is one, touches the state file if it does not with any. -/
theorem given_saved {α : Type} (d : Door X) (value : Option α) {act : Door X → α → Door X}
    (each : ∀ d a, (act d a).saved = d.saved) : (d.given value act).saved = d.saved := by
  cases value with
  | none => rfl
  | some a => exact each d a

theorem receiveHello_saved (d : Door X) (fromAddress : Option String) (contact address : String)
    (message : WireOlm X.OlmMessage) (inputs : Node.PairingInputs) (now : Nat) :
    (d.receiveHello fromAddress contact address message inputs now).saved = d.saved := by
  by_cases accepts : ∃ olm opening, message.toOlm = some olm ∧ isKeyText contact = true
      ∧ X.acceptInbound d.node.account contact olm = some opening
  · obtain ⟨olm, ⟨account, session, plaintext⟩, readable, named, accepted⟩ := accepts
    refine (receiveHello_beside readable named accepted fromAddress address inputs now
      (.inl rfl)).saved.trans ?_
    exact given_saved d _ fun d otk => saved_retirePasses d
  · rw [receiveHello_refused fun olm readable named => ?_]
    by_contra accepted
    obtain ⟨opening, accepted⟩ := Option.ne_none_iff_exists'.mp accepted
    exact accepts ⟨olm, opening, readable, named, accepted⟩

theorem receiveFrame_saved (d : Door X) (fromAddress : Option String) (frame : Frame X.OlmMessage)
    (inputs : Node.FrameInputs) (now : Nat) :
    (d.receiveFrame fromAddress frame inputs now).saved = d.saved := by
  cases frame with
  | hello contact address message =>
    exact receiveHello_saved _ fromAddress contact address message inputs.toPairingInputs now
  | «sealed» kind sender message =>
    cases kind with
    | clientKeySealed =>
      simp only [receiveFrame]
      split
      · exact given_saved d _ fun d key => (authorizeClient_beside d sender key).saved
      · rfl
    | address => exact given_saved d _ fun d _ => given_saved d _ fun _ _ => rfl
    | relaySet => exact given_saved d _ fun _ _ => rfl
    | _ => rfl
  | _ => rfl

theorem connectWithInvite_saved (d : Door X) (peerAddress : String) (bundle : PreKeyBundle)
    (extras : InviteExtras) (reply : Option (String × Bytes)) (inputs : JoinInputs) (now : Nat) :
    (d.connectWithInvite peerAddress bundle extras reply inputs now).1.saved = d.saved := by
  have keyed {α : Type} (d : Door X) (value : Option α) (secret : α → Bytes) :
      (d.given value (fun d a => d.insertClientKey peerAddress (secret a))).saved = d.saved :=
    given_saved d value fun _ _ => rfl
  have chosen {α : Type} (d : Door X) (adds : Bool) (value : Option α) (secret : α → Bytes) :
      (if adds then d.given value (fun d a => d.insertClientKey peerAddress (secret a)) else d).saved
        = d.saved := by
    split
    · exact keyed d value secret
    · rfl
  have replied (d : Door X) (reply : Option (String × Bytes)) :
      (d.given reply (fun d key => d.authorizeClient bundle.identityKey key.1)).saved = d.saved :=
    given_saved d reply fun d key => (authorizeClient_beside d bundle.identityKey key.1).saved
  unfold connectWithInvite
  simp only []
  split
  · rfl
  · split
    · rfl
    · have begun := (replied _ (reply.filter (fun key => X.validateKey key.1))).trans
        ((chosen _ extras.pass.isNone inputs.ownKey (·.2)).trans (keyed d extras.pass id))
      split
      · exact begun
      · exact (chosen _ inputs.ownKey.isNone inputs.minted (·.2)).trans begun

@[simp] theorem saved_forgetContact (d : Door X) (contact peerAddress : String) :
    (d.forgetContact contact peerAddress).saved = d.saved := by
  unfold forgetContact
  simp only []
  split <;> rfl

theorem deleteChat_saved (d : Door X) (contact : String) (now : Nat) :
    (d.deleteChat contact now).1.saved = d.saved := by
  unfold deleteChat
  split
  · rfl
  · split
    · rfl
    · exact saved_forgetContact _ contact _

theorem authorize_saved (d : Door X) (contact : String) (accept : Bool) (now : Nat) :
    (d.authorize contact accept now).1.saved = d.saved := by
  unfold authorize
  split
  · split
    · rfl
    · exact saved_forgetContact _ contact _
  · split
    · rfl
    · simp only []
      split
      · rfl
      · split
        · rfl
        · split
          · rfl
          · exact (applyPendingKeys_beside _ contact).saved

/-- The state file changes only when it is written. -/
theorem face_saved (d : Door X) (event : GateEvent X) :
    (d.face event).saved = d.saved ∨ (d.face event).saved.state = d.node.exportState := by
  cases event with
  | frame fromAddress frame inputs now => exact .inl (receiveFrame_saved d fromAddress frame inputs now)
  | join peerAddress bundle extras reply inputs now =>
    exact .inl (connectWithInvite_saved d peerAddress bundle extras reply inputs now)
  | authorize contact accept now => exact .inl (authorize_saved d contact accept now)
  | delete contact now => exact .inl (deleteChat_saved d contact now)
  | save => exact .inr rfl
  | restart platform minted now =>
    exact .inl (restoreClientKeys_beside "" { d with
      node := Node.restore d.saved.state platform now
      passes := d.saved.passes
      keys := ∅ } minted now).saved

/-- No event takes access out of step, but for the two kinds that are not orderly. -/
theorem Guarded.face {d : Door X} (guarded : d.Guarded)
    (seals : ∀ account bundle session plaintext, X.openOutbound account bundle = some session →
      X.encrypt session plaintext ≠ none)
    (event : GateEvent X) (orderly : d.Orderly event) : (d.face event).Guarded where
  follows := by
    cases event with
    | frame fromAddress frame inputs now =>
      exact receiveFrame_follows guarded.follows fromAddress frame inputs now orderly
    | join peerAddress bundle extras reply inputs now =>
      exact connectWithInvite_follows guarded.follows seals peerAddress bundle extras reply inputs now
    | authorize contact accept now => exact authorize_follows guarded.follows contact accept now
    | delete contact now => exact deleteChat_follows guarded.follows contact now
    | save => exact guarded.follows
    | restart platform minted now => exact restart_follows guarded platform minted now orderly
  written := by
    rcases face_saved d event with same | written
    · rw [same]
      exact guarded.written
    · exact ⟨d.node, written⟩

/-- What happens in a run of events, one after the other. -/
theorem Guarded.run {d : Door X} (guarded : d.Guarded)
    (seals : ∀ account bundle session plaintext, X.openOutbound account bundle = some session →
      X.encrypt session plaintext ≠ none)
    (events : List (GateEvent X)) (orderly : d.AllOrderly events) :
    (events.foldl Door.face d).Guarded := by
  induction events generalizing d with
  | nil => exact guarded
  | cons event rest ih => exact ih (guarded.face seals event orderly.1) orderly.2

/-- In every orderly run from a device that admits nobody, our onion admits only those whose chat is
approved, pairing passes aside; whoever waits for approval is not admitted; and once a chat is declined
or deleted, neither its contact's key for our onion nor our key for theirs remains. -/
theorem access_follows
    (seals : ∀ account bundle session plaintext, X.openOutbound account bundle = some session →
      X.encrypt session plaintext ≠ none)
    (node : Node X) (events : List (GateEvent X)) (orderly : (setUp node).AllOrderly events) :
    let d := events.foldl Door.face (setUp node)
    d.AccessFollows
      ∧ (∀ contact chat, d.node.chats.lookup contact = some chat → chat.authorized = false →
        (∀ otk, contact ≠ passName otk) → d.admits contact = false)
      ∧ ∀ contact chat now, d.node.chats.lookup contact = some chat →
        ∀ d', (d' = (d.authorize contact false now).1 ∨ d' = (d.deleteChat contact now).1) →
          d'.node.chats.lookup contact = none ∧ d'.admits contact = false
            ∧ (chat.peerAddress ≠ "" → d'.keys.lookup chat.peerAddress = none) := by
  have start : (setUp node).Guarded := {
    follows := fun name admitted => by simp [setUp, admits] at admitted
    written := ⟨node, rfl⟩ }
  have guarded := start.run seals events orderly
  refine ⟨guarded.follows, fun contact chat found waiting named => ?_,
    fun contact chat now found d' gone => ?_⟩
  · by_contra admitted
    rw [Bool.not_eq_false] at admitted
    rcases guarded.follows contact admitted with ⟨otk, same⟩ | approved
    · exact named otk same
    · simp [Node.approves, found, waiting] at approved
  · revert gone found
    generalize events.foldl Door.face (setUp node) = d
    intro found gone
    -- Both paths forget the contact on a device whose chat is gone.
    have forgotten (n : Node X) (erased : n.chats.lookup contact = none) :
        let d1 := ({ d with node := n } : Door X).forgetContact contact chat.peerAddress
        d1.node.chats.lookup contact = none ∧ d1.admits contact = false
          ∧ (chat.peerAddress ≠ "" → d1.keys.lookup chat.peerAddress = none) := by
      refine ⟨?_, by simp, keys_forgetContact _ contact⟩
      rw [node_forgetContact]
      exact erased
    rcases gone with rfl | rfl
    · simp only [authorize, Bool.not_false, if_true, found]
      exact forgotten _ (AList.lookup_erase contact d.node.chats)
    · simp only [deleteChat, found]
      cases deleted : d.node.deleteChat contact now with
      | error reason => simp [Node.deleteChat, found] at deleted
      | ok n => exact forgotten n (Node.deleteChat_approves deleted).1

end Door

namespace Symbolic

/-- A key for our onion, as a contact sends it. -/
def onionKey : String := "".pushn 'k' 52

/-- A contact hands us a key for our onion and closes the chat. -/
def admittedThenClosed : List (GateEvent symbolic) :=
  [.frame none (.sealed .clientKeySealed "them" (fromThem 1 (MARK_CLIENT_KEY_PREFIX ++ utf8 onionKey))) {} 0,
    .frame none (.sealed .closed "them" (fromThem 2 MARK_CLOSED)) {} 1]

/-- The same, and then they pair anew. -/
def closedThenPaired : List (GateEvent symbolic) :=
  admittedThenClosed
    ++ [.frame none (.hello "them" "them.onion" (pairing { relays := {}, clientKey := some onionKey })) {} 2]

/-- The device, where requests are asked about. -/
def askingDevice : Node symbolic := { device with requireAuthorization := true }

/-- A contact hands us a key, and pairs anew while the chat is open. -/
def pairedWhileOpen : List (GateEvent symbolic) :=
  [.frame none (.sealed .clientKeySealed "them" (fromThem 1 (MARK_CLIENT_KEY_PREFIX ++ utf8 onionKey))) {} 0,
    .frame none (.hello "them" "them.onion" (pairing { relays := {}, clientKey := some onionKey })) {} 1]

end Symbolic

/-- Someone who pairs anew over an open chat stays approved, and the deletion of that chat revokes their
key. -/
theorem open_repairing_follows :
    let d := Symbolic.pairedWhileOpen.foldl Door.face (Door.setUp Symbolic.askingDevice)
    d.admits "them" = true ∧ d.AccessFollows ∧ (d.deleteChat "them" 2).1.admits "them" = false := by
  have orderly : (Door.setUp Symbolic.askingDevice).AllOrderly Symbolic.pairedWhileOpen :=
    ⟨trivial, show Door.reopens _ _ _ = false by decide +kernel, trivial⟩
  obtain ⟨follows, -, gone⟩ := Door.access_follows (by intros; simp [symbolic])
    Symbolic.askingDevice Symbolic.pairedWhileOpen orderly
  obtain ⟨chat, found⟩ : ∃ chat, (Symbolic.pairedWhileOpen.foldl Door.face
      (Door.setUp Symbolic.askingDevice)).node.chats.lookup "them" = some chat :=
    Option.isSome_iff_exists.mp (by decide +kernel)
  exact ⟨by decide +kernel, follows, (gone "them" chat 2 found _ (.inr rfl)).2.1⟩

/-- Someone whose approved chat they closed pairs anew: they wait for approval, and are admitted all the
while. -/
theorem closed_repairing_stays_admitted :
    let d := Symbolic.closedThenPaired.foldl Door.face (Door.setUp Symbolic.askingDevice)
    d.admits "them" = true
      ∧ (d.node.chats.lookup "them").map (fun chat => (chat.authorized, chat.closed))
        = some (false, false) := by
  decide +kernel

end Nightdrop
