import Nightdrop.Lib.Reach
import Nightdrop.Node.Symbolic
import Nightdrop.Proofs.Node.Access

/-! Admission over runs: what each event may do to the chats, and what a run of them may. -/

namespace Nightdrop

variable {X : Externals}

namespace Chat

/-- A chat's messages held again are ours. -/
theorem admitted_isOwn (chat : Chat X) (id : String) (change : ChatMessage → ChatMessage)
    (stays : ∀ m, m.fromMe = true → (change m).fromMe = true) :
    ({ chat with history := updateFirst (·.isOwn id) change chat.history } : Chat X).admitted
      = chat.admitted := by
  have mine : ∀ m : ChatMessage, m.isOwn id = true → m.fromMe = true := by
    intro m own
    simp only [ChatMessage.isOwn, Bool.and_eq_true] at own
    exact own.1
  exact congrArg (Prod.mk chat.authorized)
    (contents_updateFirst mine (fun m own => stays m (mine m own)) chat.history)

end Chat

namespace Node

/-- Nothing of a contact that is not let in enters, and only those who may are let in. -/
structure Guarded (n : Node X) (may : String → Prop) (n' : Node X) : Prop where
  letIn : ∀ contact, n'.letIn contact = true → n.letIn contact = true ∨ may contact
  said : ∀ contact, n.letIn contact = false → (n'.saidBy contact).Sublist (n.saidBy contact)

theorem Keeps.letIn_eq {n n' : Node X} (keeps : n.Keeps Chat.guarded n') (contact : String) :
    n'.letIn contact = n.letIn contact := by
  have same := keeps contact
  unfold Node.letIn
  cases before : n.chats.lookup contact <;> cases after : n'.chats.lookup contact <;>
    simp_all [Chat.guarded]

theorem Keeps.saidBy_eq {n n' : Node X} (keeps : n.Keeps Chat.guarded n') (contact : String)
    (out : n.letIn contact = false) : n'.saidBy contact = n.saidBy contact := by
  have same := keeps contact
  unfold Node.letIn at out
  unfold Node.saidBy
  cases before : n.chats.lookup contact with
  | none => cases after : n'.chats.lookup contact <;> simp_all
  | some chat =>
    rw [before] at same
    obtain ⟨chat', found', views⟩ := Option.map_eq_some_iff.mp same
    have unlet : chat.authorized = false := by simpa [before] using out
    have still : chat'.authorized = false := by rw [← unlet]; exact congrArg Prod.fst views
    have words := congrArg Prod.snd views
    simp only [Chat.guarded, unlet, still] at words
    simpa [found'] using words

/-- What shows no words and no decision shows the same words. -/
theorem Keeps.said_eq {n n' : Node X} (keeps : n.Keeps Chat.admitted n') (contact : String) :
    n'.saidBy contact = n.saidBy contact := by
  have views := keeps contact
  unfold Node.saidBy
  cases before : n.chats.lookup contact <;> cases after : n'.chats.lookup contact <;>
    simp_all [Chat.admitted]

namespace Guarded

variable {may : String → Prop}

/-- What shows nothing guarded is guarded. -/
theorem of_keeps {n n' : Node X} (keeps : n.Keeps Chat.guarded n') : n.Guarded may n' where
  letIn := fun contact enters => Or.inl (by rwa [keeps.letIn_eq] at enters)
  said := fun contact out => by rw [keeps.saidBy_eq contact out]

/-- What follows and shows neither words nor a decision adds nothing. -/
theorem keeps {n n1 n2 : Node X} (first : n.Guarded may n1) (second : n1.Keeps Chat.admitted n2) :
    n.Guarded may n2 where
  letIn := fun contact enters => by
    rw [second.guarded.letIn_eq] at enters
    exact first.letIn contact enters
  said := fun contact out => by
    rw [second.said_eq contact]
    exact first.said contact out

/-- What came before and shows neither words nor a decision adds nothing. -/
theorem after {n n1 n2 : Node X} (first : n.Keeps Chat.admitted n1) (second : n1.Guarded may n2) :
    n.Guarded may n2 where
  letIn := fun contact enters => by
    rw [← first.guarded.letIn_eq]
    exact second.letIn contact enters
  said := fun contact out => by
    rw [← first.guarded.saidBy_eq contact out]
    exact second.said contact (by rw [first.guarded.letIn_eq, out])

/-- One chat is decided on: it goes, or comes to say no more than before. -/
theorem at_contact {n n' : Node X} {contact : String} (elsewhere : Elsewhere contact n n')
    (enters : n'.letIn contact = true → n.letIn contact = true ∨ may contact)
    (said : n.letIn contact = false → (n'.saidBy contact).Sublist (n.saidBy contact)) :
    n.Guarded may n' where
  letIn := fun other => by
    by_cases here : other = contact
    · rw [here]
      exact enters
    · unfold Node.letIn
      rw [elsewhere other here]
      exact Or.inl
  said := fun other => by
    by_cases here : other = contact
    · rw [here]
      exact said
    · unfold Node.saidBy
      rw [elsewhere other here]
      exact fun _ => .refl _

/-- A chat that goes takes its words along. -/
theorem erase (n : Node X) (contact : String) :
    n.Guarded may { n with chats := n.chats.erase contact } := by
  refine @at_contact _ _ _ _ contact (fun other apart => ?_) (fun enters => ?_) (fun _ => ?_)
  · exact AList.lookup_erase_ne apart
  · simp [Node.letIn, AList.lookup_erase] at enters
  · simp [Node.saidBy, AList.lookup_erase]

end Guarded

/-- A `Hello` opens a chat for someone new, which is let in only when requests are not asked
about; a known chat keeps its conversation and the decision on it. -/
theorem adoptHello_guarded (n : Node X) (contact peerAddress : String) (session : X.Session)
    (body : Option HelloBody) (now : Nat) :
    n.Guarded (fun c => n.requireAuthorization = false ∧ c = contact)
      (n.adoptHello contact peerAddress session body now) := by
  have fresh : n.Guarded (fun c => n.requireAuthorization = false ∧ c = contact)
      { n with chats := n.chats.insert contact (n.greeted session peerAddress body now) } := by
    refine @Guarded.at_contact _ _ _ _ contact (fun other apart => ?_) (fun enters => ?_) (fun _ => ?_)
    · exact AList.lookup_insert_ne apart
    · have open' : n.requireAuthorization = false := by
        simpa [Node.letIn, greeted, Chat.newPaired] using enters
      exact Or.inr ⟨open', rfl⟩
    · simp [Node.saidBy, greeted, Chat.newPaired, Chat.contents]
  unfold adoptHello
  cases n.chats.lookup contact with
  | none => exact fresh
  | some prior =>
    -- The notice that follows is none of the contact's words.
    refine Guarded.keeps ?_
      (.modifyChat _ contact _ fun chat _ => Chat.admitted_note _ now chat)
    split
    · have rekeyed : n.Keeps Chat.admitted
          (n.modifyChat contact (rekeyed session peerAddress body)) :=
        .modifyChat n contact _ fun _ _ => rfl
      split
      · exact .of_keeps (rekeyed.trans (.of_chats (deliverWith_chats ..))).guarded
      · exact .of_keeps rekeyed.guarded
    · exact fresh

/-- A `Hello` that cannot be opened changes nothing, and one that can lets in whom it opens a
chat for, if anyone. -/
theorem receiveHello_guarded (n : Node X) (fromAddress : Option String) (contact address : String)
    (message : WireOlm X.OlmMessage) (inputs : PairingInputs) (now : Nat) :
    n.Guarded (fun c => n.requireAuthorization = false ∧ c = contact)
      (n.receiveHello fromAddress contact address message inputs now).1 := by
  cases readable : message.toOlm with
  | none =>
    unfold receiveHello
    simp only [readable]
    exact .of_keeps (.refl _)
  | some olm =>
    cases accepted : X.acceptInbound n.account contact olm with
    | none =>
      unfold receiveHello
      simp only [readable, accepted]
      exact .of_keeps (.refl _)
    | some opened =>
      obtain ⟨account, session, plaintext⟩ := opened
      -- What follows the adoption announces, and shows nothing.
      refine Guarded.keeps ?_ (receiveHello_keeps Chat.unsealed_admitted (fun _ _ _ _ => rfl)
        (fun _ _ => rfl) n readable accepted fromAddress address inputs now)
      have adopted := adoptHello_guarded { n with account := account } contact
        (if saneAddress address then address else fromAddress.getD "") session
        (X.readHello plaintext) now
      have counted : n.Keeps Chat.admitted { n with account := account } := .of_chats rfl
      exact .after counted adopted

/-- No frame but a `Hello` brings words into a chat that is not let in, or lets one in. -/
theorem processFrame_guarded (n : Node X) (fromAddress : Option String)
    (frame : Frame X.OlmMessage) (inputs : FrameInputs) (now : Nat) :
    n.Guarded (fun c => n.requireAuthorization = false ∧ ∃ address message,
        frame = .hello c address message)
      (n.processFrame fromAddress frame inputs now).1 := by
  have noted : n.Keeps Chat.admitted { n with dirty := true } := .of_chats rfl
  refine .after noted ?_
  cases frame with
  | hello contact address message =>
    have greeted := receiveHello_guarded { n with dirty := true } fromAddress contact address
      message inputs.toPairingInputs now
    exact ⟨fun c enters => (greeted.letIn c enters).imp id
      (fun may => ⟨may.1, address, message, by rw [may.2]⟩), greeted.said⟩
  | message sender id message => exact .of_keeps (receiveUser_guarded _ sender id message _ _ now)
  | burn sender id message => exact .of_keeps (receiveUser_guarded _ sender id message _ _ now)
  | «sealed» kind sender message =>
    exact .of_keeps (processSealed_guarded _ kind sender message inputs now)
  | approved sender code =>
    refine .of_keeps (receiveApproved_keeps Chat.unsealed_admitted sender now (fun chat => ?_)
      (fun chat => ?_) (fun _ => rfl) _).guarded
    · exact congrArg (Prod.mk chat.authorized) Chat.contents_filter_system
    · exact congrArg (Prod.mk chat.authorized) (Chat.contents_append rfl)
  | codeInUse sender code =>
    exact .of_keeps (receiveCodeInUse_keeps now
      (fun chat => Chat.admitted_note _ now { chat with closed := true }) _ sender).guarded
  | pake => exact .of_keeps (.refl _)
  | cover => exact .of_keeps (.refl _)
  | clientKey => exact .of_keeps (.refl _)

/-- No envelope does more than the frame in it, and a copy taken in before does nothing. -/
theorem takeIn_guarded (n : Node X) (fromAddress : Option String) (bytes : Envelope X.OlmMessage)
    (inputs : FrameInputs) (now : Nat) :
    n.Guarded (fun c => n.requireAuthorization = false ∧ ∃ address message,
        decode bytes = some (.hello c address message))
      (n.takeIn fromAddress bytes inputs now).1 := by
  unfold takeIn
  cases decoded : decode bytes with
  | none =>
    cases legacySender bytes with
    | none => exact .of_keeps (.refl n)
    | some sender =>
      refine .of_keeps ?_
      show n.Keeps Chat.guarded (n.noteLegacyFrame sender)
      unfold noteLegacyFrame
      split
      · exact .refl n
      · simp only []
        split
        · have marked : n.Keeps Chat.guarded
              (n.modifyChat sender (fun chat => { chat with peerWireOld := true })) :=
            .modifyChat n sender _ fun _ _ => rfl
          exact marked.trans (.of_chats rfl)
        · exact .refl n
  | some frame =>
    -- Remembering a copy shows neither words nor a decision.
    have remembered : (n.isDuplicateUserFrame frame bytes).1.chats = n.chats
        ∧ (n.isDuplicateUserFrame frame bytes).1.requireAuthorization = n.requireAuthorization := by
      unfold isDuplicateUserFrame
      split
      · exact ⟨rfl, rfl⟩
      · simp only []
        split <;> split <;> exact ⟨rfl, rfl⟩
    obtain ⟨⟨n1, copy⟩, seen⟩ : ∃ r, r = n.isDuplicateUserFrame frame bytes := ⟨_, rfl⟩
    rw [← seen] at remembered
    simp only [← seen]
    refine .after (.of_chats remembered.1) ?_
    cases copy with
    | true => exact .of_keeps (.refl n1)
    | false =>
      have processed := n1.processFrame_guarded fromAddress frame inputs now
      refine ⟨fun c enters => (processed.letIn c enters).imp id ?_, processed.said⟩
      rintro ⟨asked, address, message, rfl⟩
      exact ⟨remembered.2 ▸ asked, address, message, rfl⟩

/-- The chat of a join is the contact's old one, or a new one without words. -/
theorem joined_guarded (n : Node X) (contact : String) (session : X.Session) (peerAddress : String)
    (extras : InviteExtras) (mine : RelaySet) (inputs : JoinInputs) (now : Nat) :
    n.Guarded (contact = ·)
      (match n.chats.lookup contact with
        | some _ => n.modifyChat contact (rejoined session peerAddress extras mine inputs now)
        | none =>
          { n with
            chats := n.chats.insert contact
              (joined session peerAddress extras mine inputs now) }) := by
  have keyed : ∀ (pass own : Option Bytes) (chat : Chat X),
      (setJoinKeys pass own chat).history = chat.history := by
    intro pass own chat
    cases pass <;> rfl
  split
  · refine .at_contact (.modifyChat n _) (fun _ => Or.inr rfl) (fun _ => ?_)
    unfold Node.saidBy
    rw [lookup_modifyChat, if_pos rfl]
    cases n.chats.lookup contact with
    | none => exact .refl _
    | some chat => simp [rejoined, Chat.contents, keyed, ChatMessage.ofSystem]
  · refine .at_contact (fun other apart => AList.lookup_insert_ne apart)
      (fun _ => Or.inr rfl) (fun _ => ?_)
    simp [Node.saidBy, joined, Chat.contents, keyed, Chat.newPaired]

/-- A join lets in the contact whose invite it is, and brings none of its words. -/
theorem connectWithInvite_guarded {n n' : Node X} {peerAddress : String} {bundle : PreKeyBundle}
    {extras : InviteExtras} {inputs : JoinInputs} {now : Nat}
    (joins : n.connectWithInvite peerAddress bundle extras inputs now = .ok n') :
    n.Guarded (bundle.identityKey = ·) n' := by
  unfold connectWithInvite at joins
  simp only [] at joins
  split at joins
  · cases joins
  · split at joins
    · cases joins
    · split at joins
      · cases joins
      · rename_i session0 _ session message _
        cases joins
        have queued : n.Keeps Chat.admitted
            (n.queueHello bundle.identityKey peerAddress message now) := .of_chats rfl
        revert queued
        generalize n.queueHello bundle.identityKey peerAddress message now = n1
        intro queued
        -- What follows announces, and shows nothing.
        have announced (n2 : Node X) : n2.Keeps Chat.admitted
            ((if inputs.ownKey.isNone then
              n2.announceClientKey bundle.identityKey peerAddress inputs.minted now
              else n2).announceStanding bundle.identityKey now) := by
          refine Keeps.trans ?_ (announceStanding_keeps Chat.unsealed_admitted _ _ now)
          split
          · exact announceClientKey_keeps Chat.unsealed_admitted (fun _ _ => rfl) n2 _ _ _ now
          · exact .refl n2
        exact .after queued ((joined_guarded n1 _ session peerAddress extras _ inputs now).keeps
          (announced _))

/-- A decision lets in the contact it accepts, and brings none of its words. -/
theorem authorize_guarded {n n' : Node X} {contact : String} {accept : Bool} {now : Nat}
    (decides : n.authorize contact accept now = .ok n') :
    n.Guarded (fun c => contact = c ∧ accept = true) n' := by
  unfold authorize at decides
  split at decides
  · cases decides
    exact .erase n contact
  · rename_i accepted
    have accepts : accept = true := by simpa using accepted
    cases found : n.chats.lookup contact with
    | none => simp [found] at decides
    | some chat =>
      simp only [found] at decides
      split at decides
      · cases decides
      · split at decides
        · cases decides
          exact .of_keeps (.refl n)
        · split at decides
          · -- The code is already another contact's: the request is turned down.
            cases decides
            exact .after (.of_chats (deliverWith_chats ..)) (.erase _ contact)
          · cases decides
            have let' : n.Guarded (fun c => contact = c ∧ accept = true)
                (n.modifyChat contact (fun chat => { chat with authorized := true })) := by
              refine .at_contact (.modifyChat n _) (fun _ => Or.inr ⟨rfl, accepts⟩) (fun _ => ?_)
              unfold Node.saidBy
              rw [lookup_modifyChat, if_pos rfl, found]
              exact .refl _
            refine let'.keeps ?_
            generalize n.modifyChat contact (fun chat => { chat with authorized := true }) = n1
            have keyed : n1.Keeps Chat.admitted (n1.applyPendingKeys contact) := by
              unfold applyPendingKeys
              split
              · exact .refl n1
              · have applied : n1.Keeps Chat.admitted (n1.modifyChat contact (fun chat =>
                    { chat with
                      peerKeyPending := none
                      passPending := none
                      clientKey :=
                        if chat.passPending.isSome then chat.passPending else chat.clientKey })) :=
                  .modifyChat n1 contact _ fun _ _ => rfl
                exact applied.trans (.of_chats rfl)
            have told := keyed.trans (.of_chats (deliverWith_chats (n1.applyPendingKeys contact)
              chat.peerAddress contact
              (.approved (n1.applyPendingKeys contact).identityKey (chat.code.getD "")) false
              (.caller none) now))
            exact (told.trans (announceRelaySetTo_keeps Chat.unsealed_admitted _ contact now)).trans
              (announceStanding_keeps Chat.unsealed_admitted _ contact now)

/-- Deleting a chat lets no one in. -/
theorem deleteChat_guarded {may : String → Prop} {n n' : Node X} {contact : String} {now : Nat}
    (deletes : n.deleteChat contact now = .ok n') : n.Guarded may n' := by
  unfold deleteChat at deletes
  cases found : n.chats.lookup contact with
  | none => simp [found] at deletes
  | some chat =>
    simp only [found] at deletes
    cases deletes
    refine .after ?_ (.erase _ contact)
    -- The goodbye is sealed on the session of the chat that goes.
    split
    · exact .refl n
    · rename_i n1 address frame did
      exact (authedControl_keeps Chat.unsealed_admitted did).trans (.of_chats rfl)

/-- What the chats of a saved state may bring: words that stand in them, and whom they let in. -/
structure Adopts (n : Node X) (saved : List (PersistedChat X)) (n' : Node X) : Prop where
  letIn : ∀ contact, n'.letIn contact = true → n.letIn contact = true
    ∨ ∃ p ∈ saved, p.contactId = contact ∧ p.authorized = true
  said : ∀ contact, ∀ m ∈ n'.saidBy contact, m ∈ n.saidBy contact
    ∨ ∃ p ∈ saved, p.contactId = contact ∧ m ∈ p.history

namespace Adopts

theorem refl (n : Node X) (saved : List (PersistedChat X)) : n.Adopts saved n :=
  ⟨fun _ => Or.inl, fun _ _ => Or.inl⟩

/-- What follows and shows neither words nor a decision brings nothing. -/
theorem keeps {n n1 n2 : Node X} {saved : List (PersistedChat X)} (first : n.Adopts saved n1)
    (second : n1.Keeps Chat.admitted n2) : n.Adopts saved n2 where
  letIn := fun contact enters => by
    rw [second.guarded.letIn_eq] at enters
    exact first.letIn contact enters
  said := fun contact m spoken => by
    rw [second.said_eq] at spoken
    exact first.said contact m spoken

/-- One chat is adopted, and the rest of the saved state after it. -/
theorem cons {n n1 n2 : Node X} {p : PersistedChat X} {rest : List (PersistedChat X)}
    (first : n.Adopts [p] n1) (later : n1.Adopts rest n2) : n.Adopts (p :: rest) n2 where
  letIn := by
    intro contact enters
    rcases later.letIn contact enters with before | ⟨q, member, named⟩
    · rcases first.letIn contact before with start | ⟨q, member, named⟩
      · exact Or.inl start
      · exact Or.inr ⟨q, List.mem_cons.mpr (Or.inl (List.mem_singleton.mp member)), named⟩
    · exact Or.inr ⟨q, List.mem_cons_of_mem p member, named⟩
  said := by
    intro contact m spoken
    rcases later.said contact m spoken with before | ⟨q, member, named⟩
    · rcases first.said contact m before with start | ⟨q, member, named⟩
      · exact Or.inl start
      · exact Or.inr ⟨q, List.mem_cons.mpr (Or.inl (List.mem_singleton.mp member)), named⟩
    · exact Or.inr ⟨q, List.mem_cons_of_mem p member, named⟩

/-- The chats elsewhere are as they were, and the one adopted is as said. -/
theorem at_contact {n n' : Node X} {p : PersistedChat X} (elsewhere : Elsewhere p.contactId n n')
    (enters : n'.letIn p.contactId = true → n.letIn p.contactId = true ∨ p.authorized = true)
    (said : ∀ m ∈ n'.saidBy p.contactId, m ∈ n.saidBy p.contactId ∨ m ∈ p.history) :
    n.Adopts [p] n' where
  letIn := by
    intro contact
    by_cases here : contact = p.contactId
    · subst here
      exact fun now' => (enters now').imp id (fun let' => ⟨p, List.mem_singleton.mpr rfl, rfl, let'⟩)
    · unfold Node.letIn
      rw [elsewhere contact here]
      exact Or.inl
  said := by
    intro contact m
    by_cases here : contact = p.contactId
    · subst here
      exact fun spoken =>
        (said m spoken).imp id (fun told => ⟨p, List.mem_singleton.mpr rfl, rfl, told⟩)
    · unfold Node.saidBy
      rw [elsewhere contact here]
      exact Or.inl

/-- A chat of the saved state is put in as it is. -/
theorem insert (n : Node X) (p : PersistedChat X) {chat : Chat X}
    (decided : chat.authorized = p.authorized) (told : chat.history = p.history) :
    n.Adopts [p] { n with chats := n.chats.insert p.contactId chat } := by
  refine at_contact (fun other apart => AList.lookup_insert_ne apart) (fun enters => ?_)
    (fun m spoken => ?_)
  · refine Or.inr ?_
    simpa [Node.letIn, decided] using enters
  · refine Or.inr ?_
    simp only [Node.saidBy, AList.lookup_insert, Option.map_some, Option.getD_some, Chat.contents,
      told] at spoken
    exact List.mem_of_mem_filter spoken

end Adopts

/-- A merged history holds messages of ours and of the backup only. -/
theorem mem_mergeHistory {history backup : List ChatMessage} {m : ChatMessage}
    (merged : m ∈ mergeHistory history backup) : m ∈ history ∨ m ∈ backup := by
  unfold mergeHistory at merged
  rw [List.mem_mergeSort] at merged
  rcases List.mem_append.mp merged with ours | missing
  · exact Or.inl ours
  · exact Or.inr (List.mem_of_mem_filter missing)

/-- The chats of a backup that are merged bring their words and decisions, and no others. -/
theorem mergeChats_adopts (now : Nat) (saved : List (PersistedChat X)) (n : Node X) (added : Nat) :
    n.Adopts saved (mergeChats now saved n added).1 := by
  induction saved generalizing n added with
  | nil => exact .refl n []
  | cons p rest ih =>
    unfold mergeChats
    cases found : n.chats.lookup p.contactId with
    | none =>
      simp only []
      split
      · exact .refl n _
      · exact .cons (.insert n p rfl rfl) (ih _ _)
    | some chat =>
      refine .cons (.at_contact (.modifyChat n _) (fun enters => Or.inl ?_) (fun m spoken => ?_))
        (ih _ _)
      · simpa [Node.letIn, lookup_modifyChat, found] using enters
      · -- What is folded in stands in the backup; the rest was there.
        simp only [Node.saidBy, lookup_modifyChat, found, if_true, Option.map_some,
          Option.getD_some, Chat.contents, List.mem_filter] at spoken ⊢
        exact (mem_mergeHistory spoken.1).imp (fun ours => ⟨ours, spoken.2⟩) id

/-- The chats of a state file are put in one by one. -/
theorem insertChats_adopts (now : Nat) (saved : List (PersistedChat X)) (n : Node X) :
    n.Adopts saved { n with
      chats := saved.foldl (fun chats p => chats.insert p.contactId (p.toChat now)) n.chats } := by
  induction saved generalizing n with
  | nil => exact .refl n []
  | cons p rest ih =>
    exact .cons (.insert n p rfl rfl) (ih { n with chats := n.chats.insert p.contactId (p.toChat now) })

/-- Sealing shows neither words nor a decision. -/
theorem sealFor_admitted {n n' : Node X} {contact : String} {plaintext : Bytes}
    {message : X.OlmMessage} (did : n.sealFor contact plaintext = some (n', message)) :
    n.Keeps Chat.admitted n' := by
  unfold sealFor at did
  simp only [Option.bind_eq_bind, Option.bind_eq_some_iff, Option.pure_def, Option.some.injEq,
    Prod.mk.injEq] at did
  obtain ⟨_, _, ⟨session, _⟩, _, rfl, _⟩ := did
  exact .modifyChat n contact _ fun _ _ => rfl

/-- Texts sealed again are ours. -/
theorem resealTexts_admitted (contact : String) (texts : List (String × String)) (n : Node X) :
    n.Keeps Chat.admitted (resealTexts contact n texts).1 := by
  induction texts generalizing n with
  | nil => exact .refl n
  | cons text rest ih =>
    unfold resealTexts
    split
    · exact .refl n
    · rename_i n1 message did
      exact (sealFor_admitted did).trans (ih n1)

theorem resealChats_admitted (contacts : List String) (n : Node X) :
    n.Keeps Chat.admitted (resealChats n contacts).1 := by
  induction contacts generalizing n with
  | nil => exact .refl n
  | cons contact rest ih =>
    unfold resealChats
    split
    · exact ih n
    · simp only []
      split
      · exact (resealTexts_admitted contact _ n).trans (ih _)
      · exact ih n

/-- A held message of ours is marked, and stays ours. -/
theorem holdMessage_admitted (n : Node X) (contact id : String) (bytes : Envelope X.OlmMessage) :
    n.Keeps Chat.admitted (n.holdMessage contact id bytes) := by
  unfold holdMessage
  simp only []
  refine Keeps.trans (.modifyChat n contact (fun chat => { chat with
    history := updateFirst (·.isOwn id) ({ · with delivery := _ }) chat.history })
    fun chat _ => ?_) (.of_chats rfl)
  exact Chat.admitted_isOwn chat id _ fun _ ours => ours

theorem resendAfterUpgrade_admitted (n : Node X) :
    n.Keeps Chat.admitted n.resendAfterUpgrade := by
  have held (texts : List (String × String × Envelope X.OlmMessage)) (n : Node X) :
      n.Keeps Chat.admitted (texts.foldl (fun n r => n.holdMessage r.1 r.2.1 r.2.2) n) := by
    induction texts generalizing n with
    | nil => exact .refl n
    | cons r rest ih => exact (holdMessage_admitted n r.1 r.2.1 r.2.2).trans (ih _)
  exact (resealChats_admitted n.chats.keys n).trans (held _ _)

/-- A restart lets in whom the state file lets in, and shows words that stand in it. -/
theorem restore_adopts (n : Node X) (state : PersistedState X) (platform : Platform) (now : Nat) :
    n.Adopts state.chats (restore state platform now) := by
  -- The restored device has no chats but those of the state file.
  have loaded (n1 : Node X) (same : n1.chats
      = state.chats.foldl (fun chats p => chats.insert p.contactId (p.toChat now)) ∅) :
      n.Adopts state.chats n1 := by
    have adopted := insertChats_adopts now state.chats { n with chats := ∅ }
    refine ⟨fun contact enters => ?_, fun contact m spoken => ?_⟩
    · unfold Node.letIn at enters
      rw [same] at enters
      refine (adopted.letIn contact enters).imp (fun before => ?_) id
      simp [Node.letIn] at before
    · unfold Node.saidBy at spoken
      rw [same] at spoken
      refine (adopted.said contact m spoken).imp (fun before => ?_) id
      simp [Node.saidBy] at before
  unfold restore
  simp only []
  split
  · exact (loaded _ rfl).keeps (resendAfterUpgrade_admitted _)
  · exact loaded _ rfl

end Node

/-- What an event may do to what a contact said and to whether it is let in. -/
structure AccessEvent.Guards (event : AccessEvent X) (n : Node X) (contact : String) : Prop where
  /-- Only an event that may let the contact in does. -/
  letIn : (n.access event).letIn contact = true → n.letIn contact = true ∨ event.LetsIn n contact
  /-- Words enter while the contact is let in, or out of a saved state in which they stand. -/
  said : n.letIn contact = false → ∀ m ∈ (n.access event).saidBy contact, m ∈ n.saidBy contact
    ∨ ∃ p ∈ event.brings, p.contactId = contact ∧ m ∈ p.history
  /-- Without a saved state nothing enters, not even a second copy of what was said. -/
  quiet : n.letIn contact = false → event.brings = [] →
    ((n.access event).saidBy contact).Sublist (n.saidBy contact)

/-- An event that brings no saved state does what it may. -/
theorem Node.Guarded.guards {n : Node X} {event : AccessEvent X}
    (guarded : n.Guarded (event.LetsIn n) (n.access event)) (contact : String) :
    event.Guards n contact where
  letIn := guarded.letIn contact
  said := fun out _ spoken => Or.inl ((guarded.said contact out).subset spoken)
  quiet := fun out _ => guarded.said contact out

/-- An event that brings a saved state does what it may. -/
theorem Node.Adopts.guards {n : Node X} {event : AccessEvent X} {saved : List (PersistedChat X)}
    (adopts : n.Adopts saved (n.access event)) (brings : event.brings = saved)
    (lets : ∀ contact, (∃ p ∈ saved, p.contactId = contact ∧ p.authorized = true) →
      event.LetsIn n contact)
    (bare : saved = [] → ∀ contact, ((n.access event).saidBy contact).Sublist (n.saidBy contact))
    (contact : String) : event.Guards n contact where
  letIn := fun enters => (adopts.letIn contact enters).imp id (lets contact)
  said := fun _ m spoken => by
    rw [brings]
    exact adopts.said contact m spoken
  quiet := fun _ nothing => bare (brings.symm.trans nothing) contact

/-- What is decided under a condition, and refused otherwise, does what it may. -/
theorem Node.guarded_toOption {may : String → Prop} {n : Node X} (outcome : Except String (Node X))
    (decided : ∀ n', outcome = .ok n' → n.Guarded may n') :
    n.Guarded may (outcome.toOption.getD n) := by
  cases outcome with
  | error reason => exact .of_keeps (.refl n)
  | ok n' => exact decided n' rfl

/-- Every event does to every contact only what it may, whatever the device is. -/
theorem AccessEvent.guards (event : AccessEvent X) (n : Node X) (contact : String) :
    event.Guards n contact := by
  cases event with
  | frame fromAddress bytes inputs now =>
    exact Node.Guarded.guards (n.takeIn_guarded fromAddress bytes inputs now) contact
  | restore state platform now =>
    refine Node.Adopts.guards (n.restore_adopts state platform now) rfl (fun _ => id)
      (fun bare contact => ?_) contact
    -- No chat in the file is no word on the device.
    have none : state.chats = [] := bare
    have silent : (Node.restore state platform now).saidBy contact = [] := by
      refine List.eq_nil_iff_forall_not_mem.mpr (fun m spoken => ?_)
      rcases ({ n with chats := ∅ } : Node X).restore_adopts state platform now |>.said contact m
        spoken with before | ⟨p, member, -⟩
      · simp [Node.saidBy] at before
      · simp [none] at member
    show ((Node.restore state platform now).saidBy contact).Sublist _
    rw [silent]
    exact List.nil_sublist _
  | merge state identity now =>
    have merged : n.Adopts state.chats (n.mergeFromBackup state identity now).1 := by
      unfold Node.mergeFromBackup
      split
      · exact .refl n _
      · exact Node.mergeChats_adopts now state.chats n 0
    refine Node.Adopts.guards merged rfl (fun _ => id) (fun bare contact => ?_) contact
    -- Nothing to merge leaves the chats alone, whoever's backup it is.
    have none : state.chats = [] := bare
    have same : (n.mergeFromBackup state identity now).1 = n := by
      unfold Node.mergeFromBackup
      split
      · rfl
      · rw [none]
        rfl
    show ((n.mergeFromBackup state identity now).1.saidBy contact).Sublist _
    rw [same]
  | authorize decided accept now =>
    exact Node.Guarded.guards (Node.guarded_toOption _ fun _ => Node.authorize_guarded) contact
  | join peerAddress bundle extras inputs now =>
    exact Node.Guarded.guards (Node.guarded_toOption _ fun _ => Node.connectWithInvite_guarded)
      contact
  | delete decided now =>
    exact Node.Guarded.guards (Node.guarded_toOption _ fun _ => Node.deleteChat_guarded) contact
  | require on => exact Node.Guarded.guards (.of_keeps (.of_chats rfl)) contact

/-- A run of events is their fold. -/
theorem Node.accessAll_eq (n : Node X) (events : List (AccessEvent X)) :
    n.accessAll events = events.foldl Node.access n := by
  induction events generalizing n with
  | nil => rfl
  | cons event rest ih => exact ih (n.access event)

/-- Over every run of frames, restores, merges and decisions, whoever is let in at its end was so
at its start or let in by an event that may, and what is said entered while the contact was let in
or out of a saved state. -/
theorem Node.accessAll_guarded (n : Node X) (events : List (AccessEvent X)) (contact : String) :
    (∀ before event after, events = before ++ event :: after →
      event.Guards (n.accessAll before) contact)
    ∧ ((n.accessAll events).letIn contact = true → n.letIn contact = true
      ∨ ∃ before event after, events = before ++ event :: after
        ∧ event.LetsIn (n.accessAll before) contact)
    ∧ ∀ m ∈ (n.accessAll events).saidBy contact, m ∈ n.saidBy contact
      ∨ ∃ before event after, events = before ++ event :: after
        ∧ ((n.accessAll before).letIn contact = true
          ∨ ∃ p ∈ event.brings, p.contactId = contact ∧ m ∈ p.history) := by
  refine ⟨fun before event _ _ => event.guards _ contact, fun enters => ?_, fun m spoken => ?_⟩
  · rw [accessAll_eq] at enters
    rcases foldl_brings (P := fun n : Node X => n.letIn contact = true) n events enters with
      start | ⟨before, event, after, split, out, brought⟩
    · exact Or.inl start
    · -- The event that brought it about is one that may.
      refine Or.inr ⟨before, event, after, split, ?_⟩
      rw [accessAll_eq]
      exact ((event.guards _ contact).letIn brought).resolve_left out
  · rw [accessAll_eq] at spoken
    rcases foldl_brings (P := fun n : Node X => m ∈ n.saidBy contact) n events spoken with
      start | ⟨before, event, after, split, unsaid, brought⟩
    · exact Or.inl start
    · refine Or.inr ⟨before, event, after, split, ?_⟩
      rw [accessAll_eq]
      cases let' : (before.foldl Node.access n).letIn contact with
      | true => exact Or.inl rfl
      | false => exact Or.inr (((event.guards _ contact).said let' m brought).resolve_left unsaid)

namespace Symbolic

/-- The device before it knew anyone; requests are asked about. -/
def newcomer : Node symbolic := { device with chats := ∅, requireAuthorization := true }

/-- The contact asks to be let in. -/
def asks : AccessEvent symbolic :=
  .frame none (encode (.hello "them" "them.onion" (pairing { relays := {} }))) {} 10

/-- What the contact said when it was let in. -/
def said : ChatMessage := { fromMe := false, text := "hello", msgId := "first", stamp := 1 }

/-- A backup of when the contact was let in and said something. -/
def backup : PersistedState symbolic :=
  { device with
    chats := (∅ : KeyedMap String (Chat symbolic)).insert "them"
      { chat with history := [said] } }.exportState

end Symbolic

/-- A merge folds what a contact said into a chat in which it only asks to be let in. -/
theorem merge_folds_into_request :
    ¬ ∀ (n : Node symbolic) (before : List (AccessEvent symbolic)) (event : AccessEvent symbolic)
        (contact : String), (n.accessAll before).letIn contact = false →
      ∀ m ∈ ((n.accessAll before).access event).saidBy contact,
        m ∈ (n.accessAll before).saidBy contact := by
  intro guarded
  have held := guarded Symbolic.newcomer [Symbolic.asks] (.merge Symbolic.backup "me" 20) "them"
    (by decide +kernel) Symbolic.said (by decide +kernel)
  revert held
  decide +kernel

end Nightdrop
