import Nightdrop.Proofs.Node.Backup
import Nightdrop.Proofs.Node.Footing

/-! The contact cap: no event makes more open contacts, and what a refused merge leaves behind. -/

namespace Nightdrop

namespace KeyedMap

variable {κ ν μ : Type} [DecidableEq κ]

/-- A map whose every key contributes no more has no greater total. -/
theorem total_le_of_weightAt (weight : κ → ν → Nat) (other : κ → μ → Nat) (m : KeyedMap κ ν)
    (m' : KeyedMap κ μ) (less : ∀ key, weightAt weight m key ≤ weightAt other m' key) :
    total weight m ≤ total other m' := by
  rw [total_eq_sum weight m, total_eq_sum other m']
  calc ∑ key ∈ m.entries.keys.toFinset, weightAt weight m key
      ≤ ∑ key ∈ m.entries.keys.toFinset ∪ m'.entries.keys.toFinset, weightAt other m' key := by
        refine (Finset.sum_le_sum fun key _ => less key).trans ?_
        exact Finset.sum_le_sum_of_subset Finset.subset_union_left
    _ = ∑ key ∈ m'.entries.keys.toFinset, weightAt other m' key := by
        -- A key the other map has not contributes nothing.
        refine (Finset.sum_subset Finset.subset_union_right fun key _ absent => ?_).symm
        have unlisted : m'.lookup key = none := by
          apply AList.lookup_eq_none.mpr
          show key ∉ m'.entries.keys
          simpa using absent
        simp [weightAt, unlisted]

/-- A map that contributes no more at any key but one has no greater total but there. -/
theorem total_le_of_weightAt_ne (weight : κ → ν → Nat) (m m' : KeyedMap κ ν) (at' : κ)
    (less : ∀ key, key ≠ at' → weightAt weight m key ≤ weightAt weight m' key) :
    total weight m + weightAt weight m' at' ≤ total weight m' + weightAt weight m at' := by
  have rest : total weight (m.erase at') ≤ total weight (m'.erase at') := by
    refine total_le_of_weightAt weight weight _ _ fun key => ?_
    by_cases here : key = at'
    · simp [weightAt, lookup_erase_if, here]
    · have same := less key here
      simpa [weightAt, lookup_erase_if, here] using same
  have before := total_erase weight m' at'
  have after := total_erase weight m at'
  omega

end KeyedMap

variable {X : Externals}

/-- Whether a chat is an open contact's. -/
def Chat.isOpen (chat : Chat X) : Bool := chat.authorized && !chat.closed

namespace Node

/-- Whether someone is an open contact. -/
def opened (n : Node X) (contact : String) : Bool := (n.chats.lookup contact).any Chat.isOpen

/-- The open contacts are counted one by one. -/
theorem openContacts_eq_total (n : Node X) :
    n.openContacts = KeyedMap.total (fun _ chat => chat.isOpen.toNat) n.chats := by
  unfold openContacts KeyedMap.total
  induction n.chats.entries with
  | nil => rfl
  | cons e rest ih =>
    rw [List.filter_cons, List.map_cons, List.sum_cons, ← ih]
    show _ = (e.2.authorized && !e.2.closed).toNat + _
    by_cases counts : (e.2.authorized && !e.2.closed) = true
    · rw [if_pos counts, counts, List.length_cons, Bool.toNat_true, Nat.add_comm]
    · rw [if_neg counts, Bool.not_eq_true _ |>.mp counts, Bool.toNat_false, Nat.zero_add]

theorem weightAt_isOpen (n : Node X) (contact : String) :
    KeyedMap.weightAt (fun _ (chat : Chat X) => chat.isOpen.toNat) n.chats contact
      = (n.opened contact).toNat := by
  unfold KeyedMap.weightAt opened
  cases n.chats.lookup contact <;> rfl

/-- Where no one becomes an open contact, there are no more of them. -/
theorem openContacts_le {n n' : Node X}
    (less : ∀ contact, n'.opened contact = true → n.opened contact = true) :
    n'.openContacts ≤ n.openContacts := by
  rw [openContacts_eq_total, openContacts_eq_total]
  refine KeyedMap.total_le_of_weightAt _ _ _ _ fun contact => ?_
  rw [weightAt_isOpen, weightAt_isOpen]
  cases now' : n'.opened contact with
  | false => exact Nat.zero_le _
  | true => rw [less contact now']

/-- Where one at most becomes an open contact and was not one, there is one more at most. -/
theorem openContacts_le_succ {n n' : Node X} (contact : String)
    (less : ∀ other, other ≠ contact → n'.opened other = true → n.opened other = true) :
    n'.openContacts ≤ n.openContacts + (!n.opened contact).toNat := by
  have counted := KeyedMap.total_le_of_weightAt_ne (fun _ (chat : Chat X) => chat.isOpen.toNat)
    n'.chats n.chats contact fun other apart => by
      rw [weightAt_isOpen, weightAt_isOpen]
      cases now' : n'.opened other with
      | false => exact Nat.zero_le _
      | true => rw [less other apart now']
  rw [weightAt_isOpen, weightAt_isOpen, ← openContacts_eq_total, ← openContacts_eq_total] at counted
  have bound : (n'.opened contact).toNat ≤ 1 := Bool.toNat_le _
  cases was : n.opened contact with
  | false =>
    rw [was] at counted
    simp only [Bool.toNat_false, Bool.not_false, Bool.toNat_true] at counted ⊢
    omega
  | true =>
    rw [was] at counted
    simp only [Bool.toNat_true, Bool.not_true, Bool.toNat_false] at counted ⊢
    omega

/-- The same contacts are as many. -/
theorem openContacts_congr {n n' : Node X}
    (same : ∀ contact, n'.chats.lookup contact = n.chats.lookup contact) :
    n'.openContacts = n.openContacts := by
  have opened_eq (contact : String) : n'.opened contact = n.opened contact := by
    unfold opened
    rw [same contact]
  refine Nat.le_antisymm (openContacts_le fun contact here => ?_) (openContacts_le fun contact here => ?_)
  · rw [← opened_eq]
    exact here
  · rw [opened_eq]
    exact here

/-- Chats that stand as before are as open as before. -/
theorem Keeps.opened_eq {n n' : Node X} (keeps : n.Keeps Chat.footing n') (contact : String) :
    n'.opened contact = n.opened contact := by
  have same := keeps.coarser (fun footing => footing.1 && !footing.2.1) contact
  have seen (m : Node X) : m.opened contact
      = ((m.chats.lookup contact).map (fun chat => chat.footing.1 && !chat.footing.2.1)).getD false := by
    unfold opened
    cases m.chats.lookup contact <;> rfl
  rw [seen, seen, same]

/-- No one becomes an open contact. -/
def OpensNone (n n' : Node X) : Prop := ∀ contact, n'.opened contact = true → n.opened contact = true

theorem OpensNone.of_keeps {n n' : Node X} (keeps : n.Keeps Chat.footing n') : n.OpensNone n' :=
  fun contact here => by rw [← keeps.opened_eq contact]; exact here

theorem OpensNone.trans {a b c : Node X} (first : a.OpensNone b) (second : b.OpensNone c) :
    a.OpensNone c := fun contact here => first contact (second contact here)

/-- One chat changes, and is not open after it unless it was before. -/
theorem OpensNone.modifyChat (n : Node X) (contact : String) (f : Chat X → Chat X)
    (stays : ∀ chat, n.chats.lookup contact = some chat → (f chat).isOpen = true → chat.isOpen = true) :
    n.OpensNone (n.modifyChat contact f) := by
  intro other here
  unfold opened at here ⊢
  rw [lookup_modifyChat] at here
  by_cases this : other = contact
  · subst this
    rw [if_pos rfl] at here
    cases found : n.chats.lookup other with
    | none => simp [found] at here
    | some chat =>
      rw [found] at here
      exact stays chat found here
  · rwa [if_neg this] at here

/-- A chat that goes is open no longer. -/
theorem OpensNone.erase (n : Node X) (contact : String) :
    n.OpensNone { n with chats := n.chats.erase contact } := by
  intro other here
  unfold opened at here ⊢
  simp only [KeyedMap.lookup_erase_if] at here
  split at here
  · cases here
  · exact here

/-- While requests are asked about, a `Hello` makes no one an open contact. -/
theorem adoptHello_opens (n : Node X) (asks : n.requireAuthorization = true)
    (contact peerAddress : String) (session : X.Session) (body : Option HelloBody) (now : Nat) :
    n.OpensNone (n.adoptHello contact peerAddress session body now) := by
  -- A chat opened anew waits for the user.
  have fresh : n.OpensNone
      { n with chats := n.chats.insert contact (n.greeted session peerAddress body now) } := by
    intro other here
    unfold opened at here ⊢
    simp only [KeyedMap.lookup_insert_if] at here
    split at here
    · simp [greeted, Chat.newPaired, Chat.isOpen, asks] at here
    · exact here
  unfold adoptHello
  cases found : n.chats.lookup contact with
  | none => exact fresh
  | some prior =>
    have noted (m : Node X) (notice : String) : m.OpensNone (m.modifyChat contact (fun chat =>
        { chat with history := chat.history ++ [.ofSystem notice now] })) :=
      .modifyChat m contact _ fun _ _ => id
    simp only []
    refine OpensNone.trans ?_ (noted _ _)
    split
    · rename_i unclosed
      have rekeyed : n.OpensNone (n.modifyChat contact (rekeyed session peerAddress body)) := by
        refine .modifyChat n contact _ fun chat there here => ?_
        have same : chat = prior := by
          rw [found] at there
          exact (Option.some.inj there).symm
        subst same
        have approved : chat.authorized = true := by simpa [Node.rekeyed, Chat.isOpen] using here
        have open' : chat.closed = false := by simpa using unclosed
        simp [Chat.isOpen, approved, open']
      split
      · exact rekeyed.trans (.of_keeps (.of_chats (deliverWith_chats ..)))
      · exact rekeyed
    · exact fresh

/-- While requests are asked about, no envelope makes anyone an open contact. -/
theorem takeIn_opens (n : Node X) (asks : n.requireAuthorization = true)
    (fromAddress : Option String) (bytes : Envelope X.OlmMessage) (inputs : FrameInputs) (now : Nat) :
    n.OpensNone (n.takeIn fromAddress bytes inputs now).1 := by
  have legacy (sender : String) : n.OpensNone (n.noteLegacyFrame sender) := by
    unfold noteLegacyFrame
    split
    · exact fun _ => id
    · simp only []
      split
      · refine .of_keeps (Keeps.trans (.modifyChat n sender _ fun chat _ => ?_) (.of_chats rfl))
        rfl
      · exact fun _ => id
  -- What the frame does once it is no second copy.
  have processed (n : Node X) (asks : n.requireAuthorization = true) (frame : Frame X.OlmMessage) :
      n.OpensNone (n.processFrame fromAddress frame inputs now).1 := by
    by_cases quiet : (∀ contact address message, frame ≠ .hello contact address message)
        ∧ (∀ sender message, frame ≠ .sealed .closed sender message)
        ∧ ∀ sender code, frame ≠ .codeInUse sender code
    · exact .of_keeps (processFrame_footing n fromAddress inputs now quiet.1 quiet.2.1 quiet.2.2)
    have noted : n.OpensNone { n with dirty := true } := .of_keeps (.of_chats rfl)
    refine noted.trans ?_
    cases frame with
    | hello contact address message =>
      cases readable : message.toOlm with
      | none =>
        simp only [processFrame, receiveHello, readable]
        exact fun _ => id
      | some olm =>
        cases accepted : X.acceptInbound n.account contact olm with
        | none =>
          simp only [processFrame, receiveHello, readable, accepted]
          exact fun _ => id
        | some opening =>
          obtain ⟨account, session, plaintext⟩ := opening
          refine OpensNone.trans ?_ (.of_keeps (receiveHello_keeps Chat.beside_footing.session
            (fun _ _ _ _ => rfl) (fun _ _ => rfl) { n with dirty := true } readable accepted
            fromAddress address inputs.toPairingInputs now))
          have counted : OpensNone { n with dirty := true } { n with dirty := true, account := account } :=
            .of_keeps (.of_chats rfl)
          refine counted.trans ?_
          exact adoptHello_opens { n with dirty := true, account := account } asks contact _ session _ now
    | «sealed» kind sender message =>
      cases kind with
      | closed =>
        simp only [processFrame, processSealed, receiveClosed]
        have checked := verifyControl_footing { n with dirty := true } sender message MARK_CLOSED now
        revert checked
        generalize verifyControl { n with dirty := true } sender message MARK_CLOSED now = verdict
        obtain ⟨n1, genuine⟩ := verdict
        intro checked
        cases genuine with
        | false => exact .of_keeps checked
        | true =>
          simp only []
          split
          · refine OpensNone.trans (.of_keeps checked) (.modifyChat n1 sender _ fun chat _ here => ?_)
            simp [Chat.isOpen] at here
          · exact .of_keeps checked
      | _ => exact absurd ⟨by simp, by simp, by simp⟩ quiet
    | codeInUse sender code =>
      simp only [processFrame, receiveCodeInUse]
      split
      · refine .modifyChat { n with dirty := true } sender _ fun chat _ here => ?_
        simp [Chat.isOpen, Chat.note] at here
      · exact fun _ => id
    | message | burn | approved | pake | cover | clientKey =>
      exact absurd ⟨by simp, by simp, by simp⟩ quiet
  unfold takeIn
  split
  · split
    · exact legacy _
    · exact fun _ => id
  · rename_i frame _
    -- Remembering the frame changes no chat, and not whether requests are asked about.
    have remembered : (n.isDuplicateUserFrame frame bytes).1.chats = n.chats
        ∧ (n.isDuplicateUserFrame frame bytes).1.requireAuthorization = n.requireAuthorization := by
      unfold isDuplicateUserFrame
      split
      · exact ⟨rfl, rfl⟩
      · simp only []
        split <;> split <;> exact ⟨rfl, rfl⟩
    revert remembered
    generalize n.isDuplicateUserFrame frame bytes = once
    obtain ⟨n1, again⟩ := once
    intro remembered
    have kept : n.OpensNone n1 := .of_keeps (.of_chats remembered.1)
    cases again with
    | true => exact kept
    | false => exact kept.trans (processed n1 (remembered.2.trans asks) frame)

/-- Approving puts keys to use, and moves how no chat stands. -/
theorem applyPendingKeys_footing (n : Node X) (contact : String) :
    n.Keeps Chat.footing (n.applyPendingKeys contact) := by
  unfold applyPendingKeys
  split
  · exact .refl n
  · refine Keeps.trans (.modifyChat n contact _ fun chat _ => ?_) (.of_chats rfl)
    rfl

/-- A decision opens at most the contact it accepts, and then not past the cap. -/
theorem authorize_opens {n n' : Node X} {contact : String} {accept : Bool} {now : Nat}
    (decided : n.authorize contact accept now = .ok n') :
    n.OpensNone n' ∨ (n.openContacts < MAX_CONTACTS
      ∧ ∀ other, other ≠ contact → n'.opened other = true → n.opened other = true) := by
  unfold authorize at decided
  split at decided
  · cases decided
    exact .inl (.erase n contact)
  · cases found : n.chats.lookup contact with
    | none => simp [found] at decided
    | some chat =>
      simp only [found] at decided
      split at decided
      · cases decided
      · rename_i uncapped
        split at decided
        · cases decided
          exact .inl fun _ => id
        · rename_i pending
          split at decided
          · cases decided
            exact .inl (OpensNone.trans (.of_keeps (.of_chats (deliverWith_chats ..))) (.erase _ contact))
          · cases decided
            right
            have waiting : chat.authorized = false := by simpa using pending
            have room : n.openContacts < MAX_CONTACTS := by
              simpa [atContactCap, found, waiting] using uncapped
            refine ⟨room, fun other apart here => ?_⟩
            -- Everything after the decision leaves the chats as they stand.
            have told (n1 n2 : Node X) (sent : n2.chats = (n1.applyPendingKeys contact).chats) :
                n1.Keeps Chat.footing ((n2.announceRelaySetTo contact now).announceStanding contact now) :=
              ((applyPendingKeys_footing n1 contact).trans (.of_chats sent)).trans
                ((announceRelaySetTo_keeps Chat.beside_footing.session n2 contact now).trans
                  (announceStanding_keeps Chat.beside_footing.session _ contact now))
            rw [(told (n.modifyChat contact (fun chat => { chat with authorized := true })) _
              (deliverWith_chats ..)).opened_eq other] at here
            unfold opened at here ⊢
            rwa [lookup_modifyChat, if_neg apart] at here

/-- A join opens at most the contact whose invite it is, and then not past the cap. -/
theorem connectWithInvite_room {n n' : Node X} {peerAddress : String} {bundle : PreKeyBundle}
    {extras : InviteExtras} {inputs : JoinInputs} {now : Nat}
    (joins : n.connectWithInvite peerAddress bundle extras inputs now = .ok n') :
    (n.opened bundle.identityKey = true ∨ n.openContacts < MAX_CONTACTS)
      ∧ ∀ other, other ≠ bundle.identityKey → n'.opened other = true → n.opened other = true := by
  unfold connectWithInvite at joins
  simp only [] at joins
  split at joins
  · cases joins
  · rename_i uncapped
    split at joins
    · cases joins
    · split at joins
      · cases joins
      · rename_i session _
        cases joins
        refine ⟨?_, fun other apart here => ?_⟩
        · by_cases already : n.opened bundle.identityKey = true
          · exact .inl already
          · right
            have shut : (n.chats.lookup bundle.identityKey).any
                (fun chat => chat.authorized && !chat.closed) = false :=
              (Bool.not_eq_true _).mp already
            simpa [atContactCap, shut] using uncapped
        · -- What follows the join announces, and leaves the chats as they stand.
          have announced (n2 : Node X) : n2.Keeps Chat.footing
              ((if inputs.ownKey.isNone then
                n2.announceClientKey bundle.identityKey peerAddress inputs.minted now
                else n2).announceStanding bundle.identityKey now) := by
            refine Keeps.trans ?_ (announceStanding_keeps Chat.beside_footing.session _ _ now)
            split
            · exact announceClientKey_keeps Chat.beside_footing.session (fun _ _ => rfl) n2 _ _ _ now
            · exact .refl n2
          rw [(announced _).opened_eq other] at here
          unfold opened at here ⊢
          split at here
          · rwa [lookup_modifyChat, if_neg apart] at here
          · rwa [AList.lookup_insert_ne apart] at here

/-- Deleting a chat opens no contact. -/
theorem deleteChat_opens {n n' : Node X} {contact : String} {now : Nat}
    (deletes : n.deleteChat contact now = .ok n') : n.OpensNone n' := by
  unfold deleteChat at deletes
  cases found : n.chats.lookup contact with
  | none => simp [found] at deletes
  | some chat =>
    simp only [found] at deletes
    cases deletes
    refine OpensNone.trans ?_ (.erase _ contact)
    split
    · exact fun _ => id
    · rename_i n1 address frame did
      exact .of_keeps ((authedControl_keeps Chat.beside_footing.session did).trans (.of_chats rfl))

/-- Folding in a chat the cap does not refuse stays within the cap. -/
theorem foldIn_cap {now : Nat} {n : Node X} {p : CarriedChat X} (within : n.openContacts ≤ MAX_CONTACTS)
    (admitted : n.refuses p = false) : (n.foldIn now p).1.openContacts ≤ MAX_CONTACTS := by
  unfold foldIn
  cases found : n.chats.lookup p.chat.contactId with
  | some chat =>
    refine le_trans (openContacts_le ?_) within
    exact OpensNone.modifyChat n _ _ fun _ _ => id
  | none =>
    simp only []
    split
    · have elsewhere (other : String) (apart : other ≠ p.chat.contactId)
          (here : opened { n with chats := n.chats.insert p.chat.contactId (p.whole now) } other
            = true) : n.opened other = true := by
        unfold opened at here ⊢
        rwa [KeyedMap.lookup_insert_if, if_neg apart] at here
      by_cases joins : (p.chat.authorized && !p.chat.closed) = true
      · have room : n.openContacts < MAX_CONTACTS := by
          simpa [refuses, found, joins] using admitted
        have more := openContacts_le_succ p.chat.contactId elsewhere
        have one : (!n.opened p.chat.contactId).toNat ≤ 1 := Bool.toNat_le _
        refine le_trans more ?_
        omega
      · refine le_trans (openContacts_le fun other here => ?_) within
        by_cases this : other = p.chat.contactId
        · subst this
          unfold opened at here
          rw [KeyedMap.lookup_insert_if, if_pos rfl] at here
          exact absurd here joins
        · exact elsewhere other this here
    · exact within

/-- A merge stays within the cap. -/
theorem mergeCarried_cap {now : Nat} (chats : List (CarriedChat X)) {n : Node X} {added : Nat}
    (within : n.openContacts ≤ MAX_CONTACTS) :
    (mergeCarried now chats n added).1.openContacts ≤ MAX_CONTACTS := by
  induction chats generalizing n added with
  | nil => exact within
  | cons p rest ih =>
    unfold mergeCarried
    split
    · exact within
    · rename_i admitted
      exact ih (foldIn_cap within (by simpa using admitted))

theorem mergeBackup_cap {now : Nat} (opened : Except String (Backup X)) {n : Node X}
    (within : n.openContacts ≤ MAX_CONTACTS) :
    (n.mergeBackup opened now).1.openContacts ≤ MAX_CONTACTS := by
  unfold mergeBackup
  split
  · exact within
  · split
    · exact within
    · exact mergeCarried_cap _ within

/-- Every event stays within the cap. -/
theorem meet_cap {n : Node X} (event : ContactEvent X) (asks : n.requireAuthorization = true)
    (within : n.openContacts ≤ MAX_CONTACTS) : (n.meet event).1.openContacts ≤ MAX_CONTACTS := by
  have one (contact : String) : (!n.opened contact).toNat ≤ 1 := Bool.toNat_le _
  cases event with
  | frame fromAddress bytes inputs now =>
    exact le_trans (openContacts_le (takeIn_opens n asks fromAddress bytes inputs now)) within
  | merge opened now => exact mergeBackup_cap opened within
  | authorize contact accept now =>
    unfold meet orRefused
    simp only []
    split
    · rename_i n' decided
      rcases authorize_opens decided with none' | ⟨room, elsewhere⟩
      · exact le_trans (openContacts_le none') within
      · have more := openContacts_le_succ contact elsewhere
        have := one contact
        show n'.openContacts ≤ MAX_CONTACTS
        omega
    · exact within
  | join peerAddress bundle extras inputs now =>
    unfold meet orRefused
    simp only []
    split
    · rename_i n' joined
      obtain ⟨room, elsewhere⟩ := connectWithInvite_room joined
      have more := openContacts_le_succ bundle.identityKey elsewhere
      show n'.openContacts ≤ MAX_CONTACTS
      rcases room with already | room
      · rw [already] at more
        exact le_trans more within
      · have := one bundle.identityKey
        omega
    · exact within
  | delete contact now =>
    unfold meet orRefused
    simp only []
    split
    · rename_i n' deleted
      exact le_trans (openContacts_le (deleteChat_opens deleted)) within
    · exact within

/-- Whether a chat of a backup would change nothing here: its session does not open, or the chat we
have lacks none of its messages and is in order. -/
def Idle (n : Node X) (p : CarriedChat X) : Prop :=
  match n.chats.lookup p.chat.contactId with
  | none => p.opens = false
  | some chat => mergeHistory chat.history p.chat.history = chat.history

/-- What an idle chat makes of the one we have. -/
theorem idle_iff (now : Nat) (n : Node X) (p : CarriedChat X) :
    n.Idle p ↔ foldChat now (n.chats.lookup p.chat.contactId) p = n.chats.lookup p.chat.contactId := by
  unfold Idle foldChat
  cases n.chats.lookup p.chat.contactId with
  | none => by_cases opens : p.opens = true <;> simp [opens]
  | some chat =>
    simp only [Option.some.injEq]
    refine ⟨fun same => by rw [same], fun same => ?_⟩
    exact congrArg Chat.history same

end Node

/-- Whether an event, if the cap refuses it, is refused before it changed anything: of a backup, every
chat ahead of the one refused is idle. -/
def ContactEvent.Spares (n : Node X) : ContactEvent X → Prop
  | .merge (.ok backup) _ => ∀ p ∈ backup.chats.takeWhile (fun p => !n.refuses p), n.Idle p
  | .merge (.error _) _ | .frame _ _ _ _ | .authorize _ _ _ | .join _ _ _ _ _ | .delete _ _ => True

namespace Node

/-- A cap that is reached the same way refuses the same chats. -/
theorem refuses_congr {n n' : Node X}
    (same : ∀ contact, n'.chats.lookup contact = n.chats.lookup contact) (p : CarriedChat X) :
    n'.refuses p = n.refuses p := by
  unfold refuses
  rw [same, openContacts_congr same]

/-- Where nothing ahead of the chat the cap refuses had anything to add, the chats stay as they are. -/
theorem mergeCarried_idle {now : Nat} (chats : List (CarriedChat X)) {n n1 : Node X} {added : Nat}
    (same : ∀ contact, n1.chats.lookup contact = n.chats.lookup contact)
    (idle : ∀ p ∈ chats.takeWhile (fun p => !n.refuses p), n.Idle p) (contact : String) :
    (mergeCarried now chats n1 added).1.chats.lookup contact = n.chats.lookup contact := by
  induction chats generalizing n1 added with
  | nil => exact same contact
  | cons p rest ih =>
    unfold mergeCarried
    split
    · exact same contact
    · rename_i admitted
      rw [refuses_congr same p] at admitted
      rw [List.takeWhile_cons_of_pos (by simpa using admitted)] at idle
      refine ih (fun other => ?_) fun q among => idle q (List.mem_cons_of_mem p among)
      rw [foldIn_lookup, same other]
      split
      · rename_i here
        rw [here]
        exact (idle_iff now n p).mp (idle p List.mem_cons_self)
      · rfl

/-- A merge that is refused leaves the chats as they were exactly if nothing ahead of the refused
chat had anything to add. -/
theorem mergeCarried_refused {now : Nat} {chats : List (CarriedChat X)} {n : Node X}
    (distinct : (chats.map (·.chat.contactId)).Nodup) {added : Nat}
    (refused : (mergeCarried now chats n added).2 = .error AT_CONTACT_CAP) :
    (∀ contact, (mergeCarried now chats n added).1.chats.lookup contact = n.chats.lookup contact)
      ↔ ∀ p ∈ chats.takeWhile (fun p => !n.refuses p), n.Idle p := by
  refine ⟨fun same q ahead => ?_, fun idle => mergeCarried_idle chats (fun _ => rfl) idle⟩
  rcases mergeCarried_spec now chats n added with
    ⟨more, merged, _⟩ | ⟨done, p, rest, split, stops, merged⟩
  · rw [merged] at refused
    cases refused
  rw [merged] at same
  have apart : (done.map (·.chat.contactId)).Nodup := by
    rw [split, List.map_append] at distinct
    exact (List.nodup_append.mp distinct).1
  -- The refused chat is refused from the start, so what is ahead was folded in.
  have first : n.refuses p = true := by
    rw [← refuses_congr same p]
    exact stops
  have among : q ∈ done := by
    rw [split, List.takeWhile_append] at ahead
    split at ahead
    · rw [List.takeWhile_cons_of_neg (by simp [first]), List.append_nil] at ahead
      exact ahead
    · exact (List.takeWhile_sublist _).subset ahead
  rw [idle_iff now]
  have made := foldAll_lookup now n q.chat.contactId apart
  rw [find?_eq_some_of_nodup apart among] at made
  exact made.symm.trans (same q.chat.contactId)

/-- An event that the cap refuses leaves the chats as they were exactly if it was refused before it
changed anything. -/
theorem meet_refused {n : Node X} {event : ContactEvent X}
    (refused : (n.meet event).2 = some AT_CONTACT_CAP) :
    (∀ contact, (n.meet event).1.chats.lookup contact = n.chats.lookup contact) ↔ event.Spares n := by
  -- What is decided as a whole is refused as a whole.
  have whole (result : Except String (Node X)) (failed : (n.orRefused result).2 = some AT_CONTACT_CAP) :
      (∀ contact, (n.orRefused result).1.chats.lookup contact = n.chats.lookup contact) ↔ True := by
    cases result with
    | ok n' => cases failed
    | error reason => exact iff_of_true (fun _ => rfl) trivial
  cases event with
  | frame fromAddress bytes inputs now => cases refused
  | authorize contact accept now => exact whole _ refused
  | join peerAddress bundle extras inputs now => exact whole _ refused
  | delete contact now => exact whole _ refused
  | merge opened now =>
    cases opened with
    | error reason => exact iff_of_true (fun _ => rfl) trivial
    | ok backup =>
      by_cases other : backup.identity ≠ some n.identityKey
      · -- A backup of someone else is refused for that.
        simp only [meet, mergeBackup, if_pos other] at refused
        exact absurd (Option.some.inj refused) (by decide)
      · simp only [meet, mergeBackup, if_neg other] at refused ⊢
        have stopped : (mergeCarried now backup.chats n 0).2 = .error AT_CONTACT_CAP := by
          revert refused
          cases (mergeCarried now backup.chats n 0).2 with
          | ok count => exact fun same => by cases same
          | error reason => exact fun same => by rw [Option.some.inj same]
        exact mergeCarried_refused backup.distinct stopped

/-- Over every run of a device that asks about requests, the open contacts stay within the cap, and an
event the cap refuses leaves the chats as they were exactly if nothing came ahead of the refusal. -/
theorem contacts_capped {start n : Node X} (fresh : start.chats = ∅) (reached : start.Meets n) :
    n.openContacts ≤ MAX_CONTACTS
      ∧ ∀ event, (n.meet event).2 = some AT_CONTACT_CAP →
        ((∀ contact, (n.meet event).1.chats.lookup contact = n.chats.lookup contact)
          ↔ event.Spares n) := by
  refine ⟨?_, fun event => meet_refused⟩
  refine Reach.invariant (P := fun n : Node X => n.openContacts ≤ MAX_CONTACTS) ?_ ?_ reached
  · unfold openContacts
    rw [fresh]
    exact Nat.zero_le _
  · rintro n event n' _ within ⟨asks, rfl⟩
    exact meet_cap event asks within

end Node

namespace Symbolic

/-- A backup of more contacts than a device may have. -/
def crowd : Backup symbolic where
  identity := some "me"
  chats := (List.range 51).map (fun i => ⟨chat.toPersisted i.repr, true⟩)
  distinct := by decide +kernel

/-- A device that has no chat yet and asks about requests. -/
def vacant : Node symbolic := { device with chats := ∅, requireAuthorization := true }

end Symbolic

/-- A merge that the cap refuses at the last contact has brought in the fifty before. -/
theorem refused_merge_leaves_chats :
    ¬ ∀ (n : Node symbolic) (event : ContactEvent symbolic), Symbolic.vacant.Meets n →
      (n.meet event).2 = some AT_CONTACT_CAP →
      ∀ contact, (n.meet event).1.chats.lookup contact = n.chats.lookup contact := by
  intro atomic
  have kept := atomic Symbolic.vacant (.merge (.ok Symbolic.crowd) 10) .start (by decide +kernel) "0"
  have brought : ((Symbolic.vacant.meet (.merge (.ok Symbolic.crowd) 10)).1.chats.lookup "0").isSome
      = true := by decide +kernel
  rw [kept] at brought
  exact absurd brought (by decide)

/-- A device stays within the cap once the backup was merged as far as it went. -/
theorem crowd_capped :
    (Symbolic.vacant.meet (.merge (.ok Symbolic.crowd) 10)).1.openContacts ≤ MAX_CONTACTS :=
  (Node.contacts_capped rfl
    (.step (.merge (.ok Symbolic.crowd) 10) .start ⟨rfl, rfl⟩)).1

end Nightdrop
