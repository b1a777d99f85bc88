import Nightdrop.Node.Fanout
import Nightdrop.Proofs.Node.Keeps
import Nightdrop.Node.Symbolic

/-! Where relay copies go: each relay at most once, and nowhere while nothing connects the pair. -/

namespace Nightdrop

variable {X : Externals}

namespace Posting

/-- Where relays answer as given, a program goes on from what its first part came to. -/
theorem against_bind {A B : Type} (answers : RelayAnswers) (program : Posting A)
    (rest : A → Posting B) :
    against answers (program >>= rest) = against answers (rest (against answers program)) := by
  induction program with
  | done result => rfl
  | ask relay next ih => exact ih (answers relay)

end Posting

theorem against_postCopies (answers : RelayAnswers) (handle : String) (posted relays : List String) :
    Posting.against answers (postCopies handle posted relays)
      = postOnions answers handle posted relays := by
  induction relays generalizing posted with
  | nil => rfl
  | cons addr rest ih =>
    unfold postCopies postOnions
    split
    · exact ih posted
    · rw [Posting.against_bind, Posting.against_bind, ih]
      rfl

/-- The posts come to what the relays' answers alone determine. -/
theorem against_queueOnRelaysPosts (answers : RelayAnswers) (primary : Option RelayClient)
    (peerRelays : List String) (handle : String) :
    Posting.against answers (queueOnRelaysPosts primary peerRelays handle)
      = queueOnRelays answers primary peerRelays handle := by
  unfold queueOnRelaysPosts queueOnRelays
  split
  · rfl
  · split
    · rfl
    · rw [Posting.against_bind, Posting.against_bind, against_postCopies]
      cases primary <;> rfl

/-- The receipts of the copies taken, in the order they were posted. -/
def receipts (handle : String) (posts : List Post) : List QueuedReceipt :=
  posts.filterMap (fun p => p.2.map (receiptFrom handle p.1))

theorem receipts_append (handle : String) (posts more : List Post) :
    receipts handle (posts ++ more) = receipts handle posts ++ receipts handle more :=
  List.filterMap_append

/-- Someone took a copy exactly if there is a receipt. -/
theorem receipts_eq_nil (handle : String) (posts : List Post) :
    receipts handle posts = [] ↔ ∀ p ∈ posts, p.2 = none := by
  unfold receipts
  simp [List.filterMap_eq_nil_iff]

/-- One post adds itself to the record, and its receipt if the copy is taken. -/
theorem postCopy_meets (handle : String) (relay : Option String) (log : List Post) :
    Ask.Meets recordPost
      (fun log' copies => ∃ answer, log' = log ++ [(relay, answer)]
        ∧ copies = receipts handle [(relay, answer)])
      (postCopy handle relay) log := by
  rintro answer log' rfl
  refine ⟨answer, rfl, ?_⟩
  cases answer <;> rfl

/-- Every onion not posted to before is posted to once, and no other. -/
theorem postCopies_meets (handle : String) (posted relays : List String) (log : List Post) :
    Ask.Meets recordPost
      (fun log' copies => ∃ posts, log' = log ++ posts
        ∧ (∃ addrs : List String, posts.map (·.1) = addrs.map some ∧ addrs.Nodup
          ∧ ∀ addr ∈ addrs, addr ∉ posted ∧ addr ∈ relays)
        ∧ copies = receipts handle posts)
      (postCopies handle posted relays) log := by
  -- The onions posted to grow from one post to the next, so the induction takes them as they are.
  induction relays generalizing posted log with
  | nil => exact ⟨[], by simp, ⟨[], rfl, List.nodup_nil, by simp⟩, rfl⟩
  | cons addr rest ih =>
    unfold postCopies
    split
    · refine (ih posted log).mono ?_
      rintro log' copies ⟨posts, rfl, ⟨addrs, same, once, new⟩, rfl⟩
      exact ⟨posts, rfl, ⟨addrs, same, once, fun a here =>
        ⟨(new a here).1, List.mem_cons_of_mem _ (new a here).2⟩⟩, rfl⟩
    · rename_i unposted
      refine Ask.Meets.bind (postCopy_meets handle (some addr) log) ?_
      rintro log1 copy ⟨answer, rfl, rfl⟩
      refine Ask.Meets.bind (ih (posted ++ [addr]) (log ++ [(some addr, answer)])) ?_
      rintro log2 later ⟨posts, rfl, ⟨addrs, same, once, new⟩, rfl⟩
      refine ⟨(some addr, answer) :: posts, by simp, ⟨addr :: addrs, ?_, ?_, ?_⟩, ?_⟩
      · rw [List.map_cons, List.map_cons, same]
      · refine List.nodup_cons.mpr ⟨fun again => ?_, once⟩
        exact (new addr again).1 (List.mem_append_right _ (List.mem_singleton_self _))
      · intro a here
        rcases List.mem_cons.mp here with rfl | later
        · exact ⟨unposted, List.mem_cons_self⟩
        · refine ⟨fun before => (new a later).1 (List.mem_append_left _ before), ?_⟩
          exact List.mem_cons_of_mem _ (new a later).2
      · rw [← receipts_append, List.singleton_append]

/-- What the posts of one frame come to: no address twice, and a receipt for each copy taken. -/
structure Posted (primary : Option RelayClient) (peerRelays : List String) (handle : String)
    (posts : List Post) (result : Option (List QueuedReceipt)) : Prop where
  once : (posts.map (fun p => postAddress primary p.1)).Nodup
  asked : ∀ p ∈ posts, match p.1 with
    | none => primary.isSome = true
    | some addr => addr ∈ peerRelays
  accepted : result.isSome = true ↔ ∃ p ∈ posts, p.2.isSome = true
  receipted : ∀ copies, result = some copies → copies = receipts handle posts

/-- Whatever the relays answer, the posts of one frame are what they should be. -/
theorem queueOnRelaysPosts_meets (primary : Option RelayClient) (peerRelays : List String)
    (handle : String) :
    Ask.Meets recordPost (Posted primary peerRelays handle)
      (queueOnRelaysPosts primary peerRelays handle) [] := by
  have nothing : Posted primary peerRelays handle [] none :=
    ⟨List.nodup_nil, by simp, by simp, fun copies none => by cases none⟩
  unfold queueOnRelaysPosts
  split
  · exact nothing
  · split
    · exact nothing
    · -- The client is asked first, if the recipient's set includes the Night Drop relay.
      have first : Ask.Meets recordPost
          (fun log copies => ∃ posts, log = posts ∧ copies = receipts handle posts
            ∧ posts.map (·.1) = if primary.isSome then [none] else [])
          (postClient handle primary) [] := by
        unfold postClient
        split
        · refine (postCopy_meets handle none []).mono ?_
          rintro log copies ⟨answer, rfl, rfl⟩
          exact ⟨_, rfl, rfl, rfl⟩
        · exact ⟨[], rfl, rfl, rfl⟩
      refine Ask.Meets.bind first ?_
      rintro log copies ⟨posts, rfl, rfl, client⟩
      refine Ask.Meets.bind (postCopies_meets handle _ peerRelays log) ?_
      rintro log' more ⟨onions, rfl, ⟨addrs, same, once, new⟩, rfl⟩
      rw [← receipts_append]
      have clientOnly : ∀ p ∈ log, p.1 = none ∧ primary.isSome = true := by
        intro p among
        have there : p.1 ∈ log.map (·.1) := List.mem_map_of_mem among
        rw [client] at there
        split at there
        · rename_i present
          exact ⟨List.mem_singleton.mp there, present⟩
        · cases there
      have onionOnly : ∀ p ∈ onions, ∃ addr ∈ addrs, p.1 = some addr := by
        intro p among
        have there : p.1 ∈ onions.map (·.1) := List.mem_map_of_mem among
        rw [same] at there
        obtain ⟨addr, listed, here⟩ := List.mem_map.mp there
        exact ⟨addr, listed, here.symm⟩
      refine ⟨?_, fun p among => ?_, ?_, fun copies taken => ?_⟩
      · have addresses : (log ++ onions).map (fun p => postAddress primary p.1)
            = (log.map (·.1)).map (postAddress primary) ++ addrs.map some := by
          rw [List.map_append, List.map_map]
          congr 1
          calc onions.map (fun p => postAddress primary p.1)
              = (onions.map (·.1)).map (postAddress primary) := by rw [List.map_map]; rfl
            _ = (addrs.map some).map (postAddress primary) := by rw [same]
            _ = addrs.map some := by rw [List.map_map]; rfl
        rw [addresses, client]
        refine List.nodup_append.mpr ⟨?_, once.map (Option.some_injective _), ?_⟩
        · split
          · exact List.nodup_singleton _
          · exact List.nodup_nil
        · -- No onion is posted to that is the client under its own address.
          intro a front b back equal
          subst equal
          obtain ⟨addr, listed, rfl⟩ := List.mem_map.mp back
          split at front
          · have own : primary.bind (·.addr) = some addr := (List.mem_singleton.mp front).symm
            exact (new addr listed).1 (by rw [own]; exact List.mem_singleton_self _)
          · cases front
      · rcases List.mem_append.mp among with front | back
        · obtain ⟨this, present⟩ := clientOnly p front
          rw [this]
          exact present
        · obtain ⟨addr, listed, this⟩ := onionOnly p back
          rw [this]
          exact (new addr listed).2
      · split
        · rename_i refused
          have all := (receipts_eq_nil handle _).mp refused
          simp only [Option.isSome_none, Bool.false_eq_true, false_iff, not_exists, not_and]
          exact fun p among taken => by simp [all p among] at taken
        · rename_i some
          simp only [Option.isSome_some, true_iff]
          by_contra refused
          refine some ((receipts_eq_nil handle _).mpr fun p among => ?_)
          cases answer : p.2 with
          | none => rfl
          | some taken => exact absurd ⟨p, among, by simp [answer]⟩ refused
      · split at taken
        · cases taken
        · exact (Option.some.inj taken).symm

/-- Without a relay, or without a handle, nobody is asked. -/
theorem asksNobody_of_route {primary : Option RelayClient} {peerRelays : List String} {handle : String}
    (nowhere : (primary = none ∧ peerRelays = []) ∨ handle = "") :
    (queueOnRelaysPosts primary peerRelays handle).asksNobody = true := by
  unfold queueOnRelaysPosts
  rcases nowhere with ⟨rfl, rfl⟩ | rfl
  · rfl
  · split <;> rfl

namespace Node

/-- An empty set leads nowhere, and neither does any while we are direct only. -/
theorem postRoute_nowhere {n : Node X} {set : RelaySet}
    (apart : n.relays = [] ∨ (set.nightdrop = false ∧ set.relays = [])) :
    n.postRoute set = (none, []) := by
  unfold postRoute
  split
  · rfl
  · rcases apart with direct | ⟨without, empty⟩
    · contradiction
    · simp [expandRelaySet, without, empty, eachOnce]

/-- Where nothing connects the pair, a contact has no relay route. -/
theorem routeTo_nowhere {n : Node X} {contact : String} (apart : n.relaysApart contact = true) :
    n.routeTo contact = (none, []) := by
  unfold relaysApart pairApart at apart
  simp only [Bool.or_eq_true, decide_eq_true_eq, Bool.not_eq_true'] at apart
  unfold routeTo
  split
  · rename_i agreed
    unfold relaysBetween
    cases told : (n.chats.lookup contact).bind (·.relaySet) with
    | none => rfl
    | some set =>
      apply postRoute_nowhere
      rcases apart with direct | empty | unagreed
      · exact .inl direct
      · rw [told] at empty
        simpa using Or.inr empty
      · rw [agreed] at unagreed
        cases unagreed
  · rfl

/-- Holding a message moves no route. -/
theorem relaysApart_holdMessage (n : Node X) (held msgId : String) (bytes : Envelope X.OlmMessage)
    (contact : String) : (n.holdMessage held msgId bytes).relaysApart contact = n.relaysApart contact := by
  have same : n.Keeps (fun chat => (chat.relaySet, chat.mailbox)) (n.holdMessage held msgId bytes) := by
    refine Keeps.trans (.modifyChat n held _ fun chat _ => ?_) (.of_chats rfl)
    rfl
  have relaySet := (same.coarser Prod.fst) contact
  have mailbox := (same.coarser Prod.snd) contact
  have bound {β : Type} (field : Chat X → Option β)
      (maps : ((n.holdMessage held msgId bytes).chats.lookup contact).map field
        = (n.chats.lookup contact).map field) :
      ((n.holdMessage held msgId bytes).chats.lookup contact).bind field
        = (n.chats.lookup contact).bind field := by
    revert maps
    cases (n.holdMessage held msgId bytes).chats.lookup contact <;>
      cases n.chats.lookup contact <;> simp
  unfold relaysApart pairApart mailboxAgreed
  rw [bound (·.relaySet) relaySet, bound (·.mailbox) mailbox]
  rfl

/-- No planned message to a contact goes to a relay while nothing connects the pair. -/
theorem planEach_apart {contact : String} (now : Nat) (sends : List (PendingRelaySend X)) (n : Node X)
    (apart : n.relaysApart contact = true) {p : PlannedSend X} (planned : p ∈ (planEach now n sends).2)
    (theirs : p.contactId = contact) : p.primary = none ∧ p.relayTargets = [] := by
  induction sends generalizing n with
  | nil => cases planned
  | cons send rest ih =>
    unfold planEach at planned
    split at planned
    · exact ih n apart planned
    · split at planned
      · exact ih _ (by rwa [relaysApart_holdMessage]) planned
      · rcases List.mem_cons.mp planned with rfl | later
        · have route := routeTo_nowhere apart
          show (n.routeTo send.contactId).1 = none ∧ (n.routeTo send.contactId).2 = []
          have this : send.contactId = contact := theirs
          rw [this, route]
          exact ⟨rfl, rfl⟩
        · exact ih n apart later

/-- A pair with no agreed mailbox has no handle to post under. -/
theorem postHandle_unagreed {n : Node X} {contact : String} (unagreed : n.mailboxAgreed contact = false)
    (now : Nat) : n.postHandle contact now = none := by
  unfold postHandle
  unfold mailboxAgreed at unagreed
  cases found : n.chats.lookup contact with
  | none => rfl
  | some chat =>
    cases paired : chat.mailbox with
    | none => simp [paired]
    | some pair =>
      cases answered : pair.peer with
      | none => simp [paired, answered]
      | some peer =>
        have unconfirmed : pair.peerConfirmed = false := by
          simpa [found, paired, answered] using unagreed
        simp [paired, answered, unconfirmed]

/-- What a contact's set and handle come to when a frame is queued for a pair that is apart. -/
theorem direct_of_pairApart {n : Node X} {contact : String} (apart : n.pairApart contact = true)
    (now : Nat) (p : PendingControl X)
    (set : p.relays = (((n.chats.lookup contact).bind (·.relaySet)).getD {}).relays
      ∧ p.nightdrop = (((n.chats.lookup contact).bind (·.relaySet)).getD {}).nightdrop)
    (handle : p.handle = (n.postHandle contact now).getD "") : p.direct = true := by
  unfold pairApart at apart
  simp only [Bool.or_eq_true, Bool.not_eq_true'] at apart
  unfold PendingControl.direct
  rcases apart with empty | unagreed
  · rw [set.1, set.2]
    cases told : (n.chats.lookup contact).bind (·.relaySet) with
    | none => simp
    | some theirs =>
      rw [told] at empty
      simp only [Option.all_some, Bool.and_eq_true, Bool.not_eq_true', decide_eq_true_eq] at empty
      simp [empty.1, empty.2]
  · simp [handle, postHandle_unagreed unagreed now]

/-- Sealing a control frame changes neither the contact's set nor the pair's mailbox. -/
theorem authedControl_route {n n' : Node X} {contact address : String} {marker : Bytes}
    {kind : SealedKind} {frame : Frame X.OlmMessage}
    (did : n.authedControl contact marker kind = some (n', address, frame)) (now : Nat) :
    n'.pendingControl = n.pendingControl ∧ n'.postHandle contact now = n.postHandle contact now
      ∧ (n'.chats.lookup contact).bind (·.relaySet) = (n.chats.lookup contact).bind (·.relaySet) := by
  obtain ⟨chat, session, message, found, -, rfl, -, -⟩ := authedControl_eq did
  refine ⟨rfl, ?_, ?_⟩
  · unfold postHandle
    simp [found]
    rfl
  · simp [found]

/-- What deleting a chat of a pair that is apart leaves to send goes to no relay. -/
theorem deleteChat_direct {n n' : Node X} {contact : String} {now : Nat}
    (deleted : n.deleteChat contact now = .ok n') (apart : n.pairApart contact = true) :
    ∀ p ∈ n'.pendingControl, p ∈ n.pendingControl ∨ p.direct = true := by
  unfold deleteChat at deleted
  cases found : n.chats.lookup contact with
  | none => simp [found] at deleted
  | some chat =>
    simp only [found] at deleted
    cases deleted
    intro p among
    revert among
    split
    · exact Or.inl
    · rename_i n1 address frame did
      obtain ⟨pending, handle, -⟩ := authedControl_route did now
      intro among
      simp only [queuePendingControl, sendOrQueue, pending] at among
      rcases List.mem_append.mp among with old | new
      · exact .inl old
      · right
        refine direct_of_pairApart apart now p ?_ ?_
        · rw [List.mem_singleton.mp new, found]
          exact ⟨rfl, rfl⟩
        · rw [List.mem_singleton.mp new, ← handle]

/-- And so does a capture notice. -/
theorem sendCaptureNotice_direct {n : Node X} {contact : String} (marker : Bytes) (now : Nat)
    (apart : n.pairApart contact = true) :
    ∀ p ∈ (n.sendCaptureNotice contact marker now).pendingControl,
      p ∈ n.pendingControl ∨ p.direct = true := by
  intro p among
  unfold sendCaptureNotice at among
  split at among
  · exact .inl among
  · rename_i n1 address frame did
    obtain ⟨pending, handle, set⟩ := authedControl_route did now
    simp only [queuePendingControl, sendOrQueue, pending] at among
    rcases List.mem_append.mp among with old | new
    · exact .inl old
    · right
      refine direct_of_pairApart apart now p ?_ ?_
      · rw [List.mem_singleton.mp new, set]
        exact ⟨rfl, rfl⟩
      · rw [List.mem_singleton.mp new, ← handle]

/-- The `Hello` of a join goes to no relay at all. -/
theorem queueHello_direct (n : Node X) (contact peerAddress : String) (message : X.OlmMessage)
    (now : Nat) : ∀ p ∈ (n.queueHello contact peerAddress message now).pendingControl,
      p ∈ n.pendingControl ∨ p.direct = true := by
  intro p among
  simp only [queueHello, queuePendingControl, sendOrQueue] at among
  rcases List.mem_append.mp among with old | new
  · exact .inl old
  · right
    rw [List.mem_singleton.mp new]
    simp [PendingControl.direct]

/-- Retrying a control frame asks nobody while we are direct only, or if it was queued without a
relay to go to. -/
theorem detachPending_nowhere {n : Node X} {p : PendingControl X}
    (apart : n.relays = [] ∨ p.direct = true) : (n.detachPending p).posts.asksNobody = true := by
  refine asksNobody_of_route ?_
  unfold detachPending
  simp only []
  split
  · rename_i unnamed
    exact .inr unnamed
  · rename_i named
    have route : n.postRoute { nightdrop := p.nightdrop, relays := p.relays } = (none, []) := by
      refine postRoute_nowhere (apart.imp id fun direct => ?_)
      simpa [PendingControl.direct, named] using direct
    rw [route]
    exact .inl ⟨rfl, rfl⟩

/-- Whatever the relays answer, a frame is posted at most once to each relay address, the Night Drop
client's own counted once, taken exactly if a relay accepted it, with one receipt for each that did;
what is sent, planned or delivered for a contact while nothing connects the pair asks no relay, and a
pending control frame none while we are direct only, nor ever if the pair was apart when it was queued. -/
theorem relay_copies_go :
    (∀ primary peerRelays handle,
        Ask.Meets recordPost (Posted primary peerRelays handle)
            (queueOnRelaysPosts primary peerRelays handle) []
          ∧ ∀ answers, Posting.against answers (queueOnRelaysPosts primary peerRelays handle)
            = queueOnRelays answers primary peerRelays handle)
      ∧ (∀ (n : Node X) contact now, n.relaysApart contact = true →
        (∀ address bytes fresh, (n.detach address contact bytes fresh now).posts.asksNobody = true)
          ∧ (n.deliveryPosts contact now).asksNobody = true
          ∧ ∀ p ∈ (n.planPendingSends now).2, p.contactId = contact → p.posts.asksNobody = true)
      ∧ (∀ (n : Node X) p, n.relays = [] ∨ p.direct = true →
        (n.detachPending p).posts.asksNobody = true)
      ∧ ∀ (n : Node X) contact now, n.pairApart contact = true →
        (∀ n', n.deleteChat contact now = .ok n' →
            ∀ p ∈ n'.pendingControl, p ∈ n.pendingControl ∨ p.direct = true)
          ∧ (∀ marker, ∀ p ∈ (n.sendCaptureNotice contact marker now).pendingControl,
            p ∈ n.pendingControl ∨ p.direct = true)
          ∧ ∀ address message, ∀ p ∈ (n.queueHello contact address message now).pendingControl,
            p ∈ n.pendingControl ∨ p.direct = true := by
  refine ⟨fun primary peerRelays handle => ⟨queueOnRelaysPosts_meets primary peerRelays handle,
      fun answers => against_queueOnRelaysPosts answers primary peerRelays handle⟩,
    fun n contact now apart => ⟨fun address bytes fresh => ?_, ?_, ?_⟩,
    fun n p apart => detachPending_nowhere apart, fun n contact now apart =>
      ⟨fun n' deleted => deleteChat_direct deleted apart,
        fun marker => sendCaptureNotice_direct marker now apart,
        fun address message => queueHello_direct n contact address message now⟩⟩
  · refine asksNobody_of_route (.inl ?_)
    simp [detach, routeTo_nowhere apart]
  · refine asksNobody_of_route (.inl ?_)
    simp [routeTo_nowhere apart]
  · intro p planned theirs
    refine asksNobody_of_route (.inl ?_)
    exact planEach_apart now _ { n with pendingSends := [] } apart planned theirs

end Node

namespace Symbolic

/-- A device that shares the Night Drop relay and a mailbox with its contact. -/
def mailed : Node symbolic :=
  { device with
    relay := some {}
    chats := (∅ : KeyedMap String (Chat symbolic)).insert "them"
      { chat with relaySet := some { nightdrop := true }, mailbox := some (.seeded []) } }

end Symbolic

/-- Once we are direct only, neither a message to a contact we shared a relay with nor a notice queued
before asks one, and no notice to a contact without a relay set ever does. -/
theorem direct_only_asks_nobody :
    let n : Node symbolic := { Symbolic.mailed with relays := [] }
    (n.deliveryPosts "them" 0).asksNobody = true
      ∧ (n.detachPending ⟨"them", "them.onion", [], true, encode (.approved "me" ""), "box", false⟩).posts.asksNobody
        = true
      ∧ ∀ p ∈ (Symbolic.device.sendCaptureNotice "them" [] 0).pendingControl,
          p ∈ Symbolic.device.pendingControl ∨ p.direct = true :=
  ⟨(Node.relay_copies_go.2.1 _ "them" 0 (by decide +kernel)).2.1,
    Node.relay_copies_go.2.2.1 _ _ (.inl rfl),
    (Node.relay_copies_go.2.2.2 Symbolic.device "them" 0 (by decide +kernel)).2.1 []⟩

/-- The notice of a deleted chat goes to the relay although the contact's set is unknown by then: it
carries the set and the handle of when it was queued. -/
theorem deleted_chat_posts :
    (Symbolic.mailed.deleteChat "them" 0).toOption.map (fun n =>
        (n.relaysApart "them", n.pendingControl.map (fun p => (n.detachPending p).posts.asksNobody)))
      = some (true, [false]) := by
  decide +kernel

end Nightdrop
