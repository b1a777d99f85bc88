import Nightdrop.Node.Waiting
import Nightdrop.Node.Symbolic
import Nightdrop.Proofs.Node.Flood

/-! A transfer shows once: its attachment or the placeholder that awaits it, while no notice comes after an entry. -/

namespace Nightdrop

variable {X : Externals} {t : String} {history : List ChatMessage}

theorem entriesOf_append (t : String) (front back : List ChatMessage) :
    entriesOf t (front ++ back) = entriesOf t front ++ entriesOf t back := List.filter_append ..

/-- An entry of another transfer is none of this one. -/
theorem entriesOf_concat_other {m : ChatMessage} (other : m.transferId ≠ t) : entriesOf t (history ++ [m]) = entriesOf t history := by
  rw [entriesOf_append]
  simp [entriesOf, other]

theorem entriesOf_concat_own {m : ChatMessage} (own : m.transferId = t) : entriesOf t (history ++ [m]) = entriesOf t history ++ [m] := by
  rw [entriesOf_append]
  simp [entriesOf, own]

/-- What holds of an entry only within the transfer is found among the transfer's entries. -/
theorem any_entriesOf {p : ChatMessage → Bool} (within : ∀ m, p m = true → m.transferId = t) :
    history.any p = (entriesOf t history).any p := by
  unfold entriesOf
  rw [List.any_filter]
  congr 1
  funext m
  cases holds : p m with
  | false => simp
  | true => simp [within m holds]

/-- Completing an entry of another transfer leaves this one. -/
theorem entriesOf_updateFirst_other {p : ChatMessage → Bool} {f : ChatMessage → ChatMessage}
    (apart : ∀ m, p m = true → m.transferId ≠ t) (same : ∀ m, (f m).transferId = m.transferId) :
    entriesOf t (updateFirst p f history) = entriesOf t history := by
  induction history with
  | nil => rfl
  | cons m rest ih =>
    unfold updateFirst
    cases holds : p m with
    | true =>
      have other := apart m holds
      simp [entriesOf, same, other]
    | false =>
      simp only [Bool.false_eq_true, if_false]
      unfold entriesOf at ih ⊢
      simp only [List.filter_cons, ih]

/-- Completing an entry of this transfer is completing it among its entries. -/
theorem entriesOf_updateFirst_own {p : ChatMessage → Bool} {f : ChatMessage → ChatMessage}
    (within : ∀ m, p m = true → m.transferId = t) (same : ∀ m, (f m).transferId = m.transferId) :
    entriesOf t (updateFirst p f history) = updateFirst p f (entriesOf t history) := by
  induction history with
  | nil => rfl
  | cons m rest ih =>
    rw [updateFirst]
    cases holds : p m with
    | true =>
      have own := within m holds
      simp [entriesOf, same, own, updateFirst, holds]
    | false =>
      simp only [Bool.false_eq_true, if_false]
      unfold entriesOf at ih ⊢
      by_cases own : m.transferId = t
      · simp [own, ih, updateFirst, holds]
      · simp [List.filter_cons, own, ih]

theorem isArrived_within {m : ChatMessage} (arrived : m.isArrived t = true) : m.transferId = t := by
  simp only [ChatMessage.isArrived, Bool.and_eq_true, decide_eq_true_eq] at arrived
  exact arrived.1.2

theorem isAwaited_within {m : ChatMessage} (awaited : m.isAwaited t = true) : m.transferId = t := by
  simp only [ChatMessage.isAwaited, Bool.and_eq_true, decide_eq_true_eq] at awaited
  exact awaited.1.2

namespace Node

variable {n : Node X} {contact : String} {chat : Chat X} {message : WireOlm X.OlmMessage} {now : Nat}

/-- A frame of an approved contact says nothing here, or is opened on their session. -/
theorem openApproved_opened (n : Node X) (sender : String) (message : WireOlm X.OlmMessage)
    (act : Node X → Bytes → Node X × Processed) :
    (n.openedBy sender message = none ∧ (n.openApproved sender message act).1 = n)
      ∨ ∃ session plaintext chat, n.openedBy sender message = some plaintext ∧ n.chats.lookup sender = some chat
        ∧ n.openApproved sender message act
          = act (n.modifyChat sender (fun chat => { chat with session := session })) plaintext := by
  cases opened : n.opens sender message with
  | none =>
    refine .inl ⟨?_, openApproved_unread opened act⟩
    simp [openedBy, opened]
  | some result =>
    obtain ⟨session, plaintext⟩ := result
    obtain ⟨chat, olm, found, readable, opens⟩ := opens_eq_some.mp opened
    unfold openApproved openedBy
    simp only [readable, found, opens, opened, Option.any_some]
    cases chat.authorized with
    | false => exact .inl ⟨rfl, rfl⟩
    | true => exact .inr ⟨session, plaintext, chat, rfl, rfl, rfl⟩

theorem transferEntries_found (found : n.chats.lookup contact = some chat) (t : String) :
    n.transferEntries contact t = entriesOf t chat.history := by
  simp [transferEntries, historyOf, found]

theorem transferEntries_modifyChat (found : n.chats.lookup contact = some chat) (f : Chat X → Chat X) (t : String) :
    (n.modifyChat contact f).transferEntries contact t = entriesOf t (f chat).history := by
  apply transferEntries_found
  rw [lookup_modifyChat, if_pos rfl, found, Option.map_some]

/-- Counting a frame shows no entry of any transfer. -/
theorem withinAllowance_entries (named : t ≠ "") (chat : Chat X) (size now : Nat) :
    entriesOf t (withinAllowance chat size now).1.history = entriesOf t chat.history := by
  unfold withinAllowance
  split
  · rfl
  · exact entriesOf_concat_other (Ne.symm named)
  · rfl

/-- Counting a frame leaves the chat there, with its entries. -/
theorem admitMedia_entries (named : t ≠ "") (found : n.chats.lookup contact = some chat) (size now : Nat) :
    ∃ chat', (n.admitMedia contact size now).1.chats.lookup contact = some chat'
      ∧ entriesOf t chat'.history = entriesOf t chat.history := by
  refine ⟨(withinAllowance chat size now).1, ?_, withinAllowance_entries named chat size now⟩
  simp only [admitMedia]
  rw [lookup_modifyChat, if_pos rfl, found, Option.map_some]

/-- A notice of the transfer shows one placeholder more, where it shows anything. -/
theorem receiveMediaIncoming_entries (named : t ≠ "") (inputs : FrameInputs) :
    ((n.receiveMediaIncoming contact message inputs now).1.transferEntries contact t = n.transferEntries contact t
        ∧ (n.announces contact t message && (n.receiveMediaIncoming contact message inputs now).2.shows) = false)
      ∨ n.announces contact t message = true ∧ (n.receiveMediaIncoming contact message inputs now).2.shows = true
        ∧ ∃ m, (n.receiveMediaIncoming contact message inputs now).1.transferEntries contact t
            = n.transferEntries contact t ++ [m] ∧ m.mediaId = "" ∧ m.fromMe = false := by
  unfold receiveMediaIncoming
  rcases openApproved_opened n contact message _ with ⟨unread, same⟩ | ⟨session, plaintext, chat, opened, found, did⟩
  · rw [same]
    refine .inl ⟨rfl, ?_⟩
    simp [announces, unread]
  · rw [did]
    have found1 : (n.modifyChat contact (fun chat => { chat with session := session })).chats.lookup contact
        = some { chat with session := session } := by
      rw [lookup_modifyChat, if_pos rfl, found, Option.map_some]
    have before : n.transferEntries contact t = entriesOf t chat.history := transferEntries_found found t
    generalize n.modifyChat contact (fun chat => { chat with session := session }) = n1 at found1
    split
    · rename_i reason unreadable
      refine .inl ⟨?_, ?_⟩
      · rw [transferEntries_found found1, before]
      · simp [announces, opened, unreadable, Processed.shows]
    · rename_i transferId kind data read
      have about : n.announces contact t message = decide (transferId = t) := by
        simp [announces, opened, read, Except.toOption]
      simp only []
      generalize (if MAX_THUMB_BYTES < data.length then [] else data) = thumb
      obtain ⟨chat2, found2, entries2⟩ := admitMedia_entries named found1 thumb.length now
      cases admitted : n1.admitMedia contact thumb.length now with
      | mk n2 allowed =>
        rw [admitted] at found2
        cases allowed with
        | false =>
          refine .inl ⟨?_, ?_⟩
          · rw [transferEntries_found found2, entries2, before]
          · simp [Processed.shows]
        | true =>
          simp only
          -- The preview is sealed or there is none; either way the chat is as it was.
          have kept : ∀ n3 thumbId, (if thumb = [] then some (n2, "") else n2.storeMedia inputs.mediaId) = some (n3, thumbId)
              → n3.chats.lookup contact = some chat2 := by
            intro n3 thumbId stored
            split at stored
            · cases stored
              exact found2
            · unfold storeMedia at stored
              obtain ⟨id, -, same⟩ := Option.map_eq_some_iff.mp stored
              cases same
              exact found2
          split
          · refine .inl ⟨?_, ?_⟩
            · rw [transferEntries_found found2, entries2, before]
            · simp [Processed.shows]
          · rename_i n3 thumbId stored
            have found3 := kept n3 thumbId stored
            simp only [transferEntries_modifyChat found3]
            by_cases own : transferId = t
            · refine .inr ⟨by simp [about, own], rfl, .ofMedia false kind "" transferId thumbId now, ?_, rfl, rfl⟩
              rw [entriesOf_concat_own own, entries2, before]
            · refine .inl ⟨?_, by simp [about, own]⟩
              rw [entriesOf_concat_other own, entries2, before]

variable (n contact t message) in
/-- What an attachment can do to the entries of a transfer. -/
inductive Landed (did : Node X × Processed) : Prop where
  | aside (same : did.1.transferEntries contact t = n.transferEntries contact t)
      (unshown : (n.carries contact t message && did.2.shows) = false)
      (unended : (n.carries contact t message && did.2.ended) = false)
  | again (same : did.1.transferEntries contact t = n.transferEntries contact t)
      (about : n.carries contact t message = true) (unshown : did.2.shows = false) (ended : did.2.ended = true)
      (arrived : (n.transferEntries contact t).any (·.isArrived t) = true)
  | refused (gone : did.1.transferEntries contact t
        = (n.transferEntries contact t).filter fun m => !(!m.fromMe && decide (m.mediaId = "")))
      (about : n.carries contact t message = true) (unshown : did.2.shows = false) (ended : did.2.ended = true)
      (unarrived : (n.transferEntries contact t).any (·.isArrived t) = false)
  | stored (id : String) (m : ChatMessage) (some' : id ≠ "") (own : m.mediaId = id) (theirs : m.fromMe = false)
      (landed : did.1.transferEntries contact t = if (n.transferEntries contact t).any (·.isAwaited t) then
        updateFirst (·.isAwaited t) ({ · with mediaId := id }) (n.transferEntries contact t)
        else n.transferEntries contact t ++ [m])
      (about : n.carries contact t message = true) (shown : did.2.shows = true) (ended : did.2.ended = true)
      (unarrived : (n.transferEntries contact t).any (·.isArrived t) = false)

/-- An attachment completes its placeholder or is an entry of its own, unless it is there already or is refused. -/
theorem receiveMedia_landed (named : t ≠ "") {inputs : FrameInputs} (fresh : inputs.mediaId ≠ some "") :
    Landed t n contact message (n.receiveMedia contact message inputs now) := by
  unfold receiveMedia
  rcases openApproved_opened n contact message _ with ⟨unread, same⟩ | ⟨session, plaintext, chat, opened, found, did⟩
  · have aside : n.carries contact t message = false := by simp [carries, unread]
    exact .aside (by rw [same]) (by simp [aside]) (by simp [aside])
  · rw [did]
    have found1 : (n.modifyChat contact (fun chat => { chat with session := session })).chats.lookup contact
        = some { chat with session := session } := by
      rw [lookup_modifyChat, if_pos rfl, found, Option.map_some]
    have before : n.transferEntries contact t = entriesOf t chat.history := transferEntries_found found t
    generalize n.modifyChat contact (fun chat => { chat with session := session }) = n1 at found1
    split
    · rename_i reason unreadable
      have aside : n.carries contact t message = false := by simp [carries, opened, unreadable, Except.toOption]
      exact .aside (by rw [transferEntries_found found1, before]) (by simp [aside]) (by simp [aside])
    · rename_i transferId kind data read
      have about : n.carries contact t message = decide (transferId = t) := by
        simp [carries, opened, read, Except.toOption]
      rw [found1, Option.any_some]
      simp only []
      by_cases own : transferId = t
      · cases own
        have about : n.carries contact t message = true := by simp [about]
        have arrivals : chat.history.any (·.isArrived t) = (n.transferEntries contact t).any (·.isArrived t) := by
          rw [before]
          exact any_entriesOf fun m => isArrived_within
        split
        · rename_i arrived
          refine .again ?_ about rfl rfl (by rw [← arrivals]; exact arrived)
          rw [before]
          exact transferEntries_found (n := n1.receiptMedia contact t) found1 t
        · rename_i arrived
          have unarrived : (n.transferEntries contact t).any (·.isArrived t) = false := by
            rw [← arrivals]
            exact Bool.eq_false_iff.mpr arrived
          obtain ⟨chat2, found2, entries2⟩ := admitMedia_entries named found1 data.length now
          cases admitted : n1.admitMedia contact data.length now with
          | mk n2 allowed =>
            rw [admitted] at found2
            cases allowed with
            | false =>
              refine .refused ?_ about rfl rfl unarrived
              refine (transferEntries_modifyChat found2 _ t).trans ?_
              rw [before, ← entries2]
              unfold entriesOf
              rw [List.filter_filter, List.filter_filter]
              apply List.filter_congr
              intro m _
              by_cases own : m.transferId = t <;> simp [own]
            | true =>
              cases given : inputs.mediaId with
              | none =>
                refine .aside ?_ (by simp [storeMedia, Processed.shows]) (by simp [storeMedia, Processed.ended])
                rw [before, ← entries2]
                exact transferEntries_found found2 t
              | some id =>
                have some' : id ≠ "" := by
                  rintro rfl
                  exact fresh given
                refine .stored id (.ofMedia false kind id t "" now) some' rfl rfl ?_ about rfl rfl unarrived
                have found3 : ({ n2 with media := n2.media ++ [id] } : Node X).chats.lookup contact = some chat2 := found2
                refine (transferEntries_modifyChat found3 _ t).trans ?_
                have awaits : chat2.history.any (·.isAwaited t) = (n.transferEntries contact t).any (·.isAwaited t) := by
                  rw [before, ← entries2]
                  exact any_entriesOf fun m => isAwaited_within
                simp only [awaits]
                split
                · refine (entriesOf_updateFirst_own (fun m => isAwaited_within) (fun m => by rfl)).trans ?_
                  rw [entries2, before]
                · refine (entriesOf_concat_own (by rfl)).trans ?_
                  rw [entries2, before]
      · have aside : n.carries contact t message = false := by simp [about, own]
        refine .aside ?_ (by simp [aside]) (by simp [aside])
        rw [before]
        split
        · exact transferEntries_found (n := n1.receiptMedia contact transferId) found1 t
        · obtain ⟨chat2, found2, entries2⟩ := admitMedia_entries named found1 data.length now
          cases admitted : n1.admitMedia contact data.length now with
          | mk n2 allowed =>
            rw [admitted] at found2
            cases allowed with
            | false =>
              refine (transferEntries_modifyChat found2 _ t).trans ?_
              refine Eq.trans ?_ entries2
              unfold entriesOf
              rw [List.filter_filter]
              apply List.filter_congr
              intro m _
              by_cases mine : m.transferId = t
              · simp [mine, Ne.symm own]
              · simp [mine]
            | true =>
              cases given : inputs.mediaId with
              | none =>
                rw [← entries2]
                exact transferEntries_found found2 t
              | some id =>
                have found3 : ({ n2 with media := n2.media ++ [id] } : Node X).chats.lookup contact = some chat2 := found2
                refine (transferEntries_modifyChat found3 _ t).trans ?_
                simp only
                split
                · refine (entriesOf_updateFirst_other (fun m awaited => ?_) (fun m => by rfl)).trans entries2
                  rw [isAwaited_within awaited]
                  exact own
                · exact (entriesOf_concat_other own).trans entries2

end Node

namespace Waiting

variable {contact : String} {w : Waiting X}

/-- What a run keeps: one entry at most, of the contact's, and the right one. -/
structure Kept (contact t : String) (w : Waiting X) : Prop where
  right : Right contact t w
  theirs : ∀ m ∈ w.node.transferEntries contact t, m.fromMe = false

namespace Kept

/-- What the chat shows of the transfer: nothing, a placeholder or the attachment. -/
theorem shows (kept : Kept contact t w) :
    (w.stored = true ∧ ∃ m, w.node.transferEntries contact t = [m] ∧ m.mediaId ≠ "" ∧ m.fromMe = false)
      ∨ (w.stored = false ∧ w.waiting = true ∧ ∃ m, w.node.transferEntries contact t = [m] ∧ m.mediaId = "" ∧ m.fromMe = false)
      ∨ (w.stored = false ∧ w.waiting = false ∧ w.node.transferEntries contact t = []) := by
  cases stored : w.stored with
  | true =>
    obtain ⟨m, one, some'⟩ := kept.right.stored stored
    exact .inl ⟨rfl, m, one, some', kept.theirs m (by rw [one]; exact List.mem_singleton_self m)⟩
  | false =>
    cases waiting : w.waiting with
    | true =>
      obtain ⟨m, one, none'⟩ := kept.right.awaited stored waiting
      exact .inr (.inl ⟨rfl, rfl, m, one, none', kept.theirs m (by rw [one]; exact List.mem_singleton_self m)⟩)
    | false => exact .inr (.inr ⟨rfl, rfl, kept.right.idle stored waiting⟩)

/-- The attachment is shown. -/
theorem of_stored {m : ChatMessage} (stored : w.stored = true) (one : w.node.transferEntries contact t = [m])
    (some' : m.mediaId ≠ "") (theirs : m.fromMe = false) : Kept contact t w where
  right := ⟨fun _ => ⟨m, one, some'⟩, fun unstored => absurd (stored.symm.trans unstored) (by decide),
    fun unstored => absurd (stored.symm.trans unstored) (by decide)⟩
  theirs m' among := by
    rw [one] at among
    rw [List.mem_singleton.mp among, theirs]

/-- The placeholder is shown. -/
theorem of_awaited {m : ChatMessage} (unstored : w.stored = false) (waiting : w.waiting = true)
    (one : w.node.transferEntries contact t = [m]) (none' : m.mediaId = "") (theirs : m.fromMe = false) : Kept contact t w where
  right := ⟨fun stored => absurd (stored.symm.trans unstored) (by decide), fun _ _ => ⟨m, one, none'⟩,
    fun _ unawaited => absurd (waiting.symm.trans unawaited) (by decide)⟩
  theirs m' among := by
    rw [one] at among
    rw [List.mem_singleton.mp among, theirs]

/-- Nothing is shown. -/
theorem of_idle (unstored : w.stored = false) (unawaited : w.waiting = false)
    (nothing : w.node.transferEntries contact t = []) : Kept contact t w where
  right := ⟨fun stored => absurd (stored.symm.trans unstored) (by decide),
    fun _ waiting => absurd (waiting.symm.trans unawaited) (by decide), fun _ _ => nothing⟩
  theirs m' among := by
    rw [nothing] at among
    cases among

/-- Where neither the entries nor the record change, it is kept. -/
theorem same (kept : Kept contact t w) {w' : Waiting X} (entries : w'.node.transferEntries contact t = w.node.transferEntries contact t)
    (stored : w'.stored = w.stored) (waiting : w'.waiting = w.waiting) : Kept contact t w' where
  right := by
    refine ⟨?_, ?_, ?_⟩
    · rw [entries, stored]
      exact kept.right.stored
    · rw [entries, stored, waiting]
      exact kept.right.awaited
    · rw [entries, stored, waiting]
      exact kept.right.idle
  theirs := by
    rw [entries]
    exact kept.theirs

/-- A notice that comes before any entry shows one placeholder. -/
theorem notice (kept : Kept contact t w) (named : t ≠ "") (message : WireOlm X.OlmMessage) (inputs : Node.FrameInputs)
    (fresh : inputs.mediaId ≠ some "") (now : Nat)
    (timely : w.node.announces contact t message = true → w.node.transferEntries contact t = []) :
    Kept contact t (w.step (.notice message inputs fresh now : Action X contact t)) := by
  rcases @Node.receiveMediaIncoming_entries X t w.node contact message now named inputs with
    ⟨entries, unshown⟩ | ⟨about, shown, m, entries, none', theirs⟩
  · exact kept.same entries rfl (by simp [step, unshown])
  · have nothing := timely about
    rcases kept.shows with ⟨-, m', one, -⟩ | ⟨-, -, m', one, -⟩ | ⟨unstored, -, -⟩
    · rw [nothing] at one
      cases one
    · rw [nothing] at one
      cases one
    · rw [nothing, List.nil_append] at entries
      exact of_awaited unstored (by simp [step, about, shown]) entries none' theirs

/-- An attachment of the transfer is shown once, in its placeholder's place if there is one. -/
theorem media (kept : Kept contact t w) (named : t ≠ "") (message : WireOlm X.OlmMessage) (inputs : Node.FrameInputs)
    (fresh : inputs.mediaId ≠ some "") (now : Nat) :
    Kept contact t (w.step (.media message inputs fresh now : Action X contact t)) := by
  have awaiting : ∀ m : ChatMessage, m.mediaId = "" → m.isArrived t = false := by
    intro m none'
    simp [ChatMessage.isArrived, none']
  cases @Node.receiveMedia_landed X t w.node contact message now named inputs fresh with
  | aside same unshown unended => exact kept.same same (by simp [step, unshown]) (by simp [step, unended])
  | again same about unshown ended arrived =>
    -- Only a stored attachment has arrived, and what is stored is no longer awaited.
    rcases kept.shows with ⟨stored, m, one, some', theirs⟩ | ⟨-, -, m, one, none', -⟩ | ⟨-, -, nothing⟩
    · exact of_stored (by simp [step, stored]) (same.trans one) some' theirs
    · rw [one, List.any_cons, awaiting m none'] at arrived
      cases arrived
    · rw [nothing] at arrived
      cases arrived
  | refused gone about unshown ended unarrived =>
    rcases kept.shows with ⟨-, m, one, some', theirs⟩ | ⟨unstored, -, m, one, none', theirs⟩ | ⟨unstored, -, nothing⟩
    · have own : m.transferId = t := by
        have among : m ∈ w.node.transferEntries contact t := by
          rw [one]
          exact List.mem_singleton_self m
        exact of_decide_eq_true (List.mem_filter.mp among).2
      rw [one] at unarrived
      simp [ChatMessage.isArrived, theirs, some', own, named] at unarrived
    · refine of_idle (by simp [step, unstored, unshown]) (by simp [step, about, ended]) (gone.trans ?_)
      rw [one]
      simp [none', theirs]
    · refine of_idle (by simp [step, unstored, unshown]) (by simp [step, about, ended]) (gone.trans ?_)
      rw [nothing]
      rfl
  | stored id m' some' own theirs' landed about shown ended unarrived =>
    have now' : (w.step (.media message inputs fresh now : Action X contact t)).stored = true := by simp [step, about, shown]
    rcases kept.shows with ⟨-, m, one, some'', theirs⟩ | ⟨unstored, -, m, one, none', theirs⟩ | ⟨unstored, -, nothing⟩
    · have own : m.transferId = t := by
        have among : m ∈ w.node.transferEntries contact t := by
          rw [one]
          exact List.mem_singleton_self m
        exact of_decide_eq_true (List.mem_filter.mp among).2
      rw [one] at unarrived
      simp [ChatMessage.isArrived, theirs, some'', own, named] at unarrived
    · have own' : m.transferId = t := by
        have among : m ∈ w.node.transferEntries contact t := by
          rw [one]
          exact List.mem_singleton_self m
        exact of_decide_eq_true (List.mem_filter.mp among).2
      have awaited : m.isAwaited t = true := by simp [ChatMessage.isAwaited, own', none', named]
      rw [one, List.any_cons, awaited, Bool.true_or, if_pos rfl] at landed
      simp only [updateFirst, awaited, if_true] at landed
      exact of_stored now' landed some' theirs
    · rw [nothing, List.any_nil, if_neg (by decide), List.nil_append] at landed
      exact of_stored now' landed (by rw [own]; exact some') theirs'

/-- One timely step keeps it. -/
theorem step (kept : Kept contact t w) (named : t ≠ "") (action : Action X contact t) (timely : w.Timely action) :
    Kept contact t (w.step action) := by
  cases action with
  | notice message inputs fresh now => exact kept.notice named message inputs fresh now timely
  | media message inputs fresh now => exact kept.media named message inputs fresh now
  | others change => exact kept.same (change.2 w.node) rfl rfl

/-- A run of timely steps keeps it. -/
theorem run (kept : Kept contact t w) (named : t ≠ "") (actions : List (Action X contact t)) (timely : w.AllTimely actions) :
    Kept contact t (w.run actions) := by
  induction actions generalizing w with
  | nil => exact kept
  | cons action rest ih => exact ih (kept.step named action timely.1) timely.2

end Kept

/-- Where no notice of the transfer comes after an entry of it, the chat shows the transfer once and rightly, in any order. -/
theorem transfer_shows_once (contact t : String) (w : Waiting X) (actions : List (Action X contact t)) (fresh : Fresh contact t w)
    (timely : w.AllTimely actions) : Right contact t (w.run actions) :=
  ((Kept.of_idle fresh.unstored fresh.unawaited fresh.none').run fresh.named actions timely).right

/-- A device with an approved chat, before anything of the transfer. -/
def quiet : Waiting symbolic where
  node := Symbolic.device

/-- The contact's notice of a video, and the video. -/
def videoNotice : WireOlm symbolic.OlmMessage :=
  Symbolic.fromThem 1 (putField (utf8 "T") ++ putField (utf8 "video") ++ putField [] ++ [0, 0, 0, 0, 0, 0, 0, 1])

def video : WireOlm symbolic.OlmMessage :=
  Symbolic.fromThem 2 (packMedia "T" "video" "" [7])

/-- The notice and then the video, which the store takes. -/
def inOrder : List (Action symbolic "them" "T") :=
  [.notice videoNotice {} (by decide) 0, .media video { mediaId := some "A" } (by decide) 1]

/-- The same two the other way round. -/
def noticeLast : List (Action symbolic "them" "T") :=
  [.media video { mediaId := some "A" } (by decide) 0, .notice videoNotice {} (by decide) 1]

theorem quiet_fresh : Fresh "them" "T" quiet := ⟨by decide, rfl, rfl, rfl⟩

/-- In order, the video takes its placeholder's place. -/
theorem video_shows_once : Right "them" "T" (quiet.run inOrder) :=
  transfer_shows_once "them" "T" quiet inOrder quiet_fresh ⟨fun _ => rfl, trivial, trivial⟩

/-- A notice that comes after its video leaves a placeholder that nothing completes. -/
theorem late_notice_stays : ¬ ∀ (contact t : String) (w : Waiting symbolic) (actions : List (Action symbolic contact t)),
    Fresh contact t w → Right contact t (w.run actions) := by
  intro all
  have right := all "them" "T" quiet noticeLast quiet_fresh
  have stored : (quiet.run noticeLast).stored = true := by decide +kernel
  have two : ((quiet.run noticeLast).node.transferEntries "them" "T").length = 2 := by decide +kernel
  obtain ⟨m, one, -⟩ := right.stored stored
  rw [one] at two
  cases two

end Waiting
end Nightdrop
