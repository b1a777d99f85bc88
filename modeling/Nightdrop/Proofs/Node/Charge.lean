import Nightdrop.Node.Flood
import Nightdrop.Proofs.Node.Handlers

/-! What a chat gains is paid for: by its contact's allowance, or by a mark that is never undone. -/

namespace Nightdrop

variable {X : Externals} {base : Allowance} {whom : String} {now : Nat}

/-- A change in place gains no entry. -/
@[simp] theorem surplus_updateFirst (p : ChatMessage → Bool) {f : ChatMessage → ChatMessage}
    (same : ∀ m, (f m).key = m.key) (list : List ChatMessage) :
    surplus ChatMessage.key list (updateFirst p f list) = 0 := by
  have keys : (updateFirst p f list).map ChatMessage.key = list.map ChatMessage.key := by
    induction list with
    | nil => rfl
    | cons m rest ih =>
      unfold updateFirst
      split
      · simp [same]
      · simp [ih]
  refine surplus_eq_zero ?_
  rw [keys]

namespace Allowance

variable {a a' : Allowance}

/-- The messages and the notice a window was used for. -/
def uses (a : Allowance) : Nat := a.messages + a.noticed.toNat

/-- Whether an allowance was used after it was this one: its window is another, or was used more. -/
def Later (base a : Allowance) : Prop := a.windowStart ≠ base.windowStart ∨ base.uses < a.uses

instance (base a : Allowance) : Decidable (base.Later a) := inferInstanceAs (Decidable (_ ∨ _))

/-- A measure of an allowance that was used after it was this one. -/
def since (measure : Allowance → Nat) (base a : Allowance) : Nat := if base.Later a then measure a else 0

/-- Whether an allowance may be used at a time: it was not since it was this one, or it was in the window
in force. -/
def Ready (base : Allowance) (now : Nat) (a : Allowance) : Prop :=
  a = base ∨ (base.Later a ∧ a.current now = a)

theorem not_later_self (base : Allowance) : ¬ base.Later base := by
  simp [Later]

/-- The window in force is the one there was, or a fresh one that begins at another time. -/
theorem current_cases (a : Allowance) (now : Nat) :
    a.current now = a ∨ (a.current now = { windowStart := now } ∧ a.windowStart ≠ now) := by
  unfold current
  split
  · refine .inr ⟨rfl, fun same => ?_⟩
    -- A window is in force when it begins, as a day has seconds.
    have day : 0 < DAY_SECS := by decide
    omega
  · exact .inl rfl

/-- Using the window in force makes the allowance a later one. -/
theorem Ready.later (ready : Ready base now a) (window : a'.windowStart = (a.current now).windowStart)
    (more : (a.current now).uses < a'.uses) : base.Later a' := by
  rcases ready with rfl | ⟨later, inForce⟩
  · rcases current_cases a now with unturned | ⟨turned, apart⟩
    · rw [unturned] at more
      exact .inr more
    · rw [turned] at window
      exact .inl fun same => apart (same.symm.trans window)
  · rw [inForce] at window more
    rcases later with other | fewer
    · exact .inl fun same => other (window.symm.trans same)
    · exact .inr (fewer.trans more)

/-- What a use of the window in force adds to a measure is added to the measure since. -/
theorem Ready.since_add (measure : Allowance → Nat) (gain : Nat) (ready : Ready base now a)
    (later : base.Later a') (paid : gain + measure (a.current now) ≤ measure a') :
    gain + since measure base a ≤ since measure base a' := by
  unfold since
  rw [if_pos later]
  rcases ready with rfl | ⟨before, inForce⟩
  · rw [if_neg (not_later_self a)]
    omega
  · rw [if_pos before]
    rwa [inForce] at paid

end Allowance

namespace Chat

/-- How often a chat was marked in a way that is never undone: closed, or no longer waiting. -/
def marks (chat : Chat X) : Nat := chat.closed.toNat + (!chat.awaitingApproval).toNat

/-- What the contact used of their messages since their allowance was this one. -/
def usedMessages (base : Allowance) (chat : Chat X) : Nat :=
  Allowance.since (fun a => min a.messages MAX_MESSAGES_PER_DAY) base chat.allowance

/-- What the contact used of their bytes since their allowance was this one. -/
def usedBytes (base : Allowance) (chat : Chat X) : Nat :=
  Allowance.since (fun a => min a.mediaBytes MAX_MEDIA_BYTES_PER_DAY) base chat.allowance

/-- Whether the contact ran past their allowance since it was this one. -/
def warned (base : Allowance) (chat : Chat X) : Nat :=
  Allowance.since (fun a => a.noticed.toNat) base chat.allowance

/-- Everything that may have left an entry since the contact's allowance was this one. -/
def charge (base : Allowance) (chat : Chat X) : Nat :=
  chat.usedMessages base + chat.warned base + chat.peerBackedUp.toNat + chat.marks

/-- The over-allowance notices of a conversation. -/
def overs (chat : Chat X) : Nat := chat.history.countP ChatMessage.isOverAllowance

/-- A chat that grew by what its allowance and its marks account for, and by so many stored bytes. -/
structure Grows (base : Allowance) (stored : Nat) (chat chat' : Chat X) : Prop where
  entries : surplus ChatMessage.key chat.history chat'.history + chat.charge base ≤ chat'.charge base
  notices : (chat'.overs - chat.overs) + chat.warned base ≤ chat'.warned base
  stored : stored + chat.usedBytes base ≤ chat'.usedBytes base
  marks : chat.marks ≤ chat'.marks
  since : chat.allowance = base ∨ base.Later chat.allowance →
    chat'.allowance = base ∨ base.Later chat'.allowance

/-- A chat that grew by what its marks account for alone. -/
structure Marked (chat chat' : Chat X) : Prop where
  allowance : chat'.allowance = chat.allowance
  backedUp : chat'.peerBackedUp = chat.peerBackedUp
  entries : surplus ChatMessage.key chat.history chat'.history + chat.marks ≤ chat'.marks
  notices : chat'.overs ≤ chat.overs

/-- A chat whose contact used of their allowance, for a message of this size. -/
structure Spent (base : Allowance) (size : Nat) (chat chat' : Chat X) : Prop where
  history : chat'.history = chat.history
  closed : chat'.closed = chat.closed
  backedUp : chat'.peerBackedUp = chat.peerBackedUp
  messages : 1 + chat.usedMessages base ≤ chat'.usedMessages base
  bytes : size + chat.usedBytes base ≤ chat'.usedBytes base
  warned : chat.warned base ≤ chat'.warned base
  later : base.Later chat'.allowance

namespace Grows

variable {a b c : Chat X} {stored more : Nat}

theorem trans (first : a.Grows base stored b) (second : b.Grows base more c) :
    a.Grows base (stored + more) c := by
  have stages := surplus_triangle ChatMessage.key a.history b.history c.history
  obtain ⟨entries, notices, bytes, marks, since⟩ := first
  obtain ⟨entries', notices', bytes', marks', since'⟩ := second
  exact ⟨by omega, by omega, by omega, by omega, fun before => since' (since before)⟩

/-- A chat is as it was, in all that is counted. -/
theorem of_same (history : b.history = a.history) (allowance : b.allowance = a.allowance)
    (closed : b.closed = a.closed) (backedUp : b.peerBackedUp = a.peerBackedUp) :
    a.Grows base 0 b := by
  have marks : b.marks = a.marks := by simp [Chat.marks, awaitingApproval, history, closed]
  constructor <;>
    simp [charge, usedMessages, usedBytes, Chat.warned, overs, marks, history, allowance, backedUp]

theorem refl (chat : Chat X) : chat.Grows base 0 chat := .of_same rfl rfl rfl rfl

/-- A chat that grew, and is as it was then in all that is counted. -/
theorem beside (grown : a.Grows base stored b) (history : c.history = b.history)
    (allowance : c.allowance = b.allowance) (closed : c.closed = b.closed)
    (backedUp : c.peerBackedUp = b.peerBackedUp) : a.Grows base stored c :=
  grown.trans (.of_same history allowance closed backedUp)

end Grows

theorem Marked.grows {a b : Chat X} (marked : a.Marked b) : a.Grows base 0 b := by
  obtain ⟨allowance, backedUp, entries, notices⟩ := marked
  have used : b.usedMessages base = a.usedMessages base ∧ b.usedBytes base = a.usedBytes base
      ∧ b.warned base = a.warned base := by
    simp [usedMessages, usedBytes, Chat.warned, allowance]
  obtain ⟨messages, bytes, warned⟩ := used
  constructor
  · simp only [charge, messages, warned, backedUp]
    omega
  · omega
  · omega
  · omega
  · rw [allowance]
    exact id

/-- A chat that is as closed and waits no more is marked at least as often. -/
theorem marks_le {a b : Chat X} (closed : b.closed = a.closed)
    (waits : b.awaitingApproval = true → a.awaitingApproval = true) : a.marks ≤ b.marks := by
  unfold marks
  rw [closed]
  cases before : a.awaitingApproval with
  | true => exact Nat.add_le_add_left (Nat.zero_le _) _
  | false =>
    cases after : b.awaitingApproval with
    | true => rw [waits after] at before; cases before
    | false => exact Nat.le_refl _

/-- Losing entries is no growth. -/
theorem Marked.of_filter {a b : Chat X} {keep : ChatMessage → Bool}
    (history : b.history = a.history.filter keep) (allowance : b.allowance = a.allowance)
    (closed : b.closed = a.closed) (backedUp : b.peerBackedUp = a.peerBackedUp) : a.Marked b where
  allowance := allowance
  backedUp := backedUp
  entries := by
    have waits : b.awaitingApproval = true → a.awaitingApproval = true := by
      simp only [awaitingApproval, history, List.any_eq_true, List.mem_filter]
      rintro ⟨m, ⟨member, -⟩, waits⟩
      exact ⟨m, member, waits⟩
    rw [history, surplus_filter, Nat.zero_add]
    exact marks_le closed waits
  notices := by
    unfold overs
    rw [history]
    exact List.filter_sublist.countP_le

/-- A change of entries in place, after which none of them newly waits or warns, is no growth. -/
theorem Marked.of_updateFirst (chat : Chat X) (p : ChatMessage → Bool)
    {f : ChatMessage → ChatMessage} (same : ∀ m, (f m).key = m.key)
    (waits : ∀ m, p m = true → ((f m).system && (f m).kind = .awaitApproval) = true →
      (m.system && m.kind = .awaitApproval) = true)
    (notices : ∀ m, p m = true → (f m).isOverAllowance = true → m.isOverAllowance = true) :
    chat.Marked { chat with history := updateFirst p f chat.history } where
  allowance := rfl
  backedUp := rfl
  entries := by
    have still : ∀ list : List ChatMessage,
        (updateFirst p f list).any (fun m => m.system && m.kind = .awaitApproval) = true →
        list.any (fun m => m.system && m.kind = .awaitApproval) = true := by
      intro list
      induction list with
      | nil => exact id
      | cons m rest ih =>
        unfold updateFirst
        split
        · rename_i here
          simp only [List.any_cons, Bool.or_eq_true]
          exact Or.imp_left (waits m here)
        · simp only [List.any_cons, Bool.or_eq_true]
          exact Or.imp_right ih
    rw [surplus_updateFirst p same, Nat.zero_add]
    exact marks_le rfl (still chat.history)
  notices := by
    have fewer : ∀ list : List ChatMessage, (updateFirst p f list).countP ChatMessage.isOverAllowance
        ≤ list.countP ChatMessage.isOverAllowance := by
      intro list
      induction list with
      | nil => exact Nat.le_refl _
      | cons m rest ih =>
        unfold updateFirst
        split
        · rename_i here
          rw [List.countP_cons, List.countP_cons]
          cases after : (f m).isOverAllowance with
          | true => rw [notices m here after]
          | false => simp
        · rw [List.countP_cons, List.countP_cons]
          exact Nat.add_le_add_right ih _
    exact fewer chat.history

/-- Clearing an old app's notice is no growth. -/
theorem Marked.forgetUpgradeNotice (chat : Chat X) : chat.Marked chat.forgetUpgradeNotice := by
  unfold Chat.forgetUpgradeNotice
  split
  · exact .of_filter rfl rfl rfl rfl
  · exact ⟨rfl, rfl, by simp, Nat.le_refl _⟩

/-- Clearing notices is no growth. -/
theorem Marked.clearSystemNotices (chat : Chat X) (kinds : List Kind) :
    chat.Marked (chat.clearSystemNotices kinds) :=
  .of_filter rfl rfl rfl rfl

/-- Closing an open chat leaves one notice, which its mark accounts for. -/
theorem Marked.of_closing {chat : Chat X} {text : String} (open' : chat.closed = false)
    (apart : text ≠ OVER_ALLOWANCE_NOTICE) : chat.Marked ({ chat with closed := true }.note text now) where
  allowance := rfl
  backedUp := rfl
  entries := by
    have idle : awaitingApproval ({ chat with closed := true }.note text now) = chat.awaitingApproval := by
      simp [awaitingApproval, Chat.note, ChatMessage.ofSystem]
    simp only [marks, idle, open']
    show surplus _ _ (chat.history ++ _) + (0 + _) ≤ 1 + _
    rw [surplus_concat]
    omega
  notices := by
    simp [overs, Chat.note, ChatMessage.isOverAllowance, ChatMessage.ofSystem, apart]

/-- A sign of life is no growth. -/
theorem Grows.markAlive (chat : Chat X) (now : Nat) : chat.Grows base 0 (chat.markAlive now) := by
  unfold Chat.markAlive
  simp only []
  refine Grows.trans (.of_same ?_ ?_ ?_ ?_) (Marked.forgetUpgradeNotice _).grows
  all_goals split <;> rfl

/-- One more entry is paid for by what was spent. -/
theorem Spent.concat {size : Nat} {a b : Chat X} (spent : a.Spent base size b) {m : ChatMessage}
    (unmarked : m.isOverAllowance = false) (idle : (m.system && m.kind = .awaitApproval) = false)
    {c : Chat X} (history : c.history = b.history ++ [m]) (allowance : c.allowance = b.allowance)
    (closed : c.closed = b.closed) (backedUp : c.peerBackedUp = b.peerBackedUp) :
    a.Grows base size c := by
  obtain ⟨history', closed', backedUp', messages, bytes, warned', later⟩ := spent
  have marks : c.marks = a.marks := by
    have waits : c.awaitingApproval = a.awaitingApproval := by
      simp only [awaitingApproval, history, history', List.any_append, List.any_cons, List.any_nil, idle,
        Bool.or_false]
    simp only [Chat.marks, closed, closed', waits]
  have overs : c.overs = a.overs := by
    simp [Chat.overs, history, history', List.countP_append, unmarked]
  have gained : surplus ChatMessage.key a.history c.history = 1 := by
    rw [history, history', surplus_concat]
  have same : c.usedMessages base = b.usedMessages base ∧ c.usedBytes base = b.usedBytes base
      ∧ c.warned base = b.warned base := by
    simp [usedMessages, usedBytes, Chat.warned, allowance]
  obtain ⟨sameMessages, sameBytes, sameWarned⟩ := same
  constructor
  · simp only [charge, gained, marks, backedUp, backedUp', sameMessages, sameWarned]
    omega
  · rw [overs, sameWarned]
    omega
  · rw [sameBytes]
    omega
  · rw [marks]
  · rw [allowance]
    exact fun _ => .inr later

/-- What was spent for nothing is no growth either. -/
theorem Spent.grows {size : Nat} {a b : Chat X} (spent : a.Spent base size b) : a.Grows base size b := by
  obtain ⟨history, closed, backedUp, messages, bytes, warned', later⟩ := spent
  have marks : b.marks = a.marks := by simp [Chat.marks, awaitingApproval, history, closed]
  constructor
  · simp only [charge, history, marks, backedUp, surplus_self]
    omega
  · simp only [overs, history]
    omega
  · exact bytes
  · rw [marks]
  · exact fun _ => .inr later

/-- What becomes of a message that the allowance is asked about. -/
theorem withinAllowance_cases (chat : Chat X) (size now : Nat) :
    (withinAllowance chat size now = ({ chat with allowance := { chat.allowance.current now with
          messages := (chat.allowance.current now).messages + 1
          mediaBytes := (chat.allowance.current now).mediaBytes + size } }, true)
        ∧ (chat.allowance.current now).messages < MAX_MESSAGES_PER_DAY
        ∧ (chat.allowance.current now).mediaBytes + size ≤ MAX_MEDIA_BYTES_PER_DAY)
      ∨ (withinAllowance chat size now = ({ chat with
            allowance := { chat.allowance.current now with noticed := true }
            history := chat.history ++ [.ofSystem OVER_ALLOWANCE_NOTICE now] }, false)
        ∧ (chat.allowance.current now).noticed = false)
      ∨ (withinAllowance chat size now = ({ chat with allowance := chat.allowance.current now }, false)
        ∧ (chat.allowance.current now).noticed = true) := by
  unfold withinAllowance Allowance.admit
  simp only []
  by_cases past : MAX_MESSAGES_PER_DAY ≤ (chat.allowance.current now).messages
      ∨ MAX_MEDIA_BYTES_PER_DAY < (chat.allowance.current now).mediaBytes + size
  · simp only [if_pos past]
    cases noticed : (chat.allowance.current now).noticed with
    | true => exact .inr (.inr (by simp))
    | false => exact .inr (.inl (by simp))
  · simp only [if_neg past]
    simp only [not_or, not_le, not_lt] at past
    exact .inl ⟨trivial, past.1, past.2⟩

/-- What is admitted was paid for. -/
theorem Spent.of_within {chat : Chat X} {size : Nat} (ready : base.Ready now chat.allowance)
    (within : (withinAllowance chat size now).2 = true) :
    chat.Spent base size (withinAllowance chat size now).1 := by
  rcases withinAllowance_cases chat size now with ⟨did, room, bytes⟩ | ⟨did, -⟩ | ⟨did, -⟩
  · rw [did]
    have later : base.Later { chat.allowance.current now with
        messages := (chat.allowance.current now).messages + 1
        mediaBytes := (chat.allowance.current now).mediaBytes + size } := by
      refine ready.later rfl ?_
      simp only [Allowance.uses]
      omega
    refine ⟨rfl, rfl, rfl, ready.since_add _ _ later ?_, ready.since_add _ _ later ?_, ?_, later⟩
    · simp only
      omega
    · simp only
      omega
    · have kept := ready.since_add (fun a => a.noticed.toNat) 0 later (by simp)
      rwa [Nat.zero_add] at kept
  · rw [did] at within
    cases within
  · rw [did] at within
    cases within

/-- A notice that the allowance is used up is paid for by the window it is for. -/
theorem Grows.of_notice {a b : Chat X} {m : ChatMessage} (history : b.history = a.history ++ [m])
    (idle : (m.system && m.kind = .awaitApproval) = false) (closed : b.closed = a.closed)
    (backedUp : b.peerBackedUp = a.peerBackedUp) (later : base.Later b.allowance)
    (warned : 1 + a.warned base ≤ b.warned base) (messages : a.usedMessages base ≤ b.usedMessages base)
    (bytes : a.usedBytes base ≤ b.usedBytes base) : a.Grows base 0 b := by
  have marks : b.marks = a.marks := by
    simp only [Chat.marks, awaitingApproval, history, closed, List.any_append, List.any_cons,
      List.any_nil, idle, Bool.or_false]
  constructor
  · simp only [history, surplus_concat, charge, marks, backedUp]
    omega
  · have one : [m].countP ChatMessage.isOverAllowance ≤ 1 := List.countP_le_length
    simp only [overs, history, List.countP_append]
    omega
  · omega
  · rw [marks]
  · exact fun _ => .inr later

/-- What is refused leaves one notice for the window at most. -/
theorem Grows.of_refused {chat : Chat X} {size : Nat} (ready : base.Ready now chat.allowance)
    (over' : (withinAllowance chat size now).2 = false) :
    chat.Grows base 0 (withinAllowance chat size now).1 := by
  rcases withinAllowance_cases chat size now with ⟨did, -, -⟩ | ⟨did, unnoticed⟩ | ⟨did, noticed⟩
  · rw [did] at over'
    cases over'
  · rw [did]
    have later : base.Later { chat.allowance.current now with noticed := true } := by
      refine ready.later rfl ?_
      simp [Allowance.uses, unnoticed]
    have warned := ready.since_add (fun a => a.noticed.toNat) 1 later
      (by simp [unnoticed])
    have messages := ready.since_add (fun a => min a.messages MAX_MESSAGES_PER_DAY) 0 later
      (by simp)
    have bytes := ready.since_add (fun a => min a.mediaBytes MAX_MEDIA_BYTES_PER_DAY) 0 later
      (by simp)
    refine .of_notice (m := .ofSystem OVER_ALLOWANCE_NOTICE now) rfl rfl rfl rfl later warned ?_ ?_
    · rwa [Nat.zero_add] at messages
    · rwa [Nat.zero_add] at bytes
  · rw [did]
    -- A fresh window has no notice yet, so this one was there before.
    have unturned : chat.allowance.current now = chat.allowance := by
      rcases Allowance.current_cases chat.allowance now with same | ⟨turned, -⟩
      · exact same
      · rw [turned] at noticed
        cases noticed
    exact .of_same rfl unturned rfl rfl

/-- A counted change grows as much as it does once it is paid for. -/
theorem Grows.counted {chat : Chat X} (ready : base.Ready now chat.allowance)
    {change : Chat X → Chat X} (pays : ∀ c : Chat X, chat.Spent base 0 c → chat.Grows base 0 (change c)) :
    chat.Grows base 0 (chat.counted now change).1 := by
  unfold Chat.counted
  simp only []
  cases within : (withinAllowance chat 0 now).2 with
  | true => exact pays _ (.of_within ready within)
  | false => exact .of_refused ready within

/-- A counted notice is paid for. -/
theorem Spent.note {a b c : Chat X} (spent : a.Spent base 0 b) {text : String}
    (apart : text ≠ OVER_ALLOWANCE_NOTICE)
    (history : c.history = b.history ++ [.ofSystem text now]) (allowance : c.allowance = b.allowance)
    (closed : c.closed = b.closed) (backedUp : c.peerBackedUp = b.peerBackedUp) : a.Grows base 0 c :=
  spent.concat (by simp [ChatMessage.isOverAllowance, ChatMessage.ofSystem, apart]) rfl history
    allowance closed backedUp

/-- A counted change beside the conversation is paid for. -/
theorem Spent.beside {a b c : Chat X} (spent : a.Spent base 0 b) (history : c.history = b.history)
    (allowance : c.allowance = b.allowance) (closed : c.closed = b.closed)
    (backedUp : c.peerBackedUp = b.peerBackedUp) : a.Grows base 0 c :=
  spent.grows.beside history allowance closed backedUp

/-- A sign of life keeps the allowance. -/
@[simp] theorem markAlive_allowance (chat : Chat X) (now : Nat) :
    (chat.markAlive now).allowance = chat.allowance := by
  have forgot (chat : Chat X) : chat.forgetUpgradeNotice.allowance = chat.allowance := by
    unfold forgetUpgradeNotice
    split <;> rfl
  unfold markAlive
  simp only []
  rw [forgot]
  split <;> rfl

variable {chat : Chat X}

/-- A switch of server storage leaves a counted notice. -/
theorem hearStorage_grows (ready : base.Ready now chat.allowance) (plaintext : Bytes) :
    chat.Grows base 0 (chat.hearStorage plaintext now).1 := by
  unfold hearStorage
  simp only []
  split
  · exact .refl chat
  · refine .counted ready fun c spent => spent.note ?_ rfl rfl rfl rfl
    split <;> decide

/-- A change of the timer leaves a counted notice. -/
theorem hearDisappearing_grows (ready : base.Ready now chat.allowance) (plaintext : Bytes) :
    chat.Grows base 0 (chat.hearDisappearing plaintext now).1 := by
  unfold hearDisappearing
  simp only []
  split
  · exact .refl chat
  · refine .counted ready fun c spent => spent.note (fun same => ?_) rfl rfl rfl rfl
    -- The two notices differ in their first character.
    have first := congrArg (fun text => text.toList.head?) same
    simp only [String.toList_append] at first
    rw [List.append_assoc, List.head?_append_of_ne_nil _ (by decide)] at first
    revert first
    decide +kernel

/-- A capture leaves a counted notice. -/
theorem hearScreenshot_grows (ready : base.Ready now chat.allowance) (plaintext : Bytes) :
    chat.Grows base 0 (chat.hearScreenshot plaintext now).1 := by
  unfold hearScreenshot
  split
  · exact .refl chat
  · rename_i text read
    have apart : text ≠ OVER_ALLOWANCE_NOTICE := by
      unfold captureNote at read
      split at read
      · cases read
        decide
      · split at read
        · cases read
          decide
        · split at read
          · cases read
            decide
          · split at read
            · cases read
              decide
            · cases read
    have ready : base.Ready now (chat.markAlive now).allowance := by simpa using ready
    have counted : (chat.markAlive now).Grows base 0 ((chat.markAlive now).counted now (Chat.note text now)).1 :=
      .counted ready fun c spent => spent.note apart rfl rfl rfl rfl
    exact (Grows.markAlive chat now).trans counted

/-- A backup is noted once. -/
theorem hearBackedUp_grows (chat : Chat X) (now : Nat) :
    chat.Grows base 0 (chat.hearBackedUp now).1 := by
  unfold hearBackedUp
  split
  · exact .refl chat
  · rename_i first
    have marks : Chat.marks ({ chat with peerBackedUp := true }.note BACKED_UP_TEXT now) = chat.marks := by
      simp [Chat.marks, awaitingApproval, Chat.note, ChatMessage.ofSystem]
    have apart : BACKED_UP_TEXT ≠ OVER_ALLOWANCE_NOTICE := by decide
    have unmarked : (ChatMessage.ofSystem BACKED_UP_TEXT now).isOverAllowance = false := by
      simp [ChatMessage.isOverAllowance, ChatMessage.ofSystem, apart]
    have first : chat.peerBackedUp = false := by simpa using first
    constructor
    · simp only [charge, marks, first]
      simp only [Chat.note, surplus_concat, Bool.toNat_true, Bool.toNat_false, usedMessages, Chat.warned]
      omega
    · simp [overs, Chat.note, List.countP_append, unmarked, Chat.warned]
    · simp [usedBytes, Chat.note]
    · rw [marks]
    · exact id

/-- A verdict on the safety number leaves a counted notice. -/
theorem hearVerified_grows (ready : base.Ready now chat.allowance) (plaintext : Bytes) :
    chat.Grows base 0 (chat.hearVerified plaintext now).1 := by
  unfold hearVerified
  split
  · exact .refl chat
  · split
    · exact .refl chat
    · refine .counted ready fun c spent => spent.note ?_ rfl rfl rfl rfl
      split <;> decide

/-- What the device says of captures is no growth. -/
theorem hearCaptures_grows (chat : Chat X) (visible : Bool) :
    chat.Grows base 0 (chat.hearCaptures visible).1 := by
  unfold hearCaptures
  split
  · exact .refl chat
  · exact .of_same rfl rfl rfl rfl

/-- A capture block that changes is counted, and paid for before anything is said of it. -/
theorem hearBlock_spent (ready : base.Ready now chat.allowance) (on : Bool) (seq : Nat)
    (shown : (chat.hearBlock on seq now).2 = true) :
    ∃ c : Chat X, chat.Grows base 0 c ∧ c.Spent base 0 (chat.hearBlock on seq now).1 := by
  unfold hearBlock at shown ⊢
  simp only [] at shown ⊢
  split at shown
  · cases shown
  · rename_i later
    rw [if_neg later]
    split at shown
    · cases shown
    · rename_i news
      rw [if_neg news]
      refine ⟨{ chat.markAlive now with peerBlockSeq := seq },
        (Grows.markAlive chat now).beside rfl rfl rfl rfl, ?_⟩
      have ready : base.Ready now ({ chat.markAlive now with peerBlockSeq := seq } : Chat X).allowance := by
        simpa using ready
      unfold counted at shown ⊢
      simp only [] at shown ⊢
      split at shown
      · rename_i within
        rw [if_pos within]
        obtain ⟨history, closed, backedUp, messages, bytes, warned, later⟩ := Spent.of_within ready within
        exact ⟨history, closed, backedUp, messages, bytes, warned, later⟩
      · rename_i refused
        exact absurd shown refused

/-- A capture block is no growth but what is counted. -/
theorem hearBlock_grows (ready : base.Ready now chat.allowance) (on : Bool) (seq : Nat) :
    chat.Grows base 0 (chat.hearBlock on seq now).1 := by
  have ready : base.Ready now ({ chat.markAlive now with peerBlockSeq := seq } : Chat X).allowance := by
    simpa using ready
  unfold hearBlock
  simp only []
  split
  · exact .markAlive chat now
  · have numbered : chat.Grows base 0 { chat.markAlive now with peerBlockSeq := seq } :=
      (Grows.markAlive chat now).beside rfl rfl rfl rfl
    split
    · exact numbered
    · refine numbered.trans (.counted ready fun c spent => ?_)
      exact spent.beside rfl rfl rfl rfl

/-- A nearby announcement leaves a counted notice at most. -/
theorem hearNearby_grows (ready : base.Ready now chat.allowance) (peer : PeerNearby) :
    chat.Grows base 0 (chat.hearNearby peer now).1 := by
  have ready : base.Ready now ({ chat.markAlive now with peerNearbySeq := peer.seq } : Chat X).allowance := by
    simpa using ready
  unfold hearNearby
  simp only []
  split
  · exact .markAlive chat now
  · have numbered : chat.Grows base 0 { chat.markAlive now with peerNearbySeq := peer.seq } :=
      (Grows.markAlive chat now).beside rfl rfl rfl rfl
    split
    · exact numbered
    · refine numbered.trans (.counted ready fun c spent => ?_)
      split
      · exact spent.note (by decide : NEARBY_ASKED_TEXT ≠ OVER_ALLOWANCE_NOTICE) rfl rfl rfl rfl
      · exact spent.beside rfl rfl rfl rfl

/-- A change of address leaves a counted notice. -/
theorem hearAddress_grows (ready : base.Ready now chat.allowance) (plaintext : Bytes) :
    chat.Grows base 0 (chat.hearAddress plaintext now).1 := by
  unfold hearAddress
  simp only []
  split
  · exact .refl chat
  · exact .counted ready fun c spent =>
      spent.note (by decide : ADDRESS_TEXT ≠ OVER_ALLOWANCE_NOTICE) rfl rfl rfl rfl

/-- A relay set is no growth. -/
theorem hearRelaySet_grows (chat : Chat X) (plaintext : Bytes) :
    chat.Grows base 0 (chat.hearRelaySet plaintext).1 := by
  unfold hearRelaySet
  split
  · exact .refl chat
  · simp only []
    split
    · exact .of_same rfl rfl rfl rfl
    · exact .of_same rfl rfl rfl rfl

/-- A version is no growth but what is counted. -/
theorem hearVersion_grows (ready : base.Ready now chat.allowance) (version : String) :
    chat.Grows base 0 (chat.hearVersion version now).1 := by
  -- An updated app is no longer held for, and its old notice goes.
  have updated : chat.Grows base 0 (if versionOutdated version then chat
        else { chat with peerWireOld := false }.forgetUpgradeNotice)
      ∧ (if versionOutdated version then chat
        else { chat with peerWireOld := false }.forgetUpgradeNotice).allowance = chat.allowance := by
    split
    · exact ⟨.refl chat, rfl⟩
    · have unheld : chat.Grows base 0 { chat with peerWireOld := false } := .of_same rfl rfl rfl rfl
      exact ⟨unheld.trans (Marked.forgetUpgradeNotice _).grows, (Marked.forgetUpgradeNotice _).allowance⟩
  unfold hearVersion
  revert updated
  generalize (if versionOutdated version then chat
    else { chat with peerWireOld := false }.forgetUpgradeNotice) = chat1
  rintro ⟨updated, same⟩
  have ready : base.Ready now chat1.allowance := by rwa [same]
  simp only []
  split
  · exact updated
  · split
    · exact updated.beside rfl rfl rfl rfl
    · have counted : chat1.Grows base 0
          (chat1.counted now ({ · with toldCaptures := none, toldBlock := none })).1 :=
        .counted ready fun c spent => spent.beside rfl rfl rfl rfl
      exact (updated.trans counted).beside rfl rfl rfl rfl

/-- A message is taken in for what it is counted as. -/
theorem takeIn_grows (ready : base.Ready now chat.allowance) {m : ChatMessage} (user : m.system = false) :
    chat.Grows base 0 (chat.takeIn m now).1 := by
  unfold Chat.takeIn
  split
  · exact .refl chat
  · simp only []
    cases within : (withinAllowance chat 0 now).2 with
    | false => exact .of_refused ready within
    | true =>
      rw [if_pos rfl]
      have spent : chat.Spent base 0 (withinAllowance chat 0 now).1 := .of_within ready within
      generalize (withinAllowance chat 0 now).1 = c at spent
      have landed : chat.Grows base 0 { c with history := c.history ++ [m] } :=
        spent.concat (m := m) (by simp [ChatMessage.isOverAllowance, user]) (by simp [user]) rfl rfl rfl rfl
      exact landed.trans (Marked.clearSystemNotices _ _).grows

end Chat

end Nightdrop
