import Nightdrop.Node.Receive

/-! What the sweeps are for: when each message's time is up, and what becomes of it then. -/

namespace Nightdrop

variable {X : Externals}

/-- Whether `v` is what the last change made at or before `stamp` set, or `unset` without one. -/
def InForce {V : Type} (unset : V) (timeline : List (Nat × V)) (stamp : Nat) (v : V) : Prop :=
  (∃ before changed after, timeline = before ++ (changed, v) :: after ∧ changed ≤ stamp ∧ ∀ e ∈ after, stamp < e.1)
    ∨ (v = unset ∧ ∀ e ∈ timeline, stamp < e.1)

/-- Whether a burn message's time is up: its own from when it was viewed, else a day. -/
def BurnDue (now : Nat) (m : ChatMessage) : Prop :=
  0 < m.burnSecs ∧ m.stamp ≠ 0 ∧
    (m.viewedAt ≠ 0 ∧ m.viewedAt + m.burnSecs ≤ now ∨ m.viewedAt = 0 ∧ m.stamp + RELAY_TTL ≤ now)

instance (now : Nat) (m : ChatMessage) : Decidable (BurnDue now m) :=
  inferInstanceAs (Decidable (_ ∧ _ ∧ (_ ∨ _)))

/-- What the burn sweep makes of a message: one of theirs nobody opened leaves a tombstone. -/
def burnFate (now : Nat) (m : ChatMessage) : Option ChatMessage :=
  if BurnDue now m then if m.viewedAt = 0 ∧ m.fromMe = false then some m.burnTombstone else none
  else some m

/-- Whether a message is to disappear: the timer in force at its time has run out, or a day with server storage on. -/
def TimeDue (chat : Chat X) (now : Nat) (m : ChatMessage) : Prop :=
  m.stamp ≠ 0 ∧ m.system = false ∧
    ((InForce false chat.storageTimeline m.stamp true ∧ m.stamp + RELAY_TTL < now)
      ∨ ∃ secs > 0, InForce 0 chat.disappearingTimeline m.stamp secs ∧ m.stamp + secs < now)

/-- A message with its badge as the time sweep leaves it. -/
def badged (now : Nat) (m : ChatMessage) : ChatMessage :=
  if m.fromMe = true ∧ m.delivery = .queued ∧ m.stamp ≠ 0 ∧ m.stamp + RELAY_TTL < now
  then { m with delivery := .expired } else m

/-- A chat whose timer was changed at some time. -/
def Chat.timerChanged (changed secs : Nat) (chat : Chat X) : Chat X :=
  { chat with disappearingTimeline := chat.disappearingTimeline ++ [(changed, secs)] }

open scoped Classical in
/-- Whether the sweeps at a time delete exactly what has expired. -/
structure SweepsRight (n : Node X) (now : Nat) : Prop where
  /-- The burn sweep removes or empties what is due, and keeps the rest as it is and in order. -/
  burns : ∀ contact, ((n.sweepBurns now).chats.lookup contact).map Chat.history
    = (n.chats.lookup contact).map fun chat => chat.history.filterMap (burnFate now)
  /-- The time sweep also removes what is due by the settings in force at its time. -/
  times : ∀ contact, ((n.sweepTime now).chats.lookup contact).map Chat.history
    = (n.chats.lookup contact).map fun chat =>
      ((chat.history.filterMap (burnFate now)).filter fun m => ¬ TimeDue chat now m).map (badged now)
  burnsAgain : (n.sweepBurns now).sweepBurns now = n.sweepBurns now
  timesAgain : (n.sweepTime now).sweepTime now = n.sweepTime now
  /-- A change of the timer is about messages from then on. -/
  forward : ∀ chat : Chat X, ∀ changed secs m, m.stamp < changed →
    (TimeDue (chat.timerChanged changed secs) now m ↔ TimeDue chat now m)

end Nightdrop
