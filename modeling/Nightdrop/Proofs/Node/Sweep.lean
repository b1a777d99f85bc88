import Nightdrop.Node.Sweep

/-! The sweeps delete exactly what has expired, keep the rest in order, and a second one at the same time changes nothing. -/

namespace Nightdrop

variable {X : Externals}

/-- The last of some changes is the one that is asked for, or stands behind it. -/
theorem last_change {V : Type} {front before after : List V} {last x : V} (parts : front ++ [last] = before ++ x :: after) :
    (after = [] ∧ last = x) ∨ ∃ more, after = more ++ [last] ∧ front = before ++ x :: more := by
  rcases List.eq_nil_or_concat after with rfl | ⟨more, e, rfl⟩
  · have same := (List.append_inj' parts rfl).2
    exact .inl ⟨rfl, by simpa using same⟩
  · rw [List.concat_eq_append, ← List.cons_append, ← List.append_assoc] at parts
    obtain ⟨fronts, ends⟩ := List.append_inj' parts rfl
    have same : last = e := by simpa using ends
    exact .inr ⟨more, by rw [List.concat_eq_append, same], fronts⟩

/-- What is looked up in a timeline is what is in force. -/
theorem inForce_find {V : Type} (unset : V) (timeline : List (Nat × V)) (stamp : Nat) (v : V) :
    ((timeline.reverse.find? (·.1 ≤ stamp)).map (·.2)).getD unset = v ↔ InForce unset timeline stamp v := by
  induction timeline using List.reverseRecOn with
  | nil =>
    constructor
    · rintro rfl
      exact .inr ⟨rfl, by simp⟩
    · rintro (⟨before, changed, after, wrong, -⟩ | ⟨rfl, -⟩)
      · simp at wrong
      · rfl
  | append_singleton front last ih =>
    rw [List.reverse_append, List.reverse_singleton, List.singleton_append, List.find?_cons]
    by_cases early : last.1 ≤ stamp
    · simp only [early, decide_true, Option.map_some, Option.getD_some]
      constructor
      · rintro rfl
        exact .inl ⟨front, last.1, [], rfl, early, by simp⟩
      · rintro (⟨before, changed, after, parts, -, late⟩ | ⟨-, late⟩)
        · rcases last_change parts with ⟨-, same⟩ | ⟨more, rfl, -⟩
          · rw [same]
          · have behind := late last (by simp)
            omega
        · have behind := late last (by simp)
          omega
    · simp only [early, decide_false]
      rw [ih]
      -- A change after the message's time is as if it were not there.
      constructor
      · rintro (⟨before, changed, after, rfl, first, late⟩ | ⟨rfl, late⟩)
        · refine .inl ⟨before, changed, after ++ [last], by simp, first, fun e among => ?_⟩
          rcases List.mem_append.mp among with inside | ends
          · exact late e inside
          · rw [List.mem_singleton.mp ends]
            omega
        · refine .inr ⟨rfl, fun e among => ?_⟩
          rcases List.mem_append.mp among with inside | ends
          · exact late e inside
          · rw [List.mem_singleton.mp ends]
            omega
      · rintro (⟨before, changed, after, parts, first, late⟩ | ⟨rfl, late⟩)
        · rcases last_change parts with ⟨-, same⟩ | ⟨more, rfl, fronts⟩
          · rw [same] at early
            exact absurd first early
          · exact .inl ⟨before, changed, more, fronts, first, fun e among => late e (by simp [among])⟩
        · exact .inr ⟨rfl, fun e among => late e (by simp [among])⟩

/-- A message disappears exactly when its time is up. -/
theorem disappears_iff (chat : Chat X) (now : Nat) (m : ChatMessage) :
    Node.disappears chat now m = true ↔ TimeDue chat now m := by
  have storage := inForce_find false chat.storageTimeline m.stamp true
  change Node.storageOnAt chat.storageTimeline m.stamp = true ↔ _ at storage
  have timer (secs : Nat) : Node.timerAt chat.disappearingTimeline m.stamp = secs ↔ _ :=
    inForce_find 0 chat.disappearingTimeline m.stamp secs
  unfold TimeDue
  rw [← storage]
  simp only [← timer]
  unfold Node.disappears
  cases system : m.system with
  | true => simp
  | false =>
    simp only [Bool.not_false, Bool.true_and, Bool.and_eq_true, Bool.or_eq_true, decide_eq_true_eq,
      Bool.false_eq_true, if_false, true_and]
    constructor
    · rintro ⟨stamped, ⟨on, old⟩ | ⟨running, old⟩⟩
      · exact ⟨by simpa using stamped, .inl ⟨on, by omega⟩⟩
      · exact ⟨by simpa using stamped, .inr ⟨_, running, rfl, by omega⟩⟩
    · rintro ⟨stamped, ⟨on, old⟩ | ⟨secs, running, rfl, old⟩⟩
      · exact ⟨by simpa using stamped, .inl ⟨on, by omega⟩⟩
      · exact ⟨by simpa using stamped, .inr ⟨running, by omega⟩⟩

/-- A message's badge is flipped exactly as the sweep flips it. -/
theorem badged_eq (now : Nat) (m : ChatMessage) :
    (if Node.expires now m then { m with delivery := .expired } else m) = badged now m := by
  have same : (Node.expires now m = true)
      ↔ (m.fromMe = true ∧ m.delivery = .queued ∧ m.stamp ≠ 0 ∧ m.stamp + RELAY_TTL < now) := by
    simp only [Node.expires, Bool.and_eq_true, decide_eq_true_eq, and_assoc]
    constructor
    · rintro ⟨own, queued, stamped, old⟩
      exact ⟨own, queued, stamped, by omega⟩
    · rintro ⟨own, queued, stamped, old⟩
      exact ⟨own, queued, stamped, by omega⟩
  by_cases flips : Node.expires now m = true
  · rw [if_pos flips, badged, if_pos (same.mp flips)]
  · rw [if_neg flips, badged, if_neg fun wrong => flips (same.mpr wrong)]

/-- The burn sweep does to each message what its time says. -/
theorem sweptBurns_eq (now : Nat) (history : List ChatMessage) :
    Node.sweptBurns now history = history.filterMap (burnFate now) := by
  have unopened (m : ChatMessage) : Node.burnsUnopened now m = true ↔ BurnDue now m ∧ m.viewedAt = 0 ∧ m.fromMe = false := by
    simp only [Node.burnsUnopened, BurnDue, Bool.and_eq_true, decide_eq_true_eq, Bool.not_eq_true']
    unfold RELAY_TTL
    grind
  have done (m : ChatMessage) : Node.burnDone now m = true ↔ BurnDue now m := by
    simp only [Node.burnDone, BurnDue]
    unfold RELAY_TTL
    split
    · simp
      grind
    · split
      · simp only [decide_eq_true_eq]
        grind
      · simp only [decide_eq_true_eq]
        grind
  induction history with
  | nil => rfl
  | cons m rest ih =>
    unfold Node.sweptBurns at ih ⊢
    rw [List.map_cons, List.filter_cons, List.filterMap_cons, ih]
    by_cases due : BurnDue now m
    · by_cases marker : m.viewedAt = 0 ∧ m.fromMe = false
      · have kept : Node.burnDone now m.burnTombstone = false := rfl
        rw [if_pos ((unopened m).mpr ⟨due, marker⟩), kept, burnFate, if_pos due, if_pos marker]
        rfl
      · have other : ¬ Node.burnsUnopened now m = true := fun wrong => marker ((unopened m).mp wrong).2
        rw [if_neg other, (done m).mpr due, burnFate, if_pos due, if_neg marker]
        rfl
    · have other : ¬ Node.burnsUnopened now m = true := fun wrong => due ((unopened m).mp wrong).1
      have kept : Node.burnDone now m = false := by
        rw [Bool.eq_false_iff]
        exact fun wrong => due ((done m).mp wrong)
      rw [if_neg other, kept, burnFate, if_neg due]
      rfl

/-- What the burn sweep leaves of a message it leaves again. -/
theorem burnFate_again {now : Nat} {m m' : ChatMessage} (fate : burnFate now m = some m') : burnFate now m' = some m' := by
  unfold burnFate at fate
  split at fate
  · split at fate
    · cases fate
      rfl
    · cases fate
  · rename_i early
    cases fate
    rw [burnFate, if_neg early]

/-- A history of messages that are left as they are is left as it is. -/
theorem filterMap_self {f : ChatMessage → Option ChatMessage} {history : List ChatMessage}
    (same : ∀ m ∈ history, f m = some m) : history.filterMap f = history := by
  induction history with
  | nil => rfl
  | cons m rest ih =>
    rw [List.filterMap_cons, same m (.head _), ih fun m' among => same m' (.tail _ among)]

/-- A message whose badge is flipped burns as it did, and is not flipped again. -/
theorem badged_spec (now : Nat) (m : ChatMessage) :
    badged now (badged now m) = badged now m ∧ (burnFate now m = some m → burnFate now (badged now m) = some (badged now m)) := by
  unfold badged
  split
  · refine ⟨by simp, fun same => ?_⟩
    unfold burnFate at same ⊢
    split at same
    · rename_i due
      split at same
      · have secs := congrArg (Option.map ChatMessage.burnSecs) same
        simp only [Option.map_some, Option.some.injEq, ChatMessage.burnTombstone] at secs
        exact absurd due.1 (by omega)
      · cases same
    · rename_i early
      have still : ¬ BurnDue now { m with delivery := .expired } := early
      rw [if_neg still]
  · exact ⟨rfl, fun same => same⟩

namespace Node

/-- The chat after the burn sweep. -/
def burntChat (now : Nat) (chat : Chat X) : Chat X := { chat with history := sweptBurns now chat.history }

open scoped Classical in
/-- The history after the time sweep. -/
theorem sweptChat_history (now : Nat) (chat : Chat X) :
    (sweptChat now chat).history = (chat.history.filter fun m => ¬ TimeDue chat now m).map (badged now) := by
  have mapped : chat.history.map (fun m => if expires now m then { m with delivery := .expired } else m)
      = chat.history.map (badged now) := List.map_congr_left fun m _ => badged_eq now m
  have kept (c : Chat X) (storage : c.storageTimeline = chat.storageTimeline)
      (timer : c.disappearingTimeline = chat.disappearingTimeline) :
      (chat.history.map (badged now)).filter (!disappears c now ·)
        = (chat.history.filter fun m => ¬ TimeDue chat now m).map (badged now) := by
    rw [List.filter_map]
    congr 1
    apply List.filter_congr
    intro m _
    have same : disappears c now (badged now m) = disappears chat now m := by
      unfold disappears badged
      rw [storage, timer]
      split <;> rfl
    show (!disappears c now (badged now m)) = decide (¬ TimeDue chat now m)
    rw [same, Bool.eq_iff_iff]
    simp [← disappears_iff]
  unfold sweptChat
  simp only [mapped]
  split
  · rename_i empty
    -- Without a setting ever made, nothing disappears.
    have all : (chat.history.filter fun m => ¬ TimeDue chat now m) = chat.history := by
      rw [List.filter_eq_self]
      intro m _
      rw [decide_eq_true_eq, ← disappears_iff]
      simp [disappears, storageOnAt, timerAt, empty.1, empty.2]
    rw [all]
  · exact kept _ rfl rfl

/-- The time sweep leaves the settings of a chat. -/
theorem sweptChat_settings (now : Nat) (chat : Chat X) :
    (sweptChat now chat).storageTimeline = chat.storageTimeline
      ∧ (sweptChat now chat).disappearingTimeline = chat.disappearingTimeline := by
  unfold sweptChat
  simp only
  split
  · exact ⟨rfl, rfl⟩
  · exact ⟨rfl, rfl⟩

/-- Whether a message is due depends on the settings and its time only. -/
theorem timeDue_congr {chat other : Chat X} {now : Nat} {m m' : ChatMessage}
    (storage : other.storageTimeline = chat.storageTimeline)
    (timer : other.disappearingTimeline = chat.disappearingTimeline) (stamp : m'.stamp = m.stamp)
    (system : m'.system = m.system) : TimeDue other now m' ↔ TimeDue chat now m := by
  unfold TimeDue
  rw [storage, timer, stamp, system]

/-- A flipped badge leaves a message's time. -/
theorem badged_time (now : Nat) (m : ChatMessage) : (badged now m).stamp = m.stamp ∧ (badged now m).system = m.system := by
  unfold badged
  split
  · exact ⟨rfl, rfl⟩
  · exact ⟨rfl, rfl⟩

/-- What the time sweep leaves is not due any more, and has its badge. -/
theorem sweptChat_kept {now : Nat} {chat : Chat X} {m : ChatMessage} (among : m ∈ (sweptChat now chat).history) :
    ¬ TimeDue (sweptChat now chat) now m ∧ badged now m = m ∧ ∃ m' ∈ chat.history, m = badged now m' := by
  rw [sweptChat_history] at among
  obtain ⟨m', inside, rfl⟩ := List.mem_map.mp among
  obtain ⟨before, early⟩ := List.mem_filter.mp inside
  obtain ⟨storage, timer⟩ := sweptChat_settings now chat
  obtain ⟨stamp, system⟩ := badged_time now m'
  refine ⟨?_, (badged_spec now m').1, m', before, rfl⟩
  rw [timeDue_congr storage timer stamp system]
  simpa using early

/-- A chat none of whose messages is due or flipped is left as it is. -/
theorem sweptChat_self {now : Nat} {chat : Chat X} (early : ∀ m ∈ chat.history, ¬ TimeDue chat now m)
    (flipped : ∀ m ∈ chat.history, badged now m = m) : sweptChat now chat = chat := by
  have none' : chat.history.filter (expires now) = [] := by
    rw [List.filter_eq_nil_iff]
    intro m among expired
    have same := flipped m among
    rw [← badged_eq, if_pos expired] at same
    -- A message that expires was queued.
    have status := congrArg ChatMessage.delivery same
    simp only [expires, Bool.and_eq_true, decide_eq_true_eq] at expired
    rw [expired.1.1.2] at status
    cases status
  have history : chat.history.map (fun m => if expires now m then { m with delivery := .expired } else m)
      = chat.history := by
    rw [List.map_congr_left fun m among => (badged_eq now m).trans (flipped m among), List.map_id']
  have kept : chat.history.filter (!disappears chat now ·) = chat.history := by
    rw [List.filter_eq_self]
    intro m among
    have stays := early m among
    rw [← disappears_iff] at stays
    simpa using stays
  unfold sweptChat
  simp only [none', history, List.map_nil, List.foldl_nil]
  split
  · rfl
  · show { chat with history := chat.history.filter (!disappears chat now ·) } = chat
    rw [kept]

/-- A chat whose messages all stay in the burn sweep is left as it is. -/
theorem burntChat_self {now : Nat} {chat : Chat X} (same : ∀ m ∈ chat.history, burnFate now m = some m) :
    burntChat now chat = chat := by
  rw [burntChat, sweptBurns_eq, filterMap_self same]

/-- What the burn sweep leaves stays. -/
theorem burntChat_kept {now : Nat} {chat : Chat X} {m : ChatMessage} (among : m ∈ (burntChat now chat).history) :
    burnFate now m = some m := by
  change m ∈ sweptBurns now chat.history at among
  rw [sweptBurns_eq] at among
  obtain ⟨m', -, fate⟩ := List.mem_filterMap.mp among
  exact burnFate_again fate

/-- A second burn sweep of a chat changes nothing. -/
theorem burntChat_again (now : Nat) (chat : Chat X) : burntChat now (burntChat now chat) = burntChat now chat :=
  burntChat_self fun _ among => burntChat_kept among

/-- After both sweeps of a chat, neither changes anything. -/
theorem sweptChat_again (now : Nat) (chat : Chat X) :
    burntChat now (sweptChat now (burntChat now chat)) = sweptChat now (burntChat now chat)
      ∧ sweptChat now (sweptChat now (burntChat now chat)) = sweptChat now (burntChat now chat) := by
  constructor
  · refine burntChat_self fun m among => ?_
    obtain ⟨-, -, m', before, rfl⟩ := sweptChat_kept among
    exact (badged_spec now m').2 (burntChat_kept before)
  · exact sweptChat_self (fun m among => (sweptChat_kept among).1) fun m among => (sweptChat_kept among).2.1

/-- The chats of a node whose chats were all changed alike. -/
theorem entries_mapChats (n : Node X) (f : Chat X → Chat X) :
    (n.mapChats f).chats.entries = n.chats.entries.map fun e => ⟨e.1, f e.2⟩ := by
  show n.chats.entries.filterMap _ = _
  induction n.chats.entries with
  | nil => rfl
  | cons e rest ih =>
    rw [List.filterMap_cons, ih]
    rfl

/-- A change that no chat notices changes nothing. -/
theorem mapChats_self {n : Node X} {f : Chat X → Chat X} (same : ∀ e ∈ n.chats.entries, f e.2 = e.2) :
    n.mapChats f = n := by
  have entries : (n.mapChats f).chats = n.chats := by
    apply AList.ext
    rw [entries_mapChats]
    conv_rhs => rw [← List.map_id n.chats.entries]
    apply List.map_congr_left
    intro e among
    rw [same e among]
    rfl
  cases n
  simp only [mapChats] at entries ⊢
  rw [entries]

/-- A burn sweep that no chat notices changes nothing. -/
theorem sweepBurns_self {n : Node X} {now : Nat} (same : ∀ e ∈ n.chats.entries, burntChat now e.2 = e.2) :
    n.sweepBurns now = n := by
  have unchanged : n.chats.entries.any (fun e => sweptBurns now e.2.history ≠ e.2.history) = false := by
    rw [List.any_eq_false]
    intro e among
    have history : sweptBurns now e.2.history = e.2.history := congrArg Chat.history (same e among)
    simpa using history
  have mapped : n.mapChats (fun chat => { chat with history := sweptBurns now chat.history }) = n := mapChats_self same
  unfold sweepBurns
  simp only [unchanged, Bool.or_false, mapped]

/-- A time sweep that no chat notices changes nothing. -/
theorem sweepTime_self {n : Node X} {now : Nat} (burns : ∀ e ∈ n.chats.entries, burntChat now e.2 = e.2)
    (times : ∀ e ∈ n.chats.entries, sweptChat now e.2 = e.2) : n.sweepTime now = n := by
  have unchanged : n.chats.entries.any (fun e => (sweptChat now e.2).history ≠ e.2.history) = false := by
    rw [List.any_eq_false]
    intro e among
    have history := congrArg Chat.history (times e among)
    simpa using history
  have mapped : n.mapChats (sweptChat now) = n := mapChats_self times
  unfold sweepTime
  simp only [sweepBurns_self burns, unchanged, Bool.or_false, mapped]

/-- The chats after the burn sweep. -/
theorem entries_sweepBurns (n : Node X) (now : Nat) :
    (n.sweepBurns now).chats.entries = n.chats.entries.map fun e => ⟨e.1, burntChat now e.2⟩ :=
  entries_mapChats n (burntChat now)

/-- The chats after the time sweep. -/
theorem entries_sweepTime (n : Node X) (now : Nat) :
    (n.sweepTime now).chats.entries = n.chats.entries.map fun e => ⟨e.1, sweptChat now (burntChat now e.2)⟩ := by
  have mapped := entries_mapChats (n.sweepBurns now) (sweptChat now)
  rw [entries_sweepBurns, List.map_map] at mapped
  exact mapped

/-- What is looked up in chats that were all changed alike. -/
theorem lookup_mapChats (n : Node X) (f : Chat X → Chat X) (contact : String) :
    (n.mapChats f).chats.lookup contact = (n.chats.lookup contact).map f := by
  simp only [mapChats, KeyedMap.lookup_mapMaybe]
  cases n.chats.lookup contact <;> rfl

end Node

/-- A timer that is changed at some time is the same for messages from before. -/
theorem inForce_append {V : Type} (unset : V) (timeline : List (Nat × V)) {changed stamp : Nat} (before : stamp < changed)
    (v w : V) : InForce unset (timeline ++ [(changed, w)]) stamp v ↔ InForce unset timeline stamp v := by
  rw [← inForce_find, ← inForce_find, List.reverse_append, List.reverse_singleton, List.singleton_append,
    List.find?_cons]
  have late : ¬ changed ≤ stamp := by omega
  simp only [late, decide_false]

/-- At every time the sweeps delete exactly what has expired. -/
theorem sweeps_right (n : Node X) (now : Nat) : SweepsRight n now where
  burns contact := by
    have swept := Node.lookup_mapChats n (Node.burntChat now) contact
    change (n.sweepBurns now).chats.lookup contact = _ at swept
    rw [swept, Option.map_map]
    congr 1
    funext chat
    exact sweptBurns_eq now chat.history
  times contact := by
    have burnt := Node.lookup_mapChats n (Node.burntChat now) contact
    have swept := Node.lookup_mapChats (n.sweepBurns now) (Node.sweptChat now) contact
    change (n.sweepBurns now).chats.lookup contact = _ at burnt
    change (n.sweepTime now).chats.lookup contact = _ at swept
    rw [swept, burnt, Option.map_map, Option.map_map]
    congr 1
    funext chat
    show (Node.sweptChat now (Node.burntChat now chat)).history = _
    rw [Node.sweptChat_history, Node.burntChat, sweptBurns_eq]
    rfl
  burnsAgain := by
    apply Node.sweepBurns_self
    intro e among
    rw [Node.entries_sweepBurns] at among
    obtain ⟨e', -, rfl⟩ := List.mem_map.mp among
    exact Node.burntChat_again now e'.2
  timesAgain := by
    have again : ∀ e ∈ (n.sweepTime now).chats.entries, Node.burntChat now e.2 = e.2 ∧ Node.sweptChat now e.2 = e.2 := by
      intro e among
      rw [Node.entries_sweepTime] at among
      obtain ⟨e', -, rfl⟩ := List.mem_map.mp among
      exact Node.sweptChat_again now e'.2
    exact Node.sweepTime_self (fun e among => (again e among).1) fun e among => (again e among).2
  forward chat changed secs m before := by
    unfold TimeDue Chat.timerChanged
    simp only [inForce_append 0 chat.disappearingTimeline before]

/-- A burn message of theirs that nobody opened for a day is not removed: it leaves a tombstone. -/
theorem unopened_burn_stays : ¬ ∀ now history, Node.sweptBurns now history
    = history.filter fun m => ¬ BurnDue now m := by
  intro removed
  have gone := removed (RELAY_TTL + 1)
    [{ fromMe := false, text := "a", transferId := "t", msgId := "m", stamp := 1, burnSecs := 10 }]
  revert gone
  decide

end Nightdrop
