import Nightdrop.Node.Backup
import Nightdrop.Node.Symbolic

/-! What a merge folds in: the messages a chat lacks, each once, and the chats we have not, whole. -/

namespace Nightdrop

variable {X : Externals}

/-- A merge keeps what was there and adds what was missing. -/
theorem mergeHistory_perm (history backup : List ChatMessage) :
    (mergeHistory history backup).Perm (history ++ missingFrom history backup) :=
  List.mergeSort_perm _ _

theorem mem_missingFrom {history backup : List ChatMessage} {m : ChatMessage} :
    m ∈ missingFrom history backup
      ↔ m ∈ backup ∧ m.msgId ≠ "" ∧ ∀ held ∈ history, held.msgId ≠ m.msgId := by
  unfold missingFrom
  rw [List.mem_filter]
  refine and_congr_right fun _ => ?_
  simp only [ne_eq, Bool.and_eq_true, List.any_eq_false, decide_eq_true_eq,
    not_and, decide_not, Bool.not_eq_eq_eq_not, Bool.not_true, decide_eq_false_iff_not]
  refine and_congr_right fun named => ⟨fun lacks held member same => ?_, fun lacks held member _ => ?_⟩
  · -- A message with the same id has one.
    exact lacks held member (by rw [same]; exact named) same
  · exact lacks held member

/-- An id that the backup has once is missing once at most. -/
theorem nodup_missingFrom {history backup : List ChatMessage}
    (distinct : ((backup.filter (·.msgId ≠ "")).map (·.msgId)).Nodup) :
    ((missingFrom history backup).map (·.msgId)).Nodup := by
  have part : (missingFrom history backup).Sublist (backup.filter (·.msgId ≠ "")) := by
    unfold missingFrom
    refine List.monotone_filter_right backup fun m both => ?_
    simp only [Bool.and_eq_true] at both
    exact both.1
  exact (part.map _).nodup distinct

/-- A history that lacks nothing of a backup gains nothing from it. -/
theorem missingFrom_eq_nil {history backup : List ChatMessage}
    (has : ∀ m ∈ backup, m.msgId ≠ "" → ∃ held ∈ history, held.msgId = m.msgId) :
    missingFrom history backup = [] := by
  refine List.eq_nil_iff_forall_not_mem.mpr fun m member => ?_
  obtain ⟨stands, named, lacked⟩ := mem_missingFrom.mp member
  obtain ⟨held, there, same⟩ := has m stands named
  exact lacked held there same

/-- Once merged, a history lacks nothing of the backup. -/
theorem complete_of_perm {history backup history' : List ChatMessage}
    (merged : history'.Perm (history ++ missingFrom history backup)) :
    ∀ m ∈ backup, m.msgId ≠ "" → ∃ held ∈ history', held.msgId = m.msgId := by
  intro m stands named
  by_cases had : ∃ held ∈ history, held.msgId = m.msgId
  · obtain ⟨held, member, same⟩ := had
    exact ⟨held, merged.mem_iff.mpr (List.mem_append_left _ member), same⟩
  · -- It was missing, so the merge added it.
    have lacked : ∀ held ∈ history, held.msgId ≠ m.msgId :=
      fun held member same => had ⟨held, member, same⟩
    refine ⟨m, merged.mem_iff.mpr (List.mem_append_right _ ?_), rfl⟩
    exact mem_missingFrom.mpr ⟨stands, named, lacked⟩

/-- Where no contact is twice, a chat of the backup is the one found for its contact. -/
theorem find?_eq_some_of_nodup {chats : List (CarriedChat X)}
    (distinct : (chats.map (·.chat.contactId)).Nodup) {p : CarriedChat X} (member : p ∈ chats) :
    chats.find? (·.chat.contactId = p.chat.contactId) = some p := by
  induction chats with
  | nil => cases member
  | cons q rest ih =>
    obtain ⟨apart, others⟩ := List.nodup_cons.mp distinct
    rcases List.mem_cons.mp member with rfl | later
    · exact List.find?_cons_of_pos (by simp)
    · have differs : q.chat.contactId ≠ p.chat.contactId := by
        intro same
        exact apart (List.mem_map.mpr ⟨p, later, same.symm⟩)
      rw [List.find?_cons_of_neg (by simpa using differs)]
      exact ih others later

namespace Node

/-- What folding in one chat of a backup makes of the chat with its contact. -/
def foldChat (now : Nat) (chat? : Option (Chat X)) (p : CarriedChat X) : Option (Chat X) :=
  match chat? with
  | none => if p.opens then some (p.whole now) else none
  | some chat => some { chat with history := mergeHistory chat.history p.chat.history }

/-- Folding in touches the chat of its contact alone. -/
theorem foldIn_lookup (now : Nat) (n : Node X) (p : CarriedChat X) (contact : String) :
    (n.foldIn now p).1.chats.lookup contact
      = if contact = p.chat.contactId then foldChat now (n.chats.lookup contact) p
        else n.chats.lookup contact := by
  by_cases here : contact = p.chat.contactId
  · subst here
    rw [if_pos rfl]
    unfold foldIn
    cases found : n.chats.lookup p.chat.contactId with
    | none =>
      by_cases opens : p.opens = true
      · simp [foldChat, opens]
      · simp [foldChat, opens, found]
    | some chat => simp [found, foldChat]
  · rw [if_neg here]
    unfold foldIn
    cases n.chats.lookup p.chat.contactId with
    | none =>
      by_cases opens : p.opens = true
      · simp [opens, AList.lookup_insert_ne here]
      · simp [opens]
    | some chat => simp [here]

/-- The device once some chats of a backup are folded in. -/
def foldAll (now : Nat) (n : Node X) (done : List (CarriedChat X)) : Node X :=
  done.foldl (fun n p => (n.foldIn now p).1) n

/-- Where no contact is twice, each chat is what folding in its contact's chat makes of it. -/
theorem foldAll_lookup (now : Nat) {done : List (CarriedChat X)} (n : Node X) (contact : String)
    (distinct : (done.map (·.chat.contactId)).Nodup) :
    (n.foldAll now done).chats.lookup contact
      = ((done.find? (·.chat.contactId = contact)).map
          (foldChat now (n.chats.lookup contact))).getD (n.chats.lookup contact) := by
  induction done generalizing n with
  | nil => rfl
  | cons p rest ih =>
    obtain ⟨apart, others⟩ := List.nodup_cons.mp distinct
    have later := ih (n.foldIn now p).1 others
    rw [foldIn_lookup] at later
    by_cases here : p.chat.contactId = contact
    · -- The contact's chat is this one, and none of the rest.
      have none' : rest.find? (·.chat.contactId = contact) = none := by
        refine List.find?_eq_none.mpr fun q among same => apart ?_
        exact List.mem_map.mpr ⟨q, among, (of_decide_eq_true same).trans here.symm⟩
      rw [none', if_pos here.symm] at later
      rw [List.find?_cons_of_pos (by simpa using here)]
      exact later
    · rw [if_neg (Ne.symm here)] at later
      rw [List.find?_cons_of_neg (by simpa using here)]
      exact later

/-- Folding in changes the chats alone. -/
theorem foldIn_beside (now : Nat) (n : Node X) (p : CarriedChat X) :
    (n.foldIn now p).1 = { n with chats := (n.foldIn now p).1.chats } := by
  unfold foldIn
  split
  · split <;> rfl
  · rfl

theorem foldAll_beside (now : Nat) (done : List (CarriedChat X)) (n : Node X) :
    n.foldAll now done = { n with chats := (n.foldAll now done).chats } := by
  induction done generalizing n with
  | nil => rfl
  | cons p rest ih =>
    have first := foldIn_beside now n p
    have later := ih (n.foldIn now p).1
    unfold foldAll at later ⊢
    rw [List.foldl_cons, later, first]

/-- The number reported for a chat is how many messages it adds. -/
theorem foldIn_messages (now : Nat) (n : Node X) (p : CarriedChat X) :
    (n.foldIn now p).1.messages = n.messages + (n.foldIn now p).2 := by
  unfold foldIn messages
  cases found : n.chats.lookup p.chat.contactId with
  | none =>
    by_cases opens : p.opens = true
    · have total := KeyedMap.total_insert (fun _ (chat : Chat X) => chat.history.length) n.chats
        p.chat.contactId (p.whole now)
      simp only [KeyedMap.weightAt, found, Option.map_none, Option.getD_none] at total
      simp only [opens, if_true]
      omega
    · simp [opens]
  | some chat =>
    have grows : chat.history.length ≤ (mergeHistory chat.history p.chat.history).length := by
      have same := (mergeHistory_perm chat.history p.chat.history).length_eq
      rw [List.length_append] at same
      omega
    have total := KeyedMap.total_insert (fun _ (chat : Chat X) => chat.history.length) n.chats
      p.chat.contactId { chat with history := mergeHistory chat.history p.chat.history }
    simp only [KeyedMap.weightAt, found, Option.map_some, Option.getD_some] at total
    simp only [modifyChat, KeyedMap.modify, found]
    omega

/-- A merge folds in the chats up to one the contact cap refuses, if there is one. -/
theorem mergeCarried_spec (now : Nat) (chats : List (CarriedChat X)) (n : Node X) (added : Nat) :
    (∃ more, mergeCarried now chats n added = (n.foldAll now chats, .ok (added + more))
      ∧ (n.foldAll now chats).messages = n.messages + more)
    ∨ ∃ done p rest, chats = done ++ p :: rest ∧ (n.foldAll now done).refuses p = true
      ∧ mergeCarried now chats n added = (n.foldAll now done, .error AT_CONTACT_CAP) := by
  induction chats generalizing n added with
  | nil => exact .inl ⟨0, rfl, rfl⟩
  | cons p rest ih =>
    unfold mergeCarried
    by_cases refused : n.refuses p = true
    · rw [if_pos refused]
      exact .inr ⟨[], p, rest, rfl, refused, rfl⟩
    · rw [if_neg refused]
      rcases ih (n.foldIn now p).1 (added + (n.foldIn now p).2) with
        ⟨more, merged, counted⟩ | ⟨done, q, after, split, stopped, merged⟩
      · refine .inl ⟨(n.foldIn now p).2 + more, ?_, ?_⟩
        · rw [merged, Nat.add_assoc]
          rfl
        · have first := foldIn_messages now n p
          have whole : (n.foldAll now (p :: rest)).messages
              = ((n.foldIn now p).1.foldAll now rest).messages := rfl
          omega
      · exact .inr ⟨p :: done, q, after, by rw [split]; rfl, stopped, merged⟩

/-- What a merge that succeeds makes of a device, and the number it reports. -/
structure Merged (now : Nat) (n : Node X) (backup : Backup X) (n' : Node X) (added : Nat) : Prop where
  /-- A chat we have keeps its messages and gains those of the backup's that it lacks; all else of it
  stays. -/
  known : ∀ contact chat, n.chats.lookup contact = some chat →
    ∃ history', n'.chats.lookup contact = some { chat with history := history' }
      ∧ history'.Perm (chat.history ++ missingFrom chat.history (backup.historyOf contact))
  /-- An id that the backup's chat has once is added once. -/
  once : ∀ contact history,
    (((backup.historyOf contact).filter (·.msgId ≠ "")).map (·.msgId)).Nodup →
    ((missingFrom history (backup.historyOf contact)).map (·.msgId)).Nodup
  /-- A chat we have not comes whole, if its session opens. -/
  whole : ∀ contact, n.chats.lookup contact = none →
    n'.chats.lookup contact
      = (backup.carried contact).bind (fun p => if p.opens then some (p.whole now) else none)
  counted : n'.messages = n.messages + added
  beside : n' = { n with chats := n'.chats }

/-- A merge that folds in every chat of a backup is as it should be. -/
theorem foldAll_merged (now : Nat) (n : Node X) (backup : Backup X) {added : Nat}
    (counted : (n.foldAll now backup.chats).messages = n.messages + added) :
    n.Merged now backup (n.foldAll now backup.chats) added where
  known contact chat found := by
    rw [foldAll_lookup now n contact backup.distinct, found]
    unfold Backup.historyOf Backup.carried
    cases backup.chats.find? (·.chat.contactId = contact) with
    | none => exact ⟨chat.history, rfl, by simp [missingFrom]⟩
    | some p => exact ⟨_, rfl, mergeHistory_perm chat.history p.chat.history⟩
  once contact history distinct := nodup_missingFrom distinct
  whole contact absent := by
    rw [foldAll_lookup now n contact backup.distinct, absent]
    unfold Backup.carried
    cases backup.chats.find? (·.chat.contactId = contact) with
    | none => rfl
    | some p => rfl
  counted := counted
  beside := foldAll_beside now backup.chats n

/-- The same chats, with their messages in another order at most. -/
def Shuffled (n n' : Node X) : Prop :=
  ∀ contact, Option.Rel (fun chat chat' : Chat X =>
      ∃ history', chat' = { chat with history := history' } ∧ history'.Perm chat.history)
    (n.chats.lookup contact) (n'.chats.lookup contact)

theorem Shuffled.refl (n : Node X) : n.Shuffled n := by
  intro contact
  cases n.chats.lookup contact with
  | none => exact .none
  | some chat => exact .some ⟨chat.history, rfl, .refl _⟩

/-- Whether a device has all that a chat of a backup could bring it. -/
def Has (n : Node X) (p : CarriedChat X) : Prop :=
  match n.chats.lookup p.chat.contactId with
  | none => p.opens = false
  | some chat => ∀ m ∈ p.chat.history, m.msgId ≠ "" → ∃ held ∈ chat.history, held.msgId = m.msgId

/-- Folding in what a device has already adds nothing. -/
theorem foldIn_has (now : Nat) {n n1 : Node X} {p : CarriedChat X} (has : n.Has p)
    (shuffled : n.Shuffled n1) : (n1.foldIn now p).2 = 0 ∧ n.Shuffled (n1.foldIn now p).1 := by
  have same := shuffled p.chat.contactId
  unfold Has at has
  unfold foldIn
  cases found : n.chats.lookup p.chat.contactId with
  | none =>
    rw [found] at same has
    cases there : n1.chats.lookup p.chat.contactId with
    | some chat => rw [there] at same; cases same
    | none =>
      simp only [has, Bool.false_eq_true, if_false]
      exact ⟨trivial, shuffled⟩
  | some chat =>
    rw [found] at same has
    cases there : n1.chats.lookup p.chat.contactId with
    | none => rw [there] at same; cases same
    | some chat1 =>
      rw [there] at same
      obtain ⟨history1, rfl, perm⟩ : ∃ history', chat1 = { chat with history := history' }
          ∧ history'.Perm chat.history := by
        cases same with
        | some related => exact related
      have nothing : missingFrom history1 p.chat.history = [] := by
        refine missingFrom_eq_nil fun m stands named => ?_
        obtain ⟨held, member, id⟩ := has m stands named
        exact ⟨held, perm.mem_iff.mpr member, id⟩
      have sorted := mergeHistory_perm history1 p.chat.history
      rw [nothing, List.append_nil] at sorted
      refine ⟨?_, fun contact => ?_⟩
      · have length := sorted.length_eq
        simp only []
        omega
      · simp only [lookup_modifyChat]
        by_cases here : contact = p.chat.contactId
        · rw [if_pos here, here, found, there]
          exact .some ⟨_, rfl, sorted.trans perm⟩
        · rw [if_neg here]
          exact shuffled contact

/-- Merging what a device has already adds nothing, even where the contact cap ends it. -/
theorem mergeCarried_has {now : Nat} {n n1 : Node X} (chats : List (CarriedChat X)) {added : Nat}
    (has : ∀ p ∈ chats, n.Has p) (shuffled : n.Shuffled n1) :
    (∀ count, (mergeCarried now chats n1 added).2 = .ok count → count = added)
      ∧ n.Shuffled (mergeCarried now chats n1 added).1 := by
  induction chats generalizing n1 added with
  | nil =>
    refine ⟨fun count counted => ?_, shuffled⟩
    cases counted
    rfl
  | cons p rest ih =>
    obtain ⟨nothing, still⟩ := foldIn_has now (has p List.mem_cons_self) shuffled
    unfold mergeCarried
    split
    · refine ⟨fun count counted => ?_, shuffled⟩
      cases counted
    · rw [nothing, Nat.add_zero]
      exact ih (fun q among => has q (List.mem_cons_of_mem _ among)) still

/-- After a merge a device has all that the backup could bring. -/
theorem Merged.has {now added : Nat} {n n' : Node X} {backup : Backup X}
    (merged : n.Merged now backup n' added) {p : CarriedChat X} (member : p ∈ backup.chats) :
    n'.Has p := by
  have listed : backup.carried p.chat.contactId = some p := by
    unfold Backup.carried
    exact find?_eq_some_of_nodup backup.distinct member
  unfold Has
  cases found : n.chats.lookup p.chat.contactId with
  | some chat =>
    obtain ⟨history', there, perm⟩ := merged.known _ chat found
    rw [there]
    rw [Backup.historyOf, listed] at perm
    exact complete_of_perm perm
  | none =>
    have there := merged.whole _ found
    rw [listed, Option.bind_some] at there
    by_cases opens : p.opens = true
    · rw [if_pos opens] at there
      rw [there]
      exact fun m stands _ => ⟨m, stands, rfl⟩
    · rw [if_neg opens] at there
      rw [there]
      simpa using opens

end Node

namespace Symbolic

/-- A backup of a chat with one message of the contact and one notice, which has no id. -/
def carried : Backup symbolic where
  identity := some "me"
  chats := [⟨{ chat with history := [.ofText false "hello" "first" 1, .ofSystem "a notice" 2] }.toPersisted
    "them", true⟩]
  distinct := by simp

end Symbolic

end Nightdrop
