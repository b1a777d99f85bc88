import Mathlib
import Nightdrop.Node.Invites
import Nightdrop.Proofs.Node.Polling

/-! Guesses at a short code: each distinct opener is counted, and a full count answers no other. -/

namespace Nightdrop

variable {H : Hashes} {respond : String → String → Bytes → Option Bytes}

/-- What was counted before stays counted, and whoever was answered is counted. -/
structure Guessing.Counted (H : Hashes) (before : List Bytes) (g : Guessing) : Prop where
  keeps : before ⊆ g.seen
  bound : g.seen.length ≤ MAX_OPENERS_PER_INVITE
  answered : g.answered ⊆ g.seen
  responses : ∀ opener ∈ g.responses, H.sha256 opener ∈ g.seen

/-- A round over an invite begins with its count. -/
theorem Guessing.Counted.start {before : List Bytes}
    (bound : before.length ≤ MAX_OPENERS_PER_INVITE) :
    Guessing.Counted H before { seen := before, answered := [], responses := [] } where
  keeps := List.Subset.refl _
  bound := bound
  answered := List.nil_subset _
  responses := fun _ among => by cases among

/-- One opener that is let through is counted, unless it was counted before. -/
theorem Guessing.Counted.answer {before : List Bytes} {g : Guessing} (counted : g.Counted H before)
    {opener : Bytes} {secret payload : String}
    (room : H.sha256 opener ∈ g.seen ∨ g.seen.length < MAX_OPENERS_PER_INVITE) :
    Guessing.Counted H before
      { seen := if H.sha256 opener ∈ g.seen then g.seen else g.seen ++ [H.sha256 opener]
        answered := g.answered ++ [H.sha256 opener]
        responses := if (respond secret payload opener).isSome then g.responses ++ [opener]
          else g.responses } := by
  -- Whichever way it goes, the count holds what it held, and this opener.
  have grows : ∀ digest ∈ g.seen,
      digest ∈ if H.sha256 opener ∈ g.seen then g.seen else g.seen ++ [H.sha256 opener] := by
    intro digest among
    split
    · exact among
    · exact List.mem_append_left _ among
  have counts :
      H.sha256 opener ∈ if H.sha256 opener ∈ g.seen then g.seen else g.seen ++ [H.sha256 opener] := by
    split
    · assumption
    · exact List.mem_append_right _ (List.mem_singleton.mpr rfl)
  constructor
  · intro digest among
    exact grows digest (counted.keeps among)
  · show (if H.sha256 opener ∈ g.seen then g.seen else g.seen ++ [H.sha256 opener]).length ≤ _
    split
    · exact counted.bound
    · rename_i unseen
      rw [List.length_append, List.length_singleton]
      exact room.resolve_left unseen
  · intro digest among
    rcases List.mem_append.mp among with earlier | this
    · exact grows digest (counted.answered earlier)
    · rw [List.mem_singleton.mp this]
      exact counts
  · intro other among
    have either : other ∈ g.responses ∨ other = opener := by
      simp only [] at among
      split at among
      · exact (List.mem_append.mp among).imp_right List.mem_singleton.mp
      · exact Or.inl among
    rcases either with earlier | rfl
    · exact grows _ (counted.responses other earlier)
    · exact counts

/-- Answering what one relay had keeps the count. -/
theorem Guessing.Counted.openers {before : List Bytes} {secret payload : String} {g : Guessing}
    (counted : g.Counted H before) (openers : List Bytes) :
    (answerOpeners H respond secret payload g openers).1.Counted H before := by
  induction openers generalizing g with
  | nil => exact counted
  | cons opener rest ih =>
    unfold answerOpeners
    simp only []
    split
    · exact ih counted
    · split
      · exact counted
      · rename_i unanswered open'
        refine ih (counted.answer ?_)
        by_cases seen : H.sha256 opener ∈ g.seen
        · exact Or.inl seen
        · exact Or.inr (Nat.lt_of_not_le fun full => open' ⟨seen, full⟩)

/-- Answering what every relay had keeps the count. -/
theorem Guessing.Counted.relays {before : List Bytes} {secret payload : String} {g : Guessing}
    (counted : g.Counted H before) (takes : List (Option (List Bytes))) :
    (answerRelays H respond secret payload g takes).1.Counted H before := by
  induction takes generalizing g with
  | nil => exact counted
  | cons take rest ih =>
    cases take with
    | none => exact ih counted
    | some openers =>
      unfold answerRelays
      simp only []
      split
      · exact counted.openers openers
      · exact ih (counted.openers openers)

/-- A round keeps the count of each invite. -/
theorem serveInvite_counted {invite : PendingInvite}
    (bound : invite.openers.length ≤ MAX_OPENERS_PER_INVITE) (takes : List (Option (List Bytes))) :
    (serveInvite H respond invite takes).1.Counted H invite.openers :=
  (Guessing.Counted.start bound).relays takes

/-- Openers that were counted before change no count, and retire nothing. -/
theorem answerOpeners_known {secret payload : String} {g : Guessing} {openers : List Bytes}
    (known : ∀ opener ∈ openers, H.sha256 opener ∈ g.seen) :
    (answerOpeners H respond secret payload g openers).1.seen = g.seen
      ∧ (answerOpeners H respond secret payload g openers).2 = false := by
  induction openers generalizing g with
  | nil => exact ⟨rfl, rfl⟩
  | cons opener rest ih =>
    have this := known opener (List.mem_cons_self ..)
    have others : ∀ other ∈ rest, H.sha256 other ∈ g.seen :=
      fun other among => known other (List.mem_cons_of_mem _ among)
    unfold answerOpeners
    simp only [this, not_true_eq_false, false_and, if_false, if_true]
    split
    · exact ih others
    · exact ih (g := { g with
        answered := g.answered ++ [H.sha256 opener]
        responses := if (respond secret payload opener).isSome then g.responses ++ [opener]
          else g.responses }) others

theorem answerRelays_known {secret payload : String} {g : Guessing}
    {takes : List (Option (List Bytes))}
    (known : ∀ openers, some openers ∈ takes → ∀ opener ∈ openers, H.sha256 opener ∈ g.seen) :
    (answerRelays H respond secret payload g takes).1.seen = g.seen
      ∧ (answerRelays H respond secret payload g takes).2 = false := by
  induction takes generalizing g with
  | nil => exact ⟨rfl, rfl⟩
  | cons take rest ih =>
    have others : ∀ openers, some openers ∈ rest → ∀ opener ∈ openers, H.sha256 opener ∈ g.seen :=
      fun openers among => known openers (List.mem_cons_of_mem _ among)
    cases take with
    | none => exact ih others
    | some openers =>
      obtain ⟨same, kept⟩ : (answerOpeners H respond secret payload g openers).1.seen = g.seen
          ∧ (answerOpeners H respond secret payload g openers).2 = false :=
        answerOpeners_known (known openers (List.mem_cons_self ..))
      unfold answerRelays
      simp only [kept, Bool.false_eq_true, if_false]
      rw [← same] at others ⊢
      exact ih others

/-- At a full count, an opener that was not counted is turned away and retires the invite. -/
theorem answerOpeners_full {secret payload : String} {g : Guessing} {openers : List Bytes}
    (full : MAX_OPENERS_PER_INVITE ≤ g.seen.length) (answered : g.answered ⊆ g.seen)
    (other : ∃ opener ∈ openers, H.sha256 opener ∉ g.seen) :
    (answerOpeners H respond secret payload g openers).2 = true := by
  induction openers generalizing g with
  | nil =>
    obtain ⟨_, among, _⟩ := other
    cases among
  | cons opener rest ih =>
    unfold answerOpeners
    simp only []
    by_cases seen : H.sha256 opener ∈ g.seen
    · -- This one was counted: the other comes later, and the count is as full as before.
      have later : ∃ opener ∈ rest, H.sha256 opener ∉ g.seen := by
        obtain ⟨o, among, unseen⟩ := other
        rcases List.mem_cons.mp among with rfl | among
        · exact absurd seen unseen
        · exact ⟨o, among, unseen⟩
      split
      · exact ih full answered later
      · rw [if_neg (fun h => h.1 seen)]
        refine ih (g := { g with
          answered := g.answered ++ [H.sha256 opener]
          responses := if (respond secret payload opener).isSome then g.responses ++ [opener]
            else g.responses }) full ?_ later
        intro digest among
        rcases List.mem_append.mp among with earlier | this
        · exact answered earlier
        · rw [List.mem_singleton.mp this]
          exact seen
    · rw [if_neg (fun h => seen (answered h)), if_pos ⟨seen, full⟩]

/-- At a full count, an opener not counted before retires the invite, whichever relay had it. -/
theorem answerRelays_full {before : List Bytes} {secret payload : String} {g : Guessing}
    {takes : List (Option (List Bytes))} (counted : g.Counted H before)
    (full : MAX_OPENERS_PER_INVITE ≤ g.seen.length)
    (other : ∃ openers, some openers ∈ takes ∧ ∃ opener ∈ openers, H.sha256 opener ∉ g.seen) :
    (answerRelays H respond secret payload g takes).2 = true := by
  induction takes generalizing g with
  | nil =>
    obtain ⟨_, among, _⟩ := other
    cases among
  | cons take rest ih =>
    obtain ⟨openers, among, unseen⟩ := other
    cases take with
    | none =>
      refine ih counted full ⟨openers, ?_, unseen⟩
      rcases List.mem_cons.mp among with absurd | among
      · cases absurd
      · exact among
    | some taken =>
      unfold answerRelays
      simp only []
      by_cases known : ∀ opener ∈ taken, H.sha256 opener ∈ g.seen
      · obtain ⟨same, kept⟩ : (answerOpeners H respond secret payload g taken).1.seen = g.seen
            ∧ (answerOpeners H respond secret payload g taken).2 = false :=
          answerOpeners_known known
        rw [kept, if_neg Bool.false_ne_true]
        refine ih (counted.openers taken) (by rw [same]; exact full) ⟨openers, ?_, ?_⟩
        · rcases List.mem_cons.mp among with this | among
          · obtain ⟨opener, here, unseen⟩ := unseen
            rw [Option.some.injEq] at this
            exact absurd (known opener (this ▸ here)) unseen
          · exact among
        · rw [same]
          exact unseen
      · -- This relay had it, and nothing past it is looked at.
        push Not at known
        rw [answerOpeners_full full counted.answered known, if_pos rfl]

/-- At a full count nothing more is counted. -/
theorem answerOpeners_full_seen {secret payload : String} {g : Guessing}
    (full : MAX_OPENERS_PER_INVITE ≤ g.seen.length) (openers : List Bytes) :
    (answerOpeners H respond secret payload g openers).1.seen = g.seen := by
  induction openers generalizing g with
  | nil => rfl
  | cons opener rest ih =>
    unfold answerOpeners
    simp only []
    split
    · exact ih full
    · split
      · rfl
      · rename_i room
        have seen : H.sha256 opener ∈ g.seen := by
          by_contra unseen
          exact room ⟨unseen, full⟩
        simp only [seen, if_true]
        exact ih (g := { g with
          answered := g.answered ++ [H.sha256 opener]
          responses := if (respond secret payload opener).isSome then g.responses ++ [opener]
            else g.responses }) full

theorem answerRelays_full_seen {secret payload : String} {g : Guessing}
    (full : MAX_OPENERS_PER_INVITE ≤ g.seen.length) (takes : List (Option (List Bytes))) :
    (answerRelays H respond secret payload g takes).1.seen = g.seen := by
  induction takes generalizing g with
  | nil => rfl
  | cons take rest ih =>
    cases take with
    | none => exact ih full
    | some openers =>
      have same : (answerOpeners H respond secret payload g openers).1.seen = g.seen :=
        answerOpeners_full_seen full openers
      unfold answerRelays
      simp only []
      split
      · exact same
      · rw [ih (by rw [same]; exact full), same]

/-- A new count goes to the invite of its slot, and only to it. -/
theorem mem_setOpeners {slot : String} {seen : List Bytes} {invites : List PendingInvite}
    (slots : (invites.map (·.slot)).Nodup) {p : PendingInvite}
    (among : p ∈ setOpeners slot seen invites) :
    ∃ q ∈ invites, p.slot = q.slot ∧ p.staging = q.staging
      ∧ (q.slot = slot ∧ p.openers = seen ∨ q.slot ≠ slot ∧ p.openers = q.openers) := by
  induction invites with
  | nil => cases among
  | cons first rest ih =>
    rw [List.map_cons, List.nodup_cons] at slots
    unfold setOpeners at among
    split at among
    · rename_i here
      rcases List.mem_cons.mp among with rfl | later
      · exact ⟨first, List.mem_cons_self .., rfl, rfl, Or.inl ⟨here, rfl⟩⟩
      · -- No other invite has the slot.
        refine ⟨p, List.mem_cons_of_mem _ later, rfl, rfl, Or.inr ⟨?_, rfl⟩⟩
        intro same
        exact slots.1 (here ▸ same ▸ List.mem_map_of_mem later)
    · rename_i elsewhere
      rcases List.mem_cons.mp among with rfl | later
      · exact ⟨p, List.mem_cons_self .., rfl, rfl, Or.inr ⟨elsewhere, rfl⟩⟩
      · obtain ⟨q, held, rest⟩ := ih slots.2 later
        exact ⟨q, List.mem_cons_of_mem _ held, rest⟩

theorem map_setOpeners {β : Type} (f : PendingInvite → β)
    (blind : ∀ p seen, f { p with openers := seen } = f p) (slot : String) (seen : List Bytes)
    (invites : List PendingInvite) : (setOpeners slot seen invites).map f = invites.map f := by
  induction invites with
  | nil => rfl
  | cons first rest ih =>
    unfold setOpeners
    split
    · rw [List.map_cons, List.map_cons, blind]
    · rw [List.map_cons, List.map_cons, ih]

theorem map_foldl_setOpeners {β : Type} (f : PendingInvite → β)
    (blind : ∀ p seen, f { p with openers := seen } = f p) (counts : List (String × List Bytes))
    (invites : List PendingInvite) :
    (counts.foldl (fun invites seen => setOpeners seen.1 seen.2 invites) invites).map f
      = invites.map f := by
  induction counts generalizing invites with
  | nil => rfl
  | cons count rest ih => rw [List.foldl_cons, ih, map_setOpeners f blind]

/-- After all the counts, an invite has that of its slot, or its own if none was for its slot. -/
theorem mem_foldl_setOpeners {counts : List (String × List Bytes)} {invites : List PendingInvite}
    (slots : (invites.map (·.slot)).Nodup) (apart : (counts.map (·.1)).Nodup) {p : PendingInvite}
    (among : p ∈ counts.foldl (fun invites seen => setOpeners seen.1 seen.2 invites) invites) :
    ∃ q ∈ invites, p.slot = q.slot ∧ p.staging = q.staging
      ∧ ((q.slot, p.openers) ∈ counts ∨ q.slot ∉ counts.map (·.1) ∧ p.openers = q.openers) := by
  induction counts generalizing invites with
  | nil => exact ⟨p, among, rfl, rfl, Or.inr ⟨List.not_mem_nil, rfl⟩⟩
  | cons count rest ih =>
    rw [List.map_cons, List.nodup_cons] at apart
    have same := map_setOpeners (·.slot) (fun _ _ => rfl) count.1 count.2 invites
    obtain ⟨m, held, slot, staging, later⟩ := ih (same ▸ slots) apart.2 among
    obtain ⟨q, before, slot', staging', now⟩ := mem_setOpeners slots held
    refine ⟨q, before, slot.trans slot', staging.trans staging', ?_⟩
    rcases later with later | ⟨outside, kept⟩
    · exact Or.inl (List.mem_cons_of_mem _ (slot' ▸ later))
    · rcases now with ⟨here, counted⟩ | ⟨elsewhere, unchanged⟩
      · -- The first count is for this slot, and no later one is.
        left
        rw [kept, counted, here]
        exact List.mem_cons_self ..
      · right
        refine ⟨?_, kept.trans unchanged⟩
        rw [List.map_cons, List.mem_cons, not_or]
        exact ⟨elsewhere, slot' ▸ outside⟩

/-- The invites that are left after a round are those of the slots that were not retired. -/
theorem mem_applyInviteService {outcome : InviteServiceOutcome} {invites : List PendingInvite}
    {p : PendingInvite} (among : p ∈ applyInviteService invites outcome) :
    p.slot ∉ outcome.retired := by
  have kept := (List.mem_filter.mp among).2
  exact of_decide_eq_true kept

/-- Whom a round answered for a staging. -/
theorem mem_serviceInvites {plan : List PendingInvite} {takes : String → List (Option (List Bytes))}
    {staging : Nat} {opener : Bytes} :
    (staging, opener) ∈ (serviceInvites H respond plan takes).2 ↔
      ∃ p ∈ plan, p.staging = staging
        ∧ opener ∈ (serveInvite H respond p (takes p.slot)).1.responses := by
  simp only [serviceInvites, List.mem_flatMap, List.mem_map, Prod.mk.injEq]
  constructor
  · rintro ⟨s, ⟨p, planned, rfl⟩, o, answered, rfl, rfl⟩
    exact ⟨p, planned, rfl, answered⟩
  · rintro ⟨p, planned, rfl, answered⟩
    exact ⟨_, ⟨p, planned, rfl⟩, opener, answered, rfl, rfl⟩

/-- What a round counted for a slot. -/
theorem mem_serviceInvites_openers {plan : List PendingInvite}
    {takes : String → List (Option (List Bytes))} {slot : String} {seen : List Bytes} :
    (slot, seen) ∈ (serviceInvites H respond plan takes).1.openers ↔
      ∃ p ∈ plan, p.slot = slot ∧ (serveInvite H respond p (takes p.slot)).1.seen = seen := by
  simp only [serviceInvites, List.mem_map, List.map_map, Function.comp, Prod.mk.injEq]

/-- Which slots a round retires. -/
theorem mem_serviceInvites_retired {plan : List PendingInvite}
    {takes : String → List (Option (List Bytes))} {p : PendingInvite} (planned : p ∈ plan)
    (retire : (serveInvite H respond p (takes p.slot)).2 = true) :
    p.slot ∈ (serviceInvites H respond plan takes).1.retired :=
  List.mem_map.mpr
    ⟨_, List.mem_filter.mpr ⟨List.mem_map.mpr ⟨p, planned, rfl⟩, retire⟩, rfl⟩

theorem serviceInvites_slots (plan : List PendingInvite)
    (takes : String → List (Option (List Bytes))) :
    ((serviceInvites H respond plan takes).1.openers).map (·.1) = plan.map (·.slot) := by
  simp only [serviceInvites, List.map_map]
  rfl

/-- What a restart keeps of an invite. -/
def PendingInvite.identity (p : PendingInvite) : String × Nat × List Bytes :=
  (p.slot, p.staging, p.openers)

/-- A restart hosts some of the invites that were exported, in their order. -/
theorem importPendingInvites_sublist (invites : List PendingInvite)
    (now nowUnix began unix : Nat) :
    ((importPendingInvites (exportPendingInvites invites now nowUnix) began unix).map
      PendingInvite.identity).Sublist (invites.map PendingInvite.identity) := by
  unfold exportPendingInvites importPendingInvites
  rw [List.filterMap_map]
  induction invites with
  | nil => exact List.Sublist.refl _
  | cons p rest ih =>
    rw [List.filter_cons]
    split
    · rw [List.filterMap_cons]
      simp only [Function.comp_apply]
      split
      · exact ih.cons _
      · rename_i hosted
        -- What is hosted again has the identity of what was exported.
        split at hosted
        · cases hosted
        · rw [Option.some.injEq] at hosted
          subst hosted
          exact ih.cons_cons _
    · exact ih.cons _

/-- Invites that may be hosted together: of other slots and stagings, and none above the count. -/
structure Hosted (staged : Nat) (invites : List PendingInvite) : Prop where
  slots : (invites.map (·.slot)).Nodup
  stagings : (invites.map (·.staging)).Nodup
  past : ∀ p ∈ invites, p.staging < staged
  bound : ∀ p ∈ invites, p.openers.length ≤ MAX_OPENERS_PER_INVITE

/-- No invites at all may be hosted. -/
theorem Hosted.nil (staged : Nat) : Hosted staged [] where
  slots := List.nodup_nil
  stagings := List.nodup_nil
  past := fun _ among => absurd among List.not_mem_nil
  bound := fun _ among => absurd among List.not_mem_nil

/-- An invite among some that keep their identities is one of the others. -/
theorem exists_of_sublist {fewer invites : List PendingInvite}
    (some : (fewer.map PendingInvite.identity).Sublist (invites.map PendingInvite.identity))
    {p : PendingInvite} (among : p ∈ fewer) :
    ∃ q ∈ invites, p.slot = q.slot ∧ p.staging = q.staging ∧ p.openers = q.openers := by
  obtain ⟨q, held, same⟩ := List.mem_map.mp (some.subset (List.mem_map_of_mem among))
  simp only [PendingInvite.identity, Prod.mk.injEq] at same
  exact ⟨q, held, same.1.symm, same.2.1.symm, same.2.2.symm⟩

theorem Hosted.sublist {staged : Nat} {fewer invites : List PendingInvite}
    (hosted : Hosted staged invites)
    (some : (fewer.map PendingInvite.identity).Sublist (invites.map PendingInvite.identity)) :
    Hosted staged fewer where
  slots := by
    have slots := (some.map (·.1)).nodup (by rw [List.map_map]; exact hosted.slots)
    rw [List.map_map] at slots
    exact slots
  stagings := by
    have stagings := (some.map (·.2.1)).nodup (by rw [List.map_map]; exact hosted.stagings)
    rw [List.map_map] at stagings
    exact stagings
  past := by
    intro p among
    obtain ⟨q, held, _, staging, _⟩ := exists_of_sublist some among
    rw [staging]
    exact hosted.past q held
  bound := by
    intro p among
    obtain ⟨q, held, _, _, openers⟩ := exists_of_sublist some among
    rw [openers]
    exact hosted.bound q held

theorem Hosted.filter {staged : Nat} {invites : List PendingInvite} (hosted : Hosted staged invites)
    (keep : PendingInvite → Bool) : Hosted staged (invites.filter keep) :=
  hosted.sublist (List.filter_sublist.map _)

theorem Hosted.mono {staged : Nat} {invites : List PendingInvite} (hosted : Hosted staged invites) :
    Hosted (staged + 1) invites :=
  { hosted with past := fun p among => Nat.lt_succ_of_lt (hosted.past p among) }

/-- A staged invite joins those of other slots. -/
theorem Hosted.stage {staged : Nat} {invites : List PendingInvite} (hosted : Hosted staged invites)
    {p : PendingInvite} (staging : p.staging = staged) (openers : p.openers = []) :
    Hosted (staged + 1) (invites.filter (fun q => q.slot ≠ p.slot) ++ [p]) where
  slots := by
    rw [List.map_append, List.nodup_append]
    refine ⟨(hosted.filter _).slots, List.nodup_singleton _, ?_⟩
    intro slot among slot' last same
    obtain ⟨q, held, rfl⟩ := List.mem_map.mp among
    rw [List.map_singleton, List.mem_singleton] at last
    have other := of_decide_eq_true (List.mem_filter.mp held).2
    exact other (same.trans last)
  stagings := by
    rw [List.map_append, List.nodup_append]
    refine ⟨(hosted.filter _).stagings, List.nodup_singleton _, ?_⟩
    intro id among id' last same
    obtain ⟨q, held, rfl⟩ := List.mem_map.mp among
    rw [List.map_singleton, List.mem_singleton, staging] at last
    have past := (hosted.filter _).past q held
    omega
  past := by
    intro q among
    rcases List.mem_append.mp among with held | last
    · exact Nat.lt_succ_of_lt ((hosted.filter _).past q held)
    · rw [List.mem_singleton.mp last, staging]
      exact Nat.lt_succ_self _
  bound := by
    intro q among
    rcases List.mem_append.mp among with held | last
    · exact (hosted.filter _).bound q held
    · rw [List.mem_singleton.mp last, openers]
      exact Nat.zero_le _

/-- The answers given for a staging are all counted in a list of digests. -/
def Covered (H : Hashes) (responses : List (Nat × Bytes)) (staging : Nat) (known : List Bytes) :
    Prop :=
  ∀ opener, (staging, opener) ∈ responses → H.sha256 opener ∈ known

namespace Hosting

/-- The round on the way, if there is one, knows of every answer to what it counts for. -/
inductive OnTheWay (H : Hashes) (w : Hosting) : List InviteRound → Prop where
  | none (folded : w.folded = w.responses.length) : OnTheWay H w []
  | planned (invites : List PendingInvite) (folded : w.folded = w.responses.length)
      (hosted : Hosted w.staged invites)
      (covered : ∀ p ∈ invites, Covered H w.responses p.staging p.openers)
      (fresh : ∀ p ∈ w.invites, p ∈ invites
        ∨ p.staging ∉ invites.map (·.staging) ∧ ∀ opener, (p.staging, opener) ∉ w.responses) :
      OnTheWay H w [.planned invites]
  | served (outcome : InviteServiceOutcome) (apart : (outcome.openers.map (·.1)).Nodup)
      (bound : ∀ count ∈ outcome.openers, count.2.length ≤ MAX_OPENERS_PER_INVITE)
      (covered : ∀ p ∈ w.invites, (∀ opener, (p.staging, opener) ∉ w.responses)
        ∨ ∃ seen, (p.slot, seen) ∈ outcome.openers ∧ Covered H w.responses p.staging seen) :
      OnTheWay H w [.served outcome]

/-- What holds in every run that overlaps no rounds and restores no forgotten answer. -/
structure Sound (H : Hashes) (w : Hosting) : Prop where
  hosted : Hosted w.staged w.invites
  bounded : ∀ staging, ∃ known, known.length ≤ MAX_OPENERS_PER_INVITE
    ∧ Covered H w.responses staging known
  past : ∀ response ∈ w.responses, response.1 < w.staged
  order : w.written ≤ w.folded ∧ w.folded ≤ w.responses.length
  settled : w.folded = w.responses.length →
    ∀ p ∈ w.invites, Covered H w.responses p.staging p.openers
  saved : ∃ invites now nowUnix, w.saved = exportPendingInvites invites now nowUnix
    ∧ Hosted w.staged invites
    ∧ (w.written = w.responses.length → ∀ p ∈ invites, Covered H w.responses p.staging p.openers)
  round : OnTheWay H w w.rounds

/--
An event that forgets no guess: a round is planned when no other is on the way, and what is restored
was exported after the last answer was folded back in.
-/
def Settled (w : Hosting) : HostEvent → Prop
  | .plan _ => w.rounds = []
  | .restart _ _ => w.written = w.responses.length
  | _ => True

instance (w : Hosting) : (event : HostEvent) → Decidable (w.Settled event)
  | .plan _ => inferInstanceAs (Decidable (w.rounds = []))
  | .restart _ _ => inferInstanceAs (Decidable (w.written = w.responses.length))
  | .stage .. | .serve .. | .apply _ | .save _ | .wait _ => isTrue trivial

theorem Sound.start (H : Hashes) : Sound H {} where
  hosted := Hosted.nil 0
  bounded := fun _ => ⟨[], Nat.zero_le _, fun _ among => absurd among List.not_mem_nil⟩
  past := fun _ among => absurd among List.not_mem_nil
  order := ⟨Nat.le_refl _, Nat.le_refl _⟩
  settled := fun _ _ among => absurd among List.not_mem_nil
  saved := ⟨[], 0, 0, rfl, Hosted.nil 0, fun _ _ among => absurd among List.not_mem_nil⟩
  round := .none rfl

/-- No answer was given to what is about to be staged. -/
theorem Sound.unanswered {w : Hosting} (sound : w.Sound H) (opener : Bytes) :
    (w.staged, opener) ∉ w.responses :=
  fun answered => Nat.lt_irrefl _ (sound.past _ answered)

/-- Staging an invite spends no guess of another. -/
theorem Sound.stage {w : Hosting} (sound : w.Sound H) (slot secret payload : String) (ttl : Nat) :
    (w.stageShortCodeInvite slot secret payload ttl).Sound H where
  hosted := sound.hosted.stage (p := { slot, secret, payload, ttl, expiry := _, staging := _ }) rfl rfl
  bounded := sound.bounded
  past := fun response among => Nat.lt_succ_of_lt (sound.past response among)
  order := sound.order
  settled := by
    intro folded p among
    rcases List.mem_append.mp among with held | last
    · exact sound.settled folded p (List.mem_filter.mp held).1
    · rw [List.mem_singleton.mp last]
      intro opener answered
      exact absurd answered (sound.unanswered opener)
  saved := by
    obtain ⟨invites, now, nowUnix, same, hosted, covered⟩ := sound.saved
    exact ⟨invites, now, nowUnix, same, hosted.mono, covered⟩
  round := by
    show OnTheWay H (w.stageShortCodeInvite slot secret payload ttl) w.rounds
    have way := sound.round
    generalize w.rounds = rounds at way ⊢
    cases way with
    | none folded => exact .none folded
    | planned invites folded hosted covered fresh =>
      refine .planned invites folded hosted.mono covered ?_
      intro p among
      rcases List.mem_append.mp among with held | last
      · exact fresh p (List.mem_filter.mp held).1
      · -- The plan is of earlier stagings.
        right
        rw [List.mem_singleton.mp last]
        refine ⟨fun planned => ?_, sound.unanswered⟩
        obtain ⟨q, held, same⟩ := List.mem_map.mp planned
        exact Nat.ne_of_lt (hosted.past q held) same
    | served outcome apart bound covered =>
      refine .served outcome apart bound ?_
      intro p among
      rcases List.mem_append.mp among with held | last
      · exact covered p (List.mem_filter.mp held).1
      · left
        rw [List.mem_singleton.mp last]
        exact sound.unanswered

/-- A round is planned over what is hosted then. -/
theorem Sound.plan {w : Hosting} (sound : w.Sound H) (alone : w.rounds = []) (relays : Bool) :
    (w.inviteServicePlan relays).Sound H := by
  have folded : w.folded = w.responses.length := by
    have way := sound.round
    rw [alone] at way
    cases way with
    | none folded => exact folded
  have hosted := sound.hosted.filter (fun p => decide (w.now < p.expiry))
  have settled : ∀ p ∈ w.invites.filter (fun p => decide (w.now < p.expiry)),
      Covered H w.responses p.staging p.openers :=
    fun p among => sound.settled folded p (List.mem_filter.mp among).1
  unfold inviteServicePlan
  simp only []
  split
  · exact { sound with
      hosted := hosted
      settled := fun _ => settled
      round := by
        show OnTheWay H _ w.rounds
        rw [alone]
        exact .none folded }
  · exact { sound with
      hosted := hosted
      settled := fun _ => settled
      round := by
        show OnTheWay H _ (w.rounds ++ _)
        rw [alone]
        exact .planned _ folded hosted settled (fun p among => Or.inl among) }

/-- A round that meets the relays answers within the count of each invite of its plan. -/
theorem Sound.serve {w : Hosting} (sound : w.Sound H) {invites : List PendingInvite}
    (planned : w.rounds = [.planned invites]) (takes : String → List (Option (List Bytes))) :
    ({ w with
        rounds := [.served (serviceInvites H respond invites takes).1]
        responses := w.responses ++ (serviceInvites H respond invites takes).2 } :
      Hosting).Sound H := by
  have way := sound.round
  rw [planned] at way
  cases way with
  | planned invites folded hosted covered fresh =>
  -- What the round counts for an invite covers every answer to it, old and new.
  have counted : ∀ p ∈ invites, Covered H
      (w.responses ++ (serviceInvites H respond invites takes).2) p.staging
      (serveInvite H respond p (takes p.slot)).1.seen := by
    intro p among opener answered
    have kept : (serveInvite H respond p (takes p.slot)).1.Counted H p.openers :=
      serveInvite_counted (hosted.bound p among) (takes p.slot)
    rcases List.mem_append.mp answered with before | now
    · exact kept.keeps (covered p among opener before)
    · obtain ⟨q, held, same, response⟩ := mem_serviceInvites.mp now
      rw [List.inj_on_of_nodup_map hosted.stagings held among same] at response
      exact kept.responses opener response
  -- A staging outside the plan is not answered.
  have outside : ∀ staging, staging ∉ invites.map (·.staging) → ∀ opener,
      (staging, opener) ∈ w.responses ++ (serviceInvites H respond invites takes).2 →
      (staging, opener) ∈ w.responses := by
    intro staging unplanned opener answered
    rcases List.mem_append.mp answered with before | now
    · exact before
    · obtain ⟨q, held, same, _⟩ := mem_serviceInvites.mp now
      exact absurd (List.mem_map.mpr ⟨q, held, same⟩) unplanned
  have silent : w.responses.length
        = (w.responses ++ (serviceInvites H respond invites takes).2).length →
      w.responses ++ (serviceInvites H respond invites takes).2 = w.responses := by
    intro same
    rw [List.length_append] at same
    have nothing : (serviceInvites H respond invites takes).2 = [] :=
      List.length_eq_zero_iff.mp (by omega)
    rw [nothing, List.append_nil]
  constructor
  · exact sound.hosted
  · intro staging
    by_cases within : staging ∈ invites.map (·.staging)
    · obtain ⟨p, among, rfl⟩ := List.mem_map.mp within
      exact ⟨_, (serveInvite_counted (hosted.bound p among) _).bound, counted p among⟩
    · obtain ⟨known, bound, covers⟩ := sound.bounded staging
      exact ⟨known, bound, fun opener answered => covers opener (outside _ within opener answered)⟩
  · intro response among
    rcases List.mem_append.mp among with before | now
    · exact sound.past response before
    · obtain ⟨q, held, same, _⟩ := mem_serviceInvites.mp now
      exact same ▸ hosted.past q held
  · refine ⟨sound.order.1, ?_⟩
    show w.folded ≤ (w.responses ++ _).length
    rw [List.length_append]
    exact Nat.le_add_right_of_le sound.order.2
  · intro all p among
    have same := silent (folded ▸ all)
    show Covered H (w.responses ++ _) _ _
    rw [same]
    exact sound.settled folded p among
  · obtain ⟨exported, now, nowUnix, file, kept, covers⟩ := sound.saved
    refine ⟨exported, now, nowUnix, file, kept, ?_⟩
    intro all
    have all : w.written = (w.responses ++ (serviceInvites H respond invites takes).2).length := all
    have order := sound.order
    have same := silent (by
      rw [List.length_append] at all ⊢
      omega)
    show ∀ p ∈ exported, Covered H (w.responses ++ _) _ _
    rw [same] at all ⊢
    exact covers all
  · refine .served _ ?_ ?_ ?_
    · rw [serviceInvites_slots]
      exact hosted.slots
    · rintro ⟨slot, seen⟩ among
      obtain ⟨p, held, _, rfl⟩ := mem_serviceInvites_openers.mp among
      exact (serveInvite_counted (hosted.bound p held) _).bound
    · intro p among
      rcases fresh p among with held | ⟨unplanned, unanswered⟩
      · exact Or.inr ⟨_, mem_serviceInvites_openers.mpr ⟨p, held, rfl, rfl⟩, counted p held⟩
      · exact Or.inl fun opener answered => unanswered opener (outside _ unplanned opener answered)

/-- Folding a round back in tells each invite of the answers to it. -/
theorem Sound.apply {w : Hosting} (sound : w.Sound H) {outcome : InviteServiceOutcome}
    (served : w.rounds = [.served outcome]) :
    ({ w with
        invites := applyInviteService w.invites outcome
        rounds := []
        folded := w.responses.length } : Hosting).Sound H := by
  have way := sound.round
  rw [served] at way
  cases way with
  | served outcome apart bound covered =>
  have origin : ∀ p ∈ outcome.openers.foldl
      (fun invites seen => setOpeners seen.1 seen.2 invites) w.invites,
      p.staging < w.staged ∧ p.openers.length ≤ MAX_OPENERS_PER_INVITE
        ∧ Covered H w.responses p.staging p.openers := by
    intro p among
    obtain ⟨q, held, slot, staging, count⟩ := mem_foldl_setOpeners sound.hosted.slots apart among
    refine ⟨staging ▸ sound.hosted.past q held, ?_, ?_⟩
    · rcases count with counted | ⟨_, same⟩
      · exact bound _ counted
      · exact same ▸ sound.hosted.bound q held
    · rw [staging]
      rcases covered q held with unanswered | ⟨seen, counts, covers⟩
      · exact fun opener answered => absurd answered (unanswered opener)
      · rcases count with counted | ⟨outside, _⟩
        · -- Only one count is for the slot.
          have same := List.inj_on_of_nodup_map apart counts counted rfl
          rw [Prod.mk.injEq] at same
          exact same.2 ▸ covers
        · exact absurd (List.mem_map.mpr ⟨_, counts, rfl⟩) outside
  have hosted : Hosted w.staged (outcome.openers.foldl
      (fun invites seen => setOpeners seen.1 seen.2 invites) w.invites) := by
    constructor
    · rw [map_foldl_setOpeners (·.slot) (fun _ _ => rfl)]
      exact sound.hosted.slots
    · rw [map_foldl_setOpeners (·.staging) (fun _ _ => rfl)]
      exact sound.hosted.stagings
    · exact fun p among => (origin p among).1
    · exact fun p among => (origin p among).2.1
  exact { sound with
    hosted := hosted.filter _
    order := ⟨Nat.le_trans sound.order.1 sound.order.2, Nat.le_refl _⟩
    settled := fun _ p among => (origin p (List.mem_filter.mp among).1).2.2
    round := .none rfl }

/-- An export holds what is hosted, and knows of the answers that were folded back in. -/
theorem Sound.save {w : Hosting} (sound : w.Sound H) (nowUnix : Nat) :
    ({ w with
        saved := exportPendingInvites w.invites w.now nowUnix
        written := w.folded } : Hosting).Sound H :=
  { sound with
    order := ⟨Nat.le_refl _, sound.order.2⟩
    saved := ⟨w.invites, w.now, nowUnix, rfl, sound.hosted, sound.settled⟩
    round := by
      show OnTheWay H _ w.rounds
      have way := sound.round
      generalize w.rounds = rounds at way ⊢
      cases way with
      | none folded => exact .none folded
      | planned invites folded hosted covered fresh =>
        exact .planned invites folded hosted covered fresh
      | served outcome apart bound covered => exact .served outcome apart bound covered }

/-- A restart from a file that knows of every answer forgets none. -/
theorem Sound.restart {w : Hosting} (sound : w.Sound H) (known : w.written = w.responses.length)
    (nowUnix began : Nat) :
    ({ w with
        now := began
        invites := importPendingInvites w.saved began nowUnix
        rounds := [] } : Hosting).Sound H := by
  have folded : w.folded = w.responses.length :=
    Nat.le_antisymm sound.order.2 (known ▸ sound.order.1)
  obtain ⟨invites, now, unix, file, hosted, covered⟩ := sound.saved
  have some := importPendingInvites_sublist invites now unix began nowUnix
  rw [← file] at some
  exact { sound with
    hosted := hosted.sublist some
    settled := by
      intro _ p among
      obtain ⟨q, held, _, staging, openers⟩ := exists_of_sublist some among
      rw [staging, openers]
      exact covered known q held
    round := .none folded }

/-- An event that forgets no guess leaves every answer counted. -/
theorem Sound.step {w : Hosting} (sound : w.Sound H) {event : HostEvent}
    (settled : w.Settled event) : (w.step H respond event).Sound H := by
  cases event with
  | stage relays slot secret payload ttl =>
    simp only [Hosting.step]
    split
    · exact sound.stage slot secret payload ttl
    · exact sound
  | plan relays => exact sound.plan settled relays
  | serve round takes =>
    simp only [Hosting.step]
    split
    · rename_i invites here
      -- The round that is served is the only one.
      have alone : w.rounds = [.planned invites] ∧ round = 0 := by
        have way := sound.round
        generalize w.rounds = rounds at way here
        cases way <;> cases round <;> simp_all
      obtain ⟨planned, rfl⟩ := alone
      rw [planned]
      exact sound.serve planned takes
    · exact sound
  | apply round =>
    simp only [Hosting.step]
    split
    · rename_i outcome here
      have alone : w.rounds = [.served outcome] ∧ round = 0 := by
        have way := sound.round
        generalize w.rounds = rounds at way here
        cases way <;> cases round <;> simp_all
      obtain ⟨served, rfl⟩ := alone
      have applied := sound.apply served
      rw [served]
      exact applied
    · exact sound
  | save nowUnix => exact sound.save nowUnix
  | restart nowUnix began => exact sound.restart settled nowUnix began
  | wait millis =>
    exact { sound with
      round := by
        show OnTheWay H _ w.rounds
        have way := sound.round
        generalize w.rounds = rounds at way ⊢
        cases way with
        | none folded => exact .none folded
        | planned invites folded hosted covered fresh =>
          exact .planned invites folded hosted covered fresh
        | served outcome apart bound covered => exact .served outcome apart bound covered }

/-- A run of events. -/
def run (H : Hashes) (respond : String → String → Bytes → Option Bytes) (w : Hosting)
    (events : List HostEvent) : Hosting :=
  events.foldl (Hosting.step H respond) w

/-- A run whose events forget no guess. -/
def RunSettled (H : Hashes) (respond : String → String → Bytes → Option Bytes) :
    Hosting → List HostEvent → Prop
  | _, [] => True
  | w, event :: rest => w.Settled event ∧ RunSettled H respond (w.step H respond event) rest

theorem Sound.run {w : Hosting} (sound : w.Sound H) {events : List HostEvent}
    (settled : RunSettled H respond w events) : (w.run H respond events).Sound H := by
  induction events generalizing w with
  | nil => exact sound
  | cons event rest ih => exact ih (sound.step settled.1) settled.2

/--
However a run goes that overlaps no rounds and restores no forgotten answer, the openers answered
with one staged secret are at most the count. A round on the way counts no opener answered before,
and at a full count it answers no other opener and withdraws the secret.
-/
theorem guesses_bounded (H : Hashes) (respond : String → String → Bytes → Option Bytes)
    (events : List HostEvent) (settled : RunSettled H respond {} events) :
    let w := run H respond {} events
    (∀ staging (openers : List Bytes), openers.Nodup →
        (∀ a ∈ openers, ∀ b ∈ openers, H.sha256 a = H.sha256 b → a = b) →
        (∀ opener ∈ openers, (staging, opener) ∈ w.responses) →
        openers.length ≤ MAX_OPENERS_PER_INVITE)
    ∧ ∀ plan, w.rounds = [.planned plan] → ∀ p ∈ plan, ∀ takes,
        ((∀ openers, some openers ∈ takes p.slot → ∀ opener ∈ openers,
            (p.staging, opener) ∈ w.responses) →
          (serveInvite H respond p (takes p.slot)).1.seen = p.openers
            ∧ (serveInvite H respond p (takes p.slot)).2 = false)
        ∧ (MAX_OPENERS_PER_INVITE ≤ p.openers.length →
          (∀ opener ∈ (serveInvite H respond p (takes p.slot)).1.responses,
            H.sha256 opener ∈ p.openers)
          ∧ ((∃ openers, some openers ∈ takes p.slot
              ∧ ∃ opener ∈ openers, H.sha256 opener ∉ p.openers) →
            ∀ invites, ∀ q ∈ applyInviteService invites (serviceInvites H respond plan takes).1,
              q.slot ≠ p.slot)) := by
  intro w
  have sound : w.Sound H := (Sound.start H).run settled
  constructor
  · intro staging openers nodup collide answered
    obtain ⟨known, bound, covers⟩ := sound.bounded staging
    have digests : (openers.map H.sha256).Nodup := List.Nodup.map_on collide nodup
    have within : openers.map H.sha256 ⊆ known := by
      intro digest among
      obtain ⟨opener, listed, rfl⟩ := List.mem_map.mp among
      exact covers opener (answered opener listed)
    calc openers.length = (openers.map H.sha256).length := (List.length_map _).symm
      _ ≤ known.length := digests.length_le_of_subset within
      _ ≤ MAX_OPENERS_PER_INVITE := bound
  · intro plan planned p among takes
    have way := sound.round
    rw [planned] at way
    cases way with
    | planned invites folded hosted covered fresh =>
    have counted : (serveInvite H respond p (takes p.slot)).1.Counted H p.openers :=
      serveInvite_counted (hosted.bound p among) (takes p.slot)
    refine ⟨?_, fun full => ⟨?_, ?_⟩⟩
    · intro answered
      exact answerRelays_known (g := { seen := p.openers, answered := [], responses := [] })
        fun openers taken opener here => covered p among opener (answered openers taken opener here)
    · intro opener response
      have seen := counted.responses opener response
      rw [serveInvite, answerRelays_full_seen
        (g := { seen := p.openers, answered := [], responses := [] }) full] at seen
      exact seen
    · intro other hosted' q left same
      have retire : (serveInvite H respond p (takes p.slot)).2 = true :=
        answerRelays_full (g := { seen := p.openers, answered := [], responses := [] })
          (Guessing.Counted.start (hosted.bound p among)) full other
      exact mem_applyInviteService left (same ▸ mem_serviceInvites_retired among retire)

end Hosting

namespace Symbolic

/-- Answers any opener. -/
def answer (_ _ : String) (opener : Bytes) : Option Bytes := some opener

/-- A device that staged one code, after some events. -/
def staged (events : List HostEvent) : Hosting :=
  Hosting.run hashes answer {} (.stage true "slot" "secret" "payload" 600 :: .save 0 :: events)

end Symbolic

/-- Three openers answered before a restart and three others after it, and so with two rounds at
once: six guesses at one secret. -/
theorem guesses_forgotten :
    (Symbolic.staged [.plan true, .serve 0 (fun _ => [some [[1], [2], [3]]]), .restart 0 0,
        .plan true, .serve 0 (fun _ => [some [[4], [5], [6]]])]).responses
      = [(0, [1]), (0, [2]), (0, [3]), (0, [4]), (0, [5]), (0, [6])]
    ∧ (Symbolic.staged [.plan true, .plan true, .serve 0 (fun _ => [some [[1], [2], [3]]]),
        .serve 1 (fun _ => [some [[4], [5], [6]]])]).responses
      = [(0, [1]), (0, [2]), (0, [3]), (0, [4]), (0, [5]), (0, [6])]
    ∧ MAX_OPENERS_PER_INVITE < 6 := by
  refine ⟨?_, ?_, ?_⟩ <;> decide +kernel

/-- A joiner who sends one opener twice spends one guess, also across a restart. -/
theorem guess_spent_once :
    (Symbolic.staged [.plan true, .serve 0 (fun _ => [some [[1], [1]], some [[2]]]), .apply 0,
        .save 0, .restart 0 0, .plan true]).responses = [(0, [1]), (0, [2])]
    ∧ [[1], [2]].length ≤ MAX_OPENERS_PER_INVITE := by
  have responses : (Symbolic.staged [.plan true, .serve 0 (fun _ => [some [[1], [1]], some [[2]]]),
      .apply 0, .save 0, .restart 0 0, .plan true]).responses = [(0, [1]), (0, [2])] := by
    decide +kernel
  have bounded := (Hosting.guesses_bounded Symbolic.hashes Symbolic.answer
    [.stage true "slot" "secret" "payload" 600, .save 0, .plan true,
      .serve 0 (fun _ => [some [[1], [1]], some [[2]]]), .apply 0, .save 0, .restart 0 0,
      .plan true]
    ⟨trivial, trivial, by decide +kernel, trivial, trivial, trivial, by decide +kernel,
      by decide +kernel, trivial⟩).1
  refine ⟨responses, bounded 0 [[1], [2]] (by decide) (fun a _ b _ same => same) ?_⟩
  intro opener among
  have answered : ∀ opener ∈ ([[1], [2]] : List Bytes),
      (0, opener) ∈ [((0 : Nat), ([1] : Bytes)), (0, [2])] := by decide
  exact responses ▸ answered opener among

end Nightdrop
