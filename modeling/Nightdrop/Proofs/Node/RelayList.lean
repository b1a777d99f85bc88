import Nightdrop.Lib.Firsts
import Nightdrop.Proofs.Node.Keyroll

/-! A normalized relay list keeps every relay once, in the order it was first named, and cuts it in one place. -/

namespace Nightdrop

/-- An entry as it is stored: an onion without the blanks around it, and no blank onion. -/
def RelayEntry.stored : RelayEntry → Option RelayEntry
  | .nightDrop => some .nightDrop
  | .onion addr => if trimText addr = "" then none else some (.onion (trimText addr))

/-- The entries of a list as they are stored, each where it was first named. -/
def firstNamed (list : List RelayEntry) : List RelayEntry := (list.filterMap RelayEntry.stored).eraseDups

/-- What is stored is stored again as it is. -/
theorem RelayEntry.stored_stored {entry entry' : RelayEntry} (stored : entry.stored = some entry') :
    entry'.stored = some entry' := by
  cases entry with
  | nightDrop =>
    cases stored
    rfl
  | onion addr =>
    simp only [RelayEntry.stored] at stored
    by_cases blank : trimText addr = ""
    · rw [if_pos blank] at stored
      cases stored
    · rw [if_neg blank] at stored
      obtain rfl := Option.some.inj stored
      simp only [RelayEntry.stored, trimText_trimText, if_neg blank]

namespace Poller

/-- What a list kept and cut so far, of the entries `firsts` named up to there. -/
structure Cut (kept overflow firsts : List RelayEntry) : Prop where
  parts : kept ++ overflow = firsts
  cap : kept.length ≤ MAX_RELAYS
  full : overflow ≠ [] → kept.length = MAX_RELAYS

/-- An entry that is stored is passed over when it was named before, and kept or cut when it was not. -/
theorem normalizeRelays_cons (kept overflow : List RelayEntry) (entry : RelayEntry) (rest : List RelayEntry) :
    normalizeRelays kept overflow (entry :: rest) = (entry.stored).elim (normalizeRelays kept overflow rest) fun e =>
      if e ∈ kept ∨ e ∈ overflow then normalizeRelays kept overflow rest
      else if kept.length < MAX_RELAYS then normalizeRelays (kept ++ [e]) overflow rest
      else normalizeRelays kept (overflow ++ [e]) rest := by
  cases entry with
  | nightDrop => simp [normalizeRelays, RelayEntry.stored]
  | onion addr =>
    by_cases blank : trimText addr = ""
    · simp [normalizeRelays, RelayEntry.stored, blank]
    · simp [normalizeRelays, RelayEntry.stored, blank]

/-- One pass goes on with what was first named up to there. -/
theorem normalizeRelays_from {kept overflow seen : List RelayEntry} (list : List RelayEntry)
    (cut : Cut kept overflow seen.eraseDups) :
    Cut (normalizeRelays kept overflow list).1 (normalizeRelays kept overflow list).2
      (seen ++ list.filterMap RelayEntry.stored).eraseDups := by
  induction list generalizing kept overflow seen with
  | nil => simpa [normalizeRelays] using cut
  | cons entry rest ih =>
    have known : ∀ e, e ∈ seen ↔ e ∈ kept ∨ e ∈ overflow := by
      intro e
      rw [← List.mem_eraseDups, ← cut.parts, List.mem_append]
    rw [normalizeRelays_cons, List.filterMap_cons]
    cases stored : entry.stored with
    | none => exact ih cut
    | some e =>
      simp only [Option.elim_some]
      have split : seen ++ e :: rest.filterMap RelayEntry.stored = (seen ++ [e]) ++ rest.filterMap RelayEntry.stored := by
        simp
      rw [split]
      have further := eraseDups_concat seen e
      by_cases named : e ∈ kept ∨ e ∈ overflow
      · rw [if_pos named]
        rw [if_pos ((known e).mpr named)] at further
        exact ih (further ▸ cut)
      · rw [if_neg named]
        rw [if_neg (fun again => named ((known e).mp again))] at further
        by_cases room : kept.length < MAX_RELAYS
        · -- Nothing was cut while there is room, so the entry is the last one that is kept.
          have uncut : overflow = [] := by
            by_contra some'
            have full := cut.full some'
            omega
          rw [if_pos room]
          refine ih ⟨?_, ?_, fun some' => absurd uncut some'⟩
          · rw [further, ← cut.parts, uncut, List.append_nil, List.append_nil]
          · rw [List.length_append, List.length_singleton]
            omega
        · rw [if_neg room]
          have cap := cut.cap
          refine ih ⟨?_, cap, fun _ => by omega⟩
          rw [further, ← cut.parts, List.append_assoc]

/-- What is kept and what is cut are the entries as first named, cut where the list is full. -/
theorem normalizeRelays_parts (list : List RelayEntry) :
    (normalizeRelays [] [] list).1 ++ (normalizeRelays [] [] list).2 = firstNamed list
      ∧ (normalizeRelays [] [] list).1.length ≤ MAX_RELAYS
      ∧ ((normalizeRelays [] [] list).2 ≠ [] → (normalizeRelays [] [] list).1.length = MAX_RELAYS) := by
  have start : Cut [] [] ([] : List RelayEntry).eraseDups := ⟨rfl, Nat.zero_le _, fun some' => absurd rfl some'⟩
  have cut := normalizeRelays_from list start
  exact ⟨cut.parts, cut.cap, cut.full⟩

/-- A list that is stored already is kept as it is. -/
theorem normalizeRelays_stored {list : List RelayEntry} (stored : ∀ e ∈ list, e.stored = some e) (apart : list.Nodup)
    (cap : list.length ≤ MAX_RELAYS) : normalizeRelays [] [] list = (list, []) := by
  obtain ⟨parts, -, full⟩ := normalizeRelays_parts list
  have same : list.filterMap RelayEntry.stored = list := by
    rw [List.filterMap_congr stored, List.filterMap_some]
  rw [firstNamed, same, eraseDups_of_nodup apart] at parts
  have lengths := congrArg List.length parts
  rw [List.length_append] at lengths
  have uncut : (normalizeRelays [] [] list).2 = [] := by
    by_contra some'
    have reached := full some'
    have cutAway := List.length_pos_of_ne_nil some'
    omega
  rw [uncut, List.append_nil] at parts
  exact Prod.ext parts uncut

/-- What a list is normalized to: each relay once and stored as it is, in the order it was first named, cut where
the list is full, and the same again when it is normalized again. -/
structure Normalized (list kept overflow : List RelayEntry) : Prop where
  apart : kept.Nodup
  stored : ∀ e ∈ kept, e.stored = some e
  cap : kept.length ≤ MAX_RELAYS
  order : kept ++ overflow = firstNamed list
  union : ∀ e, (e ∈ kept ∨ e ∈ overflow) ↔ ∃ named ∈ list, named.stored = some e
  disjoint : kept.Disjoint overflow
  again : normalizeRelays [] [] kept = (kept, [])

/-- A list is normalized as it should be. -/
theorem normalizeRelays_normalized (list : List RelayEntry) :
    Normalized list (normalizeRelays [] [] list).1 (normalizeRelays [] [] list).2 := by
  obtain ⟨parts, cap, -⟩ := normalizeRelays_parts list
  have whole : ((normalizeRelays [] [] list).1 ++ (normalizeRelays [] [] list).2).Nodup := by
    rw [parts]
    exact nodup_eraseDups _
  obtain ⟨apart, -, disjoint⟩ := List.nodup_append'.mp whole
  have union : ∀ e, (e ∈ (normalizeRelays [] [] list).1 ∨ e ∈ (normalizeRelays [] [] list).2)
      ↔ ∃ named ∈ list, named.stored = some e := by
    intro e
    rw [← List.mem_append, parts, firstNamed, List.mem_eraseDups, List.mem_filterMap]
  have stored : ∀ e ∈ (normalizeRelays [] [] list).1, e.stored = some e := by
    intro e among
    obtain ⟨named, -, same⟩ := (union e).mp (.inl among)
    exact RelayEntry.stored_stored same
  exact ⟨apart, stored, cap, parts, union, disjoint, normalizeRelays_stored stored apart cap⟩

end Poller

/-- A relay of a contact's that is posted to. -/
def Plausible (addr : String) : Prop := addr ≠ "" ∧ addr.utf8ByteSize ≤ 128 ∧ trimText addr = addr

/-- What is posted to is credible, named once, and no more than the cap. -/
theorem sanitizeOnions_sane {kept : List String} (list : List String) (credible : ∀ addr ∈ kept, Plausible addr)
    (apart : kept.Nodup) (cap : kept.length ≤ MAX_RELAYS) :
    (∀ addr ∈ sanitizeOnions kept list, Plausible addr) ∧ (sanitizeOnions kept list).Nodup
      ∧ (sanitizeOnions kept list).length ≤ MAX_RELAYS := by
  induction list generalizing kept with
  | nil => exact ⟨credible, apart, cap⟩
  | cons addr rest ih =>
    simp only [sanitizeOnions]
    by_cases passed : trimText addr = "" ∨ 128 < (trimText addr).utf8ByteSize ∨ trimText addr ∈ kept
    · rw [if_pos passed]
      exact ih credible apart cap
    · rw [if_neg passed]
      simp only [not_or] at passed
      obtain ⟨named, short, fresh⟩ := passed
      by_cases full : kept.length = MAX_RELAYS
      · rw [if_pos full]
        exact ⟨credible, apart, cap⟩
      · rw [if_neg full]
        apply ih
        · intro other among
          rcases List.mem_append.mp among with before | last
          · exact credible other before
          · rw [List.mem_singleton.mp last]
            exact ⟨named, by omega, trimText_trimText addr⟩
        · rw [List.nodup_append']
          exact ⟨apart, List.nodup_singleton _, List.disjoint_singleton.mpr fresh⟩
        · rw [List.length_append, List.length_singleton]
          omega

/-- A list that is safe to post to already stays as it is. -/
theorem sanitizeOnions_again {kept list : List String} (credible : ∀ addr ∈ list, Plausible addr)
    (apart : (kept ++ list).Nodup) (cap : (kept ++ list).length ≤ MAX_RELAYS) : sanitizeOnions kept list = kept ++ list := by
  induction list generalizing kept with
  | nil => simp [sanitizeOnions]
  | cons addr rest ih =>
    obtain ⟨named, short, trimmed⟩ := credible addr List.mem_cons_self
    have fresh : addr ∉ kept := by
      intro before
      exact (List.nodup_append'.mp apart).2.2 before List.mem_cons_self
    rw [List.length_append, List.length_cons] at cap
    have parts : kept ++ addr :: rest = (kept ++ [addr]) ++ rest := by simp
    simp only [sanitizeOnions, trimmed]
    rw [if_neg (by simp only [not_or]; exact ⟨named, by omega, fresh⟩), if_neg (by omega), parts]
    apply ih (fun other among => credible other (List.mem_cons_of_mem _ among))
    · rw [← parts]
      exact apart
    · rw [← parts, List.length_append, List.length_cons]
      omega

/-- A set that is safe to post to stays as it is. -/
theorem sanitizePeerSet_again (set : RelaySet) : sanitizePeerSet (sanitizePeerSet set) = sanitizePeerSet set := by
  obtain ⟨credible, apart, cap⟩ := @sanitizeOnions_sane [] set.relays (by simp) List.nodup_nil (Nat.zero_le _)
  have again := @sanitizeOnions_again [] _ credible apart cap
  simp only [sanitizePeerSet]
  rw [again, List.nil_append]

/-- Every relay list is normalized, and every set a contact told us is made safe once for all. -/
theorem relay_lists_normalize :
    (∀ list : List RelayEntry,
      Poller.Normalized list (Poller.normalizeRelays [] [] list).1 (Poller.normalizeRelays [] [] list).2)
    ∧ ∀ set : RelaySet, sanitizePeerSet (sanitizePeerSet set) = sanitizePeerSet set :=
  ⟨Poller.normalizeRelays_normalized, sanitizePeerSet_again⟩

end Nightdrop
