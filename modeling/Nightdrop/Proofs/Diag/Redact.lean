import Nightdrop.Diag.Channel

/-! No onion label and no listener secret is printed, and what is printed does not depend on the secret. -/

namespace Nightdrop
namespace Diag

variable {s out rest a b p q v w : List Char} {x : Char}

theorem loop_onion (out rest : List Char) :
    redactOnions.loop out (ONION ++ rest) = redactOnions.loop (out.rdropWhile isBase32 ++ "<onion>".toList) rest := rfl

theorem loop_other {c : Char} (apart : ∀ b, c :: rest ≠ ONION ++ b) (out : List Char) :
    redactOnions.loop out (c :: rest) = redactOnions.loop (out ++ [c]) rest := by
  rw [redactOnions.loop]
  intro more same rest'
  exact apart more (by rw [same, rest']; rfl)

/-- A scan meets the suffix, goes on by a character, or ends. -/
theorem scan_cases {motive : List Char → Prop} (nil : motive []) (onion : ∀ rest, motive rest → motive (ONION ++ rest))
    (other : ∀ c rest, (∀ b, c :: rest ≠ ONION ++ b) → motive rest → motive (c :: rest)) (s : List Char) : motive s := by
  induction long : s.length using Nat.strong_induction_on generalizing s with
  | _ n ih =>
    subst long
    cases s with
    | nil => exact nil
    | cons c rest =>
      -- By strong induction on the length, for the suffix takes six characters at once.
      by_cases met : ∃ b, c :: rest = ONION ++ b
      · obtain ⟨b, same⟩ := met
        rw [same]
        exact onion b (ih b.length (by rw [same, List.length_append]; simp [ONION]) b rfl)
      · exact other c rest (fun b same => met ⟨b, same⟩) (ih rest.length (by simp) rest rfl)

/-- No suffix begins in the text up to the place a scan has come to. -/
def Clear (out rest : List Char) : Prop := ∀ a b, out ++ rest = a ++ (ONION ++ b) → out.length ≤ a.length

/-- A scan leaves no suffix in what it writes. -/
theorem Clear.loop (clear : Clear out rest) (a b : List Char) : redactOnions.loop out rest ≠ a ++ (ONION ++ b) := by
  induction rest using scan_cases generalizing out with
  | nil =>
    intro same
    have late := clear a b (by rw [List.append_nil]; exact same)
    have long := congrArg List.length same
    simp only [redactOnions.loop, List.length_append, ONION, List.length_cons] at long
    omega
  | onion rest ih =>
    rw [loop_onion]
    refine ih ?_
    intro a b same
    have shape : out.rdropWhile isBase32 ++ "<onion>".toList ++ rest
        = (out.rdropWhile isBase32 ++ "<onion".toList) ++ '>' :: rest := by simp
    rw [shape] at same
    -- The suffix stands on one side of each bracket of the mark.
    rcases apart_of_bar (by decide) same with ⟨c, before, _⟩ | ⟨c, _, rfl⟩
    · have shape' : out.rdropWhile isBase32 ++ "<onion".toList = out.rdropWhile isBase32 ++ '<' :: "onion".toList := rfl
      rw [shape'] at before
      rcases apart_of_bar (by decide) before with ⟨d, inside, _⟩ | ⟨d, inside, _⟩
      · -- What is kept of the text had none.
        obtain ⟨label, whole⟩ := List.rdropWhile_prefix isBase32 (l := out)
        have late := clear a (d ++ label ++ (ONION ++ rest)) (by
          rw [← whole, inside]
          simp only [List.append_assoc])
        have long := congrArg List.length inside
        have short := congrArg List.length whole
        simp only [List.length_append, ONION, List.length_cons, List.length_nil] at long short
        omega
      · -- The mark itself is too short.
        have long := congrArg List.length inside
        have five : "onion".toList.length = 5 := by decide
        simp only [List.length_append, ONION, List.length_cons, five] at long
        omega
    · simp only [List.length_append, List.length_cons]
      have seven : "<onion>".toList.length = 7 := by decide
      have six : "<onion".toList.length = 6 := by decide
      omega
  | other c rest apart ih =>
    rw [loop_other apart]
    refine ih ?_
    intro a b same
    have late := clear a b (by rw [← same, List.append_assoc, List.singleton_append])
    rw [List.length_append, List.length_singleton]
    -- None begins right here either.
    by_contra early
    have here : out.length = a.length := by omega
    rw [List.append_assoc, List.singleton_append] at same
    exact apart b (List.append_inj same here).2

/-- A scan of a text without the suffix copies it. -/
theorem loop_still (none : ∀ a b, rest ≠ a ++ (ONION ++ b)) (out : List Char) : redactOnions.loop out rest = out ++ rest := by
  induction rest using scan_cases generalizing out with
  | nil => rw [redactOnions.loop, List.append_nil]
  | onion rest _ => exact absurd rfl (none [] rest)
  | other c rest apart ih =>
    rw [loop_other apart, ih (fun a b same => none (c :: a) b (by rw [same, List.cons_append])), List.append_assoc,
      List.singleton_append]

/-- No suffix reaches across a character that it does not hold. -/
theorem loop_bar (absent : x ∉ ONION) (out p q : List Char) :
    redactOnions.loop out (p ++ x :: q) = redactOnions.loop (redactOnions.loop out p) (x :: q) := by
  induction p using scan_cases generalizing out with
  | nil => rfl
  | onion p ih => rw [List.append_assoc, loop_onion, loop_onion, ih]
  | other c p apart ih =>
    rw [loop_other apart, List.cons_append, loop_other, ih]
    intro b same
    -- A suffix that begins here would hold the character, or lie on this side of it.
    rcases apart_of_bar (p := c :: p) (a := []) absent same with ⟨d, within, _⟩ | ⟨d, _, empty⟩
    · exact apart d within
    · simp at empty

/-- A label is dropped back to a character that is none of a label's. -/
theorem rdropWhile_bar (other : isBase32 x = false) (a b : List Char) :
    (a ++ x :: b).rdropWhile isBase32 = a ++ x :: b.rdropWhile isBase32 := by
  induction b using List.reverseRecOn with
  | nil => rw [List.rdropWhile_concat_neg isBase32 a x (by simp [other]), List.rdropWhile_nil]
  | append_singleton b y ih =>
    rw [← List.cons_append, ← List.append_assoc]
    by_cases label : isBase32 y = true
    · rw [List.rdropWhile_concat_pos _ _ _ label, List.rdropWhile_concat_pos _ _ _ label, ih]
    · rw [List.rdropWhile_concat_neg _ _ _ label, List.rdropWhile_concat_neg _ _ _ label]
      simp

/-- What stands before a character that is none of a label's stays as it is. -/
theorem loop_keep (other : isBase32 x = false) (a b rest : List Char) :
    redactOnions.loop (a ++ x :: b) rest = a ++ redactOnions.loop (x :: b) rest := by
  induction rest using scan_cases generalizing b with
  | nil => rfl
  | onion rest ih =>
    have front := rdropWhile_bar other [] b
    rw [List.nil_append, List.nil_append] at front
    rw [loop_onion, loop_onion, rdropWhile_bar other, front]
    have more := ih (b.rdropWhile isBase32 ++ "<onion>".toList)
    simpa only [List.append_assoc, List.cons_append] using more
  | other c rest apart ih =>
    rw [loop_other apart, loop_other apart]
    have more := ih (b ++ [c])
    simpa only [List.append_assoc, List.cons_append] using more

/-- What a text begins with stays, if it is none of a label's. -/
theorem loop_lead (other : isBase32 x = false) (b rest : List Char) :
    ∃ more, redactOnions.loop (x :: b) rest = x :: more := by
  induction rest using scan_cases generalizing b with
  | nil => exact ⟨b, rfl⟩
  | onion rest ih =>
    have kept := rdropWhile_bar other [] b
    rw [List.nil_append, List.nil_append] at kept
    rw [loop_onion, kept]
    exact ih _
  | other c rest apart ih =>
    rw [loop_other apart]
    exact ih _

/-- Redacting onions is the scan, whether or not there are any. -/
theorem redactOnions_eq (s : List Char) : redactOnions s = redactOnions.loop [] s := by
  unfold redactOnions
  split
  · rename_i none
    rw [loop_still (around_none none), List.nil_append]
  · rfl

/-- What follows a value: nothing, or what begins with a character that ends it. -/
def Ended (rest : List Char) : Prop := ∀ c more, rest = c :: more → endsValue c = true

theorem ended_dropWhile (value : List Char) : Ended (value.dropWhile fun c => !endsValue c) := by
  intro c more same
  have head := List.head?_dropWhile_not (fun c => !endsValue c) value
  rw [same] at head
  simpa using head

/-- A text that ends with a value has nothing more to skip. -/
theorem Ended.still (ended : Ended rest) : rest.dropWhile (fun c => !endsValue c) = rest := by
  cases rest with
  | nil => rfl
  | cons c more => rw [List.dropWhile_cons, ended c more rfl, Bool.not_true, if_neg (by simp)]

/-- A value is skipped up to what ends it. -/
theorem skip_value (free : ∀ c ∈ v, endsValue c = false) (ended : Ended rest) :
    (v ++ rest).dropWhile (fun c => !endsValue c) = rest := by
  rw [List.dropWhile_append_of_pos (fun c member => by simp [free c member]), ended.still]

/-- What follows an argument's value is shorter than the text. -/
theorem value_shorter {before value : List Char} (found : around LISTENER_SECRET_ARG rest = some (before, value)) :
    (value.dropWhile fun c => !endsValue c).length < rest.length := by
  have fits := (List.dropWhile_suffix (l := value) fun c => !endsValue c).length_le
  have arg : LISTENER_SECRET_ARG.length = 16 := by decide
  rw [(around_some found).1, List.length_append, List.length_append, arg]
  omega

/-- As many steps as the text is long are enough, and more are as good. -/
theorem loop_steps {few more : Nat} (enough : rest.length ≤ few) (enough' : rest.length ≤ more) :
    redactListenerSecret.loop few rest = redactListenerSecret.loop more rest := by
  induction few generalizing rest more with
  | zero =>
    have empty : rest = [] := List.eq_nil_of_length_eq_zero (by omega)
    subst empty
    cases more <;> rfl
  | succ few ih =>
    cases more with
    | zero =>
      have empty : rest = [] := List.eq_nil_of_length_eq_zero (by omega)
      subst empty
      rfl
    | succ more =>
      rw [redactListenerSecret.loop, redactListenerSecret.loop]
      split
      · rfl
      · rename_i before value found
        -- Each step leaves less text than it found.
        have shorter := value_shorter found
        rw [@ih _ more (by omega) (by omega)]

/-- Each argument's value is replaced, and so on behind it. -/
theorem redactListenerSecret_eq (s : List Char) :
    redactListenerSecret s = match around LISTENER_SECRET_ARG s with
      | none => s
      | some (before, value) => before ++ LISTENER_SECRET_ARG ++ REDACTED
          ++ redactListenerSecret (value.dropWhile fun c => !endsValue c) := by
  cases s with
  | nil => rfl
  | cons c rest =>
    rw [redactListenerSecret, List.length_cons, redactListenerSecret.loop]
    cases found : around LISTENER_SECRET_ARG (c :: rest) with
    | none => rfl
    | some both =>
      have shorter := value_shorter found
      rw [List.length_cons] at shorter
      dsimp only
      rw [@loop_steps _ _ (both.2.dropWhile fun c => !endsValue c).length (by omega) (Nat.le_refl _)]
      rfl

/-- A text holds no argument, or it goes on behind the first one's value. -/
theorem secret_cases {motive : List Char → Prop} (none : ∀ s, around LISTENER_SECRET_ARG s = none → motive s)
    (found : ∀ s before value, around LISTENER_SECRET_ARG s = some (before, value) →
      motive (value.dropWhile fun c => !endsValue c) → motive s) (s : List Char) : motive s := by
  induction long : s.length using Nat.strong_induction_on generalizing s with
  | _ n ih =>
    subst long
    cases met : around LISTENER_SECRET_ARG s with
    | none => exact none s met
    | some both => exact found s both.1 both.2 met (ih _ (value_shorter met) _ rfl)

/-- What the mark is made of. -/
theorem redacted_eq : REDACTED = '<' :: ("redacted".toList ++ ['>']) := by decide

/-- A value is free of what would end it, if each of its characters is. -/
theorem free_of_all (each : (v.all fun c => !endsValue c) = true) : ∀ c ∈ v, endsValue c = false := by
  intro c member
  simpa using List.all_eq_true.mp each c member

theorem redacted_free : ∀ c ∈ REDACTED, endsValue c = false := by
  have chars : REDACTED = ['<', 'r', 'e', 'd', 'a', 'c', 't', 'e', 'd', '>'] := by decide
  rw [chars]
  exact free_of_all (by decide)

/-- Taking out secrets brings no onion suffix in. -/
theorem secret_onionless (none : ∀ a b, s ≠ a ++ (ONION ++ b)) (a b : List Char) :
    redactListenerSecret s ≠ a ++ (ONION ++ b) := by
  induction s using secret_cases generalizing a b with
  | none s absent =>
    rw [redactListenerSecret_eq, absent]
    exact none a b
  | found s before value met ih =>
    obtain ⟨whole, _⟩ := around_some met
    rw [redactListenerSecret_eq, met, redacted_eq]
    dsimp only
    intro same
    simp only [List.append_assoc, List.cons_append, List.nil_append] at same
    rw [← List.append_assoc] at same
    -- The suffix stands on one side of each bracket.
    rcases apart_of_bar (by decide) same with ⟨c, inside, _⟩ | ⟨c, inside, _⟩
    · refine none a (c ++ value) ?_
      rw [whole, ← List.append_assoc, inside]
      simp only [List.append_assoc]
    · rcases apart_of_bar (by decide) inside with ⟨d, word, _⟩ | ⟨d, later, _⟩
      · have dot : '.' ∈ "redacted".toList := by
          rw [word]
          simp [ONION]
        exact absurd dot (by decide)
      -- Behind the mark stands what was behind the value.
      · obtain ⟨skipped, split⟩ := List.dropWhile_suffix (l := value) fun c => !endsValue c
        refine ih ?_ d b later
        intro a' b' same'
        refine none (before ++ (LISTENER_SECRET_ARG ++ (skipped ++ a'))) b' ?_
        rw [whole, ← split, same']
        simp only [List.append_assoc]

/-- What begins with the end of a value still does once secrets are taken out. -/
theorem secret_ended (ended : Ended s) : Ended (redactListenerSecret s) := by
  rw [redactListenerSecret_eq]
  split
  · exact ended
  · rename_i before value found
    obtain ⟨whole, _⟩ := around_some found
    have lead : LISTENER_SECRET_ARG = 'l' :: "istener-secret=".toList := by decide
    intro c more same
    cases before with
    | nil =>
      -- The argument does not begin with a character that ends a value.
      have bad := ended 'l' ("istener-secret=".toList ++ value) (by rw [whole, lead]; rfl)
      exact absurd bad (by decide)
    | cons d before =>
      simp only [List.cons_append, List.cons.injEq] at same
      rw [← same.1]
      exact ended d _ (by rw [whole, List.cons_append])

/-- Behind each argument stands the mark, and behind that what ended the value. -/
theorem secret_covered (same : redactListenerSecret s = a ++ (LISTENER_SECRET_ARG ++ b)) :
    ∃ rest, b = REDACTED ++ rest ∧ Ended rest := by
  induction s using secret_cases generalizing a b with
  | none s absent =>
    rw [redactListenerSecret_eq, absent] at same
    exact absurd same (around_none absent a b)
  | found s before value met ih =>
    obtain ⟨whole, first⟩ := around_some met
    rw [redactListenerSecret_eq, met] at same
    dsimp only at same
    have shape : before ++ LISTENER_SECRET_ARG ++ REDACTED ++ redactListenerSecret (value.dropWhile fun c => !endsValue c)
        = (before ++ LISTENER_SECRET_ARG) ++ '<' :: ("redacted".toList
          ++ '>' :: redactListenerSecret (value.dropWhile fun c => !endsValue c)) := by
      rw [redacted_eq]
      simp only [List.append_assoc, List.cons_append, List.nil_append]
    rw [shape] at same
    rcases apart_of_bar (by decide) same with ⟨c, inside, rest⟩ | ⟨c, inside, _⟩
    · -- It is the one that was found, as none comes earlier.
      have early := first a (c ++ value) (by
        rw [whole, ← List.append_assoc, inside]
        simp only [List.append_assoc])
      have long := congrArg List.length inside
      simp only [List.length_append] at long
      have empty : c = [] := List.eq_nil_of_length_eq_zero (by omega)
      rw [rest, empty, redacted_eq]
      exact ⟨redactListenerSecret (value.dropWhile fun c => !endsValue c), by simp, secret_ended (ended_dropWhile value)⟩
    · rcases apart_of_bar (by decide) inside with ⟨d, word, _⟩ | ⟨d, later, _⟩
      · have dash : '-' ∈ LISTENER_SECRET_ARG := by decide
        have inside' : '-' ∈ "redacted".toList := by
          rw [word]
          exact List.mem_append_right _ (List.mem_append_left _ dash)
        exact absurd inside' (by decide)
      · exact ih later

/-- Taking out secrets once more changes nothing. -/
theorem secret_again (s : List Char) : redactListenerSecret (redactListenerSecret s) = redactListenerSecret s := by
  induction s using secret_cases with
  | none s absent =>
    have still : redactListenerSecret s = s := by rw [redactListenerSecret_eq, absent]
    rw [still, still]
  | found s before value met ih =>
    obtain ⟨whole, first⟩ := around_some met
    have once : redactListenerSecret s = before ++ (LISTENER_SECRET_ARG ++ (REDACTED
        ++ redactListenerSecret (value.dropWhile fun c => !endsValue c))) := by
      rw [redactListenerSecret_eq, met]
      simp only [List.append_assoc]
    -- The first argument of the result is the one that was found.
    have found : around LISTENER_SECRET_ARG (redactListenerSecret s) = some (before, REDACTED
        ++ redactListenerSecret (value.dropWhile fun c => !endsValue c)) := by
      rw [once]
      refine around_eq ?_
      intro a b same
      rw [redacted_eq, ← List.append_assoc, List.cons_append] at same
      rcases apart_of_bar (by decide) same with ⟨c, inside, _⟩ | ⟨c, _, across⟩
      · exact first a (c ++ value) (by
          rw [whole, ← List.append_assoc, inside]
          simp only [List.append_assoc])
      · rw [across]
        simp only [List.length_append]
        omega
    rw [redactListenerSecret_eq, found]
    dsimp only
    rw [skip_value redacted_free (secret_ended (ended_dropWhile value)), ih, once]
    simp only [List.append_assoc]

/-- What is taken out of a text does not depend on the value of an argument in it. -/
theorem secret_blind (free : ∀ c ∈ v, endsValue c = false) (free' : ∀ c ∈ w, endsValue c = false) (ended : Ended rest)
    (p : List Char) :
    redactListenerSecret (p ++ (LISTENER_SECRET_ARG ++ (v ++ rest)))
      = redactListenerSecret (p ++ (LISTENER_SECRET_ARG ++ (w ++ rest))) := by
  have lead : LISTENER_SECRET_ARG = 'l' :: "istener-secret=".toList := by decide
  have argFree : ∀ c ∈ LISTENER_SECRET_ARG, endsValue c = false := by
    rw [lead]
    exact free_of_all (by decide)
  induction long : p.length using Nat.strong_induction_on generalizing p with
  | _ n ih =>
    subst long
    cases met : around LISTENER_SECRET_ARG p with
    | none =>
      -- The argument is the first one.
      have here : ∀ value, around LISTENER_SECRET_ARG (p ++ (LISTENER_SECRET_ARG ++ value)) = some (p, value) := by
        intro value
        rw [lead] at met ⊢
        exact around_lead (by decide) met value
      rw [redactListenerSecret_eq, redactListenerSecret_eq (p ++ (LISTENER_SECRET_ARG ++ (w ++ rest))), here, here]
      dsimp only
      rw [skip_value free ended, skip_value free' ended]
    | some both =>
      obtain ⟨before, value⟩ := both
      have shorter := value_shorter met
      rw [redactListenerSecret_eq, redactListenerSecret_eq (p ++ (LISTENER_SECRET_ARG ++ (w ++ rest))),
        around_append met, around_append met]
      dsimp only
      congr 1
      -- Its value ends before the argument, or takes that and its value in.
      have skip : ∀ u : List Char, (value ++ (LISTENER_SECRET_ARG ++ (u ++ rest))).dropWhile (fun c => !endsValue c)
          = if (value.dropWhile fun c => !endsValue c).isEmpty
            then (LISTENER_SECRET_ARG ++ (u ++ rest)).dropWhile (fun c => !endsValue c)
            else (value.dropWhile fun c => !endsValue c) ++ (LISTENER_SECRET_ARG ++ (u ++ rest)) :=
        fun u => List.dropWhile_append
      rw [skip, skip]
      split
      · have across : ∀ u : List Char, (∀ c ∈ u, endsValue c = false) →
            (LISTENER_SECRET_ARG ++ (u ++ rest)).dropWhile (fun c => !endsValue c) = rest := by
          intro u each
          rw [← List.append_assoc]
          refine skip_value ?_ ended
          intro c member
          rcases List.mem_append.mp member with inside | inside
          · exact argFree c inside
          · exact each c inside
        rw [across v free, across w free']
      · exact ih _ shorter _ rfl

/-- What a scan writes it has read, or it is of the mark. -/
theorem mem_loop {c : Char} (member : c ∈ redactOnions.loop out rest) : c ∈ out ∨ c ∈ rest ∨ c ∈ "<onion>".toList := by
  induction rest using scan_cases generalizing out with
  | nil => exact .inl member
  | onion rest ih =>
    rw [loop_onion] at member
    rcases ih member with written | later | mark
    · rcases List.mem_append.mp written with kept | mark
      · exact .inl ((List.rdropWhile_prefix isBase32 (l := out)).subset kept)
      · exact .inr (.inr mark)
    · exact .inr (.inl (List.mem_append_right _ later))
    · exact .inr (.inr mark)
  | other d rest apart ih =>
    rw [loop_other apart] at member
    rcases ih member with written | later | mark
    · rcases List.mem_append.mp written with kept | same
      · exact .inl kept
      · rw [List.mem_singleton.mp same]
        exact .inr (.inl (by simp))
    · exact .inr (.inl (by simp [later]))
    · exact .inr (.inr mark)

/-- A character that ends a value is none of a label's, and none of the suffix's. -/
theorem endsValue_apart (ends : endsValue x = true) : isBase32 x = false ∧ x ∉ ONION := by
  have absent : x ∉ ONION := by
    intro member
    simp only [ONION, List.mem_cons, List.not_mem_nil, or_false] at member
    rcases member with rfl | rfl | rfl | rfl | rfl | rfl <;> exact absurd ends (by decide)
  refine ⟨?_, absent⟩
  by_contra label
  simp only [isBase32, Bool.not_eq_false, decide_eq_true_eq, Char.le_def] at label
  simp only [endsValue, isSpace, decide_eq_true_eq, List.mem_cons, List.not_mem_nil, or_false] at ends
  have number : ∀ c d : Char, c.val ≤ d.val ↔ c.toNat ≤ d.toNat := fun c d => Iff.rfl
  rw [number, number, number, number] at label
  have codes : 'a'.toNat = 97 ∧ 'z'.toNat = 122 ∧ '2'.toNat = 50 ∧ '7'.toNat = 55 := by decide
  omega

/-- No suffix begins with a character that it does not hold. -/
theorem onion_apart (absent : x ∉ ONION) (rest b : List Char) : x :: rest ≠ ONION ++ b := by
  intro same
  rw [ONION, List.cons_append, List.cons.injEq] at same
  exact absent (by rw [same.1]; simp [ONION])

/-- A scan of a text with an argument in it writes the argument, a value of its own, and what follows that. -/
theorem redactOnions_parts (free : ∀ c ∈ v, endsValue c = false) (ended : Ended rest) (p : List Char) :
    ∃ v', (∀ c ∈ v', endsValue c = false) ∧ redactOnions (p ++ (LISTENER_SECRET_ARG ++ (v ++ rest)))
      = redactOnions p ++ (LISTENER_SECRET_ARG ++ (v' ++ redactOnions rest)) := by
  have name : LISTENER_SECRET_ARG = 'l' :: ("istener-secret".toList ++ ['=']) := by decide
  have plain : ∀ a b, 'l' :: "istener-secret".toList ≠ a ++ (ONION ++ b) := by
    intro a b same
    have dot : '.' ∈ 'l' :: "istener-secret".toList := by
      rw [same]
      simp [ONION]
    exact absurd dot (by decide)
  -- The scan comes to the equals sign with the argument's name written.
  have front : redactOnions (p ++ (LISTENER_SECRET_ARG ++ (v ++ rest)))
      = redactOnions p ++ (('l' :: "istener-secret".toList) ++ redactOnions.loop ['='] (v ++ rest)) := by
    have shape : p ++ (LISTENER_SECRET_ARG ++ (v ++ rest))
        = (p ++ 'l' :: "istener-secret".toList) ++ '=' :: (v ++ rest) := by
      rw [name]
      simp only [List.append_assoc, List.cons_append, List.nil_append]
    have sign : ∀ b, '=' :: (v ++ rest) ≠ ONION ++ b := by
      intro b same
      simp [ONION] at same
    rw [shape, redactOnions_eq, redactOnions_eq, loop_bar (by decide), loop_bar (by decide), loop_still plain,
      loop_other sign, loop_keep (by decide), List.append_assoc]
  -- Nothing before the equals sign is dropped with a label of the value, and nothing of the value with one behind it.
  have value : ∃ v', (∀ c ∈ v', endsValue c = false)
      ∧ redactOnions.loop ['='] (v ++ rest) = '=' :: (v' ++ redactOnions rest) := by
    obtain ⟨v', written⟩ := loop_lead (x := '=') (by decide) [] v
    have free' : ∀ c ∈ v', endsValue c = false := by
      intro c member
      have inside : c ∈ redactOnions.loop ['='] v := by
        rw [written]
        exact List.mem_cons_of_mem _ member
      rcases mem_loop inside with sign | read | mark
      · rw [List.mem_singleton.mp sign]
        decide
      · exact free c read
      · exact free_of_all (by decide) c mark
    refine ⟨v', free', ?_⟩
    cases rest with
    | nil =>
      rw [List.append_nil, written, redactOnions_eq]
      simp [redactOnions.loop]
    | cons x more =>
      -- What ends the value stops every label, and is in no suffix.
      obtain ⟨other, absent⟩ := endsValue_apart (ended x more rfl)
      have apart := onion_apart absent more
      rw [loop_bar absent, loop_other apart, loop_keep other, written, redactOnions_eq, loop_other apart, List.nil_append,
        List.cons_append]
  obtain ⟨v', free', same⟩ := value
  refine ⟨v', free', ?_⟩
  rw [front, same, name]
  simp only [List.append_assoc, List.cons_append, List.nil_append]

/-- A text that ends a value still does once onions are taken out. -/
theorem onions_ended (ended : Ended rest) : Ended (redactOnions rest) := by
  cases rest with
  | nil =>
    intro c more same
    cases same
  | cons x tail =>
    have ends := ended x tail rfl
    obtain ⟨other, absent⟩ := endsValue_apart ends
    have apart := onion_apart absent tail
    obtain ⟨more, written⟩ := loop_lead other [] tail
    intro c more' same
    rw [redactOnions_eq, loop_other apart, List.nil_append, written, List.cons.injEq] at same
    rw [← same.1]
    exact ends

/-- What the channel prints names no onion, and covers every listener secret. -/
structure Safe (s : List Char) : Prop where
  onion : ¬ ONION <:+: s
  secret : ∀ a b, s = a ++ (LISTENER_SECRET_ARG ++ b) → ∃ rest, b = REDACTED ++ rest ∧ Ended rest

/-- Whatever the line, what is printed of it is safe, redacting it again changes nothing, and a line with nothing to hide is printed as it is. -/
theorem redact_safe (s : List Char) : Safe (redact s) ∧ redact (redact s) = redact s
    ∧ (¬ ONION <:+: s → ¬ LISTENER_SECRET_ARG <:+: s → redact s = s) := by
  -- Onions go first, and taking out secrets brings none back.
  have onionless : ∀ a b, redact s ≠ a ++ (ONION ++ b) := by
    refine secret_onionless ?_
    intro a b
    rw [redactOnions_eq]
    exact Clear.loop (fun _ _ _ => by simp) a b
  have still : ∀ t : List Char, (∀ a b, t ≠ a ++ (ONION ++ b)) → redactOnions t = t := by
    intro t none
    rw [redactOnions_eq, loop_still none, List.nil_append]
  refine ⟨⟨?_, fun a b same => secret_covered same⟩, ?_, ?_⟩
  · rintro ⟨a, b, same⟩
    exact onionless a b (by rw [← same, List.append_assoc])
  · rw [redact, still _ onionless]
    exact secret_again _
  · intro noOnion noSecret
    rw [redact, still s (fun a b same => noOnion ⟨a, b, by rw [same, List.append_assoc]⟩), redactListenerSecret_eq]
    cases met : around LISTENER_SECRET_ARG s with
    | none => rfl
    | some both =>
      obtain ⟨whole, _⟩ := around_some met
      -- An argument that is found is one that the line holds.
      exact absurd ⟨both.1, both.2, by rw [whole, List.append_assoc]⟩ noSecret

/-- What is printed of a line does not depend on the listener secret in it. -/
theorem redact_blind (p : List Char) (free : ∀ c ∈ v, endsValue c = false) (free' : ∀ c ∈ w, endsValue c = false)
    (ended : Ended rest) :
    redact (p ++ (LISTENER_SECRET_ARG ++ (v ++ rest))) = redact (p ++ (LISTENER_SECRET_ARG ++ (w ++ rest))) := by
  obtain ⟨v', free₁, left⟩ := redactOnions_parts free ended p
  obtain ⟨w', free₂, right⟩ := redactOnions_parts free' ended p
  rw [redact, redact, left, right]
  exact secret_blind free₁ free₂ (onions_ended ended) _

/-- Two secrets in a bridge line are printed alike. -/
theorem redact_blind_bridge :
    redact ("b ".toList ++ (LISTENER_SECRET_ARG ++ ("x.onion".toList ++ [' ']))) =
      redact ("b ".toList ++ (LISTENER_SECRET_ARG ++ ("7".toList ++ [' ']))) :=
  redact_blind _ (free_of_all (by decide)) (free_of_all (by decide)) (by
    intro c more same
    cases same
    decide)

end Diag
end Nightdrop
