import Nightdrop.Node.Door
import Nightdrop.Node.Symbolic

/-! Pairing passes: whom a run leaves admitted, and what no run of spending one touches. -/

namespace Nightdrop

variable {X : Externals}

/-- Invites with different one-time keys have passes of different names. -/
theorem passName_inj {otk otk' : String} (same : passName otk = passName otk') : otk = otk' := by
  unfold passName at same
  have lists := congrArg String.toList same
  simp only [String.toList_append] at lists
  exact String.ext (List.append_cancel_left lists)

/-- No contact is admitted under the name of a pass: an identity key has no colon. -/
theorem ne_passName {contact : String} (named : isKeyText contact = true) (otk : String) :
    passName otk ≠ contact := by
  intro same
  subst same
  unfold isKeyText passName at named
  rw [List.all_eq_true] at named
  have colon := named ':' (by simp [String.toList_append])
  revert colon
  decide

namespace Door

/-- Two doors that differ in the device, our keys, and whether one client is admitted. -/
structure Beside (client : String) (d d' : Door X) : Prop where
  passes : d'.passes = d.passes
  saved : d'.saved = d.saved
  admits : ∀ name, name ≠ client → d'.admits name = d.admits name

namespace Beside

variable {client : String}

theorem refl (d : Door X) : Beside client d d := ⟨rfl, rfl, fun _ _ => rfl⟩

theorem trans {d d1 d2 : Door X} (first : Beside client d d1) (second : Beside client d1 d2) :
    Beside client d d2 where
  passes := second.passes.trans first.passes
  saved := second.saved.trans first.saved
  admits name apart := (second.admits name apart).trans (first.admits name apart)

end Beside

theorem authorizeClient_beside (d : Door X) (name key : String) :
    Beside name d (d.authorizeClient name key) := by
  unfold authorizeClient
  split
  · refine ⟨rfl, rfl, fun other apart => ?_⟩
    unfold admits
    simp only [AList.lookup_insert_ne apart]
  · exact .refl d

/-- What is done with a value, if there is one, changes no more than it does with any. -/
theorem given_beside {α : Type} (client : String) (d : Door X) (value : Option α)
    {act : Door X → α → Door X} (each : ∀ d a, Beside client d (act d a)) :
    Beside client d (d.given value act) := by
  cases value with
  | none => exact .refl d
  | some a => exact each d a

theorem setNode_beside (client : String) (d : Door X) (n : Node X) :
    Beside client d { d with node := n } := ⟨rfl, rfl, fun _ _ => rfl⟩

theorem applyPendingKeys_beside (d : Door X) (contact : String) :
    Beside contact d (d.applyPendingKeys contact) := by
  unfold applyPendingKeys
  split
  · exact .refl d
  · rename_i chat _
    refine Beside.trans ?_ (setNode_beside contact _ _)
    refine (given_beside contact d chat.peerKeyPending fun d key =>
      authorizeClient_beside d contact key).trans ?_
    -- Installing the reply pass changes our own keys, and not whom our onion admits.
    refine given_beside contact _ _ fun d pass => ?_
    split
    · exact ⟨rfl, rfl, fun _ _ => rfl⟩
    · exact .refl d

theorem announceClientKey_beside (client : String) (d : Door X) (contact peerAddress : String)
    (minted : Option (String × Bytes)) (now : Nat) :
    Beside client d (d.announceClientKey contact peerAddress minted now) := by
  unfold announceClientKey
  refine Beside.trans ?_ (setNode_beside client _ _)
  exact given_beside client d minted fun _ _ => ⟨rfl, rfl, fun _ _ => rfl⟩

/-- Restoring our keys at startup admits nobody and lists nothing. -/
theorem restoreClientKeys_beside (client : String) (d : Door X)
    (minted : String → Option (String × Bytes)) (now : Nat) :
    Beside client d (d.restoreClientKeys minted now) := by
  unfold restoreClientKeys
  generalize d.node.chats.entries = chats
  induction chats generalizing d with
  | nil => exact .refl d
  | cons e rest ih =>
    rw [List.foldl_cons]
    refine Beside.trans ?_ (ih _)
    split
    · exact .refl d
    · split
      · exact ⟨rfl, rfl, fun _ _ => rfl⟩
      · exact announceClientKey_beside client d _ _ _ now

/-- After some clients are revoked, a client is admitted if it was before and is none of them. -/
theorem admits_foldl_revoke (revoked : List Pass) (d : Door X) (name : String) :
    (revoked.foldl (fun d p => d.revokeClient p.name) d).admits name = true
      ↔ d.admits name = true ∧ ∀ p ∈ revoked, p.name ≠ name := by
  induction revoked generalizing d with
  | nil => simp
  | cons p rest ih =>
    rw [List.foldl_cons, ih]
    unfold admits revokeClient
    simp only [KeyedMap.lookup_erase_if, List.forall_mem_cons]
    by_cases this : name = p.name
    · simp [this]
    · simp [this, Ne.symm this]

@[simp] theorem saved_foldl_revoke (revoked : List Pass) (d : Door X) :
    (revoked.foldl (fun d p => d.revokeClient p.name) d).saved = d.saved := by
  induction revoked generalizing d with
  | nil => rfl
  | cons p rest ih =>
    rw [List.foldl_cons, ih]
    rfl

variable {done : Pass → Bool}

/-- Whom the onion admits once the passes done with are revoked. -/
theorem admits_retirePasses (d : Door X) (name : String) :
    (d.retirePasses done).admits name = true
      ↔ d.admits name = true ∧ ∀ p ∈ d.passes, done p = true → p.name ≠ name := by
  have revoked := admits_foldl_revoke (d.passes.filter done) d name
  refine Iff.trans revoked ?_
  simp only [List.mem_filter, and_imp]

@[simp] theorem saved_retirePasses (d : Door X) : (d.retirePasses done).saved = d.saved :=
  saved_foldl_revoke _ d

theorem mem_retirePasses {d : Door X} {p : Pass} :
    p ∈ (d.retirePasses done).passes ↔ p ∈ d.passes ∧ done p = false := by
  unfold retirePasses
  simp [List.mem_filter]

/-- A `Hello` we cannot accept changes nothing here. -/
theorem receiveHello_refused {d : Door X} {fromAddress : Option String} {contact address : String}
    {message : WireOlm X.OlmMessage} {inputs : Node.PairingInputs} {now : Nat}
    (refused : ∀ olm, message.toOlm = some olm → isKeyText contact = true →
      X.acceptInbound d.node.account contact olm = none) :
    d.receiveHello fromAddress contact address message inputs now = d := by
  unfold receiveHello
  cases readable : message.toOlm with
  | none => rfl
  | some olm =>
    simp only []
    split
    · rfl
    · rename_i named
      rw [refused olm readable (by simpa using named)]

/-- Spending a pass does not ask who the device is. -/
theorem spend_beside (client : String) (d : Door X) (account : X.Account) (otk : Option String) :
    Beside client (d.given otk spendPass)
      ({ d with node := { d.node with account := account } }.given otk spendPass) := by
  cases otk with
  | none => exact setNode_beside client d _
  | some otk =>
    refine ⟨rfl, ?_, fun name _ => ?_⟩
    · simp only [given, spendPass, saved_retirePasses]
    · rw [Bool.eq_iff_iff]
      simp only [given, spendPass]
      rw [admits_retirePasses, admits_retirePasses]
      rfl

/-- An accepted `Hello` spends the pass it came by, and admits the contact at most, if approved. -/
theorem receiveHello_beside {d : Door X} {contact : String} {message : WireOlm X.OlmMessage}
    {olm : X.OlmMessage} {account : X.Account} {session : X.Session} {plaintext : Bytes}
    (readable : message.toOlm = some olm) (named : isKeyText contact = true)
    (accepted : X.acceptInbound d.node.account contact olm = some (account, session, plaintext))
    (fromAddress : Option String) (address : String) (inputs : Node.PairingInputs) (now : Nat)
    {client : String} (only : client = contact
      ∨ (({ d with node := { d.node with account := account } }.given (X.oneTimeKey olm)
          spendPass).node.adoptHello contact
            (if saneAddress address then address else fromAddress.getD "") session
            (X.readHello plaintext) now).approves contact = false) :
    Beside client (d.given (X.oneTimeKey olm) spendPass)
      (d.receiveHello fromAddress contact address message inputs now) := by
  unfold receiveHello
  simp only [readable, named, Bool.not_true, Bool.false_eq_true, if_false, accepted]
  refine (spend_beside client d account (X.oneTimeKey olm)).trans ?_
  revert only
  generalize { d with node := { d.node with account := account } }.given (X.oneTimeKey olm) spendPass
    = d1
  generalize (if saneAddress address then address else fromAddress.getD "") = peerAddress
  generalize d1.node.adoptHello contact peerAddress session (X.readHello plaintext) now = n
  intro only
  -- From here on only the contact's own key may be admitted.
  have applied : Beside client { d1 with node := n }
      (if (n.chats.lookup contact).any (·.authorized) then
        { d1 with node := n }.applyPendingKeys contact else { d1 with node := n }) := by
    split
    · rename_i approved
      rcases only with rfl | unapproved
      · exact applyPendingKeys_beside _ client
      · rw [Node.approves, approved] at unapproved
        cases unapproved
    · exact .refl _
  have answered (d2 : Door X) (answers : Bool) (peerAddress : String) :
      Beside client d2
        (if answers then d2.announceClientKey contact peerAddress inputs.minted now else d2) := by
    split
    · exact announceClientKey_beside client d2 _ _ _ now
    · exact .refl d2
  have begun := (setNode_beside client d1 n).trans applied
  have told := begun.trans (answered _ (decide (peerAddress ≠ "") &&
    (((X.readHello plaintext).bind (·.pass)).bind X.decodeSecret).isNone) peerAddress)
  split
  · exact told.trans (setNode_beside client _ _)
  · exact told

/-- Nothing done with a value, if there is one, changes the device if it does not with any. -/
theorem given_node {α : Type} (d : Door X) (value : Option α) {act : Door X → α → Door X}
    (each : ∀ d' a, d'.node = d.node → (act d' a).node = d.node) : (d.given value act).node = d.node := by
  cases value with
  | none => rfl
  | some a => exact each d a rfl

theorem authorizeClient_node (d : Door X) (name key : String) :
    (d.authorizeClient name key).node = d.node := by
  unfold authorizeClient
  split <;> rfl

theorem applyPendingKeys_node (d : Door X) (contact : String) :
    (d.applyPendingKeys contact).node = d.node.applyPendingKeys contact := by
  unfold applyPendingKeys
  cases found : d.node.chats.lookup contact with
  | none => simp only [Node.applyPendingKeys, found]
  | some chat =>
    simp only []
    rw [given_node _ _ fun d' pass same => ?_, given_node _ _ fun d' key same => ?_]
    · exact (authorizeClient_node d' contact key).trans same
    · split <;> exact same

theorem announceClientKey_node (d : Door X) (contact peerAddress : String)
    (minted : Option (String × Bytes)) (now : Nat) :
    (d.announceClientKey contact peerAddress minted now).node
      = d.node.announceClientKey contact peerAddress minted now := by
  have inserted : (d.given minted fun d key => d.insertClientKey peerAddress key.2).node = d.node :=
    given_node d minted fun _ _ same => same
  unfold announceClientKey
  simp only [inserted]

theorem spendPass_node (d : Door X) (otk : String) :
    (d.spendPass otk).node
      = { d.node with dirty := d.node.dirty || d.passes.any (fun p => p.otk = otk) } := rfl

/-- What a `Hello` does to the device is what the device does on its own. -/
theorem receiveHello_node {d : Door X} (noted : d.node.dirty = true) {contact : String}
    (named : isKeyText contact = true) (fromAddress : Option String) (address : String)
    (message : WireOlm X.OlmMessage) (inputs : Node.PairingInputs) (now : Nat) :
    (d.receiveHello fromAddress contact address message inputs now).node
      = (d.node.receiveHello fromAddress contact address message inputs now).1 := by
  unfold receiveHello Node.receiveHello
  cases message.toOlm with
  | none => rfl
  | some olm =>
    simp only [named, Bool.not_true, Bool.false_eq_true, if_false]
    cases X.acceptInbound d.node.account contact olm with
    | none => rfl
    | some opening =>
      obtain ⟨account, session, plaintext⟩ := opening
      simp only []
      -- The device was marked changed before, so that spending a pass marks nothing new.
      have spent : ({ d with node := { d.node with account := account } }.given (X.oneTimeKey olm)
          spendPass).node = { d.node with account := account } := by
        refine given_node _ _ fun d' otk same => ?_
        rw [spendPass_node, same]
        simp [noted]
      revert spent
      generalize { d with node := { d.node with account := account } }.given (X.oneTimeKey olm)
        spendPass = d1
      intro spent
      rw [spent]
      generalize (if saneAddress address then address else fromAddress.getD "") = peerAddress
      generalize Node.adoptHello { d.node with account := account } contact peerAddress session
        (X.readHello plaintext) now = n
      generalize (n.chats.lookup contact).any (fun chat => chat.authorized) = authorized
      have applied : (if authorized then { d1 with node := n }.applyPendingKeys contact
          else { d1 with node := n }).node
          = if authorized then n.applyPendingKeys contact else n := by
        split
        · exact applyPendingKeys_node _ contact
        · rfl
      revert applied
      generalize (if authorized then { d1 with node := n }.applyPendingKeys contact
        else { d1 with node := n }) = d2
      intro applied
      have answered (answers : Bool) : (if answers then
          d2.announceClientKey contact peerAddress inputs.minted now else d2).node
          = if answers then d2.node.announceClientKey contact peerAddress inputs.minted now
            else d2.node := by
        split
        · exact announceClientKey_node d2 contact peerAddress inputs.minted now
        · rfl
      rw [← applied, ← answered]
      split <;> rfl

end Door

/-- Whether the pass issued before these marks was forgotten: a restart resumed from a state file
written before the pass was issued. -/
def Forgot (after : List PassMark) : Prop :=
  ∃ front back, after = front ++ .restarted :: back ∧ .saved ∉ front

theorem Forgot.append {after : List PassMark} (forgot : Forgot after) (more : List PassMark) :
    Forgot (after ++ more) := by
  obtain ⟨front, back, rfl, unsaved⟩ := forgot
  exact ⟨front, back ++ more, by simp, unsaved⟩

/-- A pass issued at `now` still has every right to be admitted after these marks. -/
structure Honored (d : Door X) (otk : String) (now : Nat) (after : List PassMark) : Prop where
  unused : .used otk ∉ after
  early : ∀ time, .swept time ∈ after → time < now + PASS_TTL_SECS
  listed : ⟨passName otk, otk, now + PASS_TTL_SECS⟩ ∈ d.passes
  kept : .saved ∈ after → ⟨passName otk, otk, now + PASS_TTL_SECS⟩ ∈ d.saved.passes

/-- Every pass the onion admits has been issued, and is since forgotten or still in its right. -/
def Accounted (d : Door X) (log : List PassMark) (otk : String) : Prop :=
  ∃ before now after, log = before ++ .issued otk now :: after
    ∧ (Forgot after ∨ Honored d otk now after)

/-- What holds of a door and its marks all along a run. -/
structure PassesAccounted (d : Door X) (log : List PassMark) : Prop where
  named : ∀ p ∈ d.passes, p.name = passName p.otk
  savedNamed : ∀ p ∈ d.saved.passes, p.name = passName p.otk
  accounted : ∀ otk, d.admits (passName otk) = true → Accounted d log otk

/-- A pass accounted for stays so if what keeps it in its right does. -/
theorem Accounted.later {d d' : Door X} {log more : List PassMark} {otk : String}
    (was : Accounted d log otk)
    (still : ∀ now after, Honored d otk now after →
      Forgot (after ++ more) ∨ Honored d' otk now (after ++ more)) :
    Accounted d' (log ++ more) otk := by
  obtain ⟨before, now, after, rfl, state⟩ := was
  refine ⟨before, now, after ++ more, by simp, ?_⟩
  rcases state with forgot | honored
  · exact .inl (forgot.append more)
  · exact still now after honored

namespace PassesAccounted

variable {d : Door X} {log : List PassMark}

/-- At the start nobody is admitted. -/
theorem setUp (node : Node X) : PassesAccounted (Door.setUp node) [] where
  named p listed := by cases listed
  savedNamed p listed := by cases listed
  accounted otk admitted := by simp [Door.setUp, Door.admits] at admitted

/-- A change that lists the same passes and admits no other is accounted for. -/
theorem of_beside {d' : Door X} {client : String} (holds : PassesAccounted d log)
    (beside : Door.Beside client d d') (contact : ∀ otk, passName otk ≠ client) :
    PassesAccounted d' log where
  named := by
    rw [beside.passes]
    exact holds.named
  savedNamed := by
    rw [beside.saved]
    exact holds.savedNamed
  accounted otk admitted := by
    rw [beside.admits _ (contact otk)] at admitted
    obtain ⟨before, now, after, split, state⟩ := holds.accounted otk admitted
    refine ⟨before, now, after, split, state.imp id fun honored => ?_⟩
    refine ⟨honored.unused, honored.early, ?_, ?_⟩
    · rw [beside.passes]
      exact honored.listed
    · rw [beside.saved]
      exact honored.kept

/-- Revoking the passes done with is accounted for by a mark that no pass still in its right minds. -/
theorem retire {done : Pass → Bool} {mark : PassMark} (holds : PassesAccounted d log)
    (neither : mark ≠ .saved)
    (right : ∀ otk now, done ⟨passName otk, otk, now + PASS_TTL_SECS⟩ = false →
      mark ≠ .used otk ∧ ∀ time, mark = .swept time → time < now + PASS_TTL_SECS) :
    PassesAccounted (d.retirePasses done) (log ++ [mark]) where
  named p listed := holds.named p (Door.mem_retirePasses.mp listed).1
  savedNamed := by
    rw [Door.saved_retirePasses]
    exact holds.savedNamed
  accounted otk admitted := by
    obtain ⟨was, spared⟩ := (Door.admits_retirePasses d _).mp admitted
    refine (holds.accounted otk was).later fun now after honored => .inr ?_
    -- A pass that is admitted still was not among those revoked.
    have undone : done ⟨passName otk, otk, now + PASS_TTL_SECS⟩ = false := by
      rw [← Bool.not_eq_true]
      exact fun gone => spared _ honored.listed gone rfl
    obtain ⟨unlike, early⟩ := right otk now undone
    refine ⟨fun used => ?_, fun time swept => ?_, Door.mem_retirePasses.mpr ⟨honored.listed, undone⟩,
      fun saved => ?_⟩
    · rcases List.mem_append.mp used with before | here
      · exact honored.unused before
      · exact unlike (List.mem_singleton.mp here).symm
    · rcases List.mem_append.mp swept with before | here
      · exact honored.early time before
      · exact early time (List.mem_singleton.mp here).symm
    · rw [Door.saved_retirePasses]
      rcases List.mem_append.mp saved with before | here
      · exact honored.kept before
      · exact absurd (List.mem_singleton.mp here).symm neither

/-- Spending a pass is accounted for. -/
theorem spend (holds : PassesAccounted d log) (otk : String) :
    PassesAccounted (d.spendPass otk) (log ++ [.used otk]) := by
  refine holds.retire (by simp) fun other now unspent => ⟨?_, by simp⟩
  rintro ⟨⟩
  simp at unspent

/-- Revoking what lapsed is accounted for. -/
theorem expire (holds : PassesAccounted d log) (now : Nat) :
    PassesAccounted (d.expirePasses now) (log ++ [.swept now]) := by
  refine holds.retire (by simp) fun otk issued live => ⟨by simp, ?_⟩
  rintro time ⟨⟩
  simpa using live

/-- Issuing a pass is accounted for by the issue itself. -/
theorem issue (holds : PassesAccounted d log) (otk : String) (minted : Option (String × Bytes))
    (now : Nat) : PassesAccounted (d.issuePass otk minted now)
      (log ++ if minted.any (X.validateKey ·.1) then [.issued otk now] else []) := by
  cases minted with
  | none => simpa [Door.issuePass] using holds
  | some key =>
    obtain ⟨pub, secret⟩ := key
    by_cases valid : X.validateKey pub = true
    · have admitted : Door.Beside (passName otk) d (d.authorizeClient (passName otk) pub) :=
        Door.authorizeClient_beside d _ pub
      simp only [Door.issuePass, valid, if_true, Option.any_some]
      refine ⟨fun p listed => ?_, ?_, fun other admits => ?_⟩
      · rcases List.mem_append.mp listed with before | here
        · exact holds.named p before
        · rw [List.mem_singleton.mp here]
      · show ∀ p ∈ (d.authorizeClient (passName otk) pub).saved.passes, _
        rw [admitted.saved]
        exact holds.savedNamed
      · by_cases this : other = otk
        · subst this
          exact ⟨log, now, [], rfl, .inr ⟨by simp, by simp, List.mem_append_right _ (by simp),
            by simp⟩⟩
        · have apart : passName other ≠ passName otk := fun same => this (passName_inj same)
          have was : d.admits (passName other) = true := by
            rw [← admitted.admits _ apart]
            exact admits
          refine (holds.accounted other was).later fun issued after honored => .inr ?_
          refine ⟨?_, ?_, List.mem_append_left _ honored.listed, ?_⟩
          · simpa using honored.unused
          · simpa using honored.early
          · show _ → _ ∈ (d.authorizeClient (passName otk) pub).saved.passes
            rw [admitted.saved]
            simpa using honored.kept
    · simpa [Door.issuePass, valid] using holds

/-- Writing the state file keeps what is listed then. -/
theorem save (holds : PassesAccounted d log) : PassesAccounted d.save (log ++ [.saved]) where
  named := holds.named
  savedNamed := holds.named
  accounted otk admitted := (holds.accounted otk admitted).later fun now after honored => .inr
    { unused := by simpa using honored.unused
      early := by simpa using honored.early
      listed := honored.listed
      kept := fun _ => honored.listed }

/-- A restart forgets the passes that the state file does not list. -/
theorem restart (holds : PassesAccounted d log) (platform : Node.Platform)
    (minted : String → Option (String × Bytes)) (now : Nat) :
    PassesAccounted (d.restart platform minted now) (log ++ [.restarted]) := by
  unfold Door.restart
  refine of_beside ?_ (Door.restoreClientKeys_beside "" _ minted now) fun otk => ?_
  · refine ⟨holds.savedNamed, holds.savedNamed, fun otk admitted => ?_⟩
    refine (holds.accounted otk admitted).later fun issued after honored => ?_
    by_cases written : .saved ∈ after
    · right
      exact
        { unused := by simpa using honored.unused
          early := by simpa using honored.early
          listed := honored.kept written
          kept := fun _ => honored.kept written }
    · exact .inl ⟨after, [], rfl, written⟩
  · exact ne_passName (by decide) otk

/-- A `Hello` is accounted for by the one-time key it used. -/
theorem hello (holds : PassesAccounted d log) (fromAddress : Option String) (contact address : String)
    (message : WireOlm X.OlmMessage) (inputs : Node.PairingInputs) (now : Nat) :
    PassesAccounted (d.receiveHello fromAddress contact address message inputs now)
      (log ++ ((d.opensWith contact message).map PassMark.used).toList) := by
  cases readable : message.toOlm with
  | none =>
    rw [Door.receiveHello_refused fun olm found => by simp [readable] at found]
    simpa [Door.opensWith, readable] using holds
  | some olm =>
    by_cases accepted : isKeyText contact = true
        ∧ (X.acceptInbound d.node.account contact olm).isSome = true
    · obtain ⟨⟨account, session, plaintext⟩, opening⟩ := Option.isSome_iff_exists.mp accepted.2
      have beside := Door.receiveHello_beside readable accepted.1 opening fromAddress address
        inputs now (.inl rfl)
      have key : d.opensWith contact message = X.oneTimeKey olm := by
        simp [Door.opensWith, readable, accepted.1, accepted.2]
      rw [key]
      refine of_beside ?_ beside (ne_passName accepted.1)
      cases X.oneTimeKey olm with
      | none => simpa [Door.given] using holds
      | some otk => exact holds.spend otk
    · rw [Door.receiveHello_refused fun other found named => ?_]
      · have key : d.opensWith contact message = none := by
          unfold Door.opensWith
          simp only [readable]
          rw [if_neg (by simpa using accepted)]
        rw [key]
        simpa using holds
      · rw [readable] at found
        cases found
        simpa [named] using accepted

/-- Every event is accounted for by its marks. -/
theorem meet (holds : PassesAccounted d log) (event : PassEvent X) :
    PassesAccounted (d.meet event) (log ++ d.marks event) := by
  cases event with
  | issue otk minted now => exact holds.issue otk minted now
  | hello fromAddress contact address message inputs now =>
    exact holds.hello fromAddress contact address message inputs now
  | spend otk => exact holds.spend otk
  | expire now => exact holds.expire now
  | save => exact holds.save
  | restart platform minted now => exact holds.restart platform minted now

/-- And so is every run of events. -/
theorem run (events : List (PassEvent X)) (holds : PassesAccounted d log) :
    PassesAccounted (d.run events).1 (log ++ (d.run events).2) := by
  induction events generalizing d log with
  | nil => simpa [Door.run] using holds
  | cons event rest ih =>
    have later := ih (holds.meet event)
    rwa [List.append_assoc] at later

end PassesAccounted

namespace PassEvent

/-- Whether an event may spend a pass. -/
def spends : PassEvent X → Bool
  | .hello _ _ _ _ _ _ | .spend _ => true
  | .issue _ _ _ | .expire _ | .save | .restart _ _ _ => false

end PassEvent

namespace Door

/-- Spending a pass leaves every other invite's as it is. -/
theorem spendPass_spares {d : Door X} (named : ∀ p ∈ d.passes, p.name = passName p.otk)
    {spent otk : String} (apart : otk ≠ spent) :
    (d.spendPass spent).admits (passName otk) = d.admits (passName otk) := by
  rw [Bool.eq_iff_iff, spendPass, admits_retirePasses]
  refine ⟨fun admitted => admitted.1, fun admitted => ⟨admitted, fun p listed this same => ?_⟩⟩
  rw [named p listed] at same
  simp only [decide_eq_true_eq] at this
  exact apart ((passName_inj same).symm.trans this)

/-- A `Hello` admits and refuses no pass but the one whose invite it used. -/
theorem meet_spares {d : Door X} (named : ∀ p ∈ d.passes, p.name = passName p.otk)
    {event : PassEvent X} (spends : event.spends = true) {otk : String}
    (unused : .used otk ∉ d.marks event) :
    (d.meet event).admits (passName otk) = d.admits (passName otk) := by
  cases event with
  | issue | expire | save | restart => cases spends
  | spend spent =>
    refine spendPass_spares named fun same => unused ?_
    rw [same]
    exact List.mem_singleton_self _
  | hello fromAddress contact address message inputs now =>
    cases readable : message.toOlm with
    | none =>
      show (d.receiveHello fromAddress contact address message inputs now).admits _ = _
      rw [receiveHello_refused fun olm found => by simp [readable] at found]
    | some olm =>
      by_cases accepted : isKeyText contact = true
          ∧ (X.acceptInbound d.node.account contact olm).isSome = true
      · obtain ⟨⟨account, session, plaintext⟩, opening⟩ := Option.isSome_iff_exists.mp accepted.2
        have beside := receiveHello_beside readable accepted.1 opening fromAddress address inputs now
          (.inl rfl)
        refine (beside.admits _ (ne_passName accepted.1 otk)).trans ?_
        cases key : X.oneTimeKey olm with
        | none => rfl
        | some spent =>
          refine spendPass_spares named fun same => unused ?_
          simp [marks, opensWith, readable, accepted.1, accepted.2, key, same]
      · show (d.receiveHello fromAddress contact address message inputs now).admits _ = _
        rw [receiveHello_refused fun other found named' => ?_]
        rw [readable] at found
        cases found
        simpa [named'] using accepted

/-- In every run, a pass is admitted only from its issue until a `Hello` has used its invite's one-time
key or a sweep has come at least a day after the issue, and is listed all that time, unless a restart
resumed from a state file of before its issue; and spending a pass revokes no other invite's. -/
theorem passes_admit (node : Node X) (events : List (PassEvent X)) :
    (∀ otk, ((setUp node).run events).1.admits (passName otk) = true →
        ∃ before now after, ((setUp node).run events).2 = before ++ .issued otk now :: after
          ∧ (Forgot after ∨ (.used otk ∉ after
            ∧ (∀ time, .swept time ∈ after → time < now + PASS_TTL_SECS)
            ∧ ⟨passName otk, otk, now + PASS_TTL_SECS⟩ ∈ ((setUp node).run events).1.passes)))
      ∧ ∀ event otk, event.spends = true → .used otk ∉ ((setUp node).run events).1.marks event →
          (((setUp node).run events).1.meet event).admits (passName otk)
            = ((setUp node).run events).1.admits (passName otk) := by
  have holds := (PassesAccounted.setUp node).run events
  rw [List.nil_append] at holds
  refine ⟨fun otk admitted => ?_, fun event otk spends unused => meet_spares holds.named spends unused⟩
  obtain ⟨before, now, after, split, state⟩ := holds.accounted otk admitted
  exact ⟨before, now, after, split, state.imp id fun honored =>
    ⟨honored.unused, honored.early, honored.listed⟩⟩

/-- A pass is admitted two days after its issue if no sweep came by, and one issued after the state
file was last written is admitted after a restart that no longer lists it. -/
theorem pass_overstays :
    let issue : PassEvent symbolic := .issue "invite" (some ("".pushn 'k' 52, [])) 0
    let late := (setUp Symbolic.device).run
      [issue, .hello none "them" "" (.malformed 0 "") {} (2 * PASS_TTL_SECS)]
    let restarted := (setUp Symbolic.device).run
      [issue, .restart { identityKey := "me", address := "me.onion" } (fun _ => none) 1]
    late.1.admits (passName "invite") = true
      ∧ restarted.1.admits (passName "invite") = true ∧ restarted.1.passes = [] := by
  decide +kernel

end Door

end Nightdrop
