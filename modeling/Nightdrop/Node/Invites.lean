import Nightdrop.Node.Mailbox

/-! Hosting a short-code invite: openers are answered off the lock, and counted back in by slot. -/

namespace Nightdrop

/-- How many distinct openers a short-code invite answers before it is retired. -/
def MAX_OPENERS_PER_INVITE : Nat := 3

/-- One short-code invite awaiting a joiner. -/
structure PendingInvite where
  slot : String
  secret : String
  /-- What the joiner is handed, sealed under the key that secret and opener agree on. -/
  payload : String
  /-- How long the sealed answer lives, in seconds. -/
  ttl : Nat
  /-- When we stop hosting it, in milliseconds of the running clock. -/
  expiry : Nat
  /-- The digests of the distinct openers answered so far. -/
  openers : List Bytes := []
  /-- Which staging it is of, for the properties to speak of; the code keeps no such number. -/
  staging : Nat
deriving DecidableEq, Repr

/-- One invite in the state file. -/
structure PersistedInvite where
  slot : String
  secret : String
  payload : String
  ttlSecs : Nat
  expiresUnix : Nat
  openers : List Bytes
  staging : Nat
deriving DecidableEq, Repr

/-- What a round of servicing found. -/
structure InviteServiceOutcome where
  /-- The distinct openers of each slot so far. -/
  openers : List (String × List Bytes)
  /-- The slots retired for exceeding the count. -/
  retired : List String
deriving DecidableEq, Repr

/-- How far a round is with one invite. -/
structure Guessing where
  /-- The digests counted against the invite. -/
  seen : List Bytes
  /-- The digests answered in this round. -/
  answered : List Bytes
  /-- The openers a response was built for. -/
  responses : List Bytes
deriving DecidableEq, Repr

section Service

variable (H : Hashes)
  -- Builds the response to an opener under a secret with a payload; none for a malformed one.
  (respond : String → String → Bytes → Option Bytes)

/-- Answers the openers one relay had; whether the invite is to be retired. -/
def answerOpeners (secret payload : String) : Guessing → List Bytes → Guessing × Bool
  | g, [] => (g, false)
  | g, opener :: rest =>
    let digest := H.sha256 opener
    if digest ∈ g.answered then answerOpeners secret payload g rest
    else if digest ∉ g.seen ∧ MAX_OPENERS_PER_INVITE ≤ g.seen.length then (g, true)
    else
      answerOpeners secret payload
        { seen := if digest ∈ g.seen then g.seen else g.seen ++ [digest]
          answered := g.answered ++ [digest]
          responses := if (respond secret payload opener).isSome then g.responses ++ [opener]
            else g.responses }
        rest

/-- Answers what each relay in turn had for an invite; a relay that fails is passed over. -/
def answerRelays (secret payload : String) : Guessing → List (Option (List Bytes)) → Guessing × Bool
  | g, [] => (g, false)
  | g, none :: rest => answerRelays secret payload g rest
  | g, some openers :: rest =>
    let (g, retire) := answerOpeners H respond secret payload g openers
    if retire then (g, true) else answerRelays secret payload g rest

/-- What a round does for one invite, given what the relays had in its mailbox. -/
def serveInvite (invite : PendingInvite) (takes : List (Option (List Bytes))) : Guessing × Bool :=
  answerRelays H respond invite.secret invite.payload
    { seen := invite.openers, answered := [], responses := [] } takes

/-- A round over the invites of a plan, and whom it answered for which staging. -/
def serviceInvites (plan : List PendingInvite) (takes : String → List (Option (List Bytes))) :
    InviteServiceOutcome × List (Nat × Bytes) :=
  let served := plan.map (fun invite => (invite, serveInvite H respond invite (takes invite.slot)))
  ({ openers := served.map (fun s => (s.1.slot, s.2.1.seen))
     retired := (served.filter (fun s => s.2.2)).map (fun s => s.1.slot) },
    served.flatMap (fun s => s.2.1.responses.map (fun opener => (s.1.staging, opener))))

end Service

/-- The first invite of a slot gets a new count. -/
def setOpeners (slot : String) (seen : List Bytes) : List PendingInvite → List PendingInvite
  | [] => []
  | p :: rest =>
    if p.slot = slot then { p with openers := seen } :: rest else p :: setOpeners slot seen rest

/-- Folds a round's outcome back in; an invite that vanished meanwhile is left alone. -/
def applyInviteService (invites : List PendingInvite) (outcome : InviteServiceOutcome) :
    List PendingInvite :=
  (outcome.openers.foldl (fun invites seen => setOpeners seen.1 seen.2 invites) invites).filter
    (fun p => p.slot ∉ outcome.retired)

/-- The invites a state file keeps: those with time left, in whole seconds of the wall clock. -/
def exportPendingInvites (invites : List PendingInvite) (now nowUnix : Nat) : List PersistedInvite :=
  (invites.filter (fun p => now < p.expiry)).map (fun p =>
    { slot := p.slot, secret := p.secret, payload := p.payload, ttlSecs := p.ttl
      expiresUnix := nowUnix + (p.expiry - now) / 1000, openers := p.openers, staging := p.staging })

/-- The invites a restart hosts again: those with time left, for no longer than they live. -/
def importPendingInvites (persisted : List PersistedInvite) (now nowUnix : Nat) :
    List PendingInvite :=
  persisted.filterMap (fun p =>
    let remaining := min (p.expiresUnix - nowUnix) p.ttlSecs
    if remaining = 0 then none
    else some
      { slot := p.slot, secret := p.secret, payload := p.payload, ttl := p.ttlSecs
        expiry := now + remaining * 1000, openers := p.openers, staging := p.staging })

/-- A round off the lock: its plan, or what it found. -/
inductive InviteRound where
  | planned (invites : List PendingInvite)
  | served (outcome : InviteServiceOutcome)
deriving DecidableEq, Repr

/-- A device that hosts short codes, with its rounds on the way and everything it ever answered. -/
structure Hosting where
  /-- The running clock, in milliseconds. -/
  now : Nat := 0
  invites : List PendingInvite := []
  rounds : List InviteRound := []
  /-- How many invites were staged. -/
  staged : Nat := 0
  /-- The openers answered, each with the staging whose secret answered it. -/
  responses : List (Nat × Bytes) := []
  /-- The invites in the state file. -/
  saved : List PersistedInvite := []
  /-- How many answers there were when a round was last folded back in. -/
  folded : Nat := 0
  /-- How many of them the state file knows of. -/
  written : Nat := 0
deriving DecidableEq, Repr

/-- What may happen to a hosted code. -/
inductive HostEvent where
  | stage (relays : Bool) (slot secret payload : String) (ttl : Nat)
  /-- A round begins under the lock. -/
  | plan (relays : Bool)
  /-- A round meets the relays: what each had for each slot. -/
  | serve (round : Nat) (takes : String → List (Option (List Bytes)))
  /-- A round's outcome is folded back in under the lock. -/
  | apply (round : Nat)
  /-- The state is exported at a reading of the wall clock. -/
  | save (nowUnix : Nat)
  /-- The state last exported is restored, at readings of the wall clock and the running one. -/
  | restart (nowUnix began : Nat)
  | wait (millis : Nat)

namespace Hosting

/-- Stages an invite, in the place of any other one for its slot. -/
def stageShortCodeInvite (w : Hosting) (slot secret payload : String) (ttl : Nat) : Hosting :=
  { w with
    invites := w.invites.filter (fun p => p.slot ≠ slot) ++
      [{ slot, secret, payload, ttl, expiry := w.now + ttl * 1000, staging := w.staged }]
    staged := w.staged + 1 }

/-- Drops the invites that ran out, and plans a round over the others, if there is one to plan. -/
def inviteServicePlan (w : Hosting) (relays : Bool) : Hosting :=
  let invites := w.invites.filter (fun p => w.now < p.expiry)
  if invites = [] ∨ relays = false then { w with invites := invites }
  else { w with invites := invites, rounds := w.rounds ++ [.planned invites] }

/-- One event. -/
def step (H : Hashes) (respond : String → String → Bytes → Option Bytes) (w : Hosting) :
    HostEvent → Hosting
  | .stage relays slot secret payload ttl =>
    if relays then w.stageShortCodeInvite slot secret payload ttl else w
  | .plan relays => w.inviteServicePlan relays
  | .serve round takes =>
    match w.rounds[round]? with
    | some (.planned invites) =>
      let served := serviceInvites H respond invites takes
      { w with
        rounds := w.rounds.set round (.served served.1)
        responses := w.responses ++ served.2 }
    | _ => w
  | .apply round =>
    match w.rounds[round]? with
    | some (.served outcome) =>
      { w with
        invites := applyInviteService w.invites outcome
        rounds := w.rounds.eraseIdx round
        folded := w.responses.length }
    | _ => w
  | .save nowUnix =>
    { w with saved := exportPendingInvites w.invites w.now nowUnix, written := w.folded }
  | .restart nowUnix began =>
    { w with now := began, invites := importPendingInvites w.saved began nowUnix, rounds := [] }
  | .wait millis => { w with now := w.now + millis }

end Hosting

end Nightdrop
