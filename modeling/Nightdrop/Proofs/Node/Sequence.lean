import Nightdrop.Node.Sequence
import Nightdrop.Node.Symbolic
import Nightdrop.Lib.Utf8
import Nightdrop.Proofs.Node.Sweep

/-! The last announcement by number is what is recorded, as long as the allowance admits every new one. -/

namespace Nightdrop

variable {X : Externals}

/-- A number's digits say no other number. -/
theorem parseDecimal_repr_inj {max n m : Nat} (read : parseDecimal max n.repr = some m) : m = n := by
  have wide : parseDecimal (max + n) n.repr = some n := parseDecimal_repr (by omega)
  unfold parseDecimal at read wide
  simp only at read wide
  generalize (if n.repr.toList.head? = some '+' then n.repr.toList.tail else n.repr.toList) = digits at read wide
  split at read
  · rename_i fits
    rw [if_pos ⟨fits.1, fits.2.1, by omega⟩] at wide
    cases read
    exact (Option.some.inj wide)
  · cases read

/-- No digit is a colon. -/
theorem colon_notMem_repr (n : Nat) : ':' ∉ n.repr.toList := by
  intro among
  rw [Nat.toList_repr] at among
  exact absurd (Nat.isDigit_of_mem_toDigits (by decide) (by decide) among) (by decide)

/-- A capture-block announcement is read as it was written. -/
theorem readBlock_blockBody {blocked on : Bool} {n seq : Nat} (read : readBlock (blockBody blocked n) = some (on, seq)) :
    on = blocked ∧ seq = n := by
  have text : blockBody blocked n = utf8 ((if blocked then "1" else "0") ++ ":" ++ n.repr) := by
    rw [utf8_append, utf8_append]
    rfl
  unfold readBlock at read
  rw [text, fromUtf8_utf8] at read
  have chars : ((if blocked then "1" else "0") ++ ":" ++ n.repr).toList
      = (if blocked then '1' else '0') :: ':' :: n.repr.toList := by
    rw [String.toList_append, String.toList_append]
    cases blocked <;> rfl
  simp only [Option.bind_eq_bind, Option.bind_some, chars] at read
  have value : ((if blocked then '1' else '0') :: ':' :: n.repr.toList).takeWhile (· ≠ ':')
      = [if blocked then '1' else '0'] := by
    cases blocked <;> simp
  rw [value] at read
  simp only [List.length_singleton, List.mem_cons, true_or, or_true, if_true, List.drop_succ_cons, List.drop_zero,
    String.ofList_toList] at read
  obtain ⟨m, parsed, same⟩ := Option.bind_eq_some_iff.mp read
  have number := parseDecimal_repr_inj parsed
  cases same
  refine ⟨?_, number⟩
  cases blocked <;> decide

/-- A nearby announcement is read with the number it was written with. -/
theorem parseBody_nearbyBody {chat : Chat X} {address : Option SocketAddr} {peer : PeerNearby}
    (read : parseBody (chat.nearbyBody address) = some peer) : peer.seq = chat.nearbySeq := by
  obtain ⟨more, body⟩ : ∃ more : String, chat.nearbyBody address = utf8 (chat.nearbySeq.repr ++ (":" ++ more)) := by
    unfold Chat.nearbyBody
    split
    · exact ⟨"0", by rw [utf8_append]; rfl⟩
    · exact ⟨"1", by rw [utf8_append]; rfl⟩
    · rename_i _ _ token listens _
      refine ⟨"1:" ++ (listens.ip.a.toNat.repr ++ "." ++ listens.ip.b.toNat.repr ++ "." ++ listens.ip.c.toNat.repr ++ "."
        ++ listens.ip.d.toNat.repr) ++ ":" ++ listens.port.toNat.repr ++ ":" ++ token, ?_⟩
      have mark : utf8 ":1:" = utf8 ":" ++ utf8 "1:" := by decide +kernel
      simp only [utf8_append, mark, List.append_assoc, decimal, Ipv4.text]
  unfold parseBody at read
  simp only [Option.bind_eq_bind, Option.bind_eq_some_iff] at read
  obtain ⟨text, valid, seq, number, read⟩ := read
  rw [body, fromUtf8_utf8, Option.some.injEq] at valid
  -- The text begins with the number and a colon.
  have parts : text.toList.splitOn ':' = chat.nearbySeq.repr.toList :: more.toList.splitOn ':' := by
    have chars : text.toList = chat.nearbySeq.repr.toList ++ ':' :: more.toList := by
      rw [← valid, String.toList_append, String.toList_append]
      rfl
    rw [chars, List.splitOn_eq_splitOnP, List.splitOn_eq_splitOnP]
    apply List.splitOnP_append_cons_of_forall_mem
    · intro c among
      rw [beq_eq_false_iff_ne]
      rintro rfl
      exact colon_notMem_repr _ among
    · rfl
  rw [parts, List.headD_cons, String.ofList_toList] at number
  rw [parts, List.tail_cons] at read
  have same := parseDecimal_repr_inj number
  have kept : peer.seq = seq := by
    split at read
    · cases read
      rfl
    · cases read
      rfl
    · simp only [Option.bind_eq_some_iff] at read
      obtain ⟨ip, -, port, -, read⟩ := read
      split at read
      · cases read
        rfl
      · cases read
    · cases read
  rw [kept, same]

/-- The allowance changes nothing that a contact announced by number. -/
theorem withinAllowance_keeps (media now : Nat) : KeepsAnnounced fun chat : Chat X => (withinAllowance chat media now).1 := by
  intro chat
  simp only
  unfold withinAllowance
  split <;> exact ⟨rfl, rfl, rfl, rfl, rfl⟩

/-- A sign of life changes nothing that a contact announced by number, and no allowance. -/
theorem markAlive_keeps (now : Nat) : KeepsAnnounced fun chat : Chat X => chat.markAlive now := by
  intro chat
  unfold Chat.markAlive Chat.forgetUpgradeNotice
  simp only
  split <;> split <;> exact ⟨rfl, rfl, rfl, rfl, rfl⟩

/-- A sign of life leaves the allowance. -/
theorem markAlive_allowance (chat : Chat X) (now : Nat) : (chat.markAlive now).allowance = chat.allowance := by
  unfold Chat.markAlive Chat.forgetUpgradeNotice
  simp only
  split <;> split <;> rfl

/-- The allowance admits exactly what it says. -/
theorem withinAllowance_admits (chat : Chat X) (now : Nat) : (withinAllowance chat 0 now).2 = true ↔ Announcing.Admits chat now := by
  unfold withinAllowance Announcing.Admits
  split
  · rename_i allowance admitted
    simp [admitted]
  · rename_i allowance refused
    simp [refused]
  · rename_i allowance refused
    simp [refused]

/-- A capture-block announcement that is no newer changes nothing. -/
theorem hearBlock_old {chat : Chat X} {on : Bool} {seq now : Nat} (old : seq ≤ chat.peerBlockSeq) :
    (chat.hearBlock on seq now).1 = chat.markAlive now := by
  have number := (markAlive_keeps now chat).1
  unfold Chat.hearBlock
  simp only
  rw [if_pos (by rw [number]; exact old)]

/-- A newer one is recorded with its number, and its value if the allowance admits it. -/
theorem hearBlock_new {chat : Chat X} {on : Bool} {seq now : Nat} (newer : chat.peerBlockSeq < seq) :
    (chat.hearBlock on seq now).1.peerBlockSeq = seq
      ∧ ((chat.peerBlocksCapture ≠ some on → Announcing.Admits chat now)
        → (chat.hearBlock on seq now).1.peerBlocksCapture = some on) := by
  obtain ⟨number, value, -⟩ := markAlive_keeps now chat
  have allowance := markAlive_allowance chat now
  unfold Chat.hearBlock
  simp only at number value ⊢
  rw [if_neg (by rw [number]; omega)]
  by_cases same : chat.peerBlocksCapture = some on
  · rw [if_pos (value.trans same)]
    exact ⟨rfl, fun _ => value.trans same⟩
  · rw [if_neg (by rw [value]; exact same)]
    unfold Chat.counted
    simp only
    split
    · exact ⟨(withinAllowance_keeps 0 now _).1, fun _ => rfl⟩
    · rename_i refused
      refine ⟨(withinAllowance_keeps 0 now _).1, fun admitted => ?_⟩
      rw [withinAllowance_admits] at refused
      have admits := admitted same
      unfold Announcing.Admits at admits refused
      simp only [allowance] at refused
      exact absurd admits refused

/-- A capture-block announcement leaves what is recorded of nearby. -/
theorem hearBlock_nearby (chat : Chat X) (on : Bool) (seq now : Nat) :
    (chat.hearBlock on seq now).1.peerNearbySeq = chat.peerNearbySeq
      ∧ (chat.hearBlock on seq now).1.peerNearbyOn = chat.peerNearbyOn
      ∧ (chat.hearBlock on seq now).1.peerNearby = chat.peerNearby := by
  obtain ⟨-, -, number, on', listens⟩ := markAlive_keeps now chat
  unfold Chat.hearBlock
  simp only
  split
  · exact ⟨number, on', listens⟩
  · split
    · exact ⟨number, on', listens⟩
    · unfold Chat.counted
      simp only
      obtain ⟨-, -, number', on'', listens'⟩ := withinAllowance_keeps 0 now { chat.markAlive now with peerBlockSeq := seq }
      split
      · exact ⟨number'.trans number, on''.trans on', listens'.trans listens⟩
      · exact ⟨number'.trans number, on''.trans on', listens'.trans listens⟩

/-- A nearby announcement that is no newer changes nothing. -/
theorem hearNearby_old {chat : Chat X} {peer : PeerNearby} {now : Nat} (old : peer.seq ≤ chat.peerNearbySeq) :
    (chat.hearNearby peer now).1 = chat.markAlive now := by
  have number := (markAlive_keeps now chat).2.2.1
  unfold Chat.hearNearby
  simp only
  rw [if_pos (by rw [number]; exact old)]

/-- A newer one is recorded with its number, and what it says if the allowance admits it. -/
theorem hearNearby_new {chat : Chat X} {peer : PeerNearby} {now : Nat} (newer : chat.peerNearbySeq < peer.seq) :
    (chat.hearNearby peer now).1.peerNearbySeq = peer.seq
      ∧ ((¬ (chat.peerNearbyOn = peer.on ∧ chat.peerNearby = peer.listens) → Announcing.Admits chat now)
        → (chat.hearNearby peer now).1.peerNearbyOn = peer.on ∧ (chat.hearNearby peer now).1.peerNearby = peer.listens) := by
  obtain ⟨-, -, number, on, listens⟩ := markAlive_keeps now chat
  have allowance := markAlive_allowance chat now
  unfold Chat.hearNearby
  simp only at number on listens ⊢
  rw [if_neg (by rw [number]; omega)]
  by_cases same : chat.peerNearbyOn = peer.on ∧ chat.peerNearby = peer.listens
  · rw [if_pos ⟨on.trans same.1, listens.trans same.2⟩]
    exact ⟨rfl, fun _ => ⟨on.trans same.1, listens.trans same.2⟩⟩
  · rw [if_neg (by rw [on, listens]; exact same)]
    unfold Chat.counted
    simp only
    split
    · have kept : (withinAllowance { chat.markAlive now with peerNearbySeq := peer.seq } 0 now).1.peerNearbySeq = peer.seq :=
        (withinAllowance_keeps 0 now { chat.markAlive now with peerNearbySeq := peer.seq }).2.2.1
      refine ⟨Eq.trans ?_ kept, fun _ => ⟨rfl, rfl⟩⟩
      generalize (withinAllowance { chat.markAlive now with peerNearbySeq := peer.seq } 0 now).1 = admitted
      change (ite _ _ _ : Chat X).peerNearbySeq = _
      split
      · rfl
      · rfl
    · rename_i refused
      refine ⟨(withinAllowance_keeps 0 now _).2.2.1, fun admitted => ?_⟩
      rw [withinAllowance_admits] at refused
      have admits := admitted same
      unfold Announcing.Admits at admits refused
      simp only [allowance] at refused
      exact absurd admits refused

/-- A nearby announcement leaves what is recorded of the capture block. -/
theorem hearNearby_block (chat : Chat X) (peer : PeerNearby) (now : Nat) :
    (chat.hearNearby peer now).1.peerBlockSeq = chat.peerBlockSeq
      ∧ (chat.hearNearby peer now).1.peerBlocksCapture = chat.peerBlocksCapture := by
  obtain ⟨number, value, -⟩ := markAlive_keeps now chat
  unfold Chat.hearNearby
  simp only
  split
  · exact ⟨number, value⟩
  · split
    · exact ⟨number, value⟩
    · unfold Chat.counted
      simp only
      obtain ⟨number', value', -⟩ := withinAllowance_keeps 0 now { chat.markAlive now with peerNearbySeq := peer.seq }
      split
      · split <;> exact ⟨number'.trans number, value'.trans value⟩
      · exact ⟨number'.trans number, value'.trans value⟩


namespace Announcing

variable {us : String} {a : Announcing X}

variable (us) in
/-- What a run keeps: each number stands for one value, and what is recorded is the highest one heard. -/
structure Kept (a : Announcing X) : Prop where
  blocks : Numbered a.blocks a.sender.captureBlockSeq
    (blockBody (a.sender.captureBlock.getD false) a.sender.captureBlockSeq)
  blockSet : a.sender.captureBlock ≠ none → 0 < a.sender.captureBlockSeq
  blockBodies : ∀ f ∈ a.blocks, ∃ blocked, f.2 = blockBody blocked f.1
  nearby : ∃ seq body, Numbered a.bodies seq body
    ∧ ∀ chat, a.theirs us = some chat → chat.nearbySeq = seq ∧ chat.nearbyBody a.sender.nearbyAddress = body
  nearbyBodies : ∀ f ∈ a.bodies, ∃ (chat : Chat X) (address : Option SocketAddr),
    f.1 = chat.nearbySeq ∧ f.2 = chat.nearbyBody address
  fromBlocks : ∀ h ∈ a.heardBlocks, ∃ f ∈ a.blocks, readBlock f.2 = some (h.2, h.1)
  fromBodies : ∀ h ∈ a.heardNearby, ∃ f ∈ a.bodies, ∃ peer : PeerNearby,
    parseBody f.2 = some peer ∧ h = (peer.seq, peer.on, peer.listens)
  block : Settled a.heardBlocks a.chat.peerBlockSeq fun on => a.chat.peerBlocksCapture = some on
  heard : Settled a.heardNearby a.chat.peerNearbySeq fun said => a.chat.peerNearbyOn = said.1 ∧ a.chat.peerNearby = said.2

namespace Kept

/-- What was heard of one number was sent as one announcement. -/
theorem right (kept : Kept us a) : Right a where
  block := kept.block
  nearby := kept.heard
  blockApart f among g among' number := by
    obtain ⟨sent, within, read⟩ := kept.fromBlocks f among
    obtain ⟨sent', within', read'⟩ := kept.fromBlocks g among'
    obtain ⟨blocked, body⟩ := kept.blockBodies sent within
    obtain ⟨blocked', body'⟩ := kept.blockBodies sent' within'
    rw [body] at read
    rw [body'] at read'
    obtain ⟨-, first⟩ := readBlock_blockBody read
    obtain ⟨-, second⟩ := readBlock_blockBody read'
    have one := kept.blocks.apart sent within sent' within' (by omega)
    subst one
    rw [← body] at read
    rw [← body', read] at read'
    have same := Option.some.inj read'
    exact Prod.ext number (Prod.ext_iff.mp same).1
  nearbyApart f among g among' number := by
    obtain ⟨sent, within, peer, read, said⟩ := kept.fromBodies f among
    obtain ⟨sent', within', peer', read', said'⟩ := kept.fromBodies g among'
    obtain ⟨chat, address, seq, body⟩ := kept.nearbyBodies sent within
    obtain ⟨chat', address', seq', body'⟩ := kept.nearbyBodies sent' within'
    have first := parseBody_nearbyBody (body ▸ read)
    have second := parseBody_nearbyBody (body' ▸ read')
    have numbers : peer.seq = peer'.seq := by
      rw [said, said'] at number
      exact number
    obtain ⟨seqNow, now, numbered, -⟩ := kept.nearby
    have one := numbered.apart sent within sent' within' (by omega)
    subst one
    rw [read] at read'
    rw [said, said', Option.some.inj read']

/-- A change at the contact's that leaves what it announces of the capture block. -/
theorem sender (kept : Kept us a) {sender : Node X} (block : sender.captureBlock = a.sender.captureBlock)
    (seq : sender.captureBlockSeq = a.sender.captureBlockSeq)
    (nearby : ∃ seq body, Numbered a.bodies seq body
      ∧ ∀ chat, sender.chats.lookup us = some chat → chat.nearbySeq = seq ∧ chat.nearbyBody sender.nearbyAddress = body) :
    Kept us { a with sender := sender } where
  blocks := by
    simp only [block, seq]
    exact kept.blocks
  blockSet := by
    simp only [block, seq]
    exact kept.blockSet
  blockBodies := kept.blockBodies
  nearby := nearby
  nearbyBodies := kept.nearbyBodies
  fromBlocks := kept.fromBlocks
  fromBodies := kept.fromBodies
  block := kept.block
  heard := kept.heard

/-- The contact's user blocks captures, or allows them. -/
theorem setBlock (kept : Kept us a) (blocked : Bool) (nowMs : Nat) :
    Kept us { a with sender := a.sender.setCaptureBlock blocked nowMs } := by
  unfold Node.setCaptureBlock
  split
  · exact kept
  · have grows : a.sender.captureBlockSeq < max nowMs (a.sender.captureBlockSeq + 1) := by omega
    refine ⟨kept.blocks.change grows _, fun _ => by simp only; omega, kept.blockBodies, ?_, kept.nearbyBodies,
      kept.fromBlocks, kept.fromBodies, kept.block, kept.heard⟩
    obtain ⟨seq, body, numbered, now⟩ := kept.nearby
    refine ⟨seq, body, numbered, fun chat found => ?_⟩
    have found : (a.sender.mapChats fun chat => { chat with toldBlock := none }).chats.lookup us = some chat := found
    rw [Node.lookup_mapChats] at found
    obtain ⟨before, was, rfl⟩ := Option.map_eq_some_iff.mp found
    exact now before was

/-- The contact announces the capture block. -/
theorem sendBlock (kept : Kept us a) {blocked : Bool} (set : a.sender.captureBlock = some blocked) :
    Kept us { a with
      blocks := a.blocks ++ [(a.sender.captureBlockSeq, blockBody blocked a.sender.captureBlockSeq)] } := by
  have positive : 0 < a.sender.captureBlockSeq := kept.blockSet (by simp [set])
  have numbered := kept.blocks.send positive
  rw [set, Option.getD_some] at numbered
  refine ⟨?_, kept.blockSet, ?_, kept.nearby, kept.nearbyBodies, ?_, kept.fromBodies, kept.block, kept.heard⟩
  · simp only [set, Option.getD_some]
    exact numbered
  · intro f among
    rcases List.mem_append.mp among with before | last
    · exact kept.blockBodies f before
    · rw [List.mem_singleton.mp last]
      exact ⟨blocked, rfl⟩
  · intro h among
    obtain ⟨f, within, read⟩ := kept.fromBlocks h among
    exact ⟨f, List.mem_append_left _ within, read⟩

/-- Under a higher number the chat may announce anything. -/
theorem renumbered {sent : List (Nat × Bytes)} {seq : Nat} {body : Bytes} (numbered : Numbered sent seq body)
    {chat : Chat X} {address : Option SocketAddr} (grows : seq < chat.nearbySeq) :
    ∃ seq body, Numbered sent seq body
      ∧ ∀ chat', some chat = some chat' → chat'.nearbySeq = seq ∧ chat'.nearbyBody address = body := by
  refine ⟨chat.nearbySeq, chat.nearbyBody address, numbered.change grows _, fun chat' same => ?_⟩
  cases same
  exact ⟨rfl, rfl⟩

/-- The contact turns nearby on or off in a chat. -/
theorem switchNearby (kept : Kept us a) (who : String) (on : Bool) (fresh : String) (nowMs now : Nat) :
    Kept us { a with sender := (a.sender.switchNearby who on fresh nowMs now).getD a.sender } := by
  unfold Node.switchNearby
  split
  · exact kept
  · split
    · exact kept
    · split
      · exact kept
      · rw [Option.getD_some]
        refine kept.sender rfl rfl ?_
        obtain ⟨seq, body, numbered, announced⟩ := kept.nearby
        simp only [Node.lookup_modifyChat]
        by_cases ours : us = who
        · cases ours
          rename_i chat _ _ found
          rw [if_pos rfl, found, Option.map_some]
          refine renumbered numbered ?_
          have early := (announced chat found).1
          simp only [Chat.note]
          omega
        · rw [if_neg ours]
          exact ⟨seq, body, numbered, announced⟩

/-- The contact listens elsewhere. -/
theorem noteAddress (kept : Kept us a) (address : Option SocketAddr) (nowMs : Nat) :
    Kept us { a with sender := a.sender.noteNearbyAddress address nowMs } := by
  unfold Node.noteNearbyAddress
  split
  · exact kept
  · refine kept.sender rfl rfl ?_
    obtain ⟨seq, body, numbered, announced⟩ := kept.nearby
    simp only [Node.lookup_mapChats]
    cases found : a.sender.chats.lookup us with
    | none => exact ⟨seq, body, numbered, fun chat none' => by simp at none'⟩
    | some chat =>
      obtain ⟨early, said⟩ := announced chat found
      by_cases switched : chat.nearbyToken.isSome = true
      · rw [Option.map_some, if_pos switched]
        refine renumbered numbered ?_
        simp only
        omega
      · -- Where nearby is off, the body does not say where the contact listens.
        have off : chat.nearbyToken = none := by simpa using switched
        refine ⟨seq, body, numbered, fun chat' same => ?_⟩
        rw [Option.map_some, if_neg switched] at same
        cases same
        refine ⟨early, ?_⟩
        rw [← said]
        unfold Chat.nearbyBody
        simp only [off]

/-- The contact announces nearby. -/
theorem sendNearby (kept : Kept us a) {chat : Chat X} (found : a.theirs us = some chat) (set : chat.nearbySeq ≠ 0) :
    Kept us { a with bodies := a.bodies ++ [(chat.nearbySeq, chat.nearbyBody a.sender.nearbyAddress)] } := by
  obtain ⟨seq, body, numbered, now⟩ := kept.nearby
  obtain ⟨rfl, rfl⟩ := now chat found
  refine ⟨kept.blocks, kept.blockSet, kept.blockBodies, ⟨_, _, numbered.send (by omega), now⟩, ?_, kept.fromBlocks, ?_,
    kept.block, kept.heard⟩
  · intro f among
    rcases List.mem_append.mp among with before | last
    · exact kept.nearbyBodies f before
    · rw [List.mem_singleton.mp last]
      exact ⟨chat, a.sender.nearbyAddress, rfl, rfl⟩
  · intro h among
    obtain ⟨f, within, peer, read, said⟩ := kept.fromBodies h among
    exact ⟨f, List.mem_append_left _ within, peer, read, said⟩

/-- Whatever else happens in our chat leaves what was announced. -/
theorem others (kept : Kept us a) {change : Chat X → Chat X} (keeps : KeepsAnnounced change) :
    Kept us { a with chat := change a.chat } := by
  obtain ⟨blockSeq, block, nearbySeq, on, listens⟩ := keeps a.chat
  refine ⟨kept.blocks, kept.blockSet, kept.blockBodies, kept.nearby, kept.nearbyBodies, kept.fromBlocks, kept.fromBodies, ?_, ?_⟩
  · simp only [blockSeq, block]
    exact kept.block
  · simp only [nearbySeq, on, listens]
    exact kept.heard

/-- A capture-block announcement is processed, whenever it was sent. -/
theorem hearBlock (kept : Kept us a) {place now seq : Nat} {on : Bool}
    (read : (a.blocks[place]?.bind fun frame => readBlock frame.2) = some (on, seq))
    (admitted : a.Admitted (.hearBlock place now)) :
    Kept us { a with chat := (a.chat.hearBlock on seq now).1, heardBlocks := a.heardBlocks ++ [(seq, on)] } := by
  obtain ⟨frame, found, parsed⟩ := Option.bind_eq_some_iff.mp read
  have within : frame ∈ a.blocks := List.mem_of_getElem? found
  have positive : 0 < seq := by
    obtain ⟨blocked, body⟩ := kept.blockBodies frame within
    rw [body] at parsed
    rw [(readBlock_blockBody parsed).2]
    exact kept.blocks.positive frame within
  refine ⟨kept.blocks, kept.blockSet, kept.blockBodies, kept.nearby, kept.nearbyBodies, ?_, kept.fromBodies, ?_, ?_⟩
  · intro h among
    rcases List.mem_append.mp among with before | last
    · exact kept.fromBlocks h before
    · rw [List.mem_singleton.mp last]
      exact ⟨frame, within, parsed⟩
  · by_cases old : seq ≤ a.chat.peerBlockSeq
    · simp only [hearBlock_old old, (markAlive_keeps now a.chat).1, (markAlive_keeps now a.chat).2.1]
      exact kept.block.skip (f := (seq, on)) positive old
    · obtain ⟨number, value⟩ := @hearBlock_new X a.chat on seq now (Nat.lt_of_not_le old)
      have applied := value fun differs => admitted on seq read (Nat.lt_of_not_le old) differs
      simp only [number]
      exact kept.block.take (f := (seq, on)) (Nat.lt_of_not_le old) applied
  · obtain ⟨number, on', listens⟩ := hearBlock_nearby a.chat on seq now
    simp only [number, on', listens]
    exact kept.heard

/-- A nearby announcement is processed, whenever it was sent. -/
theorem hearNearby (kept : Kept us a) {place now : Nat} {peer : PeerNearby}
    (read : (a.bodies[place]?.bind fun frame => parseBody frame.2) = some peer)
    (admitted : a.Admitted (.hearNearby place now)) :
    Kept us { a with
      chat := (a.chat.hearNearby peer now).1
      heardNearby := a.heardNearby ++ [(peer.seq, peer.on, peer.listens)] } := by
  obtain ⟨frame, found, parsed⟩ := Option.bind_eq_some_iff.mp read
  have within : frame ∈ a.bodies := List.mem_of_getElem? found
  have positive : 0 < peer.seq := by
    obtain ⟨chat, address, number, body⟩ := kept.nearbyBodies frame within
    obtain ⟨seq, now', numbered, -⟩ := kept.nearby
    rw [body] at parsed
    rw [parseBody_nearbyBody parsed, ← number]
    exact numbered.positive frame within
  refine ⟨kept.blocks, kept.blockSet, kept.blockBodies, kept.nearby, kept.nearbyBodies, kept.fromBlocks, ?_, ?_, ?_⟩
  · intro h among
    rcases List.mem_append.mp among with before | last
    · exact kept.fromBodies h before
    · exact ⟨frame, within, peer, parsed, List.mem_singleton.mp last⟩
  · obtain ⟨number, value⟩ := hearNearby_block a.chat peer now
    simp only [number, value]
    exact kept.block
  · by_cases old : peer.seq ≤ a.chat.peerNearbySeq
    · obtain ⟨-, -, number, on, listens⟩ := markAlive_keeps now a.chat
      simp only [hearNearby_old old, number, on, listens]
      exact kept.heard.skip (f := (peer.seq, peer.on, peer.listens)) positive old
    · obtain ⟨number, value⟩ := @hearNearby_new X a.chat peer now (Nat.lt_of_not_le old)
      have applied := value fun differs => admitted peer read (Nat.lt_of_not_le old) differs
      simp only [number]
      exact kept.heard.take (f := (peer.seq, peer.on, peer.listens)) (Nat.lt_of_not_le old) applied

/-- One step keeps it, where what is processed is admitted. -/
theorem step (kept : Kept us a) (action : Action X) (admitted : a.Admitted action) : Kept us (a.step us action) := by
  cases action with
  | setBlock blocked nowMs => exact kept.setBlock blocked nowMs
  | sendBlock =>
    simp only [Announcing.step]
    split
    · exact kept
    · rename_i blocked set
      exact kept.sendBlock set
  | switchNearby who on fresh nowMs now => exact kept.switchNearby who on fresh nowMs now
  | noteAddress address nowMs => exact kept.noteAddress address nowMs
  | sendNearby =>
    simp only [Announcing.step]
    split
    · exact kept
    · rename_i chat found
      split
      · exact kept
      · rename_i set
        exact kept.sendNearby found set
  | hearBlock place now =>
    simp only [Announcing.step]
    split
    · exact kept
    · rename_i on seq read
      exact kept.hearBlock read admitted
  | hearNearby place now =>
    simp only [Announcing.step]
    split
    · exact kept
    · rename_i peer read
      exact kept.hearNearby read admitted
  | others change => exact kept.others change.2

/-- A run keeps it. -/
theorem run (kept : Kept us a) (actions : List (Action X)) (admitted : a.AllAdmitted us actions) :
    Kept us (a.run us actions) := by
  induction actions generalizing a with
  | nil => exact kept
  | cons action rest ih => exact ih (kept.step action admitted.1) admitted.2

end Kept

/-- A fresh device keeps it. -/
theorem Fresh.kept (fresh : Fresh a) : Kept us a where
  blocks := by
    rw [fresh.noBlocks]
    exact ⟨by simp, by simp, by simp, by simp⟩
  blockSet set := absurd fresh.unset set
  blockBodies f among := by
    rw [fresh.noBlocks] at among
    cases among
  nearby := by
    rw [fresh.noBodies]
    cases found : a.theirs us with
    | none => exact ⟨0, [], ⟨by simp, by simp, by simp, by simp⟩, fun chat none' => by cases none'⟩
    | some chat =>
      refine ⟨chat.nearbySeq, chat.nearbyBody a.sender.nearbyAddress, ⟨by simp, by simp, by simp, by simp⟩, fun chat' same => ?_⟩
      cases same
      exact ⟨rfl, rfl⟩
  nearbyBodies f among := by
    rw [fresh.noBodies] at among
    cases among
  fromBlocks h among := by
    rw [fresh.unheard.1] at among
    cases among
  fromBodies h among := by
    rw [fresh.unheard.2] at among
    cases among
  block := by
    rw [fresh.unheard.1, fresh.numbers.1]
    exact Settled.start _
  heard := by
    rw [fresh.unheard.2, fresh.numbers.2]
    exact Settled.start _

/-- Once what is processed is always admitted, the highest number heard says what is recorded, in any order of processing. -/
theorem announcements_settle (us : String) (a : Announcing X) (actions : List (Action X)) (fresh : Fresh a)
    (admitted : a.AllAdmitted us actions) : Right (a.run us actions) :=
  (fresh.kept.run actions admitted).right

/-- The contact's device before it announces anything, and our chat with them. -/
def first : Announcing symbolic where
  sender := Symbolic.device
  chat := Symbolic.chat

/-- The same with an allowance that is used up for the day. -/
def usedUp : Announcing symbolic where
  sender := Symbolic.device
  chat := { Symbolic.chat with allowance := { messages := MAX_MESSAGES_PER_DAY } }

/-- Two announcements processed the other way round leave what the second says. -/
theorem two_settle : Right (first.run "them" [.setBlock true 5, .sendBlock, .setBlock false 9, .sendBlock, .hearBlock 1 0, .hearBlock 0 0]) :=
  announcements_settle "them" first _ ⟨rfl, rfl, ⟨rfl, rfl⟩, ⟨rfl, rfl⟩, rfl⟩
    ⟨trivial, trivial, trivial, trivial, fun _ _ _ _ _ => by unfold Admits; decide +kernel, fun _ _ _ _ _ => by unfold Admits; decide +kernel, trivial⟩

/-- A change that the allowance refuses is recorded by its number and never applied. -/
theorem refused_change_is_lost : ¬ ∀ (us : String) (a : Announcing symbolic) (actions : List (Action symbolic)), Fresh a →
    Right (a.run us actions) := by
  intro all
  have right := all "them" usedUp [.setBlock true 5, .sendBlock, .hearBlock 0 0] ⟨rfl, rfl, ⟨rfl, rfl⟩, ⟨rfl, rfl⟩, rfl⟩
  have one : (usedUp.run "them" [.setBlock true 5, .sendBlock, .hearBlock 0 0]).heardBlocks = [(5, true)] := by decide +kernel
  have unset : (usedUp.run "them" [.setBlock true 5, .sendBlock, .hearBlock 0 0]).chat.peerBlocksCapture = none := by
    decide +kernel
  obtain ⟨f, among, -, held⟩ := right.block.highest (by rw [one]; decide)
  rw [unset] at held
  cases held

end Announcing
end Nightdrop
