import Nightdrop.Proofs.Relay.Run
import Nightdrop.Relay.Fleet

/-! Laws of the client calls: each hands over exactly what the relays drained on its behalf. -/

namespace Nightdrop.Relay

/-- The blobs of drained entries. -/
def bytesOf (parcels : List Parcel) : List Bytes := parcels.map (fun parcel => parcel.2.2.bytes)

@[simp] theorem bytesOf_nil : bytesOf [] = [] := rfl

@[simp] theorem bytesOf_append (left right : List Parcel) :
    bytesOf (left ++ right) = bytesOf left ++ bytesOf right := by
  simp [bytesOf]

/-- A reply that keeps its mail: it carries all that was drained for it, or nothing was. -/
def Answers (b64 : Base64) (query : Query) (got : List Parcel) (reply : Reply)
    (got' : List Parcel) : Prop :=
  ∃ parcels, got' = got ++ parcels ∧
    match reply with
    | none => parcels = []
    | some response => Carries b64 query.req (parcels.map (fun parcel => parcel.2.2)) response
      ∧ (response.ok = false → parcels = [])

/-- A call's result accounts for what was drained since `got`: blobs, or an error and nothing. -/
def Gains (got : List Parcel) (before : List Bytes) (got' : List Parcel)
    (result : Except ClientError (List Bytes)) : Prop :=
  ∃ parcels, got' = got ++ parcels ∧ before ++ bytesOf parcels = result.toOption.getD []

variable {b64 : Base64}

/-- A lawful codec decodes every blob an answer carries. -/
theorem decodeAll_encode (lawful : ∀ bytes, b64.decode (b64.encode bytes) = some bytes)
    (parcels : List Parcel) :
    decodeAll b64 (parcels.map (fun parcel => b64.encode parcel.2.2.bytes))
      = .ok (bytesOf parcels) := by
  induction parcels with
  | nil => rfl
  | cons parcel rest ih =>
    simp only [List.map_cons, decodeAll, lawful, ih]
    rfl

/-- What follows a round trip is judged for every reply that keeps its mail. -/
theorem roundTrip_meets {A : Type} {addr : Addr} {req : Request} {rest : Reply → Client A}
    {post : List Parcel → A → Prop} {got : List Parcel}
    (each : ∀ reply got', Answers b64 ⟨addr, req⟩ got reply got' →
      (rest reply).Meets (Answers b64) post got') :
    (roundTrip addr req >>= rest).Meets (Answers b64) post got := each

/-- A take hands over what it drained, or fails and drained nothing. -/
theorem take_meets (lawful : ∀ bytes, b64.decode (b64.encode bytes) = some bytes) (addr : Addr)
    (handle : Handle) (got : List Parcel) :
    (take b64 addr handle).Meets (Answers b64) (Gains got []) got := by
  refine roundTrip_meets ?_
  rintro reply got' ⟨parcels, rfl, carried⟩
  cases reply with
  | none => exact ⟨parcels, rfl, by simp [carried, Except.toOption]⟩
  | some response =>
    obtain ⟨⟨blobs, _⟩, refused⟩ := carried
    cases ok : response.ok with
    | false => simp [ok, Gains, Except.toOption, refused ok]
    | true => simp [ok, blobs, Gains, Except.toOption, Function.comp_def, decodeAll_encode lawful]

/-- The fallback loop hands over what its takes drained; it fails only when none answered. -/
theorem takeEachLoop_meets (lawful : ∀ bytes, b64.decode (b64.encode bytes) = some bytes)
    (addr : Addr) (handles : List Handle) :
    ∀ (out : List Bytes) (answered : Bool) (lastErr : Option ClientError) (got : List Parcel),
      (answered = false → out = []) →
      (takeEachLoop b64 addr handles out answered lastErr).Meets (Answers b64) (Gains got out)
        got := by
  induction handles with
  | nil =>
    intro out answered lastErr got silent
    cases answered with
    | true => simp [takeEachLoop, Gains, Except.toOption]
    | false =>
      cases lastErr with
      | none => simp [takeEachLoop, Gains, Except.toOption]
      | some e => simp [takeEachLoop, Gains, Except.toOption, silent rfl]
  | cons handle rest ih =>
    intro out answered lastErr got silent
    refine (take_meets lawful addr handle got).bind ?_
    rintro got' result ⟨parcels, rfl, gained⟩
    cases result with
    | ok blobs =>
      obtain rfl : bytesOf parcels = blobs := by simpa [Except.toOption] using gained
      refine (ih (out ++ bytesOf parcels) true lastErr (got ++ parcels) (by simp)).mono ?_
      rintro last result ⟨more, rfl, total⟩
      exact ⟨parcels ++ more, by simp, by simpa using total⟩
    | error e =>
      have nothing : parcels = [] := by simpa [Except.toOption, bytesOf] using gained
      subst nothing
      simpa using ih out answered (some e) got silent

theorem takeEach_meets (lawful : ∀ bytes, b64.decode (b64.encode bytes) = some bytes)
    (addr : Addr) (handles : List Handle) (got : List Parcel) :
    (takeEach b64 addr handles).Meets (Answers b64) (Gains got []) got :=
  takeEachLoop_meets lawful addr handles [] _ none got (fun _ => rfl)

/-- A take of several handles hands over what it drained, or fails and drained nothing. -/
theorem takeMany_meets (lawful : ∀ bytes, b64.decode (b64.encode bytes) = some bytes)
    (addr : Addr) (handles : List Handle) (got : List Parcel) :
    (takeMany b64 addr handles).Meets (Answers b64) (Gains got []) got := by
  by_cases single : (handles.length ≤ 1 || handles.length > MAX_TAKE_MANY) = true
  · simpa [takeMany, single] using takeEach_meets lawful addr handles got
  simp only [takeMany, single]
  refine roundTrip_meets ?_
  rintro reply got' ⟨parcels, rfl, carried⟩
  cases reply with
  | none => exact ⟨parcels, rfl, by simp [carried, Except.toOption]⟩
  | some response =>
    obtain ⟨⟨blobs, _⟩, refused⟩ := carried
    cases ok : response.ok with
    | false =>
      -- A refusal drained nothing, whether or not the fallback follows.
      obtain rfl := refused ok
      by_cases older : response.error.any (fun e => e.startsWith "bad request") = true
      · simpa [ok, older] using takeEach_meets lawful addr handles got
      · simp [ok, older, Gains, Except.toOption]
    | true => simp [ok, blobs, Gains, Except.toOption, Function.comp_def, decodeAll_encode lawful]

/-- A fetch hands over what it drained, or fails and drained nothing. -/
theorem fetch_meets (lawful : ∀ bytes, b64.decode (b64.encode bytes) = some bytes) (addr : Addr)
    (handle : Handle) (got : List Parcel) :
    (fetch b64 addr handle).Meets (Answers b64)
      (fun got' result => Gains got [] got' (result.map (·.map Prod.snd))) got := by
  refine roundTrip_meets ?_
  rintro reply got' ⟨parcels, rfl, carried⟩
  cases reply with
  | none => exact ⟨parcels, rfl, by simp [carried, Except.toOption, Except.map]⟩
  | some response =>
    obtain ⟨⟨items, _⟩, refused⟩ := carried
    cases ok : response.ok with
    | false => simp [ok, Gains, Except.toOption, Except.map, refused ok]
    | true =>
      simp [ok, items, Gains, Except.toOption, Except.map, Function.comp_def,
        decodeAll_encode lawful, List.map_snd_zip, bytesOf]

/-- A drain round gathers what its fragments drained, whichever of them failed. -/
theorem drainJobs_meets (lawful : ∀ bytes, b64.decode (b64.encode bytes) = some bytes)
    (settles : Option Nat) (jobs : List DrainJob) :
    ∀ (round : DrainRound) (got : List Parcel),
      (drainJobs b64 settles jobs round).Meets (Answers b64)
        (fun got' last => ∃ parcels, got' = got ++ parcels
          ∧ last.blobs = round.blobs ++ bytesOf parcels) got := by
  induction jobs with
  | nil => exact fun round got => ⟨[], by simp, by simp⟩
  | cons job rest ih =>
    intro round got
    simp only [drainJobs]
    split
    · exact (ih _ got).mono (fun _ _ gained => gained)
    · refine (takeMany_meets lawful job.addr job.handles got).bind ?_
      rintro got' result ⟨parcels, rfl, gained⟩
      cases result with
      | ok taken =>
        obtain rfl : bytesOf parcels = taken := by simpa [Except.toOption] using gained
        refine (ih _ (got ++ parcels)).mono ?_
        rintro last result ⟨more, rfl, total⟩
        exact ⟨parcels ++ more, by simp, by simpa using total⟩
      | error e =>
        have nothing : parcels = [] := by simpa [Except.toOption, bytesOf] using gained
        subst nothing
        rw [List.append_nil]
        exact (ih _ got).mono (fun _ _ gained => gained)

/-- A poll's harvest is what the relays drained for it. -/
theorem drainRelayMailboxes_meets
    (lawful : ∀ bytes, b64.decode (b64.encode bytes) = some bytes) (plan : RelayDrainPlan) :
    (drainRelayMailboxes b64 plan).Meets (Answers b64)
      (fun got harvest => bytesOf got = harvest.blobs) [] := by
  refine (drainJobs_meets lawful plan.settles plan.jobs _ []).bind ?_
  rintro got last ⟨parcels, rfl, gathered⟩
  simpa using gathered.symm

/-- Every drain hands over exactly what was drained for it; one that fails drained nothing. -/
theorem call_meets (lawful : ∀ bytes, b64.decode (b64.encode bytes) = some bytes) (drain : Drain) :
    (drain.call b64).Meets (Answers b64)
      (fun got result => bytesOf got = result.toOption.getD []) [] := by
  have whole : ∀ got result, Gains [] [] got result → bytesOf got = result.toOption.getD [] := by
    rintro got result ⟨parcels, rfl, gained⟩
    simpa using gained
  cases drain with
  | fetch addr handle =>
    exact (fetch_meets lawful addr handle []).bind (fun got result gained => whole got _ gained)
  | take addr handle => exact (take_meets lawful addr handle []).mono whole
  | takeMany addr handles => exact (takeMany_meets lawful addr handles []).mono whole
  | round plan =>
    exact (drainRelayMailboxes_meets lawful plan).bind
      (fun got harvest gathered => by simpa [Except.toOption] using gathered)

end Nightdrop.Relay
