import Nightdrop.Moat.Meek

/-! A meek session keeps both streams whole as long as no attempt is retried that the reflector had taken. -/

namespace Nightdrop
namespace Moat

/-- An attempt without a trace changes nothing at the reflector. -/
theorem take_of_traceless {up : Bytes} {a : Attempt} (traceless : a.Traceless up) (r : Reflector) :
    r.take up a = r := by
  cases a with
  | unsent => rfl
  | unheard handed =>
    obtain ⟨rfl, rfl⟩ := traceless
    simp [Reflector.take]
  | answered bytes =>
    obtain ⟨rfl, rfl⟩ := traceless
    simp [Reflector.take]
  | closed =>
    cases traceless
    simp [Reflector.take]

/-- What a successful attempt does at the reflector is what the client is told. -/
theorem take_of_success {a : Attempt} {down : Down} (success : tryOnce a = some down) (up : Bytes)
    (r : Reflector) : r.take up a = ⟨r.upstream ++ up, r.handed ++ down.bytes⟩ := by
  cases a with
  | unsent => cases success
  | unheard handed => cases success
  | answered bytes =>
    simp only [tryOnce] at success
    split at success
    · cases success
      rfl
    · cases success
  | closed =>
    cases success
    simp [Reflector.take, Down.bytes]

/-- The attempts of a clean call reach the reflector once, or the call is an error. -/
theorem loop_reaches_once {c : Call} (clean : c.Clean) {left i : Nat} (count : i + left = MAX_ATTEMPTS)
    (failing : ∀ j, j < i → tryOnce (c.attempts j) = none) (m : FrontedMeek) (r : Reflector) {down : Down}
    (success : (roundTrip.loop c.up c.attempts left i m r).2.2 = some down) :
    (roundTrip.loop c.up c.attempts left i m r).2.1 = ⟨r.upstream ++ c.up, r.handed ++ down.bytes⟩ := by
  induction left generalizing i m r with
  | zero => cases success
  | succ left ih =>
    unfold roundTrip.loop at success ⊢
    cases tried : tryOnce (c.attempts i) with
    -- The loop stops at the first success, and no attempt before it left a trace.
    | some got =>
      simp only [tried, Option.some.injEq] at success ⊢
      subst success
      exact take_of_success tried c.up r
    | none =>
      simp only [tried] at success ⊢
      have failing' : ∀ j, j < i + 1 → tryOnce (c.attempts j) = none := by
        intro j before
        by_cases last : j = i
        · rw [last, tried]
        · exact failing j (by omega)
      cases left with
      | zero => cases success
      | succ left =>
        -- A retry follows, so this attempt left no trace.
        have traceless := clean i (by omega) fun j upto => failing' j (by omega)
        rw [take_of_traceless traceless] at success ⊢
        exact ih (by omega) failing' m.moveOn r success

/-- A clean call keeps an intact session intact. -/
theorem Tunnel.Intact.call {t : Tunnel} (intact : t.Intact) {c : Call} (clean : c.Clean) : (t.call c).Intact := by
  by_cases over' : t.failed = true
  · rw [Tunnel.call, if_pos over']
    exact intact
  · obtain ⟨upstream, returned⟩ := intact (by simpa using over')
    have reached := fun down => @loop_reaches_once c clean MAX_ATTEMPTS 0 (by omega) (by omega) t.meek t.reflector down
    rw [Tunnel.call, if_neg over', roundTrip]
    -- An error fails the session, of which nothing is asked any more.
    by_cases long : c.up.length > MAX_PAYLOAD
    · rw [if_pos long]
      intro alive
      cases alive
    · rw [if_neg long]
      generalize roundTrip.loop c.up c.attempts MAX_ATTEMPTS 0 t.meek t.reflector = out at reached
      obtain ⟨meek, reflector, result⟩ := out
      cases result with
      | none =>
        intro alive
        cases alive
      | some down =>
        have once := reached down rfl
        simp only at once
        subst once
        exact fun _ => ⟨by rw [upstream], by rw [returned]⟩

/-- A call whose first attempt does not get through and whose second is answered. -/
def secondFront : Call := ⟨[1, 2], fun i => if i = 0 then .unsent else .answered [3]⟩

end Moat
end Nightdrop
