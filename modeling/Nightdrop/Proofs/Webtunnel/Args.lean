import Nightdrop.Lib.Utf8
import Nightdrop.Webtunnel.Args

/-! An encoded argument list is parsed back, also in two parts unless the second looks like none. -/

namespace Nightdrop
namespace PtArgs

variable {pairs : PtArgs} {key value : List Char}

/-- An escaped key is read as the key. -/
theorem loop_key (k rest : List Char) :
    parse.loop pairs key value false (esc true k ++ rest) = parse.loop pairs (key ++ k) value false rest := by
  induction k generalizing key with
  | nil => simp [esc]
  | cons c more ih =>
    have next := @ih (key ++ [c])
    rw [List.append_assoc, List.singleton_append] at next
    rw [← next]
    by_cases special : c = '\\' ∨ c = ';' ∨ c = '='
    · simp [esc, special, parse.loop]
    · have plain := special
      simp only [not_or] at plain
      have step (tail : List Char) : parse.loop pairs key value false (c :: tail)
          = parse.loop pairs (key ++ [c]) value false tail := by
        rw [parse.loop.eq_def]
        simp [plain]
      simp [esc, special, step]

/-- An escaped value is read as the value. -/
theorem loop_value (v rest : List Char) :
    parse.loop pairs key value true (esc false v ++ rest) = parse.loop pairs key (value ++ v) true rest := by
  induction v generalizing value with
  | nil => simp [esc]
  | cons c more ih =>
    have next := @ih (value ++ [c])
    rw [List.append_assoc, List.singleton_append] at next
    rw [← next]
    by_cases special : c = '\\' ∨ c = ';'
    · simp [esc, special, parse.loop]
    · have plain := special
      simp only [not_or] at plain
      have step (tail : List Char) : parse.loop pairs key value true (c :: tail)
          = parse.loop pairs key (value ++ [c]) true tail := by
        rw [parse.loop.eq_def]
        simp [plain]
      simp [esc, special, step]

/-- An encoded argument is read up to its end. -/
theorem loop_pair (pair : String × String) (rest : List Char) :
    parse.loop pairs [] [] false (encodePair pair ++ rest)
      = parse.loop pairs pair.1.toList pair.2.toList true rest := by
  have equals : parse.loop pairs pair.1.toList [] false ('=' :: (esc false pair.2.toList ++ rest))
      = parse.loop pairs pair.1.toList [] true (esc false pair.2.toList ++ rest) := by
    rw [parse.loop.eq_def]
    simp
  rw [encodePair, List.append_assoc, List.cons_append, loop_key, List.nil_append, equals, loop_value,
    List.nil_append]

/-- An argument with a key ends as itself. -/
theorem finish_pair {pair : String × String} (named : pair.1 ≠ "") :
    finish pair.1.toList pair.2.toList true = .ok pair := by
  have filled : pair.1.toList ≠ [] := by simpa using named
  simp [finish, filled]

/-- Behind an argument, the rest of an encoded list is read as the rest of the list. -/
theorem loop_rest {pair : String × String} (named : pair.1 ≠ "") (rest : PtArgs)
    (named' : ∀ p ∈ rest, p.1 ≠ "") :
    parse.loop pairs pair.1.toList pair.2.toList true (rest.flatMap fun p => ';' :: encodePair p)
      = .ok (pairs ++ pair :: rest) := by
  induction rest generalizing pairs pair with
  | nil =>
    rw [List.flatMap_nil, parse.loop, finish_pair named]
    rfl
  | cons next more ih =>
    have semicolon (tail : List Char) : parse.loop pairs pair.1.toList pair.2.toList true (';' :: tail)
        = parse.loop (pairs ++ [pair]) [] [] false tail := by
      rw [parse.loop.eq_def]
      simp [finish_pair named]
    rw [List.flatMap_cons, List.cons_append, semicolon, loop_pair,
      ih (named' next (.head _)) fun p among => named' p (.tail _ among)]
    simp

/-- Parsing an encoded list gives the list. -/
theorem parse_encode (named : ∀ p ∈ pairs, p.1 ≠ "") : parse (encode pairs) = .ok pairs := by
  cases pairs with
  | nil => rfl
  | cons pair rest =>
    have filled : encode (pair :: rest) ≠ "" := by
      intro empty
      have none' := congrArg String.toList empty
      simp [encode, encodeChars, encodePair] at none'
    have read := @loop_pair [] pair (rest.flatMap fun p => ';' :: encodePair p)
    rw [loop_rest (named pair (.head _)) rest fun p among => named p (.tail _ among), List.nil_append] at read
    rw [parse, if_neg filled, encode, String.toList_ofList]
    exact read

/-- The parser only accepts arguments with a key. -/
theorem loop_named {inValue : Bool} {text : List Char} {read : PtArgs}
    (done : parse.loop pairs key value inValue text = .ok read) (named : ∀ p ∈ pairs, p.1 ≠ "") :
    ∀ p ∈ read, p.1 ≠ "" := by
  have ends {key value : List Char} {inValue : Bool} {pair : String × String}
      (ended : finish key value inValue = .ok pair) : pair.1 ≠ "" := by
    unfold finish at ended
    split at ended
    · cases ended
    · split at ended
      · cases ended
      · rename_i filled
        cases ended
        simpa using filled
  have more {key value : List Char} {inValue : Bool} {pairs : PtArgs} {pair : String × String}
      (named : ∀ p ∈ pairs, p.1 ≠ "") (ended : finish key value inValue = .ok pair) :
      ∀ p ∈ pairs ++ [pair], p.1 ≠ "" := by
    intro p among
    rcases List.mem_append.mp among with before | last
    · exact named p before
    · rw [List.mem_singleton.mp last]
      exact ends ended
  fun_induction parse.loop pairs key value inValue text with
  | case1 pairs key value inValue =>
    cases ended : finish key value inValue with
    | error e =>
      rw [ended] at done
      cases done
    | ok pair =>
      rw [ended] at done
      cases done
      exact more named ended
  | case2 => cases done
  | case3 =>
    rename_i ih
    exact ih done named
  | case4 =>
    rename_i ih
    exact ih done named
  | case5 =>
    rename_i ih
    exact ih done named
  | case6 => cases done
  | case7 =>
    rename_i ended _ _ ih
    exact ih done (more named ended)
  | case8 =>
    rename_i ih
    exact ih done named
  | case9 =>
    rename_i ih
    exact ih done named

/-- One more plain character changes what is read. -/
theorem loop_longer {inValue : Bool} {text : List Char} {c : Char} (plain : c ≠ '\\' ∧ c ≠ ';') {read : PtArgs}
    (done : parse.loop pairs key value inValue text = .ok read) :
    parse.loop pairs key value inValue (text ++ [c]) ≠ .ok read := by
  fun_induction parse.loop pairs key value inValue text with
  | case1 pairs key value inValue =>
    -- The text ends inside the last value, which the character goes on.
    cases inValue with
    | false => cases done
    | true =>
      by_cases empty : key = []
      · rw [empty] at done
        cases done
      · have step : parse.loop pairs key value true [c] = parse.loop pairs key (value ++ [c]) true [] := by
          rw [parse.loop.eq_def]
          simp [plain]
        intro again
        rw [List.nil_append, step, parse.loop] at again
        simp only [finish, empty, Bool.not_true, Bool.false_eq_true, if_false, Except.map, Except.ok.injEq] at done again
        rw [← done] at again
        have same := List.append_cancel_left again
        simp only [List.cons.injEq, Prod.mk.injEq, and_true, true_and, String.ofList_inj] at same
        have size := congrArg List.length same
        simp at size
  | case2 => cases done
  | case3 =>
    rename_i ih
    intro again
    rw [List.cons_append, List.cons_append, parse.loop.eq_def] at again
    exact ih done (by simpa using again)
  | case4 =>
    rename_i off ih
    intro again
    rw [List.cons_append, List.cons_append, parse.loop.eq_def] at again
    exact ih done (by simpa [off] using again)
  | case5 =>
    rename_i other equals ih
    intro again
    rw [List.cons_append, parse.loop.eq_def] at again
    exact ih done (by simpa [other, equals] using again)
  | case6 => cases done
  | case7 =>
    rename_i ended _ _ ih
    intro again
    rw [List.cons_append, parse.loop.eq_def] at again
    exact ih done (by simpa [ended] using again)
  | case8 =>
    rename_i other noEnd equals ih
    intro again
    rw [List.cons_append, parse.loop.eq_def] at again
    exact ih done (by simpa [other, noEnd] using again)
  | case9 =>
    rename_i escaped rest other equals noEnd off ih
    have noEquals : ¬ escaped = '=' := fun wrong => equals ⟨wrong, by simpa using off⟩
    intro again
    rw [List.cons_append, parse.loop.eq_def] at again
    exact ih done (by simpa [other, noEnd, noEquals, off] using again)

/-- A zero byte behind a list that is accepted changes what is read. -/
theorem parse_longer {s : String} {read : PtArgs} (filled : s ≠ "") (done : parse s = .ok read) :
    parse (s ++ "\x00") ≠ .ok read := by
  rw [parse, if_neg filled] at done
  have filled' : s ++ "\x00" ≠ "" := by simp
  rw [parse, if_neg filled', String.toList_append]
  exact loop_longer (by decide) done

/-- In two parts a list is parsed back exactly if the second part does not look like none. -/
theorem fromSocksAuth_encode (named : ∀ p ∈ pairs, p.1 ≠ "") :
    fromSocksAuth (socksAuth (utf8 (encode pairs))).1 (socksAuth (utf8 (encode pairs))).2 = .ok pairs
      ↔ ¬ LooksUnsplit (utf8 (encode pairs)) := by
  have back := parse_encode named
  unfold LooksUnsplit
  by_cases short : (utf8 (encode pairs)).length ≤ 255
  · have none' : (utf8 (encode pairs)).drop 255 = [] := List.drop_of_length_le short
    have parts : socksAuth (utf8 (encode pairs)) = (utf8 (encode pairs), [0]) := by
      rw [socksAuth, if_pos short, List.take_of_length_le short]
    have marked : ¬ ([0] : Bytes) ≠ [0] := by simp
    rw [parts, none', fromSocksAuth, if_neg marked, fromUtf8_utf8]
    simp [back]
  · have second : (socksAuth (utf8 (encode pairs))).2 = (utf8 (encode pairs)).drop 255 := by
      rw [socksAuth, if_neg short]
    unfold fromSocksAuth
    rw [second]
    by_cases looks : (utf8 (encode pairs)).drop 255 = [0]
    · rw [if_neg (by simpa using looks)]
      constructor
      · intro read
        exfalso
        have whole := List.take_append_drop 255 (utf8 (encode pairs))
        rw [looks] at whole
        change (socksAuth (utf8 (encode pairs))).1 ++ [0] = _ at whole
        cases text : fromUtf8 (socksAuth (utf8 (encode pairs))).1 with
        | none => simp [text] at read
        | some s =>
          simp only [text] at read
          have zero : utf8 "\x00" = [0] := by decide +kernel
          have joined : encode pairs = s ++ "\x00" := by
            rw [← utf8_inj, utf8_append, zero, utf8_of_fromUtf8 text, whole]
          have filled : s ≠ "" := by
            rintro rfl
            rw [joined] at short
            exact short (by decide +kernel)
          exact parse_longer filled read (joined ▸ back)
      · intro other
        exact absurd looks other
    · have first : (socksAuth (utf8 (encode pairs))).1 = (utf8 (encode pairs)).take 255 := by rfl
      rw [if_pos looks, first, List.take_append_drop, fromUtf8_utf8]
      simp [back, looks]

/-- An encoded list is parsed back, in two parts unless the second looks like none, and so is all that is accepted. -/
theorem args_round_trip (named : ∀ p ∈ pairs, p.1 ≠ "") :
    parse (encode pairs) = .ok pairs
      ∧ (fromSocksAuth (socksAuth (utf8 (encode pairs))).1 (socksAuth (utf8 (encode pairs))).2 = .ok pairs
        ↔ ¬ LooksUnsplit (utf8 (encode pairs)))
      ∧ ∀ s read, parse s = .ok read → parse (encode read) = .ok read := by
  refine ⟨parse_encode named, fromSocksAuth_encode named, fun s read accepted => parse_encode ?_⟩
  unfold parse at accepted
  split at accepted
  · cases accepted
    simp
  · exact loop_named accepted (by simp)

/-- A list with every escaped character, parsed back. -/
theorem bridge_line_round_trip :
    parse (encode [("url", "https://h/p?x=1;y"), ("we\\ird=", "v")]) = .ok [("url", "https://h/p?x=1;y"), ("we\\ird=", "v")] :=
  (args_round_trip (by decide +kernel)).1

/-- A value whose last byte is zero, the 256th of the list, is cut. -/
theorem zero_byte_is_cut : ¬ ∀ pairs : PtArgs, (∀ p ∈ pairs, p.1 ≠ "") →
    fromSocksAuth (socksAuth (utf8 (encode pairs))).1 (socksAuth (utf8 (encode pairs))).2 = .ok pairs := by
  intro same
  have plain (n : Nat) : esc false (List.replicate n 'p') = List.replicate n 'p' := by
    induction n with
    | zero => rfl
    | succ n ih =>
      unfold esc at ih ⊢
      rw [List.replicate_succ, List.flatMap_cons, ih]
      rfl
  have looks (n : Nat) (size : n = 253) (pair : String × String)
      (value : pair = ("k", String.ofList (List.replicate n 'p' ++ ['\x00']))) : LooksUnsplit (utf8 (encode [pair])) := by
    have text : encode [pair] = String.ofList ('k' :: '=' :: List.replicate n 'p') ++ "\x00" := by
      have chars : encodeChars [pair] = 'k' :: '=' :: (esc false (List.replicate n 'p') ++ ['\x00']) := by
        have parts : esc false (List.replicate n 'p' ++ ['\x00']) = esc false (List.replicate n 'p') ++ ['\x00'] :=
          List.flatMap_append
        rw [value, encodeChars, encodePair]
        simp only [String.toList_ofList, parts, List.flatMap_nil, List.append_nil]
        rfl
      rw [encode, chars, plain, ← List.cons_append, ← List.cons_append, String.ofList_append]
    have narrow : ∀ c ∈ 'k' :: '=' :: List.replicate n 'p', c.utf8Size = 1 := by
      intro c among
      simp only [List.mem_cons, List.mem_replicate] at among
      rcases among with rfl | rfl | ⟨-, rfl⟩ <;> decide
    have length : (utf8 (String.ofList ('k' :: '=' :: List.replicate n 'p'))).length = 255 := by
      rw [length_utf8, utf8ByteSize_ofList_of_narrow narrow, List.length_cons, List.length_cons, List.length_replicate,
        size]
    rw [LooksUnsplit, text, utf8_append, List.drop_left' length]
    decide +kernel
  have named : ∀ p ∈ [("k", String.ofList (List.replicate 253 'p' ++ ['\x00']))], p.1 ≠ "" := by
    intro p among
    rw [List.mem_singleton.mp among]
    decide
  exact (fromSocksAuth_encode named).mp (same _ named) (looks 253 rfl _ rfl)

end PtArgs
end Nightdrop
