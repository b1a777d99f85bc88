import Nightdrop.Lib.Text

/-! Pluggable-transport arguments: the escaped list of a bridge line, and how a Tor client hands it over. -/

namespace Nightdrop

/-- The parsed argument list for one bridge, in the order it was sent. -/
abbrev PtArgs := List (String × String)

/-- Why an argument list is not accepted. -/
inductive ArgsError where
  /-- The argument list is not UTF-8. -/
  | notUtf8
  /-- The argument list ends in a lone backslash. -/
  | loneBackslash
  /-- An argument has no equals sign. -/
  | noValue (key : String)
  /-- An argument with an empty key. -/
  | emptyKey
  deriving DecidableEq

namespace PtArgs

/-- The argument read so far, once it ends. -/
def finish (key value : List Char) (inValue : Bool) : Except ArgsError (String × String) :=
  if !inValue then .error (.noValue (String.ofList key))
  else if key = [] then .error .emptyKey
  else .ok (String.ofList key, String.ofList value)

/-- The parser's loop: the pairs so far, the argument being read, and whether its value has begun. -/
def parse.loop (pairs : PtArgs) (key value : List Char) (inValue : Bool) : List Char → Except ArgsError PtArgs
  | [] => (finish key value inValue).map fun pair => pairs ++ [pair]
  | c :: rest =>
    if c = '\\' then
      match rest with
      | [] => .error .loneBackslash
      | escaped :: rest =>
        if inValue then loop pairs key (value ++ [escaped]) inValue rest
        else loop pairs (key ++ [escaped]) value inValue rest
    else if c = '=' ∧ !inValue then loop pairs key value true rest
    else if c = ';' then
      match finish key value inValue with
      | .error e => .error e
      | .ok pair => loop (pairs ++ [pair]) [] [] false rest
    else if inValue then loop pairs key (value ++ [c]) inValue rest
    else loop pairs (key ++ [c]) value inValue rest

/-- An escaped list, parsed. -/
def parse (s : String) : Except ArgsError PtArgs :=
  if s = "" then .ok [] else parse.loop [] [] [] false s.toList

/-- The argument list of a SOCKS5 username and password. -/
def fromSocksAuth (username password : Bytes) : Except ArgsError PtArgs :=
  match fromUtf8 (if password ≠ [0] then username ++ password else username) with
  | none => .error .notUtf8
  | some s => parse s

/-- A key or a value, escaped. -/
def esc (inKey : Bool) (s : List Char) : List Char :=
  s.flatMap fun c => if c = '\\' ∨ c = ';' ∨ (inKey ∧ c = '=') then ['\\', c] else [c]

/-- One argument in the escaped form. -/
def encodePair (pair : String × String) : List Char := esc true pair.1.toList ++ '=' :: esc false pair.2.toList

/-- The characters of the escaped form. -/
def encodeChars : PtArgs → List Char
  | [] => []
  | pair :: rest => encodePair pair ++ rest.flatMap fun pair => ';' :: encodePair pair

/-- The escaped form. -/
def encode (args : PtArgs) : String := String.ofList (encodeChars args)

/-- How a Tor client sends an encoded list: what is beyond 255 bytes is the password, or one zero byte if nothing is. -/
def socksAuth (encoded : Bytes) : Bytes × Bytes :=
  (encoded.take 255, if encoded.length ≤ 255 then [0] else encoded.drop 255)

/-- Whether what an encoded list leaves for the password is just the mark for nothing. -/
def LooksUnsplit (encoded : Bytes) : Prop := encoded.drop 255 = [0]

end PtArgs
end Nightdrop
