import CrowdSim.Json.Value

/-!
# Reading JSON text

A recursive-descent reader of RFC 8259 JSON over the characters of the text. Each step consumes
at least one character, so the nesting depth is bounded by the length of the text, which is the
fuel of the reader. Escapes `\uXXXX` that form a surrogate pair join into one character; a lone
surrogate becomes U+FFFD, or, for a reader that refuses it (`refuseLone`), makes the text
malformed. Raw control characters inside strings are refused.

`Json.parsePrefix` reads the first value and returns the text after it, which is how a stream
reader takes one document and leaves what follows unread.
-/

namespace CrowdSim

namespace Json

/-- The characters JSON counts as blanks. -/
def isBlank (c : Char) : Bool := c == ' ' || c == '\t' || c == '\n' || c == '\r'

/-- The value of a hexadecimal digit. -/
def hexValue? (c : Char) : Option Nat :=
  if c.isDigit then some (c.toNat - 48)
  else if 'a' ≤ c && c ≤ 'f' then some (c.toNat - 87)
  else if 'A' ≤ c && c ≤ 'F' then some (c.toNat - 55)
  else none

/-- Four hexadecimal digits. -/
def hex4? : List Char → Option (Nat × List Char)
  | a :: b :: c :: d :: rest => do
    let a ← hexValue? a
    let b ← hexValue? b
    let c ← hexValue? c
    let d ← hexValue? d
    pure (((a * 16 + b) * 16 + c) * 16 + d, rest)
  | _ => none

/-- The body of a string after its opening quote, up to and past the closing quote. The
characters are collected in reverse. -/
def stringBody (refuseLone : Bool) (fuel : Nat) (acc : List Char) (cs : List Char) :
    Except String (String × List Char) :=
  match fuel with
  | 0 => .error "string too long"
  | fuel + 1 =>
    match cs with
    | [] => .error "unterminated string"
    | '"' :: rest => .ok (String.ofList acc.reverse, rest)
    | '\\' :: esc :: rest =>
      match esc with
      | '"' => stringBody refuseLone fuel ('"' :: acc) rest
      | '\\' => stringBody refuseLone fuel ('\\' :: acc) rest
      | '/' => stringBody refuseLone fuel ('/' :: acc) rest
      | 'b' => stringBody refuseLone fuel ('\x08' :: acc) rest
      | 'f' => stringBody refuseLone fuel ('\x0c' :: acc) rest
      | 'n' => stringBody refuseLone fuel ('\n' :: acc) rest
      | 'r' => stringBody refuseLone fuel ('\r' :: acc) rest
      | 't' => stringBody refuseLone fuel ('\t' :: acc) rest
      | 'u' =>
        let lone (rest : List Char) : Except String (String × List Char) :=
          if refuseLone then .error "lone surrogate"
          else stringBody refuseLone fuel (Char.ofNat 0xFFFD :: acc) rest
        match hex4? rest with
        | none => .error "bad unicode escape"
        | some (u, rest) =>
          if 0xD800 ≤ u && u < 0xDC00 then
            match rest with
            | '\\' :: 'u' :: more =>
              match hex4? more with
              | some (l, more') =>
                if 0xDC00 ≤ l && l < 0xE000 then
                  let c := Char.ofNat (0x10000 + (u - 0xD800) * 0x400 + (l - 0xDC00))
                  stringBody refuseLone fuel (c :: acc) more'
                else lone rest
              | none => lone rest
            | _ => lone rest
          else if 0xDC00 ≤ u && u < 0xE000 then lone rest
          else stringBody refuseLone fuel (Char.ofNat u :: acc) rest
      | _ => .error "bad escape"
    | c :: rest =>
      if c.toNat < 32 then .error "control character in string"
      else stringBody refuseLone fuel (c :: acc) rest

/-- The characters of a number literal, by the JSON grammar's alphabet; the grammar itself is
checked by `Numeral.parse?`. -/
def numberSpan (cs : List Char) : List Char × List Char :=
  (cs.takeWhile fun c => c.isDigit || c == '-' || c == '+' || c == '.' || c == 'e' || c == 'E',
   cs.dropWhile fun c => c.isDigit || c == '-' || c == '+' || c == '.' || c == 'e' || c == 'E')

mutual

/-- One value after optional blanks, and the text after it. -/
def value (refuseLone : Bool) (fuel : Nat) (cs : List Char) : Except String (Json × List Char) :=
  match fuel with
  | 0 => .error "nesting too deep"
  | fuel + 1 =>
    match cs.dropWhile isBlank with
    | [] => .error "unexpected end of input"
    | 'n' :: 'u' :: 'l' :: 'l' :: rest => .ok (.null, rest)
    | 't' :: 'r' :: 'u' :: 'e' :: rest => .ok (.bool true, rest)
    | 'f' :: 'a' :: 'l' :: 's' :: 'e' :: rest => .ok (.bool false, rest)
    | '"' :: rest => do
      let (s, rest) ← stringBody refuseLone (rest.length + 1) [] rest
      pure (.str s, rest)
    | '[' :: rest =>
      match rest.dropWhile isBlank with
      | ']' :: rest' => .ok (.arr [], rest')
      | _ => do
        let (xs, rest) ← elements refuseLone fuel [] rest
        pure (.arr xs, rest)
    | '\x7b' :: rest =>
      match rest.dropWhile isBlank with
      | '\x7d' :: rest' => .ok (.obj [], rest')
      | _ => do
        let (ms, rest) ← members refuseLone fuel [] rest
        pure (.obj ms, rest)
    | c :: rest =>
      if c == '-' || c.isDigit then
        let (lit, rest') := numberSpan (c :: rest)
        let text := String.ofList lit
        match Numeral.parse? text with
        | some _ => .ok (.num text, rest')
        | none => .error "bad number"
      else .error "unexpected character"

/-- The items of an array after its opening bracket, collected in reverse. -/
def elements (refuseLone : Bool) (fuel : Nat) (acc : List Json) (cs : List Char) :
    Except String (List Json × List Char) :=
  match fuel with
  | 0 => .error "nesting too deep"
  | fuel + 1 => do
    let (x, rest) ← value refuseLone fuel cs
    match rest.dropWhile isBlank with
    | ',' :: rest' => elements refuseLone fuel (x :: acc) rest'
    | ']' :: rest' => pure ((x :: acc).reverse, rest')
    | _ => .error "expected , or ]"

/-- The members of an object after its opening brace, collected in reverse. -/
def members (refuseLone : Bool) (fuel : Nat) (acc : List (String × Json)) (cs : List Char) :
    Except String (List (String × Json) × List Char) :=
  match fuel with
  | 0 => .error "nesting too deep"
  | fuel + 1 =>
    match cs.dropWhile isBlank with
    | '"' :: rest => do
      let (k, rest) ← stringBody refuseLone (rest.length + 1) [] rest
      match rest.dropWhile isBlank with
      | ':' :: rest => do
        let (v, rest) ← value refuseLone fuel rest
        match rest.dropWhile isBlank with
        | ',' :: rest' => members refuseLone fuel ((k, v) :: acc) rest'
        | '\x7d' :: rest' => pure (((k, v) :: acc).reverse, rest')
        | _ => .error "expected , or closing brace"
      | _ => .error "expected :"
    | _ => .error "expected member name"

end

/-- The first value of a text and the text after it. -/
def parsePrefixWith (refuseLone : Bool) (s : String) : Except String (Json × List Char) :=
  let cs := s.toList
  value refuseLone (2 * cs.length + 2) cs

/-- The first value of a text and the text after it; lone surrogates become U+FFFD. -/
def parsePrefix (s : String) : Except String (Json × List Char) := parsePrefixWith false s

/-- A text holding exactly one value, with blanks around it. -/
def parseWith (refuseLone : Bool) (s : String) : Except String Json := do
  let (v, rest) ← parsePrefixWith refuseLone s
  if (rest.dropWhile isBlank).isEmpty then pure v else .error "trailing text"

/-- A text holding exactly one value, with blanks around it; lone surrogates become U+FFFD. -/
def parse (s : String) : Except String Json := parseWith false s

end Json

end CrowdSim
