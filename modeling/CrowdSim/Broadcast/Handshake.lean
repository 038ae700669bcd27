import CrowdSim.Http.Head

/-!
# The viewer handshake

A viewer opens its stream with an HTTP/1.1 request asking to switch to the WebSocket protocol
(RFC 6455). The server first reads the request head (`Http.readHead`), allowing at most one
`Host` header, and applies the framing rules (`Http.frame`). It then refuses, in this order:

1. a version other than 1.x (505), except the HTTP/2 preface `PRI * HTTP/2.0`;
2. a request from version 1.1 on without `Host`, unless it is `CONNECT` or the preface;
3. a `Host` value holding a byte that no host name or address may hold;
4. a header name that is not a token;
5. an `Expect` header other than one listing `100-continue` (417, with an empty body).

`OPTIONS *` is answered with an empty 200. Every other request is checked for the upgrade, the
first failure deciding the reply:

1. the `Connection` header lists the token `upgrade`;
2. the `Upgrade` header lists the token `websocket`;
3. the method is `GET` (otherwise 405);
4. the `Sec-WebSocket-Version` header lists `13`;
5. the first `Sec-WebSocket-Key` value is the base64 text of sixteen bytes.

Tokens compare without regard to ASCII case; a header may appear on several lines, and any of
them may list the token. A refusal carries the status text as its body and announces version 13.
An accepted upgrade is answered with 101, unless bytes follow the head: then the server closes
the connection without a reply.

A head that does not read is answered with a bare 400, a truncated one too, unless it runs past
the server's limit of a mebibyte and 4096 bytes (431); a transfer coding the server does not
know is answered with 501. A connection that ends before its first byte gets no reply.
-/

namespace CrowdSim

/-- The reply to a request: status code, body, and the `Sec-WebSocket-Version` header, empty when
the reply has none. -/
structure HttpReply where
  status : Nat
  body : String
  versionHeader : String
  deriving Inhabited

namespace Handshake

open Http

/-- A reply of the server itself, with the status line as body and a reason when there is one. -/
def serverReply (status : Nat) (text why : String) : HttpReply :=
  let line := toString status ++ " " ++ text
  ⟨status, if why.isEmpty then line else line ++ ": " ++ why, ""⟩

/-- A request the server cannot read, with the reason when it gives one. -/
def badRequest (why : String) : HttpReply := serverReply 400 "Bad Request" why

/-- The most bytes the server reads for a head. -/
def headLimit : Nat := 1048576 + 4096

/-- The reply to a head that cannot be read; nothing when the connection closed at once. -/
def unreadable (tooLong : Bool) : HeadError → Option HttpReply
  | .closed => none
  | .truncated =>
    some (if tooLong then serverReply 431 "Request Header Fields Too Large" "" else badRequest "")
  | .malformed => some (badRequest "")
  | .unsupportedEncoding => some ⟨501, "Unsupported transfer encoding", ""⟩

/-! ## Tokens and values -/

/-- A byte allowed in a `Host` value. -/
def isHostHeaderByte (b : UInt8) : Bool :=
  isDigit b || isLetter b || (bytesOf "!$%&()*+,-.:;=[]_~").contains b || b.toNat == 39

/-- A byte that ends a token inside a header value. -/
def isBoundary (b : UInt8) : Bool := b.toNat == 32 || b.toNat == 44 || b.toNat == 9

/-- The token stands at the front of the bytes or later, as a whole word: after the start or
a boundary (`prev` is the byte before), and before the end or a boundary. -/
def tokenFrom (token : Bytes) (prev : Option UInt8) : Bytes → Bool
  | [] => false
  | b :: rest =>
    let word := (b :: rest).take token.length
    let after := (b :: rest).drop token.length
    ((prev.map isBoundary).getD true && word.length == token.length &&
        (after.head?.map isBoundary).getD true && sameFold word token) ||
      tokenFrom token (some b) rest

/-- The value holds the token as a whole word, compared without regard to ASCII case. -/
def hasToken (v token : Bytes) : Bool := !token.isEmpty && (v == token || tokenFrom token none v)

/-- The comma-separated token list of one header value contains the token; reading stops at the
first item that is not a token followed by a comma or the end. -/
def listHas (token : Bytes) (fuel : Nat) (cs : Bytes) : Bool :=
  match fuel with
  | 0 => false
  | fuel + 1 =>
    let cs := cs.dropWhile isBlank
    let t := cs.takeWhile isTokenByte
    let rest := (cs.dropWhile isTokenByte).dropWhile isBlank
    if t.isEmpty then false
    else match rest with
      | [] => sameFold t token
      | c :: more =>
        if c == byte ',' then sameFold t token || listHas token fuel more else false

/-- Some value of the header lists the token. -/
def headerHas (r : Request) (name token : String) : Bool :=
  (r.values name).any fun v => listHas (bytesOf token) (v.length + 1) v

/-- A base64 digit of the standard alphabet. -/
def isBase64Digit (b : UInt8) : Bool := isDigit b || isLetter b || b == byte '+' || b == byte '/'

/-- The value is the padded base64 form of sixteen bytes: twenty-two digits and two `=`. -/
def isKey (v : Bytes) : Bool :=
  v.length == 24 && (v.take 22).all isBase64Digit && v.drop 22 == bytesOf "=="

/-! ## Replies -/

/-- A refusal of the upgrade with the status text as body. -/
def refuse (status : Nat) : HttpReply :=
  let text := if status == 405 then "Method Not Allowed" else "Bad Request"
  ⟨status, text ++ "\n", "13"⟩

/-- The reply of the upgrade checks; nothing when the server closes the connection. -/
def upgrade (r : Request) : Option HttpReply :=
  if !headerHas r "Connection" "upgrade" then some (refuse 400)
  else if !headerHas r "Upgrade" "websocket" then some (refuse 400)
  else if r.method != "GET" then some (refuse 405)
  else if !headerHas r "Sec-Websocket-Version" "13" then some (refuse 400)
  else if !isKey (r.first "Sec-Websocket-Key") then some (refuse 400)
  else if r.rest.isEmpty then some ⟨101, "", ""⟩
  else none

/-- The version is at least 1.1. -/
def atLeastEleven (v : Nat × Nat) : Bool := v.1 > 1 || (v.1 == 1 && v.2 ≥ 1)

/-- The checks of a head that reads, then the upgrade. -/
def serve (r : Request) : Option HttpReply :=
  let star := r.target == bytesOf "*"
  let preface := r.method == "PRI" && star && r.protocol == bytesOf "HTTP/2.0"
  let hosts := r.values "Host"
  if !(r.version.1 == 1 || (r.version == (2, 0) && r.method == "PRI" && star)) then
    some (serverReply 505 "HTTP Version Not Supported" "unsupported protocol version")
  else if atLeastEleven r.version && hosts.isEmpty && !(preface && r.fields.isEmpty) &&
      r.method != "CONNECT" then
    some (badRequest "missing required Host header")
  else if (hosts.head?.map fun h => !h.all isHostHeaderByte).getD false then
    some (badRequest "malformed Host header")
  else if r.fields.any fun f => !(bytesOf f.1).all isTokenByte then
    some (badRequest "invalid header name")
  else
    let expect := r.first "Expect"
    if !hasToken expect (bytesOf "100-continue") && !expect.isEmpty then some ⟨417, "", ""⟩
    else if r.method == "OPTIONS" && star then some ⟨200, "", ""⟩
    else upgrade (r.drop "Host")

/-- Reads a head: the request line and headers, at most one `Host`, and the framing rules. -/
def read (bs : Bytes) : Except HeadError Request := do
  let r ← readHead bs
  if (r.values "Host").length > 1 then .error .malformed
  else frame r

/-- The reply to a request text; nothing when the server closes the connection without one. -/
def answer (text : String) : Option HttpReply :=
  let bs := Utf8.encode text
  let window := bs.take headLimit
  match read window with
  | .error e => unreadable (bs.length ≥ headLimit) e
  | .ok r => serve { r with rest := bs.drop (window.length - r.rest.length) }

end Handshake

end CrowdSim
