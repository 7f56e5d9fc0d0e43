import BalanceSheet.Decimal
import BalanceSheet.Text.Basic
import BalanceSheet.Text.Bytes
import BalanceSheet.Url.Basic

/-!
Requests and replies: what they are, and how they go over a connection.
-/

namespace BalanceSheet

/-! ### Requests and replies

A request that posts a text to an address, and the reply to it.
-/

structure HttpRequest where
  url : Url
  authorization : Option String
  body : String
  /-- How many seconds the reply may take. -/
  timeout : Nat
  deriving DecidableEq

structure HttpReply where
  status : Nat
  body : String
  deriving DecidableEq

namespace HttpReply

/-- Whether a reply settles its request: below two hundred it only announces another one, unless it
changes the protocol, and a code has three digits. -/
def isFinal (r : HttpReply) : Bool := r.status = 101 || (200 ≤ r.status && r.status < 1000)

/-- The text of a reply; some codes have none. -/
def content (r : HttpReply) : String := if [101, 204, 304].contains r.status then "" else r.body

end HttpReply

/-! ### Messages as bytes

A connection carries one message each way. A message is a head of lines, an empty line and a body. The body of a
reply is as long as its head tells, or comes in chunks that each tell their length, or goes on until the
connection ends.
-/

namespace Http

/-- The first line of a message, and the fields below it by their names in small letters. -/
structure Head where
  start : String
  fields : List (String × String)
  deriving DecidableEq

namespace Head

def field? (h : Head) (name : String) : Option String := h.fields.lookup name

/-- A name and a value with a colon between. -/
def fieldOfLine? (line : List Char) : Option (String × String) :=
  (Text.cut ':' line).map fun (name, value) =>
    (Text.lowerAscii (String.ofList name), Text.trim (String.ofList value))

def ofText (text : List Char) : Head :=
  match (text.splitOn '\n').map fun line => line.filter (· ≠ '\r') with
  | [] => ⟨"", []⟩
  | start :: lines => ⟨String.ofList start, lines.filterMap fieldOfLine?⟩

/-- A head with the empty line that ends it. -/
def text (h : Head) : String :=
  "\r\n".intercalate (h.start :: h.fields.map fun (name, value) => name ++ ": " ++ value) ++ "\r\n\r\n"

end Head

/-- How many line ends in a row have just been read; `next` is one more byte. -/
def lineEnds (count : Nat) (next : UInt8) : Nat :=
  if next = 10 then count + 1 else if next = 13 then count else 0

/-- The bytes before the first empty line and those after it, once that line is there. -/
def splitHead? (count : Nat) (read : List UInt8) : List UInt8 → Option (List UInt8 × List UInt8)
  | [] => none
  | b :: bs =>
    if lineEnds count b = 2 then some (read.reverse, bs) else splitHead? (lineEnds count b) (b :: read) bs

/-- The head of a message and the bytes after it. -/
def message? (bytes : List UInt8) : Option (Head × List UInt8) :=
  (splitHead? 0 [] bytes).map fun (head, rest) => (.ofText (Utf8.decode head), rest)

/-- How far reading of chunks has come. -/
inductive ChunkState where
  /-- In the length of a chunk. -/
  | length (n : Nat)
  /-- After the length, up to the end of its line. -/
  | extension (n : Nat)
  | data (missing : Nat)
  /-- After the data, up to the end of its line. -/
  | gap

namespace ChunkState

def ofLength (n : Nat) : ChunkState := if n = 0 then gap else data n

/-- Reads a byte, and tells whether it belongs to the body. -/
def step (state : ChunkState) (b : UInt8) : ChunkState × Bool :=
  match state with
  | length n =>
    if b = 10 then (ofLength n, false)
    else
      match Text.hexValue? (Char.ofNat b.toNat) with
      | some digit => (length (16 * n + digit), false)
      | none => (extension n, false)
  | extension n => if b = 10 then (ofLength n, false) else (extension n, false)
  | data (missing + 1) => (if missing = 0 then gap else data missing, true)
  | data 0 | gap => if b = 10 then (length 0, false) else (gap, false)

end ChunkState

/-- The body that chunks make up. -/
def unchunk (bytes : List UInt8) : List UInt8 :=
  let read (state : ChunkState × List UInt8) (b : UInt8) : ChunkState × List UInt8 :=
    let (next, belongs) := state.1.step b
    (next, if belongs then b :: state.2 else state.2)
  (bytes.foldl read (.length 0, [])).2.reverse

/-- The body of a reply, or nothing where it breaks off. -/
def body? (h : Head) (rest : List UInt8) : Option (List UInt8) :=
  if (h.field? "transfer-encoding").map Text.lowerAscii = some "chunked" then some (unchunk rest)
  else
    match (h.field? "content-length").bind fun n => Decimal.digits? n.toList with
    | some n => if n ≤ rest.length then some (rest.take n) else none
    | none => some rest

/-- The code in the first line of a reply. -/
def statusOf? (start : String) : Option Nat :=
  match start.toList.splitOn ' ' with
  | _ :: code :: _ => Decimal.digits? code
  | _ => none

end Http

/-- The host and the port as a request names them. -/
def Url.authority (u : Url) : String :=
  u.host.getD "" ++ match u.port with
    | some port => ":" ++ toString port
    | none => ""

/-- The bytes that a request is sent as. -/
def HttpRequest.bytes (r : HttpRequest) : List UInt8 :=
  let body := Utf8.encode r.body.toList
  let credentials := r.authorization.toList.map fun value => ("authorization", value)
  let head : Http.Head :=
    ⟨"POST " ++ r.url.target ++ " HTTP/1.1", [("host", r.url.authority)] ++ credentials ++
      [("content-length", toString body.length), ("connection", "close")]⟩
  Utf8.encode head.text.toList ++ body

/-- The reply that bytes are, all of them. -/
def HttpReply.ofBytes? (bytes : List UInt8) : Option HttpReply := do
  let (head, rest) ← Http.message? bytes
  let status ← Http.statusOf? head.start
  return ⟨status, String.ofList (Utf8.decode (← Http.body? head rest))⟩

end BalanceSheet
