import BalanceSheet.Http.Message
import BalanceSheet.Store.Rows
import BalanceSheet.Url.Reader

/-!
What a status code says of a reply, and why a request comes to nothing.
-/

namespace BalanceSheet

/-! ### Status codes -/

namespace Http

def phrases : List (Nat × String) :=
  [(100, "Continue"), (101, "Switching Protocols"), (102, "Processing"), (200, "OK"), (201, "Created"),
    (202, "Accepted"), (203, "Non Authoritative Information"), (204, "No Content"), (205, "Reset Content"),
    (206, "Partial Content"), (207, "Multi-Status"), (208, "Already Reported"), (226, "IM Used"),
    (300, "Multiple Choices"), (301, "Moved Permanently"), (302, "Found"), (303, "See Other"),
    (304, "Not Modified"), (305, "Use Proxy"), (307, "Temporary Redirect"), (308, "Permanent Redirect"),
    (400, "Bad Request"), (401, "Unauthorized"), (402, "Payment Required"), (403, "Forbidden"),
    (404, "Not Found"), (405, "Method Not Allowed"), (406, "Not Acceptable"),
    (407, "Proxy Authentication Required"), (408, "Request Timeout"), (409, "Conflict"), (410, "Gone"),
    (411, "Length Required"), (412, "Precondition Failed"), (413, "Payload Too Large"),
    (414, "URI Too Long"), (415, "Unsupported Media Type"), (416, "Range Not Satisfiable"),
    (417, "Expectation Failed"), (418, "I'm a teapot"), (421, "Misdirected Request"),
    (422, "Unprocessable Entity"), (423, "Locked"), (424, "Failed Dependency"), (425, "Too Early"),
    (426, "Upgrade Required"), (428, "Precondition Required"), (429, "Too Many Requests"),
    (431, "Request Header Fields Too Large"), (451, "Unavailable For Legal Reasons"),
    (500, "Internal Server Error"), (501, "Not Implemented"), (502, "Bad Gateway"),
    (503, "Service Unavailable"), (504, "Gateway Timeout"), (505, "HTTP Version Not Supported"),
    (506, "Variant Also Negotiates"), (507, "Insufficient Storage"), (508, "Loop Detected"),
    (510, "Not Extended"), (511, "Network Authentication Required")]

def phrase (code : Nat) : String := (phrases.lookup code).getD "<unknown status code>"

/-- A code with its phrase. -/
def statusText (code : Nat) : String := toString code ++ " " ++ phrase code

def isSuccess (code : Nat) : Bool := 200 ≤ code && code < 300

end Http

/-! ### Faults

Where a request comes to nothing, the store is at fault: a request that never got through is a matter of the
connection, any other of the execution.
-/

inductive HttpFault where
  | refused
  | timedOut
  | closed
  | status (code : Nat)
  | noTarget (url : String)
  deriving DecidableEq

namespace HttpFault

def storeFaultKind : HttpFault → StoreFaultKind
  | refused | timedOut => .connection
  | closed | status _ | noTarget _ => .execution

/-- The fault that the reply to a request is. -/
def ofReply? (reply : Option HttpReply) : Option HttpFault :=
  match reply.filter HttpReply.isFinal with
  | none => some closed
  | some reply => if 400 ≤ reply.status && reply.status < 600 then some (status reply.status) else none

/-- The fault of an address that no request can be sent to. -/
def ofTarget? [Url.DomainRule] (url : String) : Option HttpFault :=
  match Url.parse? url with
  | some u => if u.takesRequests then none else some (noTarget url)
  | none => some (noTarget url)

end HttpFault

end BalanceSheet
