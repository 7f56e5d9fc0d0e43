import BalanceSheet.Net.Address
import BalanceSheet.Url.Basic

/-!
Addresses on the web read from text, first the host and then the whole.
-/

namespace BalanceSheet.Url

/-! ### Hosts

In a scheme that the web knows the host is a name or a number. A name may have no character that means
something elsewhere in an address, and the letters A to Z are lowered. A host whose last part is a number must
be an address of the fourth version, of which parts may be left out or be written in base eight or sixteen.
How names of other scripts are put into ASCII is left to a rule.
-/

/-- Characters that no host has, whatever the scheme. -/
def isForbiddenInHost (c : Char) : Bool :=
  c = '\x00' || c = '\t' || c = '\n' || c = '\r' || c = ' ' || c = '#' || c = '/' || c = ':' || c = '<' ||
    c = '>' || c = '?' || c = '@' || c = '[' || c = '\\' || c = ']' || c = '^' || c = '|'

/-- Characters that no name has. -/
def isForbiddenInName (c : Char) : Bool := isForbiddenInHost c || c < ' ' || c = '%' || c = '\x7f'

/-- A number in base ten, eight after a zero, or sixteen after a zero and an x. -/
def hostNumber? (cs : List Char) : Option Nat :=
  match cs with
  | [] => none
  | '0' :: 'x' :: digits => Text.ofHex? digits
  | '0' :: digits =>
    if digits.all fun c => '0' ≤ c && c ≤ '7' then
      some (digits.foldl (fun n c => 8 * n + (c.toNat - '0'.toNat)) 0)
    else none
  | _ => Decimal.digits? cs

/-- The parts of a name between its points, without an empty one at the end. -/
def hostParts (name : List Char) : List (List Char) :=
  match (name.splitOn '.').reverse with
  | [] :: before :: rest => (before :: rest).reverse
  | parts => parts.reverse

def endsInNumber (name : List Char) : Bool :=
  match (hostParts name).getLast? with
  | some last => (Decimal.digits? last).isSome || (hostNumber? last).isSome
  | none => false

/-- The address of the fourth version whose parts are these numbers. The last stands for all bytes that the
parts before it leave. -/
def ipv4? (numbers : List Nat) : Option Ipv4 :=
  match numbers.reverse with
  | [] => none
  | last :: before =>
    let missing := 4 - before.length
    match before.reverse ++ (List.range missing).reverse.map fun i => last / Nat.pow 256 i % 256 with
    | [a, b, c, d] =>
      if before.length ≤ 3 && before.all (· ≤ 255) && last < Nat.pow 256 missing then
        some ⟨a.toUInt8, b.toUInt8, c.toUInt8, d.toUInt8⟩
      else none
    | _ => none

/-- The host that a name of ASCII characters stands for. -/
def hostOfName? (name : List Char) : Option String :=
  if name.isEmpty then none
  else if endsInNumber name then (((hostParts name).mapM hostNumber?).bind ipv4?).map Ipv4.text
  else some (String.ofList name)

/-- How a name is put into ASCII characters, if it can be. What this comes to for the names of other scripts
depends on tables that are no part of an address. -/
class DomainRule where
  toAscii? : List Char → Option (List Char)

/-- The rule of a program without such tables: characters beyond ASCII are left as they are. -/
instance DomainRule.lowering : DomainRule where
  toAscii? name :=
    if name.any isForbiddenInName || name.contains Utf8.replacement then none
    else some (name.map Char.toLower)

/-- The address of the sixth version that stands in square brackets. -/
def bracketed? (cs : List Char) : Option Ipv6 :=
  match cs.reverse with
  | ']' :: inside =>
    match Net.ipv6? inside.reverse with
    | some (ip, []) => some ip
    | _ => none
  | _ => none

/-- The host in a scheme that the web knows. -/
def webHost? [DomainRule] (cs : List Char) : Option String :=
  match cs with
  | '[' :: inside => (bracketed? inside).map fun ip => "[" ++ ip.text ++ "]"
  | _ => (DomainRule.toAscii? (Utf8.decode (Percent.bytes cs))).bind hostOfName?

/-- The host in any other scheme, which may be empty. -/
def otherHost? (cs : List Char) : Option String :=
  match cs with
  | '[' :: inside => (bracketed? inside).map fun ip => "[" ++ ip.text ++ "]"
  | _ => if cs.any isForbiddenInHost then none else some (String.ofList cs)

/-! ### Whole addresses

Blanks and control characters around the text are left out, and so are tabs and line breaks inside. The schemes
that the web knows need a host, take a backslash for a slash, and have single and double dots in the path
resolved. What may not stand in an address as it is gets escaped.
-/

/-- The schemes that the web knows, with their ports. -/
def webPorts : List (String × Nat) := [("http", 80), ("https", 443), ("ws", 80), ("wss", 443), ("ftp", 21)]

def isOuterBlank (c : Char) : Bool := c ≤ ' '

/-- The text without what is left out of it. -/
def cleaned (s : String) : List Char :=
  let inside := ((s.toList.dropWhile isOuterBlank).reverse.dropWhile isOuterBlank).reverse
  inside.filter fun c => c ≠ '\t' && c ≠ '\n' && c ≠ '\r'

def isSchemeChar (c : Char) : Bool := c.isAlphanum || c = '+' || c = '-' || c = '.'

/-- The scheme in lower case, and the text after its colon. -/
def scheme? (cs : List Char) : Option (String × List Char) := do
  let (scheme, rest) ← Text.cut ':' cs
  match scheme with
  | first :: _ =>
    if first.isAlpha && scheme.all isSchemeChar then some (String.ofList (scheme.map Char.toLower), rest)
    else none
  | [] => none

def isKeptInQuery (isWeb : Bool) (c : Char) : Bool :=
  ' ' < c && c < '\x7f' && c ≠ '"' && c ≠ '<' && c ≠ '>' && !(isWeb && c = '\'')

def isKeptInPath (c : Char) : Bool :=
  ' ' < c && c < '\x7f' && c ≠ '"' && c ≠ '<' && c ≠ '>' && c ≠ '\x60' && c ≠ '\x7b' && c ≠ '\x7d'

/-- Whether a name of a path is a number of dots, each as such or escaped. -/
def isDots : Nat → List Char → Bool
  | 0, cs => cs.isEmpty
  | n + 1, '.' :: rest => isDots n rest
  | n + 1, '%' :: '2' :: c :: rest => (c = 'e' || c = 'E') && isDots n rest
  | _ + 1, _ => false

/-- Adds the names of a path to those before it. A single dot adds none and a double dot takes one off; at
the end of a path each leaves an empty name. -/
def addNames : List String → List (List Char) → List String
  | names, [] => names
  | names, name :: rest =>
    let isLast := rest.isEmpty
    if isDots 2 name then addNames (if isLast then names.dropLast ++ [""] else names.dropLast) rest
    else if isDots 1 name then addNames (if isLast then names ++ [""] else names) rest
    else addNames (names ++ [String.ofList (Percent.escape isKeptInPath name)]) rest

/-- A path after the slash that it starts with. -/
def pathText (names : List (List Char)) : String := "/" ++ "/".intercalate (addNames [] names)

def isSlash (isWeb : Bool) (c : Char) : Bool := c = '/' || (isWeb && c = '\\')

/-- The names of a path, from its slashes on. -/
def pathNames (isWeb : Bool) (cs : List Char) : List (List Char) :=
  (cs.map fun c => if isSlash isWeb c then '/' else c).splitOn '/'

/-- The texts before and after the last `sep`, the first being none where there is no `sep`. -/
def splitLast (sep : Char) (cs : List Char) : Option (List Char) × List Char :=
  match Text.cut sep cs.reverse with
  | some (after, before) => (some before.reverse, after.reverse)
  | none => (none, cs)

/-- User name and password of an address, from what stands before the host. -/
def userInfo (cs : List Char) : String × Option String :=
  match Text.cut ':' cs with
  | none | some (_, []) => (String.ofList (cs.takeWhile fun c => c ≠ ':'), none)
  | some (username, password) => (String.ofList username, some (String.ofList password))

/-- The host, and the port where there is a colon outside of square brackets. -/
def splitPort (cs : List Char) : List Char × Option (List Char) :=
  let host := match cs with
    | '[' :: _ => cs.takeWhile (fun c => c ≠ ']') ++ (cs.dropWhile fun c => c ≠ ']').takeWhile fun c => c ≠ ':'
    | _ => cs.takeWhile fun c => c ≠ ':'
  match cs.drop host.length with
  | _ :: port => (host, some port)
  | [] => (host, none)

/-- A port of an address; an empty one is none. -/
def port? : Option (List Char) → Option (Option Nat)
  | none | some [] => some none
  | some digits => do
    let n ← Decimal.digits? digits
    if n ≤ Decimal.maxUInt16 then some (some n) else none

/-- The parts of an address in a scheme that the web knows, from what stands between scheme and query. -/
def web? [DomainRule] (scheme : String) (standardPort : Nat) (cs : List Char) (query : Option String) :
    Option Url := do
  let start := cs.dropWhile (isSlash true)
  let (user, hostAndPort) := splitLast '@' (start.takeWhile fun c => !isSlash true c)
  let (host, digits) := splitPort hostAndPort
  let (username, password) := userInfo (user.getD [])
  let port ← port? digits
  return { scheme, username, password, query
           host := some (← webHost? host)
           port := if port = some standardPort then none else port
           path := pathText (pathNames true ((start.dropWhile fun c => !isSlash true c).drop 1)) }

/-- The parts of an address in any other scheme, after two slashes. -/
def other? (scheme : String) (cs : List Char) (query : Option String) : Option Url := do
  let (user, hostAndPort) := splitLast '@' (cs.takeWhile (· ≠ '/'))
  let (hostText, digits) := splitPort hostAndPort
  let (username, password) := userInfo (user.getD [])
  let port ← port? digits
  let host ← otherHost? hostText
  let path := match cs.dropWhile (· ≠ '/') with
    | [] => ""
    | _ :: names => pathText (pathNames false names)
  if host.isEmpty then
    if user.isSome || digits.isSome then none
    else return { scheme, username, password, host := none, port, path, query }
  else return { scheme, username, password, host := some host, port, path, query }

/-- The address without a host. -/
def hostless (scheme : String) (cs : List Char) (query : Option String) : Url :=
  let path := match cs with
    | '/' :: names => pathText (pathNames false names)
    | _ => String.ofList cs
  { scheme, username := "", password := none, host := none, port := none, path, query }

/-- Whether a name is a letter with a colon or a bar, which stands for a drive and not for a host. -/
def isDrive : List Char → Bool
  | [c, mark] => c.isAlpha && (mark = ':' || mark = '|')
  | _ => false

/-- The address of a file, which may name a host. -/
def file? [DomainRule] (cs : List Char) (query : Option String) : Option Url :=
  let plain := hostless "file" cs query
  match cs with
  | a :: b :: rest =>
    if isSlash true a && isSlash true b then
      let host := rest.takeWhile fun c => !isSlash true c
      if host.isEmpty || isDrive host then some plain
      else (webHost? host).map fun host => { plain with host := some host }
    else some plain
  | _ => some plain

/-- The parts of an address, from what stands between scheme and query. -/
def ofParts? [DomainRule] (scheme : String) (cs : List Char) (query : Option String) : Option Url :=
  match webPorts.lookup scheme with
  | some standardPort => web? scheme standardPort cs query
  | none =>
    if scheme = "file" then file? cs query
    else
      match cs with
      | '/' :: '/' :: start => other? scheme start query
      | _ => some (hostless scheme cs query)

/-- The address that a text writes. -/
def parse? [DomainRule] (s : String) : Option Url := do
  let (scheme, rest) ← scheme? (cleaned s)
  let isWeb := (webPorts.lookup scheme).isSome || scheme = "file"
  let whole := rest.takeWhile (· ≠ '#')
  let query := match whole.dropWhile (· ≠ '?') with
    | [] => none
    | _ :: cs => some (String.ofList (Percent.escape (isKeptInQuery isWeb) cs))
  ofParts? scheme (whole.takeWhile (· ≠ '?')) query

/-- The user name and the password that an address carries. -/
def credentials? (u : Url) : Option (String × Option String) := do
  let decoded? (s : String) : Option String := (Utf8.decode? (Percent.bytes s.toList)).map String.ofList
  let username ← decoded? u.username
  let password := u.password.bind decoded?
  if username.isEmpty && password.isNone then none else some (username, password)

end BalanceSheet.Url
