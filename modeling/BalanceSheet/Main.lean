import BalanceSheet.Api.Server
import BalanceSheet.Command.Work
import BalanceSheet.Http.Message
import Std.Async.DNS
import Std.Async.TCP
import Std.Async.Timer

/-!
The program on a machine: it reads its files, sends its requests over plain connections, prints, and
listens where it is to serve. All that it decides is decided by the commands.
-/

namespace BalanceSheet.Machine

open Std.Async

def fileFault : IO.Error → FileFault
  | .permissionDenied _ _ _ => .noPermission
  | .inappropriateType _ code _ => if code = 21 then .isDirectory else .notDirectory
  | _ => .notFound

def readFile (path : String) : IO (Except FileFault String) := do
  try
    match String.fromUTF8? (← IO.FS.readBinFile path) with
    | some text => return .ok text
    | none => return .error .notText
  catch e => return .error (fileFault e)

def files : Command.FileSystem IO where
  has path := do
    match ← readFile path with
    | .error .notFound | .error .notDirectory => return false
    | _ => return true
  read := readFile

/-- The date at the prime meridian. -/
def today : IO Date := do
  let seconds := (← Std.Time.Timestamp.now).toSecondsSinceUnixEpoch.val
  let date := Std.Time.PlainDate.ofEpochDay (.ofInt (seconds / 86400))
  match Date.ofParts? date.year date.month.val.toNat date.day.val.toNat with
  | some d => return d
  | none => throw (.userError "the clock is out of range")

def addresses (host : String) : IO (List Std.Net.IPAddr) := do
  let bare := String.ofList (host.toList.filter fun c => c ≠ '[' && c ≠ ']')
  match Std.Net.IPv4Addr.ofString bare, Std.Net.IPv6Addr.ofString bare with
  | some ip, _ => return [.v4 ip]
  | none, some ip => return [.v6 ip]
  | none, none => return (← (DNS.getAddrInfo bare "").block).toList

def withPort (ip : Std.Net.IPAddr) (port : UInt16) : Std.Net.SocketAddress :=
  match ip with
  | .v4 addr => .v4 ⟨addr, port⟩
  | .v6 addr => .v6 ⟨addr, port⟩

/-- An alarm that rings after some seconds. -/
def alarmAfter (seconds : Nat) : Async Sleep := Sleep.mk (.ofNat (1000 * seconds))

/-- The next bytes of a connection, if it does not end and they come before the alarm. -/
def receive (client : TCP.Socket.Client) (alarm : Sleep) : Async (Option ByteArray) :=
  Selectable.one #[.case (client.recvSelector 65536) fun bytes => return bytes,
    .case alarm.selector fun () => throw (.timeExpired 0 "no bytes in time")]

/-- All bytes of a connection up to its end. -/
partial def receiveAll (client : TCP.Socket.Client) (alarm : Sleep) (read : ByteArray) : Async ByteArray := do
  match ← receive client alarm with
  | some bytes => receiveAll client alarm (read ++ bytes)
  | none => return read

def sendTo (address : Std.Net.SocketAddress) (request : HttpRequest) : Async (Option HttpReply) := do
  let alarm ← alarmAfter request.timeout
  let client ← TCP.Socket.Client.mk
  client.connect address
  client.send ⟨request.bytes.toArray⟩
  return HttpReply.ofBytes? (← receiveAll client alarm ByteArray.empty).toList

/-- The reply to a request, from the first address of its host that takes the connection. -/
def send (request : HttpRequest) : IO (Option HttpReply) := do
  if request.url.scheme != "http" then return none
  try
    for ip in ← addresses (request.url.host.getD "") do
      try return ← (sendTo (withPort ip (request.url.port.getD 80).toUInt16) request).block
      catch _ => pure ()
    return none
  catch _ => return none

/-- Carries work out. -/
def perform {α : Type} (work : Exchange HttpRequest (Option HttpReply) α) : IO α := do
  match work with
  | .settled result => return result
  | .asks request resume => return resume (← send request)

/-- The head of a request, once it is there. -/
partial def receiveHead (client : TCP.Socket.Client) (alarm : Sleep) (read : ByteArray) :
    Async (Option Http.Head) := do
  match Http.message? read.toList with
  | some (head, _) => return some head
  | none =>
    match ← receive client alarm with
    | some bytes => receiveHead client alarm (read ++ bytes)
    | none => return none

/-- Answers the request of a connection. -/
def answer (service : Command.Service) (client : TCP.Socket.Client) : IO Unit := do
  let head ← (do receiveHead client (← alarmAfter 60) ByteArray.empty : Async _).block
  let response ← match head.bind Api.Request.ofHead? with
    | some request => perform (service.handle (← today) request)
    | none => pure Api.Response.badRequest
  (client.send ⟨response.bytes.toArray⟩).block
  client.shutdown.block

def addressOf : SocketAddress → Std.Net.SocketAddress
  | .v4 ip port => .v4 ⟨.ofParts ip.a ip.b ip.c ip.d, port⟩
  | .v6 ip _ port => .v6 ⟨⟨Vector.ofFn fun i => ip.groups.getD i 0⟩, port⟩

partial def acceptAll (service : Command.Service) (server : TCP.Socket.Server) : IO Unit := do
  let client ← server.accept.block
  discard (IO.asTask (answer service client))
  acceptAll service server

/-- A server that listens at an address. -/
def listenAt (address : SocketAddress) : IO (Except Command.Fault TCP.Socket.Server) := do
  try
    let server ← TCP.Socket.Server.mk
    server.bind (addressOf address)
    server.listen 1024
    return .ok server
  catch e => return .error (.addressTaken address (toString e))

/-- Does what a command has come to. -/
def finish : Command.Outcome → ExceptT Command.Fault IO Unit
  | .text text => IO.print text
  | .service service => do acceptAll service (← ExceptT.mk (listenAt service.address))

/-- Carries a command out. -/
def carryOut (invocation : Command.Invocation) : ExceptT Command.Fault IO Unit := do
  let work ← invocation.prepare files (← today)
  finish (← ExceptT.mk (perform work))

/-- Runs what the arguments say. The exit code is 2 where they say nothing, and 1 where a command fails. -/
def run (arguments : List String) : IO UInt32 := do
  match Command.Invocation.read arguments with
  | .error .usage =>
    IO.eprint Command.Halt.usage.text
    return 2
  | .error halt =>
    IO.print halt.text
    return 0
  | .ok invocation =>
    match ← (carryOut invocation).run with
    | .ok () => return 0
    | .error fault =>
      IO.eprintln fault.report
      return 1

end BalanceSheet.Machine

def main (arguments : List String) : IO UInt32 := BalanceSheet.Machine.run arguments
