import FlowScript.Cli.Run
import FlowScript.Http.Wire
import Std.Async.DNS
import Std.Async.System
import Std.Async.TCP
import Std.Async.Timer

/-!
# The program

The rim of the library: sessions are taken through the real world. Files are read and
written, the input is read, and requests are sent over plain connections; a request that
asks for an encrypted one gets no reply. Nothing is decided here.
-/

namespace FlowScript

namespace Rim

open Http Std.Async

/-! ### Requests -/

/-- The next bytes from a connection, or none if there are no more in the given time. -/
def receive (client : TCP.Socket.Client) (patience : Option Nat) : Async (Option ByteArray) :=
  match patience with
  | none => client.recv? 65536
  | some milliseconds => do
    let alarm ← Selector.sleep (.ofNat milliseconds)
    Selectable.one
      #[.case (client.recvSelector 65536) fun bytes => pure bytes,
        .case alarm fun _ => throw (IO.userError "no reply in time")]

/-- All bytes from a connection until it is closed. -/
partial def receiveAll (client : TCP.Socket.Client) (patience : Option Nat)
    (before : ByteArray) : Async ByteArray := do
  match ← receive client patience with
  | some bytes => receiveAll client patience (before ++ bytes)
  | none => pure before

/-- Sends a request to the first address of a host and waits for the reply. -/
def exchangeWith (host : String) (number : Nat) (request : Request) : Async Reply := do
  let addresses ← DNS.getAddrInfo host (toString number)
  match addresses[0]? with
  | none => pure .none
  | some address =>
    let client ← TCP.Socket.Client.mk
    client.connect (match address with
      | .v4 address => .v4 ⟨address, number.toUInt16⟩
      | .v6 address => .v6 ⟨address, number.toUInt16⟩)
    client.send (ByteArray.mk request.wire.toArray)
    let bytes ← receiveAll client request.patience ByteArray.empty
    pure (Reply.ofWire bytes.toList)

/-- Sends a request; whatever goes wrong on the way, no reply comes. -/
def exchange (request : Request) : IO Reply := do
  match request.url.scheme, request.url.destination? with
  | "http", some (host, number) =>
    try (exchangeWith host number request).block
    catch _ => pure .none
  | _, _ => pure .none

/-! ### Files -/

/-- What the number of a system error means for a file. Some numbers come negated. -/
def faultOfCode (code : UInt32) (cause : String) : FileFault :=
  match min code.toNat (4294967296 - code.toNat) with
  | 2 => .missing
  | 20 => .notFolder
  | 21 => .isFolder
  | 28 => .noRoom
  | number => .other number cause

/-- What a system error means for a file. -/
def fileFault : IO.Error → FileFault
  | .noFileOrDirectory _ code cause | .inappropriateType _ code cause
  | .permissionDenied _ code cause | .resourceExhausted _ code cause
  | .invalidArgument _ code cause | .otherError code cause => faultOfCode code cause
  | error => faultOfCode 5 (toString error)

/-- A result, or what is wrong with the file. -/
def attempt {α : Type} (action : IO α) : IO (Except FileFault α) := do
  match ← action.toBaseIO with
  | .ok result => pure (.ok result)
  | .error error => pure (.error (fileFault error))

/-- The content of the nearest file of a name, where `depth` folders above are looked into. -/
def findUpwards (path : String) : Nat → IO (Option ByteArray)
  | 0 => do
    let bytes ← attempt (IO.FS.readBinFile path)
    pure bytes.toOption
  | depth + 1 => do
    match ← attempt (IO.FS.readBinFile path) with
    | .ok bytes => pure (some bytes)
    | .error .missing | .error .isFolder => findUpwards ("../" ++ path) depth
    | .error _ => pure none

/-! ### Sessions -/

/-- Takes a session through the world. -/
def perform {α : Type} : Session α → IO α
  | .done result => pure result
  | .ask request next => do
    let reply ← exchange request
    perform (next reply)
  | .readFile path next => do
    let bytes ← attempt (IO.FS.readBinFile path)
    perform (next (bytes.map ByteArray.toList))
  | .findFile name next => do
    let place := ((Text.cut '/' (← IO.currentDir).toString.toList).filter (· ≠ []))
    let bytes ← findUpwards name place.length
    perform (next (bytes.map ByteArray.toList))
  | .readInput next => do
    let bytes ← (← IO.getStdin).readBinToEnd
    perform (next bytes.toList)
  | .writeFile path content next => do
    let written ← attempt (IO.FS.writeBinFile path (ByteArray.mk content.toArray))
    perform (next written)

end Rim

end FlowScript

/-- Runs a command line. -/
def main (words : List String) : IO UInt32 := do
  let environment ← Std.Async.System.getEnv
  let ending ← FlowScript.Rim.perform (FlowScript.Cli.program environment.get? words)
  (← IO.getStderr).putStr ending.notes
  (← IO.getStdout).putStr ending.output
  pure ending.exitCode.toUInt32
