import Std.Async.Signal
import Std.Time.DateTime.Timestamp
import SwitchTestbed.Daemon.Holding

/-!
# The reservation daemon

Reserves the testbed of the configuration, publishes the reservation and holds the devices until it
is interrupted.
-/

namespace SwitchTestbed.Daemon

/-- What is written about a failure to reach a file. -/
def describe : IO.Error → String
  | .noFileOrDirectory .. => FileError.notFound.message
  | e => toString e

/-- The contents of a file, if there is one. -/
def contentsOf (path : String) : IO (Option ByteArray) := do
  try
    return some (← IO.FS.readBinFile path)
  catch e =>
    match e with
    | .noFileOrDirectory .. => return none
    | e => throw e

/-- An identifier that nobody has had before. -/
def freshIdentifier : IO String := do
  return identifierOf (← IO.getRandomBytes 16).toList

/-- What the wall clock says. -/
def wallClock : IO Timestamp := do
  return (← Std.Time.Timestamp.now).toNanosecondsSinceUnixEpoch.val.toNat

/-- Tells of a failure. -/
def failed (message : String) : IO UInt32 := do
  IO.eprintln ("Error: " ++ message)
  return 1

/-- Publishes the devices held. -/
def publish (output : Option String) (h : Holding) : IO Unit :=
  match output with
  | some path => IO.FS.writeFile path h.text
  | none => IO.println h.text

/-- Holds the devices until the interrupt comes. -/
def holdUntilInterrupted (a : Arguments) (h : Holding) : IO UInt32 := do
  let interrupt ← (← Std.Async.Signal.Waiter.mk .sigint false).wait
  publish a.output h
  discard interrupt.block
  match h.release with
  | .ok () => return 0
  | .error e => failed e.message

/-- Runs the daemon. -/
def run (a : Arguments) : IO UInt32 := do
  try
    let contents ← match a.config with
      | some path => contentsOf path
      | none => pure none
    match a.hold (← freshIdentifier) (← wallClock) contents with
    | .ok h => holdUntilInterrupted a h
    | .error e => failed e.message
    | .aborted =>
      IO.eprintln "the reservation would end after the last year of the calendar"
      return 101
  catch e => failed (describe e)

end SwitchTestbed.Daemon

/-- Runs the daemon, or says how it is used. -/
def main (args : List String) : IO UInt32 :=
  match SwitchTestbed.Daemon.Request.ofList args with
  | .help => do
    IO.eprintln SwitchTestbed.Daemon.helpText
    return 0
  | .hold a => SwitchTestbed.Daemon.run a
