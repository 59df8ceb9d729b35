import CrcTables.Command.Run

/-!
# The program

The outer layer: it reads the inputs that the arguments name, hands them to `CrcTables.run`, and
prints the outcome.
-/

set_option autoImplicit false
namespace CrcTables

/-- The reason behind a failed call of the operating system. -/
def FileFault.ofError : IO.Error → FileFault
  | .noFileOrDirectory .. => .missing
  | .inappropriateType _ code description | .invalidArgument _ code description
  | .permissionDenied _ code description | .resourceExhausted _ code description
  | .noSuchThing _ code description | .alreadyExists _ code description
  | .otherError code description | .hardwareFault code description
  | .resourceBusy code description | .illegalOperation code description =>
    .ofCode code.toNat description
  | e => .other (toString e)

/-- Everything that a reader delivers until its end or its first failure. -/
partial def deliveriesOf (read : IO ByteArray) (before : Array (Delivery FileFault)) :
    IO Deliveries := do
  match ← read.toBaseIO with
  | .ok bytes =>
    if bytes.isEmpty then return before.toList
    else deliveriesOf read (before.push (.block bytes.toList))
  | .error (.interrupted ..) => deliveriesOf read (before.push .interrupted)
  | .error e => return (before.push (.failure (.ofError e))).toList

/-- A file by its name. -/
def openFile (name : String) : IO (Except FileFault Deliveries) := do
  match ← (IO.FS.Handle.mk name .read).toBaseIO with
  | .ok handle => return .ok (← deliveriesOf (handle.read Delivery.blockSize.toUSize) #[])
  | .error e => return .error (.ofError e)

/-- What a request can read. -/
def surroundingsFor (request : Request) : IO Surroundings := do
  let standardInput ←
    if request.readsStandardInput then
      let input ← IO.getStdin
      deliveriesOf (input.read Delivery.blockSize.toUSize) #[]
    else pure []
  let files ← request.files.mapM fun name ↦ return (name, ← openFile name)
  return ⟨fun name ↦ (files.lookup name).getD (.error .missing), standardInput⟩

end CrcTables

/-- Runs the command line.  A closed output ends the program early, but not as a failure. -/
def main (arguments : List String) : IO UInt32 := do
  let surroundings ← match CrcTables.Request.ofArguments arguments with
    | .ok request => CrcTables.surroundingsFor request
    | .error _ => pure ⟨fun _ ↦ .error .missing, []⟩
  let outcome := CrcTables.run surroundings arguments
  try
    (← IO.getStdout).putStr outcome.output
    (← IO.getStderr).putStr outcome.diagnostics
  catch _ => pure ()
  return UInt32.ofNat outcome.code
