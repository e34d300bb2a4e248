/-
Module: Uplink.Main
Purpose: The command line program.
Main exports: main
-/
import Uplink.Demo.Session

namespace Uplink

/-- The network in which the program runs: the echoing peer is its only host. -/
def Demo.localNetwork (echo : Address) : Network :=
  { Network.detached with
    reach := fun target =>
      if Address.ofSocket target = echo then .connected else Network.detached.reach target }

/-- Where the echoing peer listens. -/
def Demo.echoAddress : Address := { host := "127.0.0.1", port := 7001 }

/-- Why the system refuses a file, with the system's number for the reason. -/
def Demo.refusal : IO.Error → String
  | .noFileOrDirectory _ code details | .inappropriateType _ code details
  | .permissionDenied _ code details =>
      details ++ " (os error " ++ Text.decimal code.toNat ++ ")"
  | error => error.toString

/-- Read a file, or say why it cannot be read. -/
def Demo.readFile (path : String) : IO FileContent := do
  try
    let handle ← IO.FS.Handle.mk path .read
    let content ← handle.readBinToEnd
    return .ok content.toList
  catch error =>
    return .error (Demo.refusal error)

/-- The files that the arguments name. -/
def Demo.readFiles (arguments : List String) : IO (List (String × FileContent)) :=
  arguments.mapM fun path => return (path, ← Demo.readFile path)

/-- Run the demonstration with some arguments and the files that they name. -/
def Demo.program (arguments : List String) : IO UInt32 := do
  let files ←
    match DemoArguments.parse arguments with
    | .ok parsed => Demo.readFiles parsed.configuration.toList
    | .error _ => pure []
  let surroundings : DemoSurroundings :=
    { file := fun path => (files.lookup path).getD (.error noSuchFile)
      network := Demo.localNetwork Demo.echoAddress
      echo := Demo.echoAddress }
  let result := Demo.run surroundings arguments
  IO.print result.output
  IO.eprint result.errors
  return UInt32.ofNat result.status

end Uplink

/-- The program. -/
def main (arguments : List String) : IO UInt32 :=
  Uplink.Demo.program arguments
