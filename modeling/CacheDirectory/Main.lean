/-
Module: CacheDirectory.Main
Purpose: The program: it reads the file that its arguments name, prints, and ends. It
  has no way to the network, so that a server can never listen.
Trusted boundary: the file system and the standard streams
Main exports: main
-/
import CacheDirectory.CommandLine.Outcome

namespace CacheDirectory.CommandLine

/-- The text of a file. -/
def readFile (path : String) : IO (Except FileFailure String) := do
  try
    let contents ← IO.FS.readBinFile path
    match String.fromUTF8? contents with
    | some text => return .ok text
    | none => return .error .notText
  catch failure =>
    match failure with
    | .permissionDenied .. => return .error .permissionDenied
    | .inappropriateType .. => return .error .isDirectory
    | _ => return .error .notFound

end CacheDirectory.CommandLine

open CacheDirectory CacheDirectory.CommandLine in
/-- Run the program. -/
def main (arguments : List String) : IO UInt32 := do
  let invocation := Invocation.ofArguments arguments
  let contents ← match invocation.file? with
    | some path => readFile path
    | none => pure (.error .notFound)
  let outcome := invocation.run .isolated fun _ => contents
  IO.print outcome.output
  IO.eprint outcome.complaint
  return UInt32.ofNat outcome.status
