import Concordance.CommandLine.Help
import Concordance.CommandLine.Program
import Concordance.Files.Journal

/-!
# The command line

`main` reads the inputs that the command line names, runs the comparison on them, carries out
its writes, and prints what it has to say.
-/

namespace Concordance.Main

/-- The fault with an error number, whose sign does not count. -/
def faultOfNumber? (number : UInt32) : Option FileFault :=
  match number.toInt32.toInt.natAbs with
  | 2 => some .notFound
  | 20 => some .notDirectory
  | 21 => some .isDirectory
  | 36 => some .nameTooLong
  | _ => none

/-- What an error on a disk says about a file. -/
def faultOf (error : IO.Error) : FileFault :=
  let fault? := match error with
    | .noFileOrDirectory _ number _ => faultOfNumber? number
    | .inappropriateType _ number _ => faultOfNumber? number
    | .invalidArgument _ number _ => faultOfNumber? number
    | _ => none
  fault?.getD (.refused error.toString)

/-- Reads what a path leads to. -/
def readNode (path : List Char) : IO (Except FileFault Node) := do
  match ← (IO.FS.readBinFile (String.ofList path)).toBaseIO with
  | .ok bytes => return .ok (.file bytes.toList)
  | .error error => match faultOf error with
    | .isDirectory => return .ok .directory
    | fault => return .error fault

/-- Reads the inputs that a command line names. -/
def readInputs (args : List (List Char)) : IO Journal := do
  match Options.ofArguments args with
  | .error _ => return .ofInputs []
  | .ok options =>
    let inputs ← options.inputs.mapM fun path => return (path, ← readNode path)
    return .ofInputs inputs

/-- Carries out writes up to the first that is refused, which is the answer. -/
def carryOut : List (List Char × List UInt8) → IO (Option (List Char × FileFault))
  | [] => return none
  | (path, bytes) :: rest => do
    match ← (IO.FS.writeBinFile (String.ofList path) ⟨bytes.toArray⟩).toBaseIO with
    | .ok () => carryOut rest
    | .error error => return some (path, faultOf error)

/-- Prints what a run has to say. -/
def report (run : ProgramRun Journal) : IO Unit := do
  match run.usage with
  | some .help => IO.print (UsageFault.message .help)
  | some fault => IO.eprint fault.message
  | none =>
    IO.print (String.ofList run.output)
    run.log.forM fun line => IO.eprintln line
    run.message.forM fun message => IO.eprintln message

end Concordance.Main

open Concordance in
/-- Compares the two files that the command line names. -/
def main (args : List String) : IO UInt32 := do
  let args := args.map String.toList
  let journal ← Main.readInputs args
  let run := runProgram args journal
  let run ← match ← Main.carryOut run.files.written with
    | none => pure run
    | some refusal => pure (runProgram args { journal with refusals := [refusal] })
  Main.report run
  return UInt32.ofNat run.exitCode
