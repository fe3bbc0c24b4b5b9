import Concordance.CommandLine.Arguments
import Concordance.CommandLine.Comparison

/-!
# The whole program

`runProgram` reads a command line and compares the files that it names, in the working
directory.  It answers with an exit code, zero for success and for help, one for a failed
comparison and two for a command line that is refused.
-/

namespace Concordance

/-- What a run of the program leaves behind. -/
structure ProgramRun (ω : Type) where
  exitCode : Nat
  /-- Why the command line was not followed, if it was not. -/
  usage : Option UsageFault
  /-- The text on standard output. -/
  output : List Char
  /-- The lines of the log. -/
  log : List String
  /-- The message behind the log. -/
  message : Option String
  files : ω

namespace ProgramRun

/-- The first line of every comparison. -/
def greeting : List Char := "*** Geometry comparison ***\n".toList

/-- The exit code for a command line that is not followed. -/
def usageCode : UsageFault → Nat
  | .help => 0
  | _ => 2

end ProgramRun

/-- Runs the program. -/
def runProgram {ω : Type} [FileStore ω] (args : List (List Char)) (files : ω) : ProgramRun ω :=
  match Options.ofArguments args with
  | .error fault => ⟨ProgramRun.usageCode fault, some fault, [], [], none, files⟩
  | .ok options =>
    let (result, left) := runOptions options ['.'] files .unbounded
    let output := ProgramRun.greeting ++ left.sink.written
    let log := (Event.shown options.logLevel left.log).map Event.text
    match result with
    | .ok _ => ⟨0, none, output, log, none, left.files⟩
    | .error fault => ⟨1, none, output, log, some ("error: " ++ fault.message), left.files⟩

end Concordance
