import Concordance.CommandLine.Arguments

/-!
# Help

The text that explains the command line, and the wording of what is wrong with one.
-/

namespace Concordance

/-- How the program is called. -/
def synopsis : String := "Usage: concordance [OPTIONS] <MODEL> <TRACE>\n"

/-- What the operands and options mean, line by line. -/
def helpLines : List String :=
  ["Arguments:",
    "  <MODEL>  Declarative model (JSON scene)",
    "  <TRACE>  Transport trace sampled through the converted model",
    "",
    "Options:",
    "  -V, --verbose                Increase output verbosity",
    "  -n, --npts <NPOINTS>         Maximum number of tested points",
    "  -d, --delta <DELTA>          Distance below which a failed test is ignored",
    "  -g, --guess-material-assocs  Guess the material correspondence (has no effect)",
    "      --binary                 The trace is binary (default)",
    "      --ascii                  The trace is ASCII",
    "  -o, --output <OUTPUT>        Base name of the visualization files",
    "      --tally-outside          Count points outside the model instead of stopping",
    "  -h, --help                   Print help"]

/-- The explanation of the command line. -/
def helpText : String :=
  "Compare a declarative geometry with a transport trace.\n\n" ++ synopsis ++ "\n" ++
    String.join (helpLines.map (· ++ "\n"))

/-- The answer to a command line that is not followed. -/
def UsageFault.message : UsageFault → String
  | help => helpText
  | unknownArgument => "error: unexpected argument\n\n" ++ synopsis
  | missingValue => "error: a value is required\n\n" ++ synopsis
  | unreadableValue => "error: invalid value\n\n" ++ synopsis
  | unwantedValue => "error: an option takes no value\n\n" ++ synopsis
  | repeated => "error: an option cannot be used multiple times\n\n" ++ synopsis
  | missingOperand => "error: required arguments were not provided\n\n" ++ synopsis

end Concordance
