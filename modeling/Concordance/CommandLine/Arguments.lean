import Concordance.CommandLine.Options

/-!
# Reading command lines

A command line holds flags, options with a value, and two operands, the scene and the trace, in
any order.  Arguments are read from the left.

* Long names stand behind two hyphens and single letters behind one; several letters may stand
  together.  A value is the next argument, or is glued to its option, to a long name with `=`
  and to a letter with or without it.
* Behind the argument `--` everything is an operand; `-` alone is one everywhere.
* The number of points and the tolerance take the next argument whatever it looks like.  The
  base name does not take one that begins with a hyphen, other than `-` itself.
* An option or flag may stand once, but for `-V`.  The two encodings are an exception: each
  takes the other back, so the last one counts.

The value of an option and an operand are `Pending` until the next argument has been recognised.
An argument that is not recognised is refused before a fault in what is pending.
-/

namespace Concordance

/-- Why a command line is refused, or what it asks for instead of a comparison. -/
inductive UsageFault where
  /-- Help was asked for. -/
  | help
  /-- An unknown option, or an operand too many. -/
  | unknownArgument
  /-- An option without its value, or an empty operand. -/
  | missingValue
  /-- A value that cannot be read. -/
  | unreadableValue
  /-- A flag with a value. -/
  | unwantedValue
  /-- An option or flag that stands twice. -/
  | repeated
  /-- An operand too few. -/
  | missingOperand
  deriving DecidableEq, Repr

/-- The options without a value. -/
inductive Flag where
  | help
  | verbose
  | guess
  | binary
  | ascii
  | tallyOutside
  deriving DecidableEq, Repr

/-- The options with a value. -/
inductive Setting where
  | npoints
  | delta
  | output
  deriving DecidableEq, Repr

/-- An option. -/
inductive Switch where
  | flag (flag : Flag)
  | setting (setting : Setting)
  deriving DecidableEq, Repr

namespace Switch

/-- The long names of the options. -/
def longNames : List (List Char × Switch) :=
  [("help".toList, .flag .help), ("verbose".toList, .flag .verbose),
    ("npts".toList, .setting .npoints), ("delta".toList, .setting .delta),
    ("guess-material-assocs".toList, .flag .guess), ("binary".toList, .flag .binary),
    ("ascii".toList, .flag .ascii), ("output".toList, .setting .output),
    ("tally-outside".toList, .flag .tallyOutside)]

/-- The letters of the options that have one. -/
def letters : List (Char × Switch) :=
  [('h', .flag .help), ('V', .flag .verbose), ('n', .setting .npoints), ('d', .setting .delta),
    ('g', .flag .guess), ('o', .setting .output)]

/-- The option with a long name. -/
def ofName? (name : List Char) : Option Switch := longNames.lookup name

/-- The option with a letter. -/
def ofLetter? (letter : Char) : Option Switch := letters.lookup letter

end Switch

/-- Whether an option takes the next argument even if it begins with a hyphen. -/
def Setting.takesHyphens : Setting → Bool
  | npoints => true
  | delta => true
  | output => false

/-! ## What has been read so far -/

/-- The options and operands read so far. -/
structure Draft where
  operands : List (List Char)
  verbose : Nat
  npoints : Option Int64
  delta : Option Binary64
  guess : Bool
  binary : Bool
  ascii : Bool
  output : Option (List Char)
  tallyOutside : Bool
  deriving DecidableEq, Repr

namespace Draft

/-- Nothing has been read. -/
def empty : Draft := ⟨[], 0, none, none, false, false, false, none, false⟩

/-- The largest count of a flag. -/
def countLimit : Nat := 255

/-- Takes a flag. -/
def flag (d : Draft) : Flag → Except UsageFault Draft
  | .help => .error .help
  | .verbose => .ok { d with verbose := Nat.min countLimit (d.verbose + 1) }
  | .guess => if d.guess then .error .repeated else .ok { d with guess := true }
  | .binary =>
    if d.binary then .error .repeated else .ok { d with binary := true, ascii := false }
  | .ascii =>
    if d.ascii then .error .repeated else .ok { d with ascii := true, binary := false }
  | .tallyOutside =>
    if d.tallyOutside then .error .repeated else .ok { d with tallyOutside := true }

/-- Takes the value of an option. -/
def setting (d : Draft) (value : List Char) : Setting → Except UsageFault Draft
  | .npoints =>
    if d.npoints.isSome then .error .repeated
    else match Text.readInteger value with
      | .ok n => .ok { d with npoints := some n }
      | .error _ => .error .unreadableValue
  | .delta =>
    if d.delta.isSome then .error .repeated
    else match Binary64.ofText? value with
      | some x => .ok { d with delta := some x }
      | none => .error .unreadableValue
  | .output =>
    if d.output.isSome then .error .repeated else .ok { d with output := some value }

/-- Takes an operand. -/
def operand (d : Draft) (text : List Char) : Except UsageFault Draft :=
  if text = [] then .error .missingValue else .ok { d with operands := d.operands ++ [text] }

/-- The options that have been read, at the end of the command line. -/
def finish (d : Draft) : Except UsageFault Options :=
  match d.operands with
  | [model, trace] =>
    .ok
      { model := model
        trace := trace
        verbose := d.verbose
        npoints := d.npoints
        delta := d.delta
        guess := d.guess
        encoding := if d.ascii then .ascii else .binary
        output := d.output.getD Options.defaultOutput
        tallyOutside := d.tallyOutside }
  | _ => .error .missingOperand

end Draft

/-- What has been recognised but not yet taken. -/
inductive Pending where
  | nothing
  /-- An option that still needs its value. -/
  | awaiting (setting : Setting)
  /-- An option with the argument that is its value. -/
  | value (setting : Setting) (value : List Char)
  | operand (text : List Char)
  deriving DecidableEq, Repr

/-- The reading of a command line. -/
structure Scan where
  draft : Draft
  pending : Pending
  /-- Whether only operands may follow. -/
  onlyOperands : Bool
  deriving DecidableEq, Repr

namespace Scan

/-- Before the first argument. -/
def initial : Scan := ⟨.empty, .nothing, false⟩

/-- The draft with what is pending taken. -/
def settle (s : Scan) : Except UsageFault Draft :=
  match s.pending with
  | .nothing => .ok s.draft
  | .awaiting _ => .error .missingValue
  | .value setting value => s.draft.setting value setting
  | .operand text => s.draft.operand text

/-- Takes a flag, after what is pending. -/
def flag (s : Scan) (flag : Flag) : Except UsageFault Scan :=
  match s.settle with
  | .error fault => .error fault
  | .ok draft => (draft.flag flag).map fun draft => { s with draft := draft, pending := .nothing }

/-- Takes an option with a glued value, after what is pending. -/
def glued (s : Scan) (setting : Setting) (value : List Char) : Except UsageFault Scan :=
  match s.settle with
  | .error fault => .error fault
  | .ok draft =>
    (draft.setting value setting).map fun draft => { s with draft := draft, pending := .nothing }

/-- Leaves something pending, after what was pending before. -/
def await (s : Scan) (pending : Pending) : Except UsageFault Scan :=
  s.settle.map fun draft => { s with draft := draft, pending := pending }

/-- The number of operands that have been recognised. -/
def operandCount (s : Scan) : Nat :=
  s.draft.operands.length + match s.pending with
    | .operand _ => 1
    | _ => 0

/-- Recognises an operand, of which there may be two. -/
def operand (s : Scan) (text : List Char) : Except UsageFault Scan :=
  if s.operandCount < 2 then s.await (.operand text) else .error .unknownArgument

/-- Reads an argument behind two hyphens. -/
def long (s : Scan) (text : List Char) : Except UsageFault Scan :=
  let name := text.takeWhile (· != '=')
  match Switch.ofName? name, text.dropWhile (· != '=') with
  | none, _ => .error .unknownArgument
  | some (.flag flag), [] => s.flag flag
  | some (.flag _), _ :: _ => .error .unwantedValue
  | some (.setting setting), [] => s.await (.awaiting setting)
  | some (.setting setting), _ :: value => s.glued setting value

/-- Reads the letters behind one hyphen.  The letters behind an option with a value are its
value. -/
def cluster (s : Scan) : List Char → Except UsageFault Scan
  | [] => .ok s
  | letter :: rest =>
    match Switch.ofLetter? letter with
    | none => .error .unknownArgument
    | some (.flag flag) =>
      match s.flag flag with
      | .error fault => .error fault
      | .ok s => s.cluster rest
    | some (.setting setting) =>
      match rest with
      | [] => s.await (.awaiting setting)
      | '=' :: value => s.glued setting value
      | value => s.glued setting value

/-- Reads an argument that begins with a hyphen only if it is an option. -/
def plain (s : Scan) (arg : List Char) : Except UsageFault Scan :=
  match s.pending with
  | .awaiting setting => .ok { s with pending := .value setting arg }
  | _ => s.operand arg

/-- Reads an argument that is not just a value. -/
def recognise (s : Scan) (arg : List Char) : Except UsageFault Scan :=
  match arg with
  | ['-', '-'] => .ok { s with onlyOperands := true }
  | '-' :: '-' :: text => s.long text
  | ['-'] => s.plain arg
  | '-' :: letters => s.cluster letters
  | _ => s.plain arg

/-- Whether the next argument is a value whatever it looks like. -/
def takesAnything (s : Scan) : Bool :=
  match s.pending with
  | .awaiting setting => setting.takesHyphens
  | _ => false

/-- Reads one argument. -/
def step (s : Scan) (arg : List Char) : Except UsageFault Scan :=
  if s.onlyOperands then s.operand arg
  else if s.takesAnything then s.plain arg
  else s.recognise arg

end Scan

/-- Reads a command line. -/
def Options.ofArguments (args : List (List Char)) : Except UsageFault Options :=
  match args.foldlM Scan.step .initial with
  | .error fault => .error fault
  | .ok s => match s.settle with
    | .error fault => .error fault
    | .ok draft => draft.finish

end Concordance
