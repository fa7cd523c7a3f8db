import MeterSync.Text.Digit

/-!
# The command line

Options are taken from left to right, and the first thing that is wrong or that asks for help
settles the matter. A value may be attached to its option or follow it; it then must not look like
an option itself. No option may be repeated, and nothing but options is expected.
-/

set_option autoImplicit false

namespace MeterSync

inductive Choice where
  | config
  | logLevel
  | jsonLogs
  | once
  | interval
  | help
  | version
deriving DecidableEq, Repr

namespace Choice

/-- All options, in the order in which they are listed. -/
def all : List Choice :=
  [.config, .logLevel, .jsonLogs, .once, .interval, .help, .version]

def name : Choice → String
  | .config => "config"
  | .logLevel => "log-level"
  | .jsonLogs => "json-logs"
  | .once => "once"
  | .interval => "interval-ms"
  | .help => "help"
  | .version => "version"

def letter? : Choice → Option Char
  | .config => some 'c'
  | .logLevel => some 'l'
  | .jsonLogs => none
  | .once => none
  | .interval => none
  | .help => some 'h'
  | .version => some 'V'

def takesValue : Choice → Bool
  | .config => true
  | .logLevel => true
  | .interval => true
  | .jsonLogs => false
  | .once => false
  | .help => false
  | .version => false

def ofName? (text : String) : Option Choice :=
  all.find? fun choice => choice.name = text

def ofLetter? (c : Char) : Option Choice :=
  all.find? fun choice => choice.letter? = some c

end Choice

inductive UsageError where
  | unknown (argument : String)
  | stray (argument : String)
  | missingValue (choice : Choice)
  | surplusValue (choice : Choice)
  | repeated (choice : Choice)
  | badValue (choice : Choice) (value : String)
  | noConfig
deriving DecidableEq, Repr

def UsageError.message : UsageError → String
  | .unknown argument => s!"unexpected argument '{argument}' found"
  | .stray argument => s!"unexpected argument '{argument}' found"
  | .missingValue choice => s!"a value is required for '--{choice.name}' but none was supplied"
  | .surplusValue choice => s!"the argument '--{choice.name}' takes no value"
  | .repeated choice => s!"the argument '--{choice.name}' cannot be used multiple times"
  | .badValue choice value => s!"invalid value '{value}' for '--{choice.name}'"
  | .noConfig => "the argument '--config' is required"

structure Arguments where
  config : String
  logLevel : String
  jsonLogs : Bool
  once : Bool
  interval : Option UInt64
deriving DecidableEq, Repr

inductive Command where
  | run (arguments : Arguments)
  | help
  | version
deriving DecidableEq, Repr

namespace CommandLine

/-- An argument that looks like an option. A single dash does not. -/
def isOption (argument : String) : Bool :=
  match argument.toList with
  | '-' :: _ :: _ => true
  | _ => false

/-- The number of an interval, behind an optional plus sign. -/
def interval? (value : String) : Option UInt64 :=
  let digits :=
    match value.toList with
    | '+' :: digits => digits
    | digits => digits
  (ofDigits? 10 digits).bind fun number =>
    if number < UInt64.size then some (.ofNat number) else none

/-- The options read so far, with the values of those that take one. -/
abbrev Given := List (Choice × String)

/-- One more option. Only a path that is not empty and an interval that is a number are values of
theirs. -/
def give (given : Given) (choice : Choice) (value : String) : Except UsageError Given :=
  if (given.lookup choice).isSome then .error (.repeated choice)
  else if choice = .config ∧ value = "" then .error (.badValue choice value)
  else if choice = .interval ∧ interval? value = none then .error (.badValue choice value)
  else .ok (given ++ [(choice, value)])

/-- The request for which all options have been read. -/
def finish (given : Given) : Except UsageError Command :=
  match given.lookup .config with
  | none => .error .noConfig
  | some config =>
    .ok (.run
      { config
        logLevel := (given.lookup .logLevel).getD "info"
        jsonLogs := (given.lookup .jsonLogs).isSome
        once := (given.lookup .once).isSome
        interval := (given.lookup .interval).bind interval? })

/-- An argument as an option and the value attached to it. A long name ends at an equals sign; the
value behind a letter may start with one. -/
def split (argument : String) : Except UsageError (Choice × Option String) :=
  match argument.toList with
  | '-' :: '-' :: cs =>
    let name := cs.takeWhile (· ≠ '=')
    let attached := (cs.dropWhile (· ≠ '=')).tail?
    match Choice.ofName? (String.ofList name) with
    | none => .error (.unknown argument)
    | some choice => .ok (choice, attached.map String.ofList)
  | '-' :: c :: cs =>
    match Choice.ofLetter? c with
    | none => .error (.unknown argument)
    | some choice =>
      if choice.takesValue then
        match cs with
        | [] => .ok (choice, none)
        | '=' :: value => .ok (choice, some (String.ofList value))
        | value => .ok (choice, some (String.ofList value))
      else .ok (choice, none)
  | _ => .error (.stray argument)

/-- Reads the options behind those that have been read. -/
def readFrom (given : Given) : List String → Except UsageError Command
  | [] => finish given
  | ["--"] => finish given
  | "--" :: argument :: _ => .error (.stray argument)
  | argument :: rest => do
    let (choice, attached) ← split argument
    if choice.takesValue then
      match attached, rest with
      | some value, rest => readFrom (← give given choice value) rest
      | none, value :: rest =>
        if isOption value then .error (.missingValue choice)
        else readFrom (← give given choice value) rest
      | none, [] => .error (.missingValue choice)
    else if attached.isSome then .error (.surplusValue choice)
    else
      match choice with
      | .help => .ok .help
      | .version => .ok .version
      | choice => readFrom (← give given choice "") rest

def read (arguments : List String) : Except UsageError Command :=
  readFrom [] arguments

def versionText : String := "meteragent 0.1.0\n"

def helpText : String :=
  "P4Runtime Meter Synchronization Agent\n\n" ++
  "Usage: meteragent [OPTIONS] --config <CONFIG>\n\n" ++
  "Options:\n" ++
  "  -c, --config <CONFIG>            Path to the YAML configuration file\n" ++
  "  -l, --log-level <LOG_LEVEL>      Log level (trace, debug, info, warn, error) " ++
  "[default: info]\n" ++
  "      --json-logs                  Emit logs as JSON\n" ++
  "      --once                       Apply operations, reconcile once, print the result " ++
  "and exit\n" ++
  "      --interval-ms <INTERVAL_MS>  Override the reconciliation interval in milliseconds\n" ++
  "  -h, --help                       Print help\n" ++
  "  -V, --version                    Print version\n"

end CommandLine

end MeterSync
