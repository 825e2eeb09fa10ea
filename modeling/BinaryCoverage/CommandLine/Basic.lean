/-!
# Command lines

A command line names what to do and gives options, each with one value: the next argument, or what
follows an equals sign.  This file defines:

* `CommandLine.readOptions` — the values of options;
* `Invocation.read` — what a command line asks for;
* `Complaint.text` — what is said when it cannot be done.
-/

namespace BinaryCoverage

inductive SummaryFormat where
  | text
  | json
  deriving DecidableEq, Repr

def SummaryFormat.ofName? : String → Option SummaryFormat
  | "text" => some .text
  | "json" => some .json
  | _ => none

inductive Invocation where
  | correlate (config : String) (localWorkspace output : Option String)
  | report (workspace document tracefile diagnostics : String)
  | summary (document : String) (format : SummaryFormat)
  | version
  | help
  deriving DecidableEq, Repr

/-! ## Options -/

namespace CommandLine

/-- Why the reading of options stops early: they are misused, or ask for help. -/
inductive Stop where
  | misuse
  | help
  deriving DecidableEq, Repr

/-- The values of options by name. -/
abbrev Values : Type := List (String × String)

/-- The name and the attached value of an option that begins with two dashes. -/
def longOption? (argument : String) : Option (String × Option String) :=
  match argument.toList with
  | '-' :: '-' :: cs =>
      let name := cs.takeWhile (· != '=')
      let value := match cs.dropWhile (· != '=') with
        | _ :: value => some (String.ofList value)
        | [] => none
      some (String.ofList name, value)
  | _ => none

/-- Whether an argument cannot be the value of an option: more than one dash alone. -/
def isOption (argument : String) : Bool :=
  match argument.toList with
  | '-' :: _ :: _ => true
  | _ => false

/-- Whether a value is one that the option takes. -/
def accepts (name value : String) : Bool :=
  name ≠ "format" || (SummaryFormat.ofName? value).isSome

/-- Adds a value, which an option takes only once. -/
def addValue (values : Values) (name value : String) : Except Stop Values :=
  if (values.lookup name).isSome || !accepts name value then .error .misuse
  else .ok ((name, value) :: values)

/-- Whether an argument asks for help. -/
def asksForHelp (argument : String) : Bool :=
  argument = "--help" ||
    match argument.toList with
    | '-' :: 'h' :: _ => true
    | _ => false

/-- What an argument is where an option may stand. -/
inductive Argument where
  | help
  | unknown
  /-- An option whose value is the next argument. -/
  | named (name : String)
  /-- An option with its value attached. -/
  | filled (name value : String)
  deriving DecidableEq, Repr

def Argument.of (known : List String) (argument : String) : Argument :=
  if asksForHelp argument then .help
  else
    match longOption? argument with
    | some (name, none) => if known.contains name then .named name else .unknown
    | some (name, some value) => if known.contains name then .filled name value else .unknown
    | none => .unknown

/-- The values of options among those that are known.  Nothing else may be given, but for two
dashes at the end. -/
def readOptions (known : List String) (values : Values) : List String → Except Stop Values
  | [] => .ok values
  -- The last argument can be no name, as no value is left for it.
  | [argument] =>
      match Argument.of known argument with
      | .help => .error .help
      | .filled name value => addValue values name value
      | .named _ => .error .misuse
      | .unknown => if argument = "--" then .ok values else .error .misuse
  | argument :: next :: rest =>
      match Argument.of known argument with
      | .help => .error .help
      | .filled name value =>
          match addValue values name value with
          | .ok values => readOptions known values (next :: rest)
          | .error stop => .error stop
      | .named name =>
          if isOption next then .error .misuse
          else
            match addValue values name next with
            | .ok values => readOptions known values rest
            | .error stop => .error stop
      | .unknown => .error .misuse

end CommandLine

/-! ## Invocations -/

namespace Invocation

open CommandLine

/-- The invocation that values of options make up; nothing if a needed one is missing. -/
def correlateOf? (values : Values) : Option Invocation := do
  some (.correlate (← values.lookup "config") (values.lookup "local-workspace")
    (values.lookup "output"))

def reportOf? (values : Values) : Option Invocation := do
  some (.report (← values.lookup "workspace") (← values.lookup "json")
    ((values.lookup "info").getD "coverage.info")
    ((values.lookup "diagnostics").getD "error_log.txt"))

def summaryOf? (values : Values) : Option Invocation := do
  let format := ((values.lookup "format").bind SummaryFormat.ofName?).getD .text
  some (.summary (← values.lookup "json") format)

/-- Reads the options of a command. -/
def withOptions (known : List String) (of? : Values → Option Invocation)
    (arguments : List String) : Option Invocation :=
  match readOptions known [] arguments with
  | .ok values => of? values
  | .error .help => some .help
  | .error .misuse => none

/-- What a command line asks for; nothing if it is misused. -/
def read? : List String → Option Invocation
  | "correlate" :: rest => withOptions ["config", "local-workspace", "output"] correlateOf? rest
  | "report" :: rest => withOptions ["workspace", "json", "info", "diagnostics"] reportOf? rest
  | "summary" :: rest => withOptions ["json", "format"] summaryOf? rest
  | ["help"] => some .help
  | ["help", command] =>
      if ["correlate", "report", "summary", "help"].contains command then some .help else none
  | "--version" :: _ => some .version
  | argument :: _ =>
      if asksForHelp argument then some .help
      else
        match argument.toList with
        | '-' :: 'V' :: _ => some .version
        | _ => none
  | [] => none

end Invocation

/-! ## Complaints -/

/-- What could not be done, and why, from the nearest cause to the first one. -/
structure Complaint where
  what : String
  causes : List String
  deriving DecidableEq, Repr

namespace Complaint

/-- A cause after its mark, with its further lines below its first one. -/
def marked (mark cause : String) : String :=
  mark ++ String.intercalate ("\n" ++ String.ofList (List.replicate mark.length ' '))
    (cause.splitOn "\n")

/-- Causes with their numbers in front. -/
def numbered (first : Nat) : List String → List String
  | [] => []
  | cause :: rest => marked s!"    {first}: " cause :: numbered (first + 1) rest

def causeLines : List String → List String
  | [] => []
  | [cause] => ["", "Caused by:", marked "    " cause]
  | causes => "" :: "Caused by:" :: numbered 0 causes

/-- The complaint as it is written. -/
def text (c : Complaint) : String :=
  String.intercalate "\n" (s!"Error: {c.what}" :: causeLines c.causes)

end Complaint

end BinaryCoverage
