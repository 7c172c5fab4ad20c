import ModulatorInspector.CommandLine.Vocabulary
import ModulatorInspector.Diagnostics.Event
import ModulatorInspector.Text.Plain

namespace ModulatorInspector.CommandLine.Help

def purpose : String := "Command-line inspector for HiDes USB DVB-T modulator devices"

def directoryVariable : String := "HIDES_CONFIG_DIR"

def explanation : Form → Term → String
  | _, .switch .count => "Only display the number of devices"
  | _, .switch .gainRange =>
      "Display the allowed range of output gain for the device, using the specified frequency " ++
        "and bandwidth"
  | _, .switch .verbose => "Produce verbose output"
  | _, .switch .debug => "Emit debug diagnostics on stderr"
  | _, .parameter .adapter => "HiDes adapter number to list. By default, list all HiDes devices"
  | _, .parameter .bandwidth => "Bandwidth in MHz with --gain-range [default: 8]"
  | _, .parameter .device => "HiDes device name or path to list. By default, list all HiDes devices"
  | _, .parameter .frequency =>
      "Frequency, in Hz, of the output carrier with --gain-range [default: first UHF channel]"
  | _, .parameter .configDirectory => "Directory holding config.toml"
  | .summary, .inquiry .help => "Print help (see more with '--help')"
  | .full, .inquiry .help => "Print help (see a summary with '-h')"
  | _, .inquiry .version => "Print version"

def blanks (count : Nat) : String := String.ofList (List.replicate count ' ')

structure Entry where
  lead : String
  body : String
  deriving DecidableEq, Repr

def lead (term : Term) : String := if term.letter?.isSome then "  " else "      "

def names (term : Term) : String :=
  (match term.letter? with
    | some letter => "-" ++ String.singleton letter ++ ", "
    | none => "") ++ term.shown

def variableNote (directory : Option String) : String :=
  "[env: " ++ directoryVariable ++ "=" ++ directory.getD "" ++ "]"

def indented (width : Nat) (text : String) : String :=
  String.ofList (text.toList.flatMap fun c =>
    if c = '\n' then '\n' :: List.replicate width ' ' else [c])

def summaryWidth : Nat := 26
def fullWidth : Nat := 10

def summaryNote (directory : Option String) : Term → String
  | .parameter .bandwidth =>
      " [possible values: " ++ ", ".intercalate (Bandwidth.all.map Bandwidth.name) ++ "]"
  | .parameter .configDirectory => " " ++ variableNote directory
  | _ => ""

def summaryEntry (directory : Option String) (term : Term) : Entry where
  lead := lead term
  body := names term ++ blanks (summaryWidth - (lead term ++ names term).length)
    ++ indented summaryWidth (explanation .summary term ++ summaryNote directory term) ++ "\n"

def choiceLine (b : Bandwidth) : String :=
  blanks fullWidth ++ "- " ++ b.name ++ ": " ++ b.label ++ " MHz channel\n"

def fullNote (directory : Option String) : Term → String
  | .parameter .bandwidth =>
      "\n" ++ blanks fullWidth ++ "Possible values:\n" ++ String.join (Bandwidth.all.map choiceLine)
  | .parameter .configDirectory =>
      blanks fullWidth ++ "\n" ++
        blanks fullWidth ++ indented fullWidth (variableNote directory) ++ "\n"
  | _ => ""

def fullEntry (directory : Option String) (term : Term) : Entry where
  lead := lead term
  body := names term ++ "\n" ++ blanks fullWidth ++ explanation .full term ++ "\n"
    ++ fullNote directory term

def usage : String :=
  purpose ++ "\n\nUsage: " ++ Diagnostics.programName ++ " [OPTIONS]\n\nOptions:\n"

-- Names are in a style of their own, so a run of one style reaches to the names of the next entry.
def runs (gap : String) : String → List Entry → List String
  | before, [] => [before]
  | before, [last] => [before ++ last.lead, last.body]
  | before, entry :: rest => (before ++ entry.lead) :: runs gap (entry.body ++ gap) rest

def summary (directory : Option String) : List String :=
  runs "" usage (Term.all.map (summaryEntry directory))

def full (directory : Option String) : List String :=
  runs "\n" usage (Term.all.map (fullEntry directory))

def version : String := Diagnostics.programName ++ " " ++ Diagnostics.programVersion ++ "\n"

def answer (use : Plain.Use) (directory : Option String) : Inquiry → Form → String
  | .version, _ => version
  | .help, .summary => Plain.visibleRuns use (summary directory)
  | .help, .full => Plain.visibleRuns use (full directory)

end ModulatorInspector.CommandLine.Help
