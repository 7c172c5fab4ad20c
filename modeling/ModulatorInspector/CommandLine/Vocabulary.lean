namespace ModulatorInspector.CommandLine

inductive Switch where
  | count | gainRange | verbose | debug
  deriving DecidableEq, Repr

inductive Parameter where
  | adapter | bandwidth | device | frequency | configDirectory
  deriving DecidableEq, Repr

inductive Inquiry where
  | help | version
  deriving DecidableEq, Repr

-- A letter asks for a summary, a long name for everything.
inductive Form where
  | summary | full
  deriving DecidableEq, Repr

inductive Term where
  | switch (s : Switch)
  | parameter (p : Parameter)
  | inquiry (i : Inquiry)
  deriving DecidableEq, Repr

namespace Switch

def name : Switch → String
  | .count => "count"
  | .gainRange => "gain-range"
  | .verbose => "verbose"
  | .debug => "debug"

def letter? : Switch → Option Char
  | .count => some 'c'
  | .gainRange => some 'g'
  | .verbose => some 'v'
  | .debug => none

end Switch

namespace Parameter

def name : Parameter → String
  | .adapter => "adapter"
  | .bandwidth => "bandwidth"
  | .device => "device"
  | .frequency => "frequency"
  | .configDirectory => "config-dir"

def letter? : Parameter → Option Char
  | .adapter => some 'a'
  | .bandwidth => some 'b'
  | .device => some 'd'
  | .frequency => some 'f'
  | .configDirectory => none

def placeholder : Parameter → String
  | .adapter => "N"
  | .bandwidth => "MHZ"
  | .device => "NAME"
  | .frequency => "HZ"
  | .configDirectory => "DIR"

end Parameter

namespace Inquiry

def name : Inquiry → String
  | .help => "help"
  | .version => "version"

def letter : Inquiry → Char
  | .help => 'h'
  | .version => 'V'

end Inquiry

namespace Term

def all : List Term :=
  [.parameter .adapter, .parameter .bandwidth, .switch .count, .parameter .device,
   .parameter .frequency, .switch .gainRange, .switch .verbose, .switch .debug,
   .parameter .configDirectory, .inquiry .help, .inquiry .version]

def name : Term → String
  | .switch s => s.name
  | .parameter p => p.name
  | .inquiry i => i.name

def letter? : Term → Option Char
  | .switch s => s.letter?
  | .parameter p => p.letter?
  | .inquiry i => some i.letter

def shown : Term → String
  | .parameter p => "--" ++ p.name ++ " <" ++ p.placeholder ++ ">"
  | term => "--" ++ term.name

-- Names are taken whole: no beginning of a name stands for it.
def ofName? (name : List Char) : Option Term := all.find? fun term => term.name.toList = name

def ofLetter? (letter : Char) : Option Term := all.find? fun term => term.letter? = some letter

end Term

end ModulatorInspector.CommandLine
