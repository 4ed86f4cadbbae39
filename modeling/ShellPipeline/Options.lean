import ShellPipeline.Settings

/-!
# Command-line arguments

The arguments up to a `--` are flags and lines, those behind it are lines. A word that begins with
two dashes and is no flag is refused; any other word is a line.
-/

namespace ShellPipeline

/-- What the arguments ask for. -/
structure Options where
  /-- How pipelines are shown, if a flag says so; the last such flag counts. -/
  format : Option Format
  /-- Whether JSON is to be written with one item a line. -/
  pretty : Bool
  /-- Whether the settings are to be shown instead. -/
  dumpSettings : Bool
  /-- Whether the usage is to be shown instead. -/
  help : Bool
  lines : List String
  deriving DecidableEq, Repr

inductive OptionError
  | unknown (word : String)
  deriving DecidableEq, Repr

def OptionError.message : OptionError → String
  | .unknown word => "unknown option: " ++ word

namespace Options

def empty : Options := ⟨none, false, false, false, []⟩

def isDashed (word : String) : Bool := ['-', '-'].isPrefixOf word.toList

/-- The options with the words of more arguments. -/
def read (o : Options) : List String → Except OptionError Options
  | [] => .ok o
  | word :: words =>
    match word with
    | "--json" => read { o with format := some .json } words
    | "--text" => read { o with format := some .text } words
    | "--pretty" => read { o with pretty := true } words
    | "--dump-config" => read { o with dumpSettings := true } words
    | "-h" => read { o with help := true } words
    | "--help" => read { o with help := true } words
    | "--" => .ok { o with lines := o.lines ++ words }
    | _ =>
      if isDashed word then .error (.unknown word)
      else read { o with lines := o.lines ++ [word] } words

def ofArguments (arguments : List String) : Except OptionError Options := empty.read arguments

end Options

/-- Settings changed by the flags of the arguments. -/
def Settings.withOptions (s : Settings) (o : Options) : Settings :=
  { s with format := o.format.getD s.format, pretty := o.pretty || s.pretty }

def usage : String :=
  "usage: shpipe [--json | --text] [--pretty] [--dump-config] [LINE...]\n\n" ++
  "Parses each LINE (or each line of stdin) as a shell pipeline and prints\n" ++
  "its processes, commands and redirections.\n\n" ++
  "  --json         print JSON\n" ++
  "  --text         print the Proc(...) view (default)\n" ++
  "  --pretty       pretty-print JSON\n" ++
  "  --dump-config  print the merged configuration and exit\n" ++
  "  -h, --help     show this help"

end ShellPipeline
