import VcpuPinning.CommandLine.Arguments

/-!
# Help

What the command line prints when it is asked for help.
-/

namespace VcpuPinning.CommandLine

/-- The option that names the settings file. -/
def configOption : String :=
  "  -c, --config <CONFIG>          Path to pinwheel.toml. Built-in defaults are used when omitted\n"

/-- The options that follow those of a command. -/
def lastOptions : String :=
  "      --log-format <LOG_FORMAT>  Log output format [default: text] [possible values: text, json]\n" ++
  "  -h, --help                     Print help\n"

/-- The text that answers a request for help. -/
def helpText : Topic → String
  | .program =>
      "pinwheel vCPU pinning daemon\n\n" ++
      "Usage: pinwheeld [OPTIONS] <COMMAND>\n\n" ++
      "Commands:\n" ++
      "  conductor  Run the conductor (mapping store and reconciliation)\n" ++
      "  agent      Run the host agent\n" ++
      "  compile    Compile a CPU range specification and print the bitmap\n" ++
      "  help       Print this message or the help of the given subcommand(s)\n\n" ++
      "Options:\n" ++ configOption ++ lastOptions
  | .command .conductor =>
      "Run the conductor (mapping store and reconciliation)\n\n" ++
      "Usage: pinwheeld conductor [OPTIONS]\n\n" ++
      "Options:\n" ++ configOption ++ lastOptions
  | .command .agent =>
      "Run the host agent\n\n" ++
      "Usage: pinwheeld agent [OPTIONS]\n\n" ++
      "Options:\n" ++ configOption ++ lastOptions
  | .command .compile =>
      "Compile a CPU range specification and print the bitmap\n\n" ++
      "Usage: pinwheeld compile [OPTIONS] --cpus <CPUS> <SPEC>\n\n" ++
      "Arguments:\n" ++
      "  <SPEC>  \n\n" ++
      "Options:\n" ++ configOption ++
      "      --cpus <CPUS>              Host CPU count to compile against\n" ++ lastOptions
  | .help =>
      "Print this message or the help of the given subcommand(s)\n\n" ++
      "Usage: pinwheeld help [COMMAND]...\n\n" ++
      "Arguments:\n" ++
      "  [COMMAND]...  Print help for the subcommand(s)\n"

end VcpuPinning.CommandLine
