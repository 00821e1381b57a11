/-!
# Usage and help
-/

namespace TapeMachine
namespace Cli

def programName : String :=
  "bf-interp"

def usage : String :=
  "usage: bf-interp [-h] [-r] [-b] [-w] [-s BUFFER_SIZE] [-i] [--raw] [-c CONFIG]\n" ++
  "                 [-v] [--log-file LOG_FILE]\n" ++
  "                 input\n"

def help : String :=
  usage ++
  "\n" ++
  "Run Brainfuck programs\n" ++
  "\n" ++
  "positional arguments:\n" ++
  "  input                 The *.bf file, or the program text in interpret mode\n" ++
  "\n" ++
  "options:\n" ++
  "  -h, --help            show this help message and exit\n" ++
  "  -r, --realtime        Realtime input mode\n" ++
  "  -b, --binary-input    Binary input mode\n" ++
  "  -w, --wrap-buffer     Wrap buffer instead of overflow exception\n" ++
  "  -s BUFFER_SIZE, --buffer-size BUFFER_SIZE\n" ++
  "                        Sets the buffer size. Default 30000\n" ++
  "  -i, --interpret       Parse the CLI input\n" ++
  "  --raw                 Process input raw without scrubbing\n" ++
  "  -c CONFIG, --config CONFIG\n" ++
  "                        YAML file with interpreter options\n" ++
  "  -v, --verbose         More logging (-vv for debug)\n" ++
  "  --log-file LOG_FILE   Also write logs to this file\n"

def complaint (text : String) : String :=
  usage ++ programName ++ ": error: " ++ text ++ "\n"

end Cli
end TapeMachine
