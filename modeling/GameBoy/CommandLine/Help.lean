/-!
# Help

What the program says about itself and its arguments.
-/

namespace GameBoy.CommandLine

/-- The name of the program and its version. -/
def versionText : String := "dmg-core 0.1.0\n"

/-- How the program is called. -/
def usageText : String := "USAGE:\n    dmg-core [FLAGS] [OPTIONS] <ROM>\n"

/-- What is printed when help is asked for. -/
def helpText : String :=
  versionText
    ++ "Runs a Game Boy cartridge on the CPU and memory bus, headless\n\n"
    ++ usageText
    ++ "\nFLAGS:\n"
    ++ "    -h, --help            Prints help information\n"
    ++ "        --quiet-serial    Do not echo serial output to stdout\n"
    ++ "        --strict          Stop on writes into cartridge ROM\n"
    ++ "        --trace           Log every executed instruction\n"
    ++ "    -V, --version         Prints version information\n"
    ++ "\nOPTIONS:\n"
    ++ "        --boot <FILE>    Boot ROM mapped over 0x0000-0x00ff\n"
    ++ "        --ticks <N>      Stop after N CPU ticks\n"
    ++ "\nARGS:\n"
    ++ "    <ROM>    Cartridge image\n"

end GameBoy.CommandLine
