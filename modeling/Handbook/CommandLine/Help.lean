import Handbook.CommandLine.Flag

/-! What the program says about itself. Commands and flags are listed in two columns, the second of
which begins at one place for all lines of a list. -/
namespace Handbook.CommandLine

/-- The commands of the program. -/
inductive Command where
  | serve
  | render
  | help
  deriving DecidableEq, Repr

namespace Command

/-- All commands, in the order in which they are listed. -/
def all : List Command := [.serve, .render, .help]

/-- The word for the command. -/
def word : Command → String
  | serve => "serve"
  | render => "render"
  | help => "help"

/-- The command that a word names. -/
def ofWord? (text : String) : Option Command := all.find? fun command => command.word == text

/-- What the command does. -/
def about : Command → String
  | serve => "Serve pages over HTTP"
  | render => "Render one page to stdout"
  | help => "Print this message or the help of the given subcommand(s)"

/-- The flags that may follow the command. -/
def flags : Command → List Flag
  | serve => [.addr, .help]
  | render => [.help]
  | help => []

/-- How the command is used. -/
def usage : Command → String
  | serve => "serve [OPTIONS]"
  | render => "render <PAGE>"
  | help => "help [COMMAND]..."

/-- The words that the command takes, and what they mean. -/
def words : Command → List (String × String)
  | serve => []
  | render => [("<PAGE>", "")]
  | help => [("[COMMAND]...", "Print help for the subcommand(s)")]

end Command

/-- The flags that may stand before a command. -/
def programFlags : List Flag :=
  [.root, .linkStyle, .noRibbon, .timeout, .verbose, .quiet, .help, .version]

/-- The variable that gives the root where no flag does. -/
def rootVariable : String := "DOCSHELL_ROOT"

/-- The root where nothing else gives it. -/
def defaultRoot : String := "."

/-- What a flag does, where `rootGiven` is the root that the environment gives. -/
def Flag.about (rootGiven : Option String) : Flag → String
  | root =>
    "Directory holding the header/footer fragments and static assets [env: " ++ rootVariable ++
      "=" ++ rootGiven.getD "" ++ "] [default: " ++ defaultRoot ++ "]"
  | linkStyle => "[default: plain] [possible values: plain, emphasized]"
  | noRibbon => "Leave the fork ribbon out of every page"
  | timeout =>
    "Timeout in seconds for fetching page content [default: " ++ toString defaultTimeout ++ "]"
  | verbose => ""
  | quiet => ""
  | addr => "[default: " ++ defaultAddress ++ "]"
  | help => "Print help"
  | version => "Print version"

/-- A flag with both of its spellings. -/
def Flag.spellings (flag : Flag) : String :=
  (match flag.short? with
    | some letter => String.ofList ['-', letter, ',', ' ']
    | none => "    ") ++ flag.shown

/-- Lines in two columns. -/
def columns (rows : List (String × String)) : String :=
  let width := (rows.map fun row => row.1.length).foldl max 0
  String.join (rows.map fun (left, right) =>
    "  " ++ left ++ String.ofList (List.replicate (width + 2 - left.length) ' ') ++ right ++ "\n")

/-- Lines in two columns under a heading, or nothing where there are no lines. -/
def listing (heading : String) (rows : List (String × String)) : String :=
  if rows.isEmpty then "" else "\n" ++ heading ++ ":\n" ++ columns rows

/-- The flags under their heading. -/
def flagListing (rootGiven : Option String) (flags : List Flag) : String :=
  listing "Options" (flags.map fun flag => (flag.spellings, flag.about rootGiven))

/-- The help for the program, or for one of its commands. -/
def helpText (rootGiven : Option String) : Option Command → String
  | none =>
    "Serve the Mechanic documentation site\n\nUsage: " ++ programName ++
      " [OPTIONS] <COMMAND>\n" ++
      listing "Commands" (Command.all.map fun command => (command.word, command.about)) ++
      flagListing rootGiven programFlags
  | some command =>
    command.about ++ "\n\nUsage: " ++ programName ++ " " ++ command.usage ++ "\n" ++
      listing "Arguments" command.words ++ flagListing rootGiven command.flags

/-- The name and the version of the program. -/
def versionText : String := programName ++ " " ++ programVersion ++ "\n"

end Handbook.CommandLine
