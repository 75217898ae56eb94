import AccessProbe.CommandLine.Basic
import AccessProbe.Version

/-! The help of the program and of its subcommands. -/

namespace AccessProbe.CommandLine

/-- The description of an option in help. -/
def Flag.about : Flag → String
  | .config =>
    "The path to a configuration file. Arguments given on the command line take precedence over the"
      ++ " configuration file"
  | .target =>
    "The URL of the Cenarius server. A bare \x60host:port\x60 is taken to mean \x60http://host:port\x60."
      ++ " Defaults to http://localhost:8080"
  | .login => "Login of the user to authenticate as"
  | .password => "Password of the user to authenticate as"
  | .header =>
    "Custom (static) headers that should be added to each request, as a YAML map of header names to values"
  | .requestTimeout =>
    "Per-request time-out in milliseconds. Without it, requests wait for the server indefinitely"
  | .logLevel =>
    "Log level to output. This flag takes precedence over the environment variable."
      ++ " [possible values: off, error, warn, debug, info, trace]"

/-- The variable of an option, with its value except for the password. -/
def Flag.environmentText (flag : Flag) (env : List (String × String)) : String :=
  match flag.environmentName? with
  | none => ""
  | some name =>
    -- The value of the password is not printed.
    if flag = .password then " [env: " ++ name ++ "]"
    else " [env: " ++ name ++ "=" ++ (env.lookup name).getD "" ++ "]"

/-- The paragraph of an option in help. -/
def Flag.help (flag : Flag) (env : List (String × String)) : String :=
  "      " ++ (Argument.flag flag).text ++ "\n          " ++ flag.about ++ flag.environmentText env ++ "\n"

/-- A word padded with blanks on the right. -/
def padded (width : Nat) (word : String) : String :=
  word ++ String.ofList (List.replicate (width - word.length) ' ')

def generalHelp : String :=
  about ++ "\n\nUsage: " ++ programName ++ " <COMMAND>\n\nCommands:\n"
    ++ String.join (Subcommand.all.map fun subcommand =>
      "  " ++ padded 13 subcommand.word ++ subcommand.about ++ "\n")
    ++ "\nOptions:\n  -h, --help  Print help\n"

/-- The description of the argument `KIND`. -/
def kindHelp : String :=
  "\nArguments:\n  <KIND>  Type of secret. One of: l/login/password/lp, c/credit/card/cc/creditcard,"
    ++ " t/text/secrettext, f/file/secretfile\n"

/-- The help of a subcommand, which shows the values of the environment as they are. -/
def Subcommand.helpText (subcommand : Subcommand) (env : List (String × String)) : String :=
  let usage := subcommand.about ++ "\n\nUsage: " ++ programName ++ " " ++ subcommand.word
  match subcommand with
  | .help => usage ++ " [COMMAND]...\n\nArguments:\n  [COMMAND]...  Print help for the subcommand(s)\n"
  | .version => usage ++ "\n\nOptions:\n  -h, --help  Print help\n"
  | _ =>
    usage ++ " [OPTIONS]" ++ (if subcommand = .list then " <KIND>\n" ++ kindHelp else "\n") ++ "\nOptions:\n"
      ++ String.join (Flag.all.map (·.help env)) ++ "  -h, --help\n          Print help\n"

/-- Help for a topic, with control characters of the environment removed as for a terminal. -/
def help (env : List (String × String)) : Option Subcommand → String
  | none => generalHelp
  | some subcommand => String.ofList (Terminal.printed (subcommand.helpText env).toList)

end AccessProbe.CommandLine
