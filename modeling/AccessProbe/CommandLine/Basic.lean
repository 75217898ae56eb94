import AccessProbe.Configuration
import AccessProbe.SecretKind
import AccessProbe.Text.Terminal

/-! Options, subcommands and usage errors of the command line. -/

namespace AccessProbe.CommandLine

/-- The options with a value that every subcommand for the server takes. -/
inductive Flag where
  | config
  | target
  | login
  | password
  | header
  | requestTimeout
  | logLevel
  deriving DecidableEq, Repr

namespace Flag

/-- Every option, in the order in which help lists them. -/
def all : List Flag := [.config, .target, .login, .password, .header, .requestTimeout, .logLevel]

/-- The name of an option, without its dashes. -/
def long : Flag → String
  | .config => "config"
  | .target => "target"
  | .login => "login"
  | .password => "password"
  | .header => "header"
  | .requestTimeout => "request-timeout"
  | .logLevel => "log-level"

/-- The name that messages show in place of the value of an option. -/
def placeholder : Flag → String
  | .config => "CONFIG_FILE.YAML"
  | .target => "TARGET"
  | .login => "LOGIN"
  | .password => "PASSWORD"
  | .header => "STATIC_HEADERS.YAML"
  | .requestTimeout => "REQUEST_TIMEOUT"
  | .logLevel => "LOG_LEVEL"

/-- The environment variable that an option falls back to. -/
def environmentName? : Flag → Option String
  | .target => some "CENARIUS_SERVER_ADDR"
  | .login => some "CENARIUS_LOGIN"
  | .password => some "CENARIUS_PASSWORD"
  | .logLevel => some "CENARIUS_LOG_LEVEL"
  | .config | .header | .requestTimeout => none

def ofLong? (name : String) : Option Flag := all.find? (·.long = name)

end Flag

/-- An option, or the argument `KIND` of the subcommand `list`. -/
inductive Argument where
  | flag (flag : Flag)
  | kind
  deriving DecidableEq, Repr

/-- An argument as help and error messages show it. -/
def Argument.text : Argument → String
  | .flag option => "--" ++ option.long ++ " <" ++ option.placeholder ++ ">"
  | .kind => "<KIND>"

/-- The first word of the command line. -/
inductive Subcommand where
  /-- Prints the version. -/
  | version
  /-- Logs in, then calls the health endpoint with the cookies of the login. -/
  | session
  /-- Calls three private endpoints with the token header. -/
  | token
  /-- Registers a new user. -/
  | register
  /-- Lists the secrets of one kind. -/
  | list
  /-- Calls every private endpoint to verify the credentials. -/
  | verifyAuth
  /-- Prints help. -/
  | help
  deriving DecidableEq, Repr

namespace Subcommand

/-- Every subcommand, in the order in which help lists them. -/
def all : List Subcommand := [.version, .session, .token, .register, .list, .verifyAuth, .help]

def word : Subcommand → String
  | .version => "version"
  | .session => "session"
  | .token => "token"
  | .register => "register"
  | .list => "list"
  | .verifyAuth => "verify-auth"
  | .help => "help"

/-- The description of a subcommand in help. -/
def about : Subcommand → String
  | .version => "Print the version and exit"
  | .session =>
    "Log in with the credentials, then call the health endpoint reusing the session cookies the server"
      ++ " handed out"
  | .token =>
    "Call the health, loginwithpasswords and creditcards endpoints, sending the credentials in the"
      ++ " X-Cenarius-Token header"
  | .register => "Register the credentials as a new user"
  | .list => "List the stored secrets of one kind"
  | .verifyAuth =>
    "Verify the credentials by calling every private endpoint and checking for \"401 Unauthorized\""
  | .help => "Print this message or the help of the given subcommand(s)"

def ofWord? (word : String) : Option Subcommand := all.find? (·.word = word)

/-- Only the subcommands that call the server take the options. -/
def takesFlags : Subcommand → Bool
  | .version | .help => false
  | _ => true

end Subcommand

/-- A subcommand that calls the server. -/
inductive Task where
  /-- Logs in and uses the session. -/
  | session
  /-- Tries the token. -/
  | token
  /-- Makes the user known. -/
  | register
  /-- Lists secrets of a kind. -/
  | list (kind : SecretKind)
  /-- Verifies the credentials. -/
  | verifyAuth
  deriving DecidableEq, Repr

/-- What a command line that is accepted asks for. -/
inductive Command where
  /-- To print the version. -/
  | version
  /-- To run a task with the settings of the command line and the environment. -/
  | run (task : Task) (settings : Settings)
  deriving DecidableEq, Repr

/-- Why a command line is not accepted. A call for help ends the same way. -/
inductive UsageError where
  /-- Help is wanted, for the program or for one subcommand. -/
  | help (topic : Option Subcommand)
  | noSubcommand
  | unknownSubcommand (word : String)
  /-- A word is left over. -/
  | unexpected (word : String)
  | noValue (argument : Argument)
  /-- An option without a value is given one. -/
  | unwantedValue (value flag : String)
  | repeated (argument : Argument)
  /-- The parser of the value refuses it. -/
  | invalidValue (value : String) (argument : Argument) (reason : String)
  | noKind
  deriving DecidableEq, Repr

/-- The description that general help starts with. -/
def about : String := "A command line probe for the login and private endpoints of a Cenarius server"

/-- The message of a usage error. -/
def UsageError.fullText : UsageError → String
  | .help none | .noSubcommand => about
  | .help (some subcommand) => subcommand.about
  | .unknownSubcommand word => "error: unrecognized subcommand '" ++ word ++ "'"
  | .unexpected word => "error: unexpected argument '" ++ word ++ "' found"
  | .noValue argument => "error: a value is required for '" ++ argument.text ++ "' but none was supplied"
  | .unwantedValue value flag =>
    "error: unexpected value '" ++ value ++ "' for '" ++ flag ++ "' found; no more were expected"
  | .repeated argument => "error: the argument '" ++ argument.text ++ "' cannot be used multiple times"
  | .invalidValue value argument reason =>
    "error: invalid value '" ++ value ++ "' for '" ++ argument.text ++ "': " ++ reason
  | .noKind => "error: the following required arguments were not provided:\n  <KIND>"

/-- The characters before the first empty line. -/
def firstParagraph : List Char → List Char
  | '\n' :: '\n' :: _ => []
  | c :: rest => c :: firstParagraph rest
  | [] => []

/-- The first paragraph of what is printed for a usage error, behind which the usage line follows. -/
def UsageError.message (error : UsageError) : String :=
  String.ofList (firstParagraph (Terminal.printed error.fullText.toList ++ "\n\n".toList))

end AccessProbe.CommandLine
