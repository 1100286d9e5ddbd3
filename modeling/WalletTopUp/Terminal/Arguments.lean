/-!
# Arguments

The options that the terminal is started with.  Each one may be given once, by its letter or by its
word, with its value attached or behind it.
-/

namespace WalletTopUp

/-- What the terminal is started with. -/
structure Arguments where
  /-- The path of the configuration file. -/
  config : Option String := none
  /-- The package that the top-up is made from. -/
  package : Option String := none
  /-- The wallet that pays, in place of the configured one. -/
  wallet : Option String := none
deriving DecidableEq, Inhabited

/-- What the arguments ask for. -/
inductive Invocation where
  | run (arguments : Arguments)
  | version
  | help
  | invalid
deriving DecidableEq, Inhabited

/-- What an option with a value sets. -/
inductive Setting where
  | config
  | package
  | wallet
deriving DecidableEq, Inhabited

namespace Arguments

/-- The configuration file unless told otherwise. -/
def defaultConfig : String := "./topup-config.toml"

/-- The package unless told otherwise. -/
def defaultPackage : String := "com.appcoins.wallet"

/-- Take the value of an option.  A second value is refused, and so is a path without characters. -/
def set (arguments : Arguments) (setting : Setting) (value : String) : Option Arguments :=
  match setting with
  | .config =>
    if arguments.config.isSome || value.isEmpty then none
    else some { arguments with config := some value }
  | .package =>
    if arguments.package.isSome then none else some { arguments with package := some value }
  | .wallet =>
    if arguments.wallet.isSome then none else some { arguments with wallet := some value }

/-- What a letter or a word stands for. -/
inductive Meaning where
  | takesValue (setting : Setting)
  | showVersion
  | showHelp
  | unknown
deriving DecidableEq, Inhabited

/-- What a word stands for. -/
def ofWord : String → Meaning
  | "config" => .takesValue .config
  | "package" => .takesValue .package
  | "wallet" => .takesValue .wallet
  | "version" => .showVersion
  | "help" => .showHelp
  | _ => .unknown

/-- What a letter stands for. -/
def ofLetter : Char → Meaning
  | 'c' => .takesValue .config
  | 'p' => .takesValue .package
  | 'w' => .takesValue .wallet
  | 'V' => .showVersion
  | 'h' => .showHelp
  | _ => .unknown

/-- A value with the equals sign in front of it left out. -/
def attached : List Char → String
  | '=' :: value => String.ofList value
  | value => String.ofList value

/-- What an argument asks for, and the value that comes with it. -/
def meaning (argument : String) : Meaning × Option String :=
  match argument.toList with
  | '-' :: '-' :: rest =>
    let word := rest.takeWhile (· != '=')
    let value := rest.dropWhile (· != '=')
    match ofWord (String.ofList word), value with
    | .takesValue setting, [] => (.takesValue setting, none)
    | .takesValue setting, value => (.takesValue setting, some (attached value))
    | other, [] => (other, none)
    | _, _ => (.unknown, none)
  | '-' :: letter :: rest =>
    (ofLetter letter, if rest.isEmpty then none else some (attached rest))
  | _ => (.unknown, none)

/-- Whether an argument cannot be the value of an option. -/
def isOption (argument : String) : Bool :=
  match argument.toList with
  | '-' :: _ :: _ => true
  | _ => false

/-- What the arguments ask for, given what has been found before. -/
def parse (found : Arguments) : List String → Invocation
  | [] => .run found
  | argument :: rest =>
    if argument = "--" then (if rest.isEmpty then .run found else .invalid)
    else match meaning argument with
      | (.unknown, _) => .invalid
      | (.showVersion, _) => .version
      | (.showHelp, _) => .help
      | (.takesValue setting, some value) =>
        match found.set setting value with
        | none => .invalid
        | some later => parse later rest
      | (.takesValue setting, none) =>
        match rest with
        | [] => .invalid
        | value :: others =>
          if isOption value then .invalid
          else match found.set setting value with
            | none => .invalid
            | some later => parse later others

/-- The line that tells the version. -/
def versionLine : String := "topup 0.1.0"

/-- The lines that explain the arguments, given the wallet of the environment. -/
def helpLines (environment : Option String) : List String := [
  "Top up an APPC wallet from the terminal",
  "",
  "Usage: topup [OPTIONS]",
  "",
  "Options:",
  "  -c, --config <CONFIG>    Path to the configuration file [default: " ++ defaultConfig ++ "]",
  "  -p, --package <PACKAGE>  Package name of the app the top-up is made from [default: " ++
    defaultPackage ++ "]",
  "  -w, --wallet <WALLET>    Override the wallet address from the configuration file " ++
    "[env: TOPUP_WALLET=" ++ environment.getD "" ++ "]",
  "  -h, --help               Print help",
  "  -V, --version            Print version"]

end Arguments

end WalletTopUp
