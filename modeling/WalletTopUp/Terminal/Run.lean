import WalletTopUp.Http.Unreachable
import WalletTopUp.Schedule.Audience
import WalletTopUp.Terminal.Arguments
import WalletTopUp.Terminal.Command

/-!
# The terminal

A screen at a terminal: its input is lines of commands, its output is lines that tell what happens.
The screen is carried on between the lines; what it tells goes before the next line.
-/

namespace WalletTopUp

/-- A screen at a terminal. -/
structure Terminal where
  settings : SessionSettings
  returnUrl : Url
  act : Schedule.Act SessionRun
  /-- Bytes of a line that has not ended yet. -/
  begun : List UInt8 := []
  /-- The lines that have been printed, the last one first. -/
  printed : List String := []
  /-- Whether more lines are read. -/
  reading : Bool := true

namespace Terminal

/-! ## Printing -/

/-- Print lines. -/
def print (terminal : Terminal) (lines : List String) : Terminal :=
  { terminal with printed := lines.reverse ++ terminal.printed }

/-- The line that tells of an effect. -/
def effectLine (effect : Effect) : String := "> " ++ effect.text

/-- Carry the screen on until it has told so many effects, or to the end of what is due, and print
what it tells. -/
def carryOn (terminal : Terminal) (count : Nat) : Terminal :=
  let stage := Schedule.Stage.session terminal.settings
  let before := terminal.act.system.sink.taken
  let act := Schedule.carryOn stage.system Schedule.Scripted.world
    (stage.drain Schedule.stepLimit) (fun run => before + count ≤ run.sink.taken) none
    Schedule.waitLimit terminal.act
  let told := (act.system.sink.accepted.take act.system.sink.taken).drop before
  { terminal with act }.print (told.map effectLine)

/-- Print until there are so many lines. -/
def await (terminal : Terminal) (count : Nat) : Terminal :=
  if terminal.reading then terminal.carryOn (count - terminal.printed.length) else terminal

/-! ## Reading -/

/-- Read no more. -/
def stop (terminal : Terminal) : Terminal := { terminal with reading := false }

/-- Report an event.  A session that has ended reads no more. -/
def report (terminal : Terminal) (event : SessionEvent) : Terminal :=
  match terminal.act.system.move terminal.settings (.send event) with
  | none => terminal.stop
  | some system => { terminal with act := { terminal.act with system } }

/-- Do what a line says. -/
def readLine (terminal : Terminal) (line : String) : Terminal :=
  match Command.parse terminal.returnUrl line with
  | .error error => terminal.print ["! " ++ error.message]
  | .ok none => terminal
  | .ok (some .help) => terminal.print Command.helpLines
  | .ok (some .quit) => terminal.stop
  | .ok (some (.event event)) => terminal.report event

/-- Do what the bytes of a line say.  Bytes that are no text end the reading. -/
def readBytes (terminal : Terminal) (bytes : List UInt8) : Terminal :=
  if !terminal.reading then terminal
  else match Text.ofUtf8? bytes with
    | none => terminal.stop
    | some line => ((terminal.carryOn 0).readLine (String.ofList line)).carryOn 0

/-- Take bytes of input; every line that ends with them is read. -/
def write (terminal : Terminal) : List UInt8 → Terminal
  | [] => terminal
  | b :: bytes =>
    if b = 0x0a then
      write ({ terminal with begun := [] }.readBytes terminal.begun.reverse) bytes
    else write { terminal with begun := b :: terminal.begun } bytes

/-- The end of the input.  A line may end with it. -/
def close (terminal : Terminal) : Terminal :=
  if terminal.begun.isEmpty then terminal.stop
  else ({ terminal with begun := [] }.readBytes terminal.begun.reverse).stop

/-! ## Starting -/

/-- A screen at its start, with services that nobody runs. -/
def start (config : Config) (package : String) (store : RateStore) : Terminal :=
  let settings := config.settings package
  let script : Schedule.Script := ⟨[.atOnce (Http.unreachable config)]⟩
  let world : Schedule.Scripted := {
    rules := [{ script }]
    scripts := fun _ => script
    wallet := some config.wallet
    store }
  { settings
    returnUrl := config.returnUrl
    act := { system := .start settings, world } : Terminal }.print Command.helpLines

/-- The store of rates of a configuration. -/
def openStore (config : Config) (disk : Disk) : Except CacheError RateStore :=
  match config.cachePath with
  | none => .ok (.memory [])
  | some path => (FileCache.openAt disk path).map fun cache => .file cache disk

/-- What becomes of a start. -/
inductive Outcome where
  /-- The program ends with a code, having printed lines. -/
  | exited (code : Nat) (lines : List String)
  | running (terminal : Terminal)

/-- Start the program with arguments, an environment and a disk. -/
def launch (arguments : List String) (environment : Option String) (disk : Disk) : Outcome :=
  match Arguments.parse {} arguments with
  | .invalid => .exited 2 []
  | .version => .exited 0 [Arguments.versionLine]
  | .help => .exited 0 (Arguments.helpLines environment)
  | .run arguments =>
    let path := arguments.config.getD Arguments.defaultConfig
    match Config.load (disk.read path).toOption (arguments.wallet <|> environment) with
    | .error _ => .exited 1 []
    | .ok config =>
      match openStore config disk with
      | .error _ => .exited 1 []
      | .ok store =>
        .running (start config (arguments.package.getD Arguments.defaultPackage) store)

/-! ## Scripts -/

/-- A step of somebody at the terminal. -/
inductive Step where
  /-- Type something. -/
  | type (bytes : List UInt8)
  /-- Wait for so many more lines. -/
  | await (lines : Nat)
  /-- Interrupt the program. -/
  | interrupt
deriving DecidableEq, Inhabited

/-- Use the terminal in steps, given how many lines have been waited for. -/
def steps (expected : Nat) (terminal : Terminal) : List Step → Terminal
  | [] => terminal
  | .type bytes :: rest => steps expected (terminal.write bytes) rest
  | .await lines :: rest => steps (expected + lines) (terminal.await (expected + lines)) rest
  | .interrupt :: rest => steps expected terminal.stop rest

/-- The exit code and the printed lines of a program that somebody uses in steps. -/
def play (outcome : Outcome) (script : List Step) : Nat × List String :=
  match outcome with
  | .exited code lines => (code, lines)
  | .running terminal => (0, (steps 0 terminal script).close.printed.reverse)

end Terminal

end WalletTopUp
