import WalletTopUp.Terminal.Run

/-!
# The terminal program

Reads commands from the standard input and prints what the screen tells.  All that it does is in
`Terminal`; here the files, the environment and the streams are attached to it.  There is no way to
the services yet, so every call finds nobody who listens.
-/

namespace WalletTopUp

namespace Terminal

/-- A disk with one file more, if there is such a file. -/
def addFile (disk : Disk) (path : String) : IO Disk := do
  try
    let content ← IO.FS.readFile path
    let written := do
      (← disk.createDirectories (FileCache.directory path)).write path content
    return written.toOption.getD disk
  catch _ => return disk

/-- A disk with the configuration file and the file of rates that it names. -/
def attachDisk (arguments : Arguments) : IO Disk := do
  let path := arguments.config.getD Arguments.defaultConfig
  let disk ← addFile {} path
  match Config.load (disk.read path).toOption arguments.wallet with
  | .ok config =>
    match config.cachePath with
    | some cachePath => addFile disk cachePath
    | none => return disk
  | .error _ => return disk

/-- Print the lines that have not been shown yet. -/
def showLines (terminal : Terminal) (shown : Nat) : IO Unit :=
  (terminal.printed.reverse.drop shown).forM IO.println

/-- Read commands until the end, giving the screen all the time it needs between them. -/
partial def interact (terminal : Terminal) (shown : Nat) : IO Unit := do
  let quiet := terminal.await (shown + Schedule.waitLimit)
  quiet.showLines shown
  if quiet.reading then
    let line ← try (← IO.getStdin).getLine catch _ => pure ""
    if line.isEmpty then return ()
    (quiet.write (Text.utf8 line.toList)).interact quiet.printed.length

end Terminal

end WalletTopUp

open WalletTopUp in
/-- The exit code tells whether the arguments (2) or the configuration (1) were refused. -/
def main (arguments : List String) : IO UInt32 := do
  let environment ← IO.getEnv "TOPUP_WALLET"
  let disk ← match Arguments.parse {} arguments with
    | .run found => Terminal.attachDisk { found with wallet := found.wallet <|> environment }
    | _ => pure {}
  match Terminal.launch arguments environment disk with
  | .exited code lines =>
    lines.forM IO.println
    return code.toUInt32
  | .running terminal =>
    terminal.interact 0
    return 0
