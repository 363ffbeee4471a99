import Gamebook.Cli.Session
import Std.Time.DateTime.Timestamp

/-!
The console program. It finds out where the player's data is, then reads a line, answers it, and
writes the saves that changed, until the session ends.
-/
namespace Gamebook.Program
open scoped Host

/-- Text as it stands in files, without the halves of surrogate pairs. -/
def plainText (text : String) : String := String.ofList (Text.chars text)

def spelledText (text : String) : String := Text.ofChars text.toList

/-- What stands at a path. Whatever is there and cannot be read as a file counts as a directory. -/
def readEntry (path : String) : IO (Option Entry) := do
  try
    return some (.ofBytes (← IO.FS.readBinFile (plainText path)))
  catch
    | .noFileOrDirectory .. => return none
    | _ => return some .directory

def readNames (directory : String) : IO (Option (List String)) := do
  let place : IO.FS.DirEntry := ⟨plainText directory, "."⟩
  try
    return some ((← place.root.readDir).toList.map (spelledText ·.fileName))
  catch _ => return none

def readStore (directory : Path) : IO SaveStore := do
  match ← readNames directory.text with
  | none => return .empty
  | some names =>
    let entries ← names.filterMapM fun name => do
      return (← readEntry (directory.child name).text).map fun entry => (name, entry)
    return ⟨some entries⟩

/-- Writes a file beside its place and then moves it there, so that it is never half written. -/
def writeFile (directory : Path) (name content : String) : IO Unit := do
  IO.FS.createDirAll (plainText directory.text)
  let draft := plainText (directory.child s!".{name}.tmp").text
  IO.FS.writeFile draft (plainText content)
  IO.FS.rename draft (plainText (directory.child name).text)

def writeStore (directory : Path) (before after : SaveStore) : IO Unit :=
  after.entries.forM fun (name, entry) =>
    match entry with
    | .text content =>
      if before.entries.get? name = some entry then pure () else writeFile directory name content
    | _ => pure ()

def currentTime : IO Timestamp := do
  let time ← Std.Time.Timestamp.now
  return .ofUnixMicros (time.toNanosecondsSinceUnixEpoch.toInt.toNat / 1000)

def randomNumber : IO Nat := do
  return Sha512.bigEndian (← IO.getRandomBytes 8).toList

def tokens (random call bytes : Nat) : String :=
  let source := Twister.ofSeed (.text s!"{random}-{call}")
  String.ofList (Text.hexDigits (2 * bytes) (source.bits (8 * bytes)).1)

def display (text : String) : IO Unit := do
  let output ← IO.getStdout
  output.putStr (plainText text)
  output.flush

def reportFailure (failure : Failure) : IO UInt32 := do
  IO.eprintln s!"The game has stopped: {failure.message}"
  return 1

partial def talk (setting : Cli.Setting) (saves : Path) (console : Cli.Console)
    (screen : Cli.Screen) : IO UInt32 := do
  display console.output
  match screen with
  | .done => return 0
  | _ =>
    let line := spelledText (← (← IO.getStdin).getLine)
    if line.isEmpty then reportFailure (.fault .inputEnded)
    else
      let before ← readStore saves
      let console := { console with output := "", world := { console.world with saves := before } }
      match Cli.respond setting (← currentTime) screen line console with
      | .ok screen console =>
        writeStore saves before console.world.saves
        talk setting saves console screen
      | .error failure console =>
        writeStore saves before console.world.saves
        display console.output
        reportFailure failure

def run (paths : DataPaths) (debug : Bool) : IO UInt32 := do
  match Config.load (← readEntry paths.config.text) with
  | .error failure => reportFailure failure
  | .ok config =>
    let entry ← match config.storiesPath with
      | some path => readEntry (Path.ofText path).text
      | none => pure none
    let random ← randomNumber
    let console : Cli.Console := ⟨⟨.empty, .ofSeed (.number random)⟩, 0, ""⟩
    match Cli.libraryOf config entry with
    | .error failure =>
      match Cli.reportNoStories failure console with
      | .ok () console => do
        display console.output
        return 1
      | .error failure _ => reportFailure failure
    | .ok library =>
      let setting := Cli.settingOf ⟨.ok library, config.showLocked, debug, tokens random⟩ library
      match Cli.welcome console with
      | .ok screen console => talk setting paths.saves console screen
      | .error failure _ => reportFailure failure

end Gamebook.Program

open scoped Gamebook.Host in
def main : IO UInt32 := do
  let home := Gamebook.Program.spelledText ((← IO.getEnv "HOME").getD "")
  let debug := (← IO.getEnv "CYOA_DEBUG") == some "1"
  let chosen := (← IO.getEnv "CYOA_HOME").map Gamebook.Program.spelledText
  match Gamebook.DataPaths.locate chosen home with
  | .ok paths => Gamebook.Program.run paths debug
  | .error failure => Gamebook.Program.reportFailure failure
