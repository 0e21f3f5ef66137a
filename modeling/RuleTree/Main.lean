import RuleTree.Program

/-!
The program as it is run. Everything a run may look at is read first: the files of settings, then the
folder of rules that they name with what is in it, and the files that the command is about. Nothing is
decided here.
-/

open RuleTree

namespace RuleTree.Program

def look (path : String) : IO (Except FileFault Located) := do
  if path = "" then return .error .notFound
  if let some fault := pathFault? path then return .error fault
  let attempt : IO Located := do
    let place ← IO.FS.realPath path
    if ← place.isDir then
      return .folder ((← place.readDir).toList.map (·.fileName))
    return .file (← IO.FS.readBinFile path).toList
  match ← attempt.toBaseIO with
  | .ok found => return .ok found
  | .error (.inappropriateType ..) => return .error .notDirectory
  | .error (.permissionDenied ..) => return .error .denied
  | .error (.invalidArgument ..) => return .error .tooLong
  | .error _ => return .error .notFound

/-- A view of what is found at the given paths. -/
def view (paths : List String) : IO Disk := do
  let found ← paths.mapM fun path => return (path, ← look path)
  return fun path => (found.lookup path).getD (.error .notFound)

def vars : IO Settings.Variables := do
  let bytes := (← IO.FS.readBinFile "/proc/self/environ").toList
  return (bytes.splitOn 0).filterMap fun entry => do
    let name ← Utf8.text? (entry.takeWhile (· ≠ 61))
    let value ← Utf8.text? ((entry.dropWhile (· ≠ 61)).drop 1)
    return (name, value)

def idText (n : Nat) : String :=
  let hex := (Nat.toDigits 16 (n % Nat.pow 2 120 + Nat.pow 2 120)).drop 1
  let piece (start length : Nat) : String := String.ofList ((hex.drop start).take length)
  "-".intercalate [piece 0 8, piece 8 4, "4" ++ piece 12 3, "a" ++ piece 15 3, piece 18 12]

/-- Ids that start anywhere and differ by path and position. -/
def newIds (paths : List String) : IO NewId := do
  let bytes ← IO.getRandomBytes 16
  let seed := bytes.toList.foldl (fun n b => 256 * n + b.toNat) 0
  return fun path i => idText (seed + paths.idxOf path * UInt32.size + i)

def startTime : IO Time := do
  let place ← IO.FS.realPath "/proc/self/environ"
  let moment := (← place.metadata).modified
  return ⟨moment.sec, moment.nsec.toNat⟩

def begin (arguments : List String) : IO Start := do
  let vars ← vars
  let settingsPaths := settingsPaths vars
  let start (disk : Disk) : Start :=
    { arguments, vars, surroundings := ⟨disk, []⟩, newId := fun _ _ => "", now := ⟨0, 0⟩ }
  match Arguments.read arguments with
  | .error _ => return start fun _ => .error .notFound
  | .ok given =>
    let folder := (settings (start (← view settingsPaths)) given).1.rulesDirectory
    let names := match ← look folder with
      | .ok (.folder names) => names
      | _ => []
    let rulePaths := names.map (joinPath folder)
    let disk ← view (settingsPaths ++ [folder] ++ rulePaths ++ commandPaths given.command)
    let input ←
      if readsInput given.command then pure (← (← IO.getStdin).readBinToEnd).toList else pure []
    return { arguments, vars, surroundings := ⟨disk, input⟩, newId := ← newIds rulePaths,
             now := ← startTime }

end RuleTree.Program

def main (arguments : List String) : IO UInt32 := do
  let outcome := Program.run (← Program.begin arguments)
  (← IO.getStderr).putStr outcome.messages
  (← IO.getStdout).putStr outcome.output
  return UInt32.ofNat outcome.exitCode
