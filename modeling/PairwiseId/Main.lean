import PairwiseId.Console.Run

/- The console program. -/
namespace PairwiseId.Console

set_option autoImplicit false

def readFile (path : String) : IO FileState := do
  try
    return .text (← IO.FS.readFile path)
  catch
    | .noFileOrDirectory .. => return .missing
    | _ => return .unreadable

def succeeds (action : IO Unit) : IO Bool := do
  try
    action
    return true
  catch _ => return false

def folderOf (path : String) : String :=
  "/".intercalate ((path.splitOn "/").dropLast)

def makeFolders (path : String) : IO Bool := do
  let folder := folderOf path
  if folder = "" then return true
  else succeeds (IO.FS.createDirAll folder)

def randomBytes (count : Nat) : IO (Vector UInt8 count) := do
  let bytes := (← IO.getRandomBytes count.toUSize).toList
  return Vector.ofFn fun i => bytes.getD i 0

def machine : Machine IO where
  read := readFile
  makeFolders := makeFolders
  write path content := succeeds (IO.FS.writeFile path content)
  random := randomBytes

def environment : IO Environment := do
  return {
    home := ← IO.getEnv "HOME"
    config := ← IO.getEnv "KC_PAIRWISE_CONFIG"
    salt := ← IO.getEnv "KC_PAIRWISE_SALT"
    logFilter := ← IO.getEnv logVariable }

def finish (output : String) (complaints : List String) (code : Nat) : IO UInt32 := do
  IO.print output
  for line in complaints do IO.eprintln line
  return code.toUInt32

end PairwiseId.Console

open PairwiseId PairwiseId.Console in
def main (args : List String) : IO UInt32 := do
  let env ← environment
  match Invocation.ofArguments env args with
  | .error stop => finish stop.output [] stop.exitCode
  | .ok invocation =>
    let ending ← invocation.run LogFilter.grammar machine env
    finish ending.output ending.complaints ending.exitCode
