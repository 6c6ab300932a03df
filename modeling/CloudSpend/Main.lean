import CloudSpend.Aws.PriceList

/-! # The command line -/

namespace CloudSpend.Command

def answering (answers : List Value) : Outside where
  web _ _ := .error (.connection "no web service can be reached")
  aws asked _ := .ok (answers[asked.length]?.getD (.list []))
  pages := answers.length + 1
  engine _ _ := .error (.engine "there is no analytics engine")
  snowflake := .error (.runtime "there is no warehouse")
  bigQuery := .error (.runtime "there is no warehouse")
  blobs := []
  listsBlobs := false
  azureToken := .error (.runtime "there is no token")
  signsOracle := false
  mail := none

partial def readLines (s : IO.FS.Stream) : IO (List String) := do
  let line ← s.getLine
  if line.isEmpty then return [] else return line :: (← readLines s)

def writeFiles (files : Storage.Files) : IO Unit := do
  for (place, content) in files do
    if let .text s := content then
      if 1 < place.length then IO.FS.createDirAll ("/".intercalate place.dropLast)
      IO.FS.writeFile ("/".intercalate place) s

def exitStatus : Fault → UInt32
  | .exit n => n.toUInt32
  | _ => 1

end CloudSpend.Command

open CloudSpend in
def main (args : List String) : IO UInt32 := do
  let lines ← Command.readLines (← IO.getStdin)
  match lines.mapM fun l => Json.read l with
  | .error e =>
    IO.eprintln e.message
    return 1
  | .ok answers =>
    let (r, w) := (Aws.PriceList.writeAll args).run.run
      { outside := Command.answering answers, now := default }
    match r with
    | .ok _ =>
      Command.writeFiles w.files
      return 0
    | .error e =>
      IO.eprintln e.message
      return Command.exitStatus e
