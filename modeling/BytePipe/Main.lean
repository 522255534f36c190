import BytePipe.Copy

/-!
The command line: copies standard input to standard output through a pipe device.
-/
namespace BytePipe.Command

/-- Any allocation that a process could address is attempted. -/
def memory : Memory :=
  ⟨0x800000000000, by decide⟩

/-- The text of a file, if it can be read as one. -/
def readText? (path : String) : IO (Option String) := do
  try
    return String.fromUTF8? (← IO.FS.readBinFile path)
  catch _ => return none

/-- Environment variables as the system lists them: each ended by NUL, with a name before the
first equals sign. -/
def parseVariables (listing : String) : List (String × String) :=
  (listing.toList.splitOn '\x00').filterMap fun entry =>
    match entry.dropWhile (· != '=') with
    | '=' :: value => some (String.ofList (entry.takeWhile (· != '=')), String.ofList value)
    | _ => none

def readVariables : IO (List (String × String)) := do
  return parseVariables ((← readText? "/proc/self/environ").getD "")

/-- The files that loading a configuration may ask for, and the environment variables. -/
def readSurroundings : IO Surroundings := do
  let environment ← readVariables
  let paths := PipeConfig.defaultFile :: (environment.lookup PipeConfig.fileVariable).toList
  let texts ← (paths.flatMap PipeConfig.candidates).mapM fun path => do
    return (path, ← readText? path)
  return ⟨fun path => (texts.lookup path).join, environment⟩

/-- Writes out and forgets what the drainer has received. -/
def flushOutput (c : Copy) : IO Copy := do
  if c.output.isEmpty then return c
  let out ← IO.getStdout
  out.write ⟨c.output⟩
  out.flush
  return { c with output := #[] }

/-- The feeder sends what it has, and reads more input once the device has been drained. -/
partial def serve (c : Copy) : IO Copy := do
  if c.isDone then return c
  let fetching := c.feeder == .fetching
  let c := c.apply memory .send
  let c ← flushOutput ((c.apply memory .sample).apply memory .receive)
  if fetching && c.channel.ring.isEmpty then
    let chunk ← (← IO.getStdin).read Copy.chunkSize.toUSize
    let c := { c with input := chunk.toList }
    serve (c.apply memory (.fetch chunk.size))
  else serve c

end BytePipe.Command

open BytePipe in
def main (arguments : List String) : IO UInt32 := do
  match prepareCopy Command.memory (← Command.readSurroundings) arguments [] with
  | none =>
    IO.eprintln "cannot start"
    return 1
  | some copy =>
    let copy ← Command.serve copy
    return copy.result.exitCode.toUInt32
