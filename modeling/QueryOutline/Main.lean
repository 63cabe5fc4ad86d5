import QueryOutline.Command.Line

/-- All bytes of a stream behind those that have been read. -/
partial def readToEnd (stream : IO.FS.Stream) (bytes : ByteArray) : IO ByteArray := do
  let chunk ← stream.read 65536
  if chunk.isEmpty then pure bytes else readToEnd stream (bytes ++ chunk)

/-- Runs the command line and gives its exit code. -/
def main (arguments : List String) : IO UInt32 := do
  let input ←
    if QueryOutline.Command.needsInput arguments then
      readToEnd (← IO.getStdin) ByteArray.empty
    else pure ByteArray.empty
  let report := QueryOutline.Command.run arguments input
  (← IO.getStdout).putStr report.stdout
  (← IO.getStderr).putStr report.stderr
  pure report.exitCode.toUInt32
