/-
The command line program.
-/

import SearchRequest.CommandLine.Assembly

open SearchRequest.CommandLine in
def main (words : List String) : IO UInt32 := do
  let names := Flag.all.filterMap Flag.variable?
  let values ← names.mapM fun name => return (name, ← IO.getEnv name)
  let outcome := run words fun name => (values.lookup name).join
  (← IO.getStdout).putStr outcome.stdout
  (← IO.getStderr).putStr outcome.stderr
  return outcome.exitCode.toUInt32
