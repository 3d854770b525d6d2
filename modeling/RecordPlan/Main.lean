import RecordPlan.CommandLine

/-!
# The program

Reads the environment, prints what a run comes to and exits with its
code. Whether printing works is found out by printing.

`CommandLine.run` says what comes of any bytes in a variable, but not all bytes
get there. `IO.getEnv` answers with a `String`, in which everything that is not
UTF-8 has been replaced by U+FFFD: a value that is not UTF-8 is taken here for
another one that is, and not for what `run` makes of its bytes.
-/

open RecordPlan

/-- The variables that the program reads. -/
def variableNames : List String :=
  [CommandLine.addressKey, CommandLine.levelKey, domainsKey, ip4DomainsKey, ip6DomainsKey,
    prefixLenKey, proxiedKey]

/-- Runs the program. -/
def main : IO UInt32 := do
  let values ← variableNames.mapM fun name => do
    return (name, (← IO.getEnv name).map fun value => value.toUTF8.toList)
  let env : Lookup := fun name => (values.lookup name).join
  let outcome := CommandLine.run env none
  let failure ←
    try
      if !outcome.stdout.isEmpty then
        let out ← IO.getStdout
        out.putStr outcome.stdout
        out.flush
      pure none
    catch e => pure (some (toString e))
  let outcome := if failure.isSome then CommandLine.run env failure else outcome
  for line in outcome.stderr do
    IO.eprintln line.text
  return UInt32.ofNat outcome.exit.code
