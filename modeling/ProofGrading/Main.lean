import ProofGrading.Scenario

/-!
# Main — the command line

The arguments are those of a grading; the machine that it runs on is described by one line of
standard input.
-/

/-- Runs the program on the described machine: prints what it prints and the files that it leaves,
and ends with its exit code. -/
def main (arguments : List String) : IO UInt32 := do
  let description ← (← IO.getStdin).getLine
  let ending := ProofGrading.Scenario.run arguments description
  IO.print ending.printed
  if !ending.complaint.isEmpty then IO.eprintln ending.complaint
  return ending.code.toUInt32
