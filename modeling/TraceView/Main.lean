import TraceView.CommandLine.Report

namespace TraceView.CommandLine

/-!
# The program

The program reads the files that its arguments name, prints the report and logs its notices.  All
that is printed is decided by the report; only reading and printing happen here.
-/

def readFile (path : String) : IO (Except FileError (List UInt8)) := do
  try
    let bytes <- IO.FS.readBinFile path
    return .ok bytes.toList
  catch
    | .noFileOrDirectory .. => return .error .missing
    | .inappropriateType .. => return .error .directory
    | _ => return .error .unusableName

def usageText : String :=
  "usage: input_file [--viewer-config FILE] [--domain elapsed|real] [--index N] " ++
    "[--no-operations] [-v]"

/-- Do what the command line asks for, and give the exit code. -/
def run (texts : List String) : IO UInt32 := do
  match parse texts with
  | .help =>
    IO.println usageText
    return 0
  | .usage =>
    IO.eprintln usageText
    return 2
  | .run arguments =>
    let input <- readFile arguments.inputFile
    let config <- readFile (arguments.viewerConfig.getD arguments.inputFile)
    let result := report arguments fun path =>
      if path = arguments.inputFile then input else config
    IO.print result.output
    IO.eprint (result.log arguments.verbose)
    return result.exitCode.toUInt32

end TraceView.CommandLine

def main (texts : List String) : IO UInt32 :=
  TraceView.CommandLine.run texts
