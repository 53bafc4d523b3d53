import PostMarkup.CommandLine

/-! # The program

Reads the files and the standard input that the arguments name, and prints the rendering or a
message.
-/

namespace PostMarkup

open PostMarkup.Text

/-- The text of a file, none if it cannot be read or is not text. -/
def readFile? (path : List Char) : IO (Option (List Char)) := do
  try
    let bytes ← IO.FS.readBinFile (String.ofList path)
    return Utf8.decode? bytes.toList
  catch _ => return none

def readFiles (paths : List (List Char)) : IO (List (List Char × List Char)) := do
  let found ← paths.mapM fun path => return (path, ← readFile? path)
  return found.filterMap fun (path, text) => text.map fun text => (path, text)

/-- The text of the standard input, none if it is not text. -/
def readStandardInput? : IO (Option (List Char)) := do
  let bytes ← (← IO.getStdin).readBinToEnd
  return Utf8.decode? bytes.toList

/-- Renders what the arguments name; the answer is the exit code. -/
def runProgram (arguments : List String) : IO UInt32 := do
  match CommandLine.read? (arguments.map String.toList) with
  | none =>
    IO.eprintln "error: the arguments are not understood"
    return 2
  | some options =>
    let files ← readFiles (options.config.toList ++ options.input.toList)
    let file? (path : List Char) := (files.find? fun entry => entry.1 = path).map Prod.snd
    let input ← if options.input.isNone then readStandardInput? else pure none
    match CommandLine.run options file? input with
    | .ok output =>
      IO.print (String.ofList output)
      return 0
    | .error failure =>
      IO.eprintln (String.ofList failure.message)
      return 1

end PostMarkup

def main (arguments : List String) : IO UInt32 := PostMarkup.runProgram arguments
