namespace TraceView

/-!
# Files

Loading a trace may read files, and all that matters of a file is what its name leads to.  A path is
not the name of a file, since several paths may lead to one.  Outside of the directory there are
other directories and no files.
-/

inductive FileError where
  | missing
  | directory
  | notDirectory
  | nameTooLong
  /-- The path has a character that no path may have. -/
  | unusableName
  deriving DecidableEq, Repr

/-- What reading the file at a path gives. -/
abbrev Files := String -> Except FileError (List UInt8)

def Files.nowhere : Files := fun _ => .error .missing

def Files.only (path : String) (content : Except FileError (List UInt8)) : Files :=
  fun other => if other = path then content else .error .missing

abbrev Directory := List (String × List UInt8)

namespace Directory

/-- The largest number of bytes of one step of a path. -/
def stepLimit : Nat := 255

/-- The number of bytes that a path has to stay below. -/
def pathLimit : Nat := 4096

/-- The steps of a path that lead anywhere. -/
def steps (path : List Char) : List String :=
  ((path.splitOn '/').map String.ofList).filter fun step => step != "" && step != "."

def places (directory : Directory) : List (List String × List UInt8) :=
  directory.map fun file => (steps file.1.toList, file.2)

/-- Follow steps outside of a directory, where one can only go up. -/
def followOutside : List String -> Except FileError (List UInt8)
  | [] => .error .directory
  | step :: rest =>
    if step = "" || step = "." || step = ".." then followOutside rest
    else if stepLimit < step.utf8ByteSize then .error .nameTooLong
    else .error .missing

def follow (files : List (List String × List UInt8)) (place : List String) :
    List String -> Except FileError (List UInt8)
  | [] => .error .directory
  | step :: rest =>
    if step = "" || step = "." then follow files place rest
    else if step = ".." then
      if place.isEmpty then followOutside rest else follow files place.dropLast rest
    else if stepLimit < step.utf8ByteSize then .error .nameTooLong
    else
      let next := place ++ [step]
      match files.find? fun file => file.1 == next with
      | some (_, bytes) => if rest.isEmpty then .ok bytes else .error .notDirectory
      | none =>
        if files.any fun file => next.isPrefixOf file.1 then follow files next rest
        else .error .missing

/-- What the paths of a directory lead to.  A path that begins at the root of all directories
leads to no file of this one. -/
def files (directory : Directory) : Files := fun path =>
  let all := (path.toList.splitOn '/').map String.ofList
  if path.isEmpty then .error .missing
  else if path.toList.contains '\x00' then .error .unusableName
  else if pathLimit ≤ path.utf8ByteSize then .error .nameTooLong
  else if path.toList.head? == some '/' then followOutside all
  else follow directory.places [] all

end Directory

end TraceView
