import TraceView.CommandLine.Arguments
import TraceView.Trace.Load

namespace TraceView.CommandLine

/-!
# Reports

A trace is printed as a line with its format and length and, for each entry, its number and its
tree, one node a line.  The report ends at the first entry that cannot be shown.
-/

inductive Ending where
  | complete
  | failed (message : String)
  /-- With a fault that nothing explains. -/
  | escaped (cause : Fault)
  /-- With a file that is there and cannot be read, which nothing explains either. -/
  | unreadable (cause : FileError)
  deriving DecidableEq, Repr

/-- A report: its lines, the notices that came up, and its end. -/
structure Report where
  lines : List String
  notices : List Notice
  ending : Ending

namespace Report

def after (lines : List String) (notices : List Notice) (report : Report) : Report :=
  ⟨lines ++ report.lines, notices ++ report.notices, report.ending⟩

def ofLoadError (notices : List Notice) : LoadError -> Report
  | .fault cause => ⟨[], notices, .escaped cause⟩
  | .unreadableFile path .missing =>
    ⟨[], notices, .failed (LoadError.unreadableFile path .missing).message⟩
  | .unreadableFile _ cause => ⟨[], notices, .unreadable cause⟩
  | error => ⟨[], notices, .failed error.message⟩

def ofEntryError (notices : List Notice) : EntryError -> Report
  | .fault cause => ⟨[], notices, .escaped cause⟩
  | error => ⟨[], notices, .failed error.message⟩

end Report

def nodeLine (depth : Nat) (name : String) (source : Source) (text : String) : String :=
  let indent := String.ofList (List.replicate (2 * depth) ' ')
  let star := if source = .calculated then " *" else ""
  indent ++ name ++ star ++ if text.isEmpty then "" else ": " ++ text

mutual

/-- The lines of a tree, up to the first value without a text. -/
def treeLines (depth : Nat) : Node -> List String × Option Fault
  | node@⟨_, _, _, _, _, _, _, _, children⟩ =>
    match node.text with
    | .error fault => ([], some fault)
    | .ok text =>
      let (below, fault) := forestLines (depth + 1) children
      (nodeLine depth node.name node.source text :: below, fault)

def forestLines (depth : Nat) : List Node -> List String × Option Fault
  | [] => ([], none)
  | node :: rest =>
    match treeLines depth node with
    | (lines, some fault) => (lines, some fault)
    | (lines, none) =>
      let (more, fault) := forestLines depth rest
      (lines ++ more, fault)

end

def indexLine (index : Value) : String :=
  "[" ++ index.text.toOption.getD "" ++ "]"

def entriesReport (opened : OpenTrace) (domain : Domain) : List Value -> Report
  | [] => ⟨[], [], .complete⟩
  | index :: rest =>
    let noted := opened.entry index domain
    match noted.value with
    | .error error => (Report.ofEntryError noted.notices error).after [indexLine index] []
    | .ok tree =>
      match treeLines 1 tree with
      | (lines, some fault) => ⟨indexLine index :: lines, noted.notices, .escaped fault⟩
      | (lines, none) =>
        (entriesReport opened domain rest).after (indexLine index :: lines) noted.notices

/-- The entries that are asked for: those that are named, or else all of them. -/
def requestedIndices (arguments : Arguments) (trace : Trace) : List Value :=
  arguments.indices.getD ((List.range trace.length).map fun index : Nat => .int index)

def traceReport (arguments : Arguments) (domain : Domain) (opened : OpenTrace) : Report :=
  let heading := opened.trace.kind.name ++ ": " ++ toString opened.trace.length ++ " entries"
  (entriesReport opened domain (requestedIndices arguments opened.trace)).after [heading, ""] []

def report (arguments : Arguments) (files : Files) : Report :=
  match arguments.domain, files arguments.inputFile with
  | none, _ => ⟨[], [], .escaped .wrongKind⟩
  | some _, .error cause => .ofLoadError [] (.unreadableFile arguments.inputFile cause)
  | some domain, .ok bytes =>
    let settings := ⟨arguments.viewerConfig, arguments.applyOperations, none⟩
    let noted := loadAlone bytes settings files 0
    match noted.value with
    | .error error => .ofLoadError noted.notices error
    | .ok opened => (traceReport arguments domain opened).after [] noted.notices

namespace Report

def printed (report : Report) : String :=
  String.join (report.lines.map (· ++ "\n"))

def output (report : Report) : String :=
  match report.ending with
  | .failed message => report.printed ++ "Error: " ++ message ++ "\n"
  | _ => report.printed

/-- The notices that are logged: warnings, or all of them. -/
def logged (report : Report) (verbose : Bool) : List Notice :=
  report.notices.filter fun notice => verbose || notice.level = .warning

def log (report : Report) (verbose : Bool) : String :=
  String.join ((report.logged verbose).filterMap fun notice => notice.line?.map (· ++ "\n"))

def exitCode (report : Report) : Nat :=
  if report.ending = .complete then 0 else 1

end Report

end TraceView.CommandLine
