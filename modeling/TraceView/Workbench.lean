import TraceView.Trace.Load
import TraceView.Tree.Shelf

namespace TraceView

/-!
# A workbench

Decoders outlive the loads that they are used for, and a trace decodes its entries with its
decoder as later loads have left it.  A workbench holds decoders at their positions, the trees
that are worked on, and the number of formatters that have been issued, so that whole histories of
loads and look-ups can be described.
-/

/-- Decoders, trees and the next issue of a formatter. -/
structure Workbench where
  decoders : List Decoder
  shelf : Shelf
  issued : Nat

/-- A trace whose decoder is on the workbench. -/
structure BenchTrace where
  trace : Trace
  decoder : Nat

namespace Workbench

def empty : Workbench := ⟨[], .empty, 0⟩

def addDecoders (bench : Workbench) (decoders : List Decoder) : Workbench × Nat :=
  ({ bench with decoders := bench.decoders ++ decoders }, bench.decoders.length)

def decoder? (bench : Workbench) (position : Nat) : Option Decoder :=
  bench.decoders[position]?

/-- Take the number of a new formatter. -/
def issue (bench : Workbench) : Workbench × Nat :=
  ({ bench with issued := bench.issued + 1 }, bench.issued)

/-- Load a document with decoders on the workbench, tried in the order of their positions in a
list. -/
def loadWith (bench : Workbench) (positions : List Nat) (bytes : List UInt8)
    (settings : Settings) (files : Files) : Noted (Workbench × Except LoadError BenchTrace) :=
  let candidates := positions.filterMap fun position =>
    (bench.decoder? position).map fun decoder => (position, decoder)
  let (issued, number) := bench.issue
  (load (candidates.map (·.2)) bytes settings files number).andThen fun attempt =>
    .quiet <|
      match attempt with
      | .refused error => (issued, .error error)
      | .taken place decoder result =>
        let position := ((candidates.map (·.1))[place]?).getD bench.decoders.length
        ({ issued with decoders := bench.decoders.set position decoder },
          result.map fun trace => ⟨trace, position⟩)

def load (bench : Workbench) (positions : Option (List Nat)) (bytes : List UInt8)
    (settings : Settings) (files : Files) : Noted (Workbench × Except LoadError BenchTrace) :=
  match positions with
  | some given => bench.loadWith given bytes settings files
  | none =>
    let (stocked, first) := bench.addDecoders Decoder.standard
    stocked.loadWith [first, first + 1] bytes settings files

def entry (bench : Workbench) (opened : BenchTrace) (index : Value) (domain : Domain) :
    Noted (Except EntryError Node) :=
  match bench.decoder? opened.decoder with
  | some decoder => opened.trace.entry decoder index domain
  | none => .quiet (.error (.fault .wrongKind))

def apply (bench : Workbench) (position : Nat) (pipeline : Pipeline) :
    Option (Noted (Workbench × Node)) :=
  (bench.shelf.tree? position).map fun tree =>
    (pipeline.apply tree).andThen fun result =>
      .quiet ({ bench with shelf := bench.shelf.commit result }, result)

end Workbench

end TraceView
