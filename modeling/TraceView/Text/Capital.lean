namespace TraceView.Text

/-!
# Capitals

A letter beyond ASCII may have a capital of ASCII, and a ligature stands for several capitals.  The
table holds all of them.  Characters without a capital of ASCII stay as they are.
-/

/-- The characters beyond ASCII whose capitals are those of ASCII. -/
def capitalTable : List (Char × String) :=
  [('\u00df', "SS"), ('\u0131', "I"), ('\u017f', "S"), ('\ufb00', "FF"), ('\ufb01', "FI"),
    ('\ufb02', "FL"), ('\ufb03', "FFI"), ('\ufb04', "FFL"), ('\ufb05', "ST"), ('\ufb06', "ST")]

/-- A text in capitals, as far as they are those of ASCII. -/
def capitals (text : String) : String :=
  String.ofList <| text.toList.flatMap fun c =>
    match capitalTable.lookup c with
    | some meant => meant.toList
    | none => [c.toUpper]

end TraceView.Text
