import BuilderGen.Source.NameTable

/-!
# The text of a source file

A file is first laid out as pieces of text and references in the order of reading. Writing each
reference as the names of the file decide gives the text.
-/

namespace BuilderGen.Source

/-! ## 1. Pieces -/

/-- Fragments with a text between two of them. -/
def separated (separator : String) : List Code → Code
  | [] => []
  | [c] => c
  | c :: rest => c ++ .text separator :: separated separator rest

/-- The layout of a type. -/
def TypeUse.layout : TypeUse → Code
  | .plain c nullable => .ref c :: if nullable then [.text "?"] else []
  | .receiverLambda c => [.ref c, .text ".() -> Unit"]

/-- The layout of a parameter. -/
def Parameter.layout (p : Parameter) : Code :=
  .text (p.name ++ ": ") :: p.type.layout ++
    match p.default with
    | some code => .text " = " :: code
    | none => []

/-- A line at a depth of indentation. -/
def lineLayout (indent : String) (depth : Nat) (code : Code) : Code :=
  List.replicate depth (.text indent) ++ code ++ [.text "\n"]

/-- The layout of statements at a depth of indentation, in a function whose statements stand at
`floor` or deeper. -/
def bodyLayout (indent : String) (floor : Nat) : Nat → List Statement → Code
  | _, [] => []
  | depth, .line code :: rest =>
    lineLayout indent depth code ++ bodyLayout indent floor depth rest
  | depth, .openBlock code :: rest =>
    lineLayout indent depth (code ++ [.text " \x7b"]) ++ bodyLayout indent floor (depth + 1) rest
  | depth, .closeBlock :: rest =>
    let outer := max (depth - 1) floor
    lineLayout indent outer [.text "\x7d"] ++ bodyLayout indent floor outer rest

/-- The layout of a function at a depth of indentation. -/
def Function.layout (indent : String) (depth : Nat) (f : Function) : Code :=
  let returns : Code := match f.returns with
    | some type => .text ": " :: type.layout
    | none => []
  lineLayout indent depth
      (.text ("fun " ++ f.name ++ "(") :: separated ", " (f.parameters.map Parameter.layout)
        ++ .text ")" :: returns ++ [.text " \x7b"])
    ++ bodyLayout indent (depth + 1) (depth + 1) f.body
    ++ lineLayout indent depth [.text "\x7d"]

/-- The layout of a property that a constructor declares. -/
def propertyLayout (p : Parameter) : Code := .text "val " :: p.layout

/-- The layout of a class. -/
def ClassDecl.layout (indent : String) (d : ClassDecl) : Code :=
  .text ("class " ++ d.name ++ "(") :: separated ", " (d.properties.map propertyLayout) ++
    match d.functions with
    | [] => [.text ")\n"]
    | functions =>
      .text ") \x7b\n" :: separated "\n" (functions.map (Function.layout indent 1))
        ++ [.text "\x7d\n"]

/-- The layout of what a file declares, with a blank line in front of each declaration. -/
def File.layout (indent : String) (f : File) : Code :=
  (f.classes.flatMap fun d => .text "\n" :: d.layout indent)
    ++ f.functions.flatMap fun g => .text "\n" :: g.layout indent 0

/-! ## 2. Text -/

/-- The text of a piece. -/
def Piece.write (names : NameTable) : Piece → String
  | .text s => s
  | .ref c => names.write c

/-- The text of a fragment. -/
def Code.write (names : NameTable) (code : Code) : String :=
  String.join (code.map (Piece.write names))

/-- The lines of a text. A line ends with a line feed, and a carriage return in front of it belongs
to the end; behind the last one there is no empty line. -/
def lines : List Char → List (List Char)
  | [] => []
  | '\r' :: '\n' :: rest => [] :: lines rest
  | '\n' :: rest => [] :: lines rest
  | [c] => [[c]]
  | c :: rest =>
    match lines rest with
    | [] => [[c]]
    | l :: more => (c :: l) :: more

/-- The text of a comment, with a blank line behind it. -/
def commentText (comment : String) : String :=
  String.join ((lines comment.toList).map fun l => "// " ++ String.ofList l ++ "\n") ++ "\n"

/-- The text of the imports, with a blank line in front of them. -/
def importsText (imports : List String) : String :=
  if imports.isEmpty then "" else "\n" ++ String.join (imports.map fun i => "import " ++ i ++ "\n")

/-- The text of a file, with the given level of indentation. -/
def File.render (indent : String) (f : File) : String :=
  let names := NameTable.ofFile f
  (f.comment.map commentText).getD "" ++ "package " ++ f.package ++ "\n"
    ++ importsText names.imports ++ Code.write names (f.layout indent)

end BuilderGen.Source
