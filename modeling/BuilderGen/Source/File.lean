import BuilderGen.Source.ClassRef

/-!
# Source files

A source file is built as a value: declarations, parameters and statements. Code keeps its
references to classes apart from its text, because how a class is written is only known once all
references of the file are.
-/

namespace BuilderGen.Source

/-! ## 1. Types and code -/

/-- A type in a declaration. -/
inductive TypeUse where
  /-- A class, which may admit null. -/
  | plain (c : ClassRef) (nullable : Bool)
  /-- A function on a receiver without a result. -/
  | receiverLambda (receiver : ClassRef)
deriving DecidableEq, Inhabited, Repr

/-- The class that a type mentions. -/
def TypeUse.mentioned : TypeUse → ClassRef
  | .plain c _ => c
  | .receiverLambda c => c

/-- A piece of code: text, or a reference to a class. -/
inductive Piece where
  | text (s : String)
  | ref (c : ClassRef)
deriving DecidableEq, Inhabited, Repr

/-- A fragment of code. -/
abbrev Code := List Piece

/-- The class that a piece refers to. -/
def Piece.ref? : Piece → Option ClassRef
  | .text _ => none
  | .ref c => some c

/-- The classes that a fragment refers to. -/
def Code.refs (code : Code) : List ClassRef := code.filterMap Piece.ref?

/-! ## 2. Declarations -/

/-- A parameter of a function, or a property that a constructor declares. -/
structure Parameter where
  name : String
  type : TypeUse
  default : Option Code
deriving DecidableEq, Inhabited, Repr

/-- A statement. Blocks are opened and closed by statements of their own. -/
inductive Statement where
  | line (code : Code)
  /-- Code in front of a brace that opens a block. -/
  | openBlock (code : Code)
  | closeBlock
deriving DecidableEq, Inhabited, Repr

/-- The code of a statement. -/
def Statement.code : Statement → Code
  | .line c => c
  | .openBlock c => c
  | .closeBlock => []

/-- A function. -/
structure Function where
  name : String
  parameters : List Parameter
  returns : Option TypeUse
  body : List Statement
deriving DecidableEq, Inhabited, Repr

/-- A class whose constructor declares its properties. -/
structure ClassDecl where
  name : String
  properties : List Parameter
  functions : List Function
deriving DecidableEq, Inhabited, Repr

/-- A source file. -/
structure File where
  package : String
  /-- The name of the file, without its extension. -/
  name : String
  comment : Option String
  classes : List ClassDecl
  functions : List Function
deriving DecidableEq, Inhabited, Repr

/-! ## 3. References -/

/-- The classes that a parameter refers to, in its type and its default. -/
def Parameter.refs (p : Parameter) : List ClassRef :=
  p.type.mentioned :: (p.default.map Code.refs).getD []

/-- The classes that a function refers to. -/
def Function.refs (f : Function) : List ClassRef :=
  f.parameters.flatMap Parameter.refs ++ (f.returns.map TypeUse.mentioned).toList
    ++ f.body.flatMap fun s => s.code.refs

/-- The classes that a class refers to. Its properties count by their types alone. -/
def ClassDecl.refs (d : ClassDecl) : List ClassRef :=
  d.properties.map (·.type.mentioned) ++ d.functions.flatMap Function.refs

/-- The classes that a file refers to. -/
def File.refs (f : File) : List ClassRef :=
  f.classes.flatMap ClassDecl.refs ++ f.functions.flatMap Function.refs

/-- The classes that a file declares. -/
def File.declared (f : File) : List ClassRef :=
  f.classes.map fun d => ClassRef.topLevel f.package d.name

end BuilderGen.Source
