import SelectiveDisclosure.Canonical

namespace SelectiveDisclosure

inductive Decomposition where
  | topLevel
  | leaf
deriving DecidableEq, Inhabited

structure Statement where
  name : String
  value : Content
  encoded : String

inductive DecompositionError where
  | notAnObject
  | noStatements
  | duplicateStatement (name : String)
  | encoding (cause : ContentError)
deriving DecidableEq

def DecompositionError.message : DecompositionError → String
  | .notAnObject => "content must be an object"
  | .noStatements => "content yields no statements"
  | .duplicateStatement name => "more than one statement for attribute '" ++ name ++ "'"
  | .encoding cause => cause.message

def encodeStatement (name : String) (value : Content) : Except ContentError String :=
  (Content.object [(name, value)]).encode

def Statement.make (name : String) (value : Content) : Except ContentError Statement := do
  return ⟨name, value, ← encodeStatement name value⟩

namespace Content

def joinPath (path part : String) : String := path ++ "." ++ part

def indexText (i : Nat) : String := String.ofList (Digits.decimal i)

-- A node below the deepest level stands as none.
mutual

def leaves (path : String) (depth : Nat) : Content → List (Option (String × Content))
  | .object (e :: es) =>
      if depth ≤ maxDepth then entryLeaves path (depth + 1) (e :: es) else [none]
  | .array (v :: vs) =>
      if depth ≤ maxDepth then itemLeaves path (depth + 1) 0 (v :: vs) else [none]
  | scalar => if depth ≤ maxDepth then [some (path, scalar)] else [none]

def entryLeaves (path : String) (depth : Nat) :
    List (String × Content) → List (Option (String × Content))
  | [] => []
  | (k, v) :: es =>
      leaves (joinPath path (Text.normalize k)) depth v ++ entryLeaves path depth es

def itemLeaves (path : String) (depth i : Nat) : List Content → List (Option (String × Content))
  | [] => []
  | v :: vs => leaves (joinPath path (indexText i)) depth v ++ itemLeaves path depth (i + 1) vs

end

def parts : Decomposition → List (String × Content) → List (Option (String × Content))
  | .topLevel, es => es.map fun e => some (Text.normalize e.1, e.2)
  | .leaf, es => es.flatMap fun e => leaves (Text.normalize e.1) 1 e.2

def collectParts : List (Option (String × Content)) → List (String × Content) →
    Except DecompositionError (List (String × Content))
  | [], done => return done
  | none :: _, _ => throw (.encoding (.tooDeep maxDepth))
  | some (name, value) :: rest, done =>
      if (lookupEntry name done).isSome then throw (.duplicateStatement name)
      else collectParts rest (insertEntry name value done)

def makeStatements : List (String × Content) → Except DecompositionError (List Statement)
  | [] => return []
  | (name, value) :: rest => do
      let first ← (Statement.make name value).mapError .encoding
      let others ← makeStatements rest
      return first :: others

def decompose (d : Decomposition) : Content → Except DecompositionError (List Statement)
  | .object es => do
      let named ← collectParts (parts d es) []
      if named.isEmpty then throw .noStatements
      makeStatements named
  | _ => throw .notAnObject

end Content

end SelectiveDisclosure
