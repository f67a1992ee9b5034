import DocQuery.Compile.Error

/-!
# Engine errors

What can go wrong while a predicate, an expression, a stage or an update runs, why a document is
rejected by a collection, and how a failed operation is reported to the caller.
-/

namespace DocQuery

/-- A name that a stored program uses and the engine does not know. -/
inductive OperatorArea where
  | query
  | expression
  | variable
deriving DecidableEq, Repr

/-- The area's name in messages. -/
def OperatorArea.name : OperatorArea → String
  | .query => "query"
  | .expression => "expression"
  | .variable => "variable"

/-- A fault of a stored program: a predicate, an expression, a pipeline or an update document. -/
inductive Fault where
  /-- An operator over a list was given something else. -/
  | needsArray (op : String) (found : Value)
  /-- A clause of a logical operator is no document. -/
  | clauseNotDocument (found : Value)
  | unknownOperator (area : OperatorArea) (op : String)
  | needsTwoArguments (op : String)
  /-- An update operator was given something else than fields. -/
  | needsFields (op : String) (found : Value)
  | unknownUpdateOperator (op : String)
  /-- An update document names a field where an operator belongs. -/
  | notAnUpdateOperator (name : String)
  | cannotIncrement (path : String) (amount : Value)
  | notAnArray (path : String) (found : Value)
  /-- The way to an array does not end at one. -/
  | unreachable (path : String)
  /-- The items to append are no array. -/
  | eachNeedsArray
  /-- A stage without its one operator. -/
  | stageNeedsOneOperator
  | stageNeedsDocument (stage : String) (found : Value)
  | stageNeedsInteger (stage : String) (found : Value)
  | negativeCount (stage : String) (count : Int)
  | unknownStage (stage : String)
  | countNeedsName (found : Value)
  | groupNeedsId
  | invalidAccumulator (name : String)
  | unknownAccumulator (op : String)
  | replaceNeedsRoot
  | rootNotDocument (found : Value)
  | unknownDirection (found : Value)
  | lookupNeeds (name : String)
  | unwindNeedsPath
  | invalidUnwind (found : Value)
  | unwindPathNotReference (path : String)
  /-- A collection is created twice. -/
  | collectionExists (collection : String)
  /-- A write was rejected by the store, with its code. -/
  | writeRejected (code : Int) (message : String)
  /-- The rows of a pipeline broke off. -/
  | streamLost

namespace Fault

/-- The wording of a fault. -/
def message : Fault → String
  | .needsArray op found => op ++ " needs an array, got " ++ found.text
  | .clauseNotDocument found => "expected a predicate document, got " ++ found.text
  | .unknownOperator area op => "unsupported " ++ area.name ++ " operator: " ++ op
  | .needsTwoArguments op => op ++ " takes two arguments"
  | .needsFields op found => op ++ " needs a document, got " ++ found.text
  | .unknownUpdateOperator op => "unsupported update operator: " ++ op
  | .notAnUpdateOperator name => "update document must only contain operators, found " ++ name
  | .cannotIncrement path amount => "cannot apply $inc to " ++ path ++ " with " ++ amount.text
  | .notAnArray path found => "field " ++ path ++ " must be an array, found " ++ found.text
  | .unreachable path => "field " ++ path ++ " is not reachable"
  | .eachNeedsArray => "$each needs an array"
  | .stageNeedsOneOperator => "pipeline: each stage needs exactly one operator"
  | .stageNeedsDocument stage found => stage ++ ": expected a document, got " ++ found.text
  | .stageNeedsInteger stage found => stage ++ ": expected an integer, got " ++ found.text
  | .negativeCount stage count => stage ++ ": negative count " ++ toString count
  | .unknownStage stage => stage ++ ": unsupported stage"
  | .countNeedsName found => "$count: invalid field " ++ found.text
  | .groupNeedsId => "$group: missing _id"
  | .invalidAccumulator name => "$group: invalid accumulator for " ++ name
  | .unknownAccumulator op => "$group: unsupported accumulator " ++ op
  | .replaceNeedsRoot => "$replaceRoot: missing newRoot"
  | .rootNotDocument found => "$replaceRoot: newRoot must be a document, got " ++ found.text
  | .unknownDirection found => "$sort: unsupported direction " ++ found.text
  | .lookupNeeds name => "$lookup: missing " ++ name
  | .unwindNeedsPath => "$unwind: missing path"
  | .invalidUnwind found => "$unwind: invalid spec " ++ found.text
  | .unwindPathNotReference path => "$unwind: path must start with $: " ++ path
  | .collectionExists collection => "Collection '" ++ collection ++ "' already exists"
  | .writeRejected code message => "write error " ++ toString code ++ ": " ++ message
  | .streamLost => "stream lost"

end Fault

/-- The result of running a part of a stored program. -/
abbrev Run (α : Type) := Except Fault α

/-- Why a document does not satisfy a validator. -/
inductive Violation where
  | missingField (name : String)
  | wrongType (name expected found : String)
  | disallowedType (name found : String)
  | notOneOf (name : String) (cases : List Value)

/-- The wording of a violation. -/
def Violation.message : Violation → String
  | .missingField name => "missing required field " ++ name
  | .wrongType name expected found => name ++ " must be " ++ expected ++ ", found " ++ found
  | .disallowedType name found => name ++ " has disallowed type " ++ found
  | .notOneOf name cases =>
      name ++ " must be one of " ++ bracketed (Value.typedItemTexts cases)

/-- Why a collection does not take a document. -/
inductive Rejection where
  | invalid (violation : Violation)
  | duplicateId (id : Value)
  | duplicateKey (index : String) (key : List Value)
  | immutableId

/-- A failed write as a store reports it. -/
structure WriteError where
  code : Int
  message : String
deriving DecidableEq, Repr

/-- The code of a uniqueness violation. -/
def duplicateKeyCode : Int := 11000

/-- The code of a validator rejection. -/
def validationFailedCode : Int := 121

/-- The code of an update that would change the identity. -/
def immutableFieldCode : Int := 66

/-- The report of a rejection. -/
def Rejection.report : Rejection → WriteError
  | .invalid violation =>
      ⟨validationFailedCode, "Document failed validation: " ++ violation.message⟩
  | .duplicateId id =>
      ⟨duplicateKeyCode, "E11000 duplicate key error index: _id_ dup key: " ++ id.text⟩
  | .duplicateKey index key =>
      ⟨duplicateKeyCode, "E11000 duplicate key error index: " ++ index ++ " dup key: " ++
        bracketed (Value.typedItemTexts key)⟩
  | .immutableId =>
      ⟨immutableFieldCode, "Performing an update would modify the immutable field '_id'"⟩

/-- Why an operation failed. -/
inductive OperationError where
  | compile (error : CompileError)
  | duplicateKey (message : String)
  /-- A row that should identify a document has no identity. -/
  | rowWithoutId (row : Document)
  | insertCountMismatch (expected actual : Nat)
  | collectionNotFound (collection : String)
  | store (fault : Fault)

namespace OperationError

/-- The short name of an error. -/
def kind : OperationError → String
  | .compile error => "compile/" ++ error.kind.name
  | .duplicateKey _ => "duplicate-key"
  | .rowWithoutId _ => "invalid-result"
  | .insertCountMismatch _ _ => "insert-count-mismatch"
  | .collectionNotFound _ => "collection-not-found"
  | .store _ => "store"

/-- The wording of an error. -/
def message : OperationError → String
  | .compile error => "Compilation failed: " ++ error.message
  | .duplicateKey text => "Duplicate key: " ++ text
  | .rowWithoutId row => "Invalid result: resolved row without " ++ idName ++ ": " ++ row.text
  | .insertCountMismatch expected actual =>
      "Inserted " ++ toString actual ++ " of " ++ toString expected ++ " documents"
  | .collectionNotFound collection => "Collection '" ++ collection ++ "' not found"
  | .store fault => "Store error: " ++ fault.message

/-- Whether the caller's query or schema change has no form in the store. -/
def isSyntax : OperationError → Bool
  | .compile _ => true
  | _ => false

/-- Whether a uniqueness constraint failed. -/
def isConstraintFailure : OperationError → Bool
  | .duplicateKey _ => true
  | _ => false

/-- Whether the store's results or state are not what the operation expected. -/
def isResultShape : OperationError → Bool
  | .rowWithoutId _ | .insertCountMismatch _ _ | .collectionNotFound _ => true
  | _ => false

end OperationError

/-- The error that a write report stands for. -/
def WriteError.toOperationError (error : WriteError) : OperationError :=
  if error.code = duplicateKeyCode then .duplicateKey error.message
  else .store (.writeRejected error.code error.message)

/-- The error of the first report, if there is one. -/
def firstWriteError? (errors : List WriteError) : Option OperationError :=
  errors.head?.map WriteError.toOperationError

end DocQuery
