import GraphWalk.Architype.Fields
import GraphWalk.Architype.Kind
import GraphWalk.Globals
import GraphWalk.Handle
import GraphWalk.Value.Type

/-!
# Faults

What can go wrong when architypes and definitions are registered, linked and bound:
every such error names its subject and, where there is one, the module that caused it.
And why an operation of the store is refused.

A fault is a tree of causes: a cause from one part of the library, wrapped in
the contexts it passed through. `Fault.message` is the text a reader sees and
`Fault.kinds` lists the causes that can be told apart, wherever they sit in the
tree.
-/

/-! ## Registration -/

namespace GraphWalk

/-- What a registration error is about. -/
inductive Subject where
  | arch (key : ArchKey)
  | path (p : Path)
deriving Repr, DecidableEq

def Subject.text : Subject → String
  | .arch key => key.text
  | .path p => if p.ability = "" then (ArchKey.mk (.invalid 0) "").text else p.text

inductive RegistryCause where
  | duplicateDeclaration
  | duplicateDefinition
  | notFound
  | frozen
  | unknownBase
  | inheritanceCycle
  | unboundDefinition
  | missingDefinition
deriving Repr, DecidableEq

def RegistryCause.text : RegistryCause → String
  | .duplicateDeclaration => "duplicate declaration"
  | .duplicateDefinition => "duplicate definition"
  | .notFound => "not found"
  | .frozen => "registry is frozen"
  | .unknownBase => "unknown base architype"
  | .inheritanceCycle => "inheritance cycle"
  | .unboundDefinition => "unbound definition"
  | .missingDefinition => "missing definition"

inductive RegistryError where
  | invalidKind (name : String)
  | noBody (path : Path) (module : String)
  | issue (cause : RegistryCause) (subject : Subject) (module detail : String)
deriving Repr, DecidableEq

def RegistryError.message : RegistryError → String
  | .invalidKind name => "invalid kind for architype " ++ Text.quote name
  | .noBody path module =>
    "definition " ++ path.text ++ " in module " ++ Text.quote module ++ " has no body"
  | .issue cause subject module detail =>
    cause.text ++ ": " ++ subject.text
      ++ (if module = "" then "" else " (module " ++ Text.quote module ++ ")")
      ++ (if detail = "" then "" else ": " ++ detail)

end GraphWalk

/-! ## The store -/

namespace GraphWalk

/-- The ends of an edge. -/
inductive EdgeEnd where
  | source
  | target
deriving Repr, DecidableEq

/-- Why a store operation is refused. -/
inductive StoreError where
  /-- No live node (or edge) has this handle. -/
  | dangling (edge : Bool) (h : Handle)
  /-- An end of a new edge is no live node. -/
  | danglingEnd (which : EdgeEnd) (h : Handle)
  /-- The node or edge is pinned, or the named incident edge of the node is. -/
  | pinned (h : Handle) (incident : Option Handle)
  /-- The architype is not of the kind that is being created. -/
  | kindMismatch (key : ArchKey) (edge : Bool)
  /-- The initial values do not fit the fields. -/
  | badFields (key : ArchKey) (why : FieldError)
deriving Repr

def danglingText (edge : Bool) (h : Handle) : String :=
  "dangling reference: " ++ (if edge then "edge " else "node ") ++ h.text

def StoreError.message : StoreError → String
  | .dangling edge h => danglingText edge h
  | .danglingEnd .source h => "edge source: " ++ danglingText false h
  | .danglingEnd .target h => "edge target: " ++ danglingText false h
  | .pinned h incident =>
    "deleting " ++ (if h.kind = .edge then "edge " else "node ") ++ h.text
      ++ (match incident with
        | some e => ": incident edge " ++ e.text
        | none => "")
      ++ ": referenced by active walker"
  | .kindMismatch key edge =>
    "architype kind mismatch: " ++ key.text ++ " is not "
      ++ (if edge then "an edge" else "a node") ++ " architype"
  | .badFields key why => "creating " ++ key.text ++ ": " ++ why.message

end GraphWalk

/-! ## All faults -/

namespace GraphWalk

/-- The causes that callers tell apart. -/
inductive FaultKind where
  | resolveErrors | abilityError | exitError | unknownField | fieldType
  | duplicateDeclaration | duplicateDefinition | notFound | frozen | unknownBase
  | inheritanceCycle | unboundDefinition | missingDefinition | unknownImport
  | danglingReference | referencedByActiveWalker | kindMismatch | duplicateGlobal
  | unknownGlobal | notVisible | notWalker | abilityPanic | noGlobals | notLoaded
  | unknownGraph | unknownSeed | graphConflict | snapshotNotFound | unknownHandle
  | fail | canceled
deriving Repr, DecidableEq

/-- All kinds, in the order in which they are listed. -/
def FaultKind.all : List FaultKind :=
  [.resolveErrors, .abilityError, .exitError, .unknownField, .fieldType, .duplicateDeclaration,
    .duplicateDefinition, .notFound, .frozen, .unknownBase, .inheritanceCycle,
    .unboundDefinition, .missingDefinition, .unknownImport, .danglingReference,
    .referencedByActiveWalker, .kindMismatch, .duplicateGlobal, .unknownGlobal, .notVisible,
    .notWalker, .abilityPanic, .noGlobals, .notLoaded, .unknownGraph, .unknownSeed,
    .graphConflict, .snapshotNotFound, .unknownHandle, .fail, .canceled]

/-- The name of a kind. -/
def FaultKind.name : FaultKind → String
  | .resolveErrors => "ResolveErrors"
  | .abilityError => "AbilityError"
  | .exitError => "ExitError"
  | .unknownField => "UnknownField"
  | .fieldType => "FieldType"
  | .duplicateDeclaration => "DuplicateDeclaration"
  | .duplicateDefinition => "DuplicateDefinition"
  | .notFound => "NotFound"
  | .frozen => "Frozen"
  | .unknownBase => "UnknownBase"
  | .inheritanceCycle => "InheritanceCycle"
  | .unboundDefinition => "UnboundDefinition"
  | .missingDefinition => "MissingDefinition"
  | .unknownImport => "UnknownImport"
  | .danglingReference => "DanglingReference"
  | .referencedByActiveWalker => "ReferencedByActiveWalker"
  | .kindMismatch => "KindMismatch"
  | .duplicateGlobal => "DuplicateGlobal"
  | .unknownGlobal => "UnknownGlobal"
  | .notVisible => "NotVisible"
  | .notWalker => "NotWalker"
  | .abilityPanic => "AbilityPanic"
  | .noGlobals => "NoGlobals"
  | .notLoaded => "NotLoaded"
  | .unknownGraph => "UnknownGraph"
  | .unknownSeed => "UnknownSeed"
  | .graphConflict => "GraphConflict"
  | .snapshotNotFound => "SnapshotNotFound"
  | .unknownHandle => "UnknownHandle"
  | .fail => "Fail"
  | .canceled => "Canceled"

/-- A cause, or a cause in a context. -/
inductive Fault where
  | text (message : String)
  | field (e : FieldError)
  | global (e : GlobalError)
  | registry (e : RegistryError)
  | store (e : StoreError)
  /-- A target of a visit is not live. -/
  | deadTarget (h : Handle)
  /-- An import names no module of the set. -/
  | unknownImport (module target file : String) (line : Nat)
  /-- A change of modules after they were loaded. -/
  | frozenModules (reason : String)
  | notWalker (key : ArchKey)
  | noGlobals
  /-- A script gave up, with its message if it has one. -/
  | gaveUp (message : Option String)
  | panicked (message : String)
  | notLoaded
  | unknownGraph (name : String)
  | graphConflict (name : String) (owners : List String)
  | unknownSeed (name : String)
  | snapshotNotFound (id : String)
  | unknownEndpoint (handle : String)
  | canceled
  /-- The command line ends with this code. -/
  | exit (code : Nat) (message : String)
  | within (label : String) (cause : Fault)
  | ability (path : Path) (event : Event) (position : Handle) (cause : Fault)
  | joined (causes : List Fault)
  | resolution (causes : List Fault)
deriving Repr, Inhabited

/-- Texts in brackets, with blanks between. -/
def bracketed (items : List String) : String := "[" ++ " ".intercalate items ++ "]"

namespace Fault

mutual

def message : Fault → String
  | .text m => m
  | .field e => e.message
  | .global e => e.message
  | .registry e => e.message
  | .store e => e.message
  | .deadTarget h => "visit " ++ h.text ++ ": dangling reference"
  | .unknownImport m target file line =>
    "unknown import: module " ++ Text.quote m ++ " imports " ++ Text.quote target ++ " ("
      ++ file ++ ":" ++ toString line ++ ")"
  | .frozenModules reason => reason ++ ": registry is frozen"
  | .notWalker key => "architype is not a walker: " ++ key.text
  | .noGlobals => "no global scope configured"
  | .gaveUp none => "ability failed"
  | .gaveUp (some m) => "ability failed: " ++ m
  | .panicked m => "ability panicked: " ++ m
  | .notLoaded => "no modules loaded"
  | .unknownGraph name => "unknown graph: " ++ Text.quote name
  | .graphConflict name owners =>
    "graph defined by more than one module: " ++ Text.quote name ++ " in " ++ bracketed owners
  | .unknownSeed name => "unknown seed node " ++ Text.quote name
  | .snapshotNotFound id => "snapshot not found: " ++ id
  | .unknownEndpoint h => "edge endpoint not in snapshot: " ++ h
  | .canceled => "context canceled"
  | .exit _ m => m
  | .within label cause => label ++ ": " ++ cause.message
  | .ability path event position cause =>
    "ability " ++ path.text ++ " failed on " ++ event.text ++ " at " ++ position.text ++ ": "
      ++ cause.message
  | .joined causes => "\n".intercalate (messages causes)
  | .resolution causes => "resolution failed:\n- " ++ "\n- ".intercalate (messages causes)

def messages : List Fault → List String
  | [] => []
  | f :: fs => f.message :: messages fs

end

def fieldKind : FieldError → List FaultKind
  | .unknown _ => [.unknownField]
  | .wrongType .. => [.fieldType]
  | .badDefault .. => []

def globalKind : GlobalError → List FaultKind
  | .duplicate .. => [.duplicateGlobal]
  | .unknown .. => [.unknownGlobal]
  | .notVisible .. => [.notVisible]
  | .wrongType .. => []

def registryKind : RegistryError → List FaultKind
  | .invalidKind _ | .noBody .. => []
  | .issue cause _ _ _ => match cause with
    | .duplicateDeclaration => [.duplicateDeclaration]
    | .duplicateDefinition => [.duplicateDefinition]
    | .notFound => [.notFound]
    | .frozen => [.frozen]
    | .unknownBase => [.unknownBase]
    | .inheritanceCycle => [.inheritanceCycle]
    | .unboundDefinition => [.unboundDefinition]
    | .missingDefinition => [.missingDefinition]

def storeKind : StoreError → List FaultKind
  | .dangling .. | .danglingEnd .. => [.danglingReference]
  | .pinned .. => [.referencedByActiveWalker]
  | .kindMismatch .. => [.kindMismatch]
  | .badFields _ why => fieldKind why

mutual

/-- The kinds of all causes in the tree, in any order. -/
def kindsIn : Fault → List FaultKind
  | .text _ => []
  | .field e => fieldKind e
  | .global e => globalKind e
  | .registry e => registryKind e
  | .store e => storeKind e
  | .deadTarget _ => [.danglingReference]
  | .unknownImport .. => [.unknownImport]
  | .frozenModules _ => [.frozen]
  | .notWalker _ => [.notWalker]
  | .noGlobals => [.noGlobals]
  | .gaveUp _ => [.fail]
  | .panicked _ => [.abilityPanic]
  | .notLoaded => [.notLoaded]
  | .unknownGraph _ => [.unknownGraph]
  | .graphConflict .. => [.graphConflict]
  | .unknownSeed _ => [.unknownSeed]
  | .snapshotNotFound _ => [.snapshotNotFound]
  | .unknownEndpoint _ => [.unknownHandle]
  | .canceled => [.canceled]
  | .exit .. => [.exitError]
  | .within _ cause => cause.kindsIn
  | .ability _ _ _ cause => .abilityError :: cause.kindsIn
  | .joined causes => kindsOf causes
  | .resolution causes => .resolveErrors :: kindsOf causes

def kindsOf : List Fault → List FaultKind
  | [] => []
  | f :: fs => f.kindsIn ++ kindsOf fs

end

/-- The kinds a fault has, each once, in the listed order. -/
def kinds (f : Fault) : List FaultKind :=
  let present := f.kindsIn
  FaultKind.all.filter present.contains

/-- The names of the kinds, joined; a fault of no kind is an error. -/
def kindText (f : Fault) : String :=
  match f.kinds with
  | [] => "Error"
  | ks => "+".intercalate (ks.map FaultKind.name)

/-- The single faults of a failed resolution. -/
def resolution? : Fault → Option (List Fault)
  | .resolution fs => some fs
  | .within _ f => f.resolution?
  | _ => none

/-- Several faults as one; none at all if there is none. -/
def join? : List Fault → Option Fault
  | [] => none
  | fs => some (.joined fs)

end Fault

end GraphWalk
