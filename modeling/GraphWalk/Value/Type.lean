import GraphWalk.Json.Basic
import GraphWalk.Text.Compose

/-!
# Types of values

A type is primitive, a collection whose elements share one type, or a structure
with a type for each part. `dynamic` stands for a type that is not known yet and
accepts every value.

The attributes of an object type are kept in the order of their names, so that
equal types are equal terms (`Ty.ofAttrs`).
-/

namespace GraphWalk

inductive Ty where
  | dynamic
  | bool
  | number
  | string
  | list (elem : Ty)
  | set (elem : Ty)
  | map (elem : Ty)
  | object (attrs : List (String × Ty))
  | tuple (elems : List Ty)
deriving Repr, Inhabited

namespace Ty

mutual

/-- Whether two types are the same. -/
def same : Ty → Ty → Bool
  | .dynamic, .dynamic | .bool, .bool | .number, .number | .string, .string => true
  | .list a, .list b | .set a, .set b | .map a, .map b => a.same b
  | .object as, .object bs => sameAttrs as bs
  | .tuple as, .tuple bs => sameList as bs
  | _, _ => false

def sameList : List Ty → List Ty → Bool
  | [], [] => true
  | a :: as, b :: bs => a.same b && sameList as bs
  | _, _ => false

def sameAttrs : List (String × Ty) → List (String × Ty) → Bool
  | [], [] => true
  | (k, a) :: as, (k', b) :: bs => k == k' && a.same b && sameAttrs as bs
  | _, _ => false

end

mutual

theorem same_iff : ∀ a b : Ty, a.same b = true ↔ a = b
  | .dynamic, b | .bool, b | .number, b | .string, b => by cases b <;> simp [same]
  | .list a, b => by cases b <;> simp [same, same_iff a]
  | .set a, b => by cases b <;> simp [same, same_iff a]
  | .map a, b => by cases b <;> simp [same, same_iff a]
  | .object as, b => by cases b <;> simp [same, sameAttrs_iff as]
  | .tuple as, b => by cases b <;> simp [same, sameList_iff as]

theorem sameList_iff : ∀ as bs : List Ty, sameList as bs = true ↔ as = bs
  | [], bs => by cases bs <;> simp [sameList]
  | a :: as, bs => by cases bs <;> simp [sameList, same_iff a, sameList_iff as]

theorem sameAttrs_iff : ∀ as bs : List (String × Ty), sameAttrs as bs = true ↔ as = bs
  | [], bs => by cases bs <;> simp [sameAttrs]
  | (k, a) :: as, bs => by
    cases bs <;> simp [sameAttrs, same_iff a, sameAttrs_iff as, Prod.ext_iff]

end

instance : DecidableEq Ty := fun a b => decidable_of_iff (a.same b = true) (same_iff a b)

end Ty

/-- Inserts a pair into a list that is sorted by key, replacing an equal key. -/
def insertKey {α : Type} (k : String) (v : α) : List (String × α) → List (String × α)
  | [] => [(k, v)]
  | (k', v') :: rest =>
    if k < k' then (k, v) :: (k', v') :: rest
    else if k = k' then (k, v) :: rest
    else (k', v') :: insertKey k v rest

/-- Sorts pairs by key; of several with one key the last counts. -/
def sortKeys {α : Type} (kvs : List (String × α)) : List (String × α) :=
  kvs.foldl (fun acc (k, v) => insertKey k v acc) []

/-- The value under a key. -/
def lookupKey {α : Type} (k : String) (kvs : List (String × α)) : Option α :=
  (kvs.find? (·.1 = k)).map (·.2)

namespace Ty

/-- The object type with the given attributes, in the order in which they are visited: their names
are composed, and of those that are composed alike the one visited last counts. -/
def ofAttrs (attrs : List (String × Ty)) : Ty :=
  .object (sortKeys (attrs.map fun (k, t) => (Text.canonical k, t)))

def isPrimitive : Ty → Bool
  | .bool | .number | .string => true
  | _ => false

def isCollection : Ty → Bool
  | .list _ | .set _ | .map _ => true
  | _ => false

def isDynamic : Ty → Bool
  | .dynamic => true
  | _ => false

def isList : Ty → Bool
  | .list _ => true
  | _ => false

def isSet : Ty → Bool
  | .set _ => true
  | _ => false

def isMap : Ty → Bool
  | .map _ => true
  | _ => false

def isObject : Ty → Bool
  | .object _ => true
  | _ => false

def isTuple : Ty → Bool
  | .tuple _ => true
  | _ => false

/-- The element type of a collection. -/
def elem? : Ty → Option Ty
  | .list t | .set t | .map t => some t
  | _ => none

/-- The name of a type in messages. -/
def friendlyName : Ty → String
  | .dynamic => "dynamic"
  | .bool => "bool"
  | .number => "number"
  | .string => "string"
  | .list t => "list of " ++ t.friendlyName
  | .set t => "set of " ++ t.friendlyName
  | .map t => "map of " ++ t.friendlyName
  | .object _ => "object"
  | .tuple _ => "tuple"

/-- The name of a type as something asked for: the dynamic type reads as any
type, or any single type for the elements of a collection. -/
def constraintName (ty : Ty) : String := go "any type" ty
where
  go (any : String) : Ty → String
    | .dynamic => any
    | .bool => "bool"
    | .number => "number"
    | .string => "string"
    | .list t => "list of " ++ go "any single type" t
    | .set t => "set of " ++ go "any single type" t
    | .map t => "map of " ++ go "any single type" t
    | .object _ => "object"
    | .tuple _ => "tuple"

mutual

/-- Whether the dynamic type occurs anywhere in the type. -/
def hasDynamic : Ty → Bool
  | .dynamic => true
  | .bool | .number | .string => false
  | .list t | .set t | .map t => t.hasDynamic
  | .object attrs => hasDynamicAttrs attrs
  | .tuple ts => hasDynamicList ts

def hasDynamicList : List Ty → Bool
  | [] => false
  | t :: ts => t.hasDynamic || hasDynamicList ts

def hasDynamicAttrs : List (String × Ty) → Bool
  | [] => false
  | (_, t) :: rest => t.hasDynamic || hasDynamicAttrs rest

end

mutual

/-- Whether `t` has the shape of `want`, where `want` may be dynamic in places. -/
def conforms : Ty → Ty → Bool
  | _, .dynamic => true
  | .bool, .bool | .number, .number | .string, .string => true
  | .list a, .list b | .set a, .set b | .map a, .map b => a.conforms b
  | .object as, .object bs => conformsAttrs as bs
  | .tuple as, .tuple bs => conformsList as bs
  | _, _ => false

def conformsList : List Ty → List Ty → Bool
  | [], [] => true
  | a :: as, b :: bs => a.conforms b && conformsList as bs
  | _, _ => false

def conformsAttrs : List (String × Ty) → List (String × Ty) → Bool
  | [], [] => true
  | (k, a) :: as, (k', b) :: bs => k == k' && a.conforms b && conformsAttrs as bs
  | _, _ => false

end

mutual

/-- The nesting depth of a type. -/
def depth : Ty → Nat
  | .dynamic | .bool | .number | .string => 1
  | .list t | .set t | .map t => t.depth + 1
  | .object attrs => depthAttrs attrs + 1
  | .tuple ts => depthList ts + 1

def depthList : List Ty → Nat
  | [] => 1
  | t :: ts => max t.depth (depthList ts)

def depthAttrs : List (String × Ty) → Nat
  | [] => 1
  | (_, t) :: rest => max t.depth (depthAttrs rest)

end

mutual

/-- The JSON form of a type: a name, or an array that starts with one. -/
def toJson : Ty → Json
  | .dynamic => .str "dynamic"
  | .bool => .str "bool"
  | .number => .str "number"
  | .string => .str "string"
  | .list t => .arr [.str "list", t.toJson]
  | .set t => .arr [.str "set", t.toJson]
  | .map t => .arr [.str "map", t.toJson]
  | .object attrs => .arr [.str "object", .obj (toJsonAttrs attrs)]
  | .tuple ts => .arr [.str "tuple", .arr (toJsonList ts)]

def toJsonList : List Ty → List Json
  | [] => []
  | t :: ts => t.toJson :: toJsonList ts

def toJsonAttrs : List (String × Ty) → List (String × Json)
  | [] => []
  | (k, t) :: rest => (k, t.toJson) :: toJsonAttrs rest

end

/-- Why a document does not describe a type. -/
inductive ReadFault where
  | primitiveName (name : String)
  | notAnArray
  | kindName
  | missingPart
  | wrongShape (got want : String)
  | wrongOptional (got : String) (place : Nat)
  | extraPart
  | notAType
  | undeclaredOptional (name : String)
deriving Repr, DecidableEq

def ReadFault.message : ReadFault → String
  | .primitiveName name => "invalid primitive type name " ++ Text.quote name
  | .notAnArray => "invalid complex type description"
  | .kindName => "invalid complex type kind name"
  | .missingPart => "invalid character ']' looking for beginning of value"
  | .wrongShape got want => Json.wrongKind got [] want
  | .wrongOptional got place => Json.wrongKind got [toString place] "string"
  | .extraPart => "unexpected extra data in type description"
  | .notAType => "invalid type description"
  | .undeclaredOptional name => "optional contains undeclared attribute " ++ Text.quote name

/-- The names of optional attributes; nulls among them are empty names. -/
def optionalNames : Json → Except ReadFault (List String)
  | .null => .ok []
  | .arr items => (items.mapIdx fun i j => (i, j)).mapM fun
    | (_, .str s) => .ok s
    | (_, .null) => .ok ""
    | (i, j) => .error (.wrongOptional (j.kind) i)
  | j => .error (.wrongShape (j.kind) "[]string")

/-- The object type with some attributes, of which the optional ones have to be
declared. -/
def objectWithOptional (attrs : List (String × Ty)) (optional : List String) :
    Except ReadFault Ty :=
  let ty := ofAttrs attrs
  let declared (name : String) : Bool := attrs.any fun a => Text.canonical a.1 = name
  match (optional.map Text.canonical).find? fun name => !declared name with
  | some name => .error (.undeclaredOptional name)
  | none => .ok ty

/-- A type behind which nothing may follow. -/
def closed (rest : List Json) (ty : Ty) : Except ReadFault Ty :=
  if rest.isEmpty then .ok ty else .error .extraPart

/-- An object type with what follows its attributes: the names of optional ones. -/
def withOptional (attrs : List (String × Ty)) : List Json → Except ReadFault Ty
  | [] => .ok (.ofAttrs attrs)
  | names :: rest => do closed rest (← objectWithOptional attrs (← optionalNames names))

mutual

/-- Reads the JSON form of a type. -/
def read : Json → Except ReadFault Ty
  | .str "dynamic" => .ok .dynamic
  | .str "bool" => .ok .bool
  | .str "number" => .ok .number
  | .str "string" => .ok .string
  | .str name => .error (.primitiveName name)
  | .arr parts => readParts parts
  | .obj _ => .error .notAnArray
  | _ => .error .notAType

/-- Reads the parts of a type that is no primitive: its kind, and what it holds. -/
def readParts : List Json → Except ReadFault Ty
  | .str "list" :: t :: rest => do closed rest (.list (← read t))
  | .str "set" :: t :: rest => do closed rest (.set (← read t))
  | .str "map" :: t :: rest => do closed rest (.map (← read t))
  | .str "object" :: .obj members :: rest => do
    let attrs ← readAttrs members
    withOptional attrs rest
  | .str "object" :: .null :: rest => withOptional [] rest
  | .str "object" :: j :: _ => .error (.wrongShape (j.kind) "map[string]cty.Type")
  | .str "tuple" :: .arr items :: rest => do closed rest (.tuple (← readList items))
  | .str "tuple" :: .null :: rest => closed rest (.tuple [])
  | .str "tuple" :: j :: _ => .error (.wrongShape (j.kind) "[]cty.Type")
  | [.str "list"] | [.str "set"] | [.str "map"] | [.str "object"] | [.str "tuple"] =>
    .error .missingPart
  | _ => .error .kindName

def readList : List Json → Except ReadFault (List Ty)
  | [] => .ok []
  | j :: js => do
    let t ← read j
    let ts ← readList js
    return t :: ts

def readAttrs : List (String × Json) → Except ReadFault (List (String × Ty))
  | [] => .ok []
  | (k, j) :: rest => do
    let t ← read j
    let ts ← readAttrs rest
    return (k, t) :: ts

end

/-- Reads the JSON form of a type. -/
def ofJson? (j : Json) : Option Ty := (read j).toOption

end Ty

end GraphWalk
