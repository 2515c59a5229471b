import IncludeScan.Json.Value
import IncludeScan.Snapshot.Basic

/-!
Reading a snapshot from JSON.

A record is an object, in which unknown fields are skipped and known ones come at most once, or an
array of its fields in order, where the last ones may be left off. A field that is left off has to
have a default.
-/

set_option autoImplicit false

namespace IncludeScan.Snapshot

open Json (Value)

/-! ## Records -/

/-- The value of the named field of an object, if there is just one; `none` when there are more. -/
def fieldOf? (fields : List (Option String × Value)) (name : String) : Option (Option Value) :=
  match fields.filter (fun f => f.1 == some name) with
  | [] => some none
  | [f] => some (some f.2)
  | _ => none

def recordOf? (names : List String) : Value → Option (List (Option Value))
  | .obj fields =>
    if fields.all (fun f => f.1.isSome) then names.mapM (fieldOf? fields) else none
  | .arr items =>
    if items.length ≤ names.length then
      some (items.map some ++ List.replicate (names.length - items.length) none)
    else none
  | _ => none

/-! ## Plain values -/

def optionOf? {α : Type} (decode : Value → Option α) : Value → Option (Option α)
  | .null => some none
  | v => (decode v).map some

def listOf? {α : Type} (decode : Value → Option α) : Value → Option (List α)
  | .arr items => items.mapM decode
  | _ => none

/-- A kind by its name, or as an object with that name as its one key and `null` as its value. -/
def kindOf? : Value → Option Kind
  | .str (some name) => Kind.ofName? name
  | .obj [(some name, .null)] => Kind.ofName? name
  | _ => none

/-! ## The parts of a snapshot -/

def required {α : Type} (decode : Value → Option α) (field : Option Value) : Option α :=
  field.bind decode

def orDefault {α : Type} (decode : Value → Option α) (value : α) (field : Option Value) :
    Option α :=
  match field with
  | some v => decode v
  | none => some value

def symbolOf? (v : Value) : Option Symbol := do
  match ← recordOf? ["usr", "name", "kind"] v with
  | [usr, name, kind] =>
    return ⟨← required Value.text? usr, ← required Value.text? name, ← required kindOf? kind⟩
  | _ => none

def locationOf? (v : Value) : Option Location := do
  match ← recordOf? ["path", "line", "column"] v with
  | [path, line, column] =>
    return ⟨← required Value.text? path, ← required Value.uint32? line,
      ← required Value.uint32? column⟩
  | _ => none

def rolesOf? (v : Value) : Option Roles :=
  (Value.uint32? v).map Roles.mk

def relationOf? (v : Value) : Option Relation := do
  match ← recordOf? ["roles", "symbol"] v with
  | [roles, symbol] => return ⟨← required rolesOf? roles, ← required symbolOf? symbol⟩
  | _ => none

def occurrenceOf? (v : Value) : Option Occurrence := do
  match ← recordOf? ["symbol", "location", "roles", "relations"] v with
  | [symbol, location, roles, relations] =>
    return ⟨← required symbolOf? symbol, ← required locationOf? location,
      ← required rolesOf? roles, ← orDefault (listOf? relationOf?) [] relations⟩
  | _ => none

def includeOf? (v : Value) : Option Entry := do
  match ← recordOf? ["source_path", "target_path", "line"] v with
  | [source, target, line] =>
    return ⟨← required Value.text? source, ← required Value.text? target,
      ← required Value.uint32? line⟩
  | _ => none

def unitOf? (v : Value) : Option CompilationUnit := do
  match ← recordOf? ["name", "main_file", "modified_at", "includes"] v with
  | [name, mainFile, modifiedAt, includes] =>
    return ⟨← required Value.text? name, ← required Value.text? mainFile,
      ← orDefault (optionOf? Value.int64?) none modifiedAt,
      ← orDefault (listOf? includeOf?) [] includes⟩
  | _ => none

def ofValue? (v : Value) : Option Snapshot := do
  match ← recordOf? ["units", "occurrences"] v with
  | [units, occurrences] =>
    return ⟨← orDefault (listOf? unitOf?) [] units,
      ← orDefault (listOf? occurrenceOf?) [] occurrences⟩
  | _ => none

def decode? (text : String) : Option Snapshot := do
  ofValue? (← Json.parse? text.toList)

end IncludeScan.Snapshot
