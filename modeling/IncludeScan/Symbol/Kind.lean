/-!
Symbol kinds and their names.
-/

set_option autoImplicit false

namespace IncludeScan

inductive Kind where
  | class_
  | protocol
  | struct
  | union
  | enum
  | enumConstant
  | field
  | property
  | instanceMethod
  | classMethod
  | staticMethod
  | function
  | variable_
  | typeAlias
  | macro_
  | extension
  | unknown
  deriving DecidableEq, Repr, Inhabited

namespace Kind

def all : List Kind :=
  [class_, protocol, struct, union, enum, enumConstant, field, property, instanceMethod,
    classMethod, staticMethod, function, variable_, typeAlias, macro_, extension, unknown]

def name : Kind → String
  | class_ => "class"
  | protocol => "protocol"
  | struct => "struct"
  | union => "union"
  | enum => "enum"
  | enumConstant => "enum-constant"
  | field => "field"
  | property => "property"
  | instanceMethod => "instance-method"
  | classMethod => "class-method"
  | staticMethod => "static-method"
  | function => "function"
  | variable_ => "variable"
  | typeAlias => "type-alias"
  | macro_ => "macro"
  | extension => "extension"
  | unknown => "unknown"

def ofName? (s : String) : Option Kind :=
  all.find? (fun k => k.name == s)

/-- The kind of that exact name, and `unknown` for every other text. -/
def ofName (s : String) : Kind :=
  (ofName? s).getD unknown

def isMethod : Kind → Bool
  | instanceMethod | classMethod | staticMethod => true
  | _ => false

@[simp] theorem ofName?_name (k : Kind) : ofName? k.name = some k := by
  cases k <;> decide +kernel

@[simp] theorem ofName_name (k : Kind) : ofName k.name = k := by
  simp [ofName]

end Kind
end IncludeScan
