/-!
Role sets: the ways in which an occurrence or a relation uses a symbol, one bit each.
-/

set_option autoImplicit false

namespace IncludeScan

/-- A set of roles. Bits without a name are kept. -/
structure Roles where
  bits : UInt32
  deriving DecidableEq, Repr, Inhabited

namespace Roles

def declaration : Roles := ⟨1⟩
def definition : Roles := ⟨2⟩
def reference : Roles := ⟨4⟩
def call : Roles := ⟨8⟩
def canonical : Roles := ⟨16⟩
def baseOf : Roles := ⟨32⟩
def extendedBy : Roles := ⟨64⟩
def containedBy : Roles := ⟨128⟩
def overrideOf : Roles := ⟨256⟩

def union (a b : Roles) : Roles :=
  ⟨a.bits ||| b.bits⟩

/-- Whether every role of `b` is in `a`. -/
def contains (a b : Roles) : Bool :=
  a.bits &&& b.bits == b.bits

def intersects (a b : Roles) : Bool :=
  a.bits &&& b.bits != 0

def isEmpty (a : Roles) : Bool :=
  a.bits == 0

/-- The named roles, in bit order. -/
def named : List (Roles × String) :=
  [(declaration, "declaration"), (definition, "definition"), (reference, "reference"),
    (call, "call"), (canonical, "canonical"), (baseOf, "base-of"), (extendedBy, "extended-by"),
    (containedBy, "contained-by"), (overrideOf, "override-of")]

def names (a : Roles) : List String :=
  (named.filter (fun r => a.contains r.1)).map (·.2)

def describe (a : Roles) : String :=
  "SymbolRoles[" ++ "|".intercalate a.names ++ "]"

end Roles
end IncludeScan
