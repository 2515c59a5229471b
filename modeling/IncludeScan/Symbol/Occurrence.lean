import IncludeScan.Symbol.Kind
import IncludeScan.Symbol.Roles

/-!
Symbols, their occurrences in files, and the relations of an occurrence to other symbols.
-/

set_option autoImplicit false

namespace IncludeScan

/-- A symbol. The `usr` identifies it across files. -/
structure Symbol where
  usr : String
  name : String
  kind : Kind
  deriving DecidableEq, Repr, Inhabited

structure Location where
  path : String
  line : UInt32
  column : UInt32
  deriving DecidableEq, Repr, Inhabited

/-- A link from an occurrence to another symbol. -/
structure Relation where
  roles : Roles
  symbol : Symbol
  deriving DecidableEq, Repr, Inhabited

structure Occurrence where
  symbol : Symbol
  location : Location
  roles : Roles
  relations : List Relation
  deriving DecidableEq, Repr, Inhabited

def Occurrence.isRelatedTo (o : Occurrence) (usr : String) (roles : Roles) : Bool :=
  o.relations.any (fun r => r.symbol.usr == usr && r.roles.intersects roles)

end IncludeScan
