import IncludeScan.Json.Token
import IncludeScan.Snapshot.Basic

/-!
Writing a snapshot as JSON. Every field is written, in the order of declaration.
-/

set_option autoImplicit false

namespace IncludeScan

open Json

def Symbol.tokens (s : Symbol) : List Token :=
  objectTokens
    [("usr", strToken s.usr), ("name", strToken s.name), ("kind", strToken s.kind.name)]

def Location.tokens (l : Location) : List Token :=
  objectTokens
    [("path", strToken l.path), ("line", intToken l.line.toNat),
      ("column", intToken l.column.toNat)]

def Roles.tokens (r : Roles) : List Token :=
  intToken r.bits.toNat

def Relation.tokens (r : Relation) : List Token :=
  objectTokens [("roles", r.roles.tokens), ("symbol", r.symbol.tokens)]

def Occurrence.tokens (o : Occurrence) : List Token :=
  objectTokens
    [("symbol", o.symbol.tokens), ("location", o.location.tokens), ("roles", o.roles.tokens),
      ("relations", arrayTokens (o.relations.map Relation.tokens))]

def Entry.tokens (e : Entry) : List Token :=
  objectTokens
    [("source_path", strToken e.source), ("target_path", strToken e.target),
      ("line", intToken e.line.toNat)]

def CompilationUnit.tokens (u : CompilationUnit) : List Token :=
  objectTokens
    [("name", strToken u.name), ("main_file", strToken u.mainFile),
      ("modified_at", match u.modifiedAt with
        | some t => intToken t.toInt
        | none => [.null]),
      ("includes", arrayTokens (u.includes.map Entry.tokens))]

def Snapshot.tokens (s : Snapshot) : List Token :=
  objectTokens
    [("units", arrayTokens (s.units.map CompilationUnit.tokens)),
      ("occurrences", arrayTokens (s.occurrences.map Occurrence.tokens))]

def Snapshot.encode (s : Snapshot) : String :=
  String.ofList (compact s.tokens)

end IncludeScan
