import IncludeScan.Index.Rows
import IncludeScan.Json.Value

/-!
Stored rows as a text: a line that names the format, then one JSON array of the four tables, each
an array of rows, each row an array of its columns.
-/

set_option autoImplicit false

namespace IncludeScan

open Json

/-! ## Writing -/

def UnitRow.tokens (row : UnitRow) : List Token :=
  arrayTokens
    [strToken row.name, strToken row.mainFile,
      match row.modifiedAt with
      | some t => intToken t.toInt
      | none => [.null]]

def IncludeRow.tokens (row : IncludeRow) : List Token :=
  arrayTokens
    [strToken row.unit, intToken row.seq, strToken row.source, strToken row.target,
      intToken row.line.toInt]

def OccurrenceRow.tokens (row : OccurrenceRow) : List Token :=
  arrayTokens
    [intToken row.id, strToken row.usr, strToken row.name, strToken row.kind, strToken row.path,
      intToken row.line.toInt, intToken row.column.toInt, intToken row.roles.toInt]

def RelationRow.tokens (row : RelationRow) : List Token :=
  arrayTokens
    [intToken row.occurrence, intToken row.roles.toInt, strToken row.usr, strToken row.name,
      strToken row.kind]

namespace RowStore

def tokens (s : RowStore) : List Token :=
  arrayTokens
    [arrayTokens (s.units.map UnitRow.tokens), arrayTokens (s.includes.map IncludeRow.tokens),
      arrayTokens (s.occurrences.map OccurrenceRow.tokens),
      arrayTokens (s.relations.map RelationRow.tokens)]

def formatLine : List Char :=
  "include index rows\n".toList

def encode (s : RowStore) : String :=
  String.ofList (formatLine ++ compact s.tokens)

/-! ## Reading -/

def unitRow? : Value → Option UnitRow
  | .arr [.str (some name), .str (some mainFile), .null] => some ⟨name, mainFile, none⟩
  | .arr [.str (some name), .str (some mainFile), time] => do
    return ⟨name, mainFile, some (← time.int64?)⟩
  | _ => none

def includeRow? : Value → Option IncludeRow
  | .arr [.str (some unit), seq, .str (some source), .str (some target), line] => do
    return ⟨unit, ← seq.int64?, source, target, ← line.int64?⟩
  | _ => none

def occurrenceRow? : Value → Option OccurrenceRow
  | .arr [.num (.int id), .str (some usr), .str (some name), .str (some kind), .str (some path),
      line, column, roles] => do
    return ⟨id, usr, name, kind, path, ← line.int64?, ← column.int64?, ← roles.int64?⟩
  | _ => none

def relationRow? : Value → Option RelationRow
  | .arr [.num (.int occurrence), roles, .str (some usr), .str (some name), .str (some kind)] => do
    return ⟨occurrence, ← roles.int64?, usr, name, kind⟩
  | _ => none

def ofValue? : Value → Option RowStore
  | .arr [.arr units, .arr includes, .arr occurrences, .arr relations] => do
    return ⟨← units.mapM unitRow?, ← includes.mapM includeRow?,
      ← occurrences.mapM occurrenceRow?, ← relations.mapM relationRow?⟩
  | _ => none

def decode? (text : String) : Option RowStore :=
  let cs := text.toList
  if formatLine.isPrefixOf cs then (parse? (cs.drop formatLine.length)).bind ofValue? else none

end RowStore
end IncludeScan
