import SqlDialect.Proofs.Engine.Connection
import SqlDialect.Proofs.Query.OutOfBand
import SqlDialect.Proofs.Session.Call

/-! Requests for the number of the new row.

A request at the end of a statement is taken off before the statement is run, and is answered by the
number of the last row inserted on the connection. That is a row of the statement's own if it has
inserted one; else it is a row of a statement before it, whatever this one has touched.
-/

set_option autoImplicit false

namespace SqlDialect.Translating

open Engine (Datum)
open Phrase (TwoWords)
open Text (Blank)

variable {σ π : Type} {conn : Connection σ π} {query hint w : Text} {params : List Param}
  {m : Massaged} {result : ResultSet} {s t : σ}

variable {lastRow : σ → Int64} {inserted : π → List Datum → σ → List Int64}

section

open Engine (Database)

def unnumbered : Database :=
  (execute Database.connection "CREATE TABLE t (id INTEGER PRIMARY KEY)" (.ofCatalog .empty)).2

def numbered : Database :=
  (execute Database.connection "INSERT INTO t VALUES (1), (2)" unnumbered).2

end

end SqlDialect.Translating
