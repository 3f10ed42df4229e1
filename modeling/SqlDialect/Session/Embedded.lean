import SqlDialect.Engine.Connection
import SqlDialect.Session.Translating

/-! Sessions on a database of the engine that is at hand. -/

set_option autoImplicit false

namespace SqlDialect.Embedded

open Engine (Database)

def backend : Backend Database := Translating.backend Database.connection

def target : Target Database := Translating.target Database.connection

def importSchema (files : List FileContent) (db : Database) :
    Except Fault ImportReport × Database :=
  Translating.importSchema Database.connection files db

end SqlDialect.Embedded
