import CatalogSearch.Catalog.Edit
import CatalogSearch.Service.Command
namespace CatalogSearch

open Engine

variable {σ α : Type} [Engine σ]

/-- How many values one statement takes where the database is not set otherwise. -/
def usualLimit : Nat := 32766

/-- A running program: what it was started with, how it is set, its tables, and its link to the engine.
A catalog that is held in memory takes the place of the tables. -/
structure App (σ : Type) where
  environment : Environment
  settings : Settings
  tables : Option Catalog.Tables
  limit : Option Nat := some usualLimit
  held : Option Catalog
  link : Link σ

namespace App

def catalog (app : App σ) : Catalog := app.held.getD (.stored app.tables app.limit)

def run (app : App σ) (a : Action σ α) : Outcome α × App σ :=
  let (outcome, link) := (a app.settings).run app.link
  (outcome, { app with link })

def preparedTables (env : Environment) (settings : Settings) (tables : Option Catalog.Tables) : Option Catalog.Tables :=
  if (settings .initTables).truthy then some (Catalog.Tables.ready env tables) else tables

def start [Calendar.Zones] (env : Environment) (changes : Entries) (tables : Option Catalog.Tables) (engine : σ) :
    App σ :=
  let settings := (Settings.ofEnvironment env).update changes
  let tables := preparedTables env settings tables
  let app : App σ := { environment := env, settings, tables, held := none, link := { engine } }
  (app.run (Service.schedule env tables app.limit)).2

def renew (app : App σ) (held : Option Catalog) : App σ :=
  { app with held, link := { app.link with connected := false, available := none } }

/-- Runs the indexing command, which is a program of its own on the same tables. The variables that
are set for it stay set. -/
def command [Calendar.Zones] (app : App σ) (overrides : Environment) (arguments : List String) :
    Outcome Service.Report × App σ :=
  let env := Service.commandEnvironment (overrides ++ app.environment)
  let settings := Settings.ofEnvironment env
  let tables := preparedTables env settings app.tables
  let steps : Action σ Service.Report := do
    Service.schedule env tables app.limit
    Service.reindexCommand arguments tables app.limit
  let alone : Action σ Service.Report := fun _ => Action.afresh steps settings
  ({ app with environment := env, tables }).run alone

end App

end CatalogSearch
