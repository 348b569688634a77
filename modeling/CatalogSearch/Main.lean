import CatalogSearch.App
import CatalogSearch.Calendar.Daylight
namespace CatalogSearch

open Engine
open scoped Calendar.Daylight

/-- An engine that cannot be reached from here, which shows when it is asked for something. -/
structure Unreachable where

def Unreachable.answer : Call → Except Fault Value
  | .connect _ => .ok .null
  | _ => .error .disconnected

instance : Engine Unreachable := ⟨fun call e => (Unreachable.answer call, e)⟩

def variableNames : List String :=
  Setting.all.map Setting.variableName ++
    [Catalog.Tables.localeVariable, Catalog.Tables.timezoneVariable, Service.servingVariable]

def readEnvironment : IO Environment := do
  let found ← variableNames.mapM fun name => do return (name, ← IO.getEnv name)
  return found.filterMap fun v => v.2.map (v.1, ·)

def report (env : Environment) (arguments : List String) : Service.Report × List String :=
  let settings := Settings.ofEnvironment env
  let app : App Unreachable := { environment := env, settings, tables := none, held := none, link := { engine := ⟨⟩ } }
  let (outcome, app) := app.command [] arguments
  let said := match outcome with
    | .ok r => r
    | .error f => ⟨[f.message], 1⟩
  (said, app.link.warnings)

end CatalogSearch

def main (arguments : List String) : IO UInt32 := do
  let (said, warnings) := CatalogSearch.report (← CatalogSearch.readEnvironment) arguments
  warnings.forM IO.eprintln
  said.lines.forM IO.println
  return UInt32.ofNat said.exitCode
