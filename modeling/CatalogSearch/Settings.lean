import CatalogSearch.Value.Reading
namespace CatalogSearch

abbrev Environment := List (String × String)

inductive Reading where
  | flag
  | mode
  | integer
  | number
  deriving DecidableEq

def Reading.isModeOn (v : Value) : Bool := String.ofList (Text.lower v.chars) ∉ ["", "0", "false", "no"]

def Reading.apply (r : Reading) (v : Value) : Value :=
  match r with
  | .flag => .bool v.isOn
  | .mode => .bool (isModeOn v)
  | .integer => (v.integerOf?.map Value.int).getD .null
  | .number => (v.number?.map Value.real).getD .null

def Environment.read (env : Environment) (name : String) (default : Value) (reading : Option Reading) : Value :=
  match env.lookup name, reading with
  | none, _ => default
  | some raw, none => .text raw
  | some raw, some r => match r.apply (.text raw) with
    | .null => default
    | v => v

inductive Setting where
  | enabled | url | indexName | timeout | verifyCerts | username | password | facetLimit
  | autoIndex | forceReindex | batchSize | rowsLimit | searchDebug | showOutOfStock | defaultStore
  | initTables | debug
  deriving DecidableEq

namespace Setting

def all : List Setting := [
  .enabled, .url, .indexName, .timeout, .verifyCerts, .username, .password, .facetLimit, .autoIndex,
  .forceReindex, .batchSize, .rowsLimit, .searchDebug, .showOutOfStock, .defaultStore, .initTables, .debug]

def key : Setting → String
  | enabled => "ELASTICSEARCH_ENABLED"
  | url => "ELASTICSEARCH_URL"
  | indexName => "ELASTICSEARCH_INDEX"
  | timeout => "ELASTICSEARCH_TIMEOUT"
  | verifyCerts => "ELASTICSEARCH_VERIFY_CERTS"
  | username => "ELASTICSEARCH_USERNAME"
  | password => "ELASTICSEARCH_PASSWORD"
  | facetLimit => "ELASTICSEARCH_FACET_LIMIT"
  | autoIndex => "ELASTICSEARCH_AUTO_INDEX"
  | forceReindex => "ELASTICSEARCH_FORCE_REINDEX"
  | batchSize => "ELASTICSEARCH_BATCH_SIZE"
  | rowsLimit => "SEARCH_DEFAULT_ROWS_LIMIT"
  | searchDebug => "SEARCH_DEBUG"
  | showOutOfStock => "SHOW_OUT_OF_STOCK"
  | defaultStore => "DEFAULT_STORE_ID"
  | initTables => "DATABASE_INIT"
  | debug => "DEBUG"

def variableName : Setting → String
  | defaultStore => "STOREFRONT_DEFAULT_STORE_ID"
  | initTables => "STOREFRONT_DATABASE_INIT"
  | debug => "FLASK_DEBUG"
  | s => s.key

def default : Setting → Value
  | enabled | verifyCerts | forceReindex | searchDebug | showOutOfStock | debug => .bool false
  | autoIndex | initTables => .bool true
  | url => .text "http://localhost:9200"
  | indexName => .text "storefront-search"
  | username | password => .null
  | timeout => .int 5
  | facetLimit => .int 100
  | batchSize => .int 1000
  | rowsLimit => .int 9999
  | defaultStore => .int 1

def reading : Setting → Option Reading
  | enabled | verifyCerts | autoIndex | forceReindex | searchDebug | showOutOfStock | initTables => some .flag
  | timeout | facetLimit | batchSize | rowsLimit | defaultStore => some .integer
  | url | indexName | username | password => none
  | debug => some .mode

end Setting

abbrev Settings := Setting → Value

namespace Settings

def initial : Settings := Setting.default

def ofEnvironment (env : Environment) : Settings := fun s => env.read s.variableName s.default s.reading

def set (settings : Settings) (s : Setting) (v : Value) : Settings := fun t => if t = s then v else settings t

def update (settings : Settings) (changes : Entries) : Settings :=
  changes.foldl (fun acc e => match Setting.all.find? fun s => e.1.same (.text s.key) with
    | some s => acc.set s e.2
    | none => acc) settings

def indexFor (settings : Settings) (entityType : Value) : String :=
  (settings .indexName).display ++ "-" ++ entityType.display

end Settings

def defaultEntityType : Value := .text "product"

end CatalogSearch
