import CatalogSearch.Proofs.Json.Objects
import CatalogSearch.Proofs.Service.ScopedSearch
import CatalogSearch.Web.Routes

namespace CatalogSearch.Web

open Engine Action Query Service

variable {σ : Type} {settings : Settings} {catalog : Catalog} {request : Request}

theorem toUpper_post : "POST".toUpper = "POST" := by
  apply String.toList_inj.mp
  rw [String.toUpper, String.toList_map]
  decide

theorem toUpper_get : "GET".toUpper = "GET" := by
  apply String.toList_inj.mp
  rw [String.toUpper, String.toList_map]
  decide

/-- What a request asks to search for, and in which context. -/
structure Inquiry where
  query : Value
  params : Value
  entityType : Value
  context : Context

namespace Inquiry

def ofArguments (settings : Settings) (catalog : Catalog) (args : Arguments) : Outcome Inquiry := do
  let context ← contextOf settings catalog args.toValue
  let params ← args.params
  pure {
    query := .ofChars (Text.trim (args.valueOf "q").operand)
    params
    entityType := ((args.first? "type").map Value.text).getD defaultEntityType
    context }

def member (told : Value) (name : String) (default : Value) : Outcome Value := do
  pure ((← told.get name).orElse default)

def ofTold (settings : Settings) (catalog : Catalog) (told : Value) : Outcome Inquiry := do
  let context ← contextOf settings catalog (← member told "context" (.map []))
  let query ← member told "query" (.text "")
  let params ← member told "params" (.map [])
  let entityType ← member told "type" defaultEntityType
  pure { query, params, entityType, context }

def ofPayload (settings : Settings) (catalog : Catalog) (payload : Outcome (Option Json)) : Outcome Inquiry := do
  ofTold settings catalog ((((← payload).map Json.toValue).getD .null).orElse (.map []))

theorem member_ofFields (fields : List (String × Value)) (name : String) (default : Value) :
    member (.ofFields fields) name default = .ok (((fields.lookup name).getD .null).orElse default) := by
  rw [member, Entries.get_ofFields]
  rfl

theorem ofPayload_object {members : List (String × Json)} (h : (members.map Prod.fst).Nodup) :
    ofPayload settings catalog (pure (some (.object members))) =
      ofTold settings catalog (.ofFields (members.map fun m => (m.1, m.2.toValue))) := by
  change ofTold settings catalog ((Json.object members).toValue.orElse (.map [])) = _
  rw [Json.toValue_object h, Value.ofFields, Value.orElse_map]

def ofRequest (settings : Settings) (catalog : Catalog) (request : Request) : Outcome Inquiry :=
  if request.method.toUpper = "POST" then ofPayload settings catalog request.payload
  else ofArguments settings catalog request.arguments

def search [Engine σ] (catalog : Catalog) (inquiry : Inquiry) : Action σ Value :=
  Service.search catalog inquiry.query inquiry.params inquiry.entityType (some inquiry.context)

def told (settings : Settings) (inquiry : Inquiry) : Params := .ofValue settings inquiry.params

/-- A body that the engine is searched with for an inquiry. -/
def Sends (settings : Settings) (catalog : Catalog) (inquiry : Inquiry) (body : Body) : Prop :=
  ∃ ps, engineParams catalog (inquiry.told settings) inquiry.context inquiry.query = .ok ps ∧
    Body.build settings (.ofChars (searchConditions inquiry.query)) ps = .ok body

theorem exists_sends {inquiry : Inquiry} (hp : Plain (inquiry.told settings))
    (h : ∃ ps, engineParams catalog (inquiry.told settings) inquiry.context inquiry.query = .ok ps) {size : Int}
    (hs : (settings .facetLimit).toInt = .ok size) : ∃ body, inquiry.Sends settings catalog body := by
  obtain ⟨ps, h⟩ := h
  obtain ⟨body, hb⟩ := exists_build settings hp h hs (.ofChars (searchConditions inquiry.query))
  exact ⟨body, ps, h, hb⟩

end Inquiry

section

variable [Engine σ]

theorem exec_searchByArguments (args : Arguments) (l : Link σ) : exec (searchByArguments catalog args) settings l =
    exec (ofOutcome (Inquiry.ofArguments settings catalog args) >>= Inquiry.search catalog) settings l := by
  simp only [searchByArguments, Inquiry.ofArguments, exec_bind, exec_read, andThen_ok, exec_ofOutcome, andThen_bind]
  rfl

theorem exec_searchByPayload (payload : Outcome (Option Json)) (l : Link σ) :
    exec (searchByPayload catalog payload) settings l =
      exec (ofOutcome (Inquiry.ofPayload settings catalog payload) >>= Inquiry.search catalog) settings l := by
  simp only [searchByPayload, Inquiry.ofPayload, Inquiry.ofTold, Inquiry.member, exec_bind, exec_read, andThen_ok,
    exec_ofOutcome, andThen_bind]
  rfl

def Searches (settings : Settings) (catalog : Catalog) (inquiry : Outcome Inquiry) (e : Event) : Prop :=
  ∀ index body, e = .called (.search index body) → ∃ i, inquiry = .ok i ∧ i.Sends settings catalog body

theorem emits_inquiry (inquiry : Outcome Inquiry) :
    Emits (Searches settings catalog inquiry) settings (ofOutcome inquiry >>= Inquiry.search catalog : Action σ Value) := by
  refine (emits_ofOutcome inquiry).bind ?_
  intro l i hi
  rw [exec_ofOutcome] at hi
  intro l e he
  rcases emits_search l e he with he | he
  · exact .inl he
  · refine .inr fun index body hb => ?_
    obtain ⟨context, ps, hc, hp, hbuild⟩ := he index body hb
    cases hc
    exact ⟨i, hi, ps, hp, hbuild⟩

omit [Engine σ] in
theorem emits_ifEnabled {P : Event → Prop} {a : Action σ Value} (h : Emits P settings a) :
    Emits P settings (ifEnabled a) := by
  refine emits_read.bind ?_
  intro l x _
  split
  · refine h.bind ?_
    intro l answer _
    exact emits_ofOutcome _
  · exact emits_ofOutcome _

theorem emits_probe {P : Event → Prop} (hi : P (.called .info))
    (hc : P (.called (.connect (Client.address settings)))) : Emits P settings (probe : Action σ Bool) := by
  have hR := chains_emits (σ := σ) P
  have hstatus : Emits P settings (Client.status : Action σ Value) := by
    refine hR.bind (hR.connect (emits_ask hc) fun _ _ => .inl) ?_
    intro l connected _
    split
    · exact hR.still fun _ => rfl
    · exact hR.demand (emits_ask hi)
  refine hR.bind (hR.still fun _ => rfl) ?_
  intro l known _
  split
  · exact emits_pure _
  · refine hR.bind (hR.attempt hstatus) ?_
    intro l outcome _
    have hnoted : ∀ available, Emits P settings (do
        modify fun l => { l with available := some available }
        pure available : Action σ Bool) := fun available => hR.bind (fun _ _ => .inl) fun _ _ _ => emits_pure _
    cases outcome with
    | ok v => exact hR.bind (emits_pure _) fun _ available _ => hnoted available
    | error failure =>
        refine emits_read.bind ?_
        intro l x _
        dsimp only
        split
        · exact hR.bind (fun _ _ => .inl) fun _ _ _ => hR.bind (emits_pure _) fun _ available _ => hnoted available
        · exact hR.bind (emits_pure _) fun _ available _ => hnoted available

theorem emits_statusReport {P : Event → Prop} (hi : P (.called .info))
    (hc : P (.called (.connect (Client.address settings)))) : Emits P settings (statusReport : Action σ Response) := by
  refine (emits_probe hi hc).bind ?_
  intro l available _
  refine emits_read.bind ?_
  intro l x _
  exact emits_ofOutcome _

theorem emits_serve (resource : Resource) : Emits (Searches settings catalog (Inquiry.ofRequest settings catalog request))
    settings (serve catalog request resource : Action σ Response) := by
  cases resource with
  | search =>
      rw [serve, Inquiry.ofRequest]
      split
      · refine emits_ifEnabled fun l => ?_
        rw [exec_searchByPayload]
        exact emits_inquiry _ l
      · refine emits_ifEnabled fun l => ?_
        rw [exec_searchByArguments]
        exact emits_inquiry _ l
  | status => exact emits_statusReport (by intro _ _ h; cases h) (by intro _ _ h; cases h)
  | file => exact emits_pure _

/-- The engine is searched only for the inquiry that a request makes. -/
theorem emits_respond : Emits (Searches settings catalog (Inquiry.ofRequest settings catalog request)) settings
    (respond catalog request : Action σ Response) := by
  unfold respond
  dsimp only
  split
  · exact emits_pure _
  · exact emits_pure _
  · exact emits_pure _
  · split
    · exact emits_pure _
    · split
      · refine (emits_serve _).bind ?_
        intro l response _
        exact emits_pure _
      · exact emits_serve _

end

end CatalogSearch.Web
