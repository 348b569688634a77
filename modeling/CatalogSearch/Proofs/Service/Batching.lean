import CatalogSearch.Proofs.Engine.Exchanges
import CatalogSearch.Proofs.Service.Pages
import CatalogSearch.Proofs.Service.ReindexedDocuments
import Mathlib.Data.List.Forall2

namespace CatalogSearch.Service

open Catalog Engine Action

section

variable {σ : Type} [Engine σ] {settings : Settings} {t : Tables} {limit : Option Nat} {P : σ → Prop} {rebuild : Bool}
  {l l' : Link σ}

/-- What a reindex does before it comes to the stores. -/
def setUp (rebuild : Bool) : Action σ Bool := do
  if rebuild then let _ ← Client.deleteIndex
  Client.ensureIndex

theorem silent_ensureIndex : Silent settings (do
    let index := (← read).indexFor defaultEntityType
    orWarn (← ask (.indexExists index)) "index setup" false fun found => do
      if found.truthy then return true
      orWarn (← ask (.createIndex index catalogMapping)) "index setup" false fun _ => return true
      : Action σ Bool) := by
  refine silent_read.bind fun _ => (silent_ask rfl).bind fun _ => silent_orWarn fun found => ?_
  split
  · exact silent_pure true
  · exact (silent_ask rfl).bind fun _ => silent_orWarn fun _ => silent_pure true

theorem silent_deleteIndex : Silent settings (Client.deleteIndex : Action σ Bool) := by
  refine silent_whenConnected (silent_read.bind fun _ => ?_)
  exact (silent_ask rfl).bind fun _ => silent_orWarn fun _ => silent_pure true

theorem silent_setUp : Silent settings (setUp rebuild : Action σ Bool) := by
  cases rebuild with
  | false => exact silent_whenConnected silent_ensureIndex
  | true => exact silent_deleteIndex.bind fun _ => silent_whenConnected silent_ensureIndex

theorem bulks_of_setUp {x : Outcome Bool} (h : exec (setUp rebuild) settings l = (x, l')) :
    bulks l'.events = bulks l.events := by
  have hs : Silent settings (setUp rebuild : Action σ Bool) := silent_setUp
  rw [← (hs l).2, h]

theorem connected_of_setUp (h : exec (setUp rebuild) settings l = (.ok true, l')) : l'.connected = true := by
  cases rebuild with
  | false => exact connected_of_whenConnected silent_ensureIndex h
  | true =>
      change exec (Client.deleteIndex >>= fun _ => Client.ensureIndex) settings l = _ at h
      rw [exec_bind] at h
      rcases hd : exec (Client.deleteIndex : Action σ Bool) settings l with ⟨x | x, l₁⟩ <;> rw [hd] at h
      · cases h
      · exact connected_of_whenConnected silent_ensureIndex h

theorem bulks_append (es fs : List Event) : bulks (es ++ fs) = bulks es ++ bulks fs := List.filterMap_append

theorem asks_send (settings : Settings) (hP : Steady P) (h : Ready P l) {documents : List Document}
    (hne : documents ≠ []) :
    Asks settings l (send documents defaultEntityType)
      [.bulk (documents.map Document.toValue), .refresh (settings.indexFor defaultEntityType)]
      (.int (taken [.bulk (documents.map Document.toValue)] l.engine)) := by
  obtain ⟨d, ds, rfl⟩ := List.exists_cons_of_ne_nil hne
  have hadd := asks_addDocuments settings hP h ((d :: ds).map Document.toValue)
  obtain ⟨done, hrefresh⟩ := asks_refreshIndex settings hP
    (h.after hP [.bulk ((d :: ds).map Document.toValue)])
  exact hadd.bind (hrefresh.before fun _ => exec_pure _)

variable [Calendar.Zones]

theorem reindex_eq (tables : Option Tables) (rebuild : Bool) (limit : Option Nat) :
    (reindex tables rebuild limit : Action σ Value) =
      setUp rebuild >>= fun ready => if !ready then return .int 0 else indexStores tables limit := by
  cases rebuild with
  | false => rfl
  | true =>
      rw [setUp, if_pos rfl, bind_assoc]
      rfl

theorem exec_reindex_of_setUp (h : exec (setUp rebuild) settings l = (.ok true, l')) (tables : Option Tables)
    (limit : Option Nat) :
    exec (reindex tables rebuild limit) settings l = exec (indexStores tables limit) settings l' := by
  rw [reindex_eq, exec_bind, h]
  rfl

def batchCalls (settings : Settings) (t : Tables) (store : Int) (batch : List Int) : List Call :=
  [.bulk (sent settings t store batch), .refresh (settings.indexFor defaultEntityType)]

theorem taken_batchCalls (store : Int) (batch : List Int) (e : σ) :
    taken (batchCalls settings t store batch) e = taken [.bulk (sent settings t store batch)] e := by
  simp [taken, batchCalls, Exchange.taken]

theorem asks_reindexBatch (h : t.Sound) (hP : Steady P) (hl : Ready P l) {store : Store} (hs : fits store.id = true)
    {batch : List Int} (hne : batch ≠ []) (hn : batch.Nodup) (hf : ∀ id ∈ batch, fits id = true)
    (htakes : takes limit (batch.length + 1) = true) (n : Int) :
    Asks settings l (reindexBatch (.stored (some t) limit) store batch (.int n)) (batchCalls settings t store.id batch)
      (.int (n + taken (batchCalls settings t store.id batch) l.engine)) := by
  have hd := Tables.documentsFor_table h hs hn hf htakes settings defaultEntityType
  have hdocuments : batch.map (t.document settings defaultEntityType (t.storeAt store.id)) ≠ [] := by simpa using hne
  have hsend := asks_send settings hP hl hdocuments
  rw [List.map_map] at hsend
  have hsave : Asks settings l (save (.stored (some t) limit) (.int store.id) (Keyed.table batch (t.loadedRow store.id)))
      (batchCalls settings t store.id batch) (.int (taken [.bulk (sent settings t store.id batch)] l.engine)) := by
    refine Asks.behind (x := settings) ?_ exec_read
    refine Asks.behind ?_ ((exec_ofOutcome _).trans (by rw [hd]))
    exact hsend
  rw [taken_batchCalls]
  refine Asks.behind ?_ ((exec_ofOutcome _).trans (by rw [t.loadRows_eq hs hf hn htakes]))
  exact hsave.before fun _ => exec_ofOutcome _

def storeCalls (settings : Settings) (t : Tables) (batches : List (List Int)) (store : Int) : List Call :=
  .deleteByQuery (settings.indexFor defaultEntityType) (Client.selection (.int store) .null) ::
    batches.flatMap (batchCalls settings t store)

theorem asks_reindexStore (h : t.Sound) (hP : Steady P) (hl : Ready P l) {store : Store} (hs : fits store.id = true)
    {batches : List (List Int)} (hne : ∀ batch ∈ batches, batch ≠ []) (hn : batches.flatten.Nodup)
    (hf : ∀ id ∈ batches.flatten, fits id = true) (htakes : ∀ batch ∈ batches, takes limit (batch.length + 1) = true)
    (n : Int) :
    Asks settings l (reindexStore (.stored (some t) limit) (.ok batches) store (.int n))
      (storeCalls settings t batches store.id)
      (.int (n + taken (storeCalls settings t batches store.id) l.engine)) := by
  have hbatch : ∀ batch ∈ batches, ∀ (l : Link σ) (n : Int), Ready P l →
      Asks settings l (reindexBatch (.stored (some t) limit) store batch (.int n)) (batchCalls settings t store.id batch)
        (.int (n + taken (batchCalls settings t store.id batch) l.engine)) := by
    intro batch hb l n hl
    refine asks_reindexBatch h hP hl hs (hne batch hb) ((List.nodup_flatten.mp hn).1 batch hb) ?_ (htakes batch hb) n
    exact fun id hid => hf id (List.mem_flatten.mpr ⟨batch, hb, hid⟩)
  obtain ⟨done, hclean⟩ := asks_cleanIndex settings hP hl store.id
  have hbatches := asks_foldlM (f := fun n batch => reindexBatch (.stored (some t) limit) store batch n)
    (batchCalls settings t store.id) hP hbatch (hl.after hP
      [.deleteByQuery (settings.indexFor defaultEntityType) (Client.selection (.int store.id) .null)]) n
  have htaken : taken (storeCalls settings t batches store.id) l.engine = taken
      (batches.flatMap (batchCalls settings t store.id)) (l.after
        [.deleteByQuery (settings.indexFor defaultEntityType) (Client.selection (.int store.id) .null)]).engine := by
    rw [storeCalls, ← List.singleton_append, l.taken_append]
    exact Int.zero_add _
  rw [htaken]
  exact hclean.bind (Asks.behind hbatches (exec_ofOutcome _))

def allCalls (settings : Settings) (t : Tables) (batches : List (List Int)) : List Call :=
  t.activeStores.flatMap fun s => storeCalls settings t batches s.id

theorem asks_indexStores (h : t.Sound) (hP : Steady P) (hl : Ready P l) {size : Int}
    (hb : (settings .batchSize).toInt = .ok size) {batches : List (List Int)}
    (hq : productBatches (.int size) (some t) = .ok batches) (hne : ∀ batch ∈ batches, batch ≠ [])
    (hn : batches.flatten.Nodup) (hf : ∀ id ∈ batches.flatten, fits id = true)
    (htakes : ∀ batch ∈ batches, takes limit (batch.length + 1) = true) :
    Asks settings l (indexStores (some t) limit) (allCalls settings t batches)
      (.int (taken (allCalls settings t batches) l.engine)) := by
  have hstore : ∀ store ∈ t.activeStores.map fun s => t.storeAt s.id, ∀ (l : Link σ) (n : Int), Ready P l →
      Asks settings l (reindexStore (.stored (some t) limit) (.ok batches) store (.int n))
        (storeCalls settings t batches store.id)
        (.int (n + taken (storeCalls settings t batches store.id) l.engine)) := by
    intro store hm l n hl
    obtain ⟨s, hs, rfl⟩ := List.mem_map.mp hm
    refine asks_reindexStore h hP hl ?_ hne hn hf htakes n
    rw [t.storeAt_id]
    exact h.stores.fit s (List.mem_filter.mp hs).1
  have hstores := asks_foldlM (f := fun n store => reindexStore (.stored (some t) limit) (.ok batches) store n)
    (fun s : Store => storeCalls settings t batches s.id) hP hstore hl 0
  simp only [List.flatMap_map, t.storeAt_id, Int.zero_add] at hstores
  refine Asks.behind (x := settings .batchSize) ?_ rfl
  refine Asks.behind (x := size) ?_ ((exec_ofOutcome _).trans (by rw [hb]))
  refine Asks.behind ?_ ((exec_ofOutcome _).trans (by rw [stores_eq h]))
  rw [hq]
  exact hstores

theorem silent_indexStores_of_failure {size : Int} (hb : (settings .batchSize).toInt = .ok size) {failure : Failure}
    (hf : ∀ store processed (l : Link σ), exec (indexBatches t limit size store processed) settings l =
      (.error failure, l)) : Silent settings (indexStores (some t) limit : Action σ Value) := by
  have hstore : ∀ (store : Store) (processed : Value),
      Silent settings (reindexStore (.stored (some t) limit) (productBatches (.int size) (some t)) store processed :
        Action σ Value) := by
    intro store processed
    refine Silent.bind ?_ fun _ => silent_of_exec fun l => congrArg Prod.snd (hf store processed l)
    refine silent_whenConnected (silent_read.bind fun _ => ?_)
    exact (silent_ask rfl).bind fun _ => silent_orWarn fun _ => silent_pure true
  intro l
  rw [indexStores, setting, exec_bind, exec_bind, exec_read, andThen_ok, exec_pure, andThen_ok, exec_bind,
    exec_ofOutcome, hb, andThen_ok]
  exact ((silent_ofOutcome _).bind fun stores => chains_silent.foldlM (fun n s => hstore s n) stores (.int 0)) l

theorem bulks_storeCalls (settings : Settings) (t : Tables) (batches : List (List Int)) (store : Int) :
    bulks ((storeCalls settings t batches store).map .called) = batches.map (sent settings t store) := by
  rw [storeCalls, List.map_cons, bulks, List.filterMap_cons_none rfl]
  induction batches with
  | nil => rfl
  | cons batch batches ih =>
      rw [List.flatMap_cons, List.map_append, List.filterMap_append, ih]
      rfl

theorem bulks_allCalls (settings : Settings) (t : Tables) (batches : List (List Int)) (stores : List StoreRow) :
    bulks ((stores.flatMap fun s => storeCalls settings t batches s.id).map .called) =
      stores.flatMap fun s => batches.map (sent settings t s.id) := by
  induction stores with
  | nil => rfl
  | cons s stores ih => rw [List.flatMap_cons, List.map_append, bulks_append, ih, bulks_storeCalls, List.flatMap_cons]

end

section

variable {settings : Settings} {t : Tables} {limit : Option Nat}

/-- Every active store with every active product, both in the order of their identities. -/
def pairs (t : Tables) : List (Int × Int) :=
  t.activeStores.flatMap fun s => t.activeProducts.map fun p => (s.id, p.id)

def Before (a b : Int × Int) : Prop := a.1 < b.1 ∨ a.1 = b.1 ∧ a.2 < b.2

theorem length_pairs (t : Tables) : (pairs t).length = t.activeStores.length * t.activeProducts.length := by
  rw [pairs, List.length_flatMap]
  simp

theorem pairwise_pairs (h : t.Sound) : (pairs t).Pairwise Before := by
  refine List.pairwise_flatMap.mpr ⟨?_, ?_⟩
  · intro s _
    exact List.pairwise_map.mpr ((h.products.filter _).ordered.imp fun hlt => .inr ⟨rfl, hlt⟩)
  · refine (h.stores.filter _).ordered.imp ?_
    intro r s hlt a ha b hb
    obtain ⟨p, -, rfl⟩ := List.mem_map.mp ha
    obtain ⟨q, -, rfl⟩ := List.mem_map.mp hb
    exact .inl hlt

theorem flatten_of_paged (h : t.Sound) (hp : ∀ p ∈ t.activeProducts, 0 < p.id) {size : Int} (hs : 1 ≤ size)
    {batches : List (List Int)} (hpaged : Paged size (t.activeProducts.map (·.id)) 0 batches) :
    batches.flatten = t.activeProducts.map (·.id) := by
  have hids : (t.activeProducts.map (·.id)).Pairwise (· < ·) := List.pairwise_map.mpr (h.products.filter _).ordered
  rw [flatten_paged hids (by omega) hpaged, List.filter_eq_self]
  intro id hid
  obtain ⟨p, hm, rfl⟩ := List.mem_map.mp hid
  exact decide_eq_true (hp p hm)

theorem takes_batches (h : t.Sound) {size : Int} (hs : 1 ≤ size)
    (hl : takes limit (min size.toNat t.activeProducts.length + 1) = true) {batches : List (List Int)}
    (hp : Paged size (t.activeProducts.map (·.id)) 0 batches) :
    ∀ batch ∈ batches, takes limit (batch.length + 1) = true :=
  takes_paged (List.pairwise_map.mpr (h.products.filter _).ordered) hs (by rwa [List.length_map]) hp

variable [Calendar.Zones]

/-- The document of a product in a store, as it is built where the product is in a batch of its own. -/
def BuiltAlone (settings : Settings) (t : Tables) (limit : Option Nat) (pair : Int × Int) (document : Value) : Prop :=
  ∃ source, Builds settings t limit pair.1 pair.2 source ∧ document = Document.toValue
    ⟨settings.indexFor defaultEntityType, .text (Tables.documentName pair.1 pair.2), source⟩

def documentFor (settings : Settings) (t : Tables) (pair : Int × Int) : Value :=
  (t.document settings defaultEntityType (t.storeAt pair.1) pair.2).toValue

theorem builtAlone_documentFor (h : t.Sound) {size : Int} (hs : 1 ≤ size)
    (hl : takes limit (min size.toNat t.activeProducts.length + 1) = true) {pair : Int × Int} (hm : pair ∈ pairs t) :
    BuiltAlone settings t limit pair (documentFor settings t pair) := by
  obtain ⟨s, hst, hm⟩ := List.mem_flatMap.mp hm
  obtain ⟨p, hp, rfl⟩ := List.mem_map.mp hm
  refine ⟨_, (builds_iff h (takes_two hs hp hl) (h.stores.fit s (List.mem_filter.mp hst).1)
    (h.products.fit p (List.mem_filter.mp hp).1)).mpr rfl, ?_⟩
  simp only [documentFor, content, Tables.document, t.storeAt_id]

theorem flatten_sent {batches : List (List Int)} (hall : batches.flatten = t.activeProducts.map (·.id)) :
    (t.activeStores.flatMap fun s => batches.map (sent settings t s.id)).flatten =
      (pairs t).map (documentFor settings t) := by
  have hs : ∀ s : StoreRow, (batches.map (sent settings t s.id)).flatten =
      (t.activeProducts.map fun p => (s.id, p.id)).map (documentFor settings t) := by
    intro s
    have hf : (batches.map (sent settings t s.id)).flatten = sent settings t s.id batches.flatten := by
      rw [sent, List.map_flatten]
      rfl
    rw [hf, hall, sent, List.map_map, List.map_map]
    rfl
  rw [pairs, List.map_flatMap]
  induction t.activeStores with
  | nil => rfl
  | cons s stores ih => rw [List.flatMap_cons, List.flatMap_cons, List.flatten_append, ih, hs]

theorem reindex_sends {σ : Type} [Engine σ] {P : σ → Prop} (h : t.Sound) (hP : Steady P) {rebuild : Bool}
    {l l₁ : Link σ} (hset : exec (setUp rebuild) settings l = (.ok true, l₁)) (hp : P l₁.engine) {size : Int}
    (hb : (settings .batchSize).toInt = .ok size) {batches : List (List Int)}
    (hq : productBatches (.int size) (some t) = .ok batches) (hne : ∀ batch ∈ batches, batch ≠ [])
    (hall : batches.flatten = t.activeProducts.map (·.id))
    (htakes : ∀ batch ∈ batches, takes limit (batch.length + 1) = true) :
    ∃ processed l₂, exec (reindex (some t) rebuild limit) settings l = (.ok processed, l₂) ∧
      bulks l₂.events = bulks l.events ++ t.activeStores.flatMap fun s => batches.map (sent settings t s.id) := by
  have hn : batches.flatten.Nodup := hall ▸ (h.products.filter _).nodup
  have hf : ∀ id ∈ batches.flatten, fits id = true := by
    rw [hall]
    intro id hid
    obtain ⟨p, hm, rfl⟩ := List.mem_map.mp hid
    exact h.products.fit p (List.mem_filter.mp hm).1
  have hr := asks_indexStores h hP ⟨connected_of_setUp hset, hp⟩ hb hq hne hn hf htakes
  refine ⟨_, _, (exec_reindex_of_setUp hset _ _).trans hr, ?_⟩
  rw [Link.after, bulks_append, bulks_of_setUp hset, allCalls, bulks_allCalls]

/-- Whatever the size of the batches, a reindex sends the same documents in the same order, each as it is
built on its own, and never none or too many at once. A statement must take the products of a batch and a store. -/
theorem batches_do_not_show (h : t.Sound) (hp : ∀ p ∈ t.activeProducts, 0 < p.id) (limit : Option Nat) :
    (pairs t).Pairwise Before ∧ ∃ documents, ∀ b size, b.toInt = .ok size → 1 ≤ size → fits size = true →
      takes limit (min size.toNat t.activeProducts.length + 1) = true →
      List.Forall₂ (BuiltAlone settings t limit) (pairs t) documents ∧
        ∃ batches, productBatches (.int size) (some t) = .ok batches ∧
          Paged size (t.activeProducts.map (·.id)) 0 batches ∧
          ∀ {σ : Type} [Engine σ] {P : σ → Prop}, Steady P → ∀ rebuild (l l₁ : Link σ),
            exec (setUp rebuild) (settings.set .batchSize b) l = (.ok true, l₁) → P l₁.engine →
            ∃ processed l₂ sends,
              exec (reindex (some t) rebuild limit) (settings.set .batchSize b) l = (.ok processed, l₂) ∧
              bulks l₂.events = bulks l.events ++ sends ∧ sends.flatten = documents ∧
              ∀ documents ∈ sends, 1 ≤ documents.length ∧ (documents.length : Int) ≤ size := by
  refine ⟨pairwise_pairs h, (pairs t).map (documentFor settings t), ?_⟩
  intro b size hb hs hf hl
  refine ⟨?_, ?_⟩
  · rw [List.forall₂_map_right_iff, List.forall₂_same]
    exact fun pair hm => builtAlone_documentFor h hs hl hm
  have hq := productBatches_eq hf hp
  have hpaged := (productBatches_iff h hf).mp hq
  have hlength := length_paged (by omega) hpaged
  refine ⟨_, hq, hpaged, ?_⟩
  intro σ _ P hP rebuild l l₁ hset hp₁
  obtain ⟨processed, l₂, hr, he⟩ := reindex_sends h hP hset hp₁ hb hq (fun batch hm => (hlength batch hm).1)
    (flatten_of_paged h hp hs hpaged) (takes_batches h hs hl hpaged)
  refine ⟨processed, l₂, _, hr, he, flatten_sent (flatten_of_paged h hp hs hpaged), ?_⟩
  intro documents hm
  obtain ⟨s, -, hm⟩ := List.mem_flatMap.mp hm
  obtain ⟨batch, hbatch, rfl⟩ := List.mem_map.mp hm
  obtain ⟨hne, hle⟩ := hlength batch hbatch
  rw [sent, List.length_map]
  exact ⟨List.length_pos_of_ne_nil hne, hle⟩

end

theorem steady_holdings : Steady fun _ : Holdings => True := by
  refine ⟨?_, fun _ _ _ => trivial⟩
  intro call e _
  cases call with
  | bulk documents =>
      rintro other ⟨⟩
      exact ⟨_, _, rfl, .inr ⟨_, rfl⟩⟩
  | _ => exact fun _ h => by cases h

def rackTables : Tables where
  stores := [⟨1, "de", "German", 1, "de_DE", "UTC", some true⟩, ⟨2, "fr", "French", 1, "fr_FR", "UTC", none⟩,
    ⟨5, "en", "English", 2, "en_GB", "UTC", some true⟩]
  attributes := [⟨3, "name", none, "varchar", "text", none, some true, some true⟩]
  products := [⟨7, "lamp", .int 4, some true, some true⟩, ⟨8, "lid", .int 4, some true, some false⟩,
    ⟨9, "bulb", .int 4, some true, some true⟩, ⟨30, "shade", .int 4, none, some true⟩]
  values := [⟨1, 7, 3, none, some "Lampe"⟩, ⟨2, 30, 3, some 5, some "shade"⟩]

theorem sound_rackTables : rackTables.Sound := by
  refine ⟨⟨?_, ?_⟩, ⟨?_, ?_, ?_⟩, ⟨?_, ?_, ?_⟩, kept_nil, ⟨?_, ?_, ?_⟩, ⟨?_, ?_, ?_⟩, held_nil, held_nil⟩ <;>
    simp [rackTables, Value.isScalar, fits, twoTo]

def freshLink : Link Holdings := ⟨emptyHoldings, false, none, [], []⟩

def batchesOf (n : Int) : Settings := Settings.initial.set .batchSize (.int n)

open scoped Calendar.Daylight

theorem rack_batches_do_not_show : ∃ single double : List (List Value),
    bulks (exec (reindex (some rackTables) false (some 3)) (batchesOf 1) freshLink).2.events = single ∧
    bulks (exec (reindex (some rackTables) true (some 3)) (batchesOf 2) freshLink).2.events = double ∧
    single.flatten = double.flatten ∧ single.flatten.length = 6 ∧
    (∀ documents ∈ single, documents.length = 1) ∧ ∀ documents ∈ double, documents.length ≤ 2 := by
  have hp : ∀ p ∈ rackTables.activeProducts, 0 < p.id := by simp [rackTables, Tables.activeProducts, Tables.isSet]
  have hfits : fits 1 = true ∧ fits 2 = true := by simp [fits, twoTo]
  obtain ⟨-, documents, hall⟩ := @batches_do_not_show Settings.initial rackTables _ sound_rackTables hp (some 3)
  have hpairs : pairs rackTables = [(1, 7), (1, 9), (1, 30), (5, 7), (5, 9), (5, 30)] := rfl
  obtain ⟨l₁, h₁⟩ : ∃ l₁, exec (setUp false) (batchesOf 1) freshLink = (.ok true, l₁) := ⟨_, rfl⟩
  obtain ⟨l₂, h₂⟩ : ∃ l₂, exec (setUp true) (batchesOf 2) freshLink = (.ok true, l₂) := ⟨_, rfl⟩
  obtain ⟨hd, _, -, -, h⟩ := hall (.int 1) 1 rfl (by decide) hfits.1 (by decide)
  obtain ⟨_, _, single, hr, hs, hf, hl⟩ := h steady_holdings false freshLink l₁ h₁ trivial
  obtain ⟨-, _, -, -, h'⟩ := hall (.int 2) 2 rfl (by decide) hfits.2 (by decide)
  obtain ⟨_, _, double, hr', hs', hf', hl'⟩ := h' steady_holdings true freshLink l₂ h₂ trivial
  refine ⟨single, double, ?_, ?_, hf.trans hf'.symm, ?_, ?_, ?_⟩
  · rw [batchesOf, hr, hs]
    rfl
  · rw [batchesOf, hr', hs']
    rfl
  · rw [hf, ← hd.length_eq, hpairs]
    rfl
  · intro documents hm
    obtain ⟨h1, h2⟩ := hl documents hm
    omega
  · intro documents hm
    obtain ⟨-, h2⟩ := hl' documents hm
    omega

/-- Batches of a size that the tables do not take show, and so do batches of more products than a statement takes:
nothing is sent. -/
theorem vast_batches_show : (vastSettings .batchSize).toInt = .ok 9223372036854775808 ∧
    (exec (setUp false) vastSettings freshLink).1 = .ok true ∧
    bulks (exec (reindex (some Tables.lampTables) false) vastSettings freshLink).2.events = [] ∧
    (∃ processed l document, exec (reindex (some Tables.lampTables) false) Settings.initial freshLink =
      (.ok processed, l) ∧ bulks l.events = [[document]]) ∧
    (crowdSettings .batchSize).toInt = .ok 40000 ∧ (Settings.initial .batchSize).toInt = .ok 1000 ∧
    bulks (exec (reindex (some (crowdTables 32766)) false (some 32766)) crowdSettings freshLink).2.events = [] ∧
    ∃ processed l, exec (reindex (some (crowdTables 32766)) false (some 32766)) Settings.initial freshLink =
      (.ok processed, l) ∧ (bulks l.events).flatten.length = 32766 := by
  obtain ⟨l₁, hset⟩ : ∃ l₁, exec (setUp false) Settings.initial freshLink = (.ok true, l₁) := ⟨_, rfl⟩
  obtain ⟨l₂, hvast⟩ : ∃ l₂, exec (setUp false) vastSettings freshLink = (.ok true, l₂) := ⟨_, rfl⟩
  obtain ⟨l₃, hcrowd⟩ : ∃ l₃, exec (setUp false) crowdSettings freshLink = (.ok true, l₃) := ⟨_, rfl⟩
  have hf : fits 1000 = true := by simp [fits, twoTo]
  refine ⟨rfl, rfl, ?_, ?_, rfl, rfl, ?_, ?_⟩
  · have hsilent : Silent vastSettings (indexStores (some Tables.lampTables) none : Action Holdings Value) :=
      silent_indexStores_of_failure rfl (exec_indexBatches_of_vast (by simp [fits, twoTo]))
    rw [exec_reindex_of_setUp hvast, (hsilent l₂).2, bulks_of_setUp hvast]
    rfl
  · have hp : ∀ p ∈ Tables.lampTables.activeProducts, 0 < p.id := by decide
    have hq := productBatches_eq hf hp
    have hpaged := (productBatches_iff Tables.sound_lampTables hf).mp hq
    obtain ⟨processed, l, hr, hb⟩ := reindex_sends Tables.sound_lampTables steady_holdings hset trivial rfl hq
      (fun batch hm => (length_paged (by decide) hpaged batch hm).1)
      (flatten_of_paged Tables.sound_lampTables hp (by decide) hpaged)
      fun batch _ => (rfl : takes none (batch.length + 1) = true)
    have hone : batches 1000 (Tables.lampTables.activeProducts.map (·.id)) = [[7]] := by
      rw [activeProducts_lampTables]
      simp [batches, chunks, lampProduct]
    rw [hone] at hb
    exact ⟨processed, l, _, hr, hb⟩
  · have hsilent : Silent crowdSettings (indexStores (some (crowdTables 32766)) (some 32766) : Action Holdings Value) :=
      silent_indexStores_of_failure rfl exec_indexBatches_of_crowdTables
    rw [exec_reindex_of_setUp hcrowd, (hsilent l₃).2, bulks_of_setUp hcrowd]
    rfl
  · have hsound := sound_crowdTables (n := 32766) (by decide)
    have hp := positive_crowdTables 32766
    have hq := productBatches_eq hf hp
    have hpaged := (productBatches_iff hsound hf).mp hq
    have hall := flatten_of_paged hsound hp (by decide) hpaged
    have htakes : takes (some 32766) (min (1000 : Int).toNat (crowdTables 32766).activeProducts.length + 1) = true := by
      rw [length_crowdTables]
      decide
    obtain ⟨processed, l, hr, hb⟩ := reindex_sends hsound steady_holdings hset trivial rfl hq
      (fun batch hm => (length_paged (by decide) hpaged batch hm).1) hall (takes_batches hsound (by decide) htakes hpaged)
    refine ⟨processed, l, hr, ?_⟩
    rw [hb, List.flatten_append, flatten_sent hall, List.length_append, List.length_map, length_pairs, length_crowdTables]
    rfl

end CatalogSearch.Service
