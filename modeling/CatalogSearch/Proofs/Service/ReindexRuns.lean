import CatalogSearch.Proofs.Catalog.ProductDocuments
import CatalogSearch.Proofs.Engine.Holdings
import CatalogSearch.Proofs.Service.Pages
import Mathlib.Data.List.Nodup

namespace CatalogSearch.Service

open Catalog Engine Action Holdings

variable {α : Type} {settings : Settings} {t : Tables} {limit : Option Nat}

theorem flatten_chunks (more : Nat) (xs : List α) : (chunks more xs).flatten = xs := by
  induction xs using chunks.induct more with
  | case1 => rw [chunks]; rfl
  | case2 x xs ih => rw [chunks, List.flatten_cons, ih, List.cons_append, List.take_append_drop]

theorem flatten_batches {size : Int} (h : 1 ≤ size) (xs : List α) : (batches size xs).flatten = xs := by
  rw [batches, if_neg (by omega), if_neg (by omega), flatten_chunks]

theorem foldl_lengths (xss : List (List α)) (n : Int) :
    xss.foldl (fun n xs => n + (xs.length : Int)) n = n + xss.flatten.length := by
  induction xss generalizing n with
  | nil => exact (Int.add_zero n).symm
  | cons xs xss ih =>
      rw [List.foldl_cons, ih, List.flatten_cons, List.length_append]
      omega

theorem foldl_const (xs : List α) (k n : Int) : xs.foldl (fun n _ => n + k) n = n + xs.length * k := by
  induction xs generalizing n with
  | nil => simp
  | cons x xs ih =>
      rw [List.foldl_cons, ih, List.length_cons, Int.natCast_succ, Int.add_mul, Int.one_mul]
      omega

theorem yields_send (hu : (settings .url).truthy) (documents : List Document) (e : Holdings) :
    Yields settings (send documents defaultEntityType : Action Holdings _) e (.int documents.length)
      ((documents.map Document.toValue).foldl put e) := by
  have hr : ∀ (added : Value) (e : Holdings), Yields settings (do
      let _ ← Client.refreshIndex defaultEntityType
      return added : Action Holdings Value) e added e :=
    fun added e => (yields_refreshIndex hu e).bind (yields_pure added e)
  cases documents with
  | nil => exact (yields_pure (Value.int 0) e).bind (hr _ e)
  | cons d ds =>
      have ha := yields_addDocuments hu ((d :: ds).map Document.toValue) e
      rw [List.length_map] at ha
      exact ha.bind (hr _ _)

theorem stores_eq (h : t.Sound) :
    (Catalog.stored (some t) limit).stores = .ok (t.activeStores.map fun s => t.storeAt s.id) := by
  refine Folds.mapM_ok fun s hs => ?_
  exact t.store_eq (h.stores.fit s (List.mem_filter.mp hs).1)

theorem productBatches_eq {size : Int} (hf : fits size = true) (hp : ∀ p ∈ t.activeProducts, 0 < p.id) :
    productBatches (.int size) (some t) = .ok (batches size (t.activeProducts.map (·.id))) := by
  have hall : (t.activeProducts.filter fun p => 0 < p.id) = t.activeProducts := by
    rw [List.filter_eq_self]
    intro p hm
    exact decide_eq_true (hp p hm)
  have hq : productBatches (.int size) (some t) =
      if fits size then .ok (batches size ((t.activeProducts.filter fun p => 0 < p.id).map (·.id)))
      else .error .outOfRange := rfl
  rw [hq, hall, if_pos hf]

theorem productBatches_of_vast {size : Int} (hf : fits size = false) :
    productBatches (.int size) (some t) = .error .outOfRange := by
  have hq : productBatches (.int size) (some t) =
      if fits size then .ok (batches size ((t.activeProducts.filter fun p => 0 < p.id).map (·.id)))
      else .error .outOfRange := rfl
  rw [hq, hf]
  rfl

variable [Calendar.Zones]

def sent (settings : Settings) (t : Tables) (store : Int) (ids : List Int) : List Value :=
  ids.map fun id => (t.document settings defaultEntityType (t.storeAt store) id).toValue

theorem yields_reindexBatch (h : t.Sound) (hu : (settings .url).truthy) {store : Store} (hs : fits store.id = true)
    {batch : List Int} (hn : batch.Nodup) (hf : ∀ id ∈ batch, fits id = true)
    (hl : takes limit (batch.length + 1) = true) (n : Int) (e : Holdings) :
    Yields settings (reindexBatch (.stored (some t) limit) store batch (.int n)) e (.int (n + batch.length))
      ((sent settings t store.id batch).foldl put e) := by
  have hd := Tables.documentsFor_table h hs hn hf hl settings defaultEntityType
  have hsend := yields_send hu (batch.map (t.document settings defaultEntityType (t.storeAt store.id))) e
  rw [List.length_map, List.map_map] at hsend
  refine (ends_ofOutcome (t.loadRows_eq hs hf hn hl) e).bind ?_
  refine Ends.bind (x := Value.int batch.length) ?_ (ends_ofOutcome rfl _)
  refine (yields_read e).bind ?_
  exact (ends_ofOutcome hd e).bind hsend

/-- What a reindex does to a store: its documents are removed, and those of the products put in. -/
def refill (settings : Settings) (t : Tables) (ids : List Int) (e : Holdings) (store : Store) : Holdings :=
  (sent settings t store.id ids).foldl put
    (e.remove (settings.indexFor defaultEntityType) (Client.selection (.int store.id) .null))

theorem yields_reindexStore (h : t.Sound) (hu : (settings .url).truthy) {store : Store} (hs : fits store.id = true)
    {batches : List (List Int)} (hn : batches.flatten.Nodup) (hf : ∀ id ∈ batches.flatten, fits id = true)
    (hl : ∀ batch ∈ batches, takes limit (batch.length + 1) = true) (n : Int) (e : Holdings) :
    Yields settings (reindexStore (.stored (some t) limit) (.ok batches) store (.int n)) e
      (.int (n + batches.flatten.length)) (refill settings t batches.flatten e store) := by
  have hb : ∀ batch ∈ batches, ∀ n e, Yields settings (reindexBatch (.stored (some t) limit) store batch (.int n)) e
      (.int (n + batch.length)) ((sent settings t store.id batch).foldl put e) := by
    intro batch hb n e
    refine yields_reindexBatch h hu hs ((List.nodup_flatten.mp hn).1 batch hb) ?_ (hl batch hb) n e
    exact fun id hid => hf id (List.mem_flatten.mpr ⟨batch, hb, hid⟩)
  have hall := yields_foldlM (f := fun processed batch => reindexBatch (.stored (some t) limit) store batch processed)
    (fun batch => (batch.length : Int)) (fun e batch => (sent settings t store.id batch).foldl put e) hb n
    (e.remove (settings.indexFor defaultEntityType) (Client.selection (.int store.id) .null))
  have hfold : ∀ e : Holdings, batches.foldl (fun e batch => (sent settings t store.id batch).foldl put e) e =
      (sent settings t store.id batches.flatten).foldl put e := by
    intro e
    rw [sent, List.map_flatten, List.foldl_flatten, List.foldl_map]
    rfl
  rw [foldl_lengths, hfold] at hall
  refine (yields_cleanIndex hu store.id e).bind ?_
  exact (ends_ofOutcome rfl _).bind hall

def indexStores {σ : Type} [Engine σ] (tables : Option Tables) (limit : Option Nat) : Action σ Value := do
  let size ← ofOutcome ((← setting .batchSize).toInt)
  let stores ← ofOutcome (Catalog.stored tables limit).stores
  stores.foldlM (fun processed store =>
    reindexStore (.stored tables limit) (productBatches (.int size) tables) store processed) (.int 0)

theorem yields_indexStores (h : t.Sound) (hp : ∀ p ∈ t.activeProducts, 0 < p.id) (hu : (settings .url).truthy)
    {size : Int} (hb : (settings .batchSize).toInt = .ok size) (hs : 1 ≤ size) (hf : fits size = true)
    (hl : takes limit (min size.toNat t.activeProducts.length + 1) = true) (e : Holdings) :
    Yields settings (indexStores (some t) limit) e (.int (t.activeStores.length * t.activeProducts.length))
      ((t.activeStores.map fun s => t.storeAt s.id).foldl (refill settings t (t.activeProducts.map (·.id))) e) := by
  have hq := productBatches_eq hf hp
  have hall := flatten_batches hs (t.activeProducts.map (·.id))
  have htakes := takes_paged (List.pairwise_map.mpr (h.products.filter _).ordered) hs
    (by rwa [List.length_map]) ((productBatches_iff h hf).mp hq)
  have hids : (t.activeProducts.map (·.id)).Nodup := (h.products.filter _).nodup
  have hfit : ∀ id ∈ t.activeProducts.map (·.id), fits id = true := by
    intro id hid
    obtain ⟨p, hm, rfl⟩ := List.mem_map.mp hid
    exact h.products.fit p (List.mem_filter.mp hm).1
  have hstore : ∀ store ∈ t.activeStores.map fun s => t.storeAt s.id, ∀ n e,
      Yields settings (reindexStore (.stored (some t) limit) (productBatches (.int size) (some t)) store (.int n)) e
        (.int (n + t.activeProducts.length)) (refill settings t (t.activeProducts.map (·.id)) e store) := by
    intro store hm n e
    obtain ⟨s, hs', rfl⟩ := List.mem_map.mp hm
    have hfs : fits (t.storeAt s.id).id = true := by
      rw [t.storeAt_id]
      exact h.stores.fit s (List.mem_filter.mp hs').1
    rw [← hall] at hids hfit
    have hr := yields_reindexStore h hu hfs hids hfit htakes n e
    rw [hall, List.length_map] at hr
    rw [hq]
    exact hr
  have hfold := yields_foldlM
    (f := fun processed store =>
      reindexStore (.stored (some t) limit) (productBatches (.int size) (some t)) store processed)
    (fun _ => (t.activeProducts.length : Int)) (refill settings t (t.activeProducts.map (·.id))) hstore 0 e
  rw [foldl_const, List.length_map, Int.zero_add] at hfold
  refine ((yields_read e).bind (yields_pure _ e)).bind ?_
  refine (ends_ofOutcome hb e).bind ?_
  exact (ends_ofOutcome (stores_eq h) e).bind hfold

def indexBatches {σ : Type} [Engine σ] (t : Tables) (limit : Option Nat) (size : Int) (store : Store)
    (processed : Value) : Action σ Value := do
  (← ofOutcome (productBatches (.int size) (some t))).foldlM
    (fun processed batch => reindexBatch (.stored (some t) limit) store batch processed) processed

theorem exec_indexBatches_of_vast {σ : Type} [Engine σ] {size : Int} (hf : fits size = false) (store : Store)
    (processed : Value) (l : Link σ) :
    exec (indexBatches t limit size store processed) settings l = (.error .outOfRange, l) := by
  rw [indexBatches, exec_bind, exec_ofOutcome, productBatches_of_vast hf, andThen_error]

theorem exec_indexBatches_of_crowd {σ : Type} [Engine σ] (h : t.Sound) (hp : ∀ p ∈ t.activeProducts, 0 < p.id)
    {size : Int} (hs : 1 ≤ size) (hf : fits size = true) (hne : t.activeProducts ≠ [])
    (hl : takes limit (min size.toNat t.activeProducts.length + 1) = false) (store : Store) (processed : Value)
    (l : Link σ) : exec (indexBatches t limit size store processed) settings l = (.error .tooManyValues, l) := by
  have hpositive : ∀ id ∈ t.activeProducts.map (·.id), 0 < id := by
    intro id hid
    obtain ⟨p, hm, rfl⟩ := List.mem_map.mp hid
    exact hp p hm
  obtain ⟨batches, hq⟩ := exists_productBatches (t := t) hf
  obtain ⟨first, rest, rfl, hfirst, hsub, hlength⟩ := exists_first_page hs (by simpa using hne) hpositive
    ((productBatches_iff h hf).mp hq)
  rw [List.length_map] at hlength
  have hrows := t.loadRows_crowd (hsub.nodup (h.products.filter _).nodup) hfirst (hlength ▸ hl) store.id
  rw [indexBatches, exec_bind, exec_ofOutcome, hq, andThen_ok, List.foldlM_cons, exec_bind, reindexBatch, exec_bind,
    exec_ofOutcome, hrows, andThen_error, andThen_error]

/-- What stops the batches of a store stops a reindex, when the first store has been cleaned already. -/
theorem ends_indexStores_of_failure (h : t.Sound) (hu : (settings .url).truthy) {size : Int}
    (hb : (settings .batchSize).toInt = .ok size) {s : StoreRow} {rest : List StoreRow}
    (hs : t.activeStores = s :: rest) {failure : Failure}
    (hf : ∀ store processed (l : Link Holdings), exec (indexBatches t limit size store processed) settings l =
      (.error failure, l)) (e : Holdings) :
    Ends settings (indexStores (some t) limit) e (.error failure)
      (e.remove (settings.indexFor defaultEntityType) (Client.selection (.int s.id) .null)) := by
  have hstores : (Catalog.stored (some t) limit).stores = _ := stores_eq h
  rw [hs, List.map_cons] at hstores
  have hc := yields_cleanIndex hu s.id e
  rw [← t.storeAt_id s.id] at hc ⊢
  refine ((yields_read e).bind (yields_pure _ e)).bind ?_
  refine (ends_ofOutcome hb e).bind ?_
  refine (ends_ofOutcome hstores e).bind ?_
  refine ends_bind_error (hc.bind ?_)
  exact fun l hl => ⟨l, hf _ _ l, hl⟩

theorem ends_reindex (hu : (settings .url).truthy) {o : Outcome Value} {final : Holdings → Holdings}
    (h : ∀ e, Ends settings (indexStores (some t) limit) e o (final e)) (rebuild : Bool) (e : Holdings) :
    ∃ e0 : Holdings, e0.documents = (if rebuild then e.drop (settings.indexFor (.text "*")) else e).documents ∧
      Ends settings (reindex (some t) rebuild limit) e o (final e0) := by
  have hensured : ∀ e : Holdings, ∃ e0 : Holdings, e0.documents = e.documents ∧ Ends settings (do
      if !(← Client.ensureIndex) then return .int 0
      indexStores (some t) limit) e o (final e0) := by
    intro e
    obtain ⟨e0, hdoc, he⟩ := yields_ensureIndex hu e
    exact ⟨e0, hdoc, he.bind (h e0)⟩
  cases rebuild with
  | false => exact hensured e
  | true =>
      obtain ⟨e0, hdoc, he⟩ := hensured (e.drop (settings.indexFor (.text "*")))
      exact ⟨e0, hdoc, (yields_deleteIndex hu e).bind he⟩

end CatalogSearch.Service
