import CatalogSearch.Proofs.Service.Batching

namespace CatalogSearch.Service

open Catalog Engine Action

variable {σ : Type} [Engine σ] {settings : Settings} {t : Tables} {limit : Option Nat} {P : σ → Prop} {l l₁ : Link σ}

/-- What is asked of an engine about an index that there has to be, and whether there is one after that. -/
inductive Prepares (index : String) (e : σ) : List Call → Bool → Prop where
  | unknown {fault : Fault} (h : (Engine.answer (.indexExists index) e).1 = .error fault) :
      Prepares index e [.indexExists index] false
  | found {v : Value} (h : (Engine.answer (.indexExists index) e).1 = .ok v) (hv : v.truthy = true) :
      Prepares index e [.indexExists index] true
  | refused {v : Value} {fault : Fault} (h : (Engine.answer (.indexExists index) e).1 = .ok v) (hv : v.truthy = false)
      (hc : (Engine.answer (.createIndex index catalogMapping) (Engine.answer (.indexExists index) e).2).1 =
        .error fault) :
      Prepares index e [.indexExists index, .createIndex index catalogMapping] false
  | created {v w : Value} (h : (Engine.answer (.indexExists index) e).1 = .ok v) (hv : v.truthy = false)
      (hc : (Engine.answer (.createIndex index catalogMapping) (Engine.answer (.indexExists index) e).2).1 = .ok w) :
      Prepares index e [.indexExists index, .createIndex index catalogMapping] true

theorem asks_ensureIndex (settings : Settings) (hP : Steady P) (h : Ready P l) :
    ∃ opening ready, Prepares (settings.indexFor defaultEntityType) l.engine opening ready ∧
      Asks settings l Client.ensureIndex opening ready := by
  suffices hs : ∃ opening ready, Prepares (settings.indexFor defaultEntityType) l.engine opening ready ∧
      Asks settings l (do
        orWarn (← ask (.indexExists (settings.indexFor defaultEntityType))) "index setup" false fun found => do
          if found.truthy then return true
          orWarn (← ask (.createIndex (settings.indexFor defaultEntityType) catalogMapping)) "index setup" false
            fun _ => return true) opening ready by
    obtain ⟨opening, ready, hp, ha⟩ := hs
    refine ⟨opening, ready, hp, Asks.whenConnected h.connected (Asks.behind (x := settings) ?_ exec_read)⟩
    exact ha
  generalize settings.indexFor defaultEntityType = index
  have hexists := hP.bearable (.indexExists index) l.engine h.engine
  cases he : (Engine.answer (.indexExists index) l.engine).1 with
  | error fault =>
      rw [he] at hexists
      exact ⟨_, _, .unknown he, asks_orWarn_error he hexists rfl⟩
  | ok v =>
      cases hv : v.truthy with
      | true =>
          refine ⟨_, _, .found he hv, asks_orWarn_ok he ?_⟩
          rw [hv, if_pos rfl]
          exact asks_of_exec (exec_pure true)
      | false =>
          have hcreate := hP.bearable (.createIndex index catalogMapping)
            (Engine.answer (.indexExists index) l.engine).2 (hP.stays _ _ h.engine)
          cases hc : (Engine.answer (.createIndex index catalogMapping)
              (Engine.answer (.indexExists index) l.engine).2).1 with
          | error fault =>
              rw [hc] at hcreate
              refine ⟨_, _, .refused he hv hc, asks_orWarn_ok he ?_⟩
              rw [hv, if_neg Bool.false_ne_true]
              exact asks_orWarn_error hc hcreate rfl
          | ok w =>
              refine ⟨_, _, .created he hv hc, asks_orWarn_ok he ?_⟩
              rw [hv, if_neg Bool.false_ne_true]
              exact asks_orWarn_ok hc (asks_of_exec (exec_pure true))

def dropCalls (settings : Settings) (rebuild : Bool) : List Call :=
  if rebuild then [.deleteIndices (settings.indexFor (.text "*"))] else []

theorem asks_setUp (settings : Settings) (hP : Steady P) (h : Ready P l) (rebuild : Bool) :
    ∃ opening ready,
      Prepares (settings.indexFor defaultEntityType) (l.after (dropCalls settings rebuild)).engine opening ready ∧
      Asks settings l (setUp rebuild) (dropCalls settings rebuild ++ opening) ready := by
  cases rebuild with
  | false => exact asks_ensureIndex settings hP h
  | true =>
      obtain ⟨done, hdrop⟩ := asks_deleteIndex settings hP h
      obtain ⟨opening, ready, hp, ha⟩ := asks_ensureIndex settings hP
        (h.after hP [.deleteIndices (settings.indexFor (.text "*"))])
      exact ⟨opening, ready, hp, hdrop.bind ha⟩

theorem exec_setUp_of_connect (h : exec (Client.connect : Action σ Bool) settings l = (.ok true, l₁)) (rebuild : Bool) :
    exec (setUp rebuild) settings l = exec (setUp rebuild) settings l₁ := by
  have hc : exec (Client.connect : Action σ Bool) settings l₁ = (.ok true, l₁) := exec_connect (connected_of_connect h)
  cases rebuild with
  | false => exact (exec_whenConnected h).trans (exec_whenConnected hc).symm
  | true =>
      have hdrop : exec (Client.deleteIndex : Action σ Bool) settings l = exec Client.deleteIndex settings l₁ :=
        (exec_whenConnected h).trans (exec_whenConnected hc).symm
      change exec (Client.deleteIndex >>= fun _ => Client.ensureIndex) settings l = _
      rw [exec_bind, hdrop, ← exec_bind]
      rfl

theorem taken_opening {index : String} {e : σ} {opening : List Call} {ready : Bool}
    (h : Prepares index e opening ready) (rebuild : Bool) :
    taken (dropCalls settings rebuild ++ opening) l.engine = 0 := by
  cases rebuild <;> cases h <;> rfl

theorem purpose_opening {index : String} {e : σ} {opening : List Call} {ready : Bool}
    (h : Prepares index e opening ready) (rebuild : Bool) :
    ∀ call ∈ dropCalls settings rebuild ++ opening, call.purpose?.isSome = true := by
  cases rebuild <;> cases h <;> simp [dropCalls, Call.purpose?]

section Reindex

variable [Calendar.Zones]

theorem purpose_allCalls (batches : List (List Int)) :
    ∀ call ∈ allCalls settings t batches, call.purpose?.isSome = true := by
  intro call hm
  obtain ⟨s, -, hm⟩ := List.mem_flatMap.mp hm
  rcases List.mem_cons.mp hm with rfl | hm
  · rfl
  · obtain ⟨batch, -, hm⟩ := List.mem_flatMap.mp hm
    rcases List.mem_cons.mp hm with rfl | hm
    · rfl
    · rw [List.mem_singleton.mp hm]
      rfl

theorem asks_reindex (h : t.Sound) (hP : Steady P) (hl : Ready P l) {size : Int}
    (hb : (settings .batchSize).toInt = .ok size) {batches : List (List Int)}
    (hq : productBatches (.int size) (some t) = .ok batches) (hne : ∀ batch ∈ batches, batch ≠ [])
    (hn : batches.flatten.Nodup) (hf : ∀ id ∈ batches.flatten, fits id = true)
    (htakes : ∀ batch ∈ batches, takes limit (batch.length + 1) = true) (rebuild : Bool) :
    ∃ opening ready,
      Prepares (settings.indexFor defaultEntityType) (l.after (dropCalls settings rebuild)).engine opening ready ∧
      Asks settings l (reindex (some t) rebuild limit)
        (dropCalls settings rebuild ++ opening ++ if ready then allCalls settings t batches else [])
        (.int (taken (dropCalls settings rebuild ++ opening ++ if ready then allCalls settings t batches else [])
          l.engine)) := by
  obtain ⟨opening, ready, hp, ha⟩ := asks_setUp settings hP hl rebuild
  refine ⟨opening, ready, hp, ?_⟩
  rw [reindex_eq, l.taken_append, taken_opening hp, Int.zero_add]
  refine ha.bind ?_
  cases ready with
  | false => exact asks_of_exec (exec_pure _)
  | true => exact asks_indexStores h hP (hl.after hP _) hb hq hne hn hf htakes

/-- Where the client can be made, a reindex comes to its end whatever else the engine fails at: what it asks
depends on the engine only in whether there is an index, it counts the documents that were taken, and there is a
warning for each fault. A statement must take the products of a batch and a store. -/
theorem reindex_survives_faults (h : t.Sound) {size : Int} (hb : (settings .batchSize).toInt = .ok size)
    (hs : 1 ≤ size) (hf : fits size = true) (hl : takes limit (min size.toNat t.activeProducts.length + 1) = true) :
    ∃ batches, productBatches (.int size) (some t) = .ok batches ∧
      Paged size (t.activeProducts.map (·.id)) 0 batches ∧
      ∀ {σ : Type} [Engine σ] {P : σ → Prop}, Steady P → ∀ rebuild (l l₁ : Link σ),
        exec Client.connect settings l = (.ok true, l₁) → P l₁.engine →
        ∃ opening ready calls processed,
          Prepares (settings.indexFor defaultEntityType) (l₁.after (dropCalls settings rebuild)).engine opening ready ∧
          calls = dropCalls settings rebuild ++ opening ++ (if ready then allCalls settings t batches else []) ∧
          exec (reindex (some t) rebuild limit) settings l = (.ok (.int processed), l₁.after calls) ∧
          processed = taken calls l₁.engine ∧ (ready = false → processed = 0) ∧
          (l₁.after calls).warnings.length = l₁.warnings.length + faults calls l₁.engine := by
  obtain ⟨batches, hq⟩ := exists_productBatches (t := t) hf
  have hpaged := (productBatches_iff h hf).mp hq
  have hids : (t.activeProducts.map (·.id)).Pairwise (· < ·) := List.pairwise_map.mpr (h.products.filter _).ordered
  have hall := flatten_paged hids (by omega) hpaged
  refine ⟨batches, hq, hpaged, ?_⟩
  intro σ _ P hP rebuild l l₁ hconnect hp
  have hn : batches.flatten.Nodup := hall ▸ (h.products.filter _).nodup.filter _
  have hfit : ∀ id ∈ batches.flatten, fits id = true := by
    rw [hall]
    intro id hid
    obtain ⟨p, hm, rfl⟩ := List.mem_map.mp (List.mem_filter.mp hid).1
    exact h.products.fit p (List.mem_filter.mp hm).1
  obtain ⟨opening, ready, ho, ha⟩ := asks_reindex h hP ⟨connected_of_connect hconnect, hp⟩ hb hq
    (fun batch hm => (length_paged (by omega) hpaged batch hm).1) hn hfit (takes_batches h hs hl hpaged) rebuild
  refine ⟨opening, ready, _, _, ho, rfl, ?_, rfl, ?_, ?_⟩
  · rw [reindex_eq, exec_bind, exec_setUp_of_connect hconnect, ← exec_bind, ← reindex_eq, ha]
  · rintro rfl
    rw [if_neg Bool.false_ne_true, List.append_nil, taken_opening ho]
  · have hpurpose : ∀ call ∈ dropCalls settings rebuild ++ opening ++
        (if ready then allCalls settings t batches else []), call.purpose?.isSome = true := by
      intro call hm
      rcases List.mem_append.mp hm with hm | hm
      · exact purpose_opening ho rebuild call hm
      · split at hm
        · exact purpose_allCalls batches call hm
        · cases hm
    rw [← length_warnings hpurpose, ← List.length_append]
    rfl

end Reindex

/-- Of four bulks of a rebuild one is lost and one has no count, and two other calls fail. -/
def faultyScript : Script :=
  [(.deleteByQuery, [.error .timedOut]), (.refresh, [.ok (.map []), .error (.transport "gone")]),
    (.bulk, [.ok (.tuple [.int 2, .list []]), .error .disconnected, .ok (.tuple [.null, .list []])])]

theorem tolerable_faultyScript : Tolerable faultyScript := by
  have hfault : ∀ {fault : Fault} {m : Method}, fault.isEngine = true →
      ∀ call : Call, call.method = m → Bearable call (.error fault) := fun h _ _ => h
  have hcount : ∀ {count errors : Value}, count = .null ∨ (∃ n, count = .int n) →
      ∀ call : Call, call.method = .bulk → Bearable call (.ok (.tuple [count, errors])) :=
    fun h _ _ _ _ => ⟨_, _, rfl, h⟩
  have hdone : ∀ call : Call, call.method = .refresh → Bearable call (.ok (.map [])) := by
    rintro call hm documents rfl
    cases hm
  simp only [Tolerable, faultyScript, List.forall_mem_cons]
  refine ⟨⟨hfault rfl, by simp⟩, ⟨hdone, hfault rfl, by simp⟩,
    ⟨hcount (.inr ⟨2, rfl⟩), hfault rfl, hcount (.inl rfl), by simp⟩, by simp⟩

open scoped Calendar.Daylight

theorem rack_reindex_survives_faults : ∃ l : Link Script,
    exec (reindex (some rackTables) true (some 3)) (batchesOf 2) ⟨faultyScript, false, none, [], []⟩ = (.ok (.int 3), l) ∧
      (bulks l.events).map List.length = [2, 1, 2, 1] ∧ l.warnings.length = 3 := by
  have hp : ∀ p ∈ rackTables.activeProducts, 0 < p.id := by simp [rackTables, Tables.activeProducts, Tables.isSet]
  have hfits : fits 2 = true := by simp [fits, twoTo]
  obtain ⟨batches, hq, -, hruns⟩ := @reindex_survives_faults (batchesOf 2) rackTables (some 3) _ sound_rackTables
    2 rfl (by decide) hfits (by decide)
  have hb : batches = [[7, 9], [30]] := by
    rw [productBatches_eq hfits hp] at hq
    cases hq
    simp [Service.batches, chunks, rackTables, Tables.activeProducts, Tables.isSet]
  subst hb
  obtain ⟨l₁, hl⟩ : ∃ l₁ : Link Script, l₁ = ⟨faultyScript, true, none,
    [.called (.connect (Client.address (batchesOf 2)))], []⟩ := ⟨_, rfl⟩
  obtain ⟨opening, ready, calls, processed, ho, hcalls, hr, hn, -, hw⟩ := hruns steady_script true
    ⟨faultyScript, false, none, [], []⟩ l₁ (by rw [hl]; rfl) (by rw [hl]; exact tolerable_faultyScript)
  subst hl
  cases ho with
  | unknown h => cases h
  | found h hv => cases h; cases hv
  | refused h hv hc => cases hc
  | created h hv hc =>
      subst hcalls
      refine ⟨_, ?_, ?_, hw.trans rfl⟩
      · rw [hr, hn]
        rfl
      · rfl

def unmadeClient : Script := [(.connect, [.error (.transport "bad url")])]

/-- There are three ways in which a reindex does not come to its end: the tables do not take the size of the
batches, a statement does not take the products of a batch, or there is a fault while the client is made. -/
theorem vast_batches_and_unmade_clients_fail :
    (vastSettings .url).truthy = true ∧ (vastSettings .batchSize).toInt = .ok 9223372036854775808 ∧
      (exec (reindex (some Tables.lampTables) false) vastSettings freshLink).1 = .error .outOfRange ∧
      (crowdSettings .url).truthy = true ∧ (crowdSettings .batchSize).toInt = .ok 40000 ∧
      (exec (reindex (some (crowdTables 32766)) false (some 32766)) crowdSettings freshLink).1 = .error .tooManyValues ∧
      (Settings.initial .url).truthy = true ∧ (Settings.initial .batchSize).toInt = .ok 1000 ∧
      Tolerable unmadeClient ∧
      (exec (reindex (some Tables.lampTables) false) Settings.initial ⟨unmadeClient, false, none, [], []⟩).1 =
        .error (.engine (.transport "bad url")) := by
  refine ⟨rfl, rfl, ?_, rfl, rfl, ?_, rfl, rfl, ?_, rfl⟩
  · have hfits : fits 9223372036854775808 = false := by simp [fits, twoTo]
    have hf : ∀ store processed (l : Link Holdings),
        exec (indexBatches Tables.lampTables none 9223372036854775808 store processed) vastSettings l =
          (.error .outOfRange, l) := exec_indexBatches_of_vast hfits
    obtain ⟨l, hr, -⟩ := not_reindexed_of_failure Tables.sound_lampTables rfl (by decide) activeStores_lampTables
      (List.mem_singleton_self lampProduct) rfl hf
    exact congrArg Prod.fst hr
  · obtain ⟨p, hp⟩ := List.exists_mem_of_length_eq_add_one (length_crowdTables 32766)
    obtain ⟨l, hr, -⟩ := not_reindexed_of_failure (sound_crowdTables (by decide)) (by decide) (by decide) rfl hp rfl
      exec_indexBatches_of_crowdTables
    exact congrArg Prod.fst hr
  · intro entry he answer ha call _
    rw [List.mem_singleton.mp he] at ha
    rw [List.mem_singleton.mp ha]
    rfl

end CatalogSearch.Service
