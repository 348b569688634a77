import CatalogSearch.Proofs.Service.ReindexFaults

namespace CatalogSearch.Service

open Catalog Engine Action

variable {σ : Type} [Engine σ] {settings : Settings} {t : Tables} {limit : Option Nat} {l l₁ l₂ : Link σ}

theorem grows_send (documents : List Document) (entityType : Value) :
    Grows settings (send documents entityType : Action σ Value) := by
  have hrefresh : ∀ added : Value, Grows settings (do
      let _ ← Client.refreshIndex entityType
      return added : Action σ Value) := by
    intro added
    refine Grows.bind ?_ fun _ => grows_pure _
    refine grows_whenConnected ((grows_of_exec fun _ => rfl).bind fun _ => ?_)
    exact (grows_ask _).bind fun _ => grows_orWarn fun _ => grows_pure _
  unfold send
  dsimp only
  split
  · exact (grows_pure _).bind hrefresh
  · refine Grows.bind ?_ hrefresh
    refine grows_whenConnected ((grows_ofOutcome _).bind fun _ => (grows_ask _).bind fun _ => grows_orWarn fun v => ?_)
    refine (grows_ofOutcome _).bind fun items => ?_
    split
    · exact grows_pure _
    · exact grows_of_exec fun _ => rfl

theorem events_of_probe (hc : l.connected = false) (ha : l.available = none)
    (h : exec (probe : Action σ Bool) settings l = (.ok true, l₁)) :
    (settings .url).truthy = true ∧ l₁.connected = true ∧
      l₁.events = l.events ++ [.called (.connect (Client.address settings)), .called .info] := by
  rw [probe, exec_bind, exec_get, andThen_ok, ha] at h
  dsimp only at h
  rw [exec_bind, exec_attempt, andThen_ok] at h
  rcases hs : exec (Client.status : Action σ Value) settings l with ⟨failure | v, l'⟩ <;> rw [hs] at h
  · dsimp only at h
    rw [exec_bind, exec_read, andThen_ok] at h
    split at h <;> cases h
  · obtain ⟨hu, hl, he⟩ := events_of_status hc hs
    cases h
    exact ⟨hu, hl, he⟩

section Indexing

variable [Calendar.Zones]

theorem grows_reindexStore (catalog : Catalog) (batches : Outcome (List (List Int))) (store : Store)
    (processed : Value) : Grows settings (reindexStore catalog batches store processed : Action σ Value) := by
  have hclean : Grows settings (Client.cleanIndex (.int store.id) : Action σ Bool) := by
    refine grows_whenConnected ((grows_of_exec fun _ => rfl).bind fun _ => ?_)
    exact (grows_ask _).bind fun _ => grows_orWarn fun _ => grows_pure _
  refine hclean.bind fun _ => (grows_ofOutcome _).bind fun batches => chains_grows.foldlM ?_ batches processed
  intro processed batch
  refine (grows_ofOutcome _).bind fun rows => Grows.bind ?_ fun _ => grows_ofOutcome _
  exact (grows_of_exec fun _ => rfl).bind fun _ => (grows_ofOutcome _).bind fun _ => grows_send _ _

theorem grows_indexStores (tables : Option Tables) (limit : Option Nat) :
    Grows settings (indexStores tables limit : Action σ Value) := by
  refine Grows.bind (grows_of_exec fun _ => rfl) fun _ => (grows_ofOutcome _).bind fun _ => ?_
  exact (grows_ofOutcome _).bind fun stores => chains_grows.foldlM (fun _ _ => grows_reindexStore _ _ _ _) stores _

theorem events_of_reindex {tables : Option Tables} {v : Value} (hu : (settings .url).truthy = true)
    (hc : l.connected = false) (h : exec (reindex tables false limit) settings l = (.ok v, l₁)) :
    l.events ++ [.called (.connect (Client.address settings)),
      .called (.indexExists (settings.indexFor defaultEntityType))] <+: l₁.events := by
  rw [reindex_eq] at h
  change exec (Client.ensureIndex >>= _) settings l = _ at h
  rw [exec_bind] at h
  rcases hl : exec (Client.connect : Action σ Bool) settings l with ⟨c | c, l'⟩
  · rw [Client.ensureIndex, Client.whenConnected, exec_bind, hl] at h
    cases h
  obtain ⟨hcu, he⟩ := events_of_connect hc hl
  rw [hu] at hcu
  subst hcu
  rw [Client.ensureIndex, exec_whenConnected hl, ← exec_bind, bind_assoc, exec_bind, exec_read, andThen_ok, bind_assoc,
    exec_bind, exec_ask, andThen_ok] at h
  have hrest := Grows.events ?_ h
  · rwa [he rfl, List.append_assoc] at hrest
  · refine Grows.bind (grows_orWarn fun found => ?_) fun ready => ?_
    · split
      · exact grows_pure _
      · exact (grows_ask _).bind fun _ => grows_orWarn fun _ => grows_pure _
    · split
      · exact grows_pure _
      · exact grows_indexStores tables limit

/-- Automatic indexing comes to its end, and has not asked for the index as every reindex does. -/
def Skips (settings : Settings) (t : Tables) (limit : Option Nat) (l : Link σ) : Prop :=
  ∃ l' new, exec (reindexIfNeeded (some t) limit) settings l = (.ok (), l') ∧ l'.events = l.events ++ new ∧
    .called (.indexExists (settings.indexFor defaultEntityType)) ∉ new

theorem exec_reindexIfNeeded (he : isEnabled settings = true) (hf : (settings .forceReindex).truthy = false)
    (hne : t.activeProducts ≠ []) (hprobe : exec probe settings l = (.ok true, l₁)) {reported : Option Int}
    (hcount : exec Client.countDocuments settings l₁ = (.ok reported, l₂)) :
    exec (reindexIfNeeded (some t) limit) settings l =
      if reported.any fun n => (t.activeProducts.length : Int) ≤ n then (.ok (), l₂)
      else andThen (exec (afresh (reindex (some t) false limit)) settings l₂) fun _ l => (.ok (), l) := by
  have hlength : t.activeProducts.length ≠ 0 := by simpa using hne
  have ht : exec (ofOutcome (tables? (some t)) : Action σ Tables) settings l₁ = (.ok t, l₁) := exec_ofOutcome _
  rw [reindexIfNeeded, exec_bind, exec_read, andThen_ok, he]
  dsimp only
  rw [if_neg (by decide), exec_bind, hprobe, andThen_ok, if_neg (by decide), exec_bind, ht, andThen_ok, if_neg hlength,
    exec_bind, hcount, andThen_ok, hf]
  rw [Bool.not_false, Bool.true_and]
  split
  · rfl
  · rw [exec_bind]
    rfl

theorem skips_iff (he : isEnabled settings = true) (hf : (settings .forceReindex).truthy = false)
    (hne : t.activeProducts ≠ []) (hc : l.connected = false) (ha : l.available = none)
    (hprobe : exec probe settings l = (.ok true, l₁)) {reported : Option Int}
    (hcount : exec Client.countDocuments settings l₁ = (.ok reported, l₂)) :
    Skips settings t limit l ↔ ∃ n, reported = some n ∧ (t.activeProducts.length : Int) ≤ n := by
  obtain ⟨hu, hl₁, he₁⟩ := events_of_probe hc ha hprobe
  have he₂ := events_of_countDocuments hl₁ hcount
  rw [he₁, List.append_assoc] at he₂
  have hany : reported.any (fun n => (t.activeProducts.length : Int) ≤ n) = true ↔
      ∃ n, reported = some n ∧ (t.activeProducts.length : Int) ≤ n := by
    cases reported <;> simp
  rw [← hany, Skips, exec_reindexIfNeeded he hf hne hprobe hcount]
  cases reported.any fun n => (t.activeProducts.length : Int) ≤ n with
  | true => exact ⟨fun _ => rfl, fun _ => ⟨l₂, _, rfl, he₂, by simp⟩⟩
  | false =>
      refine ⟨?_, fun h => by cases h⟩
      rintro ⟨l', new, hr, hnew, hnot⟩
      rw [if_neg Bool.false_ne_true, exec_afresh] at hr
      rcases hx : exec (reindex (some t) false limit) settings { l₂ with connected := false, available := none }
        with ⟨failure | v, l₃⟩ <;> rw [hx] at hr <;> cases hr
      obtain ⟨rest, hrest⟩ := events_of_reindex hu rfl hx
      change l₂.events ++ _ ++ rest = l₃.events at hrest
      change l₃.events = l.events ++ new at hnew
      rw [← hrest, he₂, List.append_assoc, List.append_assoc] at hnew
      rw [← List.append_cancel_left hnew] at hnot
      simp at hnot

/-- Where there is at most one active store, automatic indexing is skipped only if the engine has as many documents
as a reindex sends. The count it has to have is that of the products, whatever stores there are. -/
theorem automatic_indexing_is_skipped (h : t.Sound) (he : isEnabled settings = true)
    (hf : (settings .forceReindex).truthy = false) (hne : t.activeProducts ≠ []) (hc : l.connected = false)
    (ha : l.available = none) (hprobe : exec probe settings l = (.ok true, l₁)) {reported : Option Int}
    (hcount : exec Client.countDocuments settings l₁ = (.ok reported, l₂)) :
    (Skips settings t limit l ↔ ∃ n, reported = some n ∧ (t.activeProducts.length : Int) ≤ n) ∧
    (t.activeStores.length ≤ 1 → Skips settings t limit l → ∃ n, reported = some n ∧ ((pairs t).length : Int) ≤ n) ∧
    ((∀ p ∈ t.activeProducts, 0 < p.id) → ∀ size, (settings .batchSize).toInt = .ok size → 1 ≤ size →
      fits size = true → takes limit (min size.toNat t.activeProducts.length + 1) = true →
      ∀ {P : σ → Prop}, Steady P → ∀ rebuild (l l₁ : Link σ),
        exec (setUp rebuild) settings l = (.ok true, l₁) → P l₁.engine →
        ∃ processed l₂ sends, exec (reindex (some t) rebuild limit) settings l = (.ok processed, l₂) ∧
          bulks l₂.events = bulks l.events ++ sends ∧ sends.flatten.length = (pairs t).length) := by
  have hiff : Skips settings t limit l ↔ _ := skips_iff he hf hne hc ha hprobe hcount
  refine ⟨hiff, ?_, ?_⟩
  · intro hone hs
    obtain ⟨n, hn, hle⟩ := hiff.mp hs
    refine ⟨n, hn, ?_⟩
    have hpairs : (pairs t).length ≤ 1 * t.activeProducts.length :=
      Nat.le_trans (Nat.le_of_eq (length_pairs t)) (Nat.mul_le_mul_right _ hone)
    omega
  · intro hp size hb hs hfit hl P hP rebuild l l₁ hset hp₁
    have hq := productBatches_eq hfit hp
    have hpaged := (productBatches_iff h hfit).mp hq
    have hall := flatten_of_paged h hp hs hpaged
    obtain ⟨processed, l₂, hr, hsends⟩ := reindex_sends h hP hset hp₁ hb hq
      (fun batch hm => (length_paged (by omega) hpaged batch hm).1) hall (takes_batches h hs hl hpaged)
    refine ⟨processed, l₂, _, hr, hsends, ?_⟩
    rw [flatten_sent hall, List.length_map]

end Indexing

def indexing : Settings := Settings.initial.set .enabled (.bool true)

def countingLink (n : Int) : Link Script := ⟨[(.count, [.ok (.ofFields [("count", .int n)])])], false, none, [], []⟩

theorem exec_countingLink (n : Int) : ∃ l₁ l₂, exec probe indexing (countingLink n) = (.ok true, l₁) ∧
    exec Client.countDocuments indexing l₁ = (.ok (some n), l₂) := by
  have hget : (Value.ofFields [("count", .int n)]).get "count" (.int 0) = .ok (.int n) := by
    change Except.ok (Entries.field [(.text "count", .int n)] "count" (.int 0)) = _
    rw [Entries.field, Entries.field?_cons_self, Option.getD_some]
  obtain ⟨l₁, hprobe⟩ : ∃ l₁ : Link Script, l₁ = ⟨(countingLink n).engine, true, some true,
    [.called (.connect (Client.address indexing)), .called .info], []⟩ := ⟨_, rfl⟩
  refine ⟨l₁, ⟨[(.count, [])], true, some true, l₁.events ++ [.called (.count (indexing.indexFor defaultEntityType))],
    []⟩, ?_, ?_⟩
  · rw [hprobe]
    rfl
  · rw [hprobe, Client.countDocuments, exec_whenConnected (exec_connect rfl), exec_bind, exec_read, andThen_ok,
      exec_bind, exec_ask, andThen_ok]
    change exec (ofOutcome ((Value.ofFields [("count", .int n)]).get "count" (.int 0) >>= Value.toInt) >>=
      fun count => pure (some count)) _ _ = _
    rw [hget]
    rfl

open scoped Calendar.Daylight

theorem lamp_indexing_is_skipped : Skips indexing Tables.lampTables (some 32766) (countingLink 1) ∧
    ((pairs Tables.lampTables).length : Int) ≤ 1 ∧
    ∃ processed l,
      exec (reindex (some Tables.lampTables) false (some 32766)) indexing (countingLink 1) = (.ok processed, l) ∧
      (bulks l.events).flatten.length = (pairs Tables.lampTables).length := by
  obtain ⟨l₁, l₂, hprobe, hcount⟩ := exec_countingLink 1
  have hp : ∀ p ∈ Tables.lampTables.activeProducts, 0 < p.id := by decide
  have hfits : fits 1000 = true := by simp [fits, twoTo]
  have htolerable : Tolerable (countingLink 1).engine := by
    intro entry he answer hm call hc
    rw [List.mem_singleton.mp he] at hm hc
    rw [List.mem_singleton.mp hm]
    rintro documents rfl
    cases hc
  obtain ⟨hiff, hone, hreindex⟩ := @automatic_indexing_is_skipped _ _ indexing Tables.lampTables (some 32766) _ _ _ _
    Tables.sound_lampTables rfl rfl (List.cons_ne_nil _ _) rfl rfl hprobe _ hcount
  have hskips := hiff.mpr ⟨1, rfl, by decide⟩
  obtain ⟨n, hn, hle⟩ := hone (by decide) hskips
  cases hn
  obtain ⟨processed, l, sends, hr, hb, hlength⟩ := hreindex hp 1000 rfl (by decide) hfits (by decide) steady_script false
    (countingLink 1) _ rfl htolerable
  refine ⟨hskips, hle, processed, l, hr, ?_⟩
  rw [hb]
  exact hlength

/-- In two stores there are six documents, but three are enough for a reindex not to be made. -/
theorem two_stores_count_as_one : ∃ l₁ l₂, exec probe indexing (countingLink 3) = (.ok true, l₁) ∧
    exec Client.countDocuments indexing l₁ = (.ok (some 3), l₂) ∧
    Skips indexing rackTables (some 32766) (countingLink 3) ∧ (pairs rackTables).length = 6 := by
  obtain ⟨l₁, l₂, hprobe, hcount⟩ := exec_countingLink 3
  refine ⟨l₁, l₂, hprobe, hcount, ?_, rfl⟩
  exact (skips_iff rfl rfl (by decide) rfl rfl hprobe hcount).mpr ⟨3, rfl, by decide⟩

end CatalogSearch.Service
