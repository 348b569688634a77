import CatalogSearch.Proofs.Catalog.Sound
import CatalogSearch.Service.Indexing

namespace CatalogSearch.Service

open Catalog

/-- The first identities behind another one, as the tables are asked for them; a negative size is no limit. -/
def page (size : Int) (ids : List Int) (last : Int) : List Int :=
  if size < 0 then ids.filter (last < ·) else (ids.filter (last < ·)).take size.toNat

/-- The loop that asks for one page after the other, each behind the last identity of the one before,
until there is nothing on a page. -/
inductive Paged (size : Int) (ids : List Int) : Int → List (List Int) → Prop where
  | done {last : Int} : page size ids last = [] → Paged size ids last []
  | next {last : Int} {batch : List Int} {batches : List (List Int)} (hne : batch ≠ []) : page size ids last = batch →
      Paged size ids (batch.getLast hne) batches → Paged size ids last (batch :: batches)

variable {size last : Int} {ids : List Int} {batches others : List (List Int)}

theorem Paged.unique (h : Paged size ids last batches) (ho : Paged size ids last others) : batches = others := by
  induction h generalizing others with
  | done hp =>
      cases ho with
      | done _ => rfl
      | next hne hq _ => exact (hne (hq.symm.trans hp)).elim
  | next hne hp _ ih =>
      cases ho with
      | done hq => exact (hne (hp.symm.trans hq)).elim
      | next hne' hq ho =>
          cases hp.symm.trans hq
          rw [ih ho]

theorem filter_getLast (h : ids.Pairwise (· < ·)) {before after : List Int}
    (hr : ids.filter (last < ·) = before ++ after) (hne : before ≠ []) :
    ids.filter (before.getLast hne < ·) = after := by
  have hrows : (before ++ after).Pairwise (· < ·) := hr ▸ h.filter _
  obtain ⟨hb, -, hab⟩ := List.pairwise_append.mp hrows
  have hlast : last < before.getLast hne := by
    have hm : before.getLast hne ∈ ids.filter (last < ·) := by
      rw [hr]
      exact List.mem_append_left _ (List.getLast_mem hne)
    exact of_decide_eq_true (List.mem_filter.mp hm).2
  have hbefore : before.filter (before.getLast hne < ·) = [] := by
    rw [List.filter_eq_nil_iff]
    intro id hid
    rw [← List.dropLast_concat_getLast hne, List.pairwise_append] at hb
    rw [← List.dropLast_concat_getLast hne] at hid
    rcases List.mem_append.mp hid with hid | hid
    · have hlt := hb.2.2 id hid _ (List.mem_singleton_self _)
      rw [decide_eq_true_eq]
      omega
    · rw [List.mem_singleton.mp hid]
      simp
  have hafter : after.filter (before.getLast hne < ·) = after := by
    rw [List.filter_eq_self]
    intro id hid
    exact decide_eq_true (hab _ (List.getLast_mem hne) id hid)
  calc ids.filter (before.getLast hne < ·)
      = (ids.filter (last < ·)).filter (before.getLast hne < ·) := by
        rw [List.filter_filter]
        apply List.filter_congr
        intro id _
        rw [Bool.eq_iff_iff]
        simp only [Bool.and_eq_true, decide_eq_true_eq]
        omega
    _ = after := by rw [hr, List.filter_append, hbefore, hafter, List.nil_append]

theorem flatten_paged (h : ids.Pairwise (· < ·)) (hs : size ≠ 0) (hp : Paged size ids last batches) :
    batches.flatten = ids.filter (last < ·) := by
  induction hp with
  | @done last hpage =>
      rw [List.flatten_nil]
      unfold page at hpage
      split at hpage
      · exact hpage.symm
      · rcases List.take_eq_nil_iff.mp hpage with hz | hnil
        · omega
        · exact hnil.symm
  | @next last batch batches hne hpage _ ih =>
      have hsplit : ∃ after, ids.filter (last < ·) = batch ++ after := by
        unfold page at hpage
        split at hpage
        · exact ⟨[], by rw [hpage, List.append_nil]⟩
        · exact ⟨_, by rw [← hpage, List.take_append_drop]⟩
      obtain ⟨after, hr⟩ := hsplit
      rw [List.flatten_cons, ih, filter_getLast h hr hne, hr]

theorem length_paged (hs : 0 ≤ size) (hp : Paged size ids last batches) :
    ∀ batch ∈ batches, batch ≠ [] ∧ (batch.length : Int) ≤ size := by
  induction hp with
  | done _ => simp
  | @next last batch batches hne hpage _ ih =>
      rintro other hm
      rcases List.mem_cons.mp hm with rfl | hm
      · refine ⟨hne, ?_⟩
        rw [page, if_neg (by omega)] at hpage
        have hl : other.length ≤ size.toNat := hpage ▸ List.length_take_le _ _
        omega
      · exact ih other hm

theorem takes_paged {limit : Option Nat} (h : ids.Pairwise (· < ·)) (hs : 1 ≤ size)
    (hl : takes limit (min size.toNat ids.length + 1) = true) (hp : Paged size ids last batches) :
    ∀ batch ∈ batches, takes limit (batch.length + 1) = true := by
  intro batch hm
  have hsize := (length_paged (by omega) hp batch hm).2
  have hids : batch.length ≤ ids.length := by
    have hsub := List.sublist_flatten_of_mem hm
    rw [flatten_paged h (by omega) hp] at hsub
    exact (hsub.trans List.filter_sublist).length_le
  exact takes_of_le hl (by omega)

theorem exists_first_page (hs : 1 ≤ size) (hne : ids ≠ []) (hlast : ∀ id ∈ ids, last < id)
    (hp : Paged size ids last batches) :
    ∃ first rest, batches = first :: rest ∧ first ≠ [] ∧ first.Sublist ids ∧
      first.length = min size.toNat ids.length := by
  have hpage : page size ids last = ids.take size.toNat := by
    rw [page, if_neg (by omega), List.filter_eq_self.mpr fun id hid => decide_eq_true (hlast id hid)]
  cases hp with
  | done hd =>
      rw [hpage, List.take_eq_nil_iff] at hd
      rcases hd with hd | hd
      · omega
      · exact (hne hd).elim
  | next hfirst hd _ =>
      rw [hpage] at hd
      subst hd
      exact ⟨_, _, rfl, hfirst, List.take_sublist _ _, List.length_take⟩

theorem paged_chunks (h : ids.Pairwise (· < ·)) (more : Nat) (last : Int) :
    Paged (more + 1) ids last (chunks more (ids.filter (last < ·))) := by
  have hpage : ∀ last, page (more + 1) ids last = (ids.filter (last < ·)).take (more + 1) := by
    intro last
    rw [page, if_neg (by omega)]
    rfl
  generalize hr : ids.filter (last < ·) = rows
  -- What is left over of the rows is what lies behind the page that was taken from them.
  induction rows using chunks.induct more generalizing last with
  | case1 =>
      rw [chunks]
      exact .done (by rw [hpage, hr, List.take_nil])
  | case2 id rows ih =>
      have hsplit : ids.filter (last < ·) = (id :: rows.take more) ++ rows.drop more := by
        rw [hr, List.cons_append, List.take_append_drop]
      rw [chunks]
      refine .next (List.cons_ne_nil _ _) ?_ (ih _ (filter_getLast h hsplit _))
      rw [hpage, hr, List.take_succ_cons]

theorem paged_all (h : ids.Pairwise (· < ·)) (hs : size < 0) (last : Int) :
    Paged size ids last (chunks (ids.filter (last < ·)).length (ids.filter (last < ·))) := by
  have hpage : ∀ last, page size ids last = ids.filter (last < ·) := fun last => by rw [page, if_pos hs]
  cases hr : ids.filter (last < ·) with
  | nil =>
      rw [chunks]
      exact .done (by rw [hpage, hr])
  | cons id rows =>
      have htake : rows.take (id :: rows).length = rows := List.take_of_length_le (by simp)
      have hdrop : rows.drop (id :: rows).length = [] := List.drop_of_length_le (by simp)
      have hrest := filter_getLast h (hr.trans (List.append_nil _).symm) (List.cons_ne_nil id rows)
      rw [chunks, htake, hdrop, chunks]
      exact .next (List.cons_ne_nil _ _) (by rw [hpage, hr]) (.done (by rw [hpage, hrest]))

theorem exists_productBatches {t : Tables} (hf : fits size = true) :
    ∃ batches, productBatches (.int size) (some t) = .ok batches := by
  have hq : productBatches (.int size) (some t) =
      if fits size then .ok (Service.batches size ((t.activeProducts.filter fun p => 0 < p.id).map (·.id)))
      else .error .outOfRange := rfl
  exact ⟨_, hq.trans (if_pos hf)⟩

/-- The batches of products are the pages that the loop comes to, whatever the size, and it ends. -/
theorem productBatches_iff {t : Tables} (h : t.Sound) (hf : fits size = true) :
    productBatches (.int size) (some t) = .ok batches ↔ Paged size (t.activeProducts.map (·.id)) 0 batches := by
  have hids : (t.activeProducts.map (·.id)).Pairwise (· < ·) := List.pairwise_map.mpr (h.products.filter _).ordered
  have hrows : (t.activeProducts.filter fun p => 0 < p.id).map (·.id) =
      (t.activeProducts.map (·.id)).filter (0 < ·) := by
    rw [List.filter_map]
    rfl
  have hq : productBatches (.int size) (some t) =
      if fits size then .ok (Service.batches size ((t.activeProducts.filter fun p => 0 < p.id).map (·.id)))
      else .error .outOfRange := rfl
  have hpaged : Paged size (t.activeProducts.map (·.id)) 0
      (Service.batches size ((t.activeProducts.map (·.id)).filter (0 < ·))) := by
    unfold Service.batches
    split
    · next hz =>
        subst hz
        exact .done (by rw [page, if_neg (by decide)]; rfl)
    · split
      · next hneg => exact paged_all hids hneg 0
      · have hp := paged_chunks hids (size.toNat - 1) 0
        rwa [show ((size.toNat - 1 : Nat) : Int) + 1 = size by omega] at hp
  rw [hq, if_pos hf, hrows]
  constructor
  · rintro ⟨⟩
    exact hpaged
  · intro ho
    rw [hpaged.unique ho]

end CatalogSearch.Service
