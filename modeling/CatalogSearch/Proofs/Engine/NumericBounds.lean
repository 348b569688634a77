import CatalogSearch.Proofs.Engine.Bodies
import CatalogSearch.Proofs.Engine.RangeCounts
import CatalogSearch.Proofs.Number.WholeNumbers
import CatalogSearch.Proofs.Value.Numerals

namespace CatalogSearch.Engine

open Query Query.FacetRequest Query.Reader Number Keyed Aggregation

variable {settings : Settings} {facets params told : Entries} {conditions : Value} {measured : List Value} {body : Body}
  {f name : String} {ds : List Char} {sign : Char} {query : Value} {plain : Body}

theorem not_mem_digits (h : IsNumeral ds) {c : Char} (hc : c ∉ "0123456789".toList) : c ∉ ds :=
  fun hm => hc (mem_digits (h.2 c hm))

theorem mem_of_signed (hs : sign = '-' ∨ sign = '+') (h : IsNumeral ds) {c : Char} (hc : c ∈ sign :: ds) :
    c ∈ '-' :: '+' :: "0123456789".toList := by
  rcases List.mem_cons.mp hc with rfl | hc
  · rcases hs with rfl | rfl <;> decide
  · exact List.mem_cons_of_mem _ (List.mem_cons_of_mem _ (mem_digits (h.2 c hc)))

theorem not_blank_of_signed (hs : sign = '-' ∨ sign = '+') (h : IsNumeral ds) :
    ∀ c ∈ sign :: ds, Text.isBlank c = false := by
  have hall : ∀ c ∈ '-' :: '+' :: "0123456789".toList, Text.isBlank c = false := List.all_iff_forall_prop.mp (by decide)
  exact fun c hc => hall c (mem_of_signed hs h hc)

theorem not_blank_of_numeral (h : IsNumeral ds) : ∀ c ∈ ds, Text.isBlank c = false :=
  fun c hc => not_blank_of_signed (.inl rfl) h c (List.mem_cons_of_mem _ hc)

theorem escape_numeral (h : IsNumeral ds) : escape ds = ds := by
  have hall : ∀ c ∈ "0123456789".toList, c ∉ '&' :: '|' :: reserved := List.all_iff_forall_prop.mp (by decide)
  exact escape_eq_self fun c hc => hall c (mem_digits (h.2 c hc))

theorem group_numeral (h : IsNumeral ds) : group ds = ds := by
  rw [group_of_not_mem (not_mem_digits h (by decide)), escape_numeral h]

/-- A sign has a meaning in the query language, and so it is not left bare. -/
theorem group_signed (hs : sign = '-' ∨ sign = '+') (h : IsNumeral ds) : group (sign :: ds) = '\\' :: sign :: ds := by
  have hspace : ' ' ∉ sign :: ds := fun hm => absurd (mem_of_signed hs h hm) (by decide)
  have he : escape (sign :: ds) = '\\' :: sign :: escape ds := by
    rcases hs with rfl | rfl <;> rfl
  rw [group_of_not_mem hspace, he, escape_numeral h]

theorem number?_ofChars {cs : List Char} (h : ',' ∉ cs) : (Value.ofChars cs).number? = readReal? cs := by
  have hr : Text.replace ',' '.' cs = cs := by
    have hid : ∀ c ∈ cs, (if c = ',' then '.' else c) = c := by
      intro c hc
      refine if_neg ?_
      rintro rfl
      exact h hc
    rw [Text.replace, List.map_congr_left hid, List.map_id']
  have hn : (Value.ofChars cs).number? = readReal? (Text.replace ',' '.' (Value.ofChars cs).chars) := rfl
  rw [hn, Value.chars_ofChars, hr]

theorem number_numeral (h : IsNumeral ds) (hlt : natOfDigits ds < 2 ^ 53) :
    number (.ofChars ds) = .int (natOfDigits ds) := by
  have hn := number?_ofChars (not_mem_digits h (c := ',') (by decide))
  rw [readReal?_numeral h] at hn
  simp only [number, hn, Binary64.toInt?_ofRatio_whole hlt]

theorem number_signed (hs : sign = '-' ∨ sign = '+') (h : IsNumeral ds) :
    number (.ofChars ('\\' :: sign :: ds)) = .ofChars ('\\' :: sign :: ds) := by
  have hcomma : ',' ∉ '\\' :: sign :: ds := by
    rw [List.mem_cons, not_or]
    exact ⟨by decide, fun hm => absurd (mem_of_signed hs h hm) (by decide)⟩
  have hn := number?_ofChars hcomma
  rw [readReal?_escaped hs h] at hn
  simp only [number, hn]

/-- What the engine is sent for a bound that was told. A whole number is sent as a number; for one with a sign
the engine is sent a text, in which a backslash stands before the sign. -/
inductive BoundSent : Value → Option Value → Prop where
  | blank {v : Value} : Text.allBlank v.operand = true → BoundSent v none
  | whole (n : Nat) : n < 2 ^ 53 → BoundSent (.int n) (some (.int n))
  | negative (n : Nat) : BoundSent (.int (Int.negSucc n)) (some (.ofChars ('\\' :: (toString (Int.negSucc n)).toList)))
  | digits {s : String} {ds : List Char} : IsNumeral ds → natOfDigits ds < 2 ^ 53 → Text.trim s.toList = ds →
      BoundSent (.text s) (some (.int (natOfDigits ds)))
  | signed {s : String} {sign : Char} {ds : List Char} : sign = '-' ∨ sign = '+' → IsNumeral ds →
      Text.trim s.toList = sign :: ds → BoundSent (.text s) (some (.ofChars ('\\' :: sign :: ds)))

theorem field?_sentBucket_bound (range : Entries) (hn : name = "from" ∨ name = "to") :
    (sentBucket range).field? name = (range.field? name).map number := by
  rw [sentBucket_eq, sentBound, sentBound]
  rcases hn with rfl | rfl <;> cases range.field? "from" <;> cases range.field? "to" <;>
    simp [Entries.field?, Value.same_text, Keyed.find?]

theorem sent_of_boundText (told : Entries) (hn : name = "from" ∨ name = "to") :
    (sentBucket (rangeRecord told)).field? name =
      if boundText told name = [] then none else some (number (.ofChars (group (boundText told name)))) := by
  rw [field?_sentBucket_bound _ hn, field?_rangeRecord _ hn]
  split <;> rfl

theorem sent_numeral (hn : name = "from" ∨ name = "to") (h : IsNumeral ds) (hlt : natOfDigits ds < 2 ^ 53)
    (ht : boundText told name = ds) : (sentBucket (rangeRecord told)).field? name = some (.int (natOfDigits ds)) := by
  rw [sent_of_boundText told hn, ht, if_neg h.1, group_numeral h, number_numeral h hlt]

theorem sent_signed (hn : name = "from" ∨ name = "to") (hs : sign = '-' ∨ sign = '+') (h : IsNumeral ds)
    (ht : boundText told name = sign :: ds) :
    (sentBucket (rangeRecord told)).field? name = some (.ofChars ('\\' :: sign :: ds)) := by
  rw [sent_of_boundText told hn, ht, if_neg (List.cons_ne_nil _ _), group_signed hs h, number_signed hs h]

theorem sent_of_boundSent (hn : name = "from" ∨ name = "to") {sent : Option Value} (h : BoundSent (told.field name) sent) :
    (sentBucket (rangeRecord told)).field? name = sent := by
  generalize hv : told.field name = v at h
  cases h with
  | blank hb => rw [sent_of_boundText told hn, boundText, hv, if_pos ((Text.trim_eq_nil_iff _).mpr hb)]
  | whole n hlt =>
      have hd := isNumeral_toDigits n
      have ht : boundText told name = Nat.toDigits 10 n := by
        have ho : (Value.int n).operand = Nat.toDigits 10 n := Numerals.toList_ofNat n
        rw [boundText, hv, ho, Text.trim_eq_self (not_blank_of_numeral hd)]
      rw [sent_numeral hn hd (by rwa [natOfDigits_toDigits]) ht, natOfDigits_toDigits]
  | negative n =>
      have hd := isNumeral_toDigits (n + 1)
      have hl := Numerals.toList_negSucc n
      have ht : boundText told name = '-' :: Nat.toDigits 10 (n + 1) := by
        have ho : (Value.int (Int.negSucc n)).operand = '-' :: Nat.toDigits 10 (n + 1) := hl
        rw [boundText, hv, ho, Text.trim_eq_self (not_blank_of_signed (.inl rfl) hd)]
      rw [sent_signed hn (.inl rfl) hd ht, hl]
  | digits hd hlt ht => exact sent_numeral hn hd hlt (by rw [boundText, hv]; exact ht)
  | signed hs hd ht => exact sent_signed hn hs hd (by rw [boundText, hv]; exact ht)

theorem exists_body_with_facets (ht : ∀ field ∈ (ofEntries facets).fields, ∃ name, field = .text name)
    (hb : Body.build settings query params = .ok plain)
    (hm : measuredFields ((params.field "stats").orElse (.list [])) = .ok measured) :
    ∃ body size, Body.build settings query (params.set "facets" (ofEntries facets).toValue) = .ok body ∧
      body.aggregations = insertAll [] (plan size (ofEntries facets) measured) := by
  have hplain := (Body.built_of_build hb).aggregations
  obtain ⟨size, hsize, -⟩ := Folds.bind_eq_ok.mp hplain
  have hgiven : (ofEntries facets).toValue.orElse (.map []) = (ofEntries facets).toValue := Value.orElse_map _
  have hbuild := build_of_fieldNames ht hsize hm
  rw [← hgiven] at hbuild
  exact ⟨_, size, Body.build_set_facets hb hbuild, rfl⟩

/-- The ranges of a field are sent beside any search, in their order, where nothing else goes under its name. The
bounds of each are sent as they were told if they are whole numbers without a sign; in place of a number with a
sign there is a text. -/
theorem unsigned_bounds_are_sent (hd : facets.Distinct)
    (ht : ∀ field ∈ (ofEntries facets).fields, ∃ name, field = .text name) (hc : (.text f, conditions) ∈ facets)
    (hr : rangesOf conditions ≠ []) (hq : f = queriesName → (ofEntries facets).queries = [])
    (hm : measuredFields ((params.field "stats").orElse (.list [])) = .ok measured)
    (hs : ∀ field ∈ measured, statsMark ++ field.display ≠ f) (hb : Body.build settings query params = .ok plain) :
    ∃ body, Body.build settings query (params.set "facets" (ofEntries facets).toValue) = .ok body ∧
      body.aggregations.find? (.text f) = some (.range (.text f) ((rangesOf conditions).map sentBucket)) ∧
      ∀ told, Criterion.isRangeRecord told = true → rangeOf? (.map told) = some (rangeRecord told) ∧
        ∀ name, name = "from" ∨ name = "to" → ∀ sent, BoundSent (told.field name) sent →
          (sentBucket (rangeRecord told)).field? name = sent := by
  obtain ⟨body, size, hbody, haggs⟩ := exists_body_with_facets ht hb hm
  refine ⟨body, hbody, ?_, fun told htold => ⟨rangeOf?_map htold, fun name hn sent => sent_of_boundSent hn⟩⟩
  rw [haggs]
  exact find?_plan hd hc hr hq hs

def fromFive : Entries := [(.text "from", .int 5), (.text "to", .text " 80 ")]

def shelfFacets : Entries := [(.text "price", .list [.map fromFive])]

theorem shelf_bounds_are_sent : ∃ body bucket,
    Body.build Setting.default (.text "lamp") (Entries.set [] "facets" (ofEntries shelfFacets).toValue) = .ok body ∧
      body.aggregations.find? (.text "price") = some (.range (.text "price") [bucket]) ∧
      bucket.field? "from" = some (.int 5) ∧ bucket.field? "to" = some (.int 80) := by
  have hranges : rangesOf (.list [.map fromFive]) = [rangeRecord fromFive] := by cbv
  have hfields : (ofEntries shelfFacets).fields = [] := by cbv
  have hrange : Criterion.isRangeRecord fromFive = true := by cbv
  have hfrom : fromFive.field "from" = .int 5 := by cbv
  have hto : fromFive.field "to" = .text " 80 " := by cbv
  obtain ⟨body, hbody, hsent, hbounds⟩ := @unsigned_bounds_are_sent Setting.default shelfFacets []
    (.list [.map fromFive]) [] "price" (.text "lamp") _ (List.pairwise_singleton _ _) (by simp [hfields])
    List.mem_cons_self (by rw [hranges]; exact List.cons_ne_nil _ _) (fun h => absurd h (by decide)) rfl (by simp) rfl
  rw [hranges] at hsent
  refine ⟨body, _, hbody, hsent, ?_, ?_⟩
  · refine (hbounds fromFive hrange).2 "from" (.inl rfl) _ ?_
    rw [hfrom]
    exact .whole 5 (by decide)
  · refine (hbounds fromFive hrange).2 "to" (.inr rfl) _ ?_
    rw [hto]
    have hd : IsNumeral ['8', '0'] := ⟨by decide, List.all_eq_true.mp (by decide)⟩
    exact .digits hd (by decide) (by decide)

def overdrawn : Entries := [(.text "from", .int (-5)), (.text "to", .int 5)]

def accountFacets : Entries := [(.text "price", .list [.map overdrawn])]

/-- A number below zero that is told as a bound does not reach the engine. -/
theorem negative_bounds_are_not_sent : ∃ body bucket,
    Body.build Setting.default (.text "lamp") (Entries.set [] "facets" (ofEntries accountFacets).toValue) = .ok body ∧
      body.aggregations.find? (.text "price") = some (.range (.text "price") [bucket]) ∧
      overdrawn.field "from" = .int (-5) ∧ bucket.field? "from" = some (.text "\\-5") ∧
      bucket.field? "from" ≠ some (.int (-5)) := by
  have hranges : rangesOf (.list [.map overdrawn]) = [rangeRecord overdrawn] := by cbv
  have hfields : (ofEntries accountFacets).fields = [] := by cbv
  have hr : rangesOf (.list [.map overdrawn]) ≠ [] := by rw [hranges]; exact List.cons_ne_nil _ _
  have hfrom : overdrawn.field "from" = .int (-5) := by cbv
  obtain ⟨body, size, hbody, haggs⟩ := @exists_body_with_facets Setting.default accountFacets [] [] (.text "lamp") _
    (by simp [hfields]) rfl rfl
  have hsent : body.aggregations.find? (.text "price") = some (.range (.text "price") [sentBucket (rangeRecord overdrawn)]) := by
    rw [haggs, ← List.map_singleton, ← hranges]
    exact find?_plan (List.pairwise_singleton _ _) List.mem_cons_self hr (fun h => absurd h (by decide)) (by simp)
  have hbound : (sentBucket (rangeRecord overdrawn)).field? "from" = some (.text "\\-5") := by
    refine sent_of_boundSent (.inl rfl) ?_
    rw [hfrom]
    exact .negative 4
  refine ⟨body, _, hbody, hsent, hfrom, hbound, ?_⟩
  rw [hbound]
  simp

end CatalogSearch.Engine
