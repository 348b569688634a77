import CatalogSearch.Value.Plain
import Mathlib.Data.List.Basic

namespace CatalogSearch.Value

inductive Step where
  | item (n : Nat)
  | key (key : Value)
  | attribute (name : String)

namespace Step

def plain : Step → Step
  | .attribute name => .key (.text name)
  | s => s

/-- Attributes can be hidden; keys of the same name cannot. -/
def IsShown : Step → Prop
  | .attribute name => isHidden name = false
  | _ => True

end Step

/-- What a value holds one step inside. A set is closed, and so are the keys of a dictionary. -/
inductive Contains : Value → Step → Value → Prop where
  | ofList {xs : List Value} {n : Nat} {x : Value} : xs[n]? = some x → Contains (.list xs) (.item n) x
  | ofTuple {xs : List Value} {n : Nat} {x : Value} : xs[n]? = some x → Contains (.tuple xs) (.item n) x
  | ofMap {es : Entries} {key x : Value} : (key, x) ∈ es → Contains (.map es) (.key key) x
  | ofObject {fs : List (String × Value)} {name : String} {x : Value} : (name, x) ∈ fs →
      Contains (.object fs) (.attribute name) x

/-- What stands in a value at the end of a path, at any depth. -/
inductive At : Value → List Step → Value → Prop where
  | here {v : Value} : At v [] v
  | inside {v x w : Value} {s : Step} {steps : List Step} : Contains v s x → At x steps w → At v (s :: steps) w

/-- What a value is apart from what stands in it: how many items it has, or which keys or attributes in which order. -/
inductive Frame where
  | list (length : Nat)
  | tuple (length : Nat)
  | map (keys : List Value)
  | object (names : List String)
  | closed (v : Value)

def frame : Value → Frame
  | .list xs => .list xs.length
  | .tuple xs => .tuple xs.length
  | .map es => .map (Keyed.keys es)
  | .object fs => .object (fs.map Prod.fst)
  | v => .closed v

def Frame.plain : Frame → Frame
  | .tuple n => .list n
  | .object names => .map ((names.filter fun name => !isHidden name).map .text)
  | f => f

/-- There is neither a tuple nor an object at any depth. -/
def IsPlain (v : Value) : Prop := ∀ steps w, At v steps w → (∀ xs, w ≠ .tuple xs) ∧ ∀ fs, w ≠ .object fs

variable {v w x : Value} {s : Step} {steps path : List Step} {xs : List Value} {fs : List (String × Value)}

section Parts

theorem plainItems_eq (xs : List Value) : plainItems xs = xs.map plain := by
  induction xs with
  | nil => rfl
  | cons x xs ih => rw [plainItems, ih, List.map_cons]

theorem plainEntries_eq (es : Entries) : plainEntries es = Keyed.mapValues plain es := by
  induction es with
  | nil => rfl
  | cons e es ih => rw [plainEntries, ih]; rfl

theorem plainFields_eq (fs : List (String × Value)) :
    plainFields fs = (fs.filter fun f => !isHidden f.1).map fun f => (.text f.1, plain f.2) := by
  induction fs with
  | nil => rfl
  | cons f fs ih =>
      obtain ⟨name, x⟩ := f
      rw [plainFields, List.filter_cons, ih]
      cases isHidden name <;> rfl

theorem Contains.sizeOf_lt (h : Contains v s x) : sizeOf x < sizeOf v := by
  cases h with
  | ofList h | ofTuple h =>
      have hlt := List.sizeOf_lt_of_mem (List.mem_of_getElem? h)
      simp only [list.sizeOf_spec, tuple.sizeOf_spec]
      omega
  | ofMap h | ofObject h =>
      have hlt := List.sizeOf_lt_of_mem h
      simp only [Prod.mk.sizeOf_spec, map.sizeOf_spec, object.sizeOf_spec] at hlt ⊢
      omega

theorem contains_induction {P : Value → Prop} (inside : ∀ v, (∀ s x, Contains v s x → P x) → P v) (v : Value) : P v :=
  inside v fun _ x _hx => contains_induction inside x
termination_by sizeOf v
decreasing_by exact _hx.sizeOf_lt

end Parts

section Steps

theorem frame_plain (v : Value) : v.plain.frame = v.frame.plain := by
  cases v with
  | list xs | tuple xs => simp [plain, frame, Frame.plain, plainItems_eq]
  | map es => simp [plain, frame, Frame.plain, plainEntries_eq, Keyed.mapValues, Keyed.keys]
  | object fs => simp [plain, frame, Frame.plain, plainFields_eq, Keyed.keys, List.filter_map, Function.comp_def]
  | _ => rfl

theorem Contains.plain (h : Contains v s x) (hshown : s.IsShown) : Contains v.plain s.plain x.plain := by
  cases h with
  | ofList h | ofTuple h =>
      rw [Value.plain, plainItems_eq]
      exact .ofList (by rw [List.getElem?_map, h]; rfl)
  | ofMap h =>
      rw [Value.plain, plainEntries_eq]
      exact .ofMap (List.mem_map.mpr ⟨_, h, rfl⟩)
  | ofObject h =>
      rw [Value.plain, plainFields_eq]
      exact .ofMap (List.mem_map.mpr ⟨_, List.mem_filter.mpr ⟨h, (Bool.not_eq_true' _).mpr hshown⟩, rfl⟩)

theorem exists_of_contains_items (h : Contains (.list (plainItems xs)) s w) :
    ∃ n x, s = .item n ∧ xs[n]? = some x ∧ x.plain = w := by
  rw [plainItems_eq] at h
  cases h with
  | ofList h =>
      rw [List.getElem?_map, Option.map_eq_some_iff] at h
      obtain ⟨x, hx, rfl⟩ := h
      exact ⟨_, x, rfl, hx, rfl⟩

theorem exists_of_contains_plain (h : Contains v.plain s w) :
    ∃ t x, Contains v t x ∧ t.IsShown ∧ t.plain = s ∧ x.plain = w := by
  cases v with
  | list xs =>
      obtain ⟨n, x, rfl, hx, rfl⟩ := exists_of_contains_items h
      exact ⟨.item n, x, .ofList hx, trivial, rfl, rfl⟩
  | tuple xs =>
      obtain ⟨n, x, rfl, hx, rfl⟩ := exists_of_contains_items h
      exact ⟨.item n, x, .ofTuple hx, trivial, rfl, rfl⟩
  | map es =>
      rw [plain, plainEntries_eq] at h
      cases h with
      | ofMap h =>
          obtain ⟨⟨key, x⟩, he, heq⟩ := List.mem_map.mp h
          cases heq
          exact ⟨.key key, x, .ofMap he, trivial, rfl, rfl⟩
  | object fs =>
      rw [plain, plainFields_eq] at h
      cases h with
      | ofMap h =>
          obtain ⟨⟨name, x⟩, hf, heq⟩ := List.mem_map.mp h
          obtain ⟨hf, hshown⟩ := List.mem_filter.mp hf
          cases heq
          exact ⟨.attribute name, x, .ofObject hf, (Bool.not_eq_true' _).mp hshown, rfl, rfl⟩
  -- nothing else has anything in it
  | _ => cases h

theorem At.plain (h : At v steps x) (hshown : ∀ t ∈ steps, t.IsShown) :
    At v.plain (steps.map Step.plain) x.plain := by
  induction h with
  | here => exact .here
  | inside hx _ ih =>
      obtain ⟨hs, hsteps⟩ := List.forall_mem_cons.mp hshown
      exact .inside (hx.plain hs) (ih hsteps)

theorem exists_of_at_plain (h : At v.plain path w) :
    ∃ steps x, At v steps x ∧ (∀ t ∈ steps, t.IsShown) ∧ steps.map Step.plain = path ∧ x.plain = w := by
  induction path generalizing v with
  | nil =>
      cases h
      exact ⟨[], v, .here, by simp, rfl, rfl⟩
  | cons s path ih =>
      cases h with
      | inside hs h =>
          obtain ⟨t, y, hy, hshown, rfl, rfl⟩ := exists_of_contains_plain hs
          obtain ⟨steps, x, hx, hsteps, rfl, rfl⟩ := ih h
          exact ⟨t :: steps, x, .inside hy hx, List.forall_mem_cons.mpr ⟨hshown, hsteps⟩, rfl, rfl⟩

end Steps

theorem isPlain_plain (v : Value) : IsPlain v.plain := by
  intro path w h
  obtain ⟨-, x, -, -, -, rfl⟩ := exists_of_at_plain h
  cases x <;> simp [plain]

namespace IsPlain

theorem of_contains (h : IsPlain v) (hx : Contains v s x) : IsPlain x :=
  fun steps w hw => h (s :: steps) w (.inside hx hw)

theorem ne_tuple (h : IsPlain v) : v ≠ .tuple xs := (h [] v .here).1 xs

theorem ne_object (h : IsPlain v) : v ≠ .object fs := (h [] v .here).2 fs

theorem plain_eq (h : IsPlain v) : v.plain = v := by
  induction v using contains_induction with
  | inside v ih =>
      have hx {s : Step} {x : Value} (hs : Contains v s x) : x.plain = x := ih s x hs (h.of_contains hs)
      cases v with
      | list xs =>
          have hitems : ∀ x ∈ xs, x.plain = x := by
            intro x hm
            obtain ⟨n, hn⟩ := List.mem_iff_getElem?.mp hm
            exact hx (.ofList hn)
          rw [plain, plainItems_eq, List.map_congr_left hitems, List.map_id']
      | map es =>
          have hentries : ∀ e ∈ es, (e.1, e.2.plain) = e := by
            rintro ⟨key, x⟩ he
            rw [hx (.ofMap he)]
          rw [plain, plainEntries_eq, Keyed.mapValues, List.map_congr_left hentries, List.map_id']
      | tuple xs => exact absurd rfl h.ne_tuple
      | object fs => exact absurd rfl h.ne_object
      | _ => rfl

end IsPlain

/-- The plain form of a value is a normal form: it is plain, it is its own plain form, and the values that are plain stay
as they are. Wherever a path of shown steps leads, what stood there stands there still, a tuple as a list and an object
as a dictionary of the attributes that it shows, and nothing stands anywhere else. -/
theorem plain_is_normal_form (v : Value) :
    IsPlain v.plain ∧ v.plain.plain = v.plain ∧ (v.plain = v ↔ IsPlain v) ∧
    (∀ steps x, At v steps x → (∀ t ∈ steps, t.IsShown) →
      ∃ w, At v.plain (steps.map Step.plain) w ∧ w.frame = x.frame.plain) ∧
    ∀ path w, At v.plain path w →
      ∃ steps x, At v steps x ∧ (∀ t ∈ steps, t.IsShown) ∧ steps.map Step.plain = path ∧ w.frame = x.frame.plain := by
  refine ⟨isPlain_plain v, (isPlain_plain v).plain_eq, ⟨fun h => h ▸ isPlain_plain v, IsPlain.plain_eq⟩, ?_, ?_⟩
  · intro steps x hx hshown
    exact ⟨x.plain, hx.plain hshown, frame_plain x⟩
  · intro path w hw
    obtain ⟨steps, x, hx, hshown, hpath, rfl⟩ := exists_of_at_plain hw
    exact ⟨steps, x, hx, hshown, hpath, frame_plain x⟩

example : plain (.list [.object [("size", .text "m"), ("_hidden", .bool true)],
      .map [(.text "_hidden", .tuple [.int 1, .set [.tuple [.int 2]]])]]) =
    .list [.map [(.text "size", .text "m")],
      .map [(.text "_hidden", .list [.int 1, .set [.tuple [.int 2]]])]] := rfl

end CatalogSearch.Value
