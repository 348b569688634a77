import CatalogSearch.Engine.Client

namespace CatalogSearch.Engine.Action

variable {σ α β : Type} {settings : Settings} {l : Link σ}

/-- What comes of an action under some settings, and the link after it. -/
def exec (a : Action σ α) (settings : Settings) (l : Link σ) : Outcome α × Link σ := (a settings).run l

def andThen (r : Outcome α × Link σ) (k : α → Link σ → Outcome β × Link σ) : Outcome β × Link σ :=
  match r with
  | (.ok x, l) => k x l
  | (.error e, l) => (.error e, l)

@[simp] theorem andThen_ok (x : α) (k : α → Link σ → Outcome β × Link σ) : andThen (.ok x, l) k = k x l := rfl

@[simp] theorem andThen_error (e : Failure) (k : α → Link σ → Outcome β × Link σ) :
    andThen (.error e, l) k = (.error e, l) := rfl

theorem andThen_bind {γ : Type} (o : Outcome α) (f : α → Outcome γ) (k : γ → Link σ → Outcome β × Link σ) :
    andThen (o >>= f, l) k = andThen (o, l) fun x l => andThen (f x, l) k := by
  cases o <;> rfl

@[simp] theorem exec_pure (x : α) : exec (pure x : Action σ α) settings l = (.ok x, l) := rfl

@[simp] theorem exec_bind (a : Action σ α) (f : α → Action σ β) :
    exec (a >>= f) settings l = andThen (exec a settings l) fun x l => exec (f x) settings l := by
  simp only [exec, bind, ReaderT.bind, ExceptT.bind, ExceptT.mk, ExceptT.run, StateT.bind]
  rcases a settings l with ⟨x | x, l'⟩ <;> rfl

@[simp] theorem exec_read : exec (read : Action σ Settings) settings l = (.ok settings, l) := rfl

@[simp] theorem exec_get : exec (get : Action σ (Link σ)) settings l = (.ok l, l) := rfl

@[simp] theorem exec_modify (f : Link σ → Link σ) : exec (modify f : Action σ Unit) settings l = (.ok (), f l) := rfl

@[simp] theorem exec_throw (e : Failure) : exec (throw e : Action σ α) settings l = (.error e, l) := rfl

@[simp] theorem exec_ofOutcome (o : Outcome α) : exec (ofOutcome o : Action σ α) settings l = (o, l) := by
  cases o <;> rfl

theorem exec_attempt (a : Action σ α) :
    exec (attempt a) settings l = (.ok (exec a settings l).1, (exec a settings l).2) := rfl

theorem exec_afresh (a : Action σ α) : exec (afresh a) settings l =
    let r := exec a settings { l with connected := false, available := none }
    (r.1, { r.2 with connected := l.connected, available := l.available }) := by
  simp only [afresh, exec]
  rfl

@[simp] theorem exec_ask [Engine σ] (call : Call) : exec (ask call : Action σ _) settings l =
    (.ok (Engine.answer call l.engine).1,
      { l with engine := (Engine.answer call l.engine).2, events := l.events ++ [.called call] }) := rfl

section

variable {R : Link σ → Link σ → Prop} {a : Action σ α}

/-- Whatever comes of an action, the link after it stands in a relation to the one before. -/
def Keeps (R : Link σ → Link σ → Prop) (settings : Settings) (a : Action σ α) : Prop := ∀ l, R l (exec a settings l).2

structure Chains (R : Link σ → Link σ → Prop) : Prop where
  refl : ∀ l, R l l
  trans : ∀ l m n, R l m → R m n → R l n

namespace Chains

theorem still (hR : Chains R) (h : ∀ l, (exec a settings l).2 = l) : Keeps R settings a := by
  intro l
  rw [h]
  exact hR.refl l

theorem bind (hR : Chains R) {f : α → Action σ β} (ha : Keeps R settings a)
    (hf : ∀ l x, (exec a settings l).1 = .ok x → Keeps R settings (f x)) : Keeps R settings (a >>= f) := by
  intro l
  have hl := ha l
  rw [exec_bind]
  rcases hr : exec a settings l with ⟨x | x, l'⟩ <;> rw [hr] at hl
  · exact hl
  · exact hR.trans _ _ _ hl (hf l x (by rw [hr]) l')

theorem demand [Engine σ] (hR : Chains R) {call : Call} (h : Keeps R settings (ask call : Action σ _)) :
    Keeps R settings (demand call : Action σ _) := by
  refine hR.bind h fun _ answer _ => ?_
  cases answer with
  | ok v => exact hR.still fun _ => rfl
  | error fault => exact hR.still fun _ => rfl

theorem orWarn (hR : Chains R) (hw : ∀ text, Keeps R settings (warn text : Action σ Unit)) {x : Except Fault Value}
    {what : String} {default : α} {k : Value → Action σ α} (hk : ∀ v, Keeps R settings (k v)) :
    Keeps R settings (orWarn x what default k) := by
  cases x with
  | ok v => exact hk v
  | error fault =>
      rw [Action.orWarn]
      split
      · exact hR.bind (hw _) fun _ _ _ => hR.still fun _ => rfl
      · exact hR.still fun _ => rfl

theorem foldlM (hR : Chains R) {γ : Type} {f : α → γ → Action σ α} (hf : ∀ x c, Keeps R settings (f x c)) (cs : List γ)
    (x : α) : Keeps R settings (cs.foldlM f x) := by
  induction cs generalizing x with
  | nil => exact hR.still fun _ => rfl
  | cons c cs ih => exact hR.bind (hf x c) fun _ y _ => ih y

theorem attempt (hR : Chains R) (ha : Keeps R settings a) : Keeps R settings (attempt a) :=
  fun l => hR.trans _ _ _ (hR.refl l) (ha l)

theorem connect [Engine σ] (hR : Chains R)
    (ha : Keeps R settings (ask (.connect (Client.address settings)) : Action σ _))
    (hc : ∀ l : Link σ, R l { l with connected := true }) : Keeps R settings (Client.connect : Action σ Bool) := by
  refine hR.bind (hR.still fun _ => rfl) fun _ l _ => ?_
  split
  · exact hR.still fun _ => rfl
  · refine hR.bind (hR.still fun _ => rfl) ?_
    intro _ _ hs
    cases hs
    split
    · exact hR.still fun _ => rfl
    · exact hR.bind (hR.demand ha) fun _ _ _ => hR.bind hc fun _ _ _ => hR.still fun _ => rfl

theorem whenConnected [Engine σ] (hR : Chains R) {default : α} (hc : Keeps R settings (Client.connect : Action σ Bool))
    (ha : Keeps R settings a) : Keeps R settings (Client.whenConnected default a) := by
  refine hR.bind hc fun _ connected _ => ?_
  split
  · exact ha
  · exact hR.still fun _ => rfl

end Chains

end

section

variable {P : Event → Prop} {a : Action σ α}

def Emits (P : Event → Prop) (settings : Settings) (a : Action σ α) : Prop :=
  ∀ l, ∀ e ∈ (exec a settings l).2.events, e ∈ l.events ∨ P e

theorem chains_emits (P : Event → Prop) : Chains fun l l' : Link σ => ∀ e ∈ l'.events, e ∈ l.events ∨ P e where
  refl _ _ he := .inl he
  trans _ _ _ hl hm e he := (hm e he).elim (hl e) .inr

theorem Emits.bind {f : α → Action σ β} (ha : Emits P settings a)
    (hf : ∀ l x, (exec a settings l).1 = .ok x → Emits P settings (f x)) : Emits P settings (a >>= f) :=
  (chains_emits P).bind ha hf

theorem emits_pure (x : α) : Emits P settings (pure x : Action σ α) := (chains_emits P).still fun _ => rfl

theorem emits_read : Emits P settings (read : Action σ Settings) := (chains_emits P).still fun _ => rfl

theorem emits_ofOutcome (o : Outcome α) : Emits P settings (ofOutcome o : Action σ α) :=
  (chains_emits P).still fun _ => by rw [exec_ofOutcome]

theorem emits_ask [Engine σ] {call : Call} (h : P (.called call)) : Emits P settings (ask call : Action σ _) := by
  intro l e he
  rw [exec_ask] at he
  rcases List.mem_append.mp he with he | he
  · exact .inl he
  · exact .inr (List.mem_singleton.mp he ▸ h)

theorem emits_orWarn {x : Except Fault Value} {what : String} {default : α} {k : Value → Action σ α}
    (h : ∀ v, Emits P settings (k v)) : Emits P settings (orWarn x what default k) :=
  (chains_emits P).orWarn (fun _ _ _ => .inl) h

theorem emits_whenConnected [Engine σ] {default : α} (h : P (.called (.connect (Client.address settings))))
    (ha : Emits P settings a) : Emits P settings (Client.whenConnected default a) :=
  (chains_emits P).whenConnected ((chains_emits P).connect (emits_ask h) fun _ _ => .inl) ha

end

section

variable {a : Action σ α} {x : α} {o : Outcome α} {r : Outcome β} {e e' e'' : σ}

/-- From one state of the engine an action comes to an outcome and to another state of the engine. -/
def Ends (settings : Settings) (a : Action σ α) (e : σ) (o : Outcome α) (e' : σ) : Prop :=
  ∀ l : Link σ, l.engine = e → ∃ l', exec a settings l = (o, l') ∧ l'.engine = e'

abbrev Yields (settings : Settings) (a : Action σ α) (e : σ) (x : α) (e' : σ) : Prop := Ends settings a e (.ok x) e'

theorem yields_pure (x : α) (e : σ) : Yields settings (pure x : Action σ α) e x e := fun l he => ⟨l, rfl, he⟩

theorem yields_read (e : σ) : Yields settings (read : Action σ Settings) e settings e := fun l he => ⟨l, rfl, he⟩

theorem ends_ofOutcome {o' : Outcome α} (h : o = o') (e : σ) : Ends settings (ofOutcome o : Action σ α) e o' e :=
  fun l he => ⟨l, by rw [exec_ofOutcome, h], he⟩

theorem yields_ask [Engine σ] {call : Call} {x : Except Fault Value} (h : Engine.answer call e = (x, e')) :
    Yields settings (ask call : Action σ _) e x e' := by
  rintro l rfl
  rw [exec_ask, h]
  exact ⟨_, rfl, rfl⟩

theorem Ends.bind {f : α → Action σ β} (ha : Ends settings a e (.ok x) e') (hf : Ends settings (f x) e' r e'') :
    Ends settings (a >>= f) e r e'' := by
  intro l hl
  obtain ⟨l', hr, hl'⟩ := ha l hl
  obtain ⟨l'', hk, hl''⟩ := hf l' hl'
  refine ⟨l'', ?_, hl''⟩
  rw [exec_bind, hr, andThen_ok, hk]

theorem ends_bind_error {f : α → Action σ β} {failure : Failure} (ha : Ends settings a e (.error failure) e') :
    Ends settings (a >>= f) e (.error failure) e' := by
  intro l hl
  obtain ⟨l', hr, hl'⟩ := ha l hl
  refine ⟨l', ?_, hl'⟩
  rw [exec_bind, hr, andThen_error]

theorem ends_get {f : Link σ → Action σ β} (h : ∀ l, Ends settings (f l) e r e') :
    Ends settings (get >>= f) e r e' := by
  intro l hl
  obtain ⟨l', hr, hl'⟩ := h l l hl
  refine ⟨l', ?_, hl'⟩
  rw [exec_bind, exec_get, andThen_ok, hr]

theorem yields_modify {f : Link σ → Link σ} (h : ∀ l, (f l).engine = l.engine) (e : σ) :
    Yields settings (modify f : Action σ Unit) e () e :=
  fun l hl => ⟨f l, exec_modify f, (h l).trans hl⟩

theorem yields_foldlM {γ : Type} {f : Value → γ → Action σ Value} (count : γ → Int) (next : σ → γ → σ) {xs : List γ}
    (h : ∀ c ∈ xs, ∀ n e, Yields settings (f (.int n) c) e (.int (n + count c)) (next e c)) (n : Int) (e : σ) :
    Yields settings (xs.foldlM f (.int n)) e (.int (xs.foldl (fun n c => n + count c) n)) (xs.foldl next e) := by
  induction xs generalizing n e with
  | nil => exact yields_pure _ e
  | cons c xs ih =>
      refine (h c List.mem_cons_self n e).bind ?_
      exact ih (fun d hd => h d (List.mem_cons_of_mem c hd)) _ _

end

end CatalogSearch.Engine.Action
