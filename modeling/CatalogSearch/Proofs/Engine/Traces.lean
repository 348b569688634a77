import CatalogSearch.Proofs.Engine.Runs

namespace CatalogSearch.Engine.Action

variable {σ α β : Type} {settings : Settings} {a : Action σ α}

/-- An answer that indexing goes on after: a fault of the engine itself, or, where documents were sent,
how many of them were taken. -/
def Bearable (call : Call) : Except Fault Value → Prop
  | .error fault => fault.isEngine = true
  | .ok v => ∀ documents, call = .bulk documents →
      ∃ taken errors, v = .tuple [taken, errors] ∧ (taken = .null ∨ ∃ n, taken = .int n)

/-- States of an engine that it does not leave and in which all its answers are bearable. -/
structure Steady [Engine σ] (P : σ → Prop) : Prop where
  bearable : ∀ call e, P e → Bearable call (Engine.answer call e).1
  stays : ∀ call e, P e → P (Engine.answer call e).2

variable {l l' : Link σ}

def bulk? : Event → Option (List Value)
  | .called (.bulk documents) => some documents
  | _ => none

/-- The documents that were sent, call by call. -/
def bulks (events : List Event) : List (List Value) := events.filterMap bulk?

/-- An action that sends no documents and leaves a connection that there is. -/
def Silent (settings : Settings) (a : Action σ α) : Prop :=
  ∀ l : Link σ, (l.connected = true → (exec a settings l).2.connected = true) ∧
    bulks (exec a settings l).2.events = bulks l.events

theorem chains_silent : Chains fun l l' : Link σ =>
    (l.connected = true → l'.connected = true) ∧ bulks l'.events = bulks l.events where
  refl _ := ⟨id, rfl⟩
  trans _ _ _ hl hm := ⟨fun hc => hm.1 (hl.1 hc), hm.2.trans hl.2⟩

theorem silent_of_exec (h : ∀ l, (exec a settings l).2 = l) : Silent settings a := chains_silent.still h

theorem silent_pure (x : α) : Silent settings (pure x : Action σ α) := silent_of_exec fun _ => rfl

theorem silent_read : Silent settings (read : Action σ Settings) := silent_of_exec fun _ => rfl

theorem silent_ask [Engine σ] {call : Call} (h : bulk? (.called call) = none) :
    Silent settings (ask call : Action σ _) := by
  intro l
  rw [exec_ask, bulks, List.filterMap_append, List.filterMap_cons_none h]
  exact ⟨id, List.append_nil _⟩

theorem Silent.bind {f : α → Action σ β} (ha : Silent settings a) (hf : ∀ x, Silent settings (f x)) :
    Silent settings (a >>= f) :=
  chains_silent.bind ha fun _ x _ => hf x

theorem silent_ofOutcome (o : Outcome α) : Silent settings (ofOutcome o : Action σ α) :=
  silent_of_exec fun _ => by rw [exec_ofOutcome]

theorem silent_orWarn {answer : Except Fault Value} {what : String} {default : α} {k : Value → Action σ α}
    (h : ∀ v, Silent settings (k v)) : Silent settings (orWarn answer what default k) :=
  chains_silent.orWarn (fun _ _ => ⟨id, rfl⟩) h

theorem exec_connect [Engine σ] (h : l.connected = true) :
    exec (Client.connect : Action σ Bool) settings l = (.ok true, l) := by
  rw [Client.connect, exec_bind, exec_get, andThen_ok, if_pos h, exec_pure]

theorem exec_whenConnected [Engine σ] {default : α}
    (h : exec (Client.connect : Action σ Bool) settings l = (.ok true, l')) :
    exec (Client.whenConnected default a) settings l = exec a settings l' := by
  rw [Client.whenConnected, exec_bind, h, andThen_ok, if_pos rfl]

theorem connected_of_connect [Engine σ] (h : exec (Client.connect : Action σ Bool) settings l = (.ok true, l')) :
    l'.connected = true := by
  rw [Client.connect, exec_bind, exec_get, andThen_ok] at h
  split at h
  · next hc =>
      cases h
      exact hc
  · rw [exec_bind, exec_read, andThen_ok] at h
    split at h
    · cases h
    · rw [exec_bind] at h
      rcases hd : exec (demand (.connect (Client.address settings)) : Action σ Value) settings l with ⟨v | v, l₁⟩ <;>
        rw [hd] at h <;> cases h
      rfl

theorem silent_whenConnected [Engine σ] {default : α} (ha : Silent settings a) :
    Silent settings (Client.whenConnected default a) :=
  chains_silent.whenConnected (chains_silent.connect (silent_ask rfl) fun _ => ⟨fun _ => rfl, rfl⟩) ha

theorem connected_of_whenConnected [Engine σ] {a : Action σ Bool} (ha : Silent settings a)
    (h : exec (Client.whenConnected false a) settings l = (.ok true, l')) : l'.connected = true := by
  rw [Client.whenConnected, exec_bind] at h
  rcases hc : exec (Client.connect : Action σ Bool) settings l with ⟨c | c, l₁⟩ <;> rw [hc] at h
  · cases h
  · cases c with
    | false => cases h
    | true =>
        have hl := (ha l₁).1 (connected_of_connect hc)
        rw [andThen_ok, if_pos rfl] at h
        rw [h] at hl
        exact hl

/-- Nothing that was said to the engine is taken back. -/
def Grows (settings : Settings) (a : Action σ α) : Prop :=
  Keeps (fun l l' : Link σ => l.events <+: l'.events) settings a

theorem chains_grows : Chains fun l l' : Link σ => l.events <+: l'.events where
  refl _ := List.prefix_rfl
  trans _ _ _ := List.IsPrefix.trans

theorem Grows.bind {f : α → Action σ β} (ha : Grows settings a) (hf : ∀ x, Grows settings (f x)) :
    Grows settings (a >>= f) :=
  chains_grows.bind ha fun _ x _ => hf x

theorem Grows.events {o : Outcome α} (ha : Grows settings a) (h : exec a settings l = (o, l')) :
    l.events <+: l'.events := by
  have hl := ha l
  rwa [h] at hl

theorem grows_of_exec (h : ∀ l, (exec a settings l).2 = l) : Grows settings a := chains_grows.still h

theorem grows_pure (x : α) : Grows settings (pure x : Action σ α) := grows_of_exec fun _ => rfl

theorem grows_ofOutcome (o : Outcome α) : Grows settings (ofOutcome o : Action σ α) :=
  grows_of_exec fun _ => by rw [exec_ofOutcome]

theorem grows_ask [Engine σ] (call : Call) : Grows settings (ask call : Action σ _) := fun _ => List.prefix_append _ _

theorem grows_orWarn {answer : Except Fault Value} {what : String} {default : α} {k : Value → Action σ α}
    (h : ∀ v, Grows settings (k v)) : Grows settings (orWarn answer what default k) :=
  chains_grows.orWarn (fun _ _ => List.prefix_rfl) h

theorem grows_whenConnected [Engine σ] {default : α} (ha : Grows settings a) :
    Grows settings (Client.whenConnected default a) :=
  chains_grows.whenConnected (chains_grows.connect (grows_ask _) fun _ => List.prefix_rfl) ha

theorem events_of_demand [Engine σ] {call : Call} {v : Value} (h : exec (demand call) settings l = (.ok v, l')) :
    l'.connected = l.connected ∧ l'.events = l.events ++ [.called call] := by
  rw [demand, exec_bind, exec_ask, andThen_ok] at h
  cases ha : (Engine.answer call l.engine).1 with
  | error fault =>
      rw [ha] at h
      cases h
  | ok w =>
      rw [ha] at h
      cases h
      exact ⟨rfl, rfl⟩

theorem events_of_connect [Engine σ] {connected : Bool} (hc : l.connected = false)
    (h : exec (Client.connect : Action σ Bool) settings l = (.ok connected, l')) :
    connected = (settings .url).truthy ∧
      (connected = true → l'.events = l.events ++ [.called (.connect (Client.address settings))]) := by
  rw [Client.connect, exec_bind, exec_get, andThen_ok, hc, if_neg Bool.false_ne_true, exec_bind, exec_read,
    andThen_ok] at h
  cases hu : (settings .url).truthy with
  | false =>
      rw [hu] at h
      cases h
      exact ⟨rfl, fun ht => by cases ht⟩
  | true =>
      rw [hu, if_neg (by decide), exec_bind] at h
      rcases hd : exec (demand (.connect (Client.address settings)) : Action σ Value) settings l with ⟨v | v, l₁⟩ <;>
        rw [hd] at h <;> cases h
      exact ⟨rfl, fun _ => (events_of_demand hd).2⟩

theorem events_of_status [Engine σ] {v : Value} (hc : l.connected = false)
    (h : exec (Client.status : Action σ Value) settings l = (.ok v, l')) :
    (settings .url).truthy = true ∧ l'.connected = true ∧
      l'.events = l.events ++ [.called (.connect (Client.address settings)), .called .info] := by
  rw [Client.status, exec_bind] at h
  rcases hl : exec (Client.connect : Action σ Bool) settings l with ⟨c | c, l₁⟩ <;> rw [hl] at h
  · cases h
  · cases c with
    | false => cases h
    | true =>
        obtain ⟨hu, he⟩ := events_of_connect hc hl
        have hd : exec (demand .info) settings l₁ = (.ok v, l') := h
        obtain ⟨hl₁, he'⟩ := events_of_demand hd
        refine ⟨hu.symm, hl₁.trans (connected_of_connect hl), ?_⟩
        rw [he', he rfl, List.append_assoc]
        rfl

theorem events_of_countDocuments [Engine σ] {reported : Option Int} (hc : l.connected = true)
    (h : exec (Client.countDocuments : Action σ (Option Int)) settings l = (.ok reported, l')) :
    l'.events = l.events ++ [.called (.count (settings.indexFor defaultEntityType))] := by
  rw [Client.countDocuments, exec_whenConnected (exec_connect hc), exec_bind, exec_read, andThen_ok, exec_bind,
    exec_ask, andThen_ok] at h
  cases ha : (Engine.answer (.count (settings.indexFor defaultEntityType)) l.engine).1 with
  | ok v =>
      rw [ha, orWarn, exec_bind, exec_ofOutcome] at h
      cases hn : (do (← v.get "count" (.int 0)).toInt : Outcome Int) with
      | error e =>
          rw [hn] at h
          cases h
      | ok n =>
          rw [hn] at h
          cases h
          rfl
  | error fault =>
      rw [ha, orWarn] at h
      split at h <;> cases h
      rfl

end CatalogSearch.Engine.Action
