import CatalogSearch.Engine.Script
import CatalogSearch.Proofs.Engine.Traces

namespace CatalogSearch.Engine

/-- What a call is for, in the words of the warning about its fault. There is no going on after a fault of
a call that has no such words. -/
def Call.purpose? : Call → Option String
  | connect _ | info => none
  | search .. => some "search"
  | count _ => some "count"
  | deleteByQuery .. => some "clean"
  | indexExists _ | createIndex .. => some "index setup"
  | refresh _ => some "refresh"
  | deleteIndices _ => some "delete"
  | bulk _ => some "bulk index"

/-- A call, and how it was answered. -/
structure Exchange where
  call : Call
  answer : Except Fault Value

namespace Exchange

def isFault (x : Exchange) : Bool :=
  match x.answer with
  | .ok _ => false
  | .error _ => true

def warning? (x : Exchange) : Option String :=
  match x.answer, x.call.purpose? with
  | .error fault, some what => some ("Elasticsearch " ++ what ++ " failed: " ++ fault.message)
  | _, _ => none

/-- How many of the documents that were sent the engine says to have taken. -/
def taken : Exchange → Int
  | ⟨.bulk _, .ok (.tuple [count, _])⟩ => count.integer?.getD 0
  | _ => 0

end Exchange

variable {σ : Type} [Engine σ]

/-- What an engine answers to calls that are made one after the other. -/
def exchanges : List Call → σ → List Exchange
  | [], _ => []
  | call :: calls, e => ⟨call, (Engine.answer call e).1⟩ :: exchanges calls (Engine.answer call e).2

def taken : List Call → σ → Int
  | [], _ => 0
  | call :: calls, e => Exchange.taken ⟨call, (Engine.answer call e).1⟩ + taken calls (Engine.answer call e).2

def faults (calls : List Call) (e : σ) : Nat := (exchanges calls e).countP Exchange.isFault

namespace Link

variable (l : Link σ)

/-- A link after calls, with a warning for each fault. -/
def after (calls : List Call) : Link σ :=
  { l with
    engine := calls.foldl (fun e call => (Engine.answer call e).2) l.engine
    events := l.events ++ calls.map .called
    warnings := l.warnings ++ (exchanges calls l.engine).filterMap Exchange.warning? }

theorem exchanges_append (calls more : List Call) :
    exchanges (calls ++ more) l.engine = exchanges calls l.engine ++ exchanges more (l.after calls).engine := by
  induction calls generalizing l with
  | nil => rfl
  | cons call calls ih => exact congrArg (List.cons _) (ih { l with engine := (Engine.answer call l.engine).2 })

theorem after_append (calls more : List Call) : (l.after calls).after more = l.after (calls ++ more) := by
  simp only [after, l.exchanges_append, List.foldl_append, List.map_append, List.filterMap_append, List.append_assoc]

theorem after_nil : l.after [] = l := by
  simp [after, exchanges]

theorem taken_append (calls more : List Call) :
    taken (calls ++ more) l.engine = taken calls l.engine + taken more (l.after calls).engine := by
  induction calls generalizing l with
  | nil => exact (Int.zero_add _).symm
  | cons call calls ih =>
      have hrest := ih { l with engine := (Engine.answer call l.engine).2 }
      rw [List.cons_append, taken, taken, Int.add_assoc, hrest]
      rfl

end Link

theorem length_warnings {calls : List Call} (h : ∀ call ∈ calls, call.purpose?.isSome = true) (e : σ) :
    ((exchanges calls e).filterMap Exchange.warning?).length = faults calls e := by
  induction calls generalizing e with
  | nil => rfl
  | cons call calls ih =>
      have hrest := ih (fun c hc => h c (List.mem_cons_of_mem call hc)) (Engine.answer call e).2
      obtain ⟨what, hw⟩ := Option.isSome_iff_exists.mp (h call List.mem_cons_self)
      rw [faults, exchanges, List.filterMap_cons, List.countP_cons, ← faults]
      cases ha : (Engine.answer call e).1 <;> simp [Exchange.warning?, Exchange.isFault, hw, hrest]

namespace Action

variable {α β γ : Type} {settings : Settings} {P : σ → Prop} {l : Link σ} {a : Action σ α} {calls more : List Call}
  {x : α} {y : β}

/-- From a link, an action makes calls, whatever the answers to them, and comes to a value. -/
abbrev Asks (settings : Settings) (l : Link σ) (a : Action σ α) (calls : List Call) (x : α) : Prop :=
  exec a settings l = (.ok x, l.after calls)

/-- A link through which an engine is reached that gives bearable answers. -/
structure Ready (P : σ → Prop) (l : Link σ) : Prop where
  connected : l.connected = true
  engine : P l.engine

theorem Ready.after (hP : Steady P) (h : Ready P l) (calls : List Call) : Ready P (l.after calls) where
  connected := h.connected
  engine := List.foldlRecOn (motive := P) calls _ h.engine fun _ he call _ => hP.stays call _ he

theorem Asks.bind {f : α → Action σ β} (ha : Asks settings l a calls x)
    (hf : Asks settings (l.after calls) (f x) more y) : Asks settings l (a >>= f) (calls ++ more) y := by
  rw [Asks, exec_bind, ha, andThen_ok, hf, Link.after_append]

theorem Asks.behind {f : α → Action σ β} (hf : Asks settings l (f x) calls y)
    (ha : exec a settings l = (.ok x, l)) : Asks settings l (a >>= f) calls y := by
  rw [Asks, exec_bind, ha, andThen_ok, hf]

theorem Asks.before {f : α → Action σ β} (ha : Asks settings l a calls x)
    (hf : ∀ l, exec (f x) settings l = (.ok y, l)) : Asks settings l (a >>= f) calls y := by
  rw [Asks, exec_bind, ha, andThen_ok, hf]

theorem asks_of_exec (h : exec a settings l = (.ok x, l)) : Asks settings l a [] x := by
  rw [Asks, h, Link.after_nil]

theorem asks_orWarn_ok {call : Call} {what : String} {default : α} {k : Value → Action σ α} {v : Value}
    (ha : (Engine.answer call l.engine).1 = .ok v) (hk : Asks settings (l.after [call]) (k v) calls x) :
    Asks settings l (ask call >>= fun answer => orWarn answer what default k) (call :: calls) x := by
  have hl : l.after [call] =
      { l with engine := (Engine.answer call l.engine).2, events := l.events ++ [.called call] } := by
    simp [Link.after, exchanges, Exchange.warning?, ha]
  rw [Asks, exec_bind, exec_ask, andThen_ok, ha, ← hl]
  exact hk.trans (by rw [Link.after_append]; rfl)

theorem asks_orWarn_error {call : Call} {what : String} {default : α} {k : Value → Action σ α} {fault : Fault}
    (ha : (Engine.answer call l.engine).1 = .error fault) (hf : fault.isEngine = true)
    (hp : call.purpose? = some what) :
    Asks settings l (ask call >>= fun answer => orWarn answer what default k) [call] default := by
  have hl : l.after [call] =
      { l with
        engine := (Engine.answer call l.engine).2
        events := l.events ++ [.called call]
        warnings := l.warnings ++ ["Elasticsearch " ++ what ++ " failed: " ++ fault.message] } := by
    simp [Link.after, exchanges, Exchange.warning?, ha, hp]
  rw [Asks, exec_bind, exec_ask, andThen_ok, ha, orWarn, if_pos hf, exec_bind, warn, exec_modify, hl]
  rfl

theorem Asks.whenConnected {default : α} (hc : l.connected = true) (ha : Asks settings l a calls x) :
    Asks settings l (Client.whenConnected default a) calls x :=
  (exec_whenConnected (exec_connect hc)).trans ha

/-- A loop asks what its rounds ask, and counts what they take. -/
theorem asks_foldlM {f : Value → γ → Action σ Value} (called : γ → List Call) (hP : Steady P) {xs : List γ}
    (hf : ∀ c ∈ xs, ∀ (l : Link σ) (n : Int), Ready P l →
      Asks settings l (f (.int n) c) (called c) (.int (n + taken (called c) l.engine))) (h : Ready P l) (n : Int) :
    Asks settings l (xs.foldlM f (.int n)) (xs.flatMap called) (.int (n + taken (xs.flatMap called) l.engine)) := by
  induction xs generalizing l n with
  | nil =>
      refine asks_of_exec ?_
      rw [List.foldlM_nil, exec_pure, List.flatMap_nil, taken, Int.add_zero]
  | cons c xs ih =>
      have hfirst := hf c List.mem_cons_self l n h
      have hrest := ih (fun d hd => hf d (List.mem_cons_of_mem c hd)) (h.after hP (called c))
        (n + taken (called c) l.engine)
      rw [Int.add_assoc, ← l.taken_append] at hrest
      exact hfirst.bind hrest

theorem asks_told (settings : Settings) (hP : Steady P) (h : Ready P l) {call : Settings → Call} {what : String}
    (hp : (call settings).purpose? = some what) : ∃ done, Asks settings l
      (Client.whenConnected false do
        let answer ← ask (call (← read))
        orWarn answer what false fun _ => pure true) [call settings] done := by
  obtain ⟨done, ha⟩ : ∃ done, Asks settings l
      (ask (call settings) >>= fun answer => orWarn answer what false fun _ => pure true) [call settings] done := by
    have hb := hP.bearable (call settings) l.engine h.engine
    cases ha : (Engine.answer (call settings) l.engine).1 with
    | ok v => exact ⟨true, asks_orWarn_ok ha (asks_of_exec (exec_pure true))⟩
    | error fault =>
        rw [ha] at hb
        exact ⟨false, asks_orWarn_error ha hb hp⟩
  refine ⟨done, Asks.whenConnected h.connected (Asks.behind (x := settings) ?_ exec_read)⟩
  exact ha

theorem asks_cleanIndex (settings : Settings) (hP : Steady P) (h : Ready P l) (store : Int) :
    ∃ done, Asks settings l (Client.cleanIndex (.int store))
      [.deleteByQuery (settings.indexFor defaultEntityType) (Client.selection (.int store) .null)] done :=
  asks_told settings hP h rfl

theorem asks_refreshIndex (settings : Settings) (hP : Steady P) (h : Ready P l) :
    ∃ done, Asks settings l (Client.refreshIndex defaultEntityType) [.refresh (settings.indexFor defaultEntityType)]
      done :=
  asks_told settings hP h rfl

theorem asks_deleteIndex (settings : Settings) (hP : Steady P) (h : Ready P l) :
    ∃ done, Asks settings l Client.deleteIndex [.deleteIndices (settings.indexFor (.text "*"))] done :=
  asks_told settings hP h rfl

theorem asks_addDocuments (settings : Settings) (hP : Steady P) (h : Ready P l) (documents : List Value) :
    Asks settings l (Client.addDocuments (.list documents)) [.bulk documents]
      (.int (taken [.bulk documents] l.engine)) := by
  have hb := hP.bearable (.bulk documents) l.engine h.engine
  refine Asks.whenConnected h.connected (Asks.behind (x := documents) ?_ (exec_ofOutcome _))
  rw [taken, taken, Int.add_zero]
  cases ha : (Engine.answer (.bulk documents) l.engine).1 with
  | error fault =>
      rw [ha] at hb
      exact asks_orWarn_error ha hb rfl
  | ok v =>
      rw [ha] at hb
      obtain ⟨count, errors, rfl, hcount⟩ := hb documents rfl
      refine asks_orWarn_ok ha (asks_of_exec ?_)
      rw [exec_bind, exec_ofOutcome]
      rcases hcount with rfl | ⟨n, rfl⟩
      · rfl
      · have hn : (Value.int n).orElse (.int 0) = .int n := by
          unfold Value.orElse
          split
          · rfl
          · next hz =>
              have hzero : n = 0 := by simpa [Value.truthy] using hz
              rw [hzero]
        exact congrArg (fun v => (Except.ok v, l.after [.bulk documents])) hn

/-- A script with bearable answers only. -/
def Tolerable (script : Script) : Prop :=
  ∀ entry ∈ script, ∀ answer ∈ entry.2, ∀ call : Call, call.method = entry.1 → Bearable call answer

theorem bearable_usual (call : Call) : Bearable call (.ok (Script.usual call)) := by
  rintro documents rfl
  exact ⟨_, _, rfl, .inr ⟨_, rfl⟩⟩

theorem tolerable_next {m : Method} {script rest : Script} {x : Except Fault Value} (h : Tolerable script)
    (hn : Script.next? m script = some (x, rest)) :
    (∀ call : Call, call.method = m → Bearable call x) ∧ Tolerable rest := by
  induction script generalizing x rest with
  | nil => cases hn
  | cons entry script ih =>
      obtain ⟨k, answers⟩ := entry
      have hfirst := h _ List.mem_cons_self
      have hrest : Tolerable script := fun e he => h e (List.mem_cons_of_mem _ he)
      unfold Script.next? at hn
      split at hn
      · next hk =>
          subst hk
          cases answers with
          | nil => cases hn
          | cons a answers =>
              cases hn
              refine ⟨fun call hc => hfirst x List.mem_cons_self call hc, ?_⟩
              refine List.forall_mem_cons.mpr ⟨?_, hrest⟩
              exact fun answer ha => hfirst answer (List.mem_cons_of_mem _ ha)
      · obtain ⟨⟨y, rest'⟩, hy, he⟩ := Option.map_eq_some_iff.mp hn
        cases he
        obtain ⟨hx, hr⟩ := ih hrest hy
        exact ⟨hx, List.forall_mem_cons.mpr ⟨hfirst, hr⟩⟩

theorem steady_script : Steady Tolerable := by
  have hanswer : ∀ (call : Call) (script : Script), Tolerable script →
      Bearable call (Script.answer call script).1 ∧ Tolerable (Script.answer call script).2 := by
    intro call script h
    rw [Script.answer]
    cases hn : Script.next? call.method script with
    | none => exact ⟨bearable_usual call, h⟩
    | some r => exact ⟨(tolerable_next h hn).1 call rfl, (tolerable_next h hn).2⟩
  exact ⟨fun call script h => (hanswer call script h).1, fun call script h => (hanswer call script h).2⟩

end Action

end CatalogSearch.Engine
