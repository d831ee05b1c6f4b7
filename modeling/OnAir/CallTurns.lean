import OnAir.ProducerTurns

/-!
What the calls of a station keep when they are made one at a time.

A call is alone with the attributes of the runtime, while loops, writers and processes take their
turns. Most of its operations are beside the producers: an assertion that survives them survives
whole calls. What is left are the operations that start and terminate producers, and those that
assign them.
-/

namespace OnAir.CallTurns

open Resumption StationRuntime ProducerTurns

variable {s t u : Store} {x k : ℕ} {cfg : Cfg} {α β : Type}

/-- The attribute for the producer of a role. -/
def producerOf (r : Runtime) : Role → Option ℕ
  | .program => r.process
  | .monitor => r.localProcess

def IsKind (s : Store) (x : ℕ) (kind : SinkKind) : Prop :=
  ∃ y, s.sinks[x]? = some y ∧ y.kind = kind

/-- No producer was started and no attribute for one assigned. -/
structure Beside (s t : Store) : Prop where
  registered : t.runtime.registered = s.runtime.registered
  attributes : producerOf t.runtime = producerOf s.runtime
  generation : t.runtime.playoutGeneration = s.runtime.playoutGeneration
  length : t.producers.length = s.producers.length
  producers : ∀ (k : ℕ) (p' : Producer), t.producers[k]? = some p' → ∃ p,
    s.producers[k]? = some p ∧ p'.role = p.role ∧ p'.output = p.output ∧
      (p'.alive = true → p.alive = true)
  sinks : ∀ x kind, IsKind s x kind → IsKind t x kind
  loops : ∀ l' ∈ t.loops, ∃ l ∈ s.loops, l'.generation = l.generation

structure Apart (s t : Store) : Prop extends Beside s t where
  activeCfg : t.runtime.activeCfg = s.runtime.activeCfg

/-- What the threads and the processes do. -/
structure Others (s t : Store) : Prop extends Beside s t where
  runtime : t.runtime = s.runtime
  clean : t.clean = s.clean

lemma Beside.refl (s : Store) : Beside s s :=
  ⟨rfl, rfl, rfl, rfl, fun _ p hp => ⟨p, hp, rfl, rfl, id⟩, fun _ _ h => h,
    fun l hl => ⟨l, hl, rfl⟩⟩

lemma Others.refl (s : Store) : Others s s := ⟨.refl s, rfl, rfl⟩

lemma Beside.trans (h : Beside s t) (h' : Beside t u) : Beside s u where
  registered := h'.registered.trans h.registered
  attributes := h'.attributes.trans h.attributes
  generation := h'.generation.trans h.generation
  length := h'.length.trans h.length
  producers k p'' hp'' := by
    obtain ⟨p', hp', hrole', hout', halive'⟩ := h'.producers k p'' hp''
    obtain ⟨p, hp, hrole, hout, halive⟩ := h.producers k p' hp'
    exact ⟨p, hp, hrole'.trans hrole, hout'.trans hout, halive ∘ halive'⟩
  sinks x kind hk := h'.sinks x kind (h.sinks x kind hk)
  loops l'' hl'' := by
    obtain ⟨l', hl', hgen'⟩ := h'.loops l'' hl''
    obtain ⟨l, hl, hgen⟩ := h.loops l' hl'
    exact ⟨l, hl, hgen'.trans hgen⟩

lemma Others.trans (h : Others s t) (h' : Others t u) : Others s u :=
  ⟨h.toBeside.trans h'.toBeside, h'.runtime.trans h.runtime, h'.clean.trans h.clean⟩

lemma Others.apart (h : Others s t) : Apart s t := ⟨h.toBeside, congrArg _ h.runtime⟩

abbrev Does (P : Store → Prop) (p : Program α) (Q : α → Store → Prop)
    (E : Raised → Store → Prop) : Prop :=
  Triple run Orderly Others P p Q E

variable {P : Store → Prop} {Q : α → Store → Prop} {R : β → Store → Prop}
  {E : Raised → Store → Prop}

lemma stable_apart (h : Stable Beside P) : Stable Apart P := fun s t ht => h s t ht.toBeside

lemma stable_others (h : Stable Apart P) : Stable Others P := fun s t ht => h s t ht.apart

lemma stable_and {P' : Store → Prop} {others : Store → Store → Prop} (h : Stable others P)
    (h' : Stable others P') : Stable others fun s => P s ∧ P' s :=
  fun s t ht hs => ⟨h s t ht hs.1, h' s t ht hs.2⟩

lemma stable_isKind {kind : SinkKind} : Stable Beside fun s => IsKind s x kind :=
  fun _ _ ht hs => ht.sinks _ _ hs

/-! ### Operations beside the producers -/

lemma then_does {p : Program α} {f : α → Program β} (h : Does P p Q E)
    (hf : ∀ a, Does (Q a) (f a) R E) : Does P (p >>= f) R E :=
  h.bind Others.refl hf

lemma catch_does {F : Raised → Store → Prop} {p : Program α} {handler : Raised → Program α}
    (h : Does P p Q F) (hf : ∀ e, Does (F e) (handler e) Q E) : Does P (p.tryCatch handler) Q E :=
  h.tryCatch Others.refl hf

lemma pure_does {a : α} (hP : Stable Apart P) (h : ∀ s, P s → Q a s) :
    Does P (pure a) Q E := Triple.pure (stable_others hP) h

lemma raise_does {e : Raised} (hP : Stable Apart P) (h : ∀ s, P s → E e s) :
    Does P (.raise e : Program α) Q E := Triple.raise (stable_others hP) h

lemma weaken_does {p : Program α} {Q' : α → Store → Prop} (h : Does P p Q E)
    (hQ : ∀ a s, Q a s → Q' a s) : Does P p Q' E :=
  h.conseq (fun _ hs => hs) hQ fun _ _ hs => hs

/-- An operation that is beside the producers keeps what is stable. -/
lemma perform_does {o : Op α} (hP : Stable Apart P)
    (hop : ∀ s w a u, Orderly s → P s → run o w s = some (a, u) → Orderly u ∧ Apart s u) :
    Does P (perform o) (fun _ => P) E := by
  have hP' := stable_others hP
  refine Triple.perform hP' (fun _ => hP') fun s w a u hinv hs hrun => ?_
  obtain ⟨hu, hapart⟩ := hop s w a u hinv hs hrun
  exact ⟨hu, hP s u hapart hs⟩

lemma ask_does (hP : Stable Apart P) : Does P ask (fun _ => P) E :=
  perform_does hP fun s w a u hinv _ hrun => by
    obtain ⟨-, rfl⟩ := Prod.mk.inj (Option.some.inj hrun)
    exact ⟨hinv, .refl s, rfl⟩

lemma isAlive_does (hP : Stable Apart P) : Does P (perform (.isAlive k)) (fun _ => P) E :=
  perform_does hP fun s w a u hinv _ hrun => by
    obtain ⟨-, rfl⟩ := Prod.mk.inj (Option.some.inj hrun)
    exact ⟨hinv, .refl s, rfl⟩

/-- The sinks that the runtime names are of their kinds. -/
structure Names (r : Runtime) (s : Store) : Prop where
  icecast : ∀ x, r.icecastSink = some x → IsKind s x .icecast
  localSink : ∀ x, r.localSink = some x → IsKind s x .local

lemma stable_names {r : Runtime} : Stable Beside (Names r) := fun _ _ ht hs =>
  ⟨fun x hx => ht.sinks _ _ (hs.icecast x hx), fun x hx => ht.sinks _ _ (hs.localSink x hx)⟩

/-- The attributes are read in a state in which the assertion holds. -/
lemma getNames_does {f : Runtime → Program β} (hP : Stable Others P)
    (hf : ∀ s₀, P s₀ → Does (fun s => P s ∧ Names s₀.runtime s) (f s₀.runtime) R E) :
    Does P (get >>= f) R E := by
  intro s hs t ht hinv w r u hrun
  obtain ⟨rfl, rfl⟩ := Prod.mk.inj (Option.some.inj hrun)
  have hread := hP s t ht hs
  exact ⟨hinv, hf t hread t ⟨hread, hinv.icecast, hinv.localSink⟩⟩

lemma get_does {f : Runtime → Program β} (hP : Stable Others P)
    (hf : ∀ s₀, P s₀ → Does P (f s₀.runtime) R E) : Does P (get >>= f) R E :=
  getNames_does hP fun s₀ hs₀ =>
    (hf s₀ hs₀).conseq (fun _ h => h.1) (fun _ _ h => h) fun _ _ h => h

/-- An assignment to attributes that are not about producers. -/
structure Sets (r r' : Runtime) : Prop where
  registered : r'.registered = r.registered
  attributes : producerOf r' = producerOf r
  generation : r'.playoutGeneration = r.playoutGeneration
  icecastSink : r'.icecastSink = r.icecastSink ∨ r'.icecastSink = none
  localSink : r'.localSink = r.localSink ∨ r'.localSink = none

lemma Sets.inv {f : Runtime → Runtime} (h : Sets s.runtime (f s.runtime)) (hinv : Orderly s) :
    Orderly { s with runtime := f s.runtime } := by
  refine inv_set hinv (fun x hx => ?_) (fun x hx => ?_) (.inl h.generation)
  · rcases h.icecastSink with heq | heq
    · exact hinv.icecast x (heq ▸ hx)
    · rw [heq] at hx
      cases hx
  · rcases h.localSink with heq | heq
    · exact hinv.localSink x (heq ▸ hx)
    · rw [heq] at hx
      cases hx

lemma Sets.beside {f : Runtime → Runtime} (h : Sets s.runtime (f s.runtime)) :
    Beside s { s with runtime := f s.runtime } :=
  ⟨h.registered, h.attributes, h.generation, rfl, fun _ p hp => ⟨p, hp, rfl, rfl, id⟩,
    fun _ _ hk => hk, fun l hl => ⟨l, hl, rfl⟩⟩

lemma set_does {f : Runtime → Runtime} (hP : Stable Apart P) (hf : ∀ r, Sets r (f r))
    (hcfg : ∀ r, (f r).activeCfg = r.activeCfg) : Does P (set f) (fun _ => P) E :=
  perform_does hP fun s w a u hinv _ hrun => by
    obtain ⟨-, rfl⟩ := Prod.mk.inj (Option.some.inj hrun)
    exact ⟨(hf _).inv hinv, (hf _).beside, hcfg _⟩

/-- An assignment after which something else holds. -/
lemma assign_does {f : Runtime → Runtime} {P' : Store → Prop} (hP : Stable Others P)
    (hP' : Stable Others P')
    (hf : ∀ s, Orderly s → P s → Orderly { s with runtime := f s.runtime } ∧
      P' { s with runtime := f s.runtime }) : Does P (set f) (fun _ => P') E :=
  Triple.perform hP (fun _ => hP') fun s w a u hinv hs hrun => by
    obtain ⟨-, rfl⟩ := Prod.mk.inj (Option.some.inj hrun)
    exact hf s hinv hs

lemma setSink_apart {f : Sink → Sink} (hf : ∀ y, Keeps y (f y)) : Apart s (setSink s x f) :=
  ⟨⟨rfl, rfl, rfl, rfl, fun _ p hp => ⟨p, hp, rfl, rfl, id⟩,
    fun _ _ hk => keeps_kind (fun y _ => hf y) hk, fun l hl => ⟨l, hl, rfl⟩⟩, rfl⟩

lemma setSink_does {f : Sink → Sink} (hP : Stable Apart P) (hf : ∀ y, Keeps y (f y)) :
    Does P (perform (.setSink x f)) (fun _ => P) E :=
  perform_does hP fun s w a u hinv _ hrun => by
    obtain ⟨-, rfl⟩ := Prod.mk.inj (Option.some.inj hrun)
    exact ⟨inv_setSink hinv fun y _ => hf y, setSink_apart hf⟩

lemma getSink_does (hP : Stable Apart P) : Does P (perform (.getSink x)) (fun _ => P) E :=
  perform_does hP fun s w a u hinv _ hrun => by
    obtain ⟨-, rfl⟩ := Prod.mk.inj (Option.some.inj hrun)
    exact ⟨hinv, .refl s, rfl⟩

lemma newSink_does {kind : SinkKind} (hP : Stable Apart P) :
    Does P (perform (.newSink kind)) (fun x s => P s ∧ IsKind s x kind) E :=
  Triple.perform (stable_others hP)
    (fun _ => stable_others (stable_and hP (stable_apart stable_isKind)))
    fun s w a u hinv hs hrun => by
      obtain ⟨rfl, rfl⟩ := Prod.mk.inj (Option.some.inj hrun)
      refine ⟨inv_newSink hinv kind, hP s _ ⟨⟨rfl, rfl, rfl, rfl,
        fun _ p hp => ⟨p, hp, rfl, rfl, id⟩, fun z kind' hk => ?_, fun l hl => ⟨l, hl, rfl⟩⟩, rfl⟩
        hs, ?_⟩
      · obtain ⟨y, hy, hkind⟩ := hk
        exact ⟨y, lookup_old _ hy, hkind⟩
      · exact ⟨_, List.getElem?_concat_length, rfl⟩

lemma spawnSink_does (hP : Stable Apart P) :
    Does P (throwing (.spawnSink x)) (fun _ => P) (fun _ => P) := by
  refine then_does (Q := fun _ => P) (perform_does hP fun s w a u hinv _ hrun => ?_) fun r => ?_
  · cases w with
    | ok =>
      obtain ⟨-, rfl⟩ := Prod.mk.inj (Option.some.inj hrun)
      have hf : ∀ y : Sink, Keeps y
          { y with process := some y.starts, alive := true, starts := y.starts + 1 } :=
        fun y => ⟨rfl, rfl, .refl _⟩
      exact ⟨inv_setSink hinv fun y _ => hf y, setSink_apart hf⟩
    | missing =>
      obtain ⟨-, rfl⟩ := Prod.mk.inj (Option.some.inj hrun)
      exact ⟨hinv, .refl s, rfl⟩
    | failed =>
      obtain ⟨-, rfl⟩ := Prod.mk.inj (Option.some.inj hrun)
      exact ⟨hinv, .refl s, rfl⟩
  · cases r with
    | ok a => exact pure_does hP fun _ h => h
    | error e => exact raise_does hP fun _ h => h

lemma startWriter_does (hP : Stable Apart P) (hkind : ∀ s, P s → IsKind s x .icecast) :
    Does P (perform (.startWriter x)) (fun _ => P) E :=
  perform_does hP fun s w a u hinv hs hrun => by
    obtain ⟨-, rfl⟩ := Prod.mk.inj (Option.some.inj hrun)
    exact ⟨inv_startWriter hinv (hkind s hs), ⟨rfl, rfl, rfl, rfl,
      fun _ p hp => ⟨p, hp, rfl, rfl, id⟩, fun _ _ hk => hk, fun l hl => ⟨l, hl, rfl⟩⟩, rfl⟩

/-! ### Sinks -/

lemma stopSink_does (hP : Stable Apart P) : Does P (stopSink x) (fun _ => P) E := by
  refine then_does (setSink_does hP fun y => ⟨rfl, rfl, .refl _⟩) fun _ => ?_
  refine then_does (setSink_does hP fun y => ⟨rfl, rfl, .refl _⟩) fun _ => ?_
  exact setSink_does hP fun y => ⟨rfl, rfl, List.nil_sublist _⟩

lemma startIcecastSink_does (hP : Stable Apart P) (hkind : ∀ s, P s → IsKind s x .icecast) :
    Does P (startIcecastSink x cfg) (fun _ => P) (fun _ => P) := by
  refine then_does (ask_does hP) fun mountHealthy => ?_
  refine then_does (getSink_does hP) fun y => ?_
  split
  · exact pure_does hP fun _ h => h
  · refine then_does (stopSink_does hP) fun _ => ?_
    refine then_does (spawnSink_does hP) fun _ => ?_
    refine then_does (ask_does hP) fun exited => ?_
    split
    · refine then_does (setSink_does hP fun y => ⟨rfl, rfl, .refl _⟩) fun _ => ?_
      exact raise_does hP fun _ h => h
    · refine then_does (setSink_does hP fun y => ⟨rfl, rfl, .refl _⟩) fun _ => ?_
      refine then_does (setSink_does hP fun y => ⟨rfl, rfl, .refl _⟩) fun _ => ?_
      refine then_does (setSink_does hP fun y => ⟨rfl, rfl, List.nil_sublist _⟩) fun _ => ?_
      exact startWriter_does hP hkind

lemma stopLocalSink_does (hP : Stable Apart P) : Does P (stopLocalSink x) (fun _ => P) E :=
  setSink_does hP fun _ => ⟨rfl, rfl, .refl _⟩

lemma startLocalSink_does (hP : Stable Apart P) :
    Does P (startLocalSink x) (fun _ => P) (fun _ => P) := by
  refine then_does (getSink_does hP) fun y => ?_
  split
  · exact pure_does hP fun _ h => h
  · exact then_does (stopLocalSink_does hP) fun _ => spawnSink_does hP

/-- A sink is put into an attribute of the runtime. -/
lemma assignSink_does {f : Runtime → Runtime} (hP : Stable Apart P) (hf : ∀ r,
    producerOf (f r) = producerOf r ∧ (f r).registered = r.registered ∧
      (f r).playoutGeneration = r.playoutGeneration ∧ (f r).activeCfg = r.activeCfg)
    (hnames : ∀ s, Orderly s → P s → Names (f s.runtime) s) : Does P (set f) (fun _ => P) E := by
  refine perform_does hP fun s w a u hinv hs hrun => ?_
  obtain ⟨-, rfl⟩ := Prod.mk.inj (Option.some.inj hrun)
  obtain ⟨hattributes, hregistered, hgeneration, hcfg⟩ := hf s.runtime
  have hn := hnames s hinv hs
  exact ⟨inv_set hinv hn.icecast hn.localSink (.inl hgeneration), ⟨hregistered, hattributes,
    hgeneration, rfl, fun _ p hp => ⟨p, hp, rfl, rfl, id⟩, fun _ _ hk => hk,
    fun l hl => ⟨l, hl, rfl⟩⟩, hcfg⟩

lemma newIcecastSink_does (hP : Stable Apart P) : Does P newIcecastSink (fun _ => P) E := by
  refine get_does (stable_others hP) fun s₀ _ => ?_
  split
  · refine then_does (newSink_does hP) fun x => ?_
    have hPx : Stable Apart fun s => P s ∧ IsKind s x .icecast :=
      stable_and hP (stable_apart stable_isKind)
    refine weaken_does (assignSink_does hPx (fun _ => ⟨rfl, rfl, rfl, rfl⟩) fun s hinv hs => ?_)
      fun _ _ h => h.1
    exact ⟨fun z hz => Option.some.inj hz ▸ hs.2, hinv.localSink⟩
  · exact pure_does hP fun _ h => h

lemma ensureIcecastSink_does (hP : Stable Apart P) :
    Does P (ensureIcecastSink cfg) (fun _ => P) E := by
  refine get_does (stable_others hP) fun _ _ => ?_
  split
  · exact pure_does hP fun _ h => h
  · refine then_does (newIcecastSink_does hP) fun _ => ?_
    refine getNames_does (stable_others hP) fun s₀ _ => ?_
    have hPn := stable_and hP (stable_apart (stable_names (r := s₀.runtime)))
    split
    · exact pure_does hPn fun _ h => h.1
    · next x hx =>
        refine catch_does (F := fun _ => P) ?_ fun _ => pure_does hP fun _ h => h
        have hstart : Does (fun s => P s ∧ Names s₀.runtime s) (startIcecastSink x cfg)
            (fun _ => P) (fun _ => P) :=
          (startIcecastSink_does hPn fun s h => h.2.icecast x hx).conseq (fun _ h => h)
            (fun _ _ h => h.1) fun _ _ h => h.1
        exact then_does hstart fun _ => pure_does hP fun _ h => h

lemma dropRenamedSink_does (hP : Stable Apart P) (renamed : Bool) :
    Does P (dropRenamedSink renamed) (fun _ => P) E := by
  refine get_does (stable_others hP) fun s₀ _ => ?_
  split
  · split
    · refine then_does (stopLocalSink_does hP) fun _ => ?_
      exact set_does hP (fun _ => ⟨rfl, rfl, rfl, .inl rfl, .inr rfl⟩) fun _ => rfl
    · exact pure_does hP fun _ h => h
  · exact pure_does hP fun _ h => h

lemma newLocalSink_does (hP : Stable Apart P) : Does P newLocalSink (fun _ => P) E := by
  refine get_does (stable_others hP) fun s₀ _ => ?_
  split
  · refine then_does (newSink_does hP) fun x => ?_
    have hPx : Stable Apart fun s => P s ∧ IsKind s x .local :=
      stable_and hP (stable_apart stable_isKind)
    refine weaken_does (assignSink_does hPx (fun _ => ⟨rfl, rfl, rfl, rfl⟩) fun s hinv hs => ?_)
      fun _ _ h => h.1
    exact ⟨hinv.icecast, fun z hz => Option.some.inj hz ▸ hs.2⟩
  · exact pure_does hP fun _ h => h

lemma ensureLocalSink_does (hP : Stable Apart P) :
    Does P (ensureLocalSink cfg) (fun _ => P) (fun _ => P) := by
  refine get_does (stable_others hP) fun _ _ => ?_
  split
  · exact pure_does hP fun _ h => h
  · refine then_does (ask_does hP) fun renamed => ?_
    refine then_does (dropRenamedSink_does hP renamed) fun _ => ?_
    refine then_does (newLocalSink_does hP) fun _ => ?_
    refine get_does (stable_others hP) fun s₀ _ => ?_
    split
    · exact pure_does hP fun _ h => h
    · refine catch_does (F := fun _ => P) ?_ fun e => ?_
      · exact then_does (startLocalSink_does hP) fun _ => pure_does hP fun _ h => h
      · cases e with
        | missing => exact pure_does hP fun _ h => h
        | failed => exact raise_does hP fun _ h => h

lemma releaseIcecastSink_does (hP : Stable Apart P) (keep : Bool) :
    Does P (releaseIcecastSink keep) (fun _ => P) E := by
  refine get_does (stable_others hP) fun s₀ _ => ?_
  split
  · exact pure_does hP fun _ h => h
  · split
    · exact pure_does hP fun _ h => h
    · refine then_does (stopSink_does hP) fun _ => ?_
      exact set_does hP (fun _ => ⟨rfl, rfl, rfl, .inr rfl, .inl rfl⟩) fun _ => rfl

lemma releaseLocalSink_does (hP : Stable Apart P) (keep : Bool) :
    Does P (releaseLocalSink keep) (fun _ => P) E := by
  refine get_does (stable_others hP) fun s₀ _ => ?_
  split
  · exact pure_does hP fun _ h => h
  · split
    · exact pure_does hP fun _ h => h
    · refine then_does (stopLocalSink_does hP) fun _ => ?_
      exact set_does hP (fun _ => ⟨rfl, rfl, rfl, .inl rfl, .inr rfl⟩) fun _ => rfl

lemma stopSinks_does (hP : Stable Apart P) : Does P stopSinks (fun _ => P) E :=
  then_does (releaseIcecastSink_does hP false) fun _ => releaseLocalSink_does hP false

lemma releaseDisabledSinks_does (hP : Stable Apart P) :
    Does P (releaseDisabledSinks cfg) (fun _ => P) E :=
  then_does (releaseIcecastSink_does hP _) fun _ => releaseLocalSink_does hP _

/-- The pipe of a sink, if the runtime has that sink and it has a process. -/
lemma sinkStdin_does {sink : Option ℕ} {kind : SinkKind} (hP : Stable Apart P)
    (hkind : ∀ x, sink = some x → ∀ s, P s → IsKind s x kind) :
    Does P (sinkStdin sink)
      (fun output s => P s ∧ ∃ x run, output = .sink x run ∧ IsKind s x kind) (fun _ => P) := by
  unfold sinkStdin
  split
  · exact raise_does hP fun _ h => h
  · next x =>
      refine then_does (getSink_does hP) fun y => ?_
      split
      · exact raise_does hP fun _ h => h
      · next run _ => exact pure_does hP fun s h => ⟨h, x, run, rfl, hkind x rfl s h⟩

/-! ### Producers -/

/-- Producers are alive only as `held` for their roles, the attributes name the producers `named`,
and no producer has the pipe of a sink of a kind that is `free`. -/
structure At (held named : Role → Option ℕ) (free : SinkKind → Prop) (s : Store) : Prop where
  registered : s.runtime.registered = true
  attributes : producerOf s.runtime = named
  alive : ∀ (k : ℕ) (p : Producer), s.producers[k]? = some p → p.alive = true →
    held p.role = some k
  free : ∀ kind, free kind → ∀ (k : ℕ) (p : Producer) (x run : ℕ), s.producers[k]? = some p →
    p.alive = true → p.output = .sink x run → ∃ other, other ≠ kind ∧ IsKind s x other

variable {held named : Role → Option ℕ} {free free' : SinkKind → Prop} {role : Role} {n : ℕ}

lemma stable_at : Stable Beside (At held named free) := by
  intro s t ht h
  refine ⟨ht.registered.trans h.registered, ht.attributes.trans h.attributes,
    fun k p' hp' halive => ?_, fun kind hfree k p' x run hp' halive hout => ?_⟩
  · obtain ⟨p, hp, hrole, -, hbefore⟩ := ht.producers k p' hp'
    rw [hrole]
    exact h.alive k p hp (hbefore halive)
  · obtain ⟨p, hp, -, hout', hbefore⟩ := ht.producers k p' hp'
    obtain ⟨other, hne, hkind⟩ :=
      h.free kind hfree k p x run hp (hbefore halive) (hout'.symm.trans hout)
    exact ⟨other, hne, ht.sinks x other hkind⟩

lemma stable_length : Stable Beside fun s => s.producers.length = n :=
  fun _ _ ht hs => ht.length.trans hs

/-- Every loop is of an earlier generation. -/
def Fresh (s : Store) : Prop := ∀ l ∈ s.loops, l.generation < s.runtime.playoutGeneration

lemma stable_fresh : Stable Beside Fresh := by
  intro s t ht h l' hl'
  obtain ⟨l, hl, hgen⟩ := ht.loops l' hl'
  rw [hgen, ht.generation]
  exact h l hl

lemma At.mono (h : At held named free s) (hfree : ∀ kind, free' kind → free kind) :
    At held named free' s :=
  ⟨h.registered, h.attributes, h.alive, fun kind hk => h.free kind (hfree kind hk)⟩

lemma IsKind.unique {kind kind' : SinkKind} (h : IsKind s x kind) (h' : IsKind s x kind') :
    kind = kind' := by
  obtain ⟨y, hy, rfl⟩ := h
  obtain ⟨y', hy', rfl⟩ := h'
  rw [Option.some.inj (hy.symm.trans hy')]

lemma At.noSink (h : At held named (fun _ => True) s) {p : Producer} {run : ℕ}
    (hp : s.producers[k]? = some p) (halive : p.alive = true) : p.output ≠ .sink x run := by
  intro hout
  obtain ⟨other, -, hkind⟩ := h.free .icecast trivial k p x run hp halive hout
  obtain ⟨other', hne, hkind'⟩ := h.free other trivial k p x run hp halive hout
  exact hne (hkind'.unique hkind)

/-- No producer is alive, and the attributes name none. -/
abbrev Idle : Store → Prop := At (fun _ => none) (fun _ => none) fun _ => True

/-- When nobody is alive, all sinks are free. -/
lemma At.idle (h : At (fun _ => none) (fun _ => none) free s) : Idle s :=
  ⟨h.registered, h.attributes, h.alive, fun _ _ k p _ _ hp halive => by
    cases h.alive k p hp halive⟩

/-- The producers that are alive are those the attributes name. -/
def Owned (s : Store) : Prop := ∃ held, At held held (fun _ => False) s

lemma At.owned (h : At held held free s) : Owned s := ⟨held, h.mono fun _ hf => hf.elim⟩

lemma Idle.owned (h : Idle s) : Owned s := At.owned h

lemma stable_owned : Stable Beside Owned := fun s t ht ⟨held, h⟩ => ⟨held, stable_at s t ht h⟩

/-- An assignment to attributes that are not about producers, `_active_cfg` among them. -/
lemma setCfg_does {f : Runtime → Runtime} (hP : Stable Beside P) (hf : ∀ r, Sets r (f r)) :
    Does P (set f) (fun _ => P) E :=
  have hP' := stable_others (stable_apart hP)
  assign_does hP' hP' fun s hinv hs => ⟨(hf _).inv hinv, hP s _ (hf _).beside hs⟩

lemma nextPlayoutGeneration_does :
    Does (fun s => At held named free s ∧ s.producers.length = n) nextPlayoutGeneration
      (fun _ s => (At held named free s ∧ s.producers.length = n) ∧ Fresh s) E := by
  have hP : Stable Beside fun s => At held named free s ∧ s.producers.length = n :=
    stable_and stable_at stable_length
  refine assign_does (stable_others (stable_apart hP))
    (stable_others (stable_apart (stable_and hP stable_fresh))) fun s hinv hs => ⟨?_, ?_, ?_⟩
  · exact inv_set (f := fun r => { r with playoutGeneration := r.playoutGeneration + 1 }) hinv
      hinv.icecast hinv.localSink (.inr (Nat.lt_succ_self _))
  · obtain ⟨h, hlength⟩ := hs
    exact ⟨⟨h.registered, h.attributes, h.alive, h.free⟩, hlength⟩
  · exact fun l hl => Nat.lt_succ_of_le (hinv.generations l hl)

/-! ### Programs that start and end producers -/

lemma terminate_does (hheld : held role = some k) :
    Does (At held named free) (perform (.terminate k))
      (fun _ => At (Function.update held role none) named free) E := by
  refine Triple.perform (stable_others (stable_apart stable_at))
    (fun _ => stable_others (stable_apart stable_at)) fun s w a u hinv h hrun => ?_
  obtain ⟨-, rfl⟩ := Prod.mk.inj (Option.some.inj hrun)
  refine ⟨inv_terminate hinv k, h.registered, h.attributes, fun j p' hp' halive => ?_,
    fun kind hfree j p' x run hp' halive hout => ?_⟩
  · obtain ⟨p, hp, hrole, -, hbefore⟩ := lookup_terminate hp'
    obtain ⟨halive', hne⟩ := hbefore halive
    have hj := h.alive j p hp halive'
    have hother : p.role ≠ role := by
      rintro rfl
      exact hne (Option.some.inj (hheld.symm.trans hj))
    rw [hrole, Function.update_of_ne hother]
    exact hj
  · obtain ⟨p, hp, -, hout', hbefore⟩ := lookup_terminate hp'
    exact h.free kind hfree j p x run hp (hbefore halive).1 (hout'.symm.trans hout)

lemma terminateProcess_does (role : Role) :
    Does (At held named free) (terminateProcess (held role))
      (fun _ => At (Function.update held role none) named free) E := by
  cases hheld : held role with
  | none =>
    refine pure_does (stable_apart stable_at) fun s h => ?_
    rw [← hheld, Function.update_eq_self]
    exact h
  | some k => exact terminate_does hheld

/-- The producer of a role is assigned. -/
structure Assigns (role : Role) (new : Option ℕ) (r r' : Runtime) : Prop where
  registered : r'.registered = r.registered
  attributes : producerOf r' = Function.update (producerOf r) role new
  generation : r'.playoutGeneration = r.playoutGeneration
  icecastSink : r'.icecastSink = r.icecastSink
  localSink : r'.localSink = r.localSink

lemma assigns_process (new : Option ℕ) (r : Runtime) :
    Assigns .program new r { r with process := new } :=
  ⟨rfl, funext fun role => by cases role <;> rfl, rfl, rfl, rfl⟩

lemma assigns_localProcess (new : Option ℕ) (r : Runtime) :
    Assigns .monitor new r { r with localProcess := new } :=
  ⟨rfl, funext fun role => by cases role <;> rfl, rfl, rfl, rfl⟩

lemma setLast_does {f : Runtime → Runtime} {new : Option ℕ}
    (hf : ∀ r, Assigns role new r (f r)) :
    Does (fun s => At held named free s ∧ s.producers.length = n) (set f)
      (fun _ s => At held (Function.update named role new) free s ∧ s.producers.length = n) E := by
  refine assign_does (stable_others (stable_apart (stable_and stable_at stable_length)))
    (stable_others (stable_apart (stable_and stable_at stable_length))) fun s hinv hs => ?_
  obtain ⟨h, hlength⟩ := hs
  have hassigns := hf s.runtime
  refine ⟨inv_set hinv ?_ ?_ (.inl hassigns.generation),
    ⟨hassigns.registered.trans h.registered, ?_, h.alive, h.free⟩, hlength⟩
  · rw [hassigns.icecastSink]
    exact hinv.icecast
  · rw [hassigns.localSink]
    exact hinv.localSink
  · exact hassigns.attributes.trans (by rw [h.attributes])

lemma setNamed_does {f : Runtime → Runtime} {new : Option ℕ}
    (hf : ∀ r, Assigns role new r (f r)) :
    Does (At held named free) (set f)
      (fun _ => At held (Function.update named role new) free) E := fun s h =>
  (setLast_does hf s ⟨h, rfl⟩).mono (fun _ _ h => h.1) fun _ _ h => h

lemma stopLiveMixWorker_does (hP : Stable Apart P) :
    Does P stopLiveMixWorker (fun _ => P) E :=
  then_does (set_does hP (fun _ => ⟨rfl, rfl, rfl, .inl rfl, .inl rfl⟩) fun _ => rfl) fun _ =>
    set_does hP (fun _ => ⟨rfl, rfl, rfl, .inl rfl, .inl rfl⟩) fun _ => rfl

lemma stopIcecastPipeWorker_does (hP : Stable Apart P) :
    Does P stopIcecastPipeWorker (fun _ => P) E :=
  then_does (set_does hP (fun _ => ⟨rfl, rfl, rfl, .inl rfl, .inl rfl⟩) fun _ => rfl) fun _ =>
    set_does hP (fun _ => ⟨rfl, rfl, rfl, .inl rfl, .inl rfl⟩) fun _ => rfl

/-- `_stop_producers`, when the attributes name the producers that are alive. -/
lemma stopProducers_does :
    Does (At held held free) stopProducers
      (fun _ s => Idle s ∧ s.runtime.activeCfg = none) E := by
  have hat : ∀ {held named}, Stable Apart (At held named free) := stable_apart stable_at
  have hadvance : Does (At held held free) nextPlayoutGeneration (fun _ => At held held free) E :=
    fun s h => (nextPlayoutGeneration_does s ⟨h, rfl⟩).mono (fun _ _ h => h.1.1) fun _ _ h => h
  refine then_does hadvance fun _ => ?_
  refine then_does (stopLiveMixWorker_does hat) fun _ => ?_
  refine then_does (stopIcecastPipeWorker_does hat) fun _ => ?_
  refine get_does (stable_others hat) fun s₀ h₀ => ?_
  have hmonitor : s₀.runtime.localProcess = held .monitor := congrFun h₀.attributes .monitor
  rw [hmonitor]
  refine then_does (terminateProcess_does .monitor) fun _ => ?_
  refine then_does (setNamed_does (assigns_localProcess none)) fun _ => ?_
  refine get_does (stable_others hat) fun s₁ h₁ => ?_
  have hprogram : s₁.runtime.process = Function.update held .monitor none .program :=
    congrFun h₁.attributes .program
  rw [hprogram]
  refine then_does (terminateProcess_does .program) fun _ => ?_
  refine then_does (setNamed_does (assigns_process none)) fun _ => ?_
  have hnone : Function.update (Function.update held .monitor none) .program none = fun _ => none :=
    funext fun role => by cases role <;> rfl
  rw [hnone]
  refine then_does (set_does hat (fun _ => ⟨rfl, rfl, rfl, .inl rfl, .inl rfl⟩) fun _ => rfl)
    fun _ => ?_
  refine then_does (set_does hat (fun _ => ⟨rfl, rfl, rfl, .inl rfl, .inl rfl⟩) fun _ => rfl)
    fun _ => ?_
  refine assign_does (stable_others hat) (fun s t ht h => ⟨stable_at s t ht.toBeside h.1, ?_⟩)
    fun s hinv h => ⟨?_, ⟨h.registered, h.attributes, h.alive, h.idle.free⟩, rfl⟩
  · rw [ht.runtime]
    exact h.2
  · exact Sets.inv (f := fun r => { r with activeCfg := none })
      ⟨rfl, rfl, rfl, .inl rfl, .inl rfl⟩ hinv

lemma aliveOnes_does (hP : Stable Apart P) (ks : List ℕ) :
    Does P (aliveOnes ks) (fun _ => P) E := by
  induction ks with
  | nil => exact pure_does hP fun _ h => h
  | cons k ks ih =>
    refine then_does (isAlive_does hP) fun alive => ?_
    exact then_does ih fun rest => pure_does hP fun _ h => h

/-- A producer is held for a role that nobody had, and takes the pipe of a sink if that is free. -/
lemma spawn_does {output : Output} {kind : SinkKind} (hheld : held role = none) :
    Does (fun s => At held named free s ∧ ∀ x run, output = .sink x run →
        free kind ∧ IsKind s x kind)
      (throwing (.spawn role output))
      (fun k s => At (Function.update held role (some k)) named
          (fun kind' => free kind' ∧ ((∃ x run, output = .sink x run) → kind' ≠ kind)) s ∧
        s.producers.length = k + 1)
      fun _ => At held named free := by
  have hP : Stable Others fun s => At held named free s ∧ ∀ x run, output = .sink x run →
      free kind ∧ IsKind s x kind := fun s t ht hs =>
    ⟨stable_at s t ht.toBeside hs.1, fun x run hout =>
      ⟨(hs.2 x run hout).1, ht.sinks x kind (hs.2 x run hout).2⟩⟩
  have hpost : ∀ k, Stable Apart fun s => At (Function.update held role (some k)) named
      (fun kind' => free kind' ∧ ((∃ x run, output = .sink x run) → kind' ≠ kind)) s ∧
        s.producers.length = k + 1 := fun k => stable_apart (stable_and stable_at stable_length)
  refine then_does (Q := fun r s => match r with
    | .ok k => At (Function.update held role (some k)) named
        (fun kind' => free kind' ∧ ((∃ x run, output = .sink x run) → kind' ≠ kind)) s ∧
          s.producers.length = k + 1
    | .error _ => At held named free s) (Triple.perform hP (fun r => ?_) ?_) fun r => ?_
  · cases r with
    | ok k => exact stable_others (hpost k)
    | error e => exact stable_others (stable_apart stable_at)
  · rintro s w r u hinv ⟨h, hsink⟩ hrun
    cases w with
    | ok =>
      obtain ⟨rfl, rfl⟩ := Prod.mk.inj (Option.some.inj hrun)
      refine ⟨inv_spawn hinv role (fun x run hout => ?_)
        (fun x run hout j q run' hq hqa hqo => ?_) fun hclean => ?_,
        ⟨h.registered, h.attributes, fun k p hp halive => ?_,
          fun kind' hk k p x run hp halive hout => ?_⟩, List.length_append⟩
      · obtain ⟨y, hy, -⟩ := (hsink x run hout).2
        exact (List.getElem?_eq_some_iff.mp hy).1
      · obtain ⟨hfree, hkind⟩ := hsink x run hout
        obtain ⟨other, hne, hother⟩ := h.free kind hfree j q x run' hq hqa hqo
        exact hne (hother.unique hkind)
      · obtain ⟨hclean, hquiet⟩ := (Bool.and_eq_true ..).mp hclean
        refine ⟨hclean, fun x run hout => ?_⟩
        subst hout
        exact hquiet
      · rcases lookup_concat hp with hp | ⟨rfl, rfl⟩
        · have hk := h.alive k p hp halive
          have hother : p.role ≠ role := by
            rintro rfl
            rw [hheld] at hk
            cases hk
          rw [Function.update_of_ne hother]
          exact hk
        · exact Function.update_self ..
      · rcases lookup_concat hp with hp | ⟨rfl, rfl⟩
        · exact h.free kind' hk.1 k p x run hp halive hout
        · exact ⟨kind, (hk.2 ⟨x, run, hout⟩).symm, (hsink x run hout).2⟩
    | missing =>
      obtain ⟨rfl, rfl⟩ := Prod.mk.inj (Option.some.inj hrun)
      exact ⟨hinv, h⟩
    | failed =>
      obtain ⟨rfl, rfl⟩ := Prod.mk.inj (Option.some.inj hrun)
      exact ⟨hinv, h⟩
  · cases r with
    | ok k => exact pure_does (hpost k) fun _ h => h
    | error e => exact raise_does (stable_apart stable_at) fun _ h => h

lemma spawnProcess_does {output : Output} {kind : SinkKind} (hheld : held role = none) :
    Does (fun s => At held named free s ∧ ∀ x run, output = .sink x run →
        free kind ∧ IsKind s x kind)
      (spawnProcess role output)
      (fun k s => At (Function.update held role (some k)) named
          (fun kind' => free kind' ∧ ((∃ x run, output = .sink x run) → kind' ≠ kind)) s ∧
        s.producers.length = k + 1)
      fun _ => At held named free := by
  refine then_does (spawn_does hheld) fun k => ?_
  have hP : Stable Apart fun s => At (Function.update held role (some k)) named
      (fun kind' => free kind' ∧ ((∃ x run, output = .sink x run) → kind' ≠ kind)) s ∧
        s.producers.length = k + 1 := stable_apart (stable_and stable_at stable_length)
  refine get_does (stable_others hP) fun s₀ _ => ?_
  refine then_does (aliveOnes_does hP _) fun owned => ?_
  refine then_does (set_does hP (fun _ => ⟨rfl, rfl, rfl, .inl rfl, .inl rfl⟩) fun _ => rfl)
    fun _ => ?_
  refine then_does (set_does hP (fun _ => ⟨rfl, rfl, rfl, .inl rfl, .inl rfl⟩) fun _ => rfl)
    fun _ => ?_
  exact pure_does hP fun _ h => h

/-- A producer that no sink gives its pipe to. -/
lemma spawnAside_does {output : Output} (hheld : held role = none)
    (hout : ∀ x run, output ≠ .sink x run) :
    Does (At held named free) (spawnProcess role output)
      (fun k s => At (Function.update held role (some k)) named free s ∧
        s.producers.length = k + 1)
      fun _ => At held named free := by
  intro s h
  have hnone : ∀ x run, output = .sink x run → free .local ∧ IsKind s x .local :=
    fun x run ho => absurd ho (hout x run)
  refine (spawnProcess_does hheld s ⟨h, hnone⟩).mono (fun _ _ h' => ⟨h'.1.mono ?_, h'.2⟩)
    fun _ _ h' => h'
  exact fun _ hfree => ⟨hfree, fun ⟨x, run, ho⟩ => absurd ho (hout x run)⟩

/-- A producer that is given the pipe of a sink of a free kind. -/
lemma spawnDirect_does {sink : Option ℕ} {kind : SinkKind} (hheld : held role = none)
    (hfree : free kind) (hP : Stable Apart P) (hat : ∀ s, P s → At held named free s)
    (hkind : ∀ x, sink = some x → ∀ s, P s → IsKind s x kind) :
    Does P (do let output ← sinkStdin sink; spawnProcess role output)
      (fun k => At (Function.update held role (some k)) named fun kind' =>
        free kind' ∧ kind' ≠ kind)
      fun _ => At held named free := by
  refine then_does ((sinkStdin_does hP hkind).conseq (fun _ h => h) (fun _ _ h => h)
    fun _ s h => hat s h) fun output => ?_
  rintro s ⟨hs, x, run, rfl, hk⟩
  refine (spawnProcess_does hheld s ⟨hat s hs, fun x' run' ho => ?_⟩).mono
    (fun _ _ h' => h'.1.mono fun _ hf => ⟨hf.1, fun _ => hf.2⟩) fun _ _ h' => h'
  obtain ⟨rfl, -⟩ := Output.sink.inj ho
  exact ⟨hfree, hk⟩

end OnAir.CallTurns
