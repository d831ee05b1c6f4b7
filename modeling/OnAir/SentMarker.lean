import OnAir.NowPlaying

/-!
What the marker of a station says of its outputs.

A push that a newer generation has overtaken drops the marker when it ends, so a start is safe while
such a push is under way. The marker is misleading where a start stores a song that was delivered
before, and that another one has replaced on some of the outputs; and where a push goes on that will
not be overtaken any more, since its generation was read after the start had raised it, or was
checked for the last time before.
-/

namespace OnAir.SentMarker

open NowPlaying Runs

variable {disabled : Bool} {s t : Station} {c c' : Config} {left left' : List Request}
  {ok ok' : Bool} {w : Worker}

/-! ### The pushes that are under way -/

/-- Where the marker is the song of the configuration, every output shows it. -/
def Shows (s : Station) (c : Config) : Prop :=
  s.marker = some c.song → ∀ o ∈ c.targets, s.shown o = some c.song

/-- A push is under way that will drop the marker. -/
def WillDrop (s : Station) : Prop :=
  match s.worker with
  | .sending push .. => push.generation ≠ s.generation
  | .sent push _ => push.generation ≠ s.generation
  | .outdated _ => True
  | _ => False

/-- The push that goes on, or is about to, even if another configuration is stored now: its
configuration, the requests that are left, and whether it may set the marker. -/
def goesOn (s : Station) : Option (Config × List Request × Bool) :=
  match s.worker with
  | .found _ _ c => if s.marker = some c.song then none else some (c, c.requests, true)
  | .missing _ _ c => some (c, c.requests, true)
  | .starting push =>
    if push.generation = s.generation then some (push.config, push.config.requests, true) else none
  | .sending push left _ _ ok =>
    if push.generation = s.generation then some (push.config, left, ok) else none
  | .sent push ok => if push.generation = s.generation then some (push.config, [], ok) else none
  | .current push ok => some (push.config, [], ok)
  | _ => none

/-- A push of another configuration does not mislead: one of the same song that may set the marker
has the outputs that do not show it yet, and one of another song leaves the outputs alone where the
marker is already set. -/
def Fits (s : Station) (c c' : Config) (left : List Request) (ok : Bool) : Prop :=
  (c'.song = c.song → ok = true → ∀ o ∈ c.targets, o ∈ c'.targets ∨ s.shown o = some c.song) ∧
    (s.marker = some c.song → ∀ r ∈ left, r.target ∉ c.targets)

/-- The configuration that the next step of a start stores. -/
def toStore (s : Station) : Option Config :=
  match s.start with
  | .bumped c => if c.icecastEnabled then some c else none
  | _ => none

/-- A configuration is stored when the marker is right about it, or is going to be dropped, and a
push that goes on fits. -/
def KeepsMarker (s : Station) (e : Event) : Prop :=
  e = .startStores → ∀ c ∈ toStore s,
    (¬ WillDrop s → Shows s c) ∧ ∀ g ∈ goesOn s, Fits s c g.1 g.2.1 g.2.2

lemma Fits.mono (h : Fits s c c' left ok) (hleft : left' ⊆ left) (hok : ok' = true → ok = true) :
    Fits s c c' left' ok' :=
  ⟨fun hsong hok' => h.1 hsong (hok hok'), fun hmarker r hr => h.2 hmarker r (hleft hr)⟩

/-- A push of the configuration itself. -/
lemma fits_self (h : s.marker ≠ some c.song) : Fits s c c left ok :=
  ⟨fun _ _ _ ho => .inl ho, fun hmarker => absurd hmarker h⟩

/-! ### The invariant -/

/-- What is known where the worker is. -/
def Knows (s : Station) : Prop :=
  match s.worker with
  | .starting push => push.generation ≤ s.generation
  | .sending push left _ _ ok => push.generation ≤ s.generation ∧
      (∀ r ∈ left, r.target ∈ push.config.targets) ∧
      (ok = true → ∀ o ∈ push.config.targets,
        (∃ r ∈ left, r.target = o) ∨ s.shown o = some push.config.song)
  | .sent push ok => push.generation ≤ s.generation ∧
      (ok = true → ∀ o ∈ push.config.targets, s.shown o = some push.config.song)
  | .current push ok =>
    ok = true → ∀ o ∈ push.config.targets, s.shown o = some push.config.song
  | _ => True

structure Invariant (s : Station) : Prop where
  shows : ¬ WillDrop s → ∀ c ∈ s.lastConfig, Shows s c
  fits : ∀ c ∈ s.lastConfig, ∀ g ∈ goesOn s, Fits s c g.1 g.2.1 g.2.2
  knows : Knows s

/-- The worker pushes nothing. -/
def Quiet : Worker → Prop
  | .absent | .waiting | .clearing _ | .delaying .. | .reading .. | .rescheduling _ | .failed _ =>
    True
  | _ => False

namespace Invariant

lemma idle : Invariant idleStation := ⟨fun _ => nofun, nofun, trivial⟩

/-- The worker comes to where it pushes nothing. -/
lemma quiet (h : Invariant s) (hdrop : ¬ WillDrop s) (hw : Quiet w) (event : Bool) :
    Invariant { s with event, worker := w } where
  shows _ := h.shows hdrop
  fits c hc g hg := by
    cases w <;> first | exact False.elim hw | cases hg
  knows := by
    cases w <;> first | exact trivial | exact False.elim hw

/-- The worker goes on with what was going on. -/
lemma go (h : Invariant s) (hdrop : WillDrop s → WillDrop { s with worker := w })
    (hgoes : ∀ g ∈ goesOn { s with worker := w },
      ∃ g' ∈ goesOn s, g'.1 = g.1 ∧ g.2.1 ⊆ g'.2.1 ∧ (g.2.2 = true → g'.2.2 = true))
    (hknows : Knows { s with worker := w }) : Invariant { s with worker := w } where
  shows hno := h.shows fun hd => hno (hdrop hd)
  fits c hc g hg := by
    obtain ⟨g', hg', hconfig, hleft, hok⟩ := hgoes g hg
    exact hconfig ▸ (h.fits c hc g' hg').mono hleft hok
  knows := hknows

section Sending

variable {push : Push} {request : Request} {attempt : ℕ} {opened : Bool}

/-- An output that accepts the song. -/
lemma accepted (h : Invariant s)
    (hworker : s.worker = .sending push (request :: left) attempt opened ok) :
    Invariant { s with shown := Function.update s.shown request.target (some push.config.song) } := by
  have hknows := h.knows
  unfold Knows at hknows
  rw [hworker] at hknows
  obtain ⟨hle, hleft, hdelivered⟩ := hknows
  have htarget := hleft request List.mem_cons_self
  -- an output that is pushed to shows the song now, and the others what they did
  have hkept : ∀ {o : Target} {song : String}, s.shown o = some song → o ≠ request.target →
      Function.update s.shown request.target (some push.config.song) o = some song :=
    fun ho hne => (Function.update_of_ne hne ..).trans ho
  have hgoes : ∀ g ∈ goesOn s, g = (push.config, request :: left, ok) ∧
      push.generation = s.generation := fun g hg => by
    unfold goesOn at hg
    rw [hworker] at hg
    dsimp only at hg
    split_ifs at hg with hgeneration
    · exact ⟨(Option.some.inj hg).symm, hgeneration⟩
    · cases hg
  constructor
  case shows =>
    intro hno c hc hmarker o ho
    have hgeneration : push.generation = s.generation := by
      by_contra hne
      exact hno (by simp [WillDrop, hworker, hne])
    have hgoing : (push.config, request :: left, ok) ∈ goesOn s := by
      simp [goesOn, hworker, hgeneration]
    have haside := (h.fits c hc _ hgoing).2 hmarker request List.mem_cons_self
    exact hkept (h.shows hno c hc hmarker o ho) fun he => haside (he ▸ ho)
  case fits =>
    intro c hc g hg
    obtain ⟨rfl, -⟩ := hgoes g hg
    obtain ⟨hcovers, haside⟩ := h.fits c hc _ hg
    refine ⟨fun hsong hok o ho => ?_, haside⟩
    by_cases hin : o ∈ push.config.targets
    · exact .inl hin
    · exact .inr (hkept ((hcovers hsong hok o ho).resolve_left hin) fun he => hin (he ▸ htarget))
  case knows =>
    unfold Knows
    dsimp only
    rw [hworker]
    refine ⟨hle, hleft, fun hok o ho => ?_⟩
    by_cases hsame : o = request.target
    · exact .inr (hsame ▸ Function.update_self ..)
    · exact (hdelivered hok o ho).imp id fun hshown => hkept hshown hsame

/-- After a request some others are left, or the same. -/
lemma remaining (h : Invariant s) (hworker : s.worker = .sending push left attempt opened ok)
    (hsub : left' ⊆ left) (hok : ok' = true → ok = true)
    (hdone : ok' = true → ∀ r ∈ left, r ∈ left' ∨ s.shown r.target = some push.config.song)
    (attempt' : ℕ) (opened' : Bool) :
    Invariant { s with worker := .sending push left' attempt' opened' ok' } := by
  have hknows := h.knows
  unfold Knows at hknows
  rw [hworker] at hknows
  obtain ⟨hle, hleft, hdelivered⟩ := hknows
  refine h.go (fun hd => ?_) (fun g hg => ?_) ⟨hle, fun r hr => hleft r (hsub hr), ?_⟩
  · unfold WillDrop at hd ⊢
    rwa [hworker] at hd
  · unfold goesOn at hg ⊢
    rw [hworker]
    dsimp only at hg ⊢
    split_ifs at hg ⊢ with hgeneration
    · obtain rfl := Option.some.inj hg
      exact ⟨_, rfl, rfl, hsub, hok⟩
    · cases hg
  · intro hok' o ho
    rcases hdelivered (hok hok') o ho with ⟨r, hr, rfl⟩ | hshown
    · exact (hdone hok' r hr).imp (fun hr' => ⟨r, hr', rfl⟩) id
    · exact .inr hshown

end Sending

/-- The event and the start say nothing of a push. -/
lemma aside (h : Invariant s) (event : Bool) (start : StartPhase) :
    Invariant { s with event, start } := ⟨h.shows, h.fits, h.knows⟩

lemma schedule (h : Invariant s) (c : Config) : Invariant (schedule c s) := by
  unfold NowPlaying.schedule
  split_ifs
  · cases hworker : s.worker with
    | absent => exact h.quiet (w := .waiting) (by simp [WillDrop, hworker]) trivial true
    | _ => simpa only [← hworker] using h.aside true s.start
  · exact h

/-- A start begins: no push is of the new generation. -/
lemma begins (h : Invariant s) (start : StartPhase) :
    Invariant { s with generation := s.generation + 1, start } := by
  have hknows := h.knows
  unfold Knows at hknows
  constructor
  case shows =>
    refine fun hno => h.shows fun hd => hno ?_
    unfold WillDrop at hd ⊢
    cases hworker : s.worker <;> simp only [hworker] at hd hknows ⊢ <;> omega
  case fits =>
    refine fun c hc g hg => h.fits c hc g ?_
    unfold goesOn at hg ⊢
    cases hworker : s.worker <;> simp only [hworker] at hg hknows ⊢ <;> try exact hg
    all_goals
      split_ifs at hg
      · omega
      · cases hg
  case knows =>
    unfold Knows
    dsimp only
    cases hworker : s.worker <;> simp only [hworker] at hknows ⊢ <;> try exact hknows
    all_goals first | omega | exact ⟨by omega, hknows.2⟩

/-- A start stores its configuration. -/
lemma stores (h : Invariant s) (hok : KeepsMarker s .startStores) (start : StartPhase) :
    Invariant { s with lastConfig := toStore s, start } :=
  ⟨fun hno c hc => (hok rfl c hc).1 hno, fun c hc => (hok rfl c hc).2, h.knows⟩

/-- All outputs have taken the song. -/
lemma delivered (h : Invariant s) {push : Push} (hworker : s.worker = .current push true) :
    Invariant { s with marker := some push.config.song, worker := .waiting } where
  shows _ c hc hmarker o ho := by
    have hsong : push.config.song = c.song := Option.some.inj hmarker
    have hshown := h.knows
    unfold Knows at hshown
    rw [hworker] at hshown
    have hgoing : (push.config, [], true) ∈ goesOn s := by simp [goesOn, hworker]
    refine ((h.fits c hc _ hgoing).1 hsong rfl o ho).elim (fun hin => ?_) id
    exact (hshown rfl o hin).trans (congrArg some hsong)
  fits _ _ _ hg := by cases hg
  knows := trivial

/-- One step of the worker. -/
lemma worker (h : Invariant s) {a : Answer} (hstep : workerStep disabled s a = some t) :
    Invariant t := by
  have hquiet : Quiet s.worker → ¬WillDrop s := fun hq hd => by
    unfold WillDrop at hd
    cases hworker : s.worker <;> simp only [hworker] at hq hd <;> exact hq
  unfold workerStep at hstep
  split at hstep <;> dsimp only at hstep
  case h_1 triggered hworker =>
    split_ifs at hstep
    obtain rfl := Option.some.inj hstep
    exact h.quiet (hquiet (hworker ▸ trivial)) (by trivial) s.event
  case h_2 triggered ready hworker =>
    obtain rfl := Option.some.inj hstep
    refine h.quiet (hquiet (hworker ▸ trivial)) ?_ false
    split_ifs <;> exact trivial
  case h_3 hworker =>
    obtain rfl := Option.some.inj hstep
    exact h.quiet (hquiet (hworker ▸ trivial)) (by trivial) s.event
  case h_4 hworker =>
    have hno := hquiet (hworker ▸ trivial)
    split_ifs at hstep <;> obtain rfl := Option.some.inj hstep
    · exact h.quiet hno (by trivial) false
    · exact h.quiet hno (by trivial) s.event
  case h_5 hworker =>
    have hno := hquiet (hworker ▸ trivial)
    split at hstep
    · obtain rfl := Option.some.inj hstep
      exact h.quiet hno (by trivial) s.event
    · rename_i c hconfig
      split_ifs at hstep <;> obtain rfl := Option.some.inj hstep
      · exact h.quiet hno (by trivial) s.event
      · -- the configuration is the one that is stored
        refine ⟨fun _ => h.shows hno, fun c' hc' g hg => ?_, trivial⟩
        obtain rfl : c = c' := Option.some.inj (hconfig.symm.trans hc')
        unfold goesOn at hg
        dsimp only at hg
        split_ifs at hg with hmarker
        · cases hg
        · obtain rfl := Option.some.inj hg
          exact fits_self hmarker
  case h_6 c hworker =>
    split_ifs at hstep with hmarker <;> obtain rfl := Option.some.inj hstep
    · exact h.quiet (by simp [WillDrop, hworker]) (by trivial) s.event
    · refine h.go (fun hd => by simp [WillDrop, hworker] at hd) (fun g hg => ?_) trivial
      exact ⟨g, by simpa [goesOn, hworker, hmarker] using hg, rfl, fun _ => id, id⟩
  case h_7 c hworker =>
    obtain rfl := Option.some.inj hstep
    refine h.go (fun hd => by simp [WillDrop, hworker] at hd) (fun g hg => ?_) le_rfl
    exact ⟨g, by simpa [goesOn, hworker] using hg, rfl, fun _ => id, id⟩
  case h_8 push hworker =>
    have hknows := h.knows
    unfold Knows at hknows
    rw [hworker] at hknows
    split_ifs at hstep with hpast hnone <;> obtain rfl := Option.some.inj hstep
    · exact h.quiet (by simp [WillDrop, hworker]) (by trivial) s.event
    · refine h.go (fun hd => by simp [WillDrop, hworker] at hd) (fun g hg => ?_) ⟨hknows, nofun⟩
      rw [not_not] at hpast
      obtain rfl : (push.config, [], false) = g := by simpa [goesOn, hpast] using hg
      exact ⟨(push.config, push.config.requests, true), by simp [goesOn, hworker, hpast], rfl,
        List.nil_subset _, nofun⟩
    · refine h.go (fun hd => by simp [WillDrop, hworker] at hd) (fun g hg => ?_)
        ⟨hknows, fun r hr => List.mem_map_of_mem hr, fun _ o ho => .inl (List.mem_map.mp ho)⟩
      exact ⟨g, by simpa [goesOn, hworker] using hg, rfl, fun _ => id, id⟩
  case h_9 push attempt opened ok hworker =>
    obtain rfl := Option.some.inj hstep
    have hknows := h.knows
    unfold Knows at hknows
    rw [hworker] at hknows
    refine h.go (fun hd => by simpa [WillDrop, hworker] using hd) (fun g hg => ?_)
      ⟨hknows.1, fun hok o ho => by simpa using hknows.2.2 hok o ho⟩
    exact ⟨g, by simpa [goesOn, hworker] using hg, rfl, fun _ => id, id⟩
  case h_10 push left attempt ok _ hworker =>
    split_ifs at hstep with hpast <;> obtain rfl := Option.some.inj hstep
    · have hknows := h.knows
      unfold Knows at hknows
      rw [hworker] at hknows
      refine h.go (fun hd => by simpa [WillDrop, hworker] using hd) (fun g hg => ?_)
        ⟨hknows.1, nofun⟩
      simp [goesOn, hpast] at hg
    · exact h.remaining hworker (fun _ => id) id (fun _ r hr => .inl hr) attempt true
  case h_11 push request left attempt ok taken raised hworker =>
    have htries : ∀ {s' : Station}, Invariant s' → s'.worker = s.worker →
        (if attempt < 3 then
          some { s' with worker := .sending push (request :: left) (attempt + 1) false ok }
        else some { s' with worker := .sending push left 0 false false }) = some t →
        Invariant t := fun h' hsame hstep' => by
      split_ifs at hstep' <;> obtain rfl := Option.some.inj hstep'
      · exact h'.remaining (hsame.trans hworker) (fun _ => id) id (fun _ r hr => .inl hr) _ _
      · refine h'.remaining (hsame.trans hworker) (List.subset_cons_self ..) ?_ ?_ _ _ <;> nofun
    cases taken <;> cases raised
    · cases hstep
    · exact htries h rfl hstep
    · obtain rfl := Option.some.inj hstep
      refine (h.accepted hworker).remaining hworker (List.subset_cons_self ..) id
        (fun _ r hr => ?_) _ _
      refine (List.mem_cons.mp hr).elim (fun he => .inr ?_) .inl
      exact he ▸ Function.update_self ..
    · exact htries (h.accepted hworker) rfl hstep
  case h_12 push ok hworker =>
    have hknows := h.knows
    unfold Knows at hknows
    rw [hworker] at hknows
    split_ifs at hstep with hpast <;> obtain rfl := Option.some.inj hstep
    · exact h.go (fun _ => trivial) nofun trivial
    · rw [not_not] at hpast
      refine h.go (fun hd => by simp [WillDrop, hworker, hpast] at hd) (fun g hg => ?_) hknows.2
      exact ⟨g, by simpa [goesOn, hworker, hpast] using hg, rfl, fun _ => id, id⟩
  case h_13 push hworker =>
    obtain rfl := Option.some.inj hstep
    exact h.delivered hworker
  case h_14 hworker =>
    obtain rfl := Option.some.inj hstep
    exact h.quiet (by simp [WillDrop, hworker]) (by trivial) s.event
  case h_15 push hworker =>
    obtain rfl := Option.some.inj hstep
    exact ⟨fun _ _ _ => nofun, fun _ _ _ => nofun, trivial⟩
  case h_16 push hworker =>
    obtain rfl := Option.some.inj hstep
    have hfailed := h.quiet (hquiet (hworker ▸ trivial)) (w := .failed push) (by trivial) s.event
    unfold Option.elim
    split
    · exact hfailed.schedule _
    · exact hfailed
  case h_17 push hworker =>
    have hno := hquiet (hworker ▸ trivial)
    split_ifs at hstep <;> obtain rfl := Option.some.inj hstep <;>
      exact h.quiet hno (by trivial) s.event
  case h_18 => cases hstep

/-- **One step**, whose start stores what the marker is right about. -/
theorem step {e : Event} (h : Invariant s) (hok : KeepsMarker s e)
    (hstep : step disabled s e = some t) : Invariant t := by
  cases e with
  | worker a => exact h.worker hstep
  | _ =>
    unfold NowPlaying.step at hstep
    dsimp only at hstep
    split at hstep
    · obtain rfl := Option.some.inj hstep
      first
      | exact h.begins _
      | exact h.aside s.event _
      | exact (h.schedule _).aside _ _
      | simpa only [toStore, *] using h.stores hok _
    · cases hstep

end Invariant

/-- **The marker tells what the outputs show**: in a run whose starts keep it right, when the worker
waits again and the marker is the current song, every output has accepted that song last. -/
theorem marker_tells {events : List Event}
    (hok : Meets (step disabled) KeepsMarker idleStation events)
    (he : exec (step disabled) idleStation events = some s) (hworker : s.worker = .waiting) :
    ∀ c ∈ s.lastConfig, Shows s c := by
  have h : Invariant s := inv_of_exec (fun _ _ _ h hok ht => h.step hok ht) .idle hok he
  exact h.shows (by simp [WillDrop, hworker])

/-- The song of a title, on a main and on an extra output. -/
def titled (title : String) : Config where
  icecastEnabled := true
  streamTitle := title
  streamArtist := ""
  icecastHost := "host"
  icecastPort := 8000
  icecastMount := "/main"
  icecastUser := ""
  icecastPassword := ""
  icecastTlsEnabled := false
  extraIcecastOutputs := [⟨true, "", 8000, "/extra", "", "", false⟩]

def starts (title : String) : List Event :=
  [.startBegins (titled title), .startStores, .startSchedules]

/-- The worker hears of a start and begins to push. -/
def pushes : List Event :=
  [.worker (.waited true), .worker (.retryReady true), .worker (.waited false),
    .worker (.running true), .worker .go, .worker .go, .worker .go]

def accepts : List Event := [.worker .go, .worker (.response true false)]

/-- An output that fails at every try. -/
def fails : List Event :=
  (List.replicate 4 [Event.worker .go, .worker (.response false true)]).flatten

def ends : List Event := [.worker .go, .worker .go, .worker .go]

def firstSong : List Event := starts "A" ++ pushes ++ accepts ++ accepts ++ ends

/-- The second song reaches one of the outputs; then the first one comes again. -/
def backAgain : List Event :=
  firstSong ++ (starts "B" ++ pushes ++ accepts ++ fails ++ ends ++ [.worker .go]) ++ starts "A" ++
    [.worker (.waited true), .worker (.waited false), .worker (.running true), .worker .go]

theorem marker_tells_firstSong : ∃ s, exec (step false) idleStation firstSong = some s ∧
    s.marker = some "A" ∧ ∀ c ∈ s.lastConfig, Shows s c := by
  have hrun : (exec (step false) idleStation firstSong).map (fun s => (s.worker, s.marker)) =
      some (.waiting, some "A") := by decide +kernel
  obtain ⟨s, he, hs⟩ := Option.map_eq_some_iff.mp hrun
  obtain ⟨hworker, hmarker⟩ := Prod.mk.inj hs
  refine ⟨s, he, hmarker, marker_tells ?_ he hworker⟩
  simp [Meets, KeepsMarker, firstSong, starts, pushes, accepts, ends, step, toStore, goesOn, Shows,
    idleStation]

/-- **The marker misleads** when a song comes again that another has replaced on some outputs: the
main output goes on with the second song, and nothing is left to push. -/
theorem marker_misleads : ¬ ∀ (disabled : Bool) (events : List Event) (s : Station),
    exec (step disabled) idleStation events = some s → s.worker = .waiting →
      ∀ c ∈ s.lastConfig, Shows s c := by
  intro hall
  have hrun : (exec (step false) idleStation backAgain).map
      (fun s => (s.worker, s.lastConfig, s.marker, s.shown ⟨"http://host:8000", "/main"⟩)) =
        some (.waiting, some (titled "A"), some (titled "A").song, some "B") := by decide +kernel
  obtain ⟨s, he, hs⟩ := Option.map_eq_some_iff.mp hrun
  simp only [Prod.mk.injEq] at hs
  obtain ⟨hworker, hconfig, hmarker, hshown⟩ := hs
  have hshows := hall false backAgain s he hworker _ hconfig hmarker
    ⟨"http://host:8000", "/main"⟩ (by decide +kernel)
  rw [hshown] at hshows
  exact absurd hshows (by decide +kernel)

end OnAir.SentMarker
