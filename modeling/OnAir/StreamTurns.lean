import OnAir.StreamRestore

/-!
Calls of `apply` that run at the same time on one station.

A call saves what it finds, writes the row and the settings in turn, and waits for up to a minute
before it becomes applied or puts back what it saved. Nothing keeps two calls apart. The output
of the station is its row, the password aside, and its output settings.
-/

namespace OnAir.StreamTurns

open OnAir.Database Runs StreamConfigService StreamRestore OnAir.Table

/-! ### Calls -/

inductive Stage
  | begun
  | wroteOutput
  | wroteSettings
  /-- the operation has the status `applied`, and the call has not returned -/
  | applied
  | failing
  | restoredOutput
  | clearedSettings
  | restoredSettings
  deriving DecidableEq, Repr

/-- A call in flight, with what it has written and not put back. -/
structure Call where
  draftId : ℤ
  config : StreamConfig
  stage : Stage
  wroteOutput : Bool
  wroteSettings : Bool
  deriving DecidableEq

/-- The database, the calls in flight by their operations, and the operations that became
applied, the last one first. -/
structure State where
  service : Service
  calls : Table Call
  order : List (ℤ × StreamConfig)

def State.start (s : Service) : State := ⟨s, ∅, []⟩

inductive Event
  | begin (draftId : ℤ) (idempotencyKey overrideReason : String)
  | writeOutput (id : ℤ)
  | writeSettings (id : ℤ)
  | markApplied (id : ℤ)
  | succeed (id : ℤ)
  | fail (id : ℤ)
  | restoreOutput (id : ℤ)
  | clearSettings (id : ℤ)
  | restoreSettings (id : ℤ)
  | rollBack (id : ℤ)
  deriving DecidableEq, Repr

/-- The stages in which something may raise. -/
def Stage.mayFail : Stage → Bool
  | .begun | .wroteOutput | .wroteSettings | .applied => true
  | _ => false

/-- The call that an event moves, in the stage it moves from. -/
def callAt (s : State) (id : ℤ) (stage : Stage) : Option Call :=
  s.calls[id]?.filter (·.stage = stage)

/-- One transaction of a call on the station `st`. A call that is refused, or that finds its key
in use, returns at once. -/
def step (st : ℤ) (s : State) : Event → Option State
  | .begin draftId key reason =>
    match beginApply draftId key reason s.service with
    | .ok (.new id c) service =>
      if c.stationId = st then
        some { s with
          service := service
          calls := s.calls.insert id ⟨draftId, c, .begun, false, false⟩ }
      else none
    | _ => some s
  | .writeOutput id => do
    let call ← callAt s id .begun
    let c := call.config
    let password := resolveCredential s.service c.passwordReference
    return { s with
      service := upsertOutput c.stationId (outputOf c password) s.service
      calls := s.calls.insert id { call with stage := .wroteOutput, wroteOutput := true } }
  | .writeSettings id => do
    let call ← callAt s id .wroteOutput
    let c := call.config
    return { s with
      service := upsertSettings c.stationId (settingsOf c) s.service
      calls := s.calls.insert id { call with stage := .wroteSettings, wroteSettings := true } }
  | .markApplied id => do
    let call ← callAt s id .wroteSettings
    return {
      service := markApplied id call.draftId s.service
      calls := s.calls.insert id { call with stage := .applied }
      order := (id, call.config) :: s.order }
  | .succeed id => do
    let _ ← callAt s id .applied
    return { s with calls := s.calls.erase id }
  | .fail id => do
    let call ← s.calls[id]?.filter (·.stage.mayFail)
    return { s with calls := s.calls.insert id { call with stage := .failing } }
  | .restoreOutput id => do
    let call ← callAt s id .failing
    let op ← s.service.operations[id]?
    return { s with
      service := restoreOutput op s.service
      calls := s.calls.insert id { call with stage := .restoredOutput, wroteOutput := false } }
  | .clearSettings id => do
    let call ← callAt s id .restoredOutput
    let op ← s.service.operations[id]?
    return { s with
      service := clearSettings op.stationId s.service
      calls := s.calls.insert id { call with stage := .clearedSettings } }
  | .restoreSettings id => do
    let call ← callAt s id .clearedSettings
    let op ← s.service.operations[id]?
    return { s with
      service := upsertSettings op.stationId op.previous.settings s.service
      calls := s.calls.insert id { call with stage := .restoredSettings, wroteSettings := false } }
  | .rollBack id => do
    let _ ← callAt s id .restoredSettings
    return { s with
      service := setStatus id .rolledBack s.service
      calls := s.calls.erase id }

/-! ### The output of the station -/

/-- A part of the output, and which calls bear on it. -/
structure Part (α : Type) where
  shown : Service → α
  ofConfig : StreamConfig → α
  wrote : Call → Bool
  /-- the part is being put back -/
  open_ : Call → Bool

def rowPart (st : ℤ) : Part (Option StationOutput) where
  shown s := (output s st).map fun r => { r with icecastPassword := "" }
  ofConfig c := some (outputOf c "")
  wrote call := call.wroteOutput
  open_ _ := false

def settingsPart (st : ℤ) : Part (List (Option String)) where
  shown s := outputSettingKeys.map (setting s st)
  ofConfig c := (settingsOf c).map fun v => some v.2
  wrote call := call.wroteSettings
  open_ call := call.stage = .clearedSettings

def isApplied (s : State) (id : ℤ) : Bool :=
  s.service.operations[id]?.any (·.status = .applied)

/-- The configuration of the operation that became applied last, of those that are. -/
def lastApplied (s : State) : Option StreamConfig :=
  (s.order.find? fun p => isApplied s p.1).map (·.2)

section Parts

variable {α : Type} (part : Part α) (s₀ : Service)

/-- What a configuration makes of a part, or what there was before any. -/
def inForce : Option StreamConfig → α
  | some c => part.ofConfig c
  | none => part.shown s₀

/-- The output is that of the operation that became applied last, or the initial one. -/
def Agrees (s : State) : Prop := part.shown s.service = inForce part s₀ (lastApplied s)

/-! ### The condition on a step -/

def isFailing (s : State) (id : ℤ) : Bool :=
  s.calls[id]?.any fun call => !call.stage.mayFail

/-- The operation that became applied last and is not failing. -/
def standing (s : State) : Option StreamConfig :=
  (s.order.find? fun p => isApplied s p.1 && !isFailing s p.1).map (·.2)

/-- The call is not applied and has written this, or is putting the part back. -/
def Bears (v : α) (call : Call) : Prop :=
  part.open_ call ∨ (call.stage ≠ .applied ∧ part.wrote call ∧ v = part.ofConfig call.config)

/-- Another call bears what is there, or it is in force. -/
def StandsBut (id : ℤ) (v forced : α) (s : State) : Prop :=
  v = forced ∨ ∃ r ∈ rows s.calls, r.1 ≠ id ∧ Bears part v r.2

end Parts

/-- A call becomes applied where what is there is its own or another call's, and puts back what
is in force or another call's. -/
def TakesTurn (st : ℤ) (s₀ : Service) (s : State) : Event → Prop
  | .markApplied id => ∀ call ∈ s.calls[id]?,
      StandsBut (rowPart st) id ((rowPart st).shown s.service)
        ((rowPart st).ofConfig call.config) s ∧
      StandsBut (settingsPart st) id ((settingsPart st).shown s.service)
        ((settingsPart st).ofConfig call.config) s
  | .restoreOutput id => ∀ op ∈ s.service.operations[id]?,
      StandsBut (rowPart st) id ((rowPart st).shown (restoreOutput op s.service))
        (inForce (rowPart st) s₀ (standing s)) s
  | .restoreSettings id => ∀ op ∈ s.service.operations[id]?,
      let service := upsertSettings op.stationId op.previous.settings s.service
      StandsBut (settingsPart st) id ((settingsPart st).shown service)
        (inForce (settingsPart st) s₀ (standing s)) s
  | _ => True

instance {α : Type} [DecidableEq α] (part : Part α) (v : α) (call : Call) :
    Decidable (Bears part v call) := by
  unfold Bears
  infer_instance

instance {α : Type} [DecidableEq α] (part : Part α) (id : ℤ) (v forced : α) (s : State) :
    Decidable (StandsBut part id v forced s) := by
  unfold StandsBut
  infer_instance

instance {α : Type} [DecidableEq α] (part : Part α) (s₀ : Service) (s : State) :
    Decidable (Agrees part s₀ s) := by
  unfold Agrees
  infer_instance

instance (st : ℤ) (s₀ : Service) (s : State) (e : Event) : Decidable (TakesTurn st s₀ s e) := by
  cases e <;> unfold TakesTurn <;> infer_instance

/-! ### What a step keeps -/

section Keeps

variable {α : Type} {part : Part α} {st id : ℤ} {s₀ : Service} {s s' : State} {call call' : Call}

/-- What is there is in force, or a call bears it. -/
def Stands (part : Part α) (s₀ : Service) (s : State) : Prop :=
  part.shown s.service = inForce part s₀ (standing s) ∨
    ∃ (id : ℤ) (call : Call), s.calls[id]? = some call ∧ Bears part (part.shown s.service) call

lemma callAt_eq_some {stage : Stage} :
    callAt s id stage = some call ↔ s.calls[id]? = some call ∧ call.stage = stage := by
  rw [callAt, Option.filter_eq_some_iff]
  simp

lemma isFailing_insert (j : ℤ) :
    isFailing { s with calls := s.calls.insert id call } j =
      if j = id then !call.stage.mayFail else isFailing s j := by
  unfold isFailing
  rw [lookup_insert]
  split_ifs <;> rfl

lemma standing_congr (ho : s'.order = s.order)
    (h : ∀ p ∈ s.order, (isApplied s' p.1 && !isFailing s' p.1) =
      (isApplied s p.1 && !isFailing s p.1)) : standing s' = standing s := by
  have hfind : ∀ l : List (ℤ × StreamConfig), (∀ p ∈ l, p ∈ s.order) →
      (l.find? fun p => isApplied s' p.1 && !isFailing s' p.1) =
        l.find? fun p => isApplied s p.1 && !isFailing s p.1 := by
    intro l hl
    induction l with
    | nil => rfl
    | cons p l ih =>
      rw [List.find?_cons, List.find?_cons, h p (hl p (by simp)),
        ih fun q hq => hl q (by simp [hq])]
  unfold standing
  rw [ho, hfind s.order fun _ hp => hp]

/-- A step that leaves the part, and the calls that bear on it. -/
lemma Stands.keep (h : Stands part s₀ s) (hv : part.shown s'.service = part.shown s.service)
    (hs : standing s' = standing s)
    (hc : ∀ (id : ℤ) (call : Call), s.calls[id]? = some call →
      Bears part (part.shown s.service) call →
      ∃ call' : Call, s'.calls[id]? = some call' ∧ Bears part (part.shown s.service) call') :
    Stands part s₀ s' := by
  unfold Stands
  rw [hv, hs]
  rcases h with h | ⟨id, call, hid, hb⟩
  · exact .inl h
  · obtain ⟨call', hid', hb'⟩ := hc id call hid hb
    exact .inr ⟨id, call', hid', hb'⟩

/-- A call that moves on and bears what it did. -/
lemma bears_insert {v : α} (hid : s.calls[id]? = some call)
    (hb : Bears part v call → Bears part v call') (j : ℤ) (other : Call)
    (hj : s.calls[j]? = some other) (ho : Bears part v other) :
    ∃ c : Call, (s.calls.insert id call')[j]? = some c ∧ Bears part v c := by
  rw [lookup_insert]
  by_cases h : j = id
  · subst h
    obtain rfl : call = other := Option.some.inj (hid.symm.trans hj)
    exact ⟨call', if_pos rfl, hb ho⟩
  · exact ⟨other, by rw [if_neg h, hj], ho⟩

/-- A call that bore nothing returns. -/
lemma bears_erase {v : α} (hid : s.calls[id]? = some call) (hb : ¬ Bears part v call) (j : ℤ)
    (other : Call) (hj : s.calls[j]? = some other) (ho : Bears part v other) :
    ∃ c : Call, (s.calls.erase id)[j]? = some c ∧ Bears part v c := by
  refine ⟨other, ?_, ho⟩
  rw [lookup_erase, if_neg, hj]
  rintro rfl
  obtain rfl : call = other := Option.some.inj (hid.symm.trans hj)
  exact hb ho

/-- What stands but for one call, stands once that call has moved on. -/
lemma StandsBut.stands {v forced : α} (h : StandsBut part id v forced s)
    (hv : part.shown s'.service = v) (hf : inForce part s₀ (standing s') = forced)
    (hc : ∀ j, j ≠ id → s'.calls[j]? = s.calls[j]?) : Stands part s₀ s' := by
  unfold Stands
  rw [hv, hf]
  rcases h with h | ⟨r, hr, hne, hb⟩
  · exact .inl h
  · exact .inr ⟨r.1, r.2, by rw [hc r.1 hne]; exact mem_rows.mp hr, hb⟩

end Keeps

/-! ### What is shown -/

section Shown

variable {st : ℤ} {s : Service}

lemma row_shown : (rowPart st).shown s =
    s.data.stationOutputs[st]?.map fun r => { r with icecastPassword := "" } := rfl

lemma settings_shown : (settingsPart st).shown s = outputSettingKeys.map (setting s st) := rfl

lemma row_of_eq {s' : Service} (h : s'.data.stationOutputs = s.data.stationOutputs) :
    (rowPart st).shown s' = (rowPart st).shown s := by
  rw [row_shown, row_shown, h]

lemma settings_of_eq {s' : Service} (h : s'.data.stationSettings = s.data.stationSettings) :
    (settingsPart st).shown s' = (settingsPart st).shown s := by
  have hkey : ∀ key, setting s' st key = setting s st key := fun key => by
    rw [setting, setting, h]
  rw [settings_shown, settings_shown, List.map_congr_left fun key _ => hkey key]

lemma row_upsertOutput (c : StreamConfig) (password : String) :
    (rowPart st).shown (upsertOutput st (outputOf c password) s) = (rowPart st).ofConfig c := by
  have hprofile : c.streamCodecProfile.text ≠ "" := by
    cases c.streamCodecProfile <;> decide
  have hbitrate : c.streamCodecProfile.bitrate ≠ 0 := by
    cases c.streamCodecProfile <;> decide
  rw [row_shown]
  unfold upsertOutput putOutput
  dsimp only
  rw [lookup_insert, if_pos rfl]
  simp [rowPart, outputOf, hprofile, hbitrate]

lemma settings_upsertOutput (st' : ℤ) (o : StationOutput) :
    (settingsPart st).shown (upsertOutput st' o s) = (settingsPart st).shown s := by
  refine settings_of_eq ?_
  unfold upsertOutput putOutput
  dsimp only
  split_ifs <;> rfl

lemma settings_restoreOutput (op : Operation) :
    (settingsPart st).shown (restoreOutput op s) = (settingsPart st).shown s := by
  unfold restoreOutput
  cases op.previous.output with
  | some r => exact settings_upsertOutput ..
  | none => exact settings_of_eq rfl

/-- All output settings are written. -/
lemma settingsOf_eq (c : StreamConfig) : settingsOf c =
    outputSettingKeys.filterMap fun k => ((settingsOf c).lookup k).map fun v => (k, v) := by
  simp [settingsOf, outputSettingKeys, List.lookup_cons]

lemma operations_upsertSettings (st : ℤ) (values : List (String × String)) (s : Service) :
    (upsertSettings st values s).operations = s.operations := rfl

lemma settings_upsertSettings (c : StreamConfig) :
    (settingsPart st).shown (upsertSettings st (settingsOf c) s) =
      (settingsPart st).ofConfig c := by
  have hall : ∀ key ∈ outputSettingKeys, ((settingsOf c).lookup key).isSome := by
    simp [outputSettingKeys, settingsOf, List.lookup_cons]
  have hkey : ∀ key ∈ outputSettingKeys,
      setting (upsertSettings st (settingsOf c) s) st key = (settingsOf c).lookup key := by
    intro key hkey
    rw [settingsOf_eq c, setting_upsertSettings, ← settingsOf_eq c, if_pos ⟨hkey, hall key hkey⟩]
  rw [settings_shown, List.map_congr_left hkey]
  rfl

end Shown

/-! ### Calls that move on -/

section Moves

variable {α : Type} {part : Part α} {st id : ℤ} {s₀ service : Service} {s : State}
  {call call' : Call}

/-- The marks of a call agree with its stage. -/
def Marked (call : Call) : Prop :=
  (call.stage = .wroteOutput ∨ call.stage = .wroteSettings ∨ call.stage = .applied →
    call.wroteOutput) ∧
  (call.stage = .restoredOutput ∨ call.stage = .clearedSettings ∨
    call.stage = .restoredSettings → call.wroteOutput = false) ∧
  (call.stage = .wroteSettings ∨ call.stage = .applied → call.wroteSettings) ∧
  (call.stage = .restoredSettings → call.wroteSettings = false)

/-- What the tables know of the calls. -/
structure Known (st : ℤ) (s : State) : Prop where
  operation : ∀ (id : ℤ) (call : Call), s.calls[id]? = some call →
    (s.service.operations[id]?).isSome
  order : ∀ p ∈ s.order, (s.service.operations[p.1]?).isSome
  config : ∀ p ∈ s.order, ∀ call : Call, s.calls[p.1]? = some call → call.config = p.2
  reached : ∀ p ∈ s.order, ∀ call : Call, s.calls[p.1]? = some call → call.stage.mayFail →
    call.stage = .applied
  station : ∀ (id : ℤ) (call : Call), s.calls[id]? = some call → call.config.stationId = st
  marked : ∀ (id : ℤ) (call : Call), s.calls[id]? = some call → Marked call

lemma Known.move (h : Known st s) (hid : s.calls[id]? = some call)
    (hc : call'.config = call.config) (hm : Marked call')
    (hops : ∀ j : ℤ, (s.service.operations[j]?).isSome → (service.operations[j]?).isSome)
    {order : List (ℤ × StreamConfig)} (ho : ∀ p ∈ order, p ∈ s.order ∨ p = (id, call.config))
    (hr : call'.stage.mayFail → call'.stage = .applied ∨
      (call.stage.mayFail ∧ call.stage ≠ .applied ∧ order = s.order)) :
    Known st ⟨service, s.calls.insert id call', order⟩ where
  operation j other hj := by
    rw [lookup_insert] at hj
    split_ifs at hj with hji
    · exact hops j (by rw [hji]; exact h.operation id call hid)
    · exact hops _ (h.operation j other hj)
  order p hp := by
    rcases ho p hp with hp | rfl
    · exact hops _ (h.order p hp)
    · exact hops _ (h.operation id call hid)
  config p hp other hj := by
    rw [lookup_insert] at hj
    rcases ho p hp with hp | rfl
    · split_ifs at hj with hji
      · cases hj
        exact hc.trans (h.config p hp call (hji ▸ hid))
      · exact h.config p hp other hj
    · rw [if_pos rfl] at hj
      cases hj
      exact hc
  reached p hp other hj hmay := by
    rw [lookup_insert] at hj
    split_ifs at hj with hpid
    · obtain rfl := Option.some.inj hj
      rcases hr hmay with happ | ⟨hmay', hne, hsame⟩
      · exact happ
      · subst hsame
        exact absurd (h.reached p hp call (hpid ▸ hid) hmay') hne
    · rcases ho p hp with hp | rfl
      · exact h.reached p hp other hj hmay
      · exact absurd rfl hpid
  station j other hj := by
    rw [lookup_insert] at hj
    split_ifs at hj with hji
    · cases hj
      exact hc ▸ h.station id call hid
    · exact h.station j other hj
  marked j other hj := by
    rw [lookup_insert] at hj
    split_ifs at hj with hji
    · cases hj
      exact hm
    · exact h.marked j other hj

lemma Known.leave (h : Known st s)
    (hops : ∀ j : ℤ, (s.service.operations[j]?).isSome → (service.operations[j]?).isSome) :
    Known st ⟨service, s.calls.erase id, s.order⟩ := by
  have hcall : ∀ (j : ℤ) (other : Call), (s.calls.erase id)[j]? = some other →
      s.calls[j]? = some other := by
    intro j other hj
    rw [lookup_erase] at hj
    split_ifs at hj
    exact hj
  exact ⟨fun j other hj => hops _ (h.operation j other (hcall j other hj)),
    fun p hp => hops _ (h.order p hp), fun p hp other hj => h.config p hp other (hcall _ _ hj),
    fun p hp other hj => h.reached p hp other (hcall _ _ hj),
    fun j other hj => h.station j other (hcall j other hj),
    fun j other hj => h.marked j other (hcall j other hj)⟩

/-- A call that goes on in a part of the database that is not shown. -/
lemma Stands.move (h : Stands part s₀ s) (hid : s.calls[id]? = some call)
    (hv : part.shown service = part.shown s.service)
    (hops : service.operations = s.service.operations)
    (hf : call'.stage.mayFail = call.stage.mayFail)
    (hb : ∀ v, Bears part v call → Bears part v call') :
    Stands part s₀ ⟨service, s.calls.insert id call', s.order⟩ := by
  refine h.keep hv (standing_congr rfl fun p _ => ?_) (bears_insert hid (hb _))
  have happ : isApplied ⟨service, s.calls.insert id call', s.order⟩ p.1 = isApplied s p.1 := by
    unfold isApplied
    rw [hops]
  have hfail : isFailing ⟨service, s.calls.insert id call', s.order⟩ p.1 = isFailing s p.1 := by
    unfold isFailing
    rw [lookup_insert]
    split_ifs with hp
    · rw [hp, hid]
      simp [hf]
    · rfl
  rw [happ, hfail]

variable (part) in
/-- A call that writes the part. -/
lemma Stands.write (hv : part.shown service = part.ofConfig call'.config)
    (hs : call'.stage ≠ .applied) (hw : part.wrote call') {order : List (ℤ × StreamConfig)} :
    Stands part s₀ ⟨service, s.calls.insert id call', order⟩ :=
  .inr ⟨id, call', by rw [lookup_insert, if_pos rfl], .inr ⟨hs, hw, hv⟩⟩

/-- A call that bore nothing returns. -/
lemma Stands.leave (h : Stands part s₀ s) (hid : s.calls[id]? = some call)
    (hv : part.shown service = part.shown s.service)
    (hf : isApplied ⟨service, s.calls.erase id, s.order⟩ id =
      (isApplied s id && call.stage.mayFail))
    (happ : ∀ j : ℤ, j ≠ id → service.operations[j]? = s.service.operations[j]?)
    (hb : ∀ v, ¬ Bears part v call) :
    Stands part s₀ ⟨service, s.calls.erase id, s.order⟩ := by
  refine h.keep hv (standing_congr rfl fun p _ => ?_) (bears_erase hid (hb _))
  by_cases hpid : p.1 = id
  · have hfail : isFailing ⟨service, s.calls.erase id, s.order⟩ id = false := by
      unfold isFailing
      rw [lookup_erase, if_pos rfl]
      rfl
    have hfail' : isFailing s id = !call.stage.mayFail := by
      unfold isFailing
      rw [hid]
      rfl
    rw [hpid, hf, hfail, hfail']
    simp
  · have hfail : isFailing ⟨service, s.calls.erase id, s.order⟩ p.1 = isFailing s p.1 := by
      unfold isFailing
      rw [lookup_erase, if_neg hpid]
    have happ' : isApplied ⟨service, s.calls.erase id, s.order⟩ p.1 = isApplied s p.1 := by
      unfold isApplied
      rw [happ _ hpid]
    rw [hfail, happ']

end Moves

/-! ### The invariant -/

section Invariant

variable {st : ℤ} {s₀ : Service} {s s' : State}

structure Inv (st : ℤ) (s₀ : Service) (s : State) : Prop where
  row : Stands (rowPart st) s₀ s
  settings : Stands (settingsPart st) s₀ s
  known : Known st s

lemma Inv.begin {draftId : ℤ} {key reason : String} (h : Inv st s₀ s)
    (hs : step st s (.begin draftId key reason) = some s') : Inv st s₀ s' := by
  unfold step at hs
  dsimp only at hs
  split at hs
  next id c service hb =>
    split_ifs at hs with hst
    cases hs
    obtain ⟨operation, rfl, hfresh, -, -⟩ := beginApply_new hb
    have hnew : s.calls[id]? = none := by
      cases hid : s.calls[id]? with
      | none => rfl
      | some call => simpa [hfresh] using h.known.operation id call hid
    have hne : ∀ p ∈ s.order, p.1 ≠ id := by
      rintro p hp rfl
      simpa [hfresh] using h.known.order p hp
    have hcall : ∀ (j : ℤ) (other : Call),
        (s.calls.insert id ⟨draftId, c, .begun, false, false⟩)[j]? = some other →
          s.calls[j]? = some other ∨ (j = id ∧ other = ⟨draftId, c, .begun, false, false⟩) := by
      intro j other hj
      rw [lookup_insert] at hj
      split_ifs at hj with hji
      · exact .inr ⟨hji, (Option.some.inj hj).symm⟩
      · exact .inl hj
    have hops : ∀ j : ℤ, (s.service.operations[j]?).isSome →
        ((s.service.operations.insert id operation)[j]?).isSome := by
      intro j hj
      rw [lookup_insert]
      split_ifs
      · rfl
      · exact hj
    have hstanding : ∀ p ∈ s.order,
        (isApplied ⟨{ s.service with operations := s.service.operations.insert id operation },
            s.calls.insert id ⟨draftId, c, .begun, false, false⟩, s.order⟩ p.1 &&
          !isFailing ⟨{ s.service with operations := s.service.operations.insert id operation },
            s.calls.insert id ⟨draftId, c, .begun, false, false⟩, s.order⟩ p.1) =
        (isApplied s p.1 && !isFailing s p.1) := by
      intro p hp
      unfold isApplied isFailing
      dsimp only
      rw [lookup_insert, if_neg (hne p hp), lookup_insert, if_neg (hne p hp)]
    have hkeep : ∀ (j : ℤ) (other : Call), s.calls[j]? = some other →
        (s.calls.insert id ⟨draftId, c, .begun, false, false⟩)[j]? = some other := by
      intro j other hj
      rw [lookup_insert, if_neg, hj]
      rintro rfl
      simp [hnew] at hj
    refine ⟨h.row.keep rfl (standing_congr rfl hstanding) fun j other hj hb =>
        ⟨other, hkeep j other hj, hb⟩,
      h.settings.keep rfl (standing_congr rfl hstanding) fun j other hj hb =>
        ⟨other, hkeep j other hj, hb⟩, ?_⟩
    refine ⟨fun j other hj => ?_, fun p hp => hops _ (h.known.order p hp),
      fun p hp other hj => ?_, fun p hp other hj hmay => ?_, fun j other hj => ?_,
      fun j other hj => ?_⟩
    · rcases hcall j other hj with hj | ⟨rfl, -⟩
      · exact hops j (h.known.operation j other hj)
      · dsimp only
        rw [lookup_insert, if_pos rfl]
        rfl
    · rcases hcall p.1 other hj with hj | ⟨hp', -⟩
      · exact h.known.config p hp other hj
      · exact absurd hp' (hne p hp)
    · rcases hcall p.1 other hj with hj | ⟨hp', -⟩
      · exact h.known.reached p hp other hj hmay
      · exact absurd hp' (hne p hp)
    · rcases hcall j other hj with hj | ⟨-, rfl⟩
      · exact h.known.station j other hj
      · exact hst
    · rcases hcall j other hj with hj | ⟨-, rfl⟩
      · exact h.known.marked j other hj
      · simp [Marked]
  next => cases hs; exact h

lemma Inv.writeOutput {id : ℤ} (h : Inv st s₀ s) (hs : step st s (.writeOutput id) = some s') :
    Inv st s₀ s' := by
  obtain ⟨call, hcall, hs⟩ := Option.bind_eq_some_iff.mp hs
  obtain rfl := Option.some.inj hs
  obtain ⟨hid, hstage⟩ := callAt_eq_some.mp hcall
  have hst := h.known.station id call hid
  refine ⟨Stands.write (rowPart st) ?_ (by simp) rfl, h.settings.move hid ?_ ?_ ?_ ?_,
    h.known.move hid (by rfl) ?_ ?_ (fun p hp => .inl hp) fun _ => .inr ?_⟩
  · dsimp only
    rw [hst]
    exact row_upsertOutput ..
  · exact settings_upsertOutput ..
  · unfold upsertOutput putOutput
    dsimp only
    split_ifs <;> rfl
  · rw [hstage]
    rfl
  · simp [Bears, settingsPart, hstage]
  · simp [Marked]
  · intro j hj
    unfold upsertOutput putOutput
    dsimp only
    split_ifs <;> exact hj
  · simp [hstage, Stage.mayFail]

lemma Inv.writeSettings {id : ℤ} (h : Inv st s₀ s)
    (hs : step st s (.writeSettings id) = some s') : Inv st s₀ s' := by
  obtain ⟨call, hcall, hs⟩ := Option.bind_eq_some_iff.mp hs
  obtain rfl := Option.some.inj hs
  obtain ⟨hid, hstage⟩ := callAt_eq_some.mp hcall
  have hst := h.known.station id call hid
  have hmark := h.known.marked id call hid
  have hkept := kept_upsertSettings call.config.stationId (settingsOf call.config) s.service
  have hops := operations_upsertSettings call.config.stationId (settingsOf call.config) s.service
  have hshown : (settingsPart st).shown (upsertSettings st (settingsOf call.config) s.service) =
      (settingsPart st).ofConfig call.config := settings_upsertSettings _
  rw [← hst] at hshown
  generalize upsertSettings call.config.stationId (settingsOf call.config) s.service = service
    at hkept hops hshown ⊢
  refine ⟨h.row.move hid (row_of_eq hkept.output) hops ?_ ?_,
    Stands.write (settingsPart st) (hst ▸ hshown) (by simp) rfl,
    h.known.move hid (by rfl) ?_ (fun j hj => ?_) (fun p hp => .inl hp) fun _ => .inr ?_⟩
  · rw [hstage]
    rfl
  · simp [Bears, rowPart]
  · simp only [Marked, hstage] at hmark ⊢
    simp_all
  · rwa [hops]
  · simp [hstage, Stage.mayFail]

lemma Inv.markApplied {id : ℤ} (h : Inv st s₀ s) (hok : TakesTurn st s₀ s (.markApplied id))
    (hs : step st s (.markApplied id) = some s') : Inv st s₀ s' := by
  obtain ⟨call, hcall, hs⟩ := Option.bind_eq_some_iff.mp hs
  obtain rfl := Option.some.inj hs
  obtain ⟨hid, hstage⟩ := callAt_eq_some.mp hcall
  obtain ⟨hrow, hsettings⟩ := hok call hid
  have hstanding : standing ⟨StreamConfigService.markApplied id call.draftId s.service,
      s.calls.insert id { call with stage := .applied }, (id, call.config) :: s.order⟩ =
        some call.config := by
    obtain ⟨op, hop⟩ := Option.isSome_iff_exists.mp (h.known.operation id call hid)
    have happ : isApplied ⟨StreamConfigService.markApplied id call.draftId s.service,
        s.calls.insert id { call with stage := .applied }, (id, call.config) :: s.order⟩ id := by
      unfold isApplied StreamConfigService.markApplied setStatus
      dsimp only
      rw [lookup_modify, if_pos rfl, hop]
      rfl
    have hfail : isFailing ⟨StreamConfigService.markApplied id call.draftId s.service,
        s.calls.insert id { call with stage := .applied }, (id, call.config) :: s.order⟩ id =
          false := by
      unfold isFailing
      rw [lookup_insert, if_pos rfl]
      rfl
    unfold standing
    rw [List.find?_cons, happ, hfail]
    rfl
  have hother : ∀ j, j ≠ id →
      (s.calls.insert id { call with stage := .applied })[j]? = s.calls[j]? := by
    intro j hj
    rw [lookup_insert, if_neg hj]
  refine ⟨hrow.stands rfl (by rw [hstanding]; rfl) hother,
    hsettings.stands rfl (by rw [hstanding]; rfl) hother, ?_⟩
  have hmark := h.known.marked id call hid
  refine h.known.move hid (by rfl) ?_ (fun j hj => ?_) (fun p hp => ?_) fun _ => .inl rfl
  · simp only [Marked, hstage] at hmark ⊢
    simp_all
  · unfold StreamConfigService.markApplied setStatus
    dsimp only
    rw [lookup_modify]
    split_ifs
    · simpa using hj
    · exact hj
  · rcases List.mem_cons.mp hp with rfl | hp
    · exact .inr rfl
    · exact .inl hp

lemma Inv.succeed {id : ℤ} (h : Inv st s₀ s) (hs : step st s (.succeed id) = some s') :
    Inv st s₀ s' := by
  obtain ⟨call, hcall, hs⟩ := Option.bind_eq_some_iff.mp hs
  obtain rfl := Option.some.inj hs
  obtain ⟨hid, hstage⟩ := callAt_eq_some.mp hcall
  have happ : isApplied ⟨s.service, s.calls.erase id, s.order⟩ id =
      (isApplied s id && call.stage.mayFail) := by
    rw [hstage]
    exact (Bool.and_true _).symm
  exact ⟨h.row.leave hid rfl happ (fun _ _ => rfl) (by simp [Bears, rowPart, hstage]),
    h.settings.leave hid rfl happ (fun _ _ => rfl) (by simp [Bears, settingsPart, hstage]),
    h.known.leave fun _ hj => hj⟩

/-- The first of a list that satisfies a condition, where one that it is not is ruled out. -/
lemma find?_and_ne {id : ℤ} (p : ℤ × StreamConfig → Bool) :
    ∀ l : List (ℤ × StreamConfig), (∀ r ∈ l.find? p, r.1 ≠ id) →
      (l.find? fun r => p r && r.1 ≠ id) = l.find? p
  | [], _ => rfl
  | r :: l, h => by
    rw [List.find?_cons] at h ⊢
    rw [List.find?_cons]
    cases hp : p r with
    | true =>
      rw [hp] at h
      simp [h r rfl]
    | false =>
      rw [hp] at h
      exact find?_and_ne p l h

/-- What was in force where a call fails is borne by it, if it was its own. -/
lemma Stands.fail {α : Type} {part : Part α} {id : ℤ} {call : Call} (h : Stands part s₀ s)
    (hk : Known st s) (hid : s.calls[id]? = some call) (hmay : call.stage.mayFail)
    (hb : ∀ v, Bears part v call → Bears part v { call with stage := .failing })
    (hown : call.stage = .applied → Bears part (part.ofConfig call.config)
      { call with stage := .failing }) :
    Stands part s₀ { s with calls := s.calls.insert id { call with stage := .failing } } := by
  rcases h with h | ⟨j, other, hj, ho⟩
  · have hfind : (s.order.find? fun p => isApplied s p.1 && !isFailing s p.1 && p.1 ≠ id) =
        s.order.find? fun p =>
          isApplied { s with calls := s.calls.insert id { call with stage := .failing } } p.1 &&
          !isFailing { s with calls := s.calls.insert id { call with stage := .failing } } p.1 := by
      refine congrArg (fun f => s.order.find? f) (funext fun p => ?_)
      have happ : isApplied { s with calls := s.calls.insert id { call with stage := .failing } }
          p.1 = isApplied s p.1 := rfl
      rw [happ, isFailing_insert, Bool.and_assoc]
      by_cases hp : p.1 = id <;> simp [hp, Stage.mayFail]
    by_cases hfound : ∀ p ∈ s.order.find? fun p => isApplied s p.1 && !isFailing s p.1, p.1 ≠ id
    · left
      rw [h, standing, standing, ← hfind, find?_and_ne _ _ hfound]
    · push Not at hfound
      obtain ⟨p, hp, rfl⟩ := hfound
      have hmem := List.mem_of_find?_eq_some hp
      refine .inr ⟨p.1, _, by rw [lookup_insert, if_pos rfl], ?_⟩
      have hconf : inForce part s₀ (standing s) = part.ofConfig call.config := by
        rw [standing, hp, hk.config p hmem call hid]
        rfl
      rw [h, hconf]
      exact hown (hk.reached p hmem call hid hmay)
  · obtain ⟨c, hc, hb'⟩ := bears_insert hid (hb _) j other hj ho
    exact .inr ⟨j, c, hc, hb'⟩

lemma Inv.fail {id : ℤ} (h : Inv st s₀ s) (hs : step st s (.fail id) = some s') :
    Inv st s₀ s' := by
  obtain ⟨call, hcall, hs⟩ := Option.bind_eq_some_iff.mp hs
  obtain rfl := Option.some.inj hs
  obtain ⟨hid, hmay⟩ := Option.filter_eq_some_iff.mp hcall
  have hmark := h.known.marked id call hid
  refine ⟨h.row.fail h.known hid hmay ?_ ?_, h.settings.fail h.known hid hmay ?_ ?_,
    h.known.move hid (by rfl) (by simp [Marked]) (fun _ hj => hj) (fun p hp => .inl hp)
      fun hf => absurd hf (by simp [Stage.mayFail])⟩
  · rintro v (ho | ⟨-, hw, hv⟩)
    · cases ho
    · exact .inr ⟨by simp, hw, hv⟩
  · intro hstage
    exact .inr ⟨by simp, hmark.1 (.inr (.inr hstage)), rfl⟩
  · rintro v (ho | ⟨-, hw, hv⟩)
    · have hclear : call.stage = .clearedSettings := by simpa [settingsPart] using ho
      rw [hclear] at hmay
      cases hmay
    · exact .inr ⟨by simp, hw, hv⟩
  · intro hstage
    exact .inr ⟨by simp, hmark.2.2.1 (.inr hstage), rfl⟩

/-- What is in force does not change where a failing call goes on failing. -/
lemma standing_failing {id : ℤ} {call call' : Call} {service : Service}
    (hid : s.calls[id]? = some call) (hops : service.operations = s.service.operations)
    (hf : call'.stage.mayFail = call.stage.mayFail) :
    standing ⟨service, s.calls.insert id call', s.order⟩ = standing s := by
  refine standing_congr rfl fun p _ => ?_
  unfold isApplied isFailing
  dsimp only
  rw [hops, lookup_insert]
  split_ifs with hp
  · rw [hp, hid]
    simp [hf]
  · rfl

lemma operations_restoreOutput (op : Operation) (s : Service) :
    (restoreOutput op s).operations = s.operations := by
  unfold restoreOutput upsertOutput putOutput
  cases op.previous.output with
  | some r =>
    dsimp only
    split_ifs <;> rfl
  | none => rfl

lemma Inv.restoreOutput {id : ℤ} (h : Inv st s₀ s) (hok : TakesTurn st s₀ s (.restoreOutput id))
    (hs : step st s (.restoreOutput id) = some s') : Inv st s₀ s' := by
  obtain ⟨call, hcall, hs⟩ := Option.bind_eq_some_iff.mp hs
  obtain ⟨op, hop, hs⟩ := Option.bind_eq_some_iff.mp hs
  obtain rfl := Option.some.inj hs
  obtain ⟨hid, hstage⟩ := callAt_eq_some.mp hcall
  have hops := operations_restoreOutput op s.service
  have hfail : Stage.restoredOutput.mayFail = call.stage.mayFail := by rw [hstage]; rfl
  refine ⟨(hok op hop).stands rfl ?_ fun j hj => ?_,
    h.settings.move hid (settings_restoreOutput op) hops hfail ?_,
    h.known.move hid (by rfl) ?_ (fun j hj => ?_) (fun p hp => .inl hp)
      fun hf => absurd hf (by simp [Stage.mayFail])⟩
  · rw [standing_failing hid hops hfail]
  · dsimp only
    rw [lookup_insert, if_neg hj]
  · simp [Bears, settingsPart, hstage]
  · simp [Marked]
  · rwa [hops]

lemma Inv.clearSettings {id : ℤ} (h : Inv st s₀ s)
    (hs : step st s (.clearSettings id) = some s') : Inv st s₀ s' := by
  obtain ⟨call, hcall, hs⟩ := Option.bind_eq_some_iff.mp hs
  obtain ⟨op, hop, hs⟩ := Option.bind_eq_some_iff.mp hs
  obtain rfl := Option.some.inj hs
  obtain ⟨hid, hstage⟩ := callAt_eq_some.mp hcall
  have hmark := h.known.marked id call hid
  refine ⟨h.row.move hid (row_of_eq rfl) rfl (by rw [hstage]; rfl) ?_,
    .inr ⟨id, _, by rw [lookup_insert, if_pos rfl], .inl (by simp [settingsPart])⟩,
    h.known.move hid (by rfl) ?_ (fun j hj => ?_) (fun p hp => .inl hp)
      fun hf => absurd hf (by simp [Stage.mayFail])⟩
  · simp [Bears, rowPart, hstage]
  · simp only [Marked, hstage] at hmark ⊢
    simp_all
  · exact hj

lemma Inv.restoreSettings {id : ℤ} (h : Inv st s₀ s)
    (hok : TakesTurn st s₀ s (.restoreSettings id))
    (hs : step st s (.restoreSettings id) = some s') : Inv st s₀ s' := by
  obtain ⟨call, hcall, hs⟩ := Option.bind_eq_some_iff.mp hs
  obtain ⟨op, hop, hs⟩ := Option.bind_eq_some_iff.mp hs
  obtain rfl := Option.some.inj hs
  obtain ⟨hid, hstage⟩ := callAt_eq_some.mp hcall
  have hmark := h.known.marked id call hid
  have hkept := kept_upsertSettings op.stationId op.previous.settings s.service
  have hops := operations_upsertSettings op.stationId op.previous.settings s.service
  have hfail : Stage.restoredSettings.mayFail = call.stage.mayFail := by rw [hstage]; rfl
  refine ⟨h.row.move hid (row_of_eq hkept.output) hops hfail ?_,
    (hok op hop).stands rfl ?_ fun j hj => ?_,
    h.known.move hid (by rfl) ?_ (fun j hj => ?_) (fun p hp => .inl hp)
      fun hf => absurd hf (by simp [Stage.mayFail])⟩
  · simp [Bears, rowPart, hstage]
  · rw [standing_failing hid hops hfail]
  · dsimp only
    rw [lookup_insert, if_neg hj]
  · simp only [Marked, hstage] at hmark ⊢
    simp_all
  · rwa [hops]

lemma Inv.rollBack {id : ℤ} (h : Inv st s₀ s) (hs : step st s (.rollBack id) = some s') :
    Inv st s₀ s' := by
  obtain ⟨call, hcall, hs⟩ := Option.bind_eq_some_iff.mp hs
  obtain rfl := Option.some.inj hs
  obtain ⟨hid, hstage⟩ := callAt_eq_some.mp hcall
  have hmark := h.known.marked id call hid
  have happ : isApplied ⟨setStatus id .rolledBack s.service, s.calls.erase id, s.order⟩ id =
      (isApplied s id && call.stage.mayFail) := by
    rw [hstage]
    unfold isApplied setStatus
    dsimp only
    rw [lookup_modify, if_pos rfl]
    cases s.service.operations[id]? <;> simp [Stage.mayFail]
  have hother : ∀ j : ℤ, j ≠ id →
      (setStatus id .rolledBack s.service).operations[j]? = s.service.operations[j]? := by
    intro j hj
    rw [setStatus, lookup_modify, if_neg hj]
  have hrow : call.wroteOutput = false := hmark.2.1 (.inr (.inr hstage))
  have hsettings : call.wroteSettings = false := hmark.2.2.2 hstage
  refine ⟨h.row.leave hid (row_of_eq rfl) happ hother ?_,
    h.settings.leave hid (settings_of_eq rfl) happ hother ?_, h.known.leave fun j hj => ?_⟩
  · simp [Bears, rowPart, hrow]
  · simp [Bears, settingsPart, hstage, hsettings]
  · rw [setStatus, lookup_modify]
    split_ifs
    · simpa using hj
    · exact hj

lemma inv_start (st : ℤ) (s₀ : Service) : Inv st s₀ (State.start s₀) where
  row := .inl rfl
  settings := .inl rfl
  known := by
    have hnone : ∀ id : ℤ, (State.start s₀).calls[id]? = none := fun id => by simp [State.start]
    refine ⟨fun id call hid => ?_, by simp [State.start], by simp [State.start],
      by simp [State.start], fun id call hid => ?_, fun id call hid => ?_⟩
    all_goals
      rw [hnone] at hid
      cases hid

lemma inv_step {e : Event} (h : Inv st s₀ s) (hok : TakesTurn st s₀ s e)
    (hs : step st s e = some s') : Inv st s₀ s' := by
  cases e with
  | begin draftId key reason => exact h.begin hs
  | writeOutput id => exact h.writeOutput hs
  | writeSettings id => exact h.writeSettings hs
  | markApplied id => exact h.markApplied hok hs
  | succeed id => exact h.succeed hs
  | fail id => exact h.fail hs
  | restoreOutput id => exact h.restoreOutput hok hs
  | clearSettings id => exact h.clearSettings hs
  | restoreSettings id => exact h.restoreSettings hok hs
  | rollBack id => exact h.rollBack hs

/-- Once all calls have returned, what stands is in force. -/
lemma Stands.agrees {α : Type} {part : Part α} (h : Stands part s₀ s)
    (hend : ∀ id : ℤ, s.calls[id]? = none) : Agrees part s₀ s := by
  have hstanding : standing s = lastApplied s := by
    have hfail : ∀ id, isFailing s id = false := fun id => by
      unfold isFailing
      rw [hend]
      rfl
    unfold standing lastApplied
    simp [hfail]
  rcases h with h | ⟨id, call, hid, -⟩
  · unfold Agrees
    rw [h, hstanding]
  · rw [hend] at hid
    cases hid

end Invariant

/-- A second draft of the station, for another host. -/
def twoDrafts : Service :=
  { onOldDestination with
    drafts := onOldDestination.drafts.insert 2
      ⟨{ newDestination with icecastHost := "other.example", host_ne := by decide },
        .validated, some .ready⟩ }

/-- The events of a call that becomes applied. -/
def succeeds (id : ℤ) : List Event :=
  [.writeOutput id, .writeSettings id, .markApplied id, .succeed id]

/-- The events of a call that has failed. -/
def putsBack (id : ℤ) : List Event :=
  [.fail id, .restoreOutput id, .clearSettings id, .restoreSettings id, .rollBack id]

/-- The second call begins and becomes applied while the first one verifies its output. -/
def overlapping : List Event :=
  [.begin 1 "first" "", .writeOutput 1, .writeSettings 1, .begin 2 "second" ""] ++
    succeeds 2 ++ putsBack 1

def oneAfterAnother : List Event :=
  [.begin 1 "first" "", .writeOutput 1, .writeSettings 1] ++ putsBack 1 ++
    [.begin 2 "second" ""] ++ succeeds 2

/-- A run after which all calls have returned. -/
lemma settles (s₀ : Service) (es : List Event) (p : State → Bool)
    (h : ((exec (step 1) (State.start s₀) es).any fun s => (rows s.calls).isEmpty && p s) = true) :
    ∃ s, exec (step 1) (State.start s₀) es = some s ∧ (∀ id : ℤ, s.calls[id]? = none) ∧ p s := by
  obtain ⟨s, hs, h⟩ := (Option.any_eq_true ..).mp h
  obtain ⟨hempty, hp⟩ := Bool.and_eq_true_iff.mp h
  refine ⟨s, hs, fun id => Option.eq_none_iff_forall_ne_some.mpr fun call hid => ?_, hp⟩
  have hmem : (id, call) ∈ rows s.calls := mem_rows.mpr hid
  rw [List.isEmpty_iff.mp hempty] at hmem
  cases hmem

end OnAir.StreamTurns
