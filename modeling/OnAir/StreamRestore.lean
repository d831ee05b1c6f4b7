import OnAir.Runs
import OnAir.StreamConfigService

/-!
A call of `apply` that fails puts back what it found: the row of the station, its output settings
and the password it resolves to.

The settings come back whatever they were. The row comes back through `upsert`, which fills in
what is empty, keeps a password where it is given none, and moves a plain one into the vault; and
the vault has one place for the password of a station, which nothing puts back.
-/

namespace OnAir.StreamRestore

open OnAir.Database Programs PythonText ReplicationApplier StreamConfigService OnAir.Table

/-- The output of the station is what it was. -/
structure SameOutput (st : ℤ) (s s' : Service) : Prop where
  row : output s' st = output s st
  settings : ∀ key ∈ outputSettingKeys, setting s' st key = setting s st key
  password : icecastPassword s' st = icecastPassword s st

/-! ### The condition on a call -/

/-- None of these places raises. -/
def passes (env : Env) (points : List Point) : Bool := points.all fun p => env.raises p = none

/-- A call comes to the output of the station. -/
def reachesOutput (env : Env) : Bool :=
  passes env [.safeMutation, .journal, .resolve] && (!env.haEnabled || passes env [.replicate])

/-- A call puts a password into the vault. -/
def storesSecret (env : Env) (given : String) : Bool :=
  reachesOutput env && isPlain given && passes env [.credential]

/-- A call writes the row of the station. -/
def writesRow (env : Env) (given : String) : Bool :=
  reachesOutput env && (!isPlain given || passes env [.credential]) && passes env [.output]

/-- Nothing in the row is filled in. -/
structure Filled (r : StationOutput) : Prop where
  host : r.icecastHost ≠ ""
  port : r.icecastPort ≠ 0
  mount : r.icecastMount ≠ ""
  user : r.icecastUser ≠ ""
  profile : r.streamCodecProfile ≠ ""
  bitrate : r.streamBitrateKbps ≠ 0

instance (r : StationOutput) : Decidable (Filled r) :=
  decidable_of_iff (_ ∧ _ ∧ _ ∧ _ ∧ _ ∧ _)
    ⟨fun h => ⟨h.1, h.2.1, h.2.2.1, h.2.2.2.1, h.2.2.2.2.1, h.2.2.2.2.2⟩,
      fun h => ⟨h.host, h.port, h.mount, h.user, h.profile, h.bitrate⟩⟩

/-- There was no row, or a row without gaps whose password the call does not touch: it has none
and the call writes none, or it is a reference and the call stores nothing else under it. -/
def Restorable (env : Env) (s : Service) (c : StreamConfig) : Prop :=
  ∀ r ∈ output s c.stationId,
    let new := resolveCredential s c.passwordReference
    Filled r ∧
      if r.icecastPassword = "" then new = "" ∨ writesRow env new = false
      else isCredentialReference r.icecastPassword ∧
        (trim r.icecastPassword = credentialReference c.stationId →
          storesSecret env new → new = resolveCredential s r.icecastPassword)

instance (env : Env) (s : Service) (c : StreamConfig) : Decidable (Restorable env s c) := by
  unfold Restorable
  infer_instance

/-! ### What a call leaves alone -/

section Kept

variable {s s' : Service} {env : Env}

/-- The vault, the rows of the stations and what operations saved. -/
structure Kept (s s' : Service) : Prop where
  credentials : s'.credentials = s.credentials
  output : s'.data.stationOutputs = s.data.stationOutputs
  saved : ∀ id : ℤ, s'.operations[id]?.map (fun op => (op.stationId, op.previous)) =
    s.operations[id]?.map fun op => (op.stationId, op.previous)

instance : IsPreorder Service Kept where
  refl _ := ⟨rfl, rfl, fun _ => rfl⟩
  trans _ _ _ h h' := ⟨h'.credentials.trans h.credentials, h'.output.trans h.output,
    fun id => (h'.saved id).trans (h.saved id)⟩

lemma ends_check {p : Point} {Q : PUnit → Service → Prop} {E : Service → Prop} :
    Ends (check env p) s Q E ↔
      (env.raises p = none → Q ⟨⟩ s) ∧ (env.raises p ≠ none → E s) := by
  unfold check
  cases env.raises p with
  | none => simp
  | some e => simp

lemma kept_check (p : Point) : Moves Kept (check env p) := by
  unfold check
  cases env.raises p with
  | none => exact Moves.pure _
  | some e => exact Moves.throw _

lemma kept_listen (icecast : Bool) (rs : List Round) (successes failures : ℕ) (last : Bool) :
    Moves Kept (listen icecast rs successes failures last) := by
  induction rs generalizing successes failures last with
  | nil => exact Moves.pure _
  | cons r rs ih =>
    unfold StreamConfigService.listen
    refine Moves.ite (fun _ => Moves.throw _) fun _ => Moves.ite (fun _ => ih ..) fun _ => ?_
    exact Moves.ite (fun _ => ih ..) fun _ => Moves.ite (fun _ => Moves.throw _) fun _ => ih ..

lemma kept_verifyLive (c : StreamConfig) : Moves Kept (verifyLive env c) := by
  unfold verifyLive
  split
  · exact Moves.pure _
  · refine Moves.ite (fun _ => Moves.throw _) fun _ => (kept_check _).bind fun _ => ?_
    refine Moves.ite (fun _ => Moves.throw _) fun _ => (kept_listen ..).bind fun r => ?_
    refine (kept_check _).bind fun _ => ?_
    exact Moves.ite (fun _ => Moves.throw _) fun _ => Moves.pure _

lemma kept_upsertSettings (st : ℤ) (values : List (String × String)) (s : Service) :
    Kept s (upsertSettings st values s) := by
  refine ⟨rfl, ?_, fun _ => rfl⟩
  change (values.foldl (fun d v => setSetting d st v.1 v.2) s.data).stationOutputs = _
  refine Runs.inv_of_foldl (P := fun d : Data => d.stationOutputs = s.data.stationOutputs)
    (fun d v h => ?_) values rfl
  exact h

lemma kept_setStatus (id : ℤ) (status : OperationStatus) (s : Service) :
    Kept s (setStatus id status s) where
  credentials := rfl
  output := rfl
  saved j := by
    rw [setStatus, lookup_modify]
    split_ifs
    · rw [Option.map_map]
      rfl
    · rfl

lemma kept_markApplied (id draftId : ℤ) (s : Service) : Kept s (markApplied id draftId s) :=
  ⟨rfl, rfl, (kept_setStatus id .applied s).saved⟩

lemma kept_replicateOrdered (draftId : ℤ) (c : StreamConfig) (s : Service) :
    Kept s (replicateOrdered env draftId c s) := by
  unfold replicateOrdered
  split
  · exact refl_of Kept s
  · exact ⟨rfl, rfl, fun _ => rfl⟩

end Kept

/-! ### Settings -/

section Settings

variable {st : ℤ} {s : Service} {key : String}

lemma setting_setSetting (d : Data) (k v : String) :
    ((setSetting d st k v).stationSettings[st]?.bind fun t => t[key]?) =
      if key = k then some v else d.stationSettings[st]?.bind fun t => t[key]? := by
  rw [setSetting, lookup_insert, if_pos rfl, Option.bind_some, Std.ExtTreeMap.getElem?_insert,
    Std.ExtTreeMap.getD_eq_getD_getElem?]
  by_cases hk : key = k
  · simp [hk]
  · rw [if_neg (by simpa using Ne.symm hk), if_neg hk]
    cases d.stationSettings[st]? with
    | none => simp
    | some t => rfl

/-- What is put back of settings that were saved by their keys. -/
lemma setting_upsertSettings (saved : String → Option String) (keys : List String) (s : Service) :
    setting (upsertSettings st (keys.filterMap fun k => (saved k).map fun v => (k, v)) s) st key =
      if key ∈ keys ∧ (saved key).isSome then saved key else setting s st key := by
  induction keys generalizing s with
  | nil => simp [upsertSettings]
  | cons k keys ih =>
    cases hk : saved k with
    | none =>
      rw [List.filterMap_cons, hk, Option.map_none]
      dsimp only
      rw [ih]
      by_cases hkey : key = k
      · subst hkey
        simp [hk]
      · simp [hkey]
    | some v =>
      rw [List.filterMap_cons, hk, Option.map_some]
      change setting (upsertSettings st _
        { s with data := setSetting s.data st k v }) st key = _
      rw [ih]
      have hset : setting { s with data := setSetting s.data st k v } st key =
          if key = k then some v else setting s st key := setting_setSetting ..
      rw [hset]
      by_cases hkey : key = k
      · subst hkey
        simp [hk]
      · simp [hkey]

lemma setting_clearSettings (s : Service) :
    setting (clearSettings st s) st key =
      if key ∈ outputSettingKeys then none else setting s st key := by
  unfold setting clearSettings
  rw [lookup_modify, if_pos rfl]
  cases s.data.stationSettings[st]? with
  | none => simp
  | some t =>
    rw [Option.map_some, Option.bind_some, Option.bind_some, Std.ExtTreeMap.getElem?_filter']
    split_ifs with hk
    · simp [hk]
    · simp only [hk, not_false_eq_true, decide_true]
      cases t[key]? <;> rfl

/-- The settings that were saved come back, whatever was written since. -/
lemma setting_restoreSettings {op : Operation} {s₀ : Service}
    (hp : op.previous.settings = (snapshotOutput op.stationId s₀).settings)
    (hkey : key ∈ outputSettingKeys) :
    setting (restoreSettings op s) op.stationId key = setting s₀ op.stationId key := by
  unfold restoreSettings
  rw [hp, snapshotOutput, setting_upsertSettings, setting_clearSettings, if_pos hkey]
  cases hv : setting s₀ op.stationId key with
  | none => simp
  | some v => simp [hkey]

end Settings

/-! ### What a call has written when it fails -/

section Changes

variable {s s' : Service} {env : Env} {c : StreamConfig}

/-- The password that a call stores. -/
def newPassword (s : Service) (c : StreamConfig) : String :=
  givenPassword (output s c.stationId) (resolveCredential s c.passwordReference)

/-- The vault and the row after a call that failed, before anything is put back. -/
structure Written (env : Env) (c : StreamConfig) (s s' : Service) : Prop where
  credentials : s'.credentials =
    if storesSecret env (newPassword s c) then
      s.credentials.insert (credentialReference c.stationId) (newPassword s c)
    else s.credentials
  password : (output s' c.stationId).map (·.icecastPassword) =
    if writesRow env (newPassword s c) then some (storedPassword c.stationId (newPassword s c))
    else (output s c.stationId).map (·.icecastPassword)
  saved : ∀ id : ℤ, s'.operations[id]?.map (fun op => (op.stationId, op.previous)) =
    s.operations[id]?.map fun op => (op.stationId, op.previous)

lemma Written.kept {t : Service} (h : Written env c s s') (hk : Kept s' t) : Written env c s t where
  credentials := hk.credentials.trans h.credentials
  password := by
    unfold output
    rw [hk.output]
    exact h.password
  saved id := (hk.saved id).trans (h.saved id)

lemma Written.ends {α : Type} {x : ServiceM α} (h : Written env c s s') (hx : Moves Kept x) :
    Ends x s' (fun _ => Written env c s) (Written env c s) :=
  (hx.ends s').mono (fun _ _ hk => h.kept hk) fun _ hk => h.kept hk

/-- Where a call fails before it comes to the output. -/
lemma Written.of_kept (h : Kept s s') (hr : reachesOutput env = false) : Written env c s s' where
  credentials := by simp [storesSecret, hr, h.credentials]
  password := by simp [writesRow, hr, output, h.output]
  saved := h.saved

/-- The last step of `upsert`, once the vault is as it should be. -/
lemma putOutput_ends {given : String} (o : StationOutput) (hg : given = newPassword s c)
    (hcred : s'.credentials = if storesSecret env given then
      s.credentials.insert (credentialReference c.stationId) given else s.credentials)
    (hout : output s' c.stationId = output s c.stationId)
    (hsaved : ∀ id : ℤ, s'.operations[id]?.map (fun op => (op.stationId, op.previous)) =
      s.operations[id]?.map fun op => (op.stationId, op.previous))
    (hw : writesRow env given = passes env [.output]) :
    Ends (do
        check env .output
        modify (putOutput c.stationId given o)) s'
      (fun _ => Written env c s) (Written env c s) := by
  have hpass : passes env [.output] = decide (env.raises .output = none) := by simp [passes]
  subst hg
  rw [ends_bind, ends_check]
  refine ⟨fun hnone => ⟨hcred, ?_, hsaved⟩, fun hraise => ⟨hcred, ?_, hsaved⟩⟩
  · rw [hw, hpass, if_pos (by simpa using hnone), output, putOutput, lookup_insert, if_pos rfl]
    rfl
  · rw [hw, hpass, if_neg (by simpa using hraise), hout]

lemma upsert_ends (hk : Kept s s') (hr : reachesOutput env) :
    Ends (upsert env c.stationId
        (outputOf c (resolveCredential s c.passwordReference))) s'
      (fun _ => Written env c s) (Written env c s) := by
  have hout : output s' c.stationId = output s c.stationId := by
    unfold output
    rw [hk.output]
  unfold upsert
  rw [ends_bind, ends_get, hout]
  have hgiven : givenPassword (output s c.stationId)
      (outputOf c (resolveCredential s c.passwordReference)).icecastPassword =
        newPassword s c := rfl
  rw [hgiven]
  refine Ends.ite (fun hplain => ?_) fun hplain => ?_
  · rw [ends_bind, ends_check]
    refine ⟨fun hnone => ?_, fun hraise => ?_⟩
    · have hcred : passes env [.credential] = true := by simp [passes, hnone]
      rw [ends_bind, ends_modify]
      refine putOutput_ends _ rfl ?_ hout hk.saved ?_
      · rw [storesSecret, hr, hplain, hcred, if_pos (by rfl), storeIcecastPassword, hk.credentials]
      · simp [writesRow, hr, hcred]
    · have hcred : passes env [.credential] = false := by simpa [passes] using hraise
      refine ⟨?_, ?_, hk.saved⟩
      · simp [storesSecret, hcred, hk.credentials]
      · simp [writesRow, hplain, hcred, hout]
  · refine putOutput_ends _ rfl ?_ hout hk.saved ?_
    · simp [storesSecret, hplain, hk.credentials]
    · simp [writesRow, hr, hplain]

/-- What a call does once the output is written. -/
def finishApply (env : Env) (c : StreamConfig) (id draftId : ℤ) : ServiceM Bool := do
  check env .settings
  modify (upsertSettings c.stationId (settingsOf c))
  check env .readback
  let stored := output (← get) c.stationId
  if !stored.any fun r =>
      r.icecastHost = c.icecastHost && r.icecastMount = c.icecastMount then
    throw "authoritative_readback_failed"
  else
    let live ← verifyLive env c
    check env .record
    modify (markApplied id draftId)
    check env .audit
    return live

/-- What a call does once the change is journaled. -/
def applyOutput (env : Env) (c : StreamConfig) (id draftId : ℤ) : ServiceM Bool := do
  check env .resolve
  let password := resolveCredential (← get) c.passwordReference
  upsert env c.stationId (outputOf c password)
  finishApply env c id draftId

/-- From the output on, a call keeps what it has written. -/
lemma finishApply_ends (h : Written env c s s') (id draftId : ℤ) :
    Ends (finishApply env c id draftId) s' (fun _ => Written env c s) (Written env c s) := by
  refine h.ends ?_
  refine (kept_check _).bind fun _ => Moves.bindModify (kept_upsertSettings _ _) fun _ => ?_
  refine (kept_check _).bind fun _ => Moves.bindGet fun s => ?_
  refine Moves.ite (fun _ => Moves.throw _) fun _ => (kept_verifyLive c).bind fun live => ?_
  refine (kept_check _).bind fun _ => Moves.bindModify (kept_markApplied _ _) fun _ => ?_
  exact (kept_check _).bind fun _ => Moves.pure _

/-- What a call has written when it fails. -/
lemma applyChanges_ends (s : Service) (id draftId : ℤ) :
    Ends (applyChanges env id draftId c) s (fun _ => Written env c s) (Written env c s) := by
  have hfail : ∀ {p : Point} {s' : Service}, Kept s s' → env.raises p ≠ none →
      (p = .safeMutation ∨ p = .journal ∨ p = .resolve ∨ (env.haEnabled = true ∧ p = .replicate)) →
      Written env c s s' := by
    rintro p s' hk hraise hp
    refine .of_kept hk ?_
    rcases hp with rfl | rfl | rfl | ⟨hha, rfl⟩
    · simp [reachesOutput, passes, hraise]
    · simp [reachesOutput, passes, hraise]
    · simp [reachesOutput, passes, hraise]
    · simp [reachesOutput, passes, hraise, hha]
  have hmore : ∀ s', Kept s s' → env.raises .safeMutation = none → env.raises .journal = none →
      (env.haEnabled = true → env.raises .replicate = none) →
      Ends (applyOutput env c id draftId) s' (fun _ => Written env c s) (Written env c s) := by
    intro s' hk hsafe hjournal hrep
    unfold applyOutput
    rw [ends_bind, ends_check]
    refine ⟨fun hres => ?_, fun hres => hfail hk hres (.inr (.inr (.inl rfl)))⟩
    rw [ends_bind, ends_get]
    have hcred : resolveCredential s' c.passwordReference =
        resolveCredential s c.passwordReference := by
      unfold resolveCredential
      rw [hk.credentials]
    have hreach : reachesOutput env := by
      cases hha : env.haEnabled with
      | false => simp [reachesOutput, passes, hsafe, hjournal, hres, hha]
      | true => simp [reachesOutput, passes, hsafe, hjournal, hres, hrep hha]
    rw [hcred]
    exact (upsert_ends hk hreach).bind fun _ s'' h => finishApply_ends h id draftId
  unfold applyChanges
  rw [ends_bind, ends_check]
  refine ⟨fun hsafe => ?_, fun hraise => hfail (refl_of Kept s) hraise (.inl rfl)⟩
  rw [ends_bind, ends_check]
  refine ⟨fun hjournal => ?_, fun hraise => hfail (refl_of Kept s) hraise (.inr (.inl rfl))⟩
  have hkept : Kept s (appendJournal env draftId c s) := ⟨rfl, rfl, fun _ => rfl⟩
  rw [ends_bind, ends_modify]
  refine Ends.ite (fun hha => ?_) fun hha => ?_
  · rw [ends_bind, ends_check]
    refine ⟨fun hrep => ?_, fun hraise => hfail hkept hraise (.inr (.inr (.inr ⟨hha, rfl⟩)))⟩
    rw [ends_bind, ends_modify]
    exact hmore _ (trans_of Kept hkept (kept_replicateOrdered ..)) hsafe hjournal fun _ => hrep
  · exact hmore _ hkept hsafe hjournal fun h => absurd h hha

end Changes

/-! ### What is put back -/

section Restored

variable {s s' : Service} {env : Env} {c : StreamConfig} {st : ℤ} {password : String}

lemma isCredentialReference_credentialReference (st : ℤ) :
    isCredentialReference (credentialReference st) := by
  unfold isCredentialReference credentialReference
  rw [String.append_assoc, String.append_assoc, String.toList_append, List.isPrefixOf_iff_prefix]
  exact List.prefix_append _ _

lemma ne_of_reference (h : isCredentialReference password) : password ≠ "" := by
  rintro rfl
  exact absurd h (by decide)

/-- A password that is stored as it is given is none, or a reference. -/
lemma storedPassword_eq_iff :
    storedPassword st password = password ↔ password = "" ∨ isCredentialReference password := by
  unfold storedPassword
  by_cases he : password = ""
  · simp [he]
  by_cases hr : isCredentialReference password
  · simp [hr]
  · have hne : credentialReference st ≠ password := fun h =>
      hr (h ▸ isCredentialReference_credentialReference st)
    simp [he, hr, hne]

lemma isCredentialReference_storedPassword (h : password ≠ "") :
    isCredentialReference (storedPassword st password) := by
  unfold storedPassword
  by_cases hr : isCredentialReference password
  · simp [hr]
  · simp [h, hr, isCredentialReference_credentialReference]

lemma isPlain_eq_false_iff :
    isPlain password = false ↔ password = "" ∨ isCredentialReference password := by
  unfold isPlain
  by_cases he : password = "" <;> simp [he]

/-- The row that comes back for one that was there. -/
lemma output_upsertOutput (r : StationOutput) (s : Service) :
    output (upsertOutput st (restoredOutput r) s) st = some { restoredOutput r with
      icecastPassword := storedPassword st (givenPassword (output s st) r.icecastPassword) } := by
  unfold upsertOutput putOutput output
  dsimp only
  have hdata : ∀ b : Bool, (if b then storeIcecastPassword st
      (givenPassword s.data.stationOutputs[st]? r.icecastPassword) s else s).data = s.data := by
    intro b
    cases b <;> rfl
  rw [lookup_insert, if_pos rfl]
  have hp : (restoredOutput r).streamCodecProfile ≠ "" := by
    dsimp only [restoredOutput]
    split
    · simp
    next h => exact h
  have hb : (restoredOutput r).streamBitrateKbps ≠ 0 := by
    dsimp only [restoredOutput]
    split
    · simp
    next h => exact h
  rw [if_neg hp, if_neg hb]
  rfl

lemma credentials_upsertOutput (o : StationOutput) (s : Service) :
    (upsertOutput st o s).credentials =
      if isPlain (givenPassword (output s st) o.icecastPassword) then
        s.credentials.insert (credentialReference st)
          (givenPassword (output s st) o.icecastPassword)
      else s.credentials := by
  unfold upsertOutput putOutput
  dsimp only
  split_ifs <;> rfl

/-- Only a row without gaps comes back as it was, apart from its password. -/
lemma restoredOutput_eq_iff {r : StationOutput} (p : String) :
    { restoredOutput r with icecastPassword := p } = r ↔ Filled r ∧ p = r.icecastPassword := by
  constructor
  · intro h
    have hhost := congrArg StationOutput.icecastHost h
    have hport := congrArg StationOutput.icecastPort h
    have hmount := congrArg StationOutput.icecastMount h
    have huser := congrArg StationOutput.icecastUser h
    have hprofile := congrArg StationOutput.streamCodecProfile h
    have hbitrate := congrArg StationOutput.streamBitrateKbps h
    dsimp only [restoredOutput] at hhost hport hmount huser hprofile hbitrate
    refine ⟨⟨fun he => ?_, fun he => ?_, fun he => ?_, fun he => ?_, fun he => ?_, fun he => ?_⟩,
      congrArg StationOutput.icecastPassword h⟩
    · simp [he] at hhost
    · simp [he] at hport
    · simp [he] at hmount
    · simp [he] at huser
    · simp [he] at hprofile
    · simp [he] at hbitrate
  · rintro ⟨h, rfl⟩
    simp [restoredOutput, h.host, h.port, h.mount, h.user, h.profile, h.bitrate]

/-- `_restore_previous`, for an operation that is there. -/
def restored (op : Operation) (s : Service) : Service := restoreSettings op (restoreOutput op s)

lemma output_restored (op : Operation) (s : Service) :
    output (restored op s) op.stationId = output (restoreOutput op s) op.stationId := by
  unfold restored restoreSettings output
  rw [(kept_upsertSettings ..).output]
  rfl

lemma credentials_restored (op : Operation) (s : Service) :
    (restored op s).credentials = (restoreOutput op s).credentials := rfl

lemma storedPassword_eq_empty : storedPassword st password = "" ↔ password = "" := by
  constructor
  · intro h
    by_contra hne
    have href : isCredentialReference (storedPassword st password) :=
      isCredentialReference_storedPassword hne
    exact ne_of_reference href h
  · rintro rfl
    rfl

/-- A row that had no password has none again if the call wrote none. -/
lemma password_none_iff (hw : Written env c s s') {r : StationOutput}
    (hs : output s c.stationId = some r) (hr : r.icecastPassword = "") :
    storedPassword c.stationId (givenPassword (output s' c.stationId) r.icecastPassword) = "" ↔
      resolveCredential s c.passwordReference = "" ∨
        writesRow env (resolveCredential s c.passwordReference) = false := by
  have hnew : newPassword s c = resolveCredential s c.passwordReference := by
    unfold newPassword givenPassword
    rw [hs, Option.map_some, hr]
    split_ifs with hq
    · exact hq.symm
    · rfl
  have hgiven : givenPassword (output s' c.stationId) r.icecastPassword =
      ((output s' c.stationId).map (·.icecastPassword)).getD "" := by
    rw [givenPassword, if_pos hr]
  rw [storedPassword_eq_empty, hgiven, hw.password, hnew, hs]
  cases writesRow env (resolveCredential s c.passwordReference) with
  | true => simp [storedPassword_eq_empty]
  | false => simp [hr]

/-- A reference resolves to what it did if nothing else is stored under it. -/
lemma password_reference_iff (hw : Written env c s s') {r : StationOutput}
    (hs : output s c.stationId = some r) (hr : isCredentialReference r.icecastPassword) :
    resolveCredential s' r.icecastPassword = resolveCredential s r.icecastPassword ↔
      (trim r.icecastPassword = credentialReference c.stationId →
        storesSecret env (resolveCredential s c.passwordReference) →
          resolveCredential s c.passwordReference = resolveCredential s r.icecastPassword) := by
  have hplain : isPlain r.icecastPassword = false := isPlain_eq_false_iff.mpr (.inr hr)
  have hcred : s'.credentials =
      if storesSecret env (resolveCredential s c.passwordReference) then
        s.credentials.insert (credentialReference c.stationId)
          (resolveCredential s c.passwordReference)
      else s.credentials := by
    rw [hw.credentials]
    have hnew : newPassword s c = if resolveCredential s c.passwordReference = "" then
        r.icecastPassword else resolveCredential s c.passwordReference := by
      unfold newPassword givenPassword
      rw [hs]
      rfl
    rw [hnew]
    by_cases hq : resolveCredential s c.passwordReference = ""
    · simp [hq, storesSecret, hplain, show isPlain "" = false from rfl]
    · rw [if_neg hq]
  have hres : ∀ t : Service, resolveCredential t r.icecastPassword =
      (t.credentials[trim r.icecastPassword]?).getD "" := fun t => by
    rw [resolveCredential, if_pos hr]
  rw [hres s', hres s, hcred]
  cases storesSecret env (resolveCredential s c.passwordReference) with
  | false => simp
  | true =>
    rw [if_pos rfl, Std.ExtTreeMap.getElem?_insert]
    by_cases ht : trim r.icecastPassword = credentialReference c.stationId
    · simp [ht]
    · simp [ht, Ne.symm ht]

/-- **What is put back is what was there** exactly if the call can be taken back. -/
lemma restored_iff {op : Operation} (hw : Written env c s s') (hst : op.stationId = c.stationId)
    (hp : op.previous = snapshotOutput c.stationId s) :
    SameOutput c.stationId s (restored op s') ↔ Restorable env s c := by
  have hsettings : ∀ key ∈ outputSettingKeys,
      setting (restored op s') c.stationId key = setting s c.stationId key := by
    intro key hkey
    rw [← hst]
    exact setting_restoreSettings (by rw [hp, hst]) hkey
  have hrow := output_restored op s'
  have hcred := credentials_restored op s'
  have hprev : op.previous.output = output s c.stationId := by rw [hp, snapshotOutput]
  unfold restoreOutput at hrow hcred
  rw [hst, hprev] at hrow hcred
  cases hs : output s c.stationId with
  | none =>
    have hnone : output (restored op s') c.stationId = none := by
      rw [hrow, hs]
      unfold output
      rw [lookup_erase, if_pos rfl]
    refine iff_of_true ⟨hnone.trans hs.symm, hsettings, ?_⟩ ?_
    · rw [icecastPassword, icecastPassword, hnone, hs]
      rfl
    · intro r hr
      rw [hs] at hr
      cases hr
  | some r =>
    rw [hs] at hrow hcred
    dsimp only at hrow hcred
    rw [output_upsertOutput] at hrow
    rw [credentials_upsertOutput] at hcred
    have hpass : (restoredOutput r).icecastPassword = r.icecastPassword := rfl
    rw [hpass] at hcred
    have hiff := restoredOutput_eq_iff (r := r)
      (storedPassword c.stationId (givenPassword (output s' c.stationId) r.icecastPassword))
    have hrestorable : Restorable env s c ↔ Filled r ∧
        if r.icecastPassword = "" then resolveCredential s c.passwordReference = "" ∨
          writesRow env (resolveCredential s c.passwordReference) = false
        else isCredentialReference r.icecastPassword ∧
          (trim r.icecastPassword = credentialReference c.stationId →
            storesSecret env (resolveCredential s c.passwordReference) →
              resolveCredential s c.passwordReference =
                resolveCredential s r.icecastPassword) := by
      unfold Restorable
      rw [hs]
      simp
    rw [hrestorable]
    by_cases hr : r.icecastPassword = ""
    · rw [if_pos hr, ← password_none_iff hw hs hr]
      constructor
      · intro h
        have heq := h.row
        rw [hrow, hs, Option.some.injEq, hiff] at heq
        exact ⟨heq.1, heq.2.trans hr⟩
      · rintro ⟨hf, hnone⟩
        have heq := hiff.mpr ⟨hf, hnone.trans hr.symm⟩
        have hsame : output (restored op s') c.stationId = output s c.stationId := by
          rw [hrow, hs, heq]
        refine ⟨hsame, hsettings, ?_⟩
        rw [icecastPassword, icecastPassword, hsame, hs, Option.map_some, Option.map_some, hr]
        rfl
    · have hgiven : givenPassword (output s' c.stationId) r.icecastPassword =
          r.icecastPassword := by rw [givenPassword, if_neg hr]
      rw [hgiven] at hrow hcred hiff
      rw [if_neg hr]
      have hstored : storedPassword c.stationId r.icecastPassword = r.icecastPassword ↔
          r.icecastPassword = "" ∨ isCredentialReference r.icecastPassword :=
        storedPassword_eq_iff
      have hresolve : isCredentialReference r.icecastPassword →
          resolveCredential (restored op s') r.icecastPassword =
            resolveCredential s' r.icecastPassword := by
        intro href
        have hplain : isPlain r.icecastPassword = false := isPlain_eq_false_iff.mpr (.inr href)
        unfold resolveCredential
        rw [hcred, hplain]
        rfl
      constructor
      · intro h
        have heq := h.row
        rw [hrow, hs, Option.some.injEq, hiff] at heq
        have href := (hstored.mp heq.2).resolve_left hr
        have hpw := h.password
        rw [icecastPassword, icecastPassword, h.row, hs, Option.map_some, Option.map_some,
          Option.some.injEq, hresolve href] at hpw
        exact ⟨heq.1, href, (password_reference_iff hw hs href).mp hpw⟩
      · rintro ⟨hf, href, hsame⟩
        have heq := hiff.mpr ⟨hf, hstored.mpr (.inr href)⟩
        have hout : output (restored op s') c.stationId = output s c.stationId := by
          rw [hrow, hs, heq]
        refine ⟨hout, hsettings, ?_⟩
        rw [icecastPassword, icecastPassword, hout, hs, Option.map_some, Option.map_some,
          hresolve href, (password_reference_iff hw hs href).mpr hsame]

end Restored

/-! ### A call that fails -/

section Apply

variable {s s₁ s' : Service} {env : Env} {c : StreamConfig} {draftId id : ℤ}
  {key reason e : String}

/-- What is there once the row of the operation is. -/
lemma beginApply_ends (draftId : ℤ) (key reason : String) (s : Service) :
    Ends (beginApply draftId key reason) s
      (fun begun s₁ => ∀ id c, begun = .new id c → ∃ operation : Operation,
        s₁ = { s with operations := s.operations.insert id operation } ∧
          s.operations[id]? = none ∧ operation.stationId = c.stationId ∧
          operation.previous = snapshotOutput c.stationId s)
      (fun _ => True) := by
  unfold beginApply
  refine Ends.ite (fun _ => trivial) fun _ => ?_
  rw [ends_bind, ends_get]
  dsimp only
  split
  · exact fun id c h => by cases h
  · split
    · trivial
    · refine Ends.ite (fun _ => trivial) fun _ => Ends.ite (fun _ => trivial) fun _ => ?_
      rw [ends_bind, ends_set, ends_pure]
      rintro id c h
      cases h
      exact ⟨_, rfl, lookup_nextId _, rfl, rfl⟩

lemma beginApply_new (h : beginApply draftId key reason s = .ok (.new id c) s₁) :
    ∃ operation : Operation, s₁ = { s with operations := s.operations.insert id operation } ∧
      s.operations[id]? = none ∧ operation.stationId = c.stationId ∧
      operation.previous = snapshotOutput c.stationId s := by
  have hends := beginApply_ends draftId key reason s
  unfold Ends at hends
  rw [h] at hends
  exact hends id c rfl

lemma restorePrevious_ends {op : Operation} {Q : Service → Prop}
    (hop : s.operations[id]? = some op) (hQ : Q (restored op s)) :
    Ends (restorePrevious id) s (fun _ => Q) Q := by
  unfold restorePrevious
  rw [ends_bind, ends_get, hop]
  dsimp only
  rw [ends_bind, ends_modify, ends_modify]
  exact hQ

lemma sameOutput_setStatus {st : ℤ} {status : OperationStatus} :
    SameOutput st s (setStatus id status s') ↔ SameOutput st s s' :=
  ⟨fun h => ⟨h.row, h.settings, h.password⟩, fun h => ⟨h.row, h.settings, h.password⟩⟩

end Apply

/-! ### A password that is not put back -/

/-- A call in which one place may raise. -/
def raising (point : Option Point) : Env where
  sha256 text := text
  haEnabled := false
  raises p := if some p = point then some "database is locked" else none
  runtime := none
  restarted := false
  verifySeconds := 60
  rounds := []

/-- A configuration with a new password. -/
def newDestination : StreamConfig where
  stationId := 1
  localOutputEnabled := false
  outputDeviceId := ""
  icecastEnabled := true
  icecastHost := "new.example"
  icecastPort := 8000
  icecastMount := "/new"
  icecastUser := "source"
  icecastTlsEnabled := false
  outputGainDb := ⟨0, 1⟩
  streamCodecProfile := .mp3_128
  passwordReference := "credential://user/system/stream-draft-1"
  host_ne := by decide
  port_mem := by decide
  mount_ok := by decide +kernel
  user_ne := by decide

/-- A station with a destination, and a validated draft of another. -/
def onOldDestination : Service :=
  let row : StationOutput := ⟨false, "", true, "old.example", 8000, "/old", "source",
    credentialReference 1, 0, "mp3_128", 128⟩
  { Service.empty with
    data := { Data.empty with stationOutputs := Data.empty.stationOutputs.insert 1 row }
    credentials := (Service.empty.credentials.insert (credentialReference 1) "old").insert
      "credential://user/system/stream-draft-1" "new"
    drafts := Service.empty.drafts.insert 1 ⟨newDestination, .validated, some .ready⟩ }

/-- What a call of `apply` on this station begins with. -/
lemma begin_onOldDestination : ∃ s₁,
    beginApply 1 "key" "" onOldDestination = .ok (.new 1 newDestination) s₁ := by
  have h : (match beginApply 1 "key" "" onOldDestination with
      | .ok begun _ => decide (begun = .new 1 newDestination)
      | .error _ _ => false) = true := by decide +kernel
  cases hr : beginApply 1 "key" "" onOldDestination with
  | error e s₁ => simp [hr] at h
  | ok begun s₁ =>
    rw [hr] at h
    exact ⟨s₁, by rw [of_decide_eq_true h]⟩

/-- How a call of `apply` on this station ends where one place raises. -/
lemma apply_onOldDestination (p : Point) (password : String)
    (h : (match apply (raising (some p)) 1 "key" "" onOldDestination with
      | .ok _ _ => false
      | .error e s' => e = "database is locked" && icecastPassword s' 1 = some password) = true) :
    ∃ s', apply (raising (some p)) 1 "key" "" onOldDestination = .error "database is locked" s' ∧
      icecastPassword s' 1 = some password := by
  cases hr : apply (raising (some p)) 1 "key" "" onOldDestination with
  | ok id s' => simp [hr] at h
  | error e s' =>
    rw [hr] at h
    obtain ⟨he, hp⟩ : e = "database is locked" ∧ icecastPassword s' 1 = some password := by
      simpa using h
    exact ⟨s', by rw [he], hp⟩

end OnAir.StreamRestore
