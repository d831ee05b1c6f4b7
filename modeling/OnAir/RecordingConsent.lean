import OnAir.ProgramRecording

/-!
Who is recorded, and who was asked.

Consent rows are written once, for the guests who are admitted and connected when a recording is
requested. A recording starts when none of these rows is pending or declined, whoever is in
the room by then, and a guest may be connected while it runs.
-/

namespace OnAir.RecordingConsent

open OnAir.Database GuestRoomService ProgramRecording RecordingManifest ReplicationApplier Runs
  OnAir.Table

/-- Every admitted and connected guest of a studio that is recorded accepted that. -/
def Agreed (d : Data) : Prop :=
  ∀ (r : ℤ) (q : GuestRecording), d.guestRecordings[r]? = some q → q.status = .recording →
    ∀ (g : ℤ) (x : GuestSession), d.guestSessions[g]? = some x → x.studioId = q.studioId →
      isLive x → ∃ c, consentOf d r g = some c ∧ c.decision = .accepted

/-! ### The condition on a step -/

/-- The guest was asked about everything that records the studio. -/
def AskedFor (d : Data) (g studioId : ℤ) : Prop :=
  ∀ q ∈ rows d.guestRecordings, q.2.studioId = studioId → q.2.status = .recording →
    (consentOf d q.1 g).isSome

/-- Everyone the recording would hear was asked about it. -/
def AllAsked (d : Data) (r studioId : ℤ) : Prop :=
  ∀ g ∈ liveSessions d studioId, (consentOf d r g).isSome

/-- With the consent of the session nobody is missing, and the recording can start. -/
def LastConsent (s : Service) (env : StartEnv) (r g : ℤ) (q : GuestRecording) : Prop :=
  q.status = .pendingConsent ∧ ¬ s.recorders.contains q.stationId ∧ env.ffmpeg ∧
    (consentOf s.data r g).isSome ∧
      ∀ c ∈ rows (s.data.consents.getD r ∅), c.1 ≠ g → c.2.decision = .accepted

/-- A step that brings nobody into a recording who was not asked: a guest who is connected, or
admitted, while the studio is recorded was asked about that; a recording starts when everyone
it hears was asked; and a row is set to `recording` at the loss of the leadership where it says
so already, or where everyone agrees. -/
def Asks (sha : String → String) (s : Service) (a : Act) : Prop :=
  match a.op with
  | .setConnected g true _ =>
    ∀ x ∈ s.data.guestSessions[g]?, x.status = .admitted → AskedFor s.data g x.studioId
  | .admitGuest studioId g =>
    ∀ x ∈ sessionOf s.data studioId g, x.status = .lobby → x.isConnected →
      admittedCount s.data studioId < maxAdmittedGuests → AskedFor s.data g studioId
  | .consent r token true =>
    ∀ q ∈ s.data.guestRecordings[r]?, ∀ g ∈ (authenticateSession sha token s.data).toOption,
      LastConsent s a.env r g.1 q → AllAsked s.data r q.studioId
  | .finishStop x failed =>
    stopFailure x failed = "leadership_lost" → ∀ q ∈ s.data.guestRecordings[x.recordingId]?,
      q.status = .recording ∨
        allAccepted s.data x.recordingId ∧ AllAsked s.data x.recordingId q.studioId
  | _ => True

instance (d : Data) (g studioId : ℤ) : Decidable (AskedFor d g studioId) := by
  unfold AskedFor
  infer_instance

instance (d : Data) (r studioId : ℤ) : Decidable (AllAsked d r studioId) := by
  unfold AllAsked
  infer_instance

instance (s : Service) (env : StartEnv) (r g : ℤ) (q : GuestRecording) :
    Decidable (LastConsent s env r g q) := by
  unfold LastConsent
  infer_instance

instance (sha : String → String) (s : Service) (a : Act) : Decidable (Asks sha s a) := by
  unfold Asks
  split <;> infer_instance

/-! ### The invariant -/

structure Consented (d : Data) : Prop where
  /-- whoever was asked about a running recording accepted -/
  accepted : ∀ (r : ℤ) (q : GuestRecording), d.guestRecordings[r]? = some q →
    q.status = .recording → ∀ g c, consentOf d r g = some c → c.decision = .accepted
  /-- everyone a running recording hears was asked -/
  asked : ∀ (r : ℤ) (q : GuestRecording), d.guestRecordings[r]? = some q →
    q.status = .recording → ∀ (g : ℤ) (x : GuestSession), d.guestSessions[g]? = some x →
      x.studioId = q.studioId → isLive x → (consentOf d r g).isSome
  /-- `REFERENCES guest_recordings(id)` -/
  keyed : ∀ r g, (consentOf d r g).isSome → (d.guestRecordings[r]?).isSome

section Consented

variable {d d' : Data} {r g : ℤ}

lemma Consented.agreed (h : Consented d) : Agreed d := by
  intro r q hq hrec g x hx hst hlive
  obtain ⟨c, hc⟩ := Option.isSome_iff_exists.mp (h.asked r q hq hrec g x hx hst hlive)
  exact ⟨c, hc, h.accepted r q hq hrec g c hc⟩

/-- What starts no recording, brings nobody in and leaves the consents alone. -/
lemma Consented.mono (h : Consented d)
    (hr : ∀ (r : ℤ) (q' : GuestRecording), d'.guestRecordings[r]? = some q' →
      q'.status = .recording → ∃ q : GuestRecording, d.guestRecordings[r]? = some q ∧
        q.status = .recording ∧ q.studioId = q'.studioId)
    (hs : ∀ (g : ℤ) (x' : GuestSession), d'.guestSessions[g]? = some x' → isLive x' →
      (∃ x : GuestSession, d.guestSessions[g]? = some x ∧ isLive x ∧ x.studioId = x'.studioId) ∨
        AskedFor d g x'.studioId)
    (hk : ∀ r : ℤ, (d.guestRecordings[r]?).isSome → (d'.guestRecordings[r]?).isSome)
    (hc : d'.consents = d.consents) : Consented d' where
  accepted := by
    intro r q' hq' hrec g c hcon
    obtain ⟨q, hq, hrec', -⟩ := hr r q' hq' hrec
    exact h.accepted r q hq hrec' g c (by rwa [consentOf, hc] at hcon)
  asked := by
    intro r q' hq' hrec g x' hx' hst hlive
    obtain ⟨q, hq, hrec', hstq⟩ := hr r q' hq' hrec
    rw [consentOf, hc]
    rcases hs g x' hx' hlive with ⟨x, hx, hlive', hstx⟩ | hask
    · exact h.asked r q hq hrec' g x hx (by rw [hstx, hst, hstq]) hlive'
    · exact hask (r, q) (mem_rows.mpr hq) (by rw [hst, hstq]) hrec'
  keyed := by
    intro r g hcon
    rw [consentOf, hc] at hcon
    exact hk r (h.keyed r g hcon)

/-- An update of sessions that brings nobody in. -/
lemma Consented.sessions (h : Consented d)
    (hs : ∀ (g : ℤ) (x' : GuestSession), d'.guestSessions[g]? = some x' → isLive x' →
      (∃ x : GuestSession, d.guestSessions[g]? = some x ∧ isLive x ∧ x.studioId = x'.studioId) ∨
        AskedFor d g x'.studioId)
    (hr : d'.guestRecordings = d.guestRecordings) (hc : d'.consents = d.consents) :
    Consented d' := by
  refine h.mono (fun r q' hq' hrec => ⟨q', hr ▸ hq', hrec, rfl⟩) hs (fun r hsome => ?_) hc
  rwa [hr]

lemma Consented.updateSession (h : Consented d) {f : GuestSession → GuestSession}
    (hf : ∀ x : GuestSession, d.guestSessions[g]? = some x → isLive (f x) →
      (isLive x ∨ AskedFor d g x.studioId) ∧ (f x).studioId = x.studioId) :
    Consented (updateSession d g f) := by
  refine h.sessions (fun g' x' hx' hlive => ?_) rfl rfl
  rw [GuestRoomService.updateSession, lookup_modify] at hx'
  split_ifs at hx' with hg
  · subst hg
    obtain ⟨x, hx, rfl⟩ := Option.map_eq_some_iff.mp hx'
    obtain ⟨hl | ha, hst⟩ := hf x hx hlive
    · exact .inl ⟨x, hx, hl, hst.symm⟩
    · exact .inr (hst ▸ ha)
  · exact .inl ⟨x', hx', hlive, rfl⟩

/-- An update of a recording that does not start it. -/
lemma Consented.updateRecording (h : Consented d) {f : GuestRecording → GuestRecording}
    (hf : ∀ q : GuestRecording, d.guestRecordings[r]? = some q → (f q).status = .recording →
      q.status = .recording ∧ q.studioId = (f q).studioId) :
    Consented (updateRecording d r f) := by
  refine h.mono (fun r' q' hq' hrec => ?_) (fun g x hx hl => .inl ⟨x, hx, hl, rfl⟩)
    (fun r' hsome => ?_) rfl
  · rw [ProgramRecording.updateRecording, lookup_modify] at hq'
    split_ifs at hq' with hr
    · subst hr
      obtain ⟨q, hq, rfl⟩ := Option.map_eq_some_iff.mp hq'
      obtain ⟨hrec', hst⟩ := hf q hq hrec
      exact ⟨q, hq, hrec', hst⟩
    · exact ⟨q', hq', hrec, rfl⟩
  · rw [ProgramRecording.updateRecording, lookup_modify]
    split_ifs
    · simpa using hsome
    · exact hsome

/-- An update of a recording everyone agrees to. -/
lemma Consented.startRecording (h : Consented d) {f : GuestRecording → GuestRecording}
    (hst : ∀ q, (f q).studioId = q.studioId) (hall : allAccepted d r)
    (hask : ∀ q : GuestRecording, d.guestRecordings[r]? = some q → AllAsked d r q.studioId) :
    Consented (ProgramRecording.updateRecording d r f) where
  accepted := by
    intro r' q' hq' hrec g c hcon
    rw [ProgramRecording.updateRecording, lookup_modify] at hq'
    split_ifs at hq' with hr
    · subst hr
      obtain ⟨t, ht, hc⟩ := Option.bind_eq_some_iff.mp hcon
      exact allAccepted_iff.mp hall g c hcon
    · exact h.accepted r' q' hq' hrec g c hcon
  asked := by
    intro r' q' hq' hrec g x hx hstx hlive
    rw [ProgramRecording.updateRecording, lookup_modify] at hq'
    split_ifs at hq' with hr
    · subst hr
      obtain ⟨q, hq, rfl⟩ := Option.map_eq_some_iff.mp hq'
      refine hask q hq g (List.mem_map.mpr ⟨(g, x), List.mem_filter.mpr ⟨mem_rows.mpr hx, ?_⟩, rfl⟩)
      simp [hstx, hst, hlive]
    · exact h.asked r' q' hq' hrec g x hx hstx hlive
  keyed := by
    intro r' g' hcon
    rw [ProgramRecording.updateRecording, lookup_modify]
    split_ifs
    · simpa using h.keyed r' g' hcon
    · exact h.keyed r' g' hcon

/-- An answer about a recording, if it is a yes or the recording does not run. -/
lemma Consented.setConsent (h : Consented d) {c : Consent} (hc : (consentOf d r g).isSome)
    (hok : c.decision = .accepted ∨
      ∀ q : GuestRecording, d.guestRecordings[r]? = some q → q.status ≠ .recording) :
    Consented (setConsent d (r, g) c) where
  accepted := by
    intro r' q hq hrec g' c' hcon
    rw [consentOf_setConsent] at hcon
    split_ifs at hcon with hk
    · obtain rfl := Option.some.inj hcon
      obtain ⟨rfl, -⟩ := hk
      exact hok.resolve_right fun hne => hne q hq hrec
    · exact h.accepted r' q hq hrec g' c' hcon
  asked := by
    intro r' q hq hrec g' x hx hst hlive
    rw [consentOf_setConsent]
    split_ifs
    · rfl
    · exact h.asked r' q hq hrec g' x hx hst hlive
  keyed := by
    intro r' g' hcon
    rw [consentOf_setConsent] at hcon
    split_ifs at hcon with hk
    · obtain ⟨rfl, rfl⟩ := hk
      exact h.keyed _ _ hc
    · exact h.keyed r' g' hcon

/-- A new recording, and the consent rows of its guests. -/
lemma Consented.requested (h : Consented d) {q : GuestRecording} (hq : q.status = .pendingConsent)
    (gs : List ℤ) : Consented (askConsent (newId d.guestRecordings) gs
      { d with guestRecordings := d.guestRecordings.insert (newId d.guestRecordings) q }) := by
  set r₀ := newId d.guestRecordings with hr₀
  obtain ⟨t, ht, hother⟩ := askConsent_eq r₀ gs
    { d with guestRecordings := d.guestRecordings.insert r₀ q }
  have hrow : ∀ (r : ℤ) (p : GuestRecording), (d.guestRecordings.insert r₀ q)[r]? = some p →
      p.status = .recording → r ≠ r₀ ∧ d.guestRecordings[r]? = some p := by
    intro r p hp hrec
    rw [lookup_insert] at hp
    split_ifs at hp with hr
    · obtain rfl := Option.some.inj hp
      rw [hq] at hrec
      cases hrec
    · exact ⟨hr, hp⟩
  have hcons : ∀ r g, r ≠ r₀ → consentOf (askConsent r₀ gs
      { d with guestRecordings := d.guestRecordings.insert r₀ q }) r g = consentOf d r g :=
    fun r g hr => hother r g hr
  refine ⟨fun r p hp hrec g c hcon => ?_, fun r p hp hrec g x hx hst hlive => ?_,
    fun r g hcon => ?_⟩
  · rw [ht] at hp
    obtain ⟨hr, hp⟩ := hrow r p hp hrec
    rw [hcons r g hr] at hcon
    exact h.accepted r p hp hrec g c hcon
  · rw [ht] at hp hx
    obtain ⟨hr, hp⟩ := hrow r p hp hrec
    rw [hcons r g hr]
    exact h.asked r p hp hrec g x hx hst hlive
  · have hins : ((d.guestRecordings.insert r₀ q)[r]?).isSome := by
      rw [lookup_insert]
      split_ifs with hr
      · rfl
      · rw [hcons r g hr] at hcon
        exact h.keyed r g hcon
    rw [ht]
    exact hins

end Consented

/-! ### Starting -/

section Starting

variable {tm : TimeText} {now : ℤ} {env : StartEnv} {s s' : Service} {r : ℤ}

/-- A recording that starts, or is taken up again. -/
lemma Consented.start {resume : Bool} (h : Consented s.data)
    (hs : Start tm now env r resume s s')
    (hall : resume = false → ∀ q : GuestRecording, s.data.guestRecordings[r]? = some q →
      q.status = .pendingConsent → s.recorders[q.stationId]? = none → env.ffmpeg = true →
        allAccepted s.data r ∧ AllAsked s.data r q.studioId) : Consented s'.data := by
  cases hs with
  | refused => exact h
  | opened row opened hrow hstatus hfree hff hread =>
    cases resume with
    | true =>
      refine h.updateRecording fun q hq _ => ⟨?_, rfl⟩
      obtain rfl : row = q := Option.some.inj (hrow.symm.trans hq)
      simpa using hstatus
    | false =>
      obtain ⟨hacc, hask⟩ := hall rfl row hrow (by simpa using hstatus) hfree hff
      refine h.startRecording (fun _ => rfl) hacc fun q hq => ?_
      obtain rfl : row = q := Option.some.inj (hrow.symm.trans hq)
      exact hask

lemma Consented.resumeRecordings (h : Consented s.data) :
    Consented (resumeRecordings tm now env s).data :=
  inv_of_foldl (P := fun s => Consented s.data)
    (fun s q hP => hP.start (start_step tm now env q.1 true s) (by simp)) _ h

lemma Consented.delete (h : Consented s.data) (r : ℤ) : Consented (delete r s).1.data := by
  rcases delete_eq r s with he | ⟨row, hrow, -, he⟩
  · rw [he]
    exact h
  · rw [he]
    exact h.updateRecording fun q _ hq => by simp at hq

end Starting

/-! ### Steps -/

section Steps

variable {sha : String → String} {tm : TimeText} {s s' : Service} {a : Act}

lemma Consented.guest {out : Except GuestRoomError Data} (h : Consented s.data)
    (hout : ∀ d, out = .ok d → Consented d) : Consented (s.guest out).data := by
  cases out with
  | ok d => exact hout d rfl
  | error e => exact h

lemma map_snd_ok {ε α β : Type} {out : Except ε (α × β)} {b : β}
    (h : out.map Prod.snd = .ok b) : ∃ p, out = .ok p ∧ p.2 = b := by
  cases out with
  | error e => simp [Except.map] at h
  | ok p => exact ⟨p, rfl, Except.ok.inj h⟩

/-- A call that keeps who is in the rooms, apart from guests in the lobby. -/
lemma Consented.redeem {d d' : Data} (h : Consented d) {x : GuestSession} (hx : x.status = .lobby)
    (t : Table GuestInvite) (hd : d' = { d with
      guestSessions := d.guestSessions.insert (newId d.guestSessions) x
      guestInvites := t }) : Consented d' := by
  subst hd
  refine h.sessions (fun g x' hx' hlive => ?_) rfl rfl
  rw [lookup_insert] at hx'
  split_ifs at hx'
  · obtain rfl := Option.some.inj hx'
    simp [isLive, hx] at hlive
  · exact .inl ⟨x', hx', hlive, rfl⟩

/-- The consent that was missing starts the recording, and everyone was asked. -/
lemma lastConsent_all {now : ℤ} {env : StartEnv} {r : ℤ} {g : ℤ × GuestSession}
    {q : GuestRecording} (hc : (consentOf s.data r g.1).isSome)
    (hall : allAccepted (answered tm now s r g.1 .accepted).data r)
    (hq : q.status = .pendingConsent) (hfree : s.recorders[q.stationId]? = none)
    (hff : env.ffmpeg = true) : LastConsent s env r g.1 q := by
  refine ⟨hq, by simpa using hfree, hff, hc, fun c hmem hne => ?_⟩
  refine allAccepted_iff.mp hall c.1 c.2 ?_
  rw [answered, consentOf_setConsent, if_neg (by simp [hne])]
  exact mem_consents.mp hmem

/-- **What a step preserves.** -/
theorem consented_step (h : Consented s.data) (hk : Asks sha s a)
    (hs : step sha tm s a = some s') : Consented s'.data := by
  obtain ⟨now, env, op⟩ := a
  cases op with
  | createInvite token studioId actorId =>
    obtain rfl := Option.some.inj hs
    refine h.guest fun d hd => ?_
    obtain ⟨out, hout, rfl⟩ := map_snd_ok hd
    obtain ⟨t, ht⟩ := createInvite_ok hout
    exact ht ▸ h.sessions (fun g x hx hl => .inl ⟨x, hx, hl, rfl⟩) rfl rfl
  | revokeInvite studioId inviteId =>
    obtain rfl := Option.some.inj hs
    refine h.guest fun d hd => ?_
    obtain ⟨t, rfl⟩ := revokeInvite_ok hd
    exact h.sessions (fun g x hx hl => .inl ⟨x, hx, hl, rfl⟩) rfl rfl
  | redeem sessionToken token displayName =>
    obtain rfl := Option.some.inj hs
    refine h.guest fun d hd => ?_
    obtain ⟨out, hout, rfl⟩ := map_snd_ok hd
    obtain ⟨x, t, hx, ht⟩ := redeem_ok hout
    exact h.redeem hx t ht
  | setConnected g connected quality =>
    obtain rfl := Option.some.inj hs
    refine h.updateSession fun x hx hlive => ⟨?_, rfl⟩
    cases connected with
    | false => simp [isLive] at hlive
    | true => exact .inr (hk x hx (by simpa [isLive] using hlive))
  | admitGuest studioId g =>
    obtain rfl := Option.some.inj hs
    refine h.guest fun d hd => ?_
    obtain ⟨x, hx, hlobby, hroom, -, rfl⟩ := admitGuest_ok hd
    refine h.updateSession fun x' hx' hlive => ⟨.inr ?_, rfl⟩
    obtain ⟨hx'', hst⟩ := sessionOf_eq hx
    obtain rfl : x = x' := Option.some.inj (hx''.symm.trans hx')
    exact hst ▸ hk x hx hlobby (by simpa [isLive] using hlive) hroom
  | rejectOrKick studioId g action =>
    obtain rfl := Option.some.inj hs
    refine h.guest fun d hd => ?_
    obtain ⟨f, rfl, hf⟩ := rejectOrKick_ok hd
    exact h.updateSession fun x _ hlive => ⟨by simp [isLive, (hf x).2] at hlive, (hf x).1⟩
  | updateAudio studioId g muted onAir gainDb =>
    obtain rfl := Option.some.inj hs
    refine h.guest fun d hd => ?_
    obtain ⟨-, -, -, rfl⟩ := updateAudio_ok hd
    exact h.updateSession fun x _ hlive => ⟨.inl hlive, rfl⟩
  | allOffAir studioId =>
    obtain rfl := Option.some.inj hs
    refine h.guest fun d hd => ?_
    obtain ⟨out, hout, rfl⟩ := map_snd_ok hd
    rw [allOffAir_ok hout]
    refine h.sessions (fun g x' hx' hlive => ?_) rfl rfl
    rw [Std.ExtTreeMap.getElem?_map] at hx'
    obtain ⟨x, hx, rfl⟩ := Option.map_eq_some_iff.mp hx'
    unfold takeOffAir at hlive ⊢
    split_ifs at hlive ⊢ <;> exact .inl ⟨x, hx, hlive, rfl⟩
  | guestSelfMute sessionToken muted =>
    obtain rfl := Option.some.inj hs
    refine h.guest fun d hd => ?_
    obtain ⟨g, rfl⟩ := guestSelfMute_ok hd
    exact h.updateSession fun x _ hlive => ⟨.inl hlive, rfl⟩
  | request studioId actorId =>
    obtain rfl := Option.some.inj hs
    have hturn := request_step tm now env studioId actorId s
    generalize (request tm now env studioId actorId s).1 = s' at hturn ⊢
    cases hturn with
    | refused => exact h
    | asked row timers hrow hread => exact h.requested hrow _
    | started row s' hrow hst hread hnone hstart =>
      have hreq := h.requested hrow []
      refine hreq.start hstart fun _ q hq _ _ _ => ⟨?_, fun g hg => ?_⟩
      · -- nobody was asked about a new recording
        refine allAccepted_iff.mpr fun g c hc => ?_
        have hsome := h.keyed _ g (Option.isSome_iff_exists.mpr ⟨c, hc⟩)
        rw [lookup_newId] at hsome
        cases hsome
      · obtain rfl : row = q := by
          rw [lookup_insert, if_pos rfl] at hq
          exact Option.some.inj hq
        have hg' : g ∈ liveSessions s.data row.studioId := hg
        rw [hst, hnone] at hg'
        cases hg'
  | expireConsent r =>
    simp only [step] at hs
    split_ifs at hs
    obtain rfl := Option.some.inj hs
    refine h.updateRecording fun q _ hq => ?_
    split_ifs at hq ⊢ with hp
    · simp [cancelled] at hq
    · exact ⟨hq, rfl⟩
  | consent r token accepted =>
    obtain rfl := Option.some.inj hs
    have hturn := consent_step sha tm now env r token accepted s
    generalize (consent sha tm now env r token accepted s).1 = s' at hturn ⊢
    cases hturn with
    | refused => exact h
    | declined g ha hc =>
      have hcan := h.updateRecording (r := r)
        (f := cancelled (tm.current now) "consent_declined")
        fun q _ hq => by simp [cancelled] at hq
      refine hcan.setConsent hc (.inr fun q hq => ?_)
      rw [lookup_updateRecording, if_pos rfl] at hq
      obtain ⟨p, -, rfl⟩ := Option.map_eq_some_iff.mp hq
      simp [cancelled]
    | waiting g ha hc => exact h.setConsent hc (.inl rfl)
    | last g s' ha hc hall hstart =>
      have hans := h.setConsent hc (c := ⟨.accepted, some (tm.current now)⟩) (.inl rfl)
      refine hans.start hstart fun _ q hq hp hfree hff => ⟨hall, ?_⟩
      intro g' hg'
      have hask := hk q hq g (by simp [ha, Except.toOption])
        (lastConsent_all hc hall hp hfree hff) g' hg'
      rw [answered, consentOf_setConsent]
      split_ifs
      · rfl
      · exact hask
  | stop r reason =>
    obtain rfl := Option.some.inj hs
    unfold beginStop
    split <;> exact h
  | runStop call =>
    simp only [step] at hs
    split_ifs at hs
    obtain rfl := Option.some.inj hs
    unfold beginStop
    split <;> exact h
  | finishStop x failed =>
    simp only [step] at hs
    split_ifs at hs
    obtain rfl := Option.some.inj hs
    rcases finishStop_eq tm now x failed s with ⟨he, -⟩ | ⟨row, m, hrow, -, he⟩
    · rw [he]
      exact h
    · rw [he]
      by_cases hlost : stopFailure x failed = "leadership_lost"
      · rcases hk hlost row hrow with hrec | ⟨hall, hask⟩
        · refine h.updateRecording fun q hq _ => ⟨?_, rfl⟩
          obtain rfl : row = q := Option.some.inj (hrow.symm.trans hq)
          exact hrec
        · refine h.startRecording (fun _ => rfl) hall fun q hq => ?_
          obtain rfl : row = q := Option.some.inj (hrow.symm.trans hq)
          exact hask
      · refine h.updateRecording fun q _ hq => ?_
        simp only [stopped, stopStatus, hlost, if_false] at hq
        split_ifs at hq
  | publishPcm stationId taken failed =>
    obtain rfl := Option.some.inj hs
    unfold publishPcm
    repeat' split
    all_goals exact h
  | handleFailedMirrors r =>
    simp only [step] at hs
    split_ifs at hs
    obtain rfl := Option.some.inj hs
    unfold handleFailedMirrors
    dsimp only
    repeat' split
    · exact h
    · exact h
    · exact h.updateRecording fun q _ hq => ⟨hq, rfl⟩
  | delete r =>
    obtain rfl := Option.some.inj hs
    exact h.delete r
  | cleanupExpired =>
    obtain rfl := Option.some.inj hs
    exact inv_of_foldl (P := fun s : Service => Consented s.data)
      (fun s q hP => hP.delete q.1) _ h
  | stopAll reason =>
    obtain rfl := Option.some.inj hs
    exact h
  | interruptStation stationId reason =>
    obtain rfl := Option.some.inj hs
    unfold interruptStation
    split <;> exact h
  | resumeRecordings =>
    obtain rfl := Option.some.inj hs
    exact h.resumeRecordings

end Steps

lemma consented_initial (stations : Table Unit) (studios : Table Studio)
    (settings : Table (Std.ExtTreeMap String String)) :
    Consented (initial stations studios settings).data where
  accepted := by simp [initial, Data.empty]
  asked := by simp [initial, Data.empty]
  keyed := by simp [initial, Data.empty, consentOf]

/-- **Recording consent.** In a run whose steps bring nobody into a recording who was not asked
about it, every guest who is recorded accepted that. -/
theorem recorded_guests_agree (sha : String → String) (tm : TimeText) (stations : Table Unit)
    (studios : Table Studio) (settings : Table (Std.ExtTreeMap String String)) (acts : List Act)
    (s : Service)
    (hm : Meets (step sha tm) (Asks sha) (initial stations studios settings) acts)
    (he : exec (step sha tm) (initial stations studios settings) acts = some s) :
    Agreed s.data :=
  (inv_of_exec (P := fun s : Service => Consented s.data)
    (fun _ _ _ h hk hs => consented_step h hk hs) (consented_initial _ _ _) hm he).agreed

/-! ### A guest who was not asked -/

/-- Time stamps that tell nothing apart but the expiry of an invite. -/
def clock : TimeText := ⟨fun _ => "", fun _ => some 7200000000, fun _ => ""⟩

def surroundings : StartEnv := ⟨"", "2026", "01", "data", true, "", .samePath⟩

/-- One studio, at station 1. -/
def studio : Service :=
  initial ((∅ : Table Unit).insert 1 ()) ((∅ : Table Studio).insert 1 ⟨1, true⟩) ∅

def calls (ops : List Op) : List Act := ops.map fun op => ⟨0, surroundings, op⟩

/-- A guest is invited and admitted. -/
def arrival : List Op :=
  [.createInvite "invite" 1 9, .redeem "session" "invite" "Ada", .admitGuest 1 1]

/-- The guest is connected when the recording is requested, and accepts. -/
def askedFirst : List Act :=
  calls (arrival ++ [.setConnected 1 true "connected", .request 1 9, .consent 1 "session" true])

/-- The recording is requested, and starts, before the guest is connected. -/
def connectedLater : List Act :=
  calls (arrival ++ [.request 1 9, .setConnected 1 true "connected"])

/-- Studio and guest are both live in the first recording. -/
def Recorded (s : Service) : Prop :=
  (∃ q ∈ s.data.guestRecordings[(1 : ℤ)]?, q.status = .recording ∧ q.studioId = 1) ∧
    ∃ x ∈ s.data.guestSessions[(1 : ℤ)]?, isLive x = true ∧ x.studioId = 1

instance (s : Service) : Decidable (Recorded s) := by
  unfold Recorded
  infer_instance

theorem recorded_guests_agree_asked : ∃ s, exec (step id clock) studio askedFirst = some s ∧
    Recorded s ∧ Agreed s.data := by
  obtain ⟨s, he, hs⟩ : ∃ s ∈ exec (step id clock) studio askedFirst, Recorded s := by
    decide +kernel
  exact ⟨s, he, hs, recorded_guests_agree id clock _ _ _ askedFirst s (by decide +kernel) he⟩

/-- A guest who connects while the studio is recorded is recorded without having been asked. -/
theorem recorded_unasked : ¬ ∀ (sha : String → String) (tm : TimeText) (stations : Table Unit)
    (studios : Table Studio) (settings : Table (Std.ExtTreeMap String String)) (acts : List Act)
    (s : Service), exec (step sha tm) (initial stations studios settings) acts = some s →
      Agreed s.data := by
  intro hall
  obtain ⟨s, he, ⟨⟨q, hq, hrec, hst⟩, x, hx, hlive, hstx⟩, hnone⟩ :
      ∃ s ∈ exec (step id clock) studio connectedLater,
        Recorded s ∧ consentOf s.data 1 1 = none := by
    decide +kernel
  obtain ⟨c, hc, -⟩ := hall id clock _ _ _ connectedLater s he 1 q hq hrec 1 x hx
    (hstx.trans hst.symm) hlive
  rw [hnone] at hc
  cases hc

end OnAir.RecordingConsent
