import OnAir.CredentialVault

/-!
A secret that is read from the vault while no other call is under way.

A read of one entry encrypts the whole store anew where another scope is recorded in it than the
configured one. The values of the store may be any; a text that is read out of one is of bytes,
which need not be a text in turn.
-/

namespace OnAir.VaultReads

open PythonText
open CredentialVault (Scope Raised isCredentialReference)

/-! ### The call -/

/-- A value of the store: its text, and whether it counts as one. -/
structure Value where
  text : String
  given : Bool
  deriving DecidableEq, Repr

def Value.ofText (text : String) : Value := ⟨text, text ≠ ""⟩

structure Store where
  scope : String
  credentials : List (String × Value)
  deriving DecidableEq, Repr

/-- The encryption of bytes, with the base64 text around it, as the code relies on it. -/
structure Protection (Bytes : Type) where
  protect : Bytes → Except Raised String
  unprotect : String → Except Raised Bytes
  /-- `bytes.decode("utf-8")` -/
  decode : Bytes → Option String
  restores : ∀ b t, protect b = .ok t → t ≠ "" ∧ unprotect t = .ok b

variable {Bytes : Type} (P : Protection Bytes)

/-- An error of an entry is one of the vault. -/
def entryFailed (message reference : String) : Raised → Raised
  | .vault m => .vault m
  | .os | .value => .vault (message ++ reference)

/-- The entries of a store, encrypted anew. -/
def rewrapEntries : List (String × Value) → Except Raised (List (String × Value))
  | [] => .ok []
  | (reference, encoded) :: entries =>
    match P.unprotect encoded.text >>= P.protect with
    | .error e => .error (entryFailed "Credential could not be rewrapped: " reference e)
    | .ok t => (rewrapEntries entries).map ((reference, .ofText t) :: ·)

variable (writes : Except Raised Unit) (scope : Option Scope) (store : Store)

/-- `_rewrap_payload`, with what comes of the write. -/
def rewrapPayload : Except Raised ℕ × Store :=
  match rewrapEntries P store.credentials, writes with
  | .error e, _ | .ok _, .error e => (.error e, store)
  | .ok rewrapped, .ok () =>
    (.ok rewrapped.length, ⟨(scope.map (·.text)).getD store.scope, rewrapped⟩)

/-- Another scope is configured than the recorded one; a custom protection has none. -/
def outdated : Bool := scope.any (·.text ≠ store.scope)

/-- `get_secret`. -/
def getSecret (reference : String) : Except Raised String × Store :=
  let normalized := trim reference
  let failed := entryFailed "Credential could not be decrypted: " normalized
  if !isCredentialReference normalized then (.ok "", store)
  else
    match store.credentials.lookup normalized with
    | none => (.ok "", store)
    | some encoded =>
      if !encoded.given then (.ok "", store)
      else
        match P.unprotect encoded.text with
        | .error e => (.error (failed e), store)
        | .ok plaintext =>
          match P.decode plaintext with
          | none => (.error (failed .value), store)
          | some result =>
            if outdated scope store then
              let (rewrapped, store) := rewrapPayload P writes scope store
              ((rewrapped.map fun _ => result).mapError failed, store)
            else (.ok result, store)

/-! ### What is read -/

variable {P writes scope store} {entries rewrapped : List (String × Value)} {reference s : String}

/-- The entry of a reference decrypts to a secret. -/
def DecryptsTo (P : Protection Bytes) (store : Store) (reference s : String) : Prop :=
  ∃ v b, store.credentials.lookup reference = some v ∧ v.given = true ∧
    P.unprotect v.text = .ok b ∧ P.decode b = some s

/-- A value can be encrypted anew. -/
def Rewraps (P : Protection Bytes) (v : Value) : Prop :=
  ∃ b t, P.unprotect v.text = .ok b ∧ P.protect b = .ok t

lemma rewraps_iff {v : Value} :
    Rewraps P v ↔ ∃ t, (P.unprotect v.text >>= P.protect) = .ok t := by
  unfold Rewraps
  cases P.unprotect v.text <;> simp [Bind.bind, Except.bind]

/-- One entry that cannot be encrypted anew is enough for the store to stay as it is. -/
lemma rewrapEntries_isOk :
    (∃ r, rewrapEntries P entries = .ok r) ↔ ∀ e ∈ entries, Rewraps P e.2 := by
  induction entries with
  | nil => simp [rewrapEntries]
  | cons e entries ih =>
    rw [List.forall_mem_cons, ← ih, rewraps_iff, rewrapEntries]
    cases P.unprotect e.2.text >>= P.protect with
    | error _ => simp
    | ok t => cases rewrapEntries P entries <;> simp [Except.map]

lemma lookup_rewrapEntries (h : rewrapEntries P entries = .ok rewrapped) {v : Value}
    (hv : entries.lookup reference = some v) : ∃ b t, P.unprotect v.text = .ok b ∧
      P.protect b = .ok t ∧ rewrapped.lookup reference = some (.ofText t) := by
  induction entries generalizing rewrapped with
  | nil => cases hv
  | cons e entries ih =>
    obtain ⟨t, ht⟩ := rewraps_iff.mp (rewrapEntries_isOk.mp ⟨_, h⟩ e List.mem_cons_self)
    rw [rewrapEntries, ht] at h
    dsimp only at h
    cases hrest : rewrapEntries P entries with
    | error _ => simp [hrest, Except.map] at h
    | ok rest =>
      rw [hrest] at h
      obtain rfl := Except.ok.inj h
      rw [List.lookup_cons] at hv ⊢
      cases hkey : reference == e.1 with
      | true =>
        rw [hkey] at hv
        obtain rfl := Option.some.inj hv
        obtain ⟨b, t', hb, ht'⟩ := rewraps_iff.mpr ⟨t, ht⟩
        rw [hb] at ht
        exact ⟨b, t, hb, ht, rfl⟩
      | false =>
        rw [hkey] at hv
        exact ih hrest hv

/-- **A read returns its secret, and all the others can still be read**, exactly if the recorded scope
is the configured one, or every entry can be encrypted anew and the store written. -/
theorem get_secret_iff (href : isCredentialReference (trim reference) = true)
    (h : DecryptsTo P store (trim reference) s) :
    ((getSecret P writes scope store reference).1 = .ok s ∧ ∀ r t, DecryptsTo P store r t →
      DecryptsTo P (getSecret P writes scope store reference).2 r t) ↔
      (outdated scope store = true →
        (∀ e ∈ store.credentials, Rewraps P e.2) ∧ writes = .ok ()) := by
  obtain ⟨v, b, hlookup, hgiven, hb, hs⟩ := h
  simp only [getSecret, href, hlookup, hgiven, hb, hs, Bool.not_true, if_false, Bool.false_eq_true]
  cases outdated scope store with
  | false => simp
  | true =>
    rw [if_pos rfl, ← rewrapEntries_isOk]
    unfold rewrapPayload
    cases hentries : rewrapEntries P store.credentials with
    | error e => simp [Except.map, Except.mapError]
    | ok rewrapped =>
      cases writes with
      | error e => simp [Except.map, Except.mapError]
      | ok =>
        refine ⟨fun _ _ => ⟨⟨_, rfl⟩, rfl⟩, fun _ => ⟨rfl, fun r t ⟨w, c, hw, _, hc, ht⟩ => ?_⟩⟩
        obtain ⟨c', x, hc', hx, hnew⟩ := lookup_rewrapEntries hentries hw
        obtain rfl : c = c' := Except.ok.inj (hc.symm.trans hc')
        obtain ⟨hne, hopens⟩ := P.restores _ _ hx
        exact ⟨.ofText x, c, hnew, by simpa [Value.ofText] using hne, hopens, ht⟩

/-! ### A store with an entry that is not its own -/

/-- Texts are marked. -/
def marked : Protection String where
  protect b := .ok (String.ofList ('+' :: b.toList))
  unprotect t := if t.toList.head? = some '+' then .ok (String.ofList t.toList.tail) else .error .os
  decode := some
  restores b t h := by
    obtain rfl := Except.ok.inj h
    simp [← String.toList_inj]

def station (text : String) : List (String × Value) :=
  [("credential://user/station/1/icecast", .ofText text)]

theorem get_secret_station :
    (getSecret marked (.ok ()) (some .machine) ⟨"", station "+a"⟩
      "credential://user/station/1/icecast").1 = .ok "a" :=
  ((get_secret_iff (s := "a") (by decide +kernel) ⟨_, "a", rfl, by decide, by rfl, rfl⟩).mpr
    fun _ => ⟨by simpa [station] using ⟨"a", "+a", by rfl, by rfl⟩, rfl⟩).1

/-- **One bad entry blocks the others**: an entry of another account cannot be decrypted, and the
read of the own one fails. -/
theorem bad_entry_blocks : ¬∀ (P : Protection String) (writes : Except Raised Unit)
    (scope : Option Scope) (store : Store) (reference s : String),
    isCredentialReference (trim reference) = true → DecryptsTo P store (trim reference) s →
      (getSecret P writes scope store reference).1 = .ok s ∧ ∀ r t, DecryptsTo P store r t →
        DecryptsTo P (getSecret P writes scope store reference).2 r t := by
  intro hall
  have h := (hall marked (.ok ()) (some .machine)
    ⟨"", station "+a" ++ [("credential://user/system/mail", .ofText "b")]⟩
    "credential://user/station/1/icecast" "a" (by decide +kernel)
    ⟨_, "a", rfl, by decide, by rfl, rfl⟩).1
  exact absurd h (by decide +kernel)

end OnAir.VaultReads
