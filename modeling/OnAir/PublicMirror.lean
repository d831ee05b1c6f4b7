import OnAir.Json
import OnAir.PythonText

/-!
The redaction of the public mirror.

The mirror publishes the JSON of the status files with two kinds of places blanked: whatever is
stored under a key that sounds like a secret, and the user part of every URL inside a text. What it
publishes does not depend on what stood in those places, nothing else is changed, and a redaction
of its own output changes nothing.
-/

namespace OnAir.PublicMirror

open Json PythonText

/-! ### The patterns -/

/-- The letter that a character matches under `re.I`. -/
def fold (c : Char) : Char :=
  if c = '\u0130' || c = '\u0131' then 'i'
  else if c = '\u017f' then 's'
  else if c = '\u212a' then 'k'
  else c.toLower

def sensitiveNames : List String :=
  ["pass", "secret", "token", "apikey", "api_key", "api-key", "credential", "authorization",
    "cookie"]

/-- `SENSITIVE_NAME.search(key)`. -/
def sensitive (key : String) : Bool :=
  sensitiveNames.any (contains (String.ofList (key.toList.map fold)))

def isLetter (c : Char) : Bool := 'a' ≤ fold c && fold c ≤ 'z'

def schemeChar (c : Char) : Bool := isLetter c || c.isDigit || c = '+' || c = '.' || c = '-'

def userChar (c : Char) : Bool := c ≠ '/' && c ≠ '@' && !isSpace c

/-- What is behind `://`, a user part and an `@`. -/
def afterUser : List Char → Option (List Char)
  | ':' :: '/' :: '/' :: cs =>
    match cs.takeWhile userChar, cs.dropWhile userChar with
    | _ :: _, '@' :: rest => some rest
    | _, _ => none
  | _ => none

/-- `USERINFO_URL.match(cs)`: the scheme, and what is behind the match. -/
def userinfoUrl (cs : List Char) : Option (List Char × List Char) :=
  if cs.head?.any isLetter then
    (afterUser (cs.dropWhile schemeChar)).map fun rest => (cs.takeWhile schemeChar, rest)
  else none

def Scheme (cs : List Char) : Prop := cs.head?.any isLetter ∧ ∀ c ∈ cs, schemeChar c

def User (cs : List Char) : Prop := cs ≠ [] ∧ ∀ c ∈ cs, userChar c

def url (scheme user rest : List Char) : List Char :=
  scheme ++ ':' :: '/' :: '/' :: (user ++ '@' :: rest)

lemma afterUser_eq_some {cs rest : List Char} : afterUser cs = some rest ↔
    ∃ user, User user ∧ cs = url [] user rest := by
  constructor
  · intro h
    unfold afterUser at h
    split at h
    · split at h
      · next htake hdrop =>
        cases h
        refine ⟨_, ⟨htake ▸ List.cons_ne_nil _ _, fun c hc => List.mem_takeWhile_imp hc⟩, ?_⟩
        rw [url, ← hdrop, List.takeWhile_append_dropWhile]
        rfl
      · simp at h
    · simp at h
  · rintro ⟨user, ⟨hne, huser⟩, rfl⟩
    have htake : (user ++ '@' :: rest).takeWhile userChar = user := by
      rw [List.takeWhile_append_of_pos huser]
      simp [userChar]
    have hdrop : (user ++ '@' :: rest).dropWhile userChar = '@' :: rest := by
      rw [List.dropWhile_append_of_pos huser]
      simp [userChar]
    obtain ⟨c, cs, rfl⟩ := List.exists_cons_of_ne_nil hne
    simp only [url, List.nil_append, afterUser, htake, hdrop]

lemma takeWhile_url {scheme : List Char} (h : Scheme scheme) (user rest : List Char) :
    (url scheme user rest).takeWhile schemeChar = scheme := by
  rw [url, List.takeWhile_append_of_pos h.2, List.takeWhile_cons_of_neg (by decide),
    List.append_nil]

lemma dropWhile_url {scheme : List Char} (h : Scheme scheme) (user rest : List Char) :
    (url scheme user rest).dropWhile schemeChar = url [] user rest := by
  rw [url, List.dropWhile_append_of_pos h.2, List.dropWhile_cons_of_neg (by decide)]
  rfl

lemma head_url {scheme : List Char} (h : Scheme scheme) (user rest : List Char) :
    (url scheme user rest).head? = scheme.head? := by
  obtain ⟨hhead, -⟩ := h
  cases scheme with
  | nil => simp at hhead
  | cons c cs => rfl

/-- What the pattern matches. -/
lemma userinfoUrl_eq_some {cs scheme rest : List Char} :
    userinfoUrl cs = some (scheme, rest) ↔
      ∃ user, Scheme scheme ∧ User user ∧ cs = url scheme user rest := by
  constructor
  · intro h
    unfold userinfoUrl at h
    split at h
    · next hhead =>
      obtain ⟨rest', hrest, heq⟩ := Option.map_eq_some_iff.mp h
      cases heq
      obtain ⟨user, huser, hdrop⟩ := afterUser_eq_some.mp hrest
      have hcs : cs = url (cs.takeWhile schemeChar) user rest :=
        (List.takeWhile_append_dropWhile (p := schemeChar) (l := cs)).symm.trans
          (congrArg _ hdrop)
      refine ⟨user, ⟨?_, fun c hc => List.mem_takeWhile_imp hc⟩, huser, hcs⟩
      cases cs with
      | nil => simp at hhead
      | cons c cs =>
        have hletter : isLetter c := hhead
        rw [List.takeWhile_cons_of_pos (by rw [schemeChar, hletter]; rfl)]
        exact hletter
    · simp at h
  · rintro ⟨user, hscheme, huser, rfl⟩
    rw [userinfoUrl, head_url hscheme, if_pos hscheme.1, takeWhile_url hscheme,
      dropWhile_url hscheme, afterUser_eq_some.mpr ⟨user, huser, rfl⟩]
    rfl

lemma userinfoUrl_shorter {cs scheme rest : List Char}
    (h : userinfoUrl cs = some (scheme, rest)) : rest.length < cs.length := by
  obtain ⟨user, -, -, rfl⟩ := userinfoUrl_eq_some.mp h
  simp only [url, List.length_append, List.length_cons]
  omega

/-! ### The redaction -/

def redacted : List Char := "<redacted>".toList

/-- `USERINFO_URL.sub(r"\1<redacted>@", text)`. -/
def sub : List Char → List Char
  | [] => []
  | c :: cs =>
    match _ : userinfoUrl (c :: cs) with
    | some (scheme, rest) => url scheme redacted (sub rest)
    | none => c :: sub cs
termination_by cs => cs.length
decreasing_by
  · exact userinfoUrl_shorter ‹_›
  · simp

lemma sub_url {cs scheme rest : List Char} (h : userinfoUrl cs = some (scheme, rest)) :
    sub cs = url scheme redacted (sub rest) := by
  cases cs with
  | nil => simp [userinfoUrl] at h
  | cons c cs => rw [sub]; split <;> simp_all

lemma sub_plain {c : Char} {cs : List Char} (h : userinfoUrl (c :: cs) = none) :
    sub (c :: cs) = c :: sub cs := by
  rw [sub]; split <;> simp_all

mutual

/-- `_redact`. -/
def redact (v : Value) (key : String) : Value :=
  if sensitive key then .str "<redacted>"
  else
    match v with
    | .obj fields => .obj (redactFields fields)
    | .arr items => .arr (redactItems items)
    | .str s => .str (String.ofList (sub s.toList))
    | v => v

def redactItems : List Value → List Value
  | [] => []
  | v :: vs => redact v "" :: redactItems vs

def redactFields : List (String × Value) → List (String × Value)
  | [] => []
  | (k, v) :: fs => (k, redact v k) :: redactFields fs

end

/-! ### What may differ -/

/-- Texts that differ in the user parts of their URLs only. -/
inductive SameText : List Char → List Char → Prop
  | nil : SameText [] []
  | char (c : Char) {s t : List Char} : SameText s t → SameText (c :: s) (c :: t)
  | userPart {scheme user other s t : List Char} : Scheme scheme → User user → User other →
    SameText s t → SameText (url scheme user s) (url scheme other t)

/-- Fields that differ under sensitive keys and in the user parts of URLs only. -/
inductive SameFields : List (String × Value) → List (String × Value) → Prop
  | nil : SameFields [] []
  | hidden {k : String} (v w : Value) {fs gs : List (String × Value)} :
    sensitive k → SameFields fs gs → SameFields ((k, v) :: fs) ((k, w) :: gs)
  | equal (k : String) (v : Value) {fs gs : List (String × Value)} :
    SameFields fs gs → SameFields ((k, v) :: fs) ((k, v) :: gs)
  | text (k : String) {s t : String} {fs gs : List (String × Value)} :
    SameText s.toList t.toList → SameFields fs gs →
    SameFields ((k, .str s) :: fs) ((k, .str t) :: gs)
  | items (k : String) {xs ys : List Value} {fs gs : List (String × Value)} :
    SameFields (xs.map fun v => ("", v)) (ys.map fun v => ("", v)) → SameFields fs gs →
    SameFields ((k, .arr xs) :: fs) ((k, .arr ys) :: gs)
  | fields (k : String) {xs ys fs gs : List (String × Value)} :
    SameFields xs ys → SameFields fs gs → SameFields ((k, .obj xs) :: fs) ((k, .obj ys) :: gs)

/-- Values that differ under sensitive keys and in the user parts of URLs only. -/
def Same (v w : Value) : Prop := SameFields [("", v)] [("", w)]

/-! ### Texts -/

lemma SameText.symm {s t : List Char} (h : SameText s t) : SameText t s := by
  induction h with
  | nil => exact .nil
  | char c _ ih => exact .char c ih
  | userPart hscheme huser hother _ ih => exact .userPart hscheme hother huser ih

/-- A URL begins with a letter. -/
lemma SameText.tail {c : Char} {s t : List Char} (h : SameText (c :: s) t)
    (hc : isLetter c = false) : ∃ t', t = c :: t' ∧ SameText s t' := by
  generalize hs : c :: s = cs at h
  cases h with
  | nil => cases hs
  | char _ h => cases hs; exact ⟨_, rfl, h⟩
  | userPart hscheme =>
    have hhead := hscheme.1
    rw [← head_url hscheme, ← hs] at hhead
    simp [hc] at hhead

/-- A run of user characters does not get past the `//` of a URL. -/
lemma dropWhile_url_ne {scheme rest s : List Char} (hs : ∀ d ∈ scheme, schemeChar d) :
    (scheme ++ ':' :: '/' :: rest).dropWhile userChar ≠ '@' :: s := by
  induction scheme with
  | nil =>
    rw [List.nil_append, List.dropWhile_cons_of_pos (by decide),
      List.dropWhile_cons_of_neg (by decide)]
    simp
  | cons d scheme ih =>
    rw [List.cons_append, List.dropWhile_cons]
    split
    · exact ih fun e he => hs e (.tail _ he)
    · intro h
      obtain rfl : d = '@' := (List.cons.inj h).1
      exact absurd (hs '@' (.head _)) (by decide)

/-- No URL begins in a run of user characters that an `@` ends. -/
lemma SameText.user {user s t : List Char} (huser : ∀ c ∈ user, userChar c)
    (h : SameText (user ++ '@' :: s) t) : ∃ t', t = user ++ '@' :: t' ∧ SameText s t' := by
  induction user generalizing t with
  | nil => exact h.tail (by decide)
  | cons c user ih =>
    generalize hs : c :: user ++ '@' :: s = cs at h
    cases h with
    | nil => cases hs
    | char _ h =>
      cases hs
      obtain ⟨t', rfl, hsame⟩ := ih (fun d hd => huser d (.tail _ hd)) h
      exact ⟨t', rfl, hsame⟩
    | userPart hscheme =>
      have hdrop := congrArg (List.dropWhile userChar) hs
      rw [List.dropWhile_append_of_pos huser, List.dropWhile_cons_of_neg (by decide)] at hdrop
      exact absurd hdrop.symm (dropWhile_url_ne hscheme.2)

/-- A text that differs from one with a URL has the URL there too. -/
lemma SameText.same_url {scheme user s t : List Char} (hscheme : ∀ c ∈ scheme, schemeChar c)
    (huser : User user) (h : SameText (url scheme user s) t) :
    ∃ other t', User other ∧ t = url scheme other t' ∧ SameText s t' := by
  induction scheme generalizing t with
  | nil =>
    obtain ⟨t₁, rfl, h₁⟩ := h.tail (by decide)
    obtain ⟨t₂, rfl, h₂⟩ := h₁.tail (by decide)
    obtain ⟨t₃, rfl, h₃⟩ := h₂.tail (by decide)
    obtain ⟨t', rfl, hsame⟩ := h₃.user huser.2
    exact ⟨user, t', huser, rfl, hsame⟩
  | cons c scheme ih =>
    generalize hs : url (c :: scheme) user s = cs at h
    cases h with
    | nil => cases hs
    | char _ h =>
      cases hs
      obtain ⟨other, t', hother, rfl, hsame⟩ := ih (fun d hd => hscheme d (.tail _ hd)) h
      exact ⟨other, t', hother, rfl, hsame⟩
    | @userPart scheme' _ other _ t' hscheme' huser' hother hsame =>
      have hhead : Scheme (c :: scheme) := by
        refine ⟨?_, hscheme⟩
        have hletter := hscheme'.1
        rwa [← head_url hscheme', ← hs] at hletter
      have hfound := userinfoUrl_eq_some.mpr ⟨user, hhead, huser, hs.symm⟩
      rw [userinfoUrl_eq_some.mpr ⟨_, hscheme', huser', rfl⟩] at hfound
      cases hfound
      exact ⟨other, t', hother, rfl, hsame⟩

lemma SameText.userinfoUrl {s t scheme s' : List Char} (h : SameText s t)
    (hs : userinfoUrl s = some (scheme, s')) :
    ∃ t', userinfoUrl t = some (scheme, t') ∧ SameText s' t' := by
  obtain ⟨user, hscheme, huser, rfl⟩ := userinfoUrl_eq_some.mp hs
  obtain ⟨other, t', hother, rfl, hsame⟩ := h.same_url hscheme.2 huser
  exact ⟨t', userinfoUrl_eq_some.mpr ⟨other, hscheme, hother, rfl⟩, hsame⟩

/-- Texts that differ in user parts only become the same text. -/
lemma SameText.sub {s t : List Char} (h : SameText s t) : sub s = sub t := by
  induction hn : s.length using Nat.strong_induction_on generalizing s t with
  | _ n ih =>
    subst hn
    cases hs : PublicMirror.userinfoUrl s with
    | some found =>
      obtain ⟨scheme, s'⟩ := found
      obtain ⟨t', ht, hsame⟩ := h.userinfoUrl hs
      rw [sub_url hs, sub_url ht, ih _ (userinfoUrl_shorter hs) hsame rfl]
    | none =>
      cases h with
      | nil => rfl
      | @char c s t h =>
        have ht : PublicMirror.userinfoUrl (c :: t) = none := by
          by_contra hne
          obtain ⟨⟨scheme, t'⟩, ht⟩ := Option.ne_none_iff_exists'.mp hne
          obtain ⟨s', hs', -⟩ := (SameText.char c h).symm.userinfoUrl ht
          simp [hs] at hs'
        rw [sub_plain hs, sub_plain ht, ih _ (by simp) h rfl]
      | @userPart scheme user _ s _ hscheme huser =>
        cases hs.symm.trans (userinfoUrl_eq_some.mpr ⟨user, hscheme, huser, rfl⟩)

lemma user_redacted : User redacted := ⟨by decide, List.all_eq_true.mp (by decide)⟩

/-- The redaction changes user parts only. -/
lemma sameText_sub (s : List Char) : SameText s (sub s) := by
  induction s using sub.induct with
  | case1 => rw [sub]; exact .nil
  | case2 c cs scheme rest hs ih =>
    rw [sub_url hs]
    obtain ⟨user, hscheme, huser, heq⟩ := userinfoUrl_eq_some.mp hs
    rw [heq]
    exact .userPart hscheme huser user_redacted ih
  | case3 c cs hs ih => rw [sub_plain hs]; exact .char c ih

/-! ### Values -/

lemma redactFields_items (xs : List Value) : redactFields (xs.map fun v => ("", v)) =
    (redactItems xs).map fun v => ("", v) := by
  induction xs with
  | nil => rfl
  | cons v xs ih => rw [List.map_cons, redactFields, redactItems, List.map_cons, ih]

/-- Fields that differ in hidden places only become the same fields. -/
lemma SameFields.redactFields {fs gs : List (String × Value)} (h : SameFields fs gs) :
    redactFields fs = redactFields gs := by
  induction h with
  | nil => rfl
  | hidden v w hk _ ih =>
    rw [PublicMirror.redactFields, PublicMirror.redactFields, ih, redact.eq_def v, if_pos hk,
      redact.eq_def w, if_pos hk]
  | equal k v _ ih => simp only [PublicMirror.redactFields, ih]
  | text k hs _ ih => simp only [PublicMirror.redactFields, redact, hs.sub, ih]
  | items k _ _ hitems ih =>
    rw [redactFields_items, redactFields_items] at hitems
    have hinj := (List.map_injective_iff.mpr fun _ _ h => (Prod.mk.inj h).2) hitems
    simp only [PublicMirror.redactFields, redact, hinj, ih]
  | fields k _ _ hfields ih => simp only [PublicMirror.redactFields, redact, hfields, ih]

mutual

/-- The redaction changes hidden places only. -/
lemma sameFields_redact (k : String) : ∀ (v : Value) {fs gs : List (String × Value)},
    SameFields fs gs → SameFields ((k, v) :: fs) ((k, redact v k) :: gs)
  | v, fs, gs, h => by
    rw [redact.eq_def]
    split
    · next hk => exact .hidden v _ hk h
    · cases v with
      | obj fields => exact .fields k (sameFields_redactFields fields) h
      | arr items =>
        refine .items k ?_ h
        rw [← redactFields_items]
        exact sameFields_redactItems items
      | str s => exact .text k (by simpa using sameText_sub s.toList) h
      | null | bool | num => exact .equal k _ h

lemma sameFields_redactItems : ∀ xs : List Value,
    SameFields (xs.map fun v => ("", v)) (redactFields (xs.map fun v => ("", v)))
  | [] => .nil
  | v :: xs => sameFields_redact "" v (sameFields_redactItems xs)

lemma sameFields_redactFields : ∀ fs : List (String × Value), SameFields fs (redactFields fs)
  | [] => .nil
  | (k, v) :: fs => sameFields_redact k v (sameFields_redactFields fs)

end

/-- **Hidden places do not show.** Values that differ under sensitive keys and in user parts of URLs
only are published as the same value. -/
theorem redact_of_same {v w : Value} (h : Same v w) : redact v "" = redact w "" := by
  have hfields := SameFields.redactFields h
  simpa only [redactFields, List.cons.injEq, Prod.mk.injEq, true_and, and_true] using hfields

theorem redact_of_same_password :
    redact (.obj [("token", .num 1 0), ("url", .str "http://a:b@c")]) "" =
      redact (.obj [("token", .null), ("url", .str "http://d@c")]) "" :=
  redact_of_same (.fields "" (.hidden _ _ (by decide +kernel) (.text "url"
    (@SameText.userPart "http".toList "a:b".toList "d".toList _ _
      ⟨by decide, List.all_eq_true.mp (by decide)⟩ ⟨by decide, List.all_eq_true.mp (by decide)⟩
      ⟨by decide, List.all_eq_true.mp (by decide)⟩ (.char 'c' .nil)) .nil)) .nil)

/-- **Redaction is stable.** What is published differs from the value in the hidden places only,
and publishing it again gives the same. -/
theorem redact_stable (v : Value) :
    Same v (redact v "") ∧ redact (redact v "") "" = redact v "" := by
  have hsame : Same v (redact v "") := sameFields_redact "" v .nil
  have hfields := SameFields.redactFields hsame
  simp only [redactFields, List.cons.injEq, Prod.mk.injEq, true_and, and_true] at hfields
  exact ⟨hsame, hfields.symm⟩

end OnAir.PublicMirror
