import Mathlib.Data.List.Forall2
import QueryWarden.Proofs.Traced
import QueryWarden.TextModel.Client

/-!
# One attempt for a text

A client of the text service asks its provider once for every prompt, or not at all when there is no
provider to ask (`requestFor?`).  It gives the text of the answer or fails by the service, and which of
them depends on the answer alone (`Gives`).

1. What the answer of a provider says is read off for both of them (`answer_eq_ok`,
   `answer_fails_by_service`).
2. What a step calls, ends with and leaves behind is one equation (`generate_eq`): the client enters it
   in whether the client of the second provider is still to be made, and nowhere else.  So every step is
   one attempt (`oneAttempt_attempt`).
3. A time limit without a number of milliseconds keeps the client of the second provider from being
   made.  Every step then ends in the error of the conversion, without a call
   (`generateAll_of_not_canAsk`), and none of them is an attempt.
4. A step that makes the client of the second provider marks it as made, so a run makes it once at most
   (`connections_generateAll`).  The mark is the same whatever the services answered
   (`client_generate_eq`), so no step of a run depends on the answers to the ones before it
   (`attempts_of_run`).
-/

namespace QueryWarden

def TextCall.isRequest : TextCall → Bool
  | .post _ _ _ | .content _ _ _ _ => true
  | .connect _ _ => false

def TextServices.FailsInTransport (services : TextServices) : Prop :=
  ∀ f, services.post = .error f → ∃ error message, f = .transport error message

namespace TextClient

variable {s : Settings} {services : TextServices} {p : Prompt} {c : TextClient} {text key : String}
  {ms : Int}

/-! ## What is asked and what is given -/

/-- Whether the settings have a key for the second provider. -/
def HasKey (s : Settings) : Prop :=
  s.geminiApiKey ≠ none ∧ s.geminiApiKey ≠ some ""

instance : Decidable (HasKey s) :=
  inferInstanceAs (Decidable (_ ∧ _))

/-- Whether the client of the second provider can be made: its time limit in milliseconds is neither
infinite nor undefined. -/
def Connects (s : Settings) : Prop :=
  (s.generationTimeout.mulRatio 1000 1).isFinite = true

instance : Decidable (Connects s) :=
  inferInstanceAs (Decidable (_ = true))

/-- Whether the provider of the settings can be asked, as far as it is known and has a key. -/
def CanAsk (s : Settings) : Prop :=
  s.provider = gemini → HasKey s → Connects s

instance : Decidable (CanAsk s) :=
  inferInstanceAs (Decidable (_ → _ → _))

/-- A body that holds a text: under `response`, or else in its message. -/
inductive Carries : Value → String → Prop
  | response {fs : Fields} {text : String} :
      fs.get? "response" = some (.string text) → Carries (.map fs) text
  | message {fs message : Fields} {text : String} :
      (∀ t, fs.get? "response" ≠ some (.string t)) → fs.get? "message" = some (.map message) →
      message.get? "content" = some (.string text) → Carries (.map fs) text

/-- Whether the provider gives a text: the answer of the first one is no error and its body carries the
text, or the second one has a key and answers with the text. -/
def Gives (s : Settings) (services : TextServices) (text : String) : Prop :=
  (s.provider = ollama ∧ ∃ a body, services.post = .ok a ∧ ¬ (400 ≤ a.status ∧ a.status < 600) ∧
      a.body = some body ∧ Carries body text) ∨
    s.provider = gemini ∧ HasKey s ∧ services.content = .ok (.string text)

def requestFor? (s : Settings) (p : Prompt) : Option TextCall :=
  if s.provider = ollama then some (.post (request s p).1 (request s p).2 s.generationTimeout)
  else if s.provider = gemini ∧ HasKey s then some (.content s.geminiModel p (.zero false) 1024)
  else none

/-- One attempt for the text of a prompt: the request for it is made and no other, and the step ends
with a text or by a failure of the service, with the text exactly when the provider gives it, and the
way it does for a client that was not asked before. -/
structure OneAttempt (s : Settings) (services : TextServices) (p : Prompt)
    (t : Traced TextCall String) : Prop where
  requests : t.calls.filter TextCall.isRequest = (requestFor? s p).toList
  outcome : (∃ text, t.outcome = .ok text) ∨
    ∃ f : Failure, t.outcome = .error (.failure f) ∧ f.kind = .textService
  gives : ∀ text, t.outcome = .ok text ↔ Gives s services text
  alone : t.outcome = (({} : TextClient).generate s services p).1.outcome

/-- The steps of prompts one after the other, each with the answers that the services give then. -/
def generateAll (s : Settings) : List (TextServices × Prompt) → TextClient →
    List (Traced TextCall String)
  | [], _ => []
  | a :: asks, c =>
    (c.generate s a.1 a.2).1 :: generateAll s asks (c.generate s a.1 a.2).2

/-! ## The text of an answer -/

theorem textOfBody?_eq_some {body : Value} : textOfBody? body = some text ↔ Carries body text := by
  constructor
  · intro h
    cases body with
    | map fs =>
      unfold textOfBody? at h
      split at h
      · next t ht =>
        cases h
        exact .response ht
      · next hno =>
        obtain ⟨v, hv, hcontent⟩ := Option.bind_eq_some_iff.mp h
        obtain ⟨m, hm, hfield⟩ := Option.bind_eq_some_iff.mp hv
        cases m with
        | map message =>
          cases v with
          | string t =>
            cases hcontent
            exact .message hno hm hfield
          | _ => exact absurd hcontent nofun
        | _ => exact absurd hfield nofun
    | _ => exact absurd h nofun
  · intro h
    cases h with
    | @response fs _ ht =>
      have hfield : (Value.map fs).field? "response" = some (.string text) := ht
      unfold textOfBody?
      rw [hfield]
    | @message fs message _ hno hm ht =>
      have hfield : (Value.map fs).field? "message" = some (.map message) := hm
      have hcontent : (Value.map message).field? "content" = some (.string text) := ht
      unfold textOfBody?
      split
      · next t h => exact absurd h (hno t)
      · rw [hfield, Option.bind_some, hcontent]
        rfl

/-- An answer has a text exactly when its status is no error and its body carries the text. -/
theorem textOfAnswer_eq_ok {a : HttpAnswer} : textOfAnswer a = .ok text ↔
    ¬ (400 ≤ a.status ∧ a.status < 600) ∧ ∃ body, a.body = some body ∧ Carries body text := by
  unfold textOfAnswer
  split
  · next hstatus => exact ⟨nofun, fun h => absurd hstatus h.1⟩
  · next hstatus =>
    cases hb : a.body with
    | none => exact ⟨nofun, fun ⟨_, _, h, _⟩ => absurd h nofun⟩
    | some body =>
      simp only [← textOfBody?_eq_some, Option.some.injEq, exists_eq_left']
      cases textOfBody? body <;> simp [hstatus]

theorem kind_of_textOfAnswer {a : HttpAnswer} {f : Failure} (h : textOfAnswer a = .error f) :
    f.kind = .textService := by
  unfold textOfAnswer at h
  split at h
  · cases h
    rfl
  · cases hb : a.body with
    | none =>
      rw [hb] at h
      cases h
      rfl
    | some body =>
      rw [hb] at h
      cases ht : textOfBody? body with
      | none =>
        simp only [ht] at h
        cases h
        rfl
      | some t =>
        simp only [ht] at h
        cases h

theorem textOfContent_eq_ok {e : Except Fault Value} :
    textOfContent e = .ok text ↔ e = .ok (.string text) := by
  cases e with
  | error f => exact ⟨nofun, nofun⟩
  | ok v => cases v <;> simp [textOfContent]

theorem kind_of_textOfContent {e : Except Fault Value} {f : Failure}
    (h : textOfContent e = .error f) : f.kind = .textService := by
  unfold textOfContent at h
  split at h
  · cases h
    rfl
  · cases h
  · cases h
    rfl

/-! ## What a step ends with -/

/-- What the answers of the services come to. -/
def answer (s : Settings) (services : TextServices) : Except Fault String :=
  if s.provider = ollama then
    match services.post with
    | .error f => .error (transportFault s f)
    | .ok a => (textOfAnswer a).mapError .failure
  else if s.provider = gemini ∧ HasKey s then (textOfContent services.content).mapError .failure
  else .error (.failure (if s.provider = gemini then .keyMissing else .unsupportedProvider s.provider))

theorem gemini_ne_ollama : gemini ≠ ollama := by
  decide

theorem answer_eq_ok : answer s services = .ok text ↔ Gives s services text := by
  unfold answer Gives
  by_cases ho : s.provider = ollama
  · have hg : s.provider ≠ gemini := fun h => gemini_ne_ollama (h.symm.trans ho)
    rw [if_pos ho, or_iff_left fun h => hg h.1, and_iff_right ho]
    cases services.post with
    | error f => simp
    | ok a => simp [mapError_eq_ok, textOfAnswer_eq_ok]
  · rw [if_neg ho, or_iff_right fun h => ho h.1]
    split
    · next h => rw [mapError_eq_ok, textOfContent_eq_ok, and_iff_right h.1, and_iff_right h.2]
    · next h => exact ⟨nofun, fun hgives => absurd ⟨hgives.1, hgives.2.1⟩ h⟩

/-- A step without a text ends by a failure of the service. -/
theorem answer_fails_by_service {f : Fault} (hpost : services.FailsInTransport)
    (h : answer s services = .error f) : ∃ x : Failure, f = .failure x ∧ x.kind = .textService := by
  unfold answer at h
  split at h
  · cases hp : services.post with
    | error g =>
      obtain ⟨e, message, rfl⟩ := hpost g hp
      rw [hp] at h
      refine ⟨_, (Except.error.inj h).symm, ?_⟩
      split <;> rfl
    | ok a =>
      rw [hp] at h
      obtain ⟨x, hx, rfl⟩ := mapError_eq_error.mp h
      exact ⟨x, rfl, kind_of_textOfAnswer hx⟩
  · split at h
    · obtain ⟨x, hx, rfl⟩ := mapError_eq_error.mp h
      exact ⟨x, rfl, kind_of_textOfContent hx⟩
    · refine ⟨_, (Except.error.inj h).symm, ?_⟩
      split <;> rfl

/-! ## What a step does -/

/-- The call that makes the client of the second provider, where one is needed. -/
def connection? (s : Settings) : Option TextCall :=
  if s.provider = gemini ∧ HasKey s then
    s.geminiApiKey.bind fun key => (milliseconds s).toOption.map (.connect key)
  else none

/-- Whether the mark of a client agrees with the settings: without a key none was made. -/
def Sound (s : Settings) (c : TextClient) : Prop :=
  c.connected = true → HasKey s

theorem sound_new : Sound s {} :=
  nofun

theorem exists_key (h : HasKey s) : ∃ key, s.geminiApiKey = some key ∧ key ≠ "" := by
  cases hk : s.geminiApiKey with
  | none => exact absurd hk h.1
  | some key => exact ⟨key, rfl, fun he => h.2 (he ▸ hk)⟩

theorem exists_milliseconds (h : Connects s) : ∃ ms, milliseconds s = .ok ms := by
  unfold Connects at h
  unfold milliseconds
  cases hx : s.generationTimeout.mulRatio 1000 1 with
  | finite => exact ⟨_, rfl⟩
  | infinite =>
    rw [hx] at h
    exact absurd h nofun
  | nan =>
    rw [hx] at h
    exact absurd h nofun

theorem exists_milliseconds_error (h : ¬ Connects s) :
    ∃ f, milliseconds s = .error f ∧ ∀ x, f ≠ .failure x := by
  unfold Connects at h
  unfold milliseconds
  cases hx : s.generationTimeout.mulRatio 1000 1 with
  | finite =>
    rw [hx] at h
    exact absurd rfl h
  | infinite => exact ⟨_, rfl, fun _ => Fault.noConfusion⟩
  | nan => exact ⟨_, rfl, fun _ => Fault.noConfusion⟩

/-- With a key everything depends on the number of milliseconds. -/
theorem connect_of_not_connected (hkey : s.geminiApiKey = some key) (hne : key ≠ "")
    (hc : c.connected = false) : c.connect s = match milliseconds s with
      | .error f => (.fault f, c)
      | .ok ms => (.call (.connect key ms) (.ok ()), ⟨true⟩) := by
  unfold connect
  rw [hc, hkey]
  split
  · next h => exact absurd h nofun
  · split
    · next h => exact absurd h nofun
    · next h => exact absurd (Option.some.inj h) hne
    · next h =>
      cases h
      rfl

theorem connect_of_key (hkey : s.geminiApiKey = some key) (hne : key ≠ "")
    (hms : milliseconds s = .ok ms) :
    c.connect s = (⟨if c.connected then [] else [.connect key ms], .ok ()⟩, ⟨true⟩) := by
  obtain ⟨_ | _⟩ := c
  · rw [connect_of_not_connected hkey hne rfl, hms]
    rfl
  · rfl

theorem connect_of_no_key (h : ¬ HasKey s) (hc : Sound s c) :
    c.connect s = (.fail .keyMissing, c) := by
  have hconnected : c.connected = false := by
    cases hm : c.connected with
    | false => rfl
    | true => exact absurd (hc hm) h
  have hkey : s.geminiApiKey = none ∨ s.geminiApiKey = some "" := by
    by_cases hnone : s.geminiApiKey = none
    · exact .inl hnone
    · exact .inr (Decidable.not_not.mp fun hempty => h ⟨hnone, hempty⟩)
  unfold connect
  rw [hconnected]
  obtain hkey | hkey := hkey
  · rw [hkey]
    rfl
  · rw [hkey]
    rfl

/-- A step in one piece: it makes the client of the second provider if that is needed and was not
done, sends the request, and ends with what the answer comes to. -/
def attempt (s : Settings) (services : TextServices) (p : Prompt) (c : TextClient) :
    TextStep String :=
  (⟨(if c.connected then [] else (connection? s).toList) ++ (requestFor? s p).toList,
      answer s services⟩,
    ⟨c.connected || (connection? s).isSome⟩)

theorem generate_of_key (hg : s.provider = gemini) (hk : HasKey s) (hconnects : Connects s) :
    c.generate s services p = c.attempt s services p := by
  have ho : s.provider ≠ ollama := fun h => gemini_ne_ollama (hg.symm.trans h)
  have hyes : s.provider = gemini ∧ HasKey s := ⟨hg, hk⟩
  obtain ⟨ms, hms⟩ := exists_milliseconds hconnects
  obtain ⟨key, hkey, hne⟩ := exists_key hk
  have hconnection : connection? s = some (.connect key ms) := by
    unfold connection?
    rw [if_pos hyes, hkey, hms]
    rfl
  unfold generate askGemini attempt requestFor? answer
  rw [if_pos hg, if_neg ho, if_neg ho, if_pos hyes, if_pos hyes, connect_of_key hkey hne hms,
    hconnection, Option.isSome_some, Bool.or_true]
  rfl

theorem generate_of_no_key (hg : s.provider = gemini) (hk : ¬ HasKey s) (hc : Sound s c) :
    c.generate s services p = c.attempt s services p := by
  have ho : s.provider ≠ ollama := fun h => gemini_ne_ollama (hg.symm.trans h)
  have hno : ¬ (s.provider = gemini ∧ HasKey s) := fun h => hk h.2
  have hconnection : connection? s = none := if_neg hno
  unfold generate askGemini attempt requestFor? answer
  rw [if_pos hg, if_neg ho, if_neg ho, if_neg hno, if_neg hno, if_pos hg, connect_of_no_key hk hc,
    hconnection, Option.isSome_none, Bool.or_false, Option.toList_none, ite_self]
  rfl

theorem generate_of_ne_gemini (hg : s.provider ≠ gemini) :
    c.generate s services p = c.attempt s services p := by
  have hno : ¬ (s.provider = gemini ∧ HasKey s) := fun h => hg h.1
  have hconnection : connection? s = none := if_neg hno
  unfold generate attempt requestFor? answer
  rw [if_neg hg, hconnection, Option.isSome_none, Bool.or_false, Option.toList_none, ite_self]
  split
  · rfl
  · rfl

theorem generate_eq (hask : CanAsk s) (hc : Sound s c) :
    c.generate s services p = c.attempt s services p := by
  by_cases hg : s.provider = gemini
  · by_cases hk : HasKey s
    · exact generate_of_key hg hk (hask hg hk)
    · exact generate_of_no_key hg hk hc
  · exact generate_of_ne_gemini hg

/-- Without a number of milliseconds a step stops before its first call. -/
theorem generate_of_milliseconds_error {f : Fault} (hg : s.provider = gemini) (hk : HasKey s)
    (hf : milliseconds s = .error f) (hc : c.connected = false) :
    c.generate s services p = (.fault f, c) := by
  obtain ⟨key, hkey, hne⟩ := exists_key hk
  have hconnect : c.connect s = (.fault f, c) := by
    rw [connect_of_not_connected hkey hne hc, hf]
  unfold generate askGemini
  rw [if_pos hg, hconnect]
  rfl

/-! ## One attempt -/

theorem isRequest_of_requestFor? {k : TextCall} (h : requestFor? s p = some k) :
    k.isRequest = true := by
  unfold requestFor? at h
  split at h
  · cases h
    rfl
  · split at h
    · cases h
      rfl
    · exact absurd h nofun

theorem isRequest_of_connection? {k : TextCall} (h : connection? s = some k) :
    k.isRequest = false := by
  unfold connection? at h
  split at h
  · obtain ⟨key, -, hms⟩ := Option.bind_eq_some_iff.mp h
    obtain ⟨ms, -, rfl⟩ := Option.map_eq_some_iff.mp hms
    rfl
  · exact absurd h nofun

theorem requests_attempt : (c.attempt s services p).1.calls.filter TextCall.isRequest =
    (requestFor? s p).toList := by
  have hconnection : (if c.connected then [] else (connection? s).toList).filter
      TextCall.isRequest = [] := by
    refine List.filter_eq_nil_iff.mpr fun k hk => ?_
    split at hk
    · exact absurd hk List.not_mem_nil
    · rw [isRequest_of_connection? (Option.mem_toList.mp hk)]
      exact Bool.false_ne_true
  have hrequest : (requestFor? s p).toList.filter TextCall.isRequest = (requestFor? s p).toList :=
    List.filter_eq_self.mpr fun k hk => isRequest_of_requestFor? (Option.mem_toList.mp hk)
  unfold attempt
  rw [List.filter_append, hconnection, hrequest, List.nil_append]

theorem oneAttempt_attempt (hask : CanAsk s) (hpost : services.FailsInTransport) :
    OneAttempt s services p (c.attempt s services p).1 where
  requests := requests_attempt
  outcome := by
    cases h : answer s services with
    | ok text => exact .inl ⟨text, h⟩
    | error f =>
      obtain ⟨x, rfl, hkind⟩ := answer_fails_by_service hpost h
      exact .inr ⟨x, h, hkind⟩
  gives _ := answer_eq_ok
  alone := by
    rw [generate_eq hask sound_new]
    rfl

theorem not_oneAttempt_fault {f : Fault} (hf : ∀ x, f ≠ .failure x) :
    ¬ OneAttempt s services p (.fault f) := by
  intro h
  obtain ⟨text, htext⟩ | ⟨x, hx, -⟩ := h.outcome
  · exact absurd htext nofun
  · exact hf x (Except.error.inj hx)

/-! ## Runs of a client -/

/-- A key is needed for the mark, so a step leaves a client whose mark agrees with the settings. -/
theorem sound_attempt (services : TextServices) (p : Prompt) (hc : Sound s c) :
    Sound s (c.attempt s services p).2 := by
  intro h
  obtain hmark | hmade := (Bool.or_eq_true _ _).mp h
  · exact hc hmark
  · obtain ⟨k, hk⟩ := Option.isSome_iff_exists.mp hmade
    unfold connection? at hk
    split at hk
    · next hkey => exact hkey.2
    · exact absurd hk nofun

/-- How many of the calls are no requests, that is, how often the client of the second provider is
made. -/
def connections (ks : List TextCall) : Nat :=
  ks.countP (! ·.isRequest)

/-- A step makes the client of the second provider when it sets the mark, and not otherwise. -/
theorem connections_attempt (services : TextServices) (p : Prompt) (c : TextClient) :
    connections (c.attempt s services p).1.calls + c.connected.toNat =
      (c.attempt s services p).2.connected.toNat := by
  have hrequest : connections (requestFor? s p).toList = 0 := by
    refine List.countP_eq_zero.mpr fun k hk => ?_
    rw [isRequest_of_requestFor? (Option.mem_toList.mp hk)]
    exact Bool.false_ne_true
  have hconnection : connections (connection? s).toList = (connection? s).isSome.toNat := by
    cases h : connection? s with
    | none => rfl
    | some k =>
      have hk := isRequest_of_connection? h
      simp [connections, hk]
  unfold attempt
  unfold connections at hrequest hconnection ⊢
  rw [List.countP_append, hrequest, Nat.add_zero]
  obtain ⟨_ | _⟩ := c
  · exact hconnection
  · rfl

/-- A run makes the client of the second provider once at most, and not at all when there is one. -/
theorem connections_generateAll (hask : CanAsk s) (asks : List (TextServices × Prompt))
    (c : TextClient) (hc : Sound s c) :
    connections ((generateAll s asks c).flatMap (·.calls)) + c.connected.toNat ≤ 1 := by
  induction asks generalizing c with
  | nil =>
    rw [show connections _ = 0 from rfl, Nat.zero_add]
    exact Bool.toNat_le _
  | cons a asks ih =>
    unfold generateAll
    rw [generate_eq hask hc]
    have hstep := connections_attempt (s := s) a.1 a.2 c
    have hrun := ih _ (sound_attempt a.1 a.2 hc)
    unfold connections at hstep hrun ⊢
    rw [List.flatMap_cons, List.countP_append]
    omega

theorem oneAttempt_generateAll (hask : CanAsk s) (asks : List (TextServices × Prompt))
    (hpost : ∀ a ∈ asks, a.1.FailsInTransport) (c : TextClient) (hc : Sound s c) :
    List.Forall₂ (fun a t => OneAttempt s a.1 a.2 t) asks (generateAll s asks c) := by
  induction asks generalizing c with
  | nil => exact .nil
  | cons a asks ih =>
    unfold generateAll
    rw [generate_eq hask hc]
    exact .cons (oneAttempt_attempt hask (hpost a List.mem_cons_self))
      (ih (fun b hb => hpost b (List.mem_cons_of_mem _ hb)) _ (sound_attempt a.1 a.2 hc))

theorem generateAll_of_milliseconds_error {f : Fault} (hg : s.provider = gemini) (hk : HasKey s)
    (hf : milliseconds s = .error f) (asks : List (TextServices × Prompt)) (c : TextClient)
    (hc : c.connected = false) : generateAll s asks c = asks.map fun _ => .fault f := by
  induction asks with
  | nil => rfl
  | cons a asks ih =>
    unfold generateAll
    rw [generate_of_milliseconds_error hg hk hf hc, ih, List.map_cons]

theorem generateAll_of_not_canAsk (h : ¬ CanAsk s) (asks : List (TextServices × Prompt)) :
    ∃ f, milliseconds s = .error f ∧ (∀ x, f ≠ .failure x) ∧
      generateAll s asks {} = asks.map fun _ => .fault f := by
  simp only [CanAsk, Classical.not_imp] at h
  obtain ⟨hg, hk, hconnects⟩ := h
  obtain ⟨f, hf, hno⟩ := exists_milliseconds_error hconnects
  exact ⟨f, hf, hno, generateAll_of_milliseconds_error hg hk hf asks {} rfl⟩

def afterAll (s : Settings) (asks : List (TextServices × Prompt)) (c : TextClient) : TextClient :=
  asks.foldl (fun c a => (c.generate s a.1 a.2).2) c

/-- What the services answer does not show in the client. -/
theorem client_generate_eq (services' : TextServices) :
    (c.generate s services p).2 = (c.generate s services' p).2 := by
  unfold generate
  split
  · rfl
  · split
    · rfl
    · rfl

theorem drop_generateAll (before after : List (TextServices × Prompt)) (c : TextClient) :
    (generateAll s (before ++ after) c).drop before.length =
      generateAll s after (afterAll s before c) := by
  induction before generalizing c with
  | nil => rfl
  | cons a before ih => exact ih _

theorem oneAttempt_iff_generateAll (asks : List (TextServices × Prompt))
    (hpost : ∀ a ∈ asks, a.1.FailsInTransport) :
    List.Forall₂ (fun a t => OneAttempt s a.1 a.2 t ↔ CanAsk s) asks (generateAll s asks {}) := by
  by_cases hask : CanAsk s
  · exact (oneAttempt_generateAll hask asks hpost {} sound_new).imp fun _ _ h => iff_of_true h hask
  · obtain ⟨f, -, hno, hrun⟩ := generateAll_of_not_canAsk hask asks
    rw [hrun, List.forall₂_map_right_iff, List.forall₂_same]
    exact fun _ _ => iff_of_false (not_oneAttempt_fault hno) hask

theorem connections_generateAll_new (asks : List (TextServices × Prompt)) :
    connections ((generateAll s asks {}).flatMap (·.calls)) ≤ 1 := by
  by_cases hask : CanAsk s
  · exact Nat.le_of_add_right_le (connections_generateAll hask asks {} sound_new)
  · obtain ⟨f, -, -, hrun⟩ := generateAll_of_not_canAsk hask asks
    have hcalls : (generateAll s asks {}).flatMap (·.calls) = [] := by
      rw [hrun, List.flatMap_map]
      exact List.flatMap_eq_nil_iff.mpr fun _ _ => rfl
    rw [hcalls]
    exact Nat.zero_le 1

/-- **One attempt for each text.**  Prompts one after the other are each tried once, whatever the
services answer, exactly when the provider can be asked: unless it is the second one, has a key, and the
time limit in milliseconds is infinite or undefined.  Then every prompt ends in the error of the
conversion, which is no failure of the service, and nothing is called.  In any case the client of the
second provider is made once at most, and what a prompt was answered, a fault included, changes nothing
for the prompts after it. -/
theorem attempts_of_run (s : Settings) (asks : List (TextServices × Prompt))
    (hpost : ∀ a ∈ asks, a.1.FailsInTransport) :
    List.Forall₂ (fun a t => OneAttempt s a.1 a.2 t ↔ CanAsk s) asks (generateAll s asks {}) ∧
      (¬ CanAsk s → ∃ f, milliseconds s = .error f ∧ (∀ x, f ≠ .failure x) ∧
        generateAll s asks {} = asks.map fun _ => .fault f) ∧
      connections ((generateAll s asks {}).flatMap (·.calls)) ≤ 1 ∧
      ∀ before a after, asks = before ++ a :: after → ∀ services : TextServices,
        (generateAll s (before ++ (services, a.2) :: after) {}).drop (before.length + 1) =
          (generateAll s asks {}).drop (before.length + 1) := by
  refine ⟨oneAttempt_iff_generateAll asks hpost, fun h => generateAll_of_not_canAsk h asks,
    connections_generateAll_new asks, ?_⟩
  rintro before a after rfl services
  have hdrop (b : TextServices × Prompt) :
      (generateAll s (before ++ b :: after) {}).drop (before.length + 1) =
        generateAll s after ((afterAll s before {}).generate s b.1 b.2).2 := by
    rw [← List.drop_drop, drop_generateAll]
    rfl
  rw [hdrop, hdrop, client_generate_eq a.1]

/-- A run of four prompts over a service with a key: its first answer is a fault, its second one is no
text, and the third and the fourth prompt are tried as if they were the first. -/
theorem attempts_of_run_after_faults :
    let s : Settings := { provider := gemini, geminiApiKey := some "key" }
    let p : Prompt := ⟨"system", "user"⟩
    let replies (e : Except Fault Value) : TextServices := ⟨.error (.transport .timeout "late"), e⟩
    let asks := [(replies (.error (.runtime "quota")), p), (replies (.ok .null), p),
      (replies (.ok (.string "a text")), p), (replies (.error (.io "gone")), p)]
    CanAsk s ∧
      (generateAll s asks {}).map (·.outcome) =
        [.error (.failure (.serviceFailed "quota")), .error (.failure .replyWithoutText),
          .ok "a text", .error (.failure (.serviceFailed "gone"))] ∧
      List.Forall₂ (fun a t => OneAttempt s a.1 a.2 t ↔ CanAsk s) asks (generateAll s asks {}) ∧
      (¬ CanAsk s → ∃ f, milliseconds s = .error f ∧ (∀ x, f ≠ .failure x) ∧
        generateAll s asks {} = asks.map fun _ => .fault f) ∧
      connections ((generateAll s asks {}).flatMap (·.calls)) ≤ 1 ∧
      ∀ before a after, asks = before ++ a :: after → ∀ services : TextServices,
        (generateAll s (before ++ (services, a.2) :: after) {}).drop (before.length + 1) =
          (generateAll s asks {}).drop (before.length + 1) := by
  intro s p replies asks
  refine ⟨by decide +kernel, by decide +kernel, attempts_of_run s asks ?_⟩
  intro a ha f hf
  have hpost : a.1.post = .error (.transport .timeout "late") := by
    simp only [asks, List.mem_cons, List.not_mem_nil, or_false] at ha
    obtain rfl | rfl | rfl | rfl := ha <;> rfl
  rw [hpost] at hf
  exact ⟨_, _, (Except.error.inj hf).symm⟩

/-- Within a time limit of `1e306` seconds, whose milliseconds are infinite, the second provider is not
asked although it has a key and would answer with a text. -/
theorem unbounded_timeout_escapes :
    let s : Settings := { provider := gemini, geminiApiKey := some "k",
                          generationTimeout := .ofDecimal false 1 306 }
    let p : Prompt := ⟨"sys", "usr"⟩
    let services : TextServices := ⟨.ok ⟨200, none⟩, .ok (.string "a text")⟩
    s.generationTimeout.isFinite = true ∧
      requestFor? s p = some (.content s.geminiModel p (.zero false) 1024) ∧
      generateAll s [(services, p)] {} =
        [.fault (.overflow "cannot convert float infinity to integer")] ∧
      ¬ OneAttempt s services p (.fault (.overflow "cannot convert float infinity to integer")) := by
  intro s p services
  exact ⟨by decide +kernel, by decide +kernel, by decide +kernel,
    not_oneAttempt_fault fun _ => Fault.noConfusion⟩

end TextClient

end QueryWarden
