import DeviceAgent.Daemon.Startup
import DeviceAgent.Proofs.ConnectionFold
import DeviceAgent.Proofs.PowerGate
import DeviceAgent.Proofs.ProviderAnswers
import DeviceAgent.Proofs.Words

/-!
# The provider that settings come to

Settings are merged from a file and the environment, and the provider is made up from the merged settings. What the
settings select is what is made: a provider that has a key, asked at its own place with its own key.
-/

namespace DeviceAgent

/-! ## Keys in the environment -/

/-- The variable of a provider holds a key, outer blanks aside. -/
def Environment.Gives (env : Environment) (kind : ProviderKind) (key : String) : Prop :=
  ∃ name text, kind.keyVariable? = some name ∧ env.lookup name = some text ∧ Text.isAllBlank text = false ∧
    key = Text.trimmed text

/-- Where a provider is asked. -/
def Endpoints.of? (e : Endpoints) : ProviderKind → Option String
  | .none => none
  | .openai => some e.openai
  | .anthropic => some e.anthropic

/-- A request goes to the place of a provider, with its key in the header for that, and asks for its model. -/
structure HttpRequest.IsFor (r : HttpRequest) (p : HttpProvider) : Prop where
  endpoint : r.endpoint = p.endpoint
  openai : p.kind = .openai → r.headers.lookup "authorization" = some ("Bearer " ++ p.key)
  anthropic : p.kind = .anthropic → r.headers.lookup "x-api-key" = some p.key
  model : r.body.field? "model" = some (.string p.model)

namespace Environment

variable {env : Environment}

lemma value?_eq_some {name key : String} :
    env.value? name = some key ↔
      ∃ text, env.lookup name = some text ∧ Text.isAllBlank text = false ∧ key = Text.trimmed text := by
  unfold value?
  cases env.lookup name with
  | none => simp
  | some text =>
    have hempty := Text.isEmpty_trimmed text
    simp only [Option.bind_some, hempty, Option.some.injEq, exists_eq_left']
    cases hblank : Text.isAllBlank text with
    | true => simp
    | false => simpa using eq_comm

lemma gives_iff {kind : ProviderKind} {key : String} :
    kind.keyVariable?.bind env.value? = some key ↔ env.Gives kind key := by
  unfold Gives
  cases hname : kind.keyVariable? with
  | none => simp
  | some name => simp [value?_eq_some]

end Environment

/-! ## What is sent -/

namespace HttpProvider

variable {p : HttpProvider} {history : List Turn} {said : String} {n : Network} {r : HttpRequest}

lemma isFor_of_request (h : p.request history said = .ok r) : r.IsFor p := by
  unfold request at h
  cases hk : p.kind with
  | none => simp [hk] at h
  | openai =>
    simp only [hk] at h
    split at h
    · obtain rfl := Except.ok.inj h
      exact ⟨rfl, fun _ => rfl, fun hother => by simp [hk] at hother, rfl⟩
    · simp at h
  | anthropic =>
    simp only [hk] at h
    split at h
    · obtain rfl := Except.ok.inj h
      exact ⟨rfl, fun hother => by simp [hk] at hother, fun _ => rfl, rfl⟩
    · simp at h

/-- Whether a question is waited for or given up, the same is sent for it. -/
lemma sent_within (limit : Nat) : (p.provider.within limit history said n).2 = (p.complete n history said).2 := by
  unfold Provider.within
  split <;> rfl

lemma sent_complete (h : p.request history said = .ok r) :
    (p.complete n history said).2.sent = n.sent ++ (if n.outcome.arrived then [r] else []) := by
  obtain ⟨next, hsend, hsent⟩ := n.send_eq r
  simp only [complete, h, hsend, hsent]

lemma isFor_of_sent {limit : Nat} (h : r ∈ (p.provider.within limit history said n).2.sent) :
    r ∈ n.sent ∨ r.IsFor p := by
  rw [sent_within] at h
  cases hr : p.request history said with
  | error e =>
    simp only [complete, hr] at h
    exact Or.inl h
  | ok r' =>
    rw [sent_complete hr] at h
    obtain hmem | hnew := List.mem_append.mp h
    · exact Or.inl hmem
    · obtain ⟨-, rfl⟩ : n.outcome.arrived = true ∧ r = r' := by simpa using hnew
      exact Or.inr (isFor_of_request hr)

end HttpProvider

/-! ## The file -/

lemma SettingsFile.limits_of_fault? {f : SettingsFile} (h : f.fault? = none) :
    2 ≤ f.historyCapacity ∧ 1024 ≤ f.maxMessageSize ∧ f.maxMessageSize ≤ 16 * 1024 * 1024 ∧
      0 < f.requestTimeoutSecs := by
  unfold fault? messageSizes at h
  dsimp only at h
  split_ifs at h with hhistory hsize htimeout
  simp only [Bool.or_eq_true, decide_eq_true_eq] at hsize
  omega

namespace Settings

/-! ## The choice of a provider -/

lemma lookup_credentialsIn (env : Environment) (kind : ProviderKind) :
    (credentialsIn env).lookup kind = kind.keyVariable?.bind env.value? := by
  have hlist : credentialsIn env = ((env.value? "OPENAI_API_KEY").map (ProviderKind.openai, ·)).toList ++
      ((env.value? "ANTHROPIC_API_KEY").map (ProviderKind.anthropic, ·)).toList := by
    unfold credentialsIn
    cases ho : env.value? "OPENAI_API_KEY" <;> cases ha : env.value? "ANTHROPIC_API_KEY" <;>
      simp [ProviderKind.keyVariable?, ho, ha]
  rw [hlist]
  cases kind
  all_goals
    dsimp only [ProviderKind.keyVariable?, Option.bind_some, Option.bind_none]
    cases env.value? "OPENAI_API_KEY" <;> cases env.value? "ANTHROPIC_API_KEY" <;> rfl

/-- A provider is selected only when it has a key. -/
lemma isSome_lookup_selectProvider {wish : Option ProviderKind} {credentials : List (ProviderKind × String)}
    (h : (selectProvider wish credentials).1 ≠ .none) :
    (credentials.lookup (selectProvider wish credentials).1).isSome = true := by
  unfold selectProvider at h ⊢
  split at h
  · exact (h rfl).elim
  · split_ifs at h ⊢ with hkind
    · exact hkind
    · exact (h rfl).elim
  · split_ifs at h ⊢ with hopenai hanthropic
    · exact hopenai
    · exact hanthropic
    · exact (h rfl).elim

lemma selectProvider_of_key {kind : ProviderKind} {credentials : List (ProviderKind × String)}
    (h : (credentials.lookup kind).isSome = true) : (selectProvider (some kind) credentials).1 = kind := by
  unfold selectProvider
  cases kind with
  | none => rfl
  | openai => simp only [h, if_true]
  | anthropic => simp only [h, if_true]

lemma selectProvider_of_missing {kind : ProviderKind} {credentials : List (ProviderKind × String)}
    (h : credentials.lookup kind = none) : (selectProvider (some kind) credentials).1 = .none := by
  unfold selectProvider
  cases kind with
  | none => rfl
  | openai => simp only [h, Option.isSome_none, Bool.false_eq_true, if_false]
  | anthropic => simp only [h, Option.isSome_none, Bool.false_eq_true, if_false]

lemma lookup_of_selectProvider {credentials : List (ProviderKind × String)}
    (h : (selectProvider none credentials).1 = .none) :
    credentials.lookup .openai = none ∧ credentials.lookup .anthropic = none := by
  unfold selectProvider at h
  dsimp only at h
  split_ifs at h with hopenai hanthropic
  exact ⟨Option.not_isSome_iff_eq_none.mp hopenai, Option.not_isSome_iff_eq_none.mp hanthropic⟩

/-- There is a notice exactly when a provider is asked for that has no key. -/
lemma notice_selectProvider {wish : Option ProviderKind} {credentials : List (ProviderKind × String)} {text : String} :
    (selectProvider wish credentials).2 = some text ↔
      ∃ kind name, wish = some kind ∧ kind.keyVariable? = some name ∧ credentials.lookup kind = none ∧
        text = "Provider " ++ kind.name ++ " selected but " ++ name ++ " is not set; using local fallback" := by
  unfold selectProvider
  split
  · simp [ProviderKind.keyVariable?]
  · next kind hkind =>
    obtain ⟨name, hname⟩ : ∃ name, kind.keyVariable? = some name := by
      cases kind <;> simp [ProviderKind.keyVariable?] at hkind ⊢
    cases hkey : credentials.lookup kind with
    | some key =>
      constructor
      · simp
      · rintro ⟨_, _, ⟨⟩, -, hnone, -⟩
        rw [hkey] at hnone
        simp at hnone
    | none =>
      constructor
      · intro htext
        obtain rfl := Option.some.inj htext
        exact ⟨kind, name, rfl, hname, hkey, by rw [hname, Option.getD_some]⟩
      · rintro ⟨_, _, ⟨⟩, hsame, -, rfl⟩
        rw [hsame]
        rfl
  · split_ifs <;> simp

/-! ## Loading -/

variable {contents : FileContents} {env : Environment} {s : Settings}

lemma exists_of_load (h : load contents env = .ok s) :
    ∃ file, SettingsFile.read contents = .ok file ∧ file.fault? = none ∧ resolve file env = .ok s := by
  obtain ⟨file, hread, h⟩ := exists_of_bind_eq_ok h
  split at h
  · simp [throw, throwThe, MonadExceptOf.throw] at h
  · next hfault => exact ⟨file, hread, hfault, h⟩

/-- The settings that a file and an environment are merged to. -/
structure Merged (file : SettingsFile) (env : Environment) (s : Settings) : Prop where
  choice : (s.provider, s.notice) = selectProvider file.provider s.credentials
  credentials : s.credentials = credentialsIn env
  model : s.model = (file.model.filter fun m => ! Text.isAllBlank m).getD s.provider.defaultModel
  endpoints : s.endpoints = file.endpoints
  historyCapacity : s.historyCapacity = file.historyCapacity
  maxMessageSize : s.maxMessageSize = file.maxMessageSize
  requestTimeoutSecs : s.requestTimeoutSecs = file.requestTimeoutSecs

lemma merged_of_resolve {file : SettingsFile} (h : resolve file env = .ok s) : Merged file env s := by
  obtain ⟨devices, -, rfl⟩ := exists_of_map_eq_ok h
  constructor <;> rfl

/-- Whether there are settings depends on the file and on the choice of devices only. -/
lemma exists_of_load_of_devices {env' : Environment} (h : load contents env = .ok s)
    (hd : env'.lookup devicesVariable = env.lookup devicesVariable) : ∃ s', load contents env' = .ok s' := by
  obtain ⟨file, hread, hfault, hresolve⟩ := exists_of_load h
  obtain ⟨devices, hdevices, -⟩ := exists_of_map_eq_ok hresolve
  have hsame : devicesIn env' file = devicesIn env file := by
    unfold devicesIn Environment.value?
    rw [hd]
  have hload : load contents env' = resolve file env' := by
    unfold load
    rw [hread]
    simp only [bind, Except.bind, hfault]
  have hresolved : ∃ s', resolve file env' = .ok s' := by
    unfold resolve
    rw [hsame, hdevices]
    exact ⟨_, rfl⟩
  rwa [hload]

/-! ## The provider that is made -/

namespace Merged

variable {file : SettingsFile}

/-- Settings with a provider have a key for it, and it is made of what they say about it. -/
lemma exists_httpProvider (h : Merged file env s) (hp : s.provider ≠ .none) :
    ∃ key, env.Gives s.provider key ∧
      s.httpProvider = .ok ⟨s.provider, s.endpoint, key, s.model, s.maxTokens, s.requestTimeoutSecs⟩ := by
  have hchoice : s.provider = (selectProvider file.provider s.credentials).1 := congrArg Prod.fst h.choice
  have hsome := isSome_lookup_selectProvider (hchoice ▸ hp)
  rw [← hchoice] at hsome
  obtain ⟨key, hkey⟩ := Option.isSome_iff_exists.mp hsome
  have hgives : env.Gives s.provider key := by
    rwa [h.credentials, lookup_credentialsIn, Environment.gives_iff] at hkey
  obtain ⟨name, text, hname, htext, hblank, htrimmed⟩ := id hgives
  have hfull : key.isEmpty = false := by rw [htrimmed, Text.isEmpty_trimmed, hblank]
  refine ⟨key, hgives, ?_⟩
  simp [httpProvider, HttpProvider.make, hp, hkey, hfull]

lemma httpProvider_none (hp : s.provider = .none) : s.httpProvider = .error .notConfigured := by
  simp [httpProvider, hp]

lemma aiConfigured_iff (h : Merged file env s) : s.aiConfigured = true ↔ ∃ p, s.httpProvider = .ok p := by
  by_cases hp : s.provider = .none
  · simp [aiConfigured, hp, httpProvider_none hp]
  · obtain ⟨key, -, hmade⟩ := h.exists_httpProvider hp
    simp [aiConfigured, hp, hmade]

/-- The agent gets the provider that can be made. -/
lemma provider_agent (h : Merged file env s) :
    s.agent.provider = s.httpProvider.toOption.map HttpProvider.provider := by
  unfold agent remote?
  split
  · rfl
  · next hnone =>
    cases hmade : s.httpProvider with
    | error e => rfl
    | ok p => exact absurd (h.aiConfigured_iff.mpr ⟨p, hmade⟩) hnone

lemma isSome_provider (h : Merged file env s) : s.agent.provider.isSome = s.aiConfigured := by
  rw [Bool.eq_iff_iff, h.aiConfigured_iff, h.provider_agent]
  cases s.httpProvider <;> simp [Except.toOption]

lemma endpoint_eq (h : Merged file env s) (hp : s.provider ≠ .none) :
    file.endpoints.of? s.provider = some s.endpoint := by
  rw [← h.endpoints]
  unfold Endpoints.of? endpoint
  cases hkind : s.provider with
  | none => exact (hp hkind).elim
  | openai => rfl
  | anthropic => rfl

/-- The provider that is made is the one that is selected, and what it is made of is its own. -/
lemma httpProvider_ok (h : Merged file env s) {p : HttpProvider} (hp : s.httpProvider = .ok p) :
    p.kind = s.provider ∧ file.endpoints.of? s.provider = some p.endpoint ∧ env.Gives s.provider p.key ∧
      (∀ m, file.model = some m → Text.isAllBlank m = false → p.model = m) ∧
      ((∀ m, file.model = some m → Text.isAllBlank m = true) → p.model = s.provider.defaultModel) := by
  have hsome : s.provider ≠ .none := fun hnone => by simp [httpProvider_none hnone] at hp
  obtain ⟨key, hgives, hmade⟩ := h.exists_httpProvider hsome
  obtain rfl := Except.ok.inj (hp.symm.trans hmade)
  refine ⟨rfl, h.endpoint_eq hsome, hgives, ?_, ?_⟩
  · intro m hm hblank
    simp [h.model, hm, hblank, Option.filter]
  · intro hblank
    have hnone : (file.model.filter fun m => ! Text.isAllBlank m) = none := by
      cases hm : file.model with
      | none => rfl
      | some m => simp [Option.filter, hblank m hm]
    rw [h.model, hnone, Option.getD_none]

end Merged

/-- Whenever settings are loaded, the provider that they select has a key, and it is the provider that the agent gets:
all that the agent sends goes to its own place, with its own key, and asks for the model of the file if that names one.
A provider that is asked for is selected if it has a key, and told of if it has none; keys never decide whether there
are settings. The limits are such that every response has a frame, the one in place of a response that is too long
included. -/
theorem provider_configured (h : load contents env = .ok s) :
    ∃ file, SettingsFile.read contents = .ok file ∧
    (s.provider ≠ .none → ∃ key, env.Gives s.provider key) ∧
    (s.aiConfigured = true ↔ ∃ p, s.httpProvider = .ok p) ∧ s.agent.provider.isSome = s.aiConfigured ∧
    (∀ e, s.httpProvider = .error e → s.agent.provider = none) ∧
    (∀ p, s.httpProvider = .ok p → s.agent.provider = some p.provider ∧
      (∀ limit history said n, ∀ r ∈ (p.provider.within limit history said n).2.sent, r ∈ n.sent ∨ r.IsFor p) ∧
      p.kind = s.provider ∧ file.endpoints.of? s.provider = some p.endpoint ∧ env.Gives s.provider p.key ∧
      (∀ m, file.model = some m → Text.isAllBlank m = false → p.model = m) ∧
      ((∀ m, file.model = some m → Text.isAllBlank m = true) → p.model = s.provider.defaultModel)) ∧
    (∀ kind, file.provider = some kind → (∀ key, env.Gives kind key → s.provider = kind) ∧
      ((∀ key, ¬ env.Gives kind key) → s.provider = .none)) ∧
    (∀ kind key, file.provider = none → env.Gives kind key → s.provider ≠ .none) ∧
    (∀ text, s.notice = some text ↔ ∃ kind name, file.provider = some kind ∧ kind.keyVariable? = some name ∧
      (∀ key, ¬ env.Gives kind key) ∧
      text = "Provider " ++ kind.name ++ " selected but " ++ name ++ " is not set; using local fallback") ∧
    (∀ env' : Environment, env'.lookup devicesVariable = env.lookup devicesVariable →
      ∃ s', load contents env' = .ok s') ∧
    2 ≤ s.historyCapacity ∧ 1024 ≤ s.maxMessageSize ∧ s.maxMessageSize ≤ 16 * 1024 * 1024 ∧ 0 < s.requestTimeoutSecs ∧
    Response.oversize.encode.length ≤ s.maxMessageSize ∧
    ∀ r : Response, ∃ octets, r.frame s.maxMessageSize = .ok octets := by
  obtain ⟨file, hread, hfault, hresolve⟩ := exists_of_load h
  have hm := merged_of_resolve hresolve
  have hprovider : s.provider = (selectProvider file.provider s.credentials).1 := congrArg Prod.fst hm.choice
  have hnotice : s.notice = (selectProvider file.provider s.credentials).2 := congrArg Prod.snd hm.choice
  have hkey (kind : ProviderKind) (key : String) : s.credentials.lookup kind = some key ↔ env.Gives kind key := by
    rw [hm.credentials, lookup_credentialsIn, Environment.gives_iff]
  have hmissing_iff (kind : ProviderKind) : s.credentials.lookup kind = none ↔ ∀ key, ¬ env.Gives kind key := by
    rw [Option.eq_none_iff_forall_ne_some]
    exact forall_congr' fun key => not_congr (hkey kind key)
  obtain ⟨hhistory, hlow, hhigh, htimeout⟩ := SettingsFile.limits_of_fault? hfault
  rw [← hm.historyCapacity] at hhistory
  rw [← hm.maxMessageSize] at hlow hhigh
  rw [← hm.requestTimeoutSecs] at htimeout
  refine ⟨file, hread, ?_, ?_, ?_, ?_, ?_, ?_, ?_, ?_, fun env' => exists_of_load_of_devices h, hhistory, hlow, hhigh,
    htimeout, ?_, fun r => ⟨_, Response.frame_eq hlow r⟩⟩
  · intro hp
    obtain ⟨key, hgives, -⟩ := hm.exists_httpProvider hp
    exact ⟨key, hgives⟩
  · exact hm.aiConfigured_iff
  · exact hm.isSome_provider
  · intro e he
    rw [hm.provider_agent, he]
    rfl
  · intro p hp
    refine ⟨?_, fun limit history said n r => HttpProvider.isFor_of_sent, hm.httpProvider_ok hp⟩
    rw [hm.provider_agent, hp]
    rfl
  · intro kind hwish
    rw [hprovider, hwish]
    refine ⟨fun key hgives => ?_, fun hmissing => ?_⟩
    · exact selectProvider_of_key (Option.isSome_iff_exists.mpr ⟨key, (hkey kind key).mpr hgives⟩)
    · exact selectProvider_of_missing ((hmissing_iff kind).mpr hmissing)
  · intro kind key hwish hgives hnone
    rw [hprovider, hwish] at hnone
    obtain ⟨hopenai, hanthropic⟩ := lookup_of_selectProvider hnone
    have hlookup := (hkey kind key).mpr hgives
    cases kind with
    | none =>
      obtain ⟨name, -, hname, -⟩ := hgives
      simp [ProviderKind.keyVariable?] at hname
    | openai => simp [hopenai] at hlookup
    | anthropic => simp [hanthropic] at hlookup
  · intro text
    simp only [hnotice, notice_selectProvider, hmissing_iff]
  · have hoversize : Response.oversize.encode.length ≤ 1024 := by decide
    exact hoversize.trans hlow

/-- A file that asks for a provider and leaves the model blank. -/
def terseFile : FileContents := .octets (Text.octets "provider = \"anthropic\"\nmodel = \" \"\n")

def twoKeys : Environment := [("OPENAI_API_KEY", "sk-o"), ("ANTHROPIC_API_KEY", " sk-a\n")]

/-- A network that has an answer for one request. -/
def quiet : Network := ⟨[.answered 204 [] true], [], 20⟩

/-- The agent's provider is the one that has the key, and the one request that it sends is for it; without the key there
is none. -/
theorem provider_configured_terse :
    (∃ (s : Settings) (p : HttpProvider), load terseFile twoKeys = .ok s ∧ s.agent.provider = some p.provider ∧
      (p.kind = .anthropic ∧ p.endpoint = "https://api.anthropic.com/v1/messages" ∧ p.key = "sk-a" ∧
        p.model = "claude-3-opus-20240229") ∧
      ∃ r, (p.provider.within 30000 [] "hi" quiet).2.sent = [r] ∧
        r.endpoint = "https://api.anthropic.com/v1/messages" ∧ r.headers.lookup "x-api-key" = some "sk-a" ∧
        r.body.field? "model" = some (.string "claude-3-opus-20240229")) ∧
    ∃ s, load terseFile [("OPENAI_API_KEY", "sk-o")] = .ok s ∧ s.provider = .none ∧ s.agent.provider = none ∧
      s.notice = some "Provider anthropic selected but ANTHROPIC_API_KEY is not set; using local fallback" := by
  have hasks : (SettingsFile.read terseFile).map (fun file => (file.provider, file.model, file.endpoints.anthropic)) =
    .ok (some .anthropic, some " ", "https://api.anthropic.com/v1/messages") := by decide +kernel
  obtain ⟨s, hs⟩ : ∃ s, load terseFile twoKeys = .ok s := by
    have hok : (load terseFile twoKeys).isOk = true := by decide +kernel
    cases hs : load terseFile twoKeys with
    | error e => simp [hs, Except.isOk, Except.toBool] at hok
    | ok s => exact ⟨s, rfl⟩
  obtain ⟨file, hread, -, hconfigured, -, -, hmade, hwish, -, -, hkeys, -⟩ := provider_configured hs
  rw [hread] at hasks
  obtain ⟨hprovider, hfields⟩ := Prod.mk.inj (Except.ok.inj hasks)
  obtain ⟨hmodel, hplace⟩ := Prod.mk.inj hfields
  obtain ⟨s', hs'⟩ := hkeys [("OPENAI_API_KEY", "sk-o")] (by decide)
  obtain ⟨file', hread', -, hconfigured', -, hfailed', -, hwish', -, hnotice', -⟩ := provider_configured hs'
  obtain rfl : file = file' := Except.ok.inj (hread.symm.trans hread')
  have hgives : Environment.Gives twoKeys .anthropic "sk-a" :=
    ⟨"ANTHROPIC_API_KEY", " sk-a\n", rfl, by decide, by decide, by decide⟩
  have hmissing : ∀ key, ¬ Environment.Gives [("OPENAI_API_KEY", "sk-o")] .anthropic key := by
    rintro key ⟨name, text, hname, htext, -⟩
    obtain rfl := Option.some.inj hname
    have hnone : List.lookup "ANTHROPIC_API_KEY" [("OPENAI_API_KEY", "sk-o")] = none := by decide
    rw [hnone] at htext
    exact absurd htext nofun
  have hchosen := (hwish .anthropic hprovider).1 "sk-a" hgives
  have hdropped := (hwish' .anthropic hprovider).2 hmissing
  refine ⟨?_, s', hs', hdropped, ?_, ?_⟩
  · obtain ⟨p, hp⟩ := hconfigured.mp (by rw [aiConfigured, hchosen]; rfl)
    obtain ⟨hagent, hsent, hkind, hendpoint, ⟨name, text, hname, htext, -, hkey⟩, -, hdefault⟩ := hmade p hp
    rw [hchosen] at hkind hname hdefault hendpoint
    obtain rfl := Option.some.inj hname
    obtain rfl : " sk-a\n" = text := Option.some.inj htext
    have hendpoint : p.endpoint = "https://api.anthropic.com/v1/messages" :=
      (Option.some.inj hendpoint).symm.trans hplace
    have hkey : p.key = "sk-a" := hkey.trans (by decide)
    have hmodel : p.model = "claude-3-opus-20240229" := by
      refine hdefault fun m hm => ?_
      obtain rfl : " " = m := Option.some.inj (hmodel.symm.trans hm)
      decide
    obtain ⟨r, hr⟩ : ∃ r, (p.provider.within 30000 [] "hi" quiet).2.sent = [r] := by
      obtain ⟨-, r, hr⟩ | ⟨hblocked, -⟩ := p.request_cases (by simp [hkind]) [] "hi"
      · rw [HttpProvider.sent_within, HttpProvider.sent_complete hr]
        exact ⟨r, rfl⟩
      · rw [hkey] at hblocked
        exact absurd hblocked (by decide)
    obtain hbefore | hfor := hsent 30000 [] "hi" quiet r (by simp [hr])
    · simp [quiet] at hbefore
    · refine ⟨s, p, hs, hagent, ⟨hkind, hendpoint, hkey, hmodel⟩, r, hr, ?_, ?_, ?_⟩
      · rw [hfor.endpoint, hendpoint]
      · rw [hfor.anthropic hkind, hkey]
      · rw [hfor.model, hmodel]
  · cases hmade : s'.httpProvider with
    | error e => exact hfailed' e hmade
    | ok p =>
      have hnone := hconfigured'.mpr ⟨p, hmade⟩
      rw [aiConfigured, hdropped] at hnone
      exact absurd hnone (by decide)
  · exact (hnotice' _).mpr ⟨.anthropic, "ANTHROPIC_API_KEY", hprovider, rfl, hmissing, by decide⟩

end Settings

end DeviceAgent
