import DeviceAgent.Proofs.Octets
import DeviceAgent.Provider.Http

/-!
# What an answer comes to

Each request comes to a reply or to one failure. A reply is a text out of a successful answer, as it stands there; a
failure is of the class that the first thing wrong with the exchange belongs to.
-/

namespace DeviceAgent

namespace Json

variable {v w : Json} {key : String}

lemma field?_eq_some : v.field? key = some w ↔ ∃ members, v = .object members ∧ member? key members = some w := by
  cases v <;> simp [field?]

lemma item?_zero_eq_some : v.item? 0 = some w ↔ ∃ items, v = .array (w :: items) := by
  cases v with
  | array items => cases items <;> simp [item?, eq_comm]
  | _ => simp [item?]

lemma string?_eq_some {text : String} : v.string? = some text ↔ v = .string text := by
  cases v <;> simp [string?]

end Json

namespace ProviderKind

/-- The text that an answer carries: the content of the first choice's message, or the text of the first content. -/
inductive Carries : ProviderKind → Json → String → Prop
  | openai {answer choice message : List (String × Json)} {choices : List Json} {text : String}
      (hchoices : Json.member? "choices" answer = some (.array (.object choice :: choices)))
      (hmessage : Json.member? "message" choice = some (.object message))
      (htext : Json.member? "content" message = some (.string text)) : Carries .openai (.object answer) text
  | anthropic {answer content : List (String × Json)} {contents : List Json} {text : String}
      (hcontent : Json.member? "content" answer = some (.array (.object content :: contents)))
      (htext : Json.member? "text" content = some (.string text)) : Carries .anthropic (.object answer) text

/-- Where the text of an answer is looked for. -/
def place : ProviderKind → String
  | .anthropic => "content[0].text"
  | _ => "choices[0].message.content"

end ProviderKind

namespace HttpProvider

/-- A status that means success. -/
def IsSuccess (status : Nat) : Prop :=
  200 ≤ status ∧ status < 300

/-- An exchange that gives a reply: the text of a successful answer, which is not all blank. -/
inductive Replies (p : HttpProvider) : Exchange → String → Prop
  | text {status : Nat} {body : List UInt8} {answer : Json} {text : String} (hstatus : IsSuccess status)
      (hbody : Json.read? body = some answer) (htext : p.kind.Carries answer text)
      (hblank : ∃ c ∈ text.toList, Text.isBlank c = false) : Replies p (.answered status body true) text

/-- An exchange that gives none, and the failure that says why. -/
inductive Fails (p : HttpProvider) : Exchange → ProviderFailure → Prop
  | late (arrived : Bool) : Fails p (.unanswered arrived true) (.timeout p.timeoutSecs)
  | lost (arrived : Bool) : Fails p (.unanswered arrived false) requestFailed
  | status {status : Nat} (hstatus : ¬ IsSuccess status) (body : List UInt8) :
    Fails p (.answered status body true) (.status status (String.ofList ((Text.lossy body).toList.take 200)))
  /-- Nothing is told of a body that breaks off. -/
  | statusCut {status : Nat} (hstatus : ¬ IsSuccess status) (body : List UInt8) :
    Fails p (.answered status body false) (.status status "")
  | unreadable {status : Nat} {body : List UInt8} {complete : Bool} (hstatus : IsSuccess status)
      (hbody : complete = true → Json.read? body = none) :
    Fails p (.answered status body complete) (.invalidResponse "Failed to parse response")
  | missing {status : Nat} {body : List UInt8} {answer : Json} (hstatus : IsSuccess status)
      (hbody : Json.read? body = some answer) (hnone : ∀ text, ¬ p.kind.Carries answer text) :
    Fails p (.answered status body true) (.invalidResponse ("missing " ++ p.kind.place))
  | blank {status : Nat} {body : List UInt8} {answer : Json} {text : String} (hstatus : IsSuccess status)
      (hbody : Json.read? body = some answer) (htext : p.kind.Carries answer text)
      (hblank : ∀ c ∈ text.toList, Text.isBlank c = true) : Fails p (.answered status body true) .emptyResponse

variable {p : HttpProvider} {exchange : Exchange} {text : String} {failure : ProviderFailure}

/-! ## The text of an answer -/

lemma content?_of_carries {kind : ProviderKind} {answer : Json} (h : kind.Carries answer text) :
    content? kind answer = .ok text := by
  cases h with
  | openai hchoices hmessage htext =>
    simp [content?, Json.field?, Json.item?, Json.string?, hchoices, hmessage, htext]
  | anthropic hcontent htext => simp [content?, Json.field?, Json.item?, Json.string?, hcontent, htext]

lemma content?_of_not_carries {kind : ProviderKind} (hk : kind ≠ .none) {answer : Json}
    (h : ∀ text, ¬ kind.Carries answer text) :
    content? kind answer = .error (.invalidResponse ("missing " ++ kind.place)) := by
  cases kind with
  | none => exact (hk rfl).elim
  | openai =>
    have hnone : ((((answer.field? "choices").bind (Json.item? 0)).bind (Json.field? "message")).bind
        (Json.field? "content")).bind Json.string? = none := by
      rw [Option.eq_none_iff_forall_ne_some]
      intro text hfound
      simp only [Option.bind_eq_some_iff, Json.field?_eq_some, Json.item?_zero_eq_some, Json.string?_eq_some] at hfound
      obtain ⟨_, ⟨_, ⟨_, ⟨_, ⟨top, rfl, hchoices⟩, choices, rfl⟩, choice, rfl, hmessage⟩, message, rfl, htext⟩, rfl⟩ :=
        hfound
      exact h text (.openai hchoices hmessage htext)
    simp [content?, hnone, ProviderKind.place]
  | anthropic =>
    have hnone : (((answer.field? "content").bind (Json.item? 0)).bind (Json.field? "text")).bind Json.string? =
        none := by
      rw [Option.eq_none_iff_forall_ne_some]
      intro text hfound
      simp only [Option.bind_eq_some_iff, Json.field?_eq_some, Json.item?_zero_eq_some, Json.string?_eq_some] at hfound
      obtain ⟨_, ⟨_, ⟨_, ⟨members, rfl, hcontent⟩, contents, rfl⟩, content, rfl, htext⟩, rfl⟩ := hfound
      exact h text (.anthropic hcontent htext)
    simp [content?, hnone, ProviderKind.place]

/-! ## Classes -/

lemma isAllBlank_eq_false : Text.isAllBlank text = false ↔ ∃ c ∈ text.toList, Text.isBlank c = false := by
  rw [Text.isAllBlank, List.all_eq_false]
  simp

lemma not_isSuccess_iff {status : Nat} : ¬ IsSuccess status ↔ (status < 200 || 300 ≤ status) = true := by
  simp only [IsSuccess, Bool.or_eq_true, decide_eq_true_eq]
  omega

/-- A successful answer that is read is judged by its text. -/
lemma classify_of_read {status : Nat} {body : List UInt8} {answer : Json} (hstatus : IsSuccess status)
    (hbody : Json.read? body = some answer) :
    p.classify (.answered status body true) = (content? p.kind answer).bind fun text =>
      if Text.isAllBlank text then .error .emptyResponse else .ok text := by
  rw [classify, if_neg (mt not_isSuccess_iff.mpr (not_not.mpr hstatus)), if_pos rfl, hbody]

lemma classify_of_unread {status : Nat} {body : List UInt8} {complete : Bool} (hstatus : IsSuccess status)
    (hbody : complete = true → Json.read? body = none) :
    p.classify (.answered status body complete) = .error (.invalidResponse "Failed to parse response") := by
  rw [classify, if_neg (mt not_isSuccess_iff.mpr (not_not.mpr hstatus))]
  cases complete with
  | false => rfl
  | true => rw [if_pos rfl, hbody rfl]

lemma classify_of_replies (h : p.Replies exchange text) : p.classify exchange = .ok text := by
  cases h with
  | text hstatus hbody htext hblank =>
    rw [classify_of_read hstatus hbody, content?_of_carries htext, Except.bind, isAllBlank_eq_false.mpr hblank]
    rfl

lemma classify_of_fails (hk : p.kind ≠ .none) (h : p.Fails exchange failure) :
    p.classify exchange = .error failure := by
  cases h with
  | late arrived => rfl
  | lost arrived => rfl
  | status hstatus body =>
    rw [classify, if_pos (not_isSuccess_iff.mp hstatus)]
    rfl
  | statusCut hstatus body =>
    rw [classify, if_pos (not_isSuccess_iff.mp hstatus)]
    rfl
  | unreadable hstatus hbody => exact classify_of_unread hstatus hbody
  | missing hstatus hbody hnone =>
    rw [classify_of_read hstatus hbody, content?_of_not_carries hk hnone]
    rfl
  | blank hstatus hbody htext hblank =>
    have hall : Text.isAllBlank _ = true := List.all_eq_true.mpr hblank
    rw [classify_of_read hstatus hbody, content?_of_carries htext, Except.bind, if_pos hall]

/-- No exchange is left without a class. -/
lemma replies_or_fails (p : HttpProvider) (exchange : Exchange) :
    (∃ text, p.Replies exchange text) ∨ ∃ failure, p.Fails exchange failure := by
  cases exchange with
  | unanswered arrived late =>
    cases late with
    | false => exact .inr ⟨_, .lost arrived⟩
    | true => exact .inr ⟨_, .late arrived⟩
  | answered status body complete =>
    by_cases hstatus : IsSuccess status
    · cases complete with
      | false => exact .inr ⟨_, .unreadable hstatus fun h => absurd h Bool.false_ne_true⟩
      | true =>
        cases hbody : Json.read? body with
        | none => exact .inr ⟨_, .unreadable hstatus fun _ => hbody⟩
        | some answer =>
          by_cases hcarries : ∃ text, p.kind.Carries answer text
          · obtain ⟨text, htext⟩ := hcarries
            cases hblank : Text.isAllBlank text with
            | false => exact .inl ⟨text, .text hstatus hbody htext (isAllBlank_eq_false.mp hblank)⟩
            | true => exact .inr ⟨_, .blank hstatus hbody htext (List.all_eq_true.mp hblank)⟩
          · exact .inr ⟨_, .missing hstatus hbody (not_exists.mp hcarries)⟩
    · cases complete with
      | false => exact .inr ⟨_, .statusCut hstatus body⟩
      | true => exact .inr ⟨_, .status hstatus body⟩

lemma classify_eq_ok (hk : p.kind ≠ .none) : p.classify exchange = .ok text ↔ p.Replies exchange text := by
  refine ⟨fun h => ?_, classify_of_replies⟩
  obtain ⟨text', hreplies⟩ | ⟨failure, hfails⟩ := p.replies_or_fails exchange
  · obtain rfl := Except.ok.inj (h.symm.trans (classify_of_replies hreplies))
    exact hreplies
  · simp [classify_of_fails hk hfails] at h

lemma classify_eq_error (hk : p.kind ≠ .none) : p.classify exchange = .error failure ↔ p.Fails exchange failure := by
  refine ⟨fun h => ?_, classify_of_fails hk⟩
  obtain ⟨text, hreplies⟩ | ⟨failure', hfails⟩ := p.replies_or_fails exchange
  · simp [classify_of_replies hreplies] at h
  · obtain rfl := Except.error.inj (h.symm.trans (classify_of_fails hk hfails))
    exact hfails

/-! ## Requests -/

lemma request_cases (hk : p.kind ≠ .none) (history : List Turn) (said : String) :
    isHeaderText p.key = true ∧ (∃ r, p.request history said = .ok r) ∨
      isHeaderText p.key = false ∧ p.request history said = .error requestFailed := by
  unfold request
  cases hkind : p.kind with
  | none => exact (hk hkind).elim
  | _ => cases isHeaderText p.key <;> simp

end HttpProvider

namespace Network

/-- What becomes of the next request. -/
def outcome (n : Network) : Exchange :=
  n.exchanges.head?.getD .refused

lemma send_eq (n : Network) (r : HttpRequest) :
    ∃ next, n.send r = (n.outcome, next) ∧ next.sent = n.sent ++ if n.outcome.arrived then [r] else [] := by
  unfold send outcome
  rcases n.exchanges with _ | ⟨e, _ | ⟨e', rest⟩⟩
  · exact ⟨n, rfl, by simp [Exchange.refused, Exchange.arrived]⟩
  · exact ⟨_, rfl, by cases h : e.arrived <;> simp [h]⟩
  · exact ⟨_, rfl, by cases h : e.arrived <;> simp [h]⟩

end Network

namespace HttpProvider

variable {p : HttpProvider}

/-- A request is sent once at most, and once if it can be built and arrives. What becomes of it is a reply or fails in
one way, which `Replies` and `Fails` tell apart. Of a text that comes without success, the first 200 characters are
told. -/
theorem answer_classified (hk : p.kind ≠ .none) (n : Network) (history : List Turn) (said : String) :
    let result := p.complete n history said
    (isHeaderText p.key = false → result = (.error (.http "Request failed"), n)) ∧
    (isHeaderText p.key = true → ∃ r, p.request history said = .ok r ∧
      result.2.sent = n.sent ++ (if n.outcome.arrived then [r] else []) ∧
      (∀ text, result.1 = .ok text ↔ p.Replies n.outcome text) ∧
      (∀ failure, result.1 = .error failure ↔ p.Fails n.outcome failure) ∧
      ∀ status s, n.outcome = .answered status (Text.octets s) true → ¬ IsSuccess status →
        result.1 = .error (.status status (String.ofList (s.toList.take 200)))) := by
  intro result
  obtain ⟨hkey, r, hr⟩ | ⟨hkey, hr⟩ := p.request_cases hk history said
  · obtain ⟨next, hsend, hsent⟩ := n.send_eq r
    have hresult : result = (p.classify n.outcome, next) := by simp only [result, complete, hr, hsend]
    refine ⟨by simp [hkey], fun _ => ⟨r, hr, ?_⟩⟩
    rw [hresult]
    refine ⟨hsent, fun text => classify_eq_ok hk, fun failure => classify_eq_error hk, ?_⟩
    intro status s houtcome hstatus
    have hfails : p.Fails n.outcome (.status status (String.ofList (s.toList.take 200))) := by
      have h := Fails.status (p := p) hstatus (Text.octets s)
      rwa [Text.lossy_octets, ← houtcome] at h
    exact classify_of_fails hk hfails
  · refine ⟨fun _ => ?_, by simp [hkey]⟩
    simp only [result, complete, hr]
    rfl

theorem answer_classified_greeting :
    let p : HttpProvider := ⟨.openai, "https://api.openai.com/v1/chat/completions", "sk-test", "gpt-4", 1024, 30⟩
    let body := "\x7b\"choices\": [\x7b\"message\": \x7b\"content\": \" Hello.\"\x7d\x7d]\x7d"
    let greeting : Network := ⟨[.answered 200 (Text.octets body) true], [], 20⟩
    let busy : Network := ⟨[.answered 503 (Text.octets "überlastet") true], [], 20⟩
    (∃ r, (p.complete greeting [] "hi").2.sent = [r]) ∧ (p.complete greeting [] "hi").1 = .ok " Hello." ∧
      (p.complete busy [] "hi").1 = .error (.status 503 "überlastet") := by
  intro p body greeting busy
  have hkey : isHeaderText p.key = true := by decide
  obtain ⟨-, hgreeting⟩ := answer_classified (p := p) (by decide) greeting [] "hi"
  obtain ⟨r, -, hsent, hok, -⟩ := hgreeting hkey
  obtain ⟨-, hbusy⟩ := answer_classified (p := p) (by decide) busy [] "hi"
  obtain ⟨r', -, -, -, -, hstatus⟩ := hbusy hkey
  have hsuccess : IsSuccess 200 := ⟨by decide, by decide⟩
  refine ⟨⟨r, hsent⟩, (hok _).mpr (.text hsuccess rfl (.openai rfl rfl rfl) ⟨'H', by decide, by decide⟩), ?_⟩
  exact hstatus 503 "überlastet" rfl fun h => absurd h.2 (by decide)

end HttpProvider

end DeviceAgent
