import DeviceAgent.Message.Request
import DeviceAgent.Message.Response
import DeviceAgent.Proofs.JsonText

/-!
# Messages read back from the wire

A request and a response are what the other side reads from their encoding. A response carries no tag, so no kind
may fit what an earlier one reads; a request may carry any value, which is the value that is read, and the intent in
it is the one that was sent but for the blanks around its name.
-/

namespace DeviceAgent

/-- A value as programs hold it, with members in order and legible numbers, that nests at most `depth`
containers. -/
structure Json.Fits (depth : Nat) (v : Json) : Prop where
  canonical : v.Canonical
  legible : v.Legible
  depth_le : v.depth ≤ depth

namespace Tree

lemma value?_of_fits {depth : Nat} {v : Json} (h : v.Fits depth) : (ofJson v).value? depth = some v := by
  obtain ⟨w, hw, heq⟩ := value?_ofJson v depth h.depth_le
  rw [hw, heq h.canonical]

/-- What is read from the text of a value is what is read from its tree. -/
lemma read?_print_bind {v : Json} (hv : v.Legible) (hdepth : v.depth ≤ depthLimit) (read : Tree → Option α) :
    ((read? depthLimit v.print).bind fun t => (t.value? depthLimit).bind fun _ => read t) = read (ofJson v) := by
  obtain ⟨w, hw, -⟩ := value?_ofJson v depthLimit hdepth
  rw [read?_print hv hdepth, Option.bind_some, hw, Option.bind_some]

lemma natUpTo?_ofNat {n bound : Nat} (h : n ≤ bound) : natUpTo? bound (ofJson (.ofNat n)) = some n := by
  have hn : (n : Int) ≤ bound := by omega
  simp [Json.ofNat, ofJson, natUpTo?, hn]

/-- A value other than null is present where it may be missing. -/
lemma option?_ofJson {v : Json} (h : v ≠ .null) (read : Tree → Option α) :
    option? read (ofJson v) = (read (ofJson v)).map some := by
  cases v with
  | null => exact (h rfl).elim
  | _ => rfl

end Tree

namespace Json

lemma legible_ofNat {n : Nat} (h : n ≤ maxWord64) : (Json.ofNat n).Legible := by
  have hn : n ≤ 18446744073709551615 := h
  rw [ofNat, Legible]
  exact isLegible_int (by omega) (by omega)

end Json

/-! ## Requests -/

namespace Request

/-- The value of an action fits below a request. -/
def Fits : Request → Prop
  | .action value => value.Fits (Tree.depthLimit - 1)
  | _ => True

lemma legible_toJson {r : Request} (h : r.Fits) : r.toJson.Legible := by
  cases r with
  | action value => simpa [toJson, Json.Legible, Json.LegibleMembers] using Json.Fits.legible h
  | _ => simp [toJson, Json.Legible, Json.LegibleMembers]

lemma depth_toJson {r : Request} (h : r.Fits) : r.toJson.depth ≤ Tree.depthLimit := by
  cases r with
  | action value =>
    have hvalue : value.depth ≤ Tree.depthLimit - 1 := Json.Fits.depth_le h
    simp only [toJson, Json.depth, Json.depthMembers, Tree.depthLimit] at hvalue ⊢
    omega
  | _ => simp [toJson, Json.depth, Json.depthMembers, Tree.depthLimit]

lemma split?_toJson (r : Request) :
    ∃ fields, split? (Tree.ofJson r.toJson) = some (r.name, .object fields) ∧
      fields = match r with
        | .chat text => [(some "text", .string (some text))]
        | .action value => [(some "action", Tree.ofJson value)]
        | _ => [] := by
  cases r <;> simp [toJson, name, Tree.ofJson, Tree.ofMembers, split?, Tree.named, Tree.string?]

/-- A request is read back from its encoding. -/
lemma decode?_encode {r : Request} (h : r.Fits) : decode? r.encode = some r := by
  obtain ⟨fields, hsplit, hfields⟩ := split?_toJson r
  have hread := Tree.read?_print_bind (legible_toJson h) (depth_toJson h) fun t =>
    (split? t).bind fun p => ofRest? p.1 p.2
  rw [hsplit, Option.bind_some] at hread
  refine Eq.trans hread ?_
  cases r with
  | chat text => simp [hfields, name, ofRest?, Tree.slots?, Tree.named, Tree.Slot.required, Tree.string?]
  | action value =>
    have hvalue : (Tree.ofJson value).value? (Tree.depthLimit - 1) = some value := Tree.value?_of_fits h
    simp [hfields, name, ofRest?, Tree.slots?, Tree.named, Tree.Slot.required, Tree.json?, hvalue]
  | status => simp [hfields, name, ofRest?, Tree.slots?]
  | clear => simp [hfields, name, ofRest?, Tree.slots?]

end Request

/-! ## Outcomes -/

namespace Outcome

/-- The data of an outcome, if any, is not null and fits below an outcome in a response. -/
def Fits (o : Outcome) : Prop :=
  ∀ d ∈ o.data, d ≠ .null ∧ d.Fits (Tree.depthLimit - 2)

lemma legible_toJson {o : Outcome} (h : o.Fits) : o.toJson.Legible := by
  rcases o with ⟨success, message, _ | d⟩
  · simp [toJson, Json.Legible, Json.LegibleMembers]
  · simpa [toJson, Json.Legible, Json.LegibleMembers] using (h d rfl).2.legible

lemma depth_toJson {o : Outcome} (h : o.Fits) : o.toJson.depth ≤ Tree.depthLimit - 1 := by
  rcases o with ⟨success, message, _ | d⟩
  · simp [toJson, Json.depth, Json.depthMembers, Tree.depthLimit]
  · have hd : d.depth ≤ Tree.depthLimit - 2 := (h d rfl).2.depth_le
    simp [toJson, Json.depth, Json.depthMembers, Tree.depthLimit] at hd ⊢
    omega

lemma ofTree?_toJson {o : Outcome} (h : o.Fits) :
    ofTree? (Tree.depthLimit - 1) (Tree.ofJson o.toJson) = some o := by
  rcases o with ⟨success, message, _ | d⟩
  · simp [toJson, Tree.ofJson, Tree.ofMembers, ofTree?, Tree.slots?, Tree.named, Tree.Slot.required,
      Tree.Slot.orElse, Tree.bool?, Tree.string?]
  · obtain ⟨hnull, hfits⟩ := h d rfl
    have hd : Tree.json? (Tree.depthLimit - 1 - 1) (Tree.ofJson d) = some d := Tree.value?_of_fits hfits
    simp [toJson, Tree.ofJson, Tree.ofMembers, ofTree?, Tree.slots?, Tree.named, Tree.Slot.required,
      Tree.Slot.orElse, Tree.bool?, Tree.string?, Tree.option?_ofJson hnull, hd]

end Outcome

/-! ## Reports -/

lemma Verdict.ofTree?_name (v : Verdict) : Verdict.ofTree? (.string (some v.name)) = some v := by
  cases v <;> rfl

namespace Snapshot

/-- The numbers of a snapshot fit a word. -/
def Fits (s : Snapshot) : Prop :=
  s.memoryMb ≤ maxWord64 ∧ s.memoryFreeMb ≤ maxWord64 ∧ s.uptimeHours ≤ maxWord64

lemma legible_toJson {s : Snapshot} (h : s.Fits) : s.toJson.Legible := by
  simp [toJson, members, Json.Legible, Json.LegibleMembers, Json.legible_ofNat h.1, Json.legible_ofNat h.2.1,
    Json.legible_ofNat h.2.2]

lemma ofTree?_toJson {s : Snapshot} (h : s.Fits) : ofTree? (Tree.ofJson s.toJson) = some s := by
  simp [toJson, members, Tree.ofJson, Tree.ofMembers, ofTree?, Tree.slots?, Tree.named, Tree.Slot.required,
    Tree.string?, Tree.natUpTo?_ofNat h.1, Tree.natUpTo?_ofNat h.2.1, Tree.natUpTo?_ofNat h.2.2]

end Snapshot

/-- The numbers of a status report fit a word. -/
def StatusReport.Fits (report : StatusReport) : Prop :=
  report.historyLen ≤ maxWord64 ∧ report.uptimeSecs ≤ maxWord64 ∧ ∀ s ∈ report.system, s.Fits

/-! ## Responses -/

namespace Response

/-- The fields of a response fit the wire. -/
def Fits : Response → Prop
  | .chat _ _ outcome => ∀ o ∈ outcome, o.Fits
  | .action _ outcome => outcome.Fits
  | .status report => report.Fits
  | _ => True

lemma legible_system {system : Option Snapshot} (h : ∀ s ∈ system, s.Fits) :
    (Json.ofOption Snapshot.toJson system).Legible := by
  cases system with
  | none => simp [Json.ofOption, Json.Legible]
  | some s => exact Snapshot.legible_toJson (h s rfl)

lemma legible_toJson {r : Response} (h : r.Fits) : r.toJson.Legible := by
  match r with
  | .chat v response none => simp [toJson, verdictMember, Json.Legible, Json.LegibleMembers]
  | .chat v response (some o) =>
    simpa [toJson, verdictMember, Json.Legible, Json.LegibleMembers] using Outcome.legible_toJson (h o rfl)
  | .action v o => simpa [toJson, verdictMember, Json.Legible, Json.LegibleMembers] using Outcome.legible_toJson h
  | .status report =>
    obtain ⟨hhistory, huptime, hsystem⟩ := h
    simp [toJson, reportJson, verdictMember, Json.Legible, Json.LegibleMembers, Json.legible_ofNat hhistory,
      Json.legible_ofNat huptime, legible_system hsystem]
  | .error v message => simp [toJson, verdictMember, Json.Legible, Json.LegibleMembers]
  | .ack v => simp [toJson, verdictMember, Json.Legible, Json.LegibleMembers]

lemma depth_toJson {r : Response} (h : r.Fits) : r.toJson.depth ≤ Tree.depthLimit := by
  match r with
  | .chat v response none => simp [toJson, verdictMember, Json.depth, Json.depthMembers, Tree.depthLimit]
  | .chat v response (some o) =>
    have ho := Outcome.depth_toJson (h o rfl)
    simp [toJson, verdictMember, Json.depth, Json.depthMembers, Tree.depthLimit] at ho ⊢
    omega
  | .action v o =>
    have ho := Outcome.depth_toJson h
    simp [toJson, verdictMember, Json.depth, Json.depthMembers, Tree.depthLimit] at ho ⊢
    omega
  | .status report =>
    cases hs : report.system <;>
      simp [toJson, reportJson, verdictMember, Json.ofNat, Json.ofOption, hs, Snapshot.toJson, Snapshot.members,
        Json.depth, Json.depthMembers, Tree.depthLimit]
  | .error v message => simp [toJson, verdictMember, Json.depth, Json.depthMembers, Tree.depthLimit]
  | .ack v => simp [toJson, verdictMember, Json.depth, Json.depthMembers, Tree.depthLimit]

lemma chat?_toJson (v : Verdict) (response : String) {outcome : Option Outcome} (h : ∀ o ∈ outcome, o.Fits) :
    chat? (Tree.ofJson (chat v response outcome).toJson) = some (.chat v response outcome) := by
  cases outcome with
  | none =>
    simp [toJson, verdictMember, Tree.ofJson, Tree.ofMembers, chat?, Tree.slots?, Tree.named, Tree.Slot.required,
      Tree.Slot.orElse, Tree.string?, Verdict.ofTree?_name]
  | some o =>
    have ho : outcome? (Tree.ofJson o.toJson) = some o := Outcome.ofTree?_toJson (h o rfl)
    have hnull : o.toJson ≠ .null := by simp [Outcome.toJson]
    simp [toJson, verdictMember, Tree.ofJson, Tree.ofMembers, chat?, Tree.slots?, Tree.named, Tree.Slot.required,
      Tree.Slot.orElse, Tree.string?, Verdict.ofTree?_name, Tree.option?_ofJson hnull, ho]

lemma action?_toJson (v : Verdict) {outcome : Outcome} (h : outcome.Fits) :
    action? (Tree.ofJson (action v outcome).toJson) = some (.action v outcome) := by
  have ho : outcome? (Tree.ofJson outcome.toJson) = some outcome := Outcome.ofTree?_toJson h
  simp [toJson, verdictMember, Tree.ofJson, Tree.ofMembers, action?, Tree.slots?, Tree.named, Tree.Slot.required,
    Verdict.ofTree?_name, ho]

lemma system_toJson {system : Option Snapshot} (h : ∀ s ∈ system, s.Fits) :
    (Tree.Slot.given (Tree.ofJson (.ofOption Snapshot.toJson system))).nullable Snapshot.ofTree? = some system := by
  cases system with
  | none => rfl
  | some s => exact congrArg (Option.map some) (Snapshot.ofTree?_toJson (h s rfl))

lemma status?_toJson {report : StatusReport} (h : report.Fits) :
    status? (Tree.ofJson (status report).toJson) = some (.status report) := by
  obtain ⟨hhistory, huptime, hsystem⟩ := h
  simp [toJson, reportJson, verdictMember, Tree.ofJson, Tree.ofMembers, status?, Tree.slots?, Tree.named,
    Tree.Slot.required, Tree.bool?, Tree.string?, Verdict.ofTree?_name, Tree.natUpTo?_ofNat hhistory,
    Tree.natUpTo?_ofNat huptime, system_toJson hsystem]

lemma error?_toJson (v : Verdict) (message : String) :
    error? (Tree.ofJson (error v message).toJson) = some (.error v message) := by
  simp [toJson, verdictMember, Tree.ofJson, Tree.ofMembers, error?, Tree.slots?, Tree.named, Tree.Slot.required,
    Tree.string?, Verdict.ofTree?_name]

lemma ack?_toJson (v : Verdict) : ack? (Tree.ofJson (ack v).toJson) = some (.ack v) := by
  simp [toJson, verdictMember, Tree.ofJson, Tree.ofMembers, ack?, Tree.slots?, Tree.named, Tree.Slot.required,
    Verdict.ofTree?_name]

/-! Every kind but the acknowledgement has a field that no other kind has, so only its own responses fit it. -/

lemma chat?_toJson_eq_none {r : Response} (h : r.kind ≠ "Chat") : chat? (Tree.ofJson r.toJson) = none := by
  cases r with
  | chat v response outcome => exact (h rfl).elim
  | _ => simp [toJson, reportJson, verdictMember, Tree.ofJson, Tree.ofMembers, chat?, Tree.slots?, Tree.named,
      Tree.Slot.required]

lemma action?_toJson_eq_none {r : Response} (h : r.kind ≠ "Action") : action? (Tree.ofJson r.toJson) = none := by
  cases r with
  | action v outcome => exact (h rfl).elim
  | chat v response outcome =>
    cases outcome <;> simp [toJson, verdictMember, Tree.ofJson, Tree.ofMembers, action?, Tree.slots?, Tree.named,
      Tree.Slot.required]
  | _ => simp [toJson, reportJson, verdictMember, Tree.ofJson, Tree.ofMembers, action?, Tree.slots?, Tree.named,
      Tree.Slot.required]

lemma status?_toJson_eq_none {r : Response} (h : r.kind ≠ "Status") : status? (Tree.ofJson r.toJson) = none := by
  cases r with
  | status report => exact (h rfl).elim
  | chat v response outcome =>
    cases outcome <;> simp [toJson, verdictMember, Tree.ofJson, Tree.ofMembers, status?, Tree.slots?, Tree.named,
      Tree.Slot.required]
  | _ => simp [toJson, verdictMember, Tree.ofJson, Tree.ofMembers, status?, Tree.slots?, Tree.named,
      Tree.Slot.required]

lemma error?_toJson_eq_none {r : Response} (h : r.kind ≠ "Error") : error? (Tree.ofJson r.toJson) = none := by
  cases r with
  | error v message => exact (h rfl).elim
  | chat v response outcome =>
    cases outcome <;> simp [toJson, verdictMember, Tree.ofJson, Tree.ofMembers, error?, Tree.slots?, Tree.named,
      Tree.Slot.required]
  | _ => simp [toJson, reportJson, verdictMember, Tree.ofJson, Tree.ofMembers, error?, Tree.slots?, Tree.named,
      Tree.Slot.required]

/-- A response is read back from its encoding, as the kind it is. -/
lemma decode?_encode {r : Response} (h : r.Fits) : decode? r.encode = some r := by
  have hread := Tree.read?_print_bind (legible_toJson h) (depth_toJson h) fun t =>
    [chat?, action?, status?, error?, ack?].findSome? fun read => read t
  refine Eq.trans hread ?_
  simp only [List.findSome?_cons]
  cases r with
  | chat v response outcome => rw [chat?_toJson v response h]
  | action v outcome =>
    rw [chat?_toJson_eq_none (by simp [kind]), action?_toJson v h]
  | status report =>
    rw [chat?_toJson_eq_none (by simp [kind]), action?_toJson_eq_none (by simp [kind]), status?_toJson h]
  | error v message =>
    rw [chat?_toJson_eq_none (by simp [kind]), action?_toJson_eq_none (by simp [kind]),
      status?_toJson_eq_none (by simp [kind]), error?_toJson]
  | ack v =>
    rw [chat?_toJson_eq_none (by simp [kind]), action?_toJson_eq_none (by simp [kind]),
      status?_toJson_eq_none (by simp [kind]), error?_toJson_eq_none (by simp [kind]), ack?_toJson]

end Response

/-! ## Intents -/

/-- An intent whose parameters fit below it is an action that fits below a request. -/
lemma Intent.fits_toJson {intent : Intent} (h : (Json.object intent.params).Fits (Tree.depthLimit - 2)) :
    intent.toJson.Fits (Tree.depthLimit - 1) where
  canonical := by
    have hkeys : "name" < "params" := by decide
    exact ⟨List.pairwise_pair.mpr hkeys, trivial, h.canonical, trivial⟩
  legible := by
    have hparams := h.legible
    simpa [toJson, Json.Legible, Json.LegibleMembers] using hparams
  depth_le := by
    have hparams := h.depth_le
    simp only [toJson, Json.depth, Json.depthMembers, Tree.depthLimit] at hparams ⊢
    omega

lemma Intent.ofJson?_toJson (intent : Intent) :
    ofJson? intent.toJson = some ⟨Text.trimmed intent.name, intent.params⟩ := by
  rfl

/-- Requests and responses that fit the wire are read back from their encodings, each response as the kind it is; and
the action that is read from the request for an intent holds that intent, its name without the blanks around it. -/
theorem messages_read_back :
    (∀ r : Request, r.Fits → Request.decode? r.encode = some r) ∧
      (∀ r : Response, r.Fits → Response.decode? r.encode = some r) ∧
      ∀ intent : Intent, (Json.object intent.params).Fits 125 →
        ∃ value, Request.decode? (Request.ofIntent intent).encode = some (.action value) ∧
          Intent.ofJson? value = some ⟨Text.trimmed intent.name, intent.params⟩ := by
  refine ⟨fun r => Request.decode?_encode, fun r => Response.decode?_encode, fun intent h => ?_⟩
  have hfits : (Request.ofIntent intent).Fits := Intent.fits_toJson h
  exact ⟨intent.toJson, Request.decode?_encode hfits, intent.ofJson?_toJson⟩

/-- A fraction, a quote in a text and blanks around a name. -/
theorem messages_read_back_level :
    let level : List (String × Json) := [("level", .number (.float ⟨false, 4503599627370496, -53⟩))]
    let chat : Response := .chat .ok "say \"hi\"" (some ⟨true, "Volume set", some (.object level)⟩)
    Request.decode? (Request.action (.object level)).encode = some (.action (.object level)) ∧
      Response.decode? chat.encode = some chat ∧
      ∃ value, Request.decode? (Request.ofIntent ⟨" volume\n", level⟩).encode = some (.action value) ∧
        Intent.ofJson? value = some ⟨"volume", level⟩ := by
  intro level chat
  have hfits {depth : Nat} (hd : 1 ≤ depth) : (Json.object level).Fits depth :=
    ⟨by simp [level, Json.Canonical, Json.CanonicalMembers],
      by simpa [level, Json.Legible, Json.LegibleMembers] using Json.isLegible_half,
      by simpa [level, Json.depth, Json.depthMembers] using hd⟩
  have hchat : chat.Fits := by
    rintro o ⟨⟩ d ⟨⟩
    exact ⟨by simp, hfits (by decide)⟩
  have htrimmed : Text.trimmed " volume\n" = "volume" := by decide +kernel
  obtain ⟨hrequests, hresponses, hintents⟩ := messages_read_back
  have hintent := hintents ⟨" volume\n", level⟩ (hfits (by decide))
  rw [htrimmed] at hintent
  exact ⟨hrequests (.action (.object level)) (hfits (by decide)), hresponses chat hchat, hintent⟩

end DeviceAgent
