import DeviceAgent.Proofs.ConnectionFold
import DeviceAgent.Proofs.TruthfulResults
import DeviceAgent.Proofs.WireRoundTrip

/-!
# What an error means

The agent answers with an error in two cases. A request for an action that is no intent is refused, and nothing has
happened. A response that does not fit a frame is replaced, and then the request has had whatever effect it has.
-/

namespace DeviceAgent

variable {σ π : Type}

/-! ## The verdict of a response in its octets -/

namespace Response

/-- The octets with which a response of a verdict starts. -/
def opening (v : Verdict) : List UInt8 :=
  0x7B :: Json.printString "status" ++ 0x3A :: Json.printString v.name

lemma exists_encode (r : Response) : ∃ rest, r.encode = opening r.verdict ++ rest := by
  have hprint : ∀ v members, ∃ rest,
      (Json.object (verdictMember v :: members)).print = opening v ++ rest := by
    intro v members
    cases members with
    | nil => exact ⟨[0x7D], by simp [Json.print, Json.printMembers, verdictMember, opening]⟩
    | cons member members =>
      exact ⟨0x2C :: Json.printMembers (member :: members) ++ [0x7D],
        by simp [Json.print, Json.printMembers, verdictMember, opening]⟩
  cases r <;> exact hprint _ _

/-- The octets of a response tell its verdict. -/
lemma verdict_eq_of_encode {r r' : Response} (h : r.encode = r'.encode) : r.verdict = r'.verdict := by
  have hopening : ∀ v rest, (opening v ++ rest)[11]? = some (if v = .ok then 0x6F else 0x65) := by
    intro v rest
    cases v <;> rfl
  obtain ⟨rest, hr⟩ := r.exists_encode
  obtain ⟨rest', hr'⟩ := r'.exists_encode
  have hoctet := congrArg (·[11]?) h
  simp only [hr, hr', hopening] at hoctet
  cases hv : r.verdict <;> cases hv' : r'.verdict <;> simp [hv, hv'] at hoctet ⊢

end Response

/-! ## Requests that fail -/

namespace Agent

/-- A stage that comes to no error. -/
def IsFair : Stage → Prop
  | .arrived _ => False
  | .finished response => response.verdict = .ok
  | _ => True

lemma verdict_conclude (response : Option String) (outcome : Outcome) : (conclude response outcome).verdict = .ok := by
  cases response <;> rfl

lemma isFair_advance (agent : Agent σ π) {stage : Stage} (h : IsFair stage) (s : Agent.State σ π) :
    IsFair (agent.advance s stage).1 := by
  cases stage with
  | arrived request => exact h.elim
  | consulting said history =>
    simp only [advance, consult]
    cases agent.provider <;> trivial
  | awaiting said completion wait => cases completion <;> trivial
  | interpreting said => trivial
  | replied said reply remote =>
    simp only [advance, log]
    split
    · rfl
    · split
      · exact verdict_conclude _ _
      · trivial
  | acting response intent => exact verdict_conclude _ _
  | reporting system => rfl
  | finished response => exact h

lemma verdict_complete (agent : Agent σ π) {stage : Stage} (h : IsFair stage) (s : Agent.State σ π) :
    (agent.complete stage s).1.verdict = .ok :=
  agent.complete_induction (P := fun stage _ => IsFair stage) (fun _ s h => agent.isFair_advance h s) h

/-- A request comes to an error when it is for an action that is no intent, and then it leaves everything as it is. -/
theorem handle_of_error {agent : Agent σ π} {request : Request} {s : Agent.State σ π}
    (h : (agent.handle request s).1.verdict = .error) :
    (∃ value, request = .action value ∧ Intent.ofJson? value = none) ∧
      agent.handle request s = (invalidAction, s) := by
  have hfair : ¬ IsFair (agent.start s request).1 := by
    intro hf
    rw [handle, complete_eq_complete_advance] at h
    rw [show agent.advance s (.arrived request) = agent.start s request from rfl, agent.verdict_complete hf] at h
    exact Verdict.noConfusion h
  cases request with
  | action value =>
    cases hi : Intent.ofJson? value with
    | none =>
      refine ⟨⟨value, rfl, hi⟩, ?_⟩
      rw [handle, complete_eq_complete_advance]
      simp [advance, start, hi]
    | some intent => simp [start, hi, IsFair] at hfair
  | chat said =>
    simp only [start] at hfair
    split at hfair <;> exact (hfair trivial).elim
  | status => exact (hfair trivial).elim
  | clear => exact (hfair rfl).elim

lemma handle_status (agent : Agent σ π) (s : Agent.State σ π) :
    (agent.handle .status s).2 = { s with devices := (agent.backend.perform .systemInfo s.devices).2 } := rfl

lemma handle_clear (agent : Agent σ π) (s : Agent.State σ π) : (agent.handle .clear s).1 = .ack .ok := rfl

end Agent

/-! ## Connections that wait for a request -/

namespace Daemon

/-- A connection between two requests: all that came is read, and all that was answered is fetched. -/
structure Idle (d : Daemon σ π) (i : Nat) (c : Connection) : Prop extends d.Serves i c where
  phase : c.phase = .checking ∨ c.phase = .waiting ∨ c.phase = .polling
  incoming : c.incoming = []
  ended : c.ended = false
  outgoing : c.outgoing = []

lemma idle_opened {d : Daemon σ π} {i : Nat} (hi : d.connections[i]? = some .opened) (hs : d.signal ≠ .raised) :
    d.Idle i .opened :=
  ⟨⟨hi, hs, rfl⟩, .inl rfl, rfl, rfl, rfl⟩

/-- A request on an idle connection is handled, and its response is what the client gets. -/
lemma Idle.serve {agent : Agent σ π} (hl : 1024 ≤ agent.policy.messageLimit)
    (hu : agent.policy.messageLimit < 4294967296) {d : Daemon σ π} {i : Nat} {c : Connection} (hd : d.Idle i c)
    {events : List DaemonEvent} (hcalm : ∀ event ∈ events, event.IsCalm i) {payload : List UInt8} {request : Request}
    (hsent : DaemonEvent.sent i events = Frame.wrap payload) (hp : payload.length ≤ agent.policy.messageLimit)
    (hr : Request.decode? payload = some request) {last : Connection}
    (hlast : (d.run agent events).connections[i]? = some last) (hrests : last.Rests agent.policy.messageLimit) :
    d.delivered agent i events =
        Frame.wrap ((agent.handle request d.state).1.fitted agent.policy.messageLimit).encode ∧
      (d.run agent events).state = (agent.handle request d.state).2 := by
  obtain ⟨now, hnow, -, houtlook, hdelivered⟩ := outlook_run hl hcalm hd.toServes
  obtain rfl : now = last := Option.some.inj (hnow.here.symm.trans hlast)
  have hread : Frame.read agent.policy.messageLimit (Frame.wrap payload) = ⟨.ok (some payload), []⟩ := by
    simpa using Frame.read_wrap hp hu []
  have hnone : Frame.requests agent.policy.messageLimit [] = [] :=
    Frame.requests_of_undecoded fun payload h => by simp [Frame.read] at h
  have hrequests : Frame.requests agent.policy.messageLimit (Frame.wrap payload) = [request] := by
    rw [Frame.requests_of_read hread, hr, hnone]
  have hahead : outlook agent i events c d.state = agent.outlook [request] d.state .waiting := by
    rw [outlook, hd.incoming, hd.ended, hsent]
    simp only [Bool.false_eq_true, if_false, List.nil_append, hrequests]
    obtain hphase | hphase | hphase := hd.phase
    · rw [hphase]
      rfl
    · rw [hphase]
    · rw [hphase]
      rfl
  rw [hahead, outlook_rests hu hrests] at houtlook
  simp only [Agent.outlook, Agent.handleAll, Outlook.behind, List.append_nil, Outlook.mk.injEq] at houtlook
  obtain ⟨-, hresponse, hstate⟩ := houtlook
  refine ⟨?_, hstate.symm⟩
  rw [← hdelivered, ← hresponse, hd.outgoing]
  simp [Response.written_of_le hl]

/-- An error that the client gets in answer to a request says one of two things. Either the request is for an action
that is no intent, and everything is as it was before. Or the response is too large for a frame, and everything is as
the request leaves it; that happens to no request that clears the conversation, and one for the status has only looked
at the devices. -/
theorem error_frame {agent : Agent σ π} (hl : 1024 ≤ agent.policy.messageLimit)
    (hu : agent.policy.messageLimit ≤ 16 * 1024 * 1024) {d : Daemon σ π} {i : Nat} {c : Connection} (hd : d.Idle i c)
    {events : List DaemonEvent} (hcalm : ∀ event ∈ events, event.IsCalm i) {payload : List UInt8} {request : Request}
    (hsent : DaemonEvent.sent i events = Frame.wrap payload) (hp : payload.length ≤ agent.policy.messageLimit)
    (hr : Request.decode? payload = some request) {last : Connection}
    (hlast : (d.run agent events).connections[i]? = some last) (hrests : last.Rests agent.policy.messageLimit) :
    ∃ answer, d.delivered agent i events = Frame.wrap answer ∧
      ∀ response : Response, response.verdict = .error → answer = response.encode →
        (answer = Agent.invalidAction.encode ∧ (∃ value, request = .action value ∧ Intent.ofJson? value = none) ∧
          (d.run agent events).state = d.state) ∨
        (answer = Response.oversize.encode ∧
          agent.policy.messageLimit < (agent.handle request d.state).1.encode.length ∧ request ≠ .clear ∧
          (d.run agent events).state = (agent.handle request d.state).2 ∧
          (request = .status → (d.run agent events).state =
            { d.state with devices := (agent.backend.perform .systemInfo d.state.devices).2 })) := by
  obtain ⟨hdelivered, hstate⟩ := hd.serve hl (by omega) hcalm hsent hp hr hlast hrests
  refine ⟨_, hdelivered, fun response hv hanswer => ?_⟩
  by_cases hfits : agent.policy.messageLimit < (agent.handle request d.state).1.encode.length
  · refine .inr ⟨by rw [Response.fitted, if_pos hfits], hfits, ?_, hstate, ?_⟩
    · rintro rfl
      have hack : (Response.ack .ok).encode.length ≤ 1024 := by decide
      rw [agent.handle_clear] at hfits
      omega
    · rintro rfl
      rw [hstate, agent.handle_status]
  · rw [Response.fitted, if_neg hfits] at hanswer ⊢
    obtain ⟨hrequest, hhandle⟩ := Agent.handle_of_error ((Response.verdict_eq_of_encode hanswer).trans hv)
    exact .inl ⟨by rw [hhandle], hrequest, by rw [hstate, hhandle]⟩

/-- The events of one request to the first connection, which is served until it waits again. -/
def exchange (r : Request) : List DaemonEvent :=
  .receive 0 (Frame.wrap r.encode) :: List.replicate 10 (.advance 0)

/-- An action that is not even an object. -/
theorem error_frame_refusal :
    (home.run homeAgent (exchange (.action .null))).state = home.state ∧
      home.delivered homeAgent 0 (exchange (.action .null)) = Frame.wrap Agent.invalidAction.encode := by
  have hl : 1024 ≤ homeAgent.policy.messageLimit := by decide
  have hu : homeAgent.policy.messageLimit ≤ 16 * 1024 * 1024 := by decide
  have hidle : home.Idle 0 .opened := idle_opened rfl (by decide)
  have hcalm : ∀ event ∈ exchange (.action .null), event.IsCalm 0 := by
    intro event he
    obtain rfl | he := List.mem_cons.mp he
    · trivial
    · rw [List.eq_of_mem_replicate he]
      rfl
  have hsent : DaemonEvent.sent 0 (exchange (.action .null)) = Frame.wrap (Request.action .null).encode := by
    decide +kernel
  have hp : (Request.action .null).encode.length ≤ homeAgent.policy.messageLimit := by decide +kernel
  have hr : Request.decode? (Request.action .null).encode = some (.action .null) :=
    Request.decode?_encode ⟨trivial, trivial, Nat.zero_le _⟩
  have hend : ((home.run homeAgent (exchange (.action .null))).connections[0]?.map fun last =>
      (last.isReady homeAgent.policy.messageLimit false, last.wait)) = some (false, 0) := by
    decide +kernel
  obtain ⟨last, hlast, hrests⟩ := Option.map_eq_some_iff.mp hend
  have hdelivered : home.delivered homeAgent 0 (exchange (.action .null)) =
      Frame.wrap Agent.invalidAction.encode := by
    decide +kernel
  obtain ⟨answer, hanswer, h⟩ := error_frame hl hu hidle hcalm hsent hp hr hlast (Prod.mk.inj hrests)
  obtain rfl : answer = Agent.invalidAction.encode := Frame.wrap_inj (hanswer.symm.trans hdelivered)
  obtain ⟨-, -, hstate⟩ | ⟨hoversize, -⟩ := h Agent.invalidAction rfl rfl
  · exact ⟨hstate, hdelivered⟩
  · exact absurd hoversize (by decide +kernel)

/-- A reply that turns to the brightness and has more to say. -/
def longReply : String :=
  "\x7b\"action\":\"brightness\",\"level\":30\x7d " ++ String.ofList (List.replicate 1000 'x')

/-- An agent with the smallest frames there may be. -/
def tightAgent : Agent VirtualMachine Script :=
  ⟨VirtualMachine.backend, some Script.provider, ⟨true, 1024, 30000, 5, "none"⟩⟩

def chatty : Daemon VirtualMachine Script where
  state := ⟨.empty 20, .initial, ⟨[.ok longReply], 0, []⟩, [], home.state.clock, true⟩
  connections := [.opened]
  listener := .accepting
  signal := .pending
  socket := true

/-- A chat that is answered with an error, after it was logged and the brightness was set. -/
theorem effect_before_error :
    let last := chatty.run tightAgent (exchange (.chat "dim"))
    chatty.Idle 0 .opened ∧ chatty.delivered tightAgent 0 (exchange (.chat "dim")) =
        Frame.wrap (Response.failure "Response exceeds maximum message size").encode ∧
      chatty.state.conversation.turns.length = 0 ∧ last.state.conversation.turns.length = 2 ∧
      chatty.state.devices.settings.brightness = 50 ∧ last.state.devices.settings.brightness = 30 := by
  intro last
  exact ⟨idle_opened rfl (by decide), by decide +kernel, rfl, by decide +kernel, by decide +kernel, by decide +kernel⟩

end Daemon

end DeviceAgent
