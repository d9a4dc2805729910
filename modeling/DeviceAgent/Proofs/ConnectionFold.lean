import DeviceAgent.Device.Virtual
import DeviceAgent.Proofs.Events
import DeviceAgent.Proofs.Framing

/-!
# A connection is a fold

Serving one connection, however its octets arrive and however long each stage takes, comes to handling the
requests of its stream one after another, each response in a frame of its own.
-/

namespace DeviceAgent

variable {σ π : Type}

/-! ## The requests of a stream -/

namespace Frame

/-- The requests in the frames of a stream, up to the first that is none. -/
def requests (limit : Nat) (stream : List UInt8) : List Request :=
  match _hread : read limit stream with
  | ⟨.ok (some payload), rest⟩ =>
    match Request.decode? payload with
    | some request => request :: requests limit rest
    | none => []
  | _ => []
termination_by stream.length
decreasing_by
  rw [(eq_wrap_of_read _hread).1, List.length_append, length_wrap, headerLength]
  omega

lemma requests_of_read {limit : Nat} {stream payload rest : List UInt8}
    (h : read limit stream = ⟨.ok (some payload), rest⟩) :
    requests limit stream =
      match Request.decode? payload with
      | some request => request :: requests limit rest
      | none => [] := by
  rw [requests]
  split
  · rename_i h'
    rw [h'] at h
    simp only [Reading.mk.injEq, Except.ok.injEq, Option.some.injEq] at h
    obtain ⟨rfl, rfl⟩ := h
    rfl
  · rename_i h'
    exact (h' _ _ h).elim

lemma requests_of_undecoded {limit : Nat} {stream : List UInt8}
    (h : ∀ payload, (read limit stream).outcome = .ok (some payload) → Request.decode? payload = none) :
    requests limit stream = [] := by
  rw [requests]
  split
  · rename_i payload rest hr
    rw [h payload (congrArg Reading.outcome hr)]
  · rfl

/-- The stream that holds payloads in frames, one behind another. -/
def wrapAll (payloads : List (List UInt8)) : List UInt8 := payloads.flatMap wrap

/-- The requests of a stream are those of its longest part of whole frames that hold one each. -/
theorem exists_served {limit : Nat} (hl : limit < 4294967296) (stream : List UInt8) :
    ∃ (served : List (List UInt8 × Request)) (rest : List UInt8),
      stream = wrapAll (served.map Prod.fst) ++ rest ∧ requests limit stream = served.map Prod.snd ∧
      (∀ frame ∈ served, frame.1.length ≤ limit ∧ Request.decode? frame.1 = some frame.2) ∧
      ∀ payload more, rest = wrap payload ++ more → payload.length ≤ limit → Request.decode? payload = none := by
  induction hn : stream.length using Nat.strongRecOn generalizing stream with
  | ind n ih =>
    by_cases hread : ∃ payload rest request, read limit stream = ⟨.ok (some payload), rest⟩ ∧
        Request.decode? payload = some request
    · obtain ⟨payload, rest, request, hr, hd⟩ := hread
      obtain ⟨hs, hp⟩ := eq_wrap_of_read hr
      have hlt : rest.length < n := by
        rw [← hn, hs, List.length_append, length_wrap, headerLength]
        omega
      obtain ⟨served, last, hrest, hrequests, hserved, hlast⟩ := ih _ hlt rest rfl
      refine ⟨(payload, request) :: served, last, ?_, ?_, ?_, hlast⟩
      · rw [hs, hrest]
        simp [wrapAll]
      · rw [requests_of_read hr, hd, hrequests]
        rfl
      · intro frame hf
        obtain rfl | hf := List.mem_cons.mp hf
        · exact ⟨hp, hd⟩
        · exact hserved frame hf
    · have hnone : ∀ payload rest, read limit stream = ⟨.ok (some payload), rest⟩ →
          Request.decode? payload = none := by
        intro payload rest hr
        by_contra hd
        obtain ⟨request, hd⟩ := Option.ne_none_iff_exists'.mp hd
        exact hread ⟨payload, rest, request, hr, hd⟩
      refine ⟨[], stream, rfl, ?_, by simp, ?_⟩
      · exact requests_of_undecoded fun payload hp => hnone payload (read limit stream).rest (by rw [← hp])
      · intro payload more hs hp
        exact hnone payload more (hs ▸ read_wrap hp hl more)

end Frame

/-! ## Handling one request after another -/

def Agent.handleAll (agent : Agent σ π) :
    List Request → Agent.State σ π → List Response × Agent.State σ π
  | [], s => ([], s)
  | request :: requests, s =>
    let (response, s) := agent.handle request s
    let (responses, s) := agent.handleAll requests s
    (response :: responses, s)

namespace Response

/-- The octets that are written for a response, none when not even what stands in for it fits a frame. -/
def written (limit : Nat) (r : Response) : List UInt8 :=
  match r.frame limit with
  | .ok octets => octets
  | .error _ => []

lemma written_eq (limit : Nat) (r : Response) : r.written limit =
    if r.encode.length ≤ limit then Frame.wrap r.encode
    else if oversize.encode.length ≤ limit then Frame.wrap oversize.encode
    else [] := by
  unfold written frame Frame.write fitted
  by_cases hfits : limit < r.encode.length
  · rw [if_pos hfits, if_neg (Nat.not_le.mpr hfits)]
    by_cases hstands : limit < oversize.encode.length
    · rw [if_pos hstands, if_neg (Nat.not_le.mpr hstands)]
    · rw [if_neg hstands, if_pos (Nat.not_lt.mp hstands)]
      rfl
  · rw [if_neg hfits, if_neg hfits, if_pos (Nat.not_lt.mp hfits)]
    rfl

/-- What is written for a response: the response when it fits a frame, else an error. -/
lemma encode_fitted (limit : Nat) (r : Response) : (r.fitted limit).encode =
    if limit < r.encode.length then (Response.failure "Response exceeds maximum message size").encode
      else r.encode := by
  unfold fitted oversize
  split <;> rfl

lemma length_fitted {limit : Nat} (hl : 1024 ≤ limit) (r : Response) :
    (r.fitted limit).encode.length ≤ limit := by
  have ho : oversize.encode.length ≤ 1024 := by decide
  unfold fitted
  split <;> omega

lemma frame_eq {limit : Nat} (hl : 1024 ≤ limit) (r : Response) :
    r.frame limit = .ok (Frame.wrap (r.fitted limit).encode) := by
  unfold frame Frame.write
  rw [if_neg (Nat.not_lt.mpr (length_fitted hl r))]
  rfl

lemma written_of_le {limit : Nat} (hl : 1024 ≤ limit) (r : Response) :
    r.written limit = Frame.wrap (r.fitted limit).encode := by
  rw [written, frame_eq hl]

end Response

/-! ## What is to come of a connection -/

lemma Agent.filterMap_notes (agent : Agent σ π) (s : Agent.State σ π) (stage : Stage) :
    (agent.notes s stage).filterMap Note.request? = [] ∧
      (agent.notes s stage).filterMap Note.response? = [] := by
  have hnone : ∀ note ∈ agent.notes s stage, note.request? = none ∧ note.response? = none := by
    intro note hn
    obtain rfl | ⟨system, rfl⟩ | rfl | ⟨said, history, rfl⟩ | ⟨said, reply, rfl⟩ | ⟨action, rfl⟩ := mem_notes hn
    all_goals exact ⟨rfl, rfl⟩
  exact ⟨List.filterMap_eq_nil_iff.mpr fun note hn => (hnone note hn).1,
    List.filterMap_eq_nil_iff.mpr fun note hn => (hnone note hn).2⟩

/-- The requests that a connection is to take, the responses that it is to give, and the state in the end. -/
structure Outlook (σ π : Type) where
  requests : List Request
  responses : List Response
  state : Agent.State σ π

def Outlook.behind (notes : List Note) (o : Outlook σ π) : Outlook σ π where
  requests := notes.filterMap Note.request? ++ o.requests
  responses := notes.filterMap Note.response? ++ o.responses
  state := o.state

@[simp] lemma Outlook.behind_nil (o : Outlook σ π) : o.behind [] = o := rfl

lemma Outlook.behind_append (notes more : List Note) (o : Outlook σ π) :
    o.behind (notes ++ more) = (o.behind more).behind notes := by
  simp [Outlook.behind]

/-- What is to come of a connection in a phase with these requests ahead. -/
def Agent.outlook (agent : Agent σ π) (requests : List Request) (s : Agent.State σ π) : Phase → Outlook σ π
  | .checking | .waiting | .polling =>
    ⟨requests, (agent.handleAll requests s).1, (agent.handleAll requests s).2⟩
  | .serving _ stage =>
    let (response, s) := agent.complete stage s
    ⟨requests, response :: (agent.handleAll requests s).1, (agent.handleAll requests s).2⟩
  | .closed => ⟨[], [], s⟩

namespace Agent

lemma complete_elapse (agent : Agent σ π) (ms : Nat) (stage : Stage) (s : Agent.State σ π) :
    agent.complete (stage.elapse ms) s = agent.complete stage s := by
  cases stage with
  | awaiting said completion wait =>
    rw [complete_eq_complete_advance, agent.complete_eq_complete_advance (.awaiting said completion wait)]
    rfl
  | _ => rfl

end Agent

namespace Connection

/-- A response is written, or what stands in for it. -/
lemma write_eq {limit : Nat} (hl : 1024 ≤ limit) {c : Connection} (hg : c.gone = false) (r : Response) :
    c.write limit r = { c with outgoing := c.outgoing ++ r.written limit, phase := .checking } := by
  simp [write, hg, Response.frame_eq hl, Response.written_of_le hl]

/-- What a step of a connection keeps and what it writes. -/
structure Proceeds (limit : Nat) (notes : List Note) (c next : Connection) : Prop where
  ended : next.ended = c.ended
  gone : next.gone = false
  outgoing : next.outgoing = c.outgoing ++ (notes.filterMap Note.response?).flatMap (Response.written limit)

lemma proceeds_write (limit : Nat) {c : Connection} (hg : c.gone = false) (r : Response) :
    Proceeds limit [.answered r] c (c.write limit r) := by
  unfold write
  rw [hg]
  cases hframe : r.frame limit with
  | ok octets => exact ⟨rfl, rfl, by simp [Note.response?, Response.written, hframe]⟩
  | error e => exact ⟨rfl, rfl, by simp [Note.response?, Response.written, hframe]⟩

lemma proceeds_take (limit : Nat) {c : Connection} (hg : c.gone = false) :
    Proceeds limit (c.take limit).phase.notes c (c.take limit) := by
  obtain ⟨payload, rest, request, -, -, hc⟩ | ⟨-, hc⟩ := c.take_cases limit
  · rw [hc]
    exact ⟨rfl, hg, by simp [Phase.notes, Note.response?]⟩
  · rw [hc]
    exact ⟨rfl, hg, by simp [Phase.notes]⟩

/-- Whatever a step of serving a connection is about, it writes the responses that it notes. -/
lemma proceeds_advance (agent : Agent σ π) {c : Connection} (hg : c.gone = false) (stopping : Bool)
    (s : Agent.State σ π) :
    Proceeds agent.policy.messageLimit (c.notes agent s) c (c.advance agent stopping s).1 := by
  cases hp : c.phase with
  | checking =>
    simp only [advance, notes, hp]
    exact ⟨rfl, hg, by simp⟩
  | waiting =>
    simp only [advance, notes, hp]
    unfold heed
    split <;> exact ⟨rfl, hg, by simp⟩
  | polling =>
    simp only [advance, notes, hp]
    unfold listen
    split
    · exact proceeds_take _ hg
    · exact ⟨rfl, hg, by simp [Phase.notes]⟩
  | closed =>
    simp only [advance, notes, hp]
    exact ⟨rfl, hg, by simp⟩
  | serving request stage =>
    by_cases hf : ∃ response, stage = .finished response
    · obtain ⟨response, rfl⟩ := hf
      obtain ⟨ha, hn⟩ := c.advance_finished agent stopping hp s
      rw [ha, hn]
      exact proceeds_write _ hg response
    · obtain ⟨-, ha, hn⟩ | ⟨-, ha, hn⟩ := c.advance_serving agent stopping hp (not_exists.mp hf) s
      · rw [ha, hn]
        exact ⟨rfl, hg, by simp⟩
      · rw [ha, hn]
        exact ⟨rfl, hg, by simp [(agent.filterMap_notes s stage).2]⟩

/-- Taking a frame is taking the first request, if octets that come later do not matter. -/
lemma outlook_take (agent : Agent σ π) {limit : Nat} (c : Connection) (s : Agent.State σ π) {more : List UInt8}
    (hread : Frame.read limit (c.incoming ++ more) =
      ⟨(Frame.read limit c.incoming).outcome, (Frame.read limit c.incoming).rest ++ more⟩) :
    agent.outlook (Frame.requests limit (c.incoming ++ more)) s .polling =
      (agent.outlook (Frame.requests limit ((c.take limit).incoming ++ more)) s (c.take limit).phase).behind
        (c.take limit).phase.notes := by
  obtain ⟨payload, rest, request, hr, hd, hc⟩ | ⟨hd, hc⟩ := c.take_cases limit
  · rw [hr] at hread
    rw [Frame.requests_of_read hread, hd, hc]
    rfl
  · have hnone : Frame.requests limit (c.incoming ++ more) = [] :=
      Frame.requests_of_undecoded fun payload hp => hd payload (by rwa [hread] at hp)
    rw [hnone, hc]
    rfl

/-- A step of serving a connection notes the part of the outlook that it brings about. -/
lemma outlook_advance (agent : Agent σ π) (hl : 1024 ≤ agent.policy.messageLimit) {c : Connection}
    (hg : c.gone = false) (s : Agent.State σ π) {more : List UInt8} (hm : c.ended = true → more = []) :
    agent.outlook (Frame.requests agent.policy.messageLimit (c.incoming ++ more)) s c.phase =
      (agent.outlook (Frame.requests agent.policy.messageLimit ((c.advance agent false s).1.incoming ++ more))
        (c.advance agent false s).2 (c.advance agent false s).1.phase).behind (c.notes agent s) := by
  cases hp : c.phase with
  | checking =>
    have hadvance : c.advance agent false s = ({ c with phase := .waiting }, s) := by simp [advance, hp]
    have hnotes : c.notes agent s = [] := by simp [notes, hp]
    rw [hadvance, hnotes]
    rfl
  | waiting =>
    have hadvance : c.advance agent false s = ({ c with phase := .polling }, s) := by simp [advance, heed, hp]
    have hnotes : c.notes agent s = [] := by simp [notes, hp]
    rw [hadvance, hnotes]
    rfl
  | polling =>
    by_cases hs : c.isSettled agent.policy.messageLimit
    · have hlisten : c.listen agent.policy.messageLimit = c.take agent.policy.messageLimit := by
        simp [listen, hs]
      have hadvance : c.advance agent false s = (c.take agent.policy.messageLimit, s) := by
        simp [advance, hp, hlisten]
      have hread : Frame.read agent.policy.messageLimit (c.incoming ++ more) =
          ⟨(Frame.read agent.policy.messageLimit c.incoming).outcome,
            (Frame.read agent.policy.messageLimit c.incoming).rest ++ more⟩ := by
        by_cases he : c.ended
        · rw [hm he, List.append_nil, List.append_nil]
        · exact Frame.read_append (by simpa [isSettled, he] using hs) more
      have hnotes : c.notes agent s =
          (c.take agent.policy.messageLimit).phase.notes := by
        simp [notes, hp, hlisten]
      rw [hadvance, hnotes]
      exact outlook_take agent c s hread
    · have hlisten : c.listen agent.policy.messageLimit = { c with phase := .waiting } := by simp [listen, hs]
      have hadvance : c.advance agent false s = ({ c with phase := .waiting }, s) := by simp [advance, hp, hlisten]
      have hnotes : c.notes agent s = [] := by simp [notes, hp, hlisten, Phase.notes]
      rw [hadvance, hnotes]
      rfl
  | closed =>
    have hadvance : c.advance agent false s = (c, s) := by simp [advance, hp]
    have hnotes : c.notes agent s = [] := by simp [notes, hp]
    rw [hadvance, hnotes, hp]
    rfl
  | serving request stage =>
    by_cases hf : ∃ response, stage = .finished response
    · obtain ⟨response, rfl⟩ := hf
      obtain ⟨ha, hn⟩ := c.advance_finished agent false hp s
      rw [ha, hn, write_eq hl hg]
      rfl
    · obtain ⟨-, ha, hn⟩ | ⟨-, ha, hn⟩ := c.advance_serving agent false hp (not_exists.mp hf) s
      · rw [ha, hn, hp]
        rfl
      · obtain ⟨hrequest, hresponse⟩ := agent.filterMap_notes s stage
        rw [ha, hn]
        simp only [Agent.outlook, Outlook.behind, hrequest, hresponse, List.nil_append]
        rw [agent.complete_eq_complete_advance stage s]

lemma elapse_keeps (ms : Nat) (c : Connection) : (c.elapse ms).incoming = c.incoming ∧
    (c.elapse ms).ended = c.ended ∧ (c.elapse ms).gone = c.gone ∧ (c.elapse ms).outgoing = c.outgoing := by
  unfold elapse
  split <;> exact ⟨rfl, rfl, rfl, rfl⟩

lemma outlook_elapse (agent : Agent σ π) (ms : Nat) (c : Connection) (requests : List Request)
    (s : Agent.State σ π) : agent.outlook requests s (c.elapse ms).phase = agent.outlook requests s c.phase := by
  unfold elapse
  cases hp : c.phase with
  | serving request stage => simp only [Agent.outlook, agent.complete_elapse]
  | _ => simp only [hp]

end Connection

/-! ## Runs on one connection -/

/-- An event that leaves the serving to one connection, whose client goes on reading, at one time, and does not stop
it. -/
def DaemonEvent.IsCalm (i : Nat) : DaemonEvent → Prop
  | .advance k => k = i
  | .leave k => k ≠ i
  | .fire | .raise | .tick _ | .crowd _ => False
  | _ => True

/-- The octets that the client of a connection sends before it stops sending. -/
def DaemonEvent.sent (i : Nat) : List DaemonEvent → List UInt8
  | [] => []
  | .receive k octets :: events => if k = i then octets ++ sent i events else sent i events
  | .finish k :: events => if k = i then [] else sent i events
  | _ :: events => sent i events

namespace Daemon

/-- The octets that wait for the client of a connection. -/
def outgoing (d : Daemon σ π) (i : Nat) : List UInt8 :=
  match d.connections[i]? with
  | some c => c.outgoing
  | none => []

/-- The octets that the client of a connection fetches. -/
def fetched (d : Daemon σ π) (i : Nat) : DaemonEvent → List UInt8
  | .fetch k => if k = i then d.outgoing i else []
  | _ => []

/-- The octets for the client of a connection in a run, fetched or not. -/
def delivered (agent : Agent σ π) (i : Nat) (d : Daemon σ π) : List DaemonEvent → List UInt8
  | [] => d.outgoing i
  | event :: events => d.fetched i event ++ (d.step agent event).delivered agent i events

@[simp]
lemma outgoing_eq {d : Daemon σ π} {i : Nat} {c : Connection} (h : d.connections[i]? = some c) :
    d.outgoing i = c.outgoing := by
  simp [outgoing, h]

/-- What waits for a client and what is written for it is fetched or goes on waiting. -/
lemma outgoing_meet (agent : Agent σ π) {d : Daemon σ π} {i : Nat} {c : Connection}
    (h : d.connections[i]? = some c) (hg : c.gone = false) {event : DaemonEvent} (he : event ≠ .leave i) :
    let next := c.meet agent d.isStopping d.state i event
    next.gone = false ∧ c.outgoing ++ ((c.noted agent d.state i event).filterMap Note.response?).flatMap
      (Response.written agent.policy.messageLimit) = d.fetched i event ++ next.outgoing := by
  have hproceeds := c.proceeds_advance agent hg d.isStopping d.state
  cases event with
  | advance k =>
    by_cases hk : k = i
    · subst hk
      simp only [Connection.meet, Connection.noted, if_pos, fetched]
      exact ⟨hproceeds.gone, hproceeds.outgoing.symm⟩
    · simp [Connection.meet, Connection.noted, fetched, hk, hg]
  | receive k octets =>
    simp only [Connection.meet]
    repeat' split
    all_goals simp [Connection.noted, fetched, hg]
  | fetch k =>
    by_cases hk : k = i
    · simp [Connection.meet, Connection.noted, fetched, outgoing_eq h, hk, hg]
    · simp [Connection.meet, Connection.noted, fetched, hk, hg]
  | leave k =>
    have hk : k ≠ i := fun hk => he (congrArg DaemonEvent.leave hk)
    simp [Connection.meet, Connection.noted, fetched, hk, hg]
  | finish k =>
    simp only [Connection.meet]
    split <;> simp [Connection.noted, fetched, hg]
  | elapse ms =>
    obtain ⟨-, -, hgone, hout⟩ := c.elapse_keeps ms
    simp [Connection.meet, Connection.noted, fetched, hgone, hout, hg]
  | _ => simp [Connection.meet, Connection.noted, fetched, hg]

/-- As long as a client reads, it gets the responses that are noted on its connection. -/
lemma delivered_run (agent : Agent σ π) {i : Nat} {events : List DaemonEvent} (hstay : .leave i ∉ events)
    {d : Daemon σ π} (hd : ∀ c, d.connections[i]? = some c → c.gone = false) :
    d.outgoing i ++ ((notesOn i (d.journal agent events)).filterMap Note.response?).flatMap
      (Response.written agent.policy.messageLimit) = d.delivered agent i events := by
  induction events generalizing d with
  | nil => simp [journal, delivered]
  | cons event events ih =>
    rw [List.mem_cons, not_or] at hstay
    have hnotes := notesOn_notes agent d i event
    rw [journal, delivered, notesOn_append, List.filterMap_append, List.flatMap_append, ← List.append_assoc]
    cases h : d.connections[i]? with
    | none =>
      have hfetched : d.fetched i event = [] := by
        cases event <;> simp [fetched, outgoing, h]
      have hnext : (d.step agent event).outgoing i = [] ∧
          ∀ c, (d.step agent event).connections[i]? = some c → c.gone = false := by
        obtain hn | ⟨-, hn⟩ := getElem?_step_none agent h event
        · simp [outgoing, hn]
        · simp [outgoing, hn, Connection.opened]
      rw [h] at hnotes
      rw [hfetched, hnotes, ← ih hstay.2 hnext.2, hnext.1]
      simp [outgoing, h]
    | some c =>
      obtain ⟨hgone, hout⟩ := outgoing_meet agent h (hd c h) (Ne.symm hstay.1)
      have hnext := getElem?_step agent h event
      have hstays : ∀ c, (d.step agent event).connections[i]? = some c → c.gone = false := by
        intro next hn
        rw [hnext] at hn
        rw [← Option.some.inj hn]
        exact hgone
      rw [h] at hnotes
      rw [hnotes, outgoing_eq h, Option.map_some, Option.getD_some, hout, ← ih hstay.2 hstays, outgoing_eq hnext,
        List.append_assoc]

/-- What is to come of a connection whose client goes on as these events say. -/
def outlook (agent : Agent σ π) (i : Nat) (events : List DaemonEvent) (c : Connection) (s : Agent.State σ π) :
    Outlook σ π :=
  agent.outlook (Frame.requests agent.policy.messageLimit
    (c.incoming ++ if c.ended then [] else DaemonEvent.sent i events)) s c.phase

/-- A daemon that does not stop, with an open way to the client of a connection. -/
structure Serves (d : Daemon σ π) (i : Nat) (c : Connection) : Prop where
  here : d.connections[i]? = some c
  calm : d.signal ≠ .raised
  gone : c.gone = false

/-- What one event brings about on a connection, and what is to come then. -/
structure Steps (agent : Agent σ π) (i : Nat) (d : Daemon σ π) (c : Connection) (event : DaemonEvent)
    (events : List DaemonEvent) (next : Connection) : Prop where
  serves : (d.step agent event).Serves i next
  outlook : outlook agent i (event :: events) c d.state =
    (outlook agent i events next (d.step agent event).state).behind (notesOn i (d.notes agent event))
  ended : c.ended = true ∨ event = .finish i → next.ended = true

lemma signal_step_of_calm (agent : Agent σ π) {d : Daemon σ π} (h : d.signal ≠ .raised) {i : Nat} {event : DaemonEvent}
    (hc : event.IsCalm i) : (d.step agent event).signal ≠ .raised := by
  obtain hs | ⟨-, rfl, -⟩ | ⟨-, -, hs⟩ := d.signal_step agent event
  · rw [hs]
    exact h
  · exact hc.elim
  · simp [hs]

lemma steps_of_quiet {agent : Agent σ π} {i : Nat} {d : Daemon σ π} {c : Connection} {event : DaemonEvent}
    {events : List DaemonEvent} (hd : d.Serves i c) (hcalm : event.IsCalm i)
    (hc : (d.step agent event).connections[i]? = d.connections[i]?)
    (hstate : (d.step agent event).state = d.state) (hnotes : d.notes agent event = [])
    (hsent : DaemonEvent.sent i (event :: events) = DaemonEvent.sent i events) (hfinish : event ≠ .finish i) :
    Steps agent i d c event events c := by
  refine ⟨⟨hc.trans hd.here, signal_step_of_calm agent hd.calm hcalm, hd.gone⟩, ?_, fun h => h.resolve_right hfinish⟩
  rw [hnotes, hstate]
  simp only [outlook, hsent]
  rfl

lemma steps_receive {agent : Agent σ π} {i : Nat} {d : Daemon σ π} {c : Connection} (hd : d.Serves i c)
    (octets : List UInt8) (events : List DaemonEvent) :
    ∃ next, Steps agent i d c (.receive i octets) events next := by
  have hsignal : (d.step agent (.receive i octets)).signal ≠ .raised :=
    signal_step_of_calm agent hd.calm (i := i) trivial
  have hhere : (d.step agent (.receive i octets)).connections[i]? =
      some (if c.isClosed || c.ended then c else { c with incoming := c.incoming ++ octets }) := by
    rw [step, getElem?_update, if_pos rfl, hd.here]
    rfl
  by_cases hc : c.isClosed || c.ended
  · -- Octets are lost on a connection that takes none, which is why `sent` stops where `ended` starts.
    rw [if_pos hc] at hhere
    refine ⟨c, ⟨hhere, hsignal, hd.gone⟩, ?_, fun h => h.resolve_right (by simp)⟩
    obtain hc | hc := Bool.or_eq_true _ _ ▸ hc
    · have hp : c.phase = .closed := by
        cases hp : c.phase <;> simp [Connection.isClosed, hp] at hc
        rfl
      simp only [outlook, hp]
      rfl
    · simp only [outlook, hc]
      rfl
  · rw [if_neg hc] at hhere
    have he : c.ended = false := by
      simp only [Bool.or_eq_true, not_or, Bool.not_eq_true] at hc
      exact hc.2
    refine ⟨_, ⟨hhere, hsignal, hd.gone⟩, ?_, fun h => h.resolve_right (by simp)⟩
    simp only [outlook, he, DaemonEvent.sent, if_true, Bool.false_eq_true, if_false, List.append_assoc]
    rfl

lemma steps_finish {agent : Agent σ π} {i : Nat} {d : Daemon σ π} {c : Connection} (hd : d.Serves i c)
    (events : List DaemonEvent) : Steps agent i d c (.finish i) events { c with ended := true } := by
  have hsignal : (d.step agent (.finish i)).signal ≠ .raised := signal_step_of_calm agent hd.calm (i := i) trivial
  have hhere : (d.step agent (.finish i)).connections[i]? = some { c with ended := true } := by
    rw [step, getElem?_update, if_pos rfl, hd.here]
    rfl
  refine ⟨⟨hhere, hsignal, hd.gone⟩, ?_, fun _ => rfl⟩
  simp only [outlook, DaemonEvent.sent, if_true, ite_self]
  rfl

lemma steps_fetch {agent : Agent σ π} {i : Nat} {d : Daemon σ π} {c : Connection} (hd : d.Serves i c)
    (events : List DaemonEvent) : Steps agent i d c (.fetch i) events { c with outgoing := [] } := by
  have hsignal : (d.step agent (.fetch i)).signal ≠ .raised := signal_step_of_calm agent hd.calm (i := i) trivial
  have hhere : (d.step agent (.fetch i)).connections[i]? = some { c with outgoing := [] } := by
    rw [step, getElem?_update, if_pos rfl, hd.here]
    rfl
  exact ⟨⟨hhere, hsignal, hd.gone⟩, rfl, fun h => h.resolve_right (by simp)⟩

lemma steps_advance {agent : Agent σ π} (hl : 1024 ≤ agent.policy.messageLimit) {i : Nat} {d : Daemon σ π}
    {c : Connection} (hd : d.Serves i c) (events : List DaemonEvent) :
    Steps agent i d c (.advance i) events (c.advance agent false d.state).1 := by
  have hsignal : (d.step agent (.advance i)).signal ≠ .raised := signal_step_of_calm agent hd.calm (i := i) rfl
  have hstopping : d.isStopping = false := by simpa [isStopping] using hd.calm
  have hstep : d.step agent (.advance i) = { d with
      connections := d.connections.set i (c.advance agent false d.state).1,
      state := (c.advance agent false d.state).2 } := by
    simp [step, Daemon.advance, hd.here, hstopping]
  have hhere : (d.step agent (.advance i)).connections[i]? = some (c.advance agent false d.state).1 := by
    rw [hstep]
    exact List.getElem?_set_self (List.getElem?_eq_some_iff.mp hd.here).1
  have hnotes : notesOn i (d.notes agent (.advance i)) = c.notes agent d.state := by
    simp only [notes, hd.here]
    rw [notesOn_map, if_pos rfl]
  have hmore : c.ended = true → (if c.ended then [] else DaemonEvent.sent i events) = [] := fun he => if_pos he
  have houtlook := c.outlook_advance agent hl hd.gone d.state hmore
  have hp := c.proceeds_advance agent hd.gone false d.state
  refine ⟨⟨hhere, hsignal, hp.gone⟩, ?_, ?_⟩
  · rw [hnotes, hstep]
    simp only [outlook, hp.ended]
    exact houtlook
  · intro h
    rw [hp.ended]
    exact h.resolve_right (by simp)

lemma steps_elapse {agent : Agent σ π} {i : Nat} {d : Daemon σ π} {c : Connection} (hd : d.Serves i c) (ms : Nat)
    (events : List DaemonEvent) : Steps agent i d c (.elapse ms) events (c.elapse ms) := by
  have hsignal : (d.step agent (.elapse ms)).signal ≠ .raised := signal_step_of_calm agent hd.calm (i := i) trivial
  have hhere : (d.step agent (.elapse ms)).connections[i]? = some (c.elapse ms) := by
    simp [step, Daemon.elapse, hd.here]
  obtain ⟨hincoming, hended, hgone, -⟩ := c.elapse_keeps ms
  refine ⟨⟨hhere, hsignal, hgone.trans hd.gone⟩, ?_, ?_⟩
  · simp only [outlook, hincoming, hended]
    exact (c.outlook_elapse agent ms _ d.state).symm
  · intro h
    rw [hended]
    exact h.resolve_right (by simp)

/-- Each calm event has a connection proceed on its outlook, if the event is about the connection at all. -/
lemma exists_steps {agent : Agent σ π} (hl : 1024 ≤ agent.policy.messageLimit) {i : Nat} {d : Daemon σ π}
    {c : Connection} (hd : d.Serves i c) {event : DaemonEvent} (hcalm : event.IsCalm i)
    (events : List DaemonEvent) : ∃ next, Steps agent i d c event events next := by
  have helsewhere : ∀ k, k ≠ i → ∀ change : Connection → Connection,
      (d.update k change).connections[i]? = d.connections[i]? := by
    intro k hk change
    exact (d.getElem?_update k i change).trans (if_neg hk)
  cases event with
  | fire | raise | tick clock | crowd spare => exact hcalm.elim
  | accept =>
    refine ⟨c, steps_of_quiet hd hcalm ?_ ?_ rfl rfl (by simp)⟩
    · simp only [step]
      split
      · exact List.getElem?_append_left (List.getElem?_eq_some_iff.mp hd.here).1
      · rfl
    · simp only [step]
      split <;> rfl
  | lose =>
    refine ⟨c, steps_of_quiet hd hcalm ?_ ?_ rfl rfl (by simp)⟩
    · simp only [step]
      split <;> rfl
    · simp only [step]
      split <;> rfl
  | listen removable =>
    refine ⟨c, steps_of_quiet hd hcalm ?_ ?_ rfl rfl (by simp)⟩
    · simp only [step, Daemon.listen]
      repeat' split
      all_goals rfl
    · simp only [step, Daemon.listen]
      repeat' split
      all_goals rfl
  | leave k => exact ⟨c, steps_of_quiet hd hcalm (helsewhere k hcalm _) rfl rfl rfl (by simp)⟩
  | receive k octets =>
    obtain rfl | hk := eq_or_ne k i
    · exact steps_receive hd octets events
    · exact ⟨c, steps_of_quiet hd hcalm (helsewhere k hk _) rfl rfl (by simp [DaemonEvent.sent, hk]) (by simp)⟩
  | finish k =>
    obtain rfl | hk := eq_or_ne k i
    · exact ⟨_, steps_finish hd events⟩
    · have hother : DaemonEvent.finish k ≠ .finish i := by simpa using hk
      exact ⟨c, steps_of_quiet hd hcalm (helsewhere k hk _) rfl rfl (by simp [DaemonEvent.sent, hk]) hother⟩
  | fetch k =>
    obtain rfl | hk := eq_or_ne k i
    · exact ⟨_, steps_fetch hd events⟩
    · exact ⟨c, steps_of_quiet hd hcalm (helsewhere k hk _) rfl rfl rfl (by simp)⟩
  | advance k =>
    obtain rfl : k = i := hcalm
    exact ⟨_, steps_advance hl hd events⟩
  | elapse ms => exact ⟨_, steps_elapse hd ms events⟩

lemma serves_run {agent : Agent σ π} (hl : 1024 ≤ agent.policy.messageLimit) {i : Nat} {events : List DaemonEvent}
    (hcalm : ∀ event ∈ events, event.IsCalm i) {d : Daemon σ π} {c : Connection} (hd : d.Serves i c) :
    ∃ last, (d.run agent events).Serves i last ∧ (c.ended = true ∨ .finish i ∈ events → last.ended = true) ∧
      outlook agent i events c d.state =
        (outlook agent i [] last (d.run agent events).state).behind (notesOn i (d.journal agent events)) := by
  induction events generalizing d c with
  | nil => exact ⟨c, hd, fun h => h.resolve_right (by simp), rfl⟩
  | cons event events ih =>
    obtain ⟨next, hs⟩ := exists_steps hl hd (hcalm event List.mem_cons_self) events
    obtain ⟨last, hlast, hended, houtlook⟩ := ih (fun event he => hcalm event (List.mem_cons_of_mem _ he)) hs.serves
    refine ⟨last, hlast, ?_, ?_⟩
    · intro h
      apply hended
      obtain h | h := h
      · exact Or.inl (hs.ended (Or.inl h))
      · obtain rfl | h := List.mem_cons.mp h
        · exact Or.inl (hs.ended (Or.inr rfl))
        · exact Or.inr h
    · rw [hs.outlook, houtlook, journal, notesOn_append, Outlook.behind_append]
      rfl

lemma outlook_run {agent : Agent σ π} (hl : 1024 ≤ agent.policy.messageLimit) {i : Nat} {events : List DaemonEvent}
    (hcalm : ∀ event ∈ events, event.IsCalm i) {d : Daemon σ π} {c : Connection} (hd : d.Serves i c) :
    ∃ last, (d.run agent events).Serves i last ∧ (c.ended = true ∨ .finish i ∈ events → last.ended = true) ∧
      outlook agent i events c d.state =
        (outlook agent i [] last (d.run agent events).state).behind (notesOn i (d.journal agent events)) ∧
      c.outgoing ++ ((notesOn i (d.journal agent events)).filterMap Note.response?).flatMap
        (Response.written agent.policy.messageLimit) = d.delivered agent i events := by
  obtain ⟨last, hlast, hended, houtlook⟩ := serves_run hl hcalm hd
  have hstay : .leave i ∉ events := fun h => hcalm _ h rfl
  have hgone : ∀ next, d.connections[i]? = some next → next.gone = false := by
    intro next hn
    rw [← Option.some.inj (hd.here.symm.trans hn)]
    exact hd.gone
  have hdelivered := delivered_run agent hstay hgone
  rw [outgoing_eq hd.here] at hdelivered
  exact ⟨last, hlast, hended, houtlook, hdelivered⟩

end Daemon

/-! ## Coming to rest -/

@[simp]
lemma Stage.remaining_elapse (ms : Nat) (stage : Stage) : (stage.elapse ms).remaining = stage.remaining := by
  cases stage <;> rfl

lemma Stage.remaining_pos {stage : Stage} (hf : ∀ response, stage ≠ .finished response) : 0 < stage.remaining := by
  cases stage with
  | finished response => exact (hf response rfl).elim
  | _ => simp [Stage.remaining]

namespace Connection

/-- A connection that neither goes on nor waits for anything but its client. -/
def Rests (limit : Nat) (c : Connection) : Prop := c.isReady limit false = false ∧ c.wait = 0

lemma Rests.cases {limit : Nat} {c : Connection} (h : c.Rests limit) :
    c.phase = .closed ∨ c.phase = .waiting ∧ c.ended = false ∧ Frame.settled limit c.incoming = false := by
  obtain ⟨hr, hw⟩ := h
  cases hp : c.phase with
  | closed => exact Or.inl rfl
  | waiting =>
    right
    simpa [isReady, isSettled, hp] using hr
  | checking => simp [isReady, hp] at hr
  | polling => simp [isReady, hp] at hr
  | serving request stage =>
    have hwait : stage.wait = 0 := by simpa [wait, hp] using hw
    simp [isReady, hp, hwait] at hr

/-- A bound on the steps that a connection can take with the octets that are there. One that waits goes round once more
if there is a frame. -/
def toil (limit : Nat) (c : Connection) : Nat :=
  4 * c.incoming.length +
    match c.phase with
    | .closed => 0
    | .waiting => if c.isSettled limit then 2 else 0
    | .polling => 1
    | .checking => 3
    | .serving _ stage => 4 + stage.remaining

lemma isReady_elapse {limit : Nat} (c : Connection) (h : ¬ c.Rests limit) :
    (c.elapse c.wait).isReady limit false = true := by
  unfold Rests at h
  unfold elapse
  cases hp : c.phase with
  | serving request stage => simp [isReady, wait, hp]
  | checking => simp [isReady, hp]
  | waiting => simpa [isReady, wait, hp] using h
  | polling => simp [isReady, hp]
  | closed => simp [isReady, wait, hp] at h

lemma toil_elapse (limit ms : Nat) (c : Connection) : (c.elapse ms).toil limit = c.toil limit := by
  unfold toil isSettled
  rw [(c.elapse_keeps ms).1, (c.elapse_keeps ms).2.1]
  unfold elapse
  cases hp : c.phase with
  | serving request stage => simp
  | _ => simp [hp]

lemma toil_take {limit : Nat} {c : Connection} (hp : c.phase = .polling) :
    (c.take limit).toil limit < c.toil limit := by
  obtain ⟨payload, rest, request, hr, -, hc⟩ | ⟨-, hc⟩ := c.take_cases limit
  · have hlength : c.incoming.length = 4 + payload.length + rest.length := by
      rw [(Frame.eq_wrap_of_read hr).1, List.length_append, Frame.length_wrap, Frame.headerLength]
    simp only [hc, toil, hp, hlength, Stage.remaining]
    omega
  · have hlength := Frame.length_rest_read limit c.incoming
    simp only [hc, toil, hp]
    omega

lemma toil_advance (agent : Agent σ π) {c : Connection} (hr : c.isReady agent.policy.messageLimit false = true)
    (s : Agent.State σ π) :
    (c.advance agent false s).1.toil agent.policy.messageLimit < c.toil agent.policy.messageLimit := by
  cases hp : c.phase with
  | checking =>
    have hs : ∀ p, (Connection.mk c.incoming c.ended c.gone c.outgoing p).isSettled agent.policy.messageLimit =
        c.isSettled agent.policy.messageLimit := fun _ => rfl
    simp only [advance, toil, hp, Bool.false_eq_true, if_false, hs]
    split <;> omega
  | waiting =>
    have hs : c.isSettled agent.policy.messageLimit = true := by simpa [isReady, hp] using hr
    simp [advance, heed, toil, hp, hs]
  | polling =>
    by_cases hs : c.isSettled agent.policy.messageLimit
    · have hadvance : (c.advance agent false s).1 = c.take agent.policy.messageLimit := by
        simp [advance, listen, hp, hs]
      rw [hadvance]
      exact toil_take hp
    · have hs' : ({ c with phase := .waiting } : Connection).isSettled agent.policy.messageLimit = false := by
        simpa [isSettled] using hs
      simp [advance, listen, toil, hp, hs, hs']
  | closed => simp [isReady, hp] at hr
  | serving request stage =>
    have hwait : stage.wait = 0 := by simpa [isReady, hp] using hr
    by_cases hf : ∃ response, stage = .finished response
    · obtain ⟨response, rfl⟩ := hf
      rw [(c.advance_finished agent false hp s).1]
      unfold write
      split <;> simp [toil, hp, Stage.remaining]
    · obtain ⟨hw, -⟩ | ⟨-, ha, -⟩ := c.advance_serving agent false hp (not_exists.mp hf) s
      · omega
      · have hpos := Stage.remaining_pos (not_exists.mp hf)
        have hremaining := agent.remaining_advance s stage
        rw [ha]
        simp only [toil, hp]
        omega

end Connection

namespace Daemon

lemma serves_pace {agent : Agent σ π} (hl : 1024 ≤ agent.policy.messageLimit) {i : Nat} {d : Daemon σ π}
    {c : Connection} (hd : d.Serves i c) (hr : ¬ c.Rests agent.policy.messageLimit) :
    ∃ next, (d.run agent [.elapse c.wait, .advance i]).Serves i next ∧
      next.toil agent.policy.messageLimit < c.toil agent.policy.messageLimit := by
  have helapse : Steps agent i d c (.elapse c.wait) [] (c.elapse c.wait) := steps_elapse hd c.wait []
  have hadvance := steps_advance hl helapse.serves []
  refine ⟨_, hadvance.serves, ?_⟩
  have htoil := (c.elapse c.wait).toil_advance agent (c.isReady_elapse hr) (d.step agent (.elapse c.wait)).state
  rwa [Connection.toil_elapse] at htoil

/-- A connection comes to rest when it is served on and time passes. -/
lemma exists_rest {agent : Agent σ π} (hl : 1024 ≤ agent.policy.messageLimit) {i : Nat} {d : Daemon σ π}
    {c : Connection} (hd : d.Serves i c) :
    ∃ more, (∀ event ∈ more, event = .advance i ∨ ∃ ms, event = .elapse ms) ∧
      ∃ last, (d.run agent more).Serves i last ∧ last.Rests agent.policy.messageLimit := by
  -- A frame takes several steps and each shortens the toil, not the octets, so the induction is on the toil.
  induction hn : c.toil agent.policy.messageLimit using Nat.strongRecOn generalizing d c with
  | ind n ih =>
    by_cases hr : c.Rests agent.policy.messageLimit
    · exact ⟨[], by simp, c, hd, hr⟩
    · obtain ⟨next, hnext, hlt⟩ := serves_pace hl hd hr
      obtain ⟨more, hm, last, hlast, hrest⟩ := ih _ (hn ▸ hlt) hnext rfl
      refine ⟨[.elapse c.wait, .advance i] ++ more, ?_, last, ?_, hrest⟩
      · intro event he
        obtain he | he := List.mem_append.mp he
        · obtain rfl | rfl : event = .elapse c.wait ∨ event = .advance i := by simpa using he
          · exact Or.inr ⟨_, rfl⟩
          · exact Or.inl rfl
        · exact hm event he
      · rw [run_append]
        exact hlast

lemma outlook_rests {agent : Agent σ π} (hl : agent.policy.messageLimit < 4294967296) {i : Nat} {c : Connection}
    (h : c.Rests agent.policy.messageLimit) (s : Agent.State σ π) : outlook agent i [] c s = ⟨[], [], s⟩ := by
  obtain hp | ⟨hp, he, hs⟩ := h.cases
  · simp only [outlook, hp]
    rfl
  · have hnone : Frame.requests agent.policy.messageLimit c.incoming = [] := by
      apply Frame.requests_of_undecoded
      intro payload hread
      rw [Frame.settled_of_read hl hread] at hs
      exact Bool.noConfusion hs
    simp only [outlook, hp, he, DaemonEvent.sent, ite_self, List.append_nil, hnone]
    rfl

/-- A calm run that brings a connection to rest comes to handling the requests in the longest part of its
stream that is made of whole frames within the limit with a request each, one after another: each is taken
once, in order, and the client gets one frame within the limit for each and nothing else. What stands in the frame
is the response, or an error when the response does not fit. From each calm run, serving the connection on brings it
to rest, and closes it when the client has stopped sending. -/
theorem connection_folds {agent : Agent σ π} (hl : 1024 ≤ agent.policy.messageLimit)
    (hu : agent.policy.messageLimit ≤ 16 * 1024 * 1024) {d : Daemon σ π} (hs : d.signal ≠ .raised) {i : Nat}
    (hi : d.connections[i]? = some .opened) {events : List DaemonEvent}
    (hcalm : ∀ event ∈ events, event.IsCalm i) :
    ∃ (served : List (List UInt8 × Request)) (rest : List UInt8),
      DaemonEvent.sent i events = Frame.wrapAll (served.map Prod.fst) ++ rest ∧
      (∀ frame ∈ served, frame.1.length ≤ agent.policy.messageLimit ∧ Request.decode? frame.1 = some frame.2) ∧
      (∀ payload more, rest = Frame.wrap payload ++ more → payload.length ≤ agent.policy.messageLimit →
        Request.decode? payload = none) ∧
      (∀ last, (d.run agent events).connections[i]? = some last → last.Rests agent.policy.messageLimit →
        let responses := (agent.handleAll (served.map Prod.snd) d.state).1
        let written (r : Response) : List UInt8 :=
          if agent.policy.messageLimit < r.encode.length then
            (Response.failure "Response exceeds maximum message size").encode
          else r.encode
        (notesOn i (d.journal agent events)).filterMap Note.request? = served.map Prod.snd ∧
        (notesOn i (d.journal agent events)).filterMap Note.response? = responses ∧
        d.delivered agent i events = Frame.wrapAll (responses.map written) ∧
        (∀ r ∈ responses, (written r).length ≤ agent.policy.messageLimit) ∧
        (d.run agent events).state = (agent.handleAll (served.map Prod.snd) d.state).2) ∧
      ∃ more, (∀ event ∈ more, event = .advance i ∨ ∃ ms, event = .elapse ms) ∧
        ∃ last, (d.run agent (events ++ more)).connections[i]? = some last ∧
          last.Rests agent.policy.messageLimit ∧ (.finish i ∈ events → last.isClosed = true) := by
  have hlimit : agent.policy.messageLimit < 4294967296 := by omega
  have hfirst : d.Serves i .opened := ⟨hi, hs, rfl⟩
  obtain ⟨now, hnow, hended, houtlook, hdelivered⟩ := outlook_run hl hcalm hfirst
  obtain ⟨served, rest, hsent, hrequests, hserved, hrest⟩ := Frame.exists_served hlimit (DaemonEvent.sent i events)
  refine ⟨served, rest, hsent, hserved, hrest, ?_, ?_⟩
  · intro last hlast hr responses written
    have hwritten : ∀ r, (Response.fitted agent.policy.messageLimit r).encode = written r :=
      Response.encode_fitted agent.policy.messageLimit
    have hframe : Response.written agent.policy.messageLimit = fun r => Frame.wrap (written r) := by
      funext r
      rw [Response.written_of_le hl, hwritten]
    obtain rfl : now = last := Option.some.inj (hnow.here.symm.trans hlast)
    have hahead : outlook agent i events .opened d.state =
        (agent.outlook (Frame.requests agent.policy.messageLimit (DaemonEvent.sent i events)) d.state .checking) := rfl
    rw [hahead, hrequests, outlook_rests hlimit hr] at houtlook
    simp only [Agent.outlook, Outlook.behind, List.append_nil, Outlook.mk.injEq] at houtlook
    obtain ⟨hrequest, hresponse, hstate⟩ := houtlook
    refine ⟨hrequest.symm, hresponse.symm, ?_, fun r _ => hwritten r ▸ r.length_fitted hl, hstate.symm⟩
    rw [← hdelivered, ← hresponse, Frame.wrapAll, List.flatMap_map, hframe]
    rfl
  · obtain ⟨more, hmore, last, hlast, hr⟩ := exists_rest hl hnow
    have hcalm' : ∀ event ∈ more, event.IsCalm i := by
      intro event he
      obtain rfl | ⟨ms, rfl⟩ := hmore event he
      · exact rfl
      · trivial
    refine ⟨more, hmore, last, ?_, hr, ?_⟩
    · rw [run_append]
      exact hlast.here
    · intro hfinish
      obtain ⟨last', hlast', hended', -, -⟩ := outlook_run hl hcalm' hnow
      obtain rfl : last' = last := Option.some.inj (hlast'.here.symm.trans hlast.here)
      obtain hp | ⟨-, he, -⟩ := hr.cases
      · simp [Connection.isClosed, hp]
      · rw [hended' (Or.inl (hended (Or.inr hfinish)))] at he
        exact Bool.noConfusion he

/-- An agent without a provider on devices in memory. -/
def homeAgent : Agent VirtualMachine Unit := ⟨VirtualMachine.backend, none, ⟨true, 65536, 30000, 5, "none"⟩⟩

def home : Daemon VirtualMachine Unit where
  state := ⟨.empty 20, .initial, (), [], ⟨12, 0, 0, 0, 0, 1, 2025, 60⟩, true⟩
  connections := [.opened]
  listener := .accepting
  signal := .pending
  socket := true

/-- A client that clears the conversation and leaves in the middle of a header. -/
def visit : List DaemonEvent :=
  [.receive 0 [0, 0, 0], .advance 0, .receive 0 ([15] ++ Text.octets "\x7b\"cmd\":\"clear\"\x7d"),
    .advance 0, .receive 0 [0, 0], .finish 0]

/-- The visit, and the connection is served to its end. -/
def wholeVisit : List DaemonEvent := visit ++ List.replicate 10 (.advance 0)

/-- The response of the cleared conversation is all that the client gets. -/
theorem connection_folds_visit :
    (notesOn 0 (home.journal homeAgent wholeVisit)).filterMap Note.request? = [.clear] ∧
      home.delivered homeAgent 0 wholeVisit = Frame.wrap (Text.octets "\x7b\"status\":\"ok\"\x7d") ∧
      ∃ more last, (home.run homeAgent (wholeVisit ++ more)).connections[0]? = some last ∧ last.isClosed = true := by
  have hl : 1024 ≤ homeAgent.policy.messageLimit := by decide
  have hu : homeAgent.policy.messageLimit ≤ 16 * 1024 * 1024 := by decide
  have hs : home.signal ≠ .raised := by decide
  have hi : home.connections[0]? = some .opened := rfl
  have hcalm : ∀ event ∈ wholeVisit, event.IsCalm 0 := by simp [wholeVisit, visit, DaemonEvent.IsCalm]
  obtain ⟨frames, -, -, -, -, hfold, more, -, last, hlast, -, hclosed⟩ := connection_folds hl hu hs hi hcalm
  obtain ⟨hrequests, -, hdelivered, -, -⟩ := hfold _ rfl ⟨rfl, rfl⟩
  have htaken : (notesOn 0 (home.journal homeAgent wholeVisit)).filterMap Note.request? = [.clear] := rfl
  have hresponses : (homeAgent.handleAll (frames.map Prod.snd) home.state).1 = [.ack .ok] := by
    rw [← hrequests, htaken]
    rfl
  rw [hresponses] at hdelivered
  exact ⟨htaken, hdelivered, more, last, hlast, hclosed (by simp [wholeVisit, visit])⟩

end Daemon

end DeviceAgent
