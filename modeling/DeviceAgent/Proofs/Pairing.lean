import DeviceAgent.Client.Basic
import DeviceAgent.Proofs.ConnectionFold
import DeviceAgent.Proofs.WireRoundTrip

/-!
# Requests and their responses

A client takes the next frame on its connection for the response to the request it just sent. A call that runs out of
time leaves its response behind, and from then on every response is that to an earlier request, one earlier for each
such call.
-/

namespace DeviceAgent

/-! ## Frames one behind another -/

namespace Frame

@[simp]
lemma wrapAll_cons (payload : List UInt8) (payloads : List (List UInt8)) :
    wrapAll (payload :: payloads) = wrap payload ++ wrapAll payloads := rfl

lemma wrapAll_concat (payloads : List (List UInt8)) (payload : List UInt8) :
    wrapAll (payloads ++ [payload]) = wrapAll payloads ++ wrap payload := by
  simp [wrapAll]

end Frame

/-! ## Sessions -/

/-- A server that answers each request frame with one frame. -/
structure Server where
  /-- The payload of an answer, which may depend on the requests before. -/
  answer : (earlier : List (List UInt8)) → (request : List UInt8) → List UInt8
  length_answer : ∀ earlier request, (answer earlier request).length < 4294967296

/-- The answers to requests that follow earlier ones. -/
def Server.answers (server : Server) (earlier : List (List UInt8)) : List (List UInt8) → List (List UInt8)
  | [] => []
  | request :: requests => server.answer earlier request :: server.answers (earlier ++ [request]) requests

/-- The server with one response to the first request and another to those after it. -/
def Server.scripted (first rest : Response) : Server where
  answer earlier _ := ((if earlier.isEmpty then first else rest).fitted Client.limit).encode
  length_answer earlier request :=
    Nat.lt_of_le_of_lt (Response.length_fitted (by decide) _) (by decide : Client.limit < 4294967296)

/-- A client and what its server has to do with it. -/
structure Session where
  client : Client
  /-- Octets of answers that are on their way to the client. -/
  underway : List UInt8
  /-- The request frames that were sent. -/
  asked : List (List UInt8)

structure Call where
  request : Request
  /-- How many octets of the answers arrive before the time for the call runs out. -/
  arriving : Nat

namespace Session

def start : Session := ⟨.connected, [], []⟩

/-- A request frame goes out and the server answers it. -/
def send (server : Server) (arriving : Nat) (frame : List UInt8) (s : Session) : Session :=
  let stream := s.underway ++ Frame.wrap (server.answer s.asked frame)
  ⟨s.client.deliver (stream.take arriving), stream.drop arriving, s.asked ++ [frame]⟩

def call (server : Server) (c : Call) (s : Session) : Except Client.Failure Response × Session :=
  match s.client.request c.request with
  | .error e => (.error e, s)
  | .ok frame =>
    let sent := s.send server c.arriving frame
    let (outcome, client) := sent.client.receive c.request
    (outcome, { sent with client })

/-- Calls one after another, each with its outcome. -/
def run (server : Server) : List Call → Session → List (Except Client.Failure Response) × Session
  | [], s => ([], s)
  | c :: calls, s =>
    let (outcome, next) := s.call server c
    let (outcomes, last) := next.run server calls
    (outcome :: outcomes, last)

end Session

/-- Whether a reading drops octets without a frame. -/
def Client.loses (c : Client) : Bool :=
  match c.read.1 with
  | .frame _ => false
  | _ => ! c.incoming.isEmpty

namespace Session

/-- A call drops no octets: its time does not run out within a frame, and the frame is not too large for the client. -/
def Keeps (server : Server) (c : Call) (s : Session) : Prop :=
  ∀ frame, s.client.request c.request = .ok frame → (s.send server c.arriving frame).client.loses = false

/-- No call drops octets. -/
def Lossless (server : Server) : List Call → Session → Prop
  | [], _ => True
  | c :: calls, s => s.Keeps server c ∧ (s.call server c).2.Lossless server calls

end Session

/-- Whether the time for a call ran out. -/
def Client.isLate : Except Client.Failure Response → Bool
  | .error (.timedOut _) => true
  | _ => false

/-! ## Answers -/

namespace Server

variable (server : Server)

@[simp]
lemma length_answers (earlier requests : List (List UInt8)) :
    (server.answers earlier requests).length = requests.length := by
  induction requests generalizing earlier with
  | nil => rfl
  | cons request requests ih => rw [answers, List.length_cons, ih, List.length_cons]

lemma answers_concat (earlier requests : List (List UInt8)) (request : List UInt8) :
    server.answers earlier (requests ++ [request]) =
      server.answers earlier requests ++ [server.answer (earlier ++ requests) request] := by
  induction requests generalizing earlier with
  | nil => simp [answers]
  | cons first requests ih => simp [answers, ih]

lemma length_of_mem_answers {earlier requests : List (List UInt8)} {payload : List UInt8}
    (h : payload ∈ server.answers earlier requests) : payload.length < 4294967296 := by
  induction requests generalizing earlier with
  | nil => simp [answers] at h
  | cons request requests ih =>
    rw [answers, List.mem_cons] at h
    obtain rfl | h := h
    · exact server.length_answer _ _
    · exact ih h

end Server

/-! ## What one call takes -/

namespace Client

lemma lt_of_limit : limit < 4294967296 := by decide

/-- A reading that drops nothing takes a whole frame or waits in vain for the first octet of one. -/
lemma read_of_loses {c : Client} (hup : c.link = .up) (h : c.loses = false) :
    (∃ payload rest, c.incoming = Frame.wrap payload ++ rest ∧ payload.length ≤ limit ∧
      c.read = (.frame payload, { c with incoming := rest })) ∨
      c.incoming = [] ∧ c.read = (.late, c) := by
  by_cases hempty : c.incoming = []
  · refine .inr ⟨hempty, ?_⟩
    obtain ⟨incoming, link⟩ := c
    obtain rfl : incoming = [] := hempty
    obtain rfl : link = .up := hup
    rfl
  · refine .inl ?_
    rw [loses] at h
    split at h
    · next payload hread =>
      unfold read at hread ⊢
      split at hread
      · simp at hread
      · next hsettled =>
        rw [if_neg hsettled]
        split at hread
        · simp at hread
        · next hreset =>
          rw [if_neg hreset]
          rcases hr : Frame.read limit c.incoming with ⟨_ | _ | taken, rest⟩
          · simp [hr] at hread
          · simp [hr] at hread
          · obtain ⟨hincoming, hlength⟩ := Frame.eq_wrap_of_read hr
            exact ⟨taken, rest, hincoming, hlength, rfl⟩
    · simp [hempty] at h

variable {c next : Client} {r : Request}

lemma receive_of_frame {payload : List UInt8} {response : Response} (h : c.read = (.frame payload, next))
    (hd : Response.decode? payload = some response) : c.receive r = (.ok response, next) := by
  rw [receive, h]
  simp [hd]

lemma receive_of_malformed {payload : List UInt8} (h : c.read = (.frame payload, next))
    (hd : Response.decode? payload = none) : c.receive r = (.error (.notReceived (some .malformed)), next) := by
  rw [receive, h]
  simp [hd]

lemma receive_of_late (h : c.read = (.late, next)) : c.receive r = (.error (.timedOut r.name), next) := by
  rw [receive, h]

/-- A response comes of a whole frame. -/
lemma loses_of_receive {response : Response} (h : (c.receive r).1 = .ok response) : c.loses = false := by
  rw [loses]
  rcases hread : c.read with ⟨reading, next⟩
  cases reading with
  | frame payload => rfl
  | _ => simp [receive, hread] at h

lemma isLate_of_request {e : Failure} (h : c.request r = .error e) :
    isLate (.error e) = false := by
  unfold request at h
  split at h
  · obtain rfl := Except.error.inj h
    rfl
  · split at h
    · simp at h
    · obtain rfl := Except.error.inj h
      rfl

end Client

/-! ## Calls one after another -/

namespace Session

variable {server : Server} {s : Session} {c : Call} {late : Nat}

/-- The client is behind by a number of answers, and the octets it has yet to read hold these. -/
structure Behind (server : Server) (s : Session) (late : Nat) : Prop where
  up : s.client.link = .up
  le : late ≤ s.asked.length
  octets : s.client.incoming ++ s.underway =
    Frame.wrapAll ((server.answers [] s.asked).drop (s.asked.length - late))

lemma call_of_request_error {e : Client.Failure} (h : s.client.request c.request = .error e) :
    s.call server c = (.error e, s) := by
  rw [call, h]

lemma call_of_receive {frame : List UInt8} {outcome : Except Client.Failure Response} {client : Client}
    (h : s.client.request c.request = .ok frame)
    (hr : (s.send server c.arriving frame).client.receive c.request = (outcome, client)) :
    s.call server c = (outcome, { s.send server c.arriving frame with client }) := by
  rw [call, h]
  simp only [hr]

lemma behind_start (server : Server) : start.Behind server 0 := ⟨rfl, Nat.le_refl 0, rfl⟩

/-- The answers that are to be read once a request is sent. -/
lemma Behind.octets_send (h : s.Behind server late) (arriving : Nat) (frame : List UInt8) :
    (s.send server arriving frame).client.incoming ++ (s.send server arriving frame).underway =
      Frame.wrapAll ((server.answers [] (s.asked ++ [frame])).drop (s.asked.length - late)) := by
  have hle : s.asked.length - late ≤ (server.answers [] s.asked).length := by
    rw [Server.length_answers]
    omega
  rw [Server.answers_concat, List.drop_append_of_le_length hle, Frame.wrapAll_concat, ← h.octets, List.nil_append]
  simp [send, Client.deliver]

/-- The first of the answers that are to be read once a request is sent, and the others. -/
lemma Behind.drop_answers (h : s.Behind server late) (frame : List UInt8) :
    ∃ payload, (server.answers [] (s.asked ++ [frame]))[s.asked.length - late]? = some payload ∧
      payload.length < 4294967296 ∧
      (server.answers [] (s.asked ++ [frame])).drop (s.asked.length - late) =
        payload :: (server.answers [] (s.asked ++ [frame])).drop (s.asked.length + 1 - late) := by
  have hlt : s.asked.length - late < (server.answers [] (s.asked ++ [frame])).length := by
    rw [Server.length_answers, List.length_append, List.length_singleton]
    omega
  refine ⟨_, List.getElem?_eq_getElem hlt, server.length_of_mem_answers (List.getElem_mem hlt), ?_⟩
  rw [List.drop_eq_getElem_cons hlt, Nat.sub_add_comm h.le]

/-- A call that drops nothing leaves the client as far behind as it was, or by one more answer if its time runs out. A
response is decoded from the first answer that was not read before. -/
lemma Behind.call (h : s.Behind server late) (hk : s.Keeps server c) :
    (s.call server c).2.Behind server (late + if Client.isLate (s.call server c).1 then 1 else 0) ∧
      ∀ response, (s.call server c).1 = .ok response →
        ∃ frame payload, s.client.request c.request = .ok frame ∧
          (server.answers [] (s.asked ++ [frame]))[s.asked.length - late]? = some payload ∧
          Response.decode? payload = some response := by
  rcases hreq : s.client.request c.request with e | frame
  · rw [call_of_request_error hreq]
    exact ⟨by simpa [Client.isLate_of_request hreq] using h, by simp⟩
  · obtain ⟨answer, hanswer, hlength, hdrop⟩ := h.drop_answers frame
    have hoctets := h.octets_send c.arriving frame
    have hup : (s.send server c.arriving frame).client.link = .up := h.up
    have hasked : (s.send server c.arriving frame).asked = s.asked ++ [frame] := rfl
    have hle := h.le
    obtain ⟨payload, rest, hincoming, hpayload, hread⟩ | ⟨hincoming, hread⟩ :=
      Client.read_of_loses hup (hk frame hreq)
    · rw [hdrop, Frame.wrapAll_cons, hincoming, List.append_assoc] at hoctets
      obtain ⟨rfl, hrest⟩ :=
        Frame.wrap_append_inj (Nat.lt_of_le_of_lt hpayload Client.lt_of_limit) hlength hoctets
      have hbehind : Behind server
          { s.send server c.arriving frame with
            client := { (s.send server c.arriving frame).client with incoming := rest } } late :=
        ⟨hup, by simp only [hasked, List.length_append]; omega, by simpa [hasked] using hrest⟩
      rcases hd : Response.decode? payload with _ | response
      · rw [call_of_receive hreq (Client.receive_of_malformed hread hd)]
        exact ⟨hbehind, by simp⟩
      · rw [call_of_receive hreq (Client.receive_of_frame hread hd)]
        refine ⟨hbehind, fun other ho => ?_⟩
        obtain rfl := Except.ok.inj ho
        exact ⟨frame, payload, rfl, hanswer, hd⟩
    · have hbehind : Behind server (s.send server c.arriving frame) (late + 1) := by
        refine ⟨hup, by simp only [hasked, List.length_append, List.length_singleton]; omega, ?_⟩
        rw [hoctets, hasked, List.length_append, List.length_singleton, Nat.add_sub_add_right]
      rw [call_of_receive hreq (Client.receive_of_late hread)]
      exact ⟨hbehind, by simp⟩

/-- After calls that drop nothing the client is behind by as many answers as there were calls that ran out of time. -/
lemma Behind.run {calls : List Call} (h : s.Behind server late) (hk : s.Lossless server calls) :
    (s.run server calls).2.Behind server (late + (s.run server calls).1.countP Client.isLate) := by
  induction calls generalizing s late with
  | nil => exact h
  | cons c calls ih =>
    obtain ⟨hfirst, hrest⟩ := hk
    have hlast := ih (h.call hfirst).1 hrest
    rw [Session.run, List.countP_cons]
    rwa [Nat.add_assoc, Nat.add_comm (ite _ _ _)] at hlast

lemma keeps_of_ok {response : Response} (h : (s.call server c).1 = .ok response) : s.Keeps server c := by
  intro frame hreq
  rw [call_of_receive hreq rfl] at h
  exact Client.loses_of_receive h

lemma lossless_of_ok {calls : List Call} (h : ∀ outcome ∈ (s.run server calls).1, ∃ response, outcome = .ok response) :
    s.Lossless server calls := by
  induction calls generalizing s with
  | nil => trivial
  | cons c calls ih =>
    rw [Session.run] at h
    obtain ⟨response, hr⟩ := h _ List.mem_cons_self
    exact ⟨keeps_of_ok hr, ih fun outcome ho => h outcome (List.mem_cons_of_mem _ ho)⟩

/-- The answer to the newest request is the last one. -/
lemma getElem?_answers_concat (server : Server) (asked : List (List UInt8)) (frame : List UInt8) :
    (server.answers [] (asked ++ [frame]))[asked.length]? = some (server.answer asked frame) := by
  rw [Server.answers_concat, List.getElem?_append_right (by rw [Server.length_answers])]
  simp

/-- As long as every call comes to a response, it is decoded from the answer to the call's own request. -/
theorem response_paired (server : Server) (calls : List Call) (c : Call) (response : Response)
    (hok : ∀ outcome ∈ (start.run server calls).1, ∃ response, outcome = .ok response) :
    let s := (start.run server calls).2
    (s.call server c).1 = .ok response →
      ∃ frame, s.client.request c.request = .ok frame ∧
        Response.decode? (server.answer s.asked frame) = some response := by
  intro s hr
  have hlate : (start.run server calls).1.countP Client.isLate = 0 := by
    rw [List.countP_eq_zero]
    intro outcome ho
    obtain ⟨response, rfl⟩ := hok outcome ho
    simp [Client.isLate]
  have hbehind : s.Behind server 0 := by simpa [hlate] using (behind_start server).run (lossless_of_ok hok)
  obtain ⟨frame, payload, hframe, hpayload, hd⟩ := (hbehind.call (keeps_of_ok hr)).2 response hr
  rw [Nat.sub_zero, getElem?_answers_concat, Option.some.injEq] at hpayload
  exact ⟨frame, hframe, hpayload ▸ hd⟩

/-- If no call before dropped octets, the response to a call is decoded from the answer to a request that came before it
by as many requests as calls ran out of time. Without such a call that is the call's own request. -/
theorem response_lags (server : Server) (calls : List Call) (c : Call) (response : Response)
    (hk : start.Lossless server calls) :
    let s := (start.run server calls).2
    let late := (start.run server calls).1.countP Client.isLate
    (s.call server c).1 = .ok response →
      ∃ frame payload, s.client.request c.request = .ok frame ∧ late ≤ s.asked.length ∧
        (server.answers [] (s.asked ++ [frame]))[s.asked.length - late]? = some payload ∧
        Response.decode? payload = some response ∧ (late = 0 → payload = server.answer s.asked frame) := by
  intro s late hr
  have hbehind : s.Behind server late := by simpa using (behind_start server).run hk
  obtain ⟨frame, payload, hframe, hpayload, hd⟩ := (hbehind.call (keeps_of_ok hr)).2 response hr
  refine ⟨frame, payload, hframe, hbehind.le, hpayload, hd, fun hlate => ?_⟩
  rw [hlate, Nat.sub_zero, getElem?_answers_concat] at hpayload
  exact (Option.some.inj hpayload).symm

/-- The server that says which chat it answers. -/
def echo : Server := .scripted (.chat .ok "to the first" none) (.chat .ok "to the second" none)

/-- The first chat goes out, and its time runs out before anything arrives. -/
lemma run_first : start.run echo [⟨.chat "first", 0⟩] =
    ([.error (.timedOut "chat")], start.send echo 0 (Frame.wrap (Request.chat "first").encode)) := by
  have hframe : start.client.request (.chat "first") = .ok (Frame.wrap (Request.chat "first").encode) := by
    decide +kernel
  rw [run, call_of_receive hframe (Client.receive_of_late rfl)]
  rfl

/-- The second chat comes to the response to the first. -/
lemma call_second : ((start.run echo [⟨.chat "first", 0⟩]).2.call echo ⟨.chat "second", 100⟩).1 =
    .ok (.chat .ok "to the first" none) := by
  rw [run_first]
  have hframe : (start.send echo 0 (Frame.wrap (Request.chat "first").encode)).client.request (.chat "second") =
      .ok (Frame.wrap (Request.chat "second").encode) := by
    decide +kernel
  have hread : (((start.send echo 0 (Frame.wrap (Request.chat "first").encode)).send echo 100
      (Frame.wrap (Request.chat "second").encode)).client.read).1 =
      .frame (Response.chat .ok "to the first" none).encode := by
    decide +kernel
  have hd : Response.decode? (Response.chat .ok "to the first" none).encode = some (.chat .ok "to the first" none) :=
    Response.decode?_encode (by simp [Response.Fits])
  rw [call_of_receive hframe (Client.receive_of_frame (Prod.ext hread rfl) hd)]

/-- The answers to two chats of which the first ran out of time. -/
theorem response_lags_one :
    let s := (start.run echo [⟨.chat "first", 0⟩]).2
    start.Lossless echo [⟨.chat "first", 0⟩] ∧
      (s.call echo ⟨.chat "second", 100⟩).1 = .ok (.chat .ok "to the first" none) ∧
      ∃ frame payload, s.client.request (.chat "second") = .ok frame ∧
        (echo.answers [] (s.asked ++ [frame]))[s.asked.length - 1]? = some payload ∧
        Response.decode? payload = some (.chat .ok "to the first" none) := by
  intro s
  have hk : start.Lossless echo [⟨.chat "first", 0⟩] := ⟨fun frame _ => rfl, trivial⟩
  have hlate : (start.run echo [⟨.chat "first", 0⟩]).1.countP Client.isLate = 1 := by
    rw [run_first]
    rfl
  obtain ⟨frame, payload, hframe, -, hpayload, hd, -⟩ :=
    response_lags echo [⟨.chat "first", 0⟩] ⟨.chat "second", 100⟩ (.chat .ok "to the first" none) hk call_second
  rw [hlate] at hpayload
  exact ⟨hk, call_second, frame, payload, hframe, hpayload, hd⟩

/-- The response to the first chat is taken for that to the second, of whose kind it is. -/
theorem stale_response :
    let s := (start.run echo [⟨.chat "first", 0⟩]).2
    let stale : Response := .chat .ok "to the first" none
    (s.call echo ⟨.chat "second", 100⟩).1 = .ok stale ∧ Client.expect (.chat "second") stale = .ok stale ∧
      ∀ frame, s.client.request (.chat "second") = .ok frame →
        Response.decode? (echo.answer s.asked frame) = some (.chat .ok "to the second" none) := by
  intro s stale
  refine ⟨call_second, rfl, fun frame _ => ?_⟩
  have hs : s = start.send echo 0 (Frame.wrap (Request.chat "first").encode) := congrArg Prod.snd run_first
  have hfits : ((Response.chat .ok "to the second" none).fitted Client.limit).encode =
      (Response.chat .ok "to the second" none).encode := by
    decide +kernel
  have hanswer : echo.answer s.asked frame = (Response.chat .ok "to the second" none).encode := by
    rw [hs, ← hfits]
    rfl
  rw [hanswer]
  exact Response.decode?_encode (by simp [Response.Fits])

end Session

end DeviceAgent
