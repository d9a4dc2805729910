import DeviceAgent.Proofs.Events
import DeviceAgent.Proofs.Replies

/-!
# The course of a request

What each request notes on its way to the response. The notes of one connection are the transcripts of its
requests, each of which takes its course while other connections do as they like.
-/

namespace DeviceAgent

variable {σ π : Type}

/-! ## What a chat may carry out -/

/-- Whether a chat may carry out an intent: where dangerous ones are to be confirmed, the user says so. -/
def Agent.Permits (agent : Agent σ π) (said : String) (intent : Intent) : Prop :=
  agent.policy.confirmDangerous = true → intent.isDangerous = true →
    Text.contains (Text.lowered said) confirmation = true

namespace Agent

lemma permits_of_not_isHeld {agent : Agent σ π} {said : String} {intent : Intent}
    (h : agent.isHeld intent said = false) : agent.Permits said intent := by
  intro hc hd
  simpa [isHeld, hc, hd] using h

lemma permits_interpret (agent : Agent σ π) (s : Agent.State σ π) (said : String) {reply : Reply}
    {devices : σ} (hr : Interpreter.interpret agent.backend agent.policy.confirmDangerous s.clock said s.devices =
      (reply, devices)) {intent : Intent} (hi : reply.intent = some intent) : agent.Permits said intent := by
  intro hc hd
  have hreplies := Interpreter.replies_interpret agent.backend agent.policy.confirmDangerous s.clock said s.devices
  rw [hr, hc] at hreplies
  have hmentions := (hreplies.intent intent hi).mentions_confirm hd
  simpa [Text.contains, Text.lowered, confirmation, Utterance.mentions, Utterance.ofString] using hmentions

end Agent

/-! ## Stages and their notes -/

/-- What a chat notes before its reply is there. -/
inductive Asked (said : String) : List Note → Prop
  | alone : Asked said []
  | helped (history : List Turn) : Asked said [.recalled history, .consulted said history]

/-- What carrying out an intent notes. -/
inductive Enacted (intent : Intent) : List Note → Prop
  | now : Enacted intent []
  | later (action : PowerAction) (h : Action.ofIntent intent = .ok (.schedule action)) :
    Enacted intent [.scheduled action]

/-- What a request notes before it is answered. -/
inductive Agent.Handled (agent : Agent σ π) : Request → List Note → Response → Prop
  | said {said text : String} {asked : List Note} {outcome : Option Outcome} (ha : Asked said asked) :
    Handled agent (.chat said) (asked ++ [.logged said text]) (.chat .ok text outcome)
  | done {said text : String} {asked acts : List Note} {intent : Intent} {outcome : Outcome}
    (ha : Asked said asked) (hp : agent.Permits said intent) (he : Enacted intent acts) :
    Handled agent (.chat said) (asked ++ [.logged said text] ++ acts) (.chat .ok text (some outcome))
  | action {value : Json} {intent : Intent} {acts : List Note} {outcome : Outcome}
    (hi : Intent.ofJson? value = some intent) (he : Enacted intent acts) :
    Handled agent (.action value) acts (.action .ok outcome)
  | invalid {value : Json} (hi : Intent.ofJson? value = none) :
    Handled agent (.action value) [] Agent.invalidAction
  | status (report : StatusReport) : Handled agent .status [.reported report] (.status report)
  | clear : Handled agent .clear [.cleared] (.ack .ok)

/-- What a request has noted when it is at a stage. -/
def Agent.Course (agent : Agent σ π) (request : Request) (notes : List Note) : Stage → Prop
  | .arrived r => r = request ∧ notes = []
  | .consulting said history =>
    request = .chat said ∧ notes = [.recalled history] ∧ agent.provider.isSome = true
  | .awaiting said _ _ | .interpreting said => request = .chat said ∧ Asked said notes
  | .replied said reply remote => request = .chat said ∧ Asked said notes ∧
    (remote = false → ∀ intent, reply.intent = some intent → agent.Permits said intent)
  | .acting none intent => ∃ value, request = .action value ∧ Intent.ofJson? value = some intent ∧ notes = []
  | .acting (some text) intent => ∃ said asked, request = .chat said ∧ Asked said asked ∧
    notes = asked ++ [.logged said text] ∧ agent.Permits said intent
  | .reporting _ => request = .status ∧ notes = []
  | .finished response => agent.Handled request notes response

/-- Only a power action is put off, and that when the system has a thread to spare. -/
lemma Action.scheduled_perform (backend : Backend σ) (delay : Nat) (spare : Bool) (s : σ) (action : Action) :
    (action.perform backend delay spare s).scheduled =
      match action with
      | .schedule power => if spare then some power else none
      | _ => none := by
  have hreport : ∀ s c failure success, (Action.report backend s c failure success).scheduled = none := by
    intro s c failure success
    unfold Action.report
    split <;> rfl
  have hinform : ∀ topic, (Action.inform backend s topic).scheduled = none := by
    intro topic
    unfold Action.inform
    split
    case h_5 =>
      split
      · exact hreport _ _ _ _
      · rfl
    all_goals exact hreport _ _ _ _
  cases action with
  | schedule power => cases spare <;> rfl
  | info topic => exact hinform topic
  | _ => exact hreport _ _ _ _

lemma Intent.enacted_execute (backend : Backend σ) (delay : Nat) (spare : Bool) (s : σ) (intent : Intent) :
    Enacted intent ((intent.execute backend delay spare s).scheduled.toList.map .scheduled) := by
  unfold Intent.execute
  cases ha : Action.ofIntent intent with
  | error refusal => exact .now
  | ok action =>
    dsimp only
    rw [Action.scheduled_perform]
    cases action with
    | schedule power =>
      cases spare with
      | true => exact .later power ha
      | false => exact .now
    | _ => exact .now

namespace Agent

/-- Each stage takes a request further on its course. -/
theorem course_advance (agent : Agent σ π) (s : Agent.State σ π) {request : Request} {notes : List Note}
    {stage : Stage} (h : agent.Course request notes stage) :
    agent.Course request (notes ++ agent.notes s stage) (agent.advance s stage).1 := by
  cases stage with
  | arrived r =>
    obtain ⟨rfl, rfl⟩ := h
    cases r with
    | chat said =>
      simp only [Agent.notes, advance, start]
      by_cases hp : agent.provider.isSome
      · rw [if_pos hp, if_pos hp]
        exact ⟨rfl, rfl, hp⟩
      · rw [if_neg hp, if_neg hp]
        exact ⟨rfl, .alone⟩
    | action value =>
      simp only [Agent.notes, advance, start]
      cases hi : Intent.ofJson? value with
      | some intent => exact ⟨value, rfl, hi, rfl⟩
      | none => exact .invalid hi
    | status => exact ⟨rfl, rfl⟩
    | clear => exact .clear
  | consulting said history =>
    obtain ⟨rfl, rfl, hp⟩ := h
    obtain ⟨provider, hprovider⟩ := Option.isSome_iff_exists.mp hp
    simp only [Agent.notes, advance, consult, hprovider]
    exact ⟨rfl, .helped history⟩
  | awaiting said completion wait =>
    obtain ⟨rfl, ha⟩ := h
    simp only [Agent.notes, advance, List.append_nil]
    cases completion with
    | ok text => exact ⟨rfl, ha, by simp⟩
    | error e => exact ⟨rfl, ha⟩
  | interpreting said =>
    obtain ⟨rfl, ha⟩ := h
    simp only [Agent.notes, advance, List.append_nil]
    exact ⟨rfl, ha, fun _ intent hi => agent.permits_interpret s said rfl hi⟩
  | replied said reply remote =>
    obtain ⟨rfl, ha, hl⟩ := h
    simp only [Agent.notes, advance, log]
    cases hi : reply.intent with
    | none => exact .said ha
    | some intent =>
      dsimp only
      by_cases hr : remote && agent.isHeld intent said
      · rw [if_pos hr]
        exact .said ha
      · rw [if_neg hr]
        refine ⟨said, notes, rfl, ha, rfl, ?_⟩
        -- What the interpreter replied was permitted when it was asked; the provider's reply is held back here.
        cases remote with
        | false => exact hl rfl intent hi
        | true => exact permits_of_not_isHeld (by simpa using hr)
  | acting response intent =>
    have he : Enacted intent (agent.notes s (.acting response intent)) := intent.enacted_execute _ _ _ _
    cases response with
    | none =>
      obtain ⟨value, rfl, hi, rfl⟩ := h
      exact .action hi he
    | some text =>
      obtain ⟨said, asked, rfl, ha, rfl, hp⟩ := h
      exact .done ha hp he
  | reporting system =>
    obtain ⟨rfl, rfl⟩ := h
    exact .status _
  | finished response =>
    simp only [Agent.notes, advance, List.append_nil]
    exact h

lemma Course.elapse {agent : Agent σ π} {request : Request} {notes : List Note} {stage : Stage}
    (h : agent.Course request notes stage) (ms : Nat) : agent.Course request notes (stage.elapse ms) := by
  cases stage <;> exact h

end Agent

/-! ## Handlings -/

/-- The handling of one request: its notes and the response, if it has one yet. -/
structure Handling where
  request : Request
  notes : List Note
  response : Option Response

/-- All that is noted for a handling. -/
def Handling.transcript (h : Handling) : List Note :=
  .taken h.request :: h.notes ++ h.response.toList.map .answered

/-- The words of a chat. -/
def Request.said? : Request → Option String
  | .chat said => some said
  | _ => none

lemma Request.eq_chat_of_said? {request : Request} {said : String} (h : request.said? = some said) :
    request = .chat said := by
  cases request with
  | chat text => exact congrArg Request.chat (Option.some.inj h)
  | _ => simp [said?] at h

/-- What is found neither in taking a request nor in answering it is found in between. -/
lemma Handling.filterMap_transcript {β : Type} {find : Note → Option β} (ht : ∀ request, find (.taken request) = none)
    (ha : ∀ response, find (.answered response) = none) (h : Handling) :
    h.transcript.filterMap find = h.notes.filterMap find := by
  unfold Handling.transcript
  cases h.response <;> simp [ht, ha]

/-- A handling that takes the course of its request. -/
def Agent.Allows (agent : Agent σ π) (h : Handling) : Prop :=
  match h.response with
  | some response => agent.Handled h.request h.notes response
  | none => ∃ stage, agent.Course h.request h.notes stage

/-- What is noted on a connection in a phase: handlings with a response, and the one that it is at. -/
def Agent.Tells (agent : Agent σ π) (notes : List Note) (phase : Phase) : Prop :=
  ∃ done : List Handling, (∀ h ∈ done, agent.Allows h ∧ h.response.isSome = true) ∧
    match phase with
    | .serving request stage => ∃ now, agent.Course request now stage ∧
        notes = done.flatMap Handling.transcript ++ .taken request :: now
    | _ => notes = done.flatMap Handling.transcript

namespace Connection

lemma phase_heed (limit : Nat) (stopping : Bool) (c : Connection) :
    (c.heed limit stopping).phase = if stopping then .closed else .polling := by
  cases stopping <;> rfl

lemma phase_listen (limit : Nat) (c : Connection) :
    (c.listen limit).phase = .waiting ∨ (c.listen limit).phase = .closed ∨
      ∃ request, (c.listen limit).phase = .serving request (.arrived request) := by
  unfold Connection.listen
  by_cases ht : c.isSettled limit
  · rw [if_pos ht]
    obtain ⟨payload, rest, request, -, -, hc⟩ | ⟨-, hc⟩ := c.take_cases limit
    · exact Or.inr (Or.inr ⟨request, by rw [hc]⟩)
    · exact Or.inr (Or.inl (by rw [hc]))
  · rw [if_neg ht]
    exact Or.inl rfl

lemma phase_write (limit : Nat) (c : Connection) (r : Response) :
    (c.write limit r).phase = .checking ∨ (c.write limit r).phase = .closed := by
  unfold Connection.write
  split
  · exact Or.inl rfl
  · exact Or.inr rfl

end Connection

namespace Agent

lemma tells_opened (agent : Agent σ π) : agent.Tells [] Connection.opened.phase := ⟨[], by simp, rfl⟩

/-- The request that a connection is at is answered, or goes on along its course. -/
lemma Course.serve {agent : Agent σ π} {request : Request} {now : List Note} {stage : Stage} {c : Connection}
    (h : agent.Course request now stage) (hp : c.phase = .serving request stage) (stopping : Bool)
    (s : Agent.State σ π) :
    (∃ response, agent.Handled request now response ∧ c.notes agent s = [.answered response] ∧
      ((c.advance agent stopping s).1.phase = .checking ∨ (c.advance agent stopping s).1.phase = .closed)) ∨
    ∃ next, (c.advance agent stopping s).1.phase = .serving request next ∧
      agent.Course request (now ++ c.notes agent s) next := by
  by_cases hf : ∃ response, stage = .finished response
  · left
    obtain ⟨response, rfl⟩ := hf
    obtain ⟨ha, hn⟩ := c.advance_finished agent stopping hp s
    rw [ha]
    exact ⟨response, h, hn, c.phase_write agent.policy.messageLimit response⟩
  · right
    obtain ⟨-, ha, hn⟩ | ⟨-, ha, hn⟩ := c.advance_serving agent stopping hp (not_exists.mp hf) s
    · rw [ha, hn, List.append_nil]
      exact ⟨stage, hp, h⟩
    · rw [ha, hn]
      exact ⟨(agent.advance s stage).1, rfl, agent.course_advance s h⟩

/-- The steps of a connection tell of its handlings in their order. -/
lemma Tells.advance {agent : Agent σ π} {notes : List Note} {c : Connection} (h : agent.Tells notes c.phase)
    (stopping : Bool) (s : Agent.State σ π) :
    agent.Tells (notes ++ c.notes agent s) (c.advance agent stopping s).1.phase := by
  obtain ⟨done, hd, hn⟩ := h
  cases hp : c.phase with
  | checking =>
    rw [hp] at hn
    refine ⟨done, hd, ?_⟩
    cases stopping <;> simpa [Connection.notes, Connection.advance, hp] using hn
  | waiting =>
    rw [hp] at hn
    have hadvance : (c.advance agent stopping s).1.phase = if stopping then .closed else .polling := by
      simp only [Connection.advance, hp, Connection.phase_heed]
    refine ⟨done, hd, ?_⟩
    rw [hadvance]
    cases stopping <;> simpa [Connection.notes, hp] using hn
  | polling =>
    rw [hp] at hn
    have hadvance : (c.advance agent stopping s).1.phase = (c.listen agent.policy.messageLimit).phase := by
      simp only [Connection.advance, hp]
    refine ⟨done, hd, ?_⟩
    simp only [Connection.notes, hp, hadvance]
    obtain hl | hl | ⟨request, hl⟩ := c.phase_listen agent.policy.messageLimit
    · rw [hl]
      simpa [Phase.notes] using hn
    · rw [hl]
      simpa [Phase.notes] using hn
    · rw [hl, hn]
      exact ⟨[], ⟨rfl, rfl⟩, rfl⟩
  | closed =>
    rw [hp] at hn
    refine ⟨done, hd, ?_⟩
    simpa [Connection.notes, Connection.advance, hp] using hn
  | serving request stage =>
    rw [hp] at hn
    obtain ⟨now, hc, rfl⟩ := hn
    obtain ⟨response, hh, hn, hphase⟩ | ⟨next, hphase, hnext⟩ := hc.serve hp stopping s
    · have hdone : ∀ h ∈ done ++ [⟨request, now, some response⟩], agent.Allows h ∧ h.response.isSome = true := by
        intro h hmem
        obtain hmem | hmem := List.mem_append.mp hmem
        · exact hd h hmem
        · rw [List.mem_singleton.mp hmem]
          exact ⟨hh, rfl⟩
      refine ⟨done ++ [⟨request, now, some response⟩], hdone, ?_⟩
      rw [hn]
      obtain hphase | hphase := hphase
      · rw [hphase]
        simp [Handling.transcript]
      · rw [hphase]
        simp [Handling.transcript]
    · rw [hphase]
      refine ⟨done, hd, now ++ c.notes agent s, hnext, ?_⟩
      rw [List.append_assoc, List.cons_append]

lemma Tells.elapse {agent : Agent σ π} {notes : List Note} {c : Connection} (h : agent.Tells notes c.phase)
    (ms : Nat) : agent.Tells notes (c.elapse ms).phase := by
  obtain ⟨done, hd, hn⟩ := h
  refine ⟨done, hd, ?_⟩
  unfold Connection.elapse
  cases hp : c.phase with
  | serving request stage =>
    rw [hp] at hn
    obtain ⟨now, hc, hn⟩ := hn
    exact ⟨now, hc.elapse ms, hn⟩
  | _ =>
    rw [hp] at hn
    simpa [hp] using hn

end Agent

/-! ## What a handling takes and answers -/

lemma Asked.isInner {said : String} {notes : List Note} (h : Asked said notes) : ∀ note ∈ notes, note.IsInner := by
  cases h <;> simp [Note.IsInner, Note.request?, Note.response?]

lemma Enacted.isInner {intent : Intent} {notes : List Note} (h : Enacted intent notes) :
    ∀ note ∈ notes, note.IsInner := by
  cases h <;> simp [Note.IsInner, Note.request?, Note.response?]

namespace Agent

variable {agent : Agent σ π}

lemma Handled.isInner {request : Request} {notes : List Note} {response : Response}
    (h : agent.Handled request notes response) : ∀ note ∈ notes, note.IsInner := by
  have hlogged (said text : String) : ∀ note ∈ [Note.logged said text], note.IsInner := by
    simp [Note.IsInner, Note.request?, Note.response?]
  cases h with
  | said ha => exact List.forall_mem_append.mpr ⟨ha.isInner, hlogged _ _⟩
  | done ha hp he => exact List.forall_mem_append.mpr ⟨List.forall_mem_append.mpr ⟨ha.isInner, hlogged _ _⟩, he.isInner⟩
  | action hi he => exact he.isInner
  | _ => simp [Note.IsInner, Note.request?, Note.response?]

lemma Course.isInner {request : Request} {notes : List Note} {stage : Stage} (h : agent.Course request notes stage) :
    ∀ note ∈ notes, note.IsInner := by
  cases stage with
  | arrived r => simp [h.2]
  | consulting said history => simp [h.2.1, Note.IsInner, Note.request?, Note.response?]
  | awaiting said completion wait => exact h.2.isInner
  | interpreting said => exact h.2.isInner
  | replied said reply remote => exact h.2.1.isInner
  | acting response intent =>
    cases response with
    | none =>
      obtain ⟨value, -, -, rfl⟩ := h
      simp
    | some text =>
      obtain ⟨said, asked, -, ha, rfl, -⟩ := h
      refine List.forall_mem_append.mpr ⟨ha.isInner, ?_⟩
      simp [Note.IsInner, Note.request?, Note.response?]
  | reporting system => simp [h.2]
  | finished response => exact Handled.isInner h

lemma Allows.isInner {h : Handling} (ha : agent.Allows h) : ∀ note ∈ h.notes, note.IsInner := by
  unfold Allows at ha
  split at ha
  · exact ha.isInner
  · exact ha.choose_spec.isInner

lemma Allows.filterMap_transcript {h : Handling} (ha : agent.Allows h) :
    h.transcript.filterMap Note.request? = [h.request] ∧
      h.transcript.filterMap Note.response? = h.response.toList := by
  have hrequest : h.notes.filterMap Note.request? = [] :=
    List.filterMap_eq_nil_iff.mpr fun note hn => (ha.isInner note hn).1
  have hresponse : h.notes.filterMap Note.response? = [] :=
    List.filterMap_eq_nil_iff.mpr fun note hn => (ha.isInner note hn).2
  unfold Handling.transcript
  rw [List.cons_append, List.filterMap_cons, List.filterMap_cons, List.filterMap_append, List.filterMap_append,
    hrequest, hresponse]
  cases h.response <;> exact ⟨rfl, rfl⟩

lemma requests_transcripts {handlings : List Handling} (h : ∀ handling ∈ handlings, agent.Allows handling) :
    (handlings.flatMap Handling.transcript).filterMap Note.request? = handlings.map Handling.request := by
  induction handlings with
  | nil => rfl
  | cons first rest ih =>
    have hfirst := (h first List.mem_cons_self).filterMap_transcript.1
    have hrest := ih fun handling hh => h handling (List.mem_cons_of_mem _ hh)
    rw [List.flatMap_cons, List.filterMap_append, hfirst, hrest]
    rfl

/-- Two chats on a connection are two handlings. -/
lemma exists_two_chats {handlings : List Handling} (h : ∀ handling ∈ handlings, agent.Allows handling)
    {said said' : String}
    (hsaid : ((handlings.flatMap Handling.transcript).filterMap Note.request?).map Request.said? =
      [some said, some said']) :
    ∃ first second, handlings = [first, second] ∧ first.request = .chat said ∧ second.request = .chat said' := by
  rw [requests_transcripts h, List.map_map] at hsaid
  obtain ⟨first, rest, rfl, hfirst, hrest⟩ := List.map_eq_cons_iff.mp hsaid
  obtain ⟨second, last, rfl, hsecond, hlast⟩ := List.map_eq_cons_iff.mp hrest
  obtain rfl := List.map_eq_nil_iff.mp hlast
  exact ⟨first, second, rfl, Request.eq_chat_of_said? hfirst, Request.eq_chat_of_said? hsecond⟩

lemma responses_transcripts {handlings : List Handling} (h : ∀ handling ∈ handlings, agent.Allows handling) :
    (handlings.flatMap Handling.transcript).filterMap Note.response? = handlings.filterMap Handling.response := by
  induction handlings with
  | nil => rfl
  | cons first rest ih =>
    have hfirst := (h first List.mem_cons_self).filterMap_transcript.2
    have hrest := ih fun handling hh => h handling (List.mem_cons_of_mem _ hh)
    rw [List.flatMap_cons, List.filterMap_append, hfirst, hrest]
    cases hr : first.response <;> simp [hr]

end Agent

/-! ## Runs -/

namespace Daemon

/-- What the journal tells of a connection, or that it is not there yet. -/
def Tells (agent : Agent σ π) (i : Nat) (d : Daemon σ π) (journal : List (Nat × Note)) : Prop :=
  match d.connections[i]? with
  | none => notesOn i journal = []
  | some c => agent.Tells (notesOn i journal) c.phase

/-- Only the serving of a connection adds to what is told of it. -/
lemma tells_step (agent : Agent σ π) (i : Nat) (d : Daemon σ π) (journal : List (Nat × Note))
    (event : DaemonEvent) (hd : d.Tells agent i journal) :
    (d.step agent event).Tells agent i (journal ++ d.notes agent event) := by
  unfold Daemon.Tells at *
  rw [notesOn_append, notesOn_notes]
  cases h : d.connections[i]? with
  | none =>
    rw [h] at hd
    dsimp only at hd
    rw [hd]
    obtain hn | ⟨-, hn⟩ := getElem?_step_none agent h event
    · rw [hn]
      rfl
    · rw [hn]
      exact agent.tells_opened
  | some c =>
    rw [h] at hd
    rw [getElem?_step agent h event]
    dsimp only at hd ⊢
    obtain ⟨hmeet, hnoted⟩ | ⟨⟨ms, hmeet⟩, hnoted⟩ := c.meet_cases agent d.isStopping d.state i event
    · rw [hmeet, Option.map_some, Option.getD_some, hnoted]
      exact hd.advance d.isStopping d.state
    · rw [hmeet, Option.map_some, Option.getD_some, hnoted, List.append_nil]
      exact hd.elapse ms

lemma tells_run (agent : Agent σ π) (s : Agent.State σ π) (events : List DaemonEvent) (i : Nat) :
    ((started s).run agent events).Tells agent i ((started s).journal agent events) := by
  have hfirst : (started s).Tells agent i [] := rfl
  have hrun : ((started s).run agent events).Tells agent i ([] ++ (started s).journal agent events) :=
    run_induction agent (fun d journal event => tells_step agent i d journal event) hfirst events
  rwa [List.nil_append] at hrun

/-- Whatever happens, the notes of a connection are the transcripts of its requests, one after another. All but the last
are answered, and so is the last when the connection is closed. -/
theorem handlings_of_run (agent : Agent σ π) (s : Agent.State σ π) (events : List DaemonEvent) (i : Nat) :
    ∃ handlings : List Handling,
      notesOn i ((started s).journal agent events) = handlings.flatMap Handling.transcript ∧
      (∀ h ∈ handlings, agent.Allows h) ∧ (∀ h ∈ handlings.dropLast, h.response.isSome = true) ∧
      ∀ c, ((started s).run agent events).connections[i]? = some c → c.isClosed = true →
        ∀ h ∈ handlings, h.response.isSome = true := by
  have htells := tells_run agent s events i
  unfold Daemon.Tells at htells
  cases hc : ((started s).run agent events).connections[i]? with
  | none =>
    rw [hc] at htells
    exact ⟨[], htells, by simp, by simp, by simp⟩
  | some c =>
    rw [hc] at htells
    obtain ⟨done, hd, hn⟩ := htells
    cases hp : c.phase with
    | serving request stage =>
      rw [hp] at hn
      obtain ⟨now, hcourse, hn⟩ := hn
      refine ⟨done ++ [⟨request, now, none⟩], ?_, ?_, ?_, ?_⟩
      · rw [hn]
        simp [Handling.transcript]
      · intro h hh
        obtain hh | hh := List.mem_append.mp hh
        · exact (hd h hh).1
        · rw [List.mem_singleton.mp hh]
          exact ⟨_, hcourse⟩
      · rw [List.dropLast_concat]
        exact fun h hh => (hd h hh).2
      · intro last hlast hclosed
        rw [← Option.some.inj hlast, Connection.isClosed, hp] at hclosed
        exact Bool.noConfusion hclosed
    | _ =>
      rw [hp] at hn
      have hdone : ∀ h ∈ done.dropLast, h.response.isSome = true :=
        fun h hh => (hd h (List.dropLast_subset done hh)).2
      exact ⟨done, hn, fun h hh => (hd h hh).1, hdone, fun _ _ _ h hh => (hd h hh).2⟩

end Daemon

end DeviceAgent
