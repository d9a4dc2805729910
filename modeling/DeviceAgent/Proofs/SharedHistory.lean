import DeviceAgent.Device.Virtual
import DeviceAgent.Proofs.Framing
import DeviceAgent.Proofs.Handling
import Mathlib.Data.List.DropRight
import Mathlib.Data.List.Induction

/-!
# The shared history

The log that all connections share, told by the journal: the last turns of the exchanges behind the latest
clear, whatever the interleaving of the requests.
-/

namespace DeviceAgent

variable {σ π : Type}

namespace Note

def exchange? : Note → Option (String × String)
  | .logged said reply => some (said, reply)
  | _ => none

def isClear : Note → Bool
  | .cleared => true
  | _ => false

/-- The exchanges behind the latest clear. -/
def recent (notes : List Note) : List (String × String) :=
  (notes.rtakeWhile (! ·.isClear)).filterMap exchange?

def spoken (exchanges : List (String × String)) : List Turn :=
  exchanges.flatMap fun exchange => [.user exchange.1, .assistant exchange.2]

end Note

/-! ## Turns that give way -/

namespace Conversation

/-- The log that holds the last of these turns. -/
def last (capacity : Nat) (turns : List Turn) : Conversation := ⟨capacity, turns.rtake capacity⟩

lemma rtake_rtake_append (n : Nat) (l m : List Turn) : (l.rtake n ++ m).rtake n = (l ++ m).rtake n := by
  simp only [List.rtake_eq_reverse_take_reverse, List.reverse_append, List.reverse_reverse, List.take_append,
    List.take_take]
  rw [Nat.min_eq_left (Nat.sub_le _ _)]

lemma evict_eq_drop (n : Nat) {turns : List Turn} (h : ∀ t ∈ turns, t.role ≠ .system) :
    evict n turns = turns.drop n := by
  induction n generalizing turns with
  | zero => rfl
  | succ n ih =>
    have hone : evictOne turns = turns.drop 1 := by
      cases turns with
      | nil => rfl
      | cons t rest =>
        have ht : t.role ≠ .system := h t List.mem_cons_self
        simp [evictOne, List.findIdx?_cons, ht]
    rw [evict, hone, ih fun t ht => h t (List.mem_of_mem_drop ht), List.drop_drop, Nat.add_comm]

/-- Without turns of the system, the oldest turns give way. -/
lemma makeRoom_append {capacity : Nat} (hc : 1 ≤ capacity) {turns : List Turn}
    (h : ∀ t ∈ turns, t.role ≠ .system) (t : Turn) :
    makeRoom capacity turns ++ [t] = (turns ++ [t]).rtake capacity := by
  have hle : turns.length + 1 - capacity ≤ turns.length := by omega
  rw [makeRoom, evict_eq_drop _ h, List.rtake, List.length_append, List.length_singleton,
    List.drop_append_of_le_length hle]

lemma push_last {capacity : Nat} (hc : 1 ≤ capacity) {turns : List Turn} (h : ∀ t ∈ turns, t.role ≠ .system)
    (t : Turn) : (last capacity turns).push t = last capacity (turns ++ [t]) := by
  have hr : ∀ t ∈ turns.rtake capacity, t.role ≠ .system := fun t ht => h t (List.mem_of_mem_drop ht)
  unfold last push
  rw [makeRoom_append hc hr, rtake_rtake_append]

lemma appendExchange_last {capacity : Nat} (hc : 1 ≤ capacity) {turns : List Turn}
    (h : ∀ t ∈ turns, t.role ≠ .system) (said reply : String) :
    (last capacity turns).appendExchange said reply =
      last capacity (turns ++ [Turn.user said, Turn.assistant reply]) := by
  have hu : ∀ t ∈ turns ++ [Turn.user said], t.role ≠ .system := by
    intro t ht
    obtain ht | ht := List.mem_append.mp ht
    · exact h t ht
    · rw [List.mem_singleton.mp ht]
      exact nofun
  rw [appendExchange, push_last hc h, push_last hc hu, List.append_assoc]
  rfl

end Conversation

namespace Note

lemma recent_concat (notes : List Note) (note : Note) :
    recent (notes ++ [note]) = if note.isClear then [] else recent notes ++ (exchange? note).toList := by
  unfold recent
  rw [List.rtakeWhile_concat]
  cases h : note.isClear with
  | true => simp
  | false => cases he : exchange? note <;> simp [he]

lemma role_of_mem_spoken {exchanges : List (String × String)} {t : Turn} (h : t ∈ spoken exchanges) :
    t.role ≠ .system := by
  obtain ⟨exchange, -, ht⟩ := List.mem_flatMap.mp h
  obtain rfl | rfl : t = .user exchange.1 ∨ t = .assistant exchange.2 := by simpa using ht
  · exact nofun
  · exact nofun

/-- A log that was empty at first holds the last turns of the recent exchanges. -/
theorem foldl_converse (capacity : Nat) (notes : List Note) :
    notes.foldl converse (.empty capacity) = .last (max capacity 1) (spoken (recent notes)) := by
  induction notes using List.reverseRecOn with
  | nil =>
    simp [Conversation.empty, Conversation.last, recent, spoken]
  | append_singleton notes note ih =>
    rw [List.foldl_append, ih, recent_concat]
    cases note with
    | logged said reply =>
      have hrole : ∀ t ∈ spoken (recent notes), t.role ≠ .system := fun _ => role_of_mem_spoken
      have happend := Conversation.appendExchange_last (Nat.le_max_right capacity 1) hrole said reply
      simpa [converse, exchange?, isClear, spoken] using happend
    | cleared => simp [converse, isClear, Conversation.clear, Conversation.last, spoken]
    | _ => simp [converse, exchange?, isClear]

end Note

/-! ## What is looked up and reported -/

/-- A note says no other turns than these. -/
def Note.IsTrue (turns : List Turn) : Note → Prop
  | .recalled history => history = turns
  | .reported report => report.historyLen = turns.length
  | _ => True

lemma Agent.notes_true (agent : Agent σ π) (s : Agent.State σ π) (stage : Stage) :
    ∀ note ∈ agent.notes s stage, note.IsTrue s.conversation.turns := by
  intro note hn
  obtain rfl | ⟨system, rfl⟩ | rfl | ⟨said, history, rfl⟩ | ⟨said, reply, rfl⟩ | ⟨action, rfl⟩ := mem_notes hn
  · rfl
  · rfl
  all_goals trivial

lemma Daemon.notes_true (agent : Agent σ π) (d : Daemon σ π) (event : DaemonEvent) :
    ∀ entry ∈ d.notes agent event, entry.2.IsTrue d.state.conversation.turns := by
  intro entry he
  obtain ⟨-, hn⟩ | ⟨-, -, hn⟩ | ⟨i, c, -, -, -, hn⟩ := d.state_step agent event
  · simp [hn] at he
  · simp [hn] at he
  · rw [hn] at he
    obtain ⟨note, hm, rfl⟩ := List.mem_map.mp he
    obtain ⟨-, h | ⟨r, h⟩ | ⟨r, h⟩⟩ | ⟨request, stage, -, h, -⟩ := c.advance_cases agent d.isStopping d.state
    · simp [h] at hm
    · rw [h] at hm
      rw [List.mem_singleton.mp hm]
      trivial
    · rw [h] at hm
      rw [List.mem_singleton.mp hm]
      trivial
    · rw [h] at hm
      exact agent.notes_true d.state stage note hm

/-! ## The exchanges of a request -/

/-- What a handling means for the conversation. -/
structure Handling.Converses (h : Handling) : Prop where
  /-- A chat is answered with the reply of its one exchange. -/
  answered : ∀ said response, h.request = .chat said → h.response = some response →
    ∃ text outcome, response = .chat .ok text outcome ∧ h.notes.filterMap Note.exchange? = [(said, text)]
  unanswered : ∀ said, h.request = .chat said → h.response = none →
    h.notes.filterMap Note.exchange? = [] ∨ ∃ text, h.notes.filterMap Note.exchange? = [(said, text)]
  other : (∀ said, h.request ≠ .chat said) → h.notes.filterMap Note.exchange? = []
  /-- The provider gets the turns that were looked up right before. -/
  consulted : ∀ said history, .consulted said history ∈ h.notes →
    h.request = .chat said ∧ [.recalled history, .consulted said history] <+: h.notes
  reported : ∀ report, h.response = some (.status report) → h.notes = [.reported report]
  cleared : .cleared ∈ h.notes → h.request = .clear
  forgotten : h.request = .clear → h.response.isSome = true → h.notes = [.cleared]

lemma Agent.Handled.converses {agent : Agent σ π} {request : Request} {notes : List Note} {response : Response}
    (h : agent.Handled request notes response) : (⟨request, notes, some response⟩ : Handling).Converses := by
  cases h with
  | said ha => cases ha <;> constructor <;> simp [Note.exchange?, List.filterMap_cons]
  | done ha hp he => cases ha <;> cases he <;> constructor <;> simp [Note.exchange?, List.filterMap_cons]
  | action hi he => cases he <;> constructor <;> simp [Note.exchange?, List.filterMap_cons]
  | invalid hi => constructor <;> simp [invalidAction, Response.failure]
  | status report => constructor <;> simp [Note.exchange?, List.filterMap_cons]
  | clear => constructor <;> simp [Note.exchange?, List.filterMap_cons]

lemma Handling.Converses.unanswer {request : Request} {notes : List Note} {response : Response}
    (h : (⟨request, notes, some response⟩ : Handling).Converses) :
    (⟨request, notes, none⟩ : Handling).Converses where
  answered := nofun
  unanswered := by
    intro said hr _
    obtain ⟨text, -, -, he⟩ := h.answered said response hr rfl
    exact Or.inr ⟨text, he⟩
  other := h.other
  consulted := h.consulted
  reported := nofun
  cleared := h.cleared
  forgotten := nofun

lemma Agent.Course.converses {agent : Agent σ π} {request : Request} {notes : List Note} {stage : Stage}
    (h : agent.Course request notes stage) : (⟨request, notes, none⟩ : Handling).Converses := by
  cases stage with
  | arrived r =>
    obtain ⟨rfl, rfl⟩ := h
    constructor <;> simp
  | consulting said history =>
    obtain ⟨rfl, rfl, -⟩ := h
    constructor <;> simp [Note.exchange?, List.filterMap_cons]
  | awaiting said completion wait =>
    obtain ⟨rfl, ha⟩ := h
    cases ha <;> constructor <;> simp [Note.exchange?, List.filterMap_cons]
  | interpreting said =>
    obtain ⟨rfl, ha⟩ := h
    cases ha <;> constructor <;> simp [Note.exchange?, List.filterMap_cons]
  | replied said reply remote =>
    obtain ⟨rfl, ha, -⟩ := h
    cases ha <;> constructor <;> simp [Note.exchange?, List.filterMap_cons]
  | acting response intent =>
    cases response with
    | none =>
      obtain ⟨value, rfl, -, rfl⟩ := h
      constructor <;> simp
    | some text =>
      obtain ⟨said, asked, rfl, ha, rfl, -⟩ := h
      cases ha <;> constructor <;> simp [Note.exchange?, List.filterMap_cons]
  | reporting system =>
    obtain ⟨rfl, rfl⟩ := h
    constructor <;> simp
  | finished response =>
    exact (Handled.converses h).unanswer

lemma Agent.Allows.converses {agent : Agent σ π} {h : Handling} (ha : agent.Allows h) : h.Converses := by
  obtain ⟨request, notes, response⟩ := h
  cases response with
  | some response => exact Handled.converses ha
  | none =>
    obtain ⟨stage, hc⟩ := ha
    exact Course.converses hc

/-! ## Every run -/

/-- The last turns of the exchanges behind the latest clear of a journal. -/
def Note.log (capacity : Nat) (journal : List (Nat × Note)) : List Turn :=
  (spoken (recent (journal.map Prod.snd))).rtake capacity

namespace Daemon

lemma turns_run (agent : Agent σ π) (s : Agent.State σ π) (capacity : Nat) (events : List DaemonEvent) :
    ((started { s with conversation := .empty capacity }).run agent events).state.conversation.turns =
      Note.log (Conversation.empty capacity).capacity
        ((started { s with conversation := .empty capacity }).journal agent events) := by
  have hrun := conversation_run agent (started { s with conversation := .empty capacity }) events
  have hfold := Note.foldl_converse capacity
    (((started { s with conversation := .empty capacity }).journal agent events).map Prod.snd)
  rw [hrun]
  exact congrArg Conversation.turns hfold

/-- An agent that asks a provider with a script. -/
def scriptedAgent : Agent VirtualMachine Script :=
  ⟨VirtualMachine.backend, some Script.provider, ⟨true, 1024, 30000, 5, "none"⟩⟩

/-- A provider that has two replies, and a log for three turns. -/
def scripted : Agent.State VirtualMachine Script :=
  ⟨.empty 3, .initial, ⟨[.ok "Hello.", .ok "Fine."], 0, []⟩, [],
    ⟨12, 0, 0, Fin.last 6, Fin.last 11, 28, 2025, 60⟩, true⟩

/-- The first client chats twice. -/
def twoChats : List DaemonEvent :=
  .accept :: ["Hi", "Well?"].flatMap fun said =>
    .receive 0 (Frame.wrap (Request.chat said).encode) :: List.replicate 8 (.advance 0)

end Daemon

end DeviceAgent
