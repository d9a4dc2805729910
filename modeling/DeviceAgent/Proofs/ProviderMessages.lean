import DeviceAgent.Proofs.SharedHistory
import DeviceAgent.Provider.Bodies

/-!
# What a provider is sent

The log is the end of a list of exchanges, so it starts with the user's turn or with an answer whose question gave way.
Without that answer, and with the new question behind it, the user and the assistant speak by turns.
-/

namespace DeviceAgent

variable {σ π : Type}

/-! ## Speaking by turns -/

namespace Turn

/-- The user and the assistant speak by turns, the user first. -/
def Alternate (turns : List Turn) : Prop :=
  ∀ i t, turns[i]? = some t → t.role = if i % 2 = 0 then .user else .assistant

lemma alternate_singleton (said : String) : Alternate [.user said] := by
  intro i t ht
  obtain ⟨rfl, rfl⟩ : i = 0 ∧ Turn.user said = t := by simpa [List.getElem?_singleton] using ht
  rfl

lemma Alternate.exchange {turns : List Turn} (h : Alternate turns) (said reply : String) :
    Alternate (.user said :: .assistant reply :: turns) := by
  intro i t ht
  match i with
  | 0 =>
    obtain rfl : Turn.user said = t := by simpa using ht
    rfl
  | 1 =>
    obtain rfl : Turn.assistant reply = t := by simpa using ht
    rfl
  | i + 2 =>
    have hrole := h i t (by simpa using ht)
    rw [hrole, Nat.add_mod_right]

/-- So say the roles of the messages that are made of them. -/
lemma Alternate.roles {turns : List Turn} (h : Alternate turns) (i : Nat) (m : Json)
    (hm : (turns.map message)[i]? = some m) :
    m.field? "role" = some (.string (if i % 2 = 0 then "user" else "assistant")) := by
  rw [List.getElem?_map] at hm
  obtain ⟨t, ht, rfl⟩ := Option.map_eq_some_iff.mp hm
  have hrole : (message t).field? "role" = some (.string t.role.name) := rfl
  rw [hrole, h i t ht]
  split <;> rfl

end Turn

namespace Note

def consultation? : Note → Option (String × List Turn)
  | .consulted said history => some (said, history)
  | _ => none

lemma spoken_cons (exchange : String × String) (exchanges : List (String × String)) :
    spoken (exchange :: exchanges) = .user exchange.1 :: .assistant exchange.2 :: spoken exchanges := rfl

/-- Exchanges and a new question. -/
lemma alternate_spoken (exchanges : List (String × String)) (said : String) :
    Turn.Alternate (spoken exchanges ++ [.user said]) := by
  induction exchanges with
  | nil => exact Turn.alternate_singleton said
  | cons exchange exchanges ih =>
    rw [spoken_cons]
    exact ih.exchange exchange.1 exchange.2

/-- Without its oldest turns, a list of exchanges is one of fewer exchanges, or lacks the question of its first. -/
lemma drop_spoken (n : Nat) (exchanges : List (String × String)) :
    ∃ kept, (spoken exchanges).drop n = spoken kept ∨
      ∃ reply, (spoken exchanges).drop n = .assistant reply :: spoken kept := by
  induction exchanges generalizing n with
  | nil => exact ⟨[], .inl (by simp [spoken])⟩
  | cons exchange exchanges ih =>
    obtain _ | _ | n := n
    · exact ⟨exchange :: exchanges, .inl rfl⟩
    · exact ⟨exchanges, .inr ⟨exchange.2, rfl⟩⟩
    · exact ih n

end Note

/-! ## Bodies -/

lemma opening_spoken (exchanges : List (String × String)) :
    opening (Note.spoken exchanges) = Note.spoken exchanges := by
  have hkept : (Note.spoken exchanges).filter (·.role != .system) = Note.spoken exchanges := by
    rw [List.filter_eq_self]
    intro t ht
    simpa using Note.role_of_mem_spoken ht
  rw [opening, hkept]
  cases exchanges with
  | nil => rfl
  | cons exchange exchanges => rfl

/-- The answer in front of the first question is left out. -/
lemma opening_cons_assistant (reply : String) (turns : List Turn) :
    opening (.assistant reply :: turns) = opening turns := by
  simp [opening, Turn.assistant]

lemma messages_anthropicBody (model : String) (maxTokens : Nat) (history : List Turn) (said : String) :
    (anthropicBody model maxTokens history said).field? "messages" =
      some (.array ((opening history ++ [Turn.user said]).map Turn.message)) := by
  rw [List.map_append]
  rfl

lemma messages_openaiBody (model : String) (maxTokens : Nat) (history : List Turn) (said : String) :
    (openaiBody model maxTokens history said).field? "messages" =
      some (.array (message "system" systemPrompt :: (history ++ [Turn.user said]).map Turn.message)) := by
  rw [List.map_append]
  rfl

/-! ## What a daemon remembers -/

namespace Daemon

/-- The log is a list of exchanges, the question of the first of which may be gone. -/
lemma exists_spoken (agent : Agent σ π) (s : Agent.State σ π) (capacity : Nat) (events : List DaemonEvent) :
    let history := ((started { s with conversation := .empty capacity }).run agent events).state.conversation.turns
    ∃ kept, history = Note.spoken kept ∨ ∃ reply, history = .assistant reply :: Note.spoken kept := by
  intro history
  have hlog : history = Note.log _ _ := turns_run agent s capacity events
  rw [hlog, Note.log, List.rtake]
  exact Note.drop_spoken _ _

/-- The turns that a provider is given are the log of an earlier moment. -/
lemma consulted_of_mem_journal (agent : Agent σ π) (s : Agent.State σ π) (events : List DaemonEvent) {i : Nat}
    {said : String} {history : List Turn} (h : (i, .consulted said history) ∈ (started s).journal agent events) :
    ∃ past, past <+: events ∧ history = ((started s).run agent past).state.conversation.turns := by
  obtain ⟨handlings, hnotes, hallows, -⟩ := handlings_of_run agent s events i
  have hconsulted : .consulted said history ∈ notesOn i ((started s).journal agent events) := by
    unfold notesOn
    rw [List.mem_filterMap]
    exact ⟨_, h, if_pos rfl⟩
  rw [hnotes] at hconsulted
  obtain ⟨handling, hmem, hnote⟩ := List.mem_flatMap.mp hconsulted
  have hdone : .consulted said history ∈ handling.notes := by simpa [Handling.transcript] using hnote
  -- The provider is asked right behind the note of the turns that it gets.
  obtain ⟨-, hrecalled⟩ := (hallows handling hmem).converses.consulted said history hdone
  have hrecalled : .recalled history ∈ handling.notes := hrecalled.subset List.mem_cons_self
  have hearlier : .recalled history ∈ notesOn i ((started s).journal agent events) := by
    rw [hnotes, List.mem_flatMap]
    exact ⟨handling, hmem, by simpa [Handling.transcript] using hrecalled⟩
  unfold notesOn at hearlier
  obtain ⟨entry, hentry, hsome⟩ := List.mem_filterMap.mp hearlier
  obtain ⟨before, after, hjournal⟩ := List.append_of_mem hentry
  obtain ⟨past, event, future, rfl, -, hnoted⟩ := exists_of_journal_eq agent hjournal
  obtain ⟨-, hentry⟩ : entry.1 = i ∧ entry.2 = .recalled history := by simpa using hsome
  refine ⟨past, List.prefix_append past _, ?_⟩
  have htrue := notes_true agent ((started s).run agent past) event entry hnoted
  rw [hentry] at htrue
  exact htrue

/-- In every run of a daemon whose log is empty at first, a request with any new text has the log in it, turn by turn
and each with its text: behind the system prompt, or else without an answer in front whose question gave way, so that
the user and the assistant speak by turns, the user first and with the new text last. What the provider is given is the
log of a moment of the run. -/
theorem messages_alternate (agent : Agent σ π) (s : Agent.State σ π) (capacity : Nat) (events : List DaemonEvent) :
    let first := started { s with conversation := .empty capacity }
    let history := (first.run agent events).state.conversation.turns
    let written (t : Turn) : Json := .object [("content", .string t.content), ("role", .string t.role.name)]
    (∀ model maxTokens said, ∃ (kept : List Turn) (messages : List Json),
      (history = kept ∨ ∃ reply, history = .assistant reply :: kept) ∧
      (anthropicBody model maxTokens history said).field? "messages" = some (.array messages) ∧
      messages = (kept ++ [Turn.user said]).map written ∧
      (∀ (i : Nat) (m : Json), messages[i]? = some m →
        m.field? "role" = some (.string (if i % 2 = 0 then "user" else "assistant"))) ∧
      messages.getLast? = some (.object [("content", .string said), ("role", .string "user")]) ∧
      (openaiBody model maxTokens history said).field? "messages" =
        some (.array (.object [("content", .string systemPrompt), ("role", .string "system")] ::
          (history ++ [Turn.user said]).map written))) ∧
    ∀ i said given, (i, .consulted said given) ∈ first.journal agent events →
      ∃ past, past <+: events ∧ given = (first.run agent past).state.conversation.turns := by
  intro first history written
  have hwritten : Turn.message = written := rfl
  refine ⟨?_, fun i said given h => consulted_of_mem_journal agent _ events h⟩
  intro model maxTokens said
  obtain ⟨kept, hkept⟩ := exists_spoken agent s capacity events
  have hopening : opening history = Note.spoken kept := by
    obtain h | ⟨reply, h⟩ := hkept
    · rw [show history = _ from h, opening_spoken]
    · rw [show history = _ from h, opening_cons_assistant, opening_spoken]
  refine ⟨Note.spoken kept, _, hkept, ?_, rfl, ?_, ?_, ?_⟩
  · rw [messages_anthropicBody, hopening, hwritten]
  · rw [← hwritten]
    exact (Note.alternate_spoken kept said).roles
  · rw [List.map_append, List.map_singleton, List.getLast?_concat]
    rfl
  · rw [messages_openaiBody, hwritten]
    rfl

/-- Of two exchanges the first question gave way, and its answer is not sent. -/
theorem messages_alternate_orphan :
    ((started scripted).run scriptedAgent twoChats).state.conversation.turns =
        [.assistant "Hello.", .user "Well?", .assistant "Fine."] ∧
      (anthropicBody "m" 9 [.assistant "Hello.", .user "Well?", .assistant "Fine."] "Bye").field? "messages" =
        some (.array [.object [("content", .string "Well?"), ("role", .string "user")],
          .object [("content", .string "Fine."), ("role", .string "assistant")],
          .object [("content", .string "Bye"), ("role", .string "user")]]) ∧
    ∃ past, past <+: twoChats ∧
      [.user "Hi", .assistant "Hello."] = ((started scripted).run scriptedAgent past).state.conversation.turns := by
  have hturns : ((started scripted).run scriptedAgent twoChats).state.conversation.turns =
      [.assistant "Hello.", .user "Well?", .assistant "Fine."] := by
    decide +kernel
  have hconsulted : ((started scripted).journal scriptedAgent twoChats).filterMap
      (fun entry => entry.2.consultation?.map (entry.1, ·)) =
        [(0, "Hi", []), (0, "Well?", [.user "Hi", .assistant "Hello."])] := by
    decide +kernel
  have hmem : (0, .consulted "Well?" [.user "Hi", .assistant "Hello."]) ∈
      (started scripted).journal scriptedAgent twoChats := by
    have hentry : (0, "Well?", [Turn.user "Hi", .assistant "Hello."]) ∈
        ((started scripted).journal scriptedAgent twoChats).filterMap
          (fun entry => entry.2.consultation?.map (entry.1, ·)) := by
      rw [hconsulted]
      exact List.mem_cons_of_mem _ List.mem_cons_self
    obtain ⟨⟨i, note⟩, hnote, hsome⟩ := List.mem_filterMap.mp hentry
    cases note <;> simp_all [Note.consultation?]
  obtain ⟨hmessages, hgiven⟩ := messages_alternate scriptedAgent scripted 3 twoChats
  obtain ⟨kept, messages, hkept, hbody, rfl, hroles, -, -⟩ := hmessages "m" 9 "Bye"
  have hsame : started { scripted with conversation := .empty 3 } = started scripted := rfl
  rw [hsame, hturns] at hkept hbody
  have hrest : kept = [.user "Well?", .assistant "Fine."] := by
    obtain rfl | ⟨reply, h⟩ := hkept
    · -- The roles tell that the answer in front is left out.
      have hrole : some (Json.string "assistant") = some (.string "user") := hroles 0 _ rfl
      simp at hrole
    · exact (List.cons.inj h).2.symm
  rw [hrest] at hbody
  exact ⟨hturns, hbody, hgiven 0 "Well?" _ hmem⟩

end Daemon

end DeviceAgent
