import DeviceAgent.Conversation.Basic
import Mathlib.Data.List.DropRight
import Mathlib.Tactic.Lemma

/-!
# What the log holds

A bounded log told from all the turns that were pushed onto it: how many it holds, which ones, and in which order.
Turns of the system stay as long as they leave room for one more; of the others the latest stay.
-/

namespace DeviceAgent

def Turn.isSystem (t : Turn) : Bool := t.role == .system

namespace Conversation

def systemTurns (turns : List Turn) : List Turn := turns.filter (·.isSystem)

def otherTurns (turns : List Turn) : List Turn := turns.filter (! ·.isSystem)

/-- Turns give way one at a time, until there is room for one more. -/
inductive Yields (capacity : Nat) : List Turn → List Turn → Prop
  | enough {turns : List Turn} (h : turns.length < capacity) : Yields capacity turns turns
  | evict {turns rest : List Turn} (h : capacity ≤ turns.length) (hr : Yields capacity (evictOne turns) rest) :
    Yields capacity turns rest

/-! ## Turns that give way -/

lemma evictOne_of_other {t : Turn} (h : t.isSystem = false) (turns : List Turn) : evictOne (t :: turns) = turns := by
  have ht : (t.role != .system) = true := by simpa [Turn.isSystem] using h
  simp [evictOne, List.findIdx?_cons, ht]

lemma evictOne_of_system {t : Turn} (h : t.isSystem = true) (turns : List Turn) :
    evictOne (t :: turns) = if (otherTurns turns).isEmpty then turns else t :: evictOne turns := by
  have ht : (t.role != .system) = false := by simpa [Turn.isSystem] using h
  have hnone : (turns.findIdx? fun t => t.role != .system) = none ↔ otherTurns turns = [] := by
    simp [otherTurns, Turn.isSystem, List.findIdx?_eq_none_iff, List.filter_eq_nil_iff]
  cases hi : turns.findIdx? fun t => t.role != .system with
  | none => simp [evictOne, List.findIdx?_cons, ht, hi, hnone.mp hi]
  | some i =>
    have hsome : otherTurns turns ≠ [] := fun hothers => by simp [hnone.mpr hothers] at hi
    simp [evictOne, List.findIdx?_cons, ht, hi, hsome]

lemma length_evictOne (turns : List Turn) : (evictOne turns).length = turns.length - 1 := by
  induction turns with
  | nil => rfl
  | cons t turns ih =>
    cases ht : t.isSystem with
    | false => simp [evictOne_of_other ht]
    | true =>
      rw [evictOne_of_system ht]
      split
      · simp
      · next hothers =>
        have hpos : 0 < turns.length := by
          rw [List.length_pos_iff]
          rintro rfl
          exact hothers rfl
        rw [List.length_cons, List.length_cons, ih]
        omega

lemma evictOne_sublist (turns : List Turn) : (evictOne turns).Sublist turns := by
  unfold evictOne
  split
  · exact List.eraseIdx_sublist _ _
  · exact List.drop_sublist _ _

/-- As long as there is another turn, none of the system gives way, and the first of the others does. -/
lemma evictOne_filter {turns : List Turn} (h : 0 < (otherTurns turns).length) :
    systemTurns (evictOne turns) = systemTurns turns ∧ otherTurns (evictOne turns) = (otherTurns turns).drop 1 := by
  induction turns with
  | nil => simp [otherTurns] at h
  | cons t turns ih =>
    cases ht : t.isSystem with
    | false => simp [evictOne_of_other ht, systemTurns, otherTurns, ht]
    | true =>
      have hothers : otherTurns (t :: turns) = otherTurns turns := by simp [otherTurns, ht]
      rw [hothers] at h ⊢
      have hsome : (otherTurns turns).isEmpty = false := by
        rw [List.isEmpty_eq_false_iff]
        exact List.ne_nil_of_length_pos h
      obtain ⟨hs, ho⟩ := ih h
      rw [evictOne_of_system ht, hsome]
      constructor
      · simpa [systemTurns, ht] using hs
      · simpa [otherTurns, ht] using ho

lemma length_evict (n : Nat) (turns : List Turn) : (evict n turns).length = turns.length - n := by
  induction n generalizing turns with
  | zero => rfl
  | succ n ih =>
    rw [evict, ih, length_evictOne]
    omega

lemma evict_sublist (n : Nat) (turns : List Turn) : (evict n turns).Sublist turns := by
  induction n generalizing turns with
  | zero => exact List.Sublist.refl turns
  | succ n ih => exact (ih (evictOne turns)).trans (evictOne_sublist turns)

lemma evict_filter {n : Nat} {turns : List Turn} (h : n ≤ (otherTurns turns).length) :
    systemTurns (evict n turns) = systemTurns turns ∧ otherTurns (evict n turns) = (otherTurns turns).drop n := by
  induction n generalizing turns with
  | zero => exact ⟨rfl, rfl⟩
  | succ n ih =>
    have hpos : 0 < (otherTurns turns).length := by omega
    obtain ⟨hs, ho⟩ := evictOne_filter hpos
    have hleft : n ≤ (otherTurns (evictOne turns)).length := by
      rw [ho, List.length_drop]
      omega
    obtain ⟨hsystem, hothers⟩ := ih hleft
    rw [evict, hsystem, hothers, ho, List.drop_drop, Nat.add_comm]
    exact ⟨hs, rfl⟩

lemma yields_evict {capacity n : Nat} {turns : List Turn} (hc : 1 ≤ capacity)
    (h : turns.length + 1 - capacity = n) : Yields capacity turns (evict n turns) := by
  induction n generalizing turns with
  | zero => exact .enough (by omega)
  | succ n ih =>
    have hone := length_evictOne turns
    exact .evict (by omega) (ih (by omega))

lemma yields_makeRoom {capacity : Nat} (hc : 1 ≤ capacity) (turns : List Turn) :
    Yields capacity turns (makeRoom capacity turns) :=
  yields_evict hc rfl

lemma length_filters (turns : List Turn) : (systemTurns turns).length + (otherTurns turns).length = turns.length := by
  exact (List.length_eq_length_filter_add Turn.isSystem).symm

/-! ## One turn more -/

/-- What a log of at most `capacity` turns holds of the turns that were pushed. -/
structure Holds (capacity : Nat) (pushed turns : List Turn) : Prop where
  length : turns.length = min capacity pushed.length
  sublist : turns.Sublist pushed
  last : turns.getLast? = pushed.getLast?
  system : (systemTurns pushed).length < capacity → systemTurns turns = systemTurns pushed
  others : (systemTurns pushed).length < capacity → otherTurns turns <:+ otherTurns pushed

lemma holds_nil (capacity : Nat) : Holds capacity [] [] := by
  constructor <;> simp

lemma Holds.push {capacity : Nat} {pushed turns : List Turn} (hc : 1 ≤ capacity) (h : Holds capacity pushed turns)
    (t : Turn) : Holds capacity (pushed ++ [t]) (makeRoom capacity turns ++ [t]) := by
  have hlength := h.length
  -- While the system leaves room, the turn that gives way, if one has to, is one of the others.
  have hroom (hs : (systemTurns pushed).length < capacity) :
      turns.length + 1 - capacity ≤ (otherTurns turns).length := by
    have hall := length_filters turns
    rw [h.system hs] at hall
    omega
  have hfewer (hs : (systemTurns (pushed ++ [t])).length < capacity) : (systemTurns pushed).length < capacity := by
    rw [systemTurns, List.filter_append, List.length_append] at hs
    unfold systemTurns
    omega
  constructor
  · rw [List.length_append, List.length_append, makeRoom, length_evict, List.length_singleton]
    omega
  · exact ((evict_sublist _ turns).trans h.sublist).append (List.Sublist.refl [t])
  · rw [List.getLast?_concat, List.getLast?_concat]
  · intro hs
    obtain ⟨hsystem, -⟩ := evict_filter (hroom (hfewer hs))
    have hkept : systemTurns (makeRoom capacity turns) = systemTurns pushed := hsystem.trans (h.system (hfewer hs))
    unfold systemTurns at hkept ⊢
    rw [List.filter_append, List.filter_append, hkept]
  · intro hs
    obtain ⟨-, hothers⟩ := evict_filter (hroom (hfewer hs))
    have hkept : otherTurns (makeRoom capacity turns) <:+ otherTurns pushed := by
      rw [makeRoom, hothers]
      exact (List.drop_suffix _ _).trans (h.others (hfewer hs))
    obtain ⟨gone, hgone⟩ := hkept
    refine ⟨gone, ?_⟩
    unfold otherTurns at hgone ⊢
    rw [List.filter_append, List.filter_append, ← List.append_assoc, hgone]

end Conversation

/-! ## Every sequence of operations -/

inductive LogOperation where
  | push (turn : Turn)
  | exchange (said reply : String)
  | clear

namespace LogOperation

def apply (log : Conversation) : LogOperation → Conversation
  | .push turn => log.push turn
  | .exchange said reply => log.appendExchange said reply
  | .clear => log.clear

/-- The turns pushed since the latest clear. -/
def pushed (turns : List Turn) : LogOperation → List Turn
  | .push turn => turns ++ [turn]
  | .exchange said reply => turns ++ [.user said] ++ [.assistant reply]
  | .clear => []

lemma capacity_apply (log : Conversation) (op : LogOperation) : (op.apply log).capacity = log.capacity := by
  cases op <;> rfl

lemma holds_apply {log : Conversation} (hc : 1 ≤ log.capacity) {turns : List Turn}
    (h : Conversation.Holds log.capacity turns log.turns) (op : LogOperation) :
    Conversation.Holds log.capacity (op.pushed turns) (op.apply log).turns := by
  cases op with
  | push turn => exact h.push hc turn
  | exchange said reply => exact (h.push hc (.user said)).push hc (.assistant reply)
  | clear => exact Conversation.holds_nil log.capacity

lemma holds_run {log : Conversation} (hc : 1 ≤ log.capacity) {turns : List Turn}
    (h : Conversation.Holds log.capacity turns log.turns) (ops : List LogOperation) :
    (ops.foldl apply log).capacity = log.capacity ∧
      Conversation.Holds log.capacity (ops.foldl pushed turns) (ops.foldl apply log).turns := by
  induction ops generalizing log turns with
  | nil => exact ⟨rfl, h⟩
  | cons op ops ih =>
    have hcapacity := capacity_apply log op
    have hnext := holds_apply hc h op
    rw [← hcapacity] at hc hnext
    obtain ⟨hsame, hrest⟩ := ih hc hnext
    exact ⟨hsame.trans hcapacity, hcapacity ▸ hrest⟩

end LogOperation

namespace Conversation

/-- After any operations, the log holds as many of the turns pushed since the latest clear as it can, in their order and
with the latest one; and as long as the system has pushed fewer turns than there is room for, these are all of the
system's and the latest of the others. Room for a further turn is always found. -/
theorem log_contents (capacity : Nat) (ops : List LogOperation) :
    let room := max capacity 1
    let log := ops.foldl LogOperation.apply (.empty capacity)
    let pushed := ops.foldl LogOperation.pushed []
    let system := systemTurns pushed
    let others := otherTurns pushed
    log.turns.length = min room pushed.length ∧ log.turns.Sublist pushed ∧ log.turns.getLast? = pushed.getLast? ∧
    (system.length < room → systemTurns log.turns = system ∧
      otherTurns log.turns = others.rtake (min others.length (room - system.length))) ∧
    ∀ turn, ∃ rest, Yields room log.turns rest ∧ (log.push turn).turns = rest ++ [turn] := by
  intro room log pushed system others
  have hroom : 1 ≤ (empty capacity).capacity := Nat.le_max_right capacity 1
  obtain ⟨hcapacity, hholds⟩ := LogOperation.holds_run hroom (holds_nil room) ops
  refine ⟨hholds.length, hholds.sublist, hholds.last, ?_, ?_⟩
  · intro hs
    have hsystem : systemTurns log.turns = system := hholds.system hs
    have hsuffix : otherTurns log.turns <:+ others := hholds.others hs
    have hlength : log.turns.length = min room pushed.length := hholds.length
    -- How many of the others there are follows from the length of the log.
    have hheld := length_filters log.turns
    have hall : system.length + others.length = pushed.length := length_filters pushed
    rw [hsystem] at hheld
    have hcount : (otherTurns log.turns).length = min others.length (room - system.length) := by omega
    refine ⟨hsystem, ?_⟩
    rw [List.rtake, ← hcount]
    exact List.suffix_iff_eq_drop.mp hsuffix
  · intro turn
    refine ⟨makeRoom room log.turns, yields_makeRoom hroom log.turns, ?_⟩
    show makeRoom log.capacity log.turns ++ [turn] = _
    rw [hcapacity]
    rfl

/-- An exchange whose turns do not both fit behind those of the system. -/
theorem log_contents_crowded :
    let ops : List LogOperation := [.exchange "a" "b", .push ⟨.system, "s"⟩, .push ⟨.system, "t"⟩, .exchange "c" "d"]
    let log := ops.foldl LogOperation.apply (.empty 3)
    systemTurns log.turns = [⟨.system, "s"⟩, ⟨.system, "t"⟩] ∧ otherTurns log.turns = [.assistant "d"] := by
  obtain ⟨-, -, -, hcontents, -⟩ := log_contents 3
    [.exchange "a" "b", .push ⟨.system, "s"⟩, .push ⟨.system, "t"⟩, .exchange "c" "d"]
  exact hcontents (by decide)

end Conversation

end DeviceAgent
