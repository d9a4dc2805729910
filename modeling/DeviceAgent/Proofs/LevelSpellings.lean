import DeviceAgent.Proofs.CheckedIntents
import DeviceAgent.Proofs.LevelCommands

/-!
# How levels are spelled

A level is given as a number, or as a text that spells one: with a sign or none, with blanks around it, and with percent
signs behind it. What comes of it depends on the number only. A text of any other form does nothing.
-/

namespace DeviceAgent

variable {σ : Type}

/-! ## Texts -/

namespace Text

variable {cs : List Char} {m n : Int}

lemma Spells.unique (hm : Spells cs m) (hn : Spells cs n) : m = n := by
  -- A sign is no digit, so the sign of the text tells how it was written.
  cases hm with
  | plain _ hds =>
    cases hn with
    | plain => rfl
    | plus => exact absurd (hds '+' List.mem_cons_self) (by decide)
    | minus => exact absurd (hds '-' List.mem_cons_self) (by decide)
  | plus =>
    cases hn with
    | plain _ hds => exact absurd (hds '+' List.mem_cons_self) (by decide)
    | plus => rfl
  | minus =>
    cases hn with
    | plain _ hds => exact absurd (hds '-' List.mem_cons_self) (by decide)
    | minus => rfl

/-- A text spells one level at most. -/
lemma SpellsLevel.unique (hm : SpellsLevel cs m) (hn : SpellsLevel cs n) : m = n :=
  hm.trim_eq.unique hn.trim_eq

/-- A text that gives no level: it spells none, or one that does not fit a signed 64-bit word. -/
def Misspells (cs : List Char) : Prop :=
  (∀ n, ¬ SpellsLevel cs n) ∨ ∃ n, SpellsLevel cs n ∧ inInt64 n = false

end Text

lemma Action.level?_of_misspells {text : String} (h : Text.Misspells text.toList) : level? (.string text) = none := by
  rw [Option.eq_none_iff_forall_ne_some]
  intro n hn
  obtain ⟨hspells, hwithin⟩ := level?_string.mp hn
  obtain hnone | ⟨m, hm, hbeyond⟩ := h
  · exact hnone n hspells
  · rw [hspells.unique hm, hbeyond] at hwithin
    exact Bool.noConfusion hwithin

/-- A value that gives a whole number as a level: that number, or a text that spells it, within a signed 64-bit word. -/
inductive Json.GivesLevel : Json → Int → Prop where
  | number (n : Int) : GivesLevel (.ofInt n) n
  | text {text : String} {n : Int} (hs : Text.SpellsLevel text.toList n) (hn : Text.inInt64 n = true) :
      GivesLevel (.string text) n

lemma clampLevel_eq (n : Int) : (clampLevel n : Int) = max 0 (min 100 n) := by
  unfold clampLevel
  omega

lemma Json.GivesLevel.map_level? {v : Json} {n : Int} (h : v.GivesLevel n) :
    (Action.level? v).map clampLevel = some (clampLevel n) := by
  cases h with
  | number => exact congrArg some (clampLevel_saturate n)
  | text hs hn => rw [Action.level?_string.mpr ⟨hs, hn⟩, Option.map_some]

/-! ## Intents -/

/-- An intent for a knob, with this value for the level under the first of its two names that is there. -/
structure Intent.Sets (intent : Intent) (k : Knob) (v : Json) : Prop where
  name : intent.name = k.name
  level : intent.either? "level" "value" = some v

/-- One order for a level, and an outcome that says whether the devices took it. -/
structure Knob.Orders (k : Knob) (level : Nat) (backend : Backend σ) (s : σ) (x : Execution σ) : Prop where
  taken : ∀ next, k.write level backend s = (.ok (), next) →
    x = ⟨.ok (k.title ++ " set to " ++ toString level ++ "%"), next, none⟩
  refused : ∀ e next, k.write level backend s = (.error e, next) →
    x = ⟨.failed ("Failed to set " ++ k.name), next, none⟩

lemma Knob.orders_perform (k : Knob) (level : Nat) (backend : Backend σ) (s : σ) (delay : Nat) (spare : Bool) :
    k.Orders level backend s ((k.action level).perform backend delay spare s) :=
  ⟨fun _ h => k.perform_taken h delay spare, fun _ _ h => k.perform_refused h delay spare⟩

namespace Intent.Sets

variable {intent : Intent} {k : Knob} {v : Json}

/-- What is carried out depends on the number that is given, and not on how it is given. -/
lemma execute_eq (h : intent.Sets k v) {n : Int} (hv : v.GivesLevel n) (backend : Backend σ) (delay : Nat)
    (spare : Bool) (s : σ) :
    intent.execute backend delay spare s = (k.action (clampLevel n)).perform backend delay spare s := by
  obtain ⟨m, hm, hclamp⟩ := Option.map_eq_some_iff.mp hv.map_level?
  have hlevel : Action.levelOf intent = .ok (clampLevel n) := by
    rw [Action.levelOf, param?_pair, h.level]
    simp only [hm, hclamp]
  rw [Intent.execute, k.ofIntent_eq h.name, hlevel]
  rfl

lemma execute_misspelled {text : String} (h : intent.Sets k (.string text)) (ht : Text.Misspells text.toList)
    (backend : Backend σ) (delay : Nat) (spare : Bool) (s : σ) :
    intent.execute backend delay spare s = ⟨.failed "Invalid parameter: level must be a number", s, none⟩ := by
  have hlevel : Action.levelOf intent = .error (.invalid "level" "number") := by
    rw [Action.levelOf, param?_pair, h.level]
    simp only [Action.level?_of_misspells ht]
  rw [Intent.execute, k.ofIntent_eq h.name, hlevel]
  rfl

end Intent.Sets

namespace VirtualMachine

/-- A machine that works is brought to the level; one that fails only counts the command. -/
lemma device_perform (m : VirtualMachine) (k : Knob) {level : Nat} (hl : level ≤ 100) (delay : Nat) (spare : Bool) :
    ((k.action level).perform backend delay spare m).device =
      { m with settings := if m.failing then m.settings else k.set level m.settings, calls := m.calls + 1 } := by
  cases hf : m.failing with
  | true => rw [k.perform_refused (write_failing hf k level), if_pos rfl, ← hf]
  | false => rw [k.perform_taken (write_ok hf k hl), if_neg Bool.false_ne_true, ← hf]

lemma level_perform_mono (m : VirtualMachine) (k : Knob) {lower upper : Nat} (h : lower ≤ upper) (hu : upper ≤ 100)
    (delay : Nat) (spare : Bool) :
    k.level ((k.action lower).perform backend delay spare m).device.settings ≤
      k.level ((k.action upper).perform backend delay spare m).device.settings := by
  rw [m.device_perform k (h.trans hu), m.device_perform k hu]
  cases m.failing with
  | true => exact Nat.le_refl _
  | false => simpa using h

end VirtualMachine

/-- However a number is spelled as a level, the same is done and said on all devices: one order to be at that level, cut
to 0 to 100. A virtual machine is at that level then, unless it fails and stays as it is; the greater of two numbers
leaves it no lower. A text that gives no level is refused and nothing is done. -/
theorem levels_as_spelled (k : Knob) (backend : Backend σ) (s : σ) (m : VirtualMachine) (delay : Nat)
    (spare : Bool) :
    (∀ (n : Int) (level : Nat), (level : Int) = max 0 (min 100 n) →
      ∀ (intent other : Intent) (v w : Json), intent.Sets k v → v.GivesLevel n → other.Sets k w → w.GivesLevel n →
        intent.execute backend delay spare s = other.execute backend delay spare s ∧
        k.Orders level backend s (intent.execute backend delay spare s) ∧
        (intent.execute VirtualMachine.backend delay spare m).device =
          { m with settings := if m.failing then m.settings else k.set level m.settings, calls := m.calls + 1 }) ∧
    (∀ (intent : Intent) (text : String), intent.Sets k (.string text) → Text.Misspells text.toList →
      intent.execute backend delay spare s = ⟨.failed "Invalid parameter: level must be a number", s, none⟩) ∧
    ∀ (a b : Int), a ≤ b →
      ∀ (lower upper : Intent) (v w : Json), lower.Sets k v → v.GivesLevel a → upper.Sets k w → w.GivesLevel b →
        k.level (lower.execute VirtualMachine.backend delay spare m).device.settings ≤
          k.level (upper.execute VirtualMachine.backend delay spare m).device.settings := by
  refine ⟨?_, fun intent text h ht => h.execute_misspelled ht backend delay spare s, ?_⟩
  · intro n level hlevel intent other v w hintent hv hother hw
    obtain rfl : level = clampLevel n := by
      have hclamp := clampLevel_eq n
      omega
    refine ⟨?_, ?_, ?_⟩
    · rw [hintent.execute_eq hv, hother.execute_eq hw]
    · rw [hintent.execute_eq hv]
      exact k.orders_perform _ backend s delay spare
    · rw [hintent.execute_eq hv]
      exact m.device_perform k (clampLevel_le n) delay spare
  · intro a b hab lower upper v w hlower hv hupper hw
    rw [hlower.execute_eq hv, hupper.execute_eq hw]
    exact m.level_perform_mono k (clampLevel_mono hab) (clampLevel_le b) delay spare

/-- Leading zeros, a sign, blanks and percent signs change nothing; a blank between digits is an error. -/
theorem levels_as_spelled_amply :
    let spelled : Intent := .single "volume" "value" (.string "\t+0045 %%\n")
    let plain : Intent := .single "volume" "level" (.ofInt 45)
    let loud : Intent := .single "volume" "level" (.ofInt 300)
    let broken : Intent := .single "volume" "level" (.string "4 5")
    let done (intent : Intent) := intent.execute VirtualMachine.backend 5 true .initial
    done spelled = done plain ∧ (done spelled).device.settings.volume = 45 ∧
      (done plain).device.settings.volume ≤ (done loud).device.settings.volume ∧
      done broken = ⟨.failed "Invalid parameter: level must be a number", .initial, none⟩ := by
  intro spelled plain loud broken done
  have hspelled : (Json.string "\t+0045 %%\n").GivesLevel 45 := by
    obtain ⟨hs, hn⟩ := Action.level?_string.mp (show Action.level? (.string "\t+0045 %%\n") = some 45 by decide)
    exact .text hs hn
  have hbroken : Text.Misspells "4 5".toList := by
    refine .inl fun n h => ?_
    have hblank := (h.trim_eq.of_mem (c := ' ') (by decide)).1
    exact absurd hblank (by decide)
  obtain ⟨hsame, hrefused, hmono⟩ := levels_as_spelled .volume VirtualMachine.backend .initial .initial 5 true
  obtain ⟨hexecute, -, hdevice⟩ := hsame 45 45 (by decide) spelled plain _ _ ⟨rfl, rfl⟩ hspelled ⟨rfl, rfl⟩ (.number 45)
  refine ⟨hexecute, ?_, ?_, hrefused broken _ ⟨rfl, rfl⟩ hbroken⟩
  · show (spelled.execute VirtualMachine.backend 5 true .initial).device.settings.volume = 45
    rw [hdevice]
    rfl
  · exact hmono 45 300 (by decide) plain loud _ _ ⟨rfl, rfl⟩ (.number 45) ⟨rfl, rfl⟩ (.number 300)

/-- A machine that fails stays at its level, in whichever way another one is asked for. -/
theorem offline_level_kept :
    let offline : VirtualMachine := { VirtualMachine.initial with failing := true }
    let brightness (v : Json) : Int :=
      ((Intent.single "brightness" "level" v).execute VirtualMachine.backend 5 true offline).device.settings.brightness
    brightness (.ofInt 30) = 50 ∧ brightness (.string "30%") = 50 ∧
      ¬ (brightness (.ofInt 30) = max 0 (min 100 30) ∧ brightness (.string "30%") = max 0 (min 100 30)) := by
  decide

end DeviceAgent
