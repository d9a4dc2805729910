import DeviceAgent.Proofs.ProviderFailures
import DeviceAgent.Proofs.Words
import Mathlib.Data.List.Infix

/-!
# Saying confirm

A blank and one more word leave a text in lower case, the words of it and the phrases in it as they are. So a shutdown
or a reboot that waits for the user to confirm is reached again when the user repeats the request with that word, and by
nothing else that the word brings in.
-/

namespace DeviceAgent

namespace Text

/-! ## Texts with a blank behind them -/

lemma continuesWord_append (cs rest : List Char) : continuesWord (cs ++ ' ' :: rest) = continuesWord cs := by
  have hspace : isCaseIgnorable ' ' = false := by decide +kernel
  have hcased : isCased ' ' = false := by decide +kernel
  induction cs with
  | nil => simp [continuesWord, hspace, hcased]
  | cons c cs ih =>
    unfold continuesWord at ih ⊢
    cases hc : isCaseIgnorable c with
    | false => simp [hc]
    | true => simpa [hc] using ih

/-- A blank is no part of a word, so each side of it is in lower case by itself. -/
lemma lowerAfter_append (inWord : Bool) (cs rest : List Char) :
    lowerAfter inWord (cs ++ ' ' :: rest) = lowerAfter inWord cs ++ ' ' :: lowerAfter false rest := by
  have hspace : isCaseIgnorable ' ' = false := by decide +kernel
  have hcased : isCased ' ' = false := by decide +kernel
  induction cs generalizing inWord with
  | nil =>
    simp only [List.nil_append, lowerAfter, hspace, hcased]
    rfl
  | cons c cs ih =>
    simp only [List.cons_append, lowerAfter, continuesWord_append, ih]
    split <;> simp

/-- A phrase that does not stand in the end of a text, and that the end does not complete, stands in the text if it
stands in front of the end. -/
lemma occursIn_append {needle tail : List Char} (hin : occursIn needle tail = false)
    (hcross : ∀ part ∈ needle.tails, part ≠ [] → part.isPrefixOf tail = false) (text : List Char) :
    occursIn needle (text ++ tail) = occursIn needle text := by
  rw [Bool.eq_iff_iff, occursIn_iff, occursIn_iff, List.infix_append_iff]
  constructor
  · rintro (h | h | ⟨first, part, rfl, hfirst, hpart⟩)
    · exact h
    · rw [← occursIn_iff, hin] at h
      exact absurd h Bool.false_ne_true
    · obtain rfl : part = [] := by
        by_contra hne
        have hno := hcross part ((List.mem_tails _ _).mpr (List.suffix_append first part)) hne
        rw [← List.isPrefixOf_iff_prefix, hno] at hpart
        exact absurd hpart Bool.false_ne_true
      rw [List.append_nil]
      exact hfirst.isInfix
  · exact .inl

end Text

namespace Utterance

lemma wordsOf_append (text rest : List Char) : wordsOf (text ++ ' ' :: rest) = wordsOf text ++ wordsOf rest := by
  have hspace : (! isWordChar ' ') = true := by decide +kernel
  have hsplit := List.splitOnP_append_cons (p := (! isWordChar ·)) text rest hspace
  rw [wordsOf, hsplit, List.map_append, List.filterMap_append]
  rfl

/-- What was said, and "confirm" behind it. -/
def confirmed (u : Utterance) : Utterance :=
  ⟨u.text ++ " confirm".toList, u.words ++ ["confirm"]⟩

lemma ofString_confirm (said : String) : ofString (said ++ " confirm") = (ofString said).confirmed := by
  have hword : Text.lowerAfter false "confirm".toList = "confirm".toList := by decide +kernel
  have hwords : wordsOf "confirm".toList = ["confirm"] := by decide +kernel
  have hlower : Text.lower (said ++ " confirm").toList = Text.lower said.toList ++ ' ' :: "confirm".toList := by
    rw [String.toList_append]
    show Text.lowerAfter false (said.toList ++ ' ' :: "confirm".toList) = _
    rw [Text.lowerAfter_append, hword]
    rfl
  rw [ofString, hlower, wordsOf_append, hwords]
  rfl

variable {u : Utterance}

/-- A phrase that " confirm" neither holds nor completes. -/
def IsApart (needle : String) : Prop :=
  Text.occursIn needle.toList " confirm".toList = false ∧
    ∀ part ∈ needle.toList.tails, part ≠ [] → part.isPrefixOf " confirm".toList = false

instance (needle : String) : Decidable (IsApart needle) :=
  inferInstanceAs (Decidable (_ ∧ _))

lemma mentions_confirmed {needle : String} (h : IsApart needle) : u.confirmed.mentions needle = u.mentions needle :=
  Text.occursIn_append h.1 h.2 u.text

lemma mentionsAny_confirmed {needles : List String} (h : ∀ needle ∈ needles, IsApart needle) :
    u.confirmed.mentionsAny needles = u.mentionsAny needles := by
  rw [Bool.eq_iff_iff, mentionsAny, mentionsAny, List.any_eq_true, List.any_eq_true]
  exact exists_congr fun needle => and_congr_right fun hmem => by rw [mentions_confirmed (h needle hmem)]

lemma hasAnyWord_confirmed {words : List String} (h : "confirm" ∉ words) :
    u.confirmed.hasAnyWord words = u.hasAnyWord words := by
  rw [Bool.eq_iff_iff, hasAnyWord, hasAnyWord, List.any_eq_true, List.any_eq_true]
  refine exists_congr fun word => and_congr_right fun hmem => ?_
  have hne : word ≠ "confirm" := fun heq => h (heq ▸ hmem)
  simp [hasWord, confirmed, hne]

lemma mentions_confirm (u : Utterance) : u.confirmed.mentions "confirm" = true := by
  rw [mentions, confirmed, Text.occursIn_iff]
  exact ⟨u.text ++ [' '], [], by simp⟩

end Utterance

namespace Interpreter

variable {σ : Type} {backend : Backend σ} {u : Utterance} {w : PowerWords} {said : String}

/-- Whether an utterance is about something that goes before power actions. -/
def isBusy (u : Utterance) : Bool :=
  (u.mentions "brightness" || u.hasAnyWord ["screen", "display"]) || u.mentions "unmute" ||
    u.hasAnyWord ["mute", "silence"] || (u.mentions "volume" || u.hasAnyWord ["louder", "quieter", "sound"]) ||
    u.mentions "battery" || u.mentionsAny ["wifi", "wi-fi", "wireless"] || u.mentions "bluetooth"

/-- The power action that an utterance asks for, if it does. -/
def power? (u : Utterance) : Option PowerWords :=
  if isBusy u then none
  else if u.mentionsAny ["shutdown", "shut down", "power off", "poweroff"] then some shutdownWords
  else if u.mentionsAny ["reboot", "restart"] then some rebootWords
  else none

/-- The question that holds a power action back. -/
def question (w : PowerWords) : String :=
  "Are you sure you want to " ++ w.verb ++ "? Say \"confirm " ++ w.name ++ "\" to proceed."

lemma isBusy_confirmed : isBusy u.confirmed = isBusy u := by
  unfold isBusy
  rw [Utterance.mentions_confirmed (by decide), Utterance.mentions_confirmed (by decide),
    Utterance.mentions_confirmed (by decide), Utterance.mentions_confirmed (by decide),
    Utterance.mentions_confirmed (by decide), Utterance.mentionsAny_confirmed (by decide),
    Utterance.hasAnyWord_confirmed (by decide), Utterance.hasAnyWord_confirmed (by decide),
    Utterance.hasAnyWord_confirmed (by decide)]

lemma power?_confirmed : power? u.confirmed = power? u := by
  unfold power?
  rw [isBusy_confirmed, Utterance.mentionsAny_confirmed (by decide), Utterance.mentionsAny_confirmed (by decide)]

/-! ## Power actions -/

lemma interpret_of_power? (h : power? (.ofString said) = some w) (confirm : Bool) (clock : Clock) (s : σ) :
    interpret backend confirm clock said s = (dangerous confirm (.ofString said) w, s) := by
  unfold power? at h
  unfold interpret
  dsimp only
  split_ifs at h with hbusy hshutdown hreboot
  all_goals
    obtain rfl := Option.some.inj h
    simp only [isBusy, Bool.or_eq_true, not_or] at hbusy
    obtain ⟨⟨⟨⟨⟨⟨hbrightness, hunmute⟩, hmute⟩, hvolume⟩, hbattery⟩, hwifi⟩, hbluetooth⟩ := hbusy
    rw [if_neg (by simpa using hbrightness), if_neg hunmute, if_neg hmute, if_neg (by simpa using hvolume),
      if_neg hbattery, if_neg hwifi, if_neg hbluetooth]
  · rw [if_pos hshutdown]
  · rw [if_neg hshutdown, if_pos hreboot]

/-- Whether a text begins with another letter than the question does. -/
def declares (text : String) : Bool :=
  text.toList.head?.any (· != 'A')

lemma declares_append {text : String} (h : declares text = true) (more : String) : declares (text ++ more) = true := by
  rw [declares, Option.any_eq_true] at h ⊢
  obtain ⟨c, hc, hne⟩ := h
  exact ⟨c, by rw [String.toList_append, List.head?_append, hc, Option.some_or], hne⟩

lemma declares_level (dial : Dial) (read : σ → Except DeviceError Nat × σ) (s : σ) :
    declares (level u dial read s).1.text = true := by
  have hset (target : Nat) : declares (setReply dial target).text = true :=
    declares_append (declares_append (declares_append (declares_append (by decide) _) _) _) _
  unfold level
  split
  · exact hset _
  · dsimp only
    unfold levelReply
    split
    · exact hset _
    · exact hset _
    · exact declares_append (by decide) _
    · exact declares_append (declares_append (declares_append (declares_append (by decide) _) _) _) _
    · exact declares_append (declares_append (by decide) _) _

lemma declares_batteryReply (b : Except DeviceError Battery) : declares (batteryReply b).text = true := by
  unfold batteryReply
  split
  · split
    · exact declares_append (declares_append (declares_append (by decide) _) _) _
    · decide
  · decide

lemma declares_radio (name label : String) : declares (radio u name label).text = true := by
  unfold radio
  dsimp only
  split
  · exact declares_append (declares_append (by decide) _) _
  · exact declares_append (declares_append (by decide) _) _
  · exact declares_append (declares_append (by decide) _) _

lemma declares_plain (clock : Clock) : declares (plain clock u).text = true := by
  unfold plain
  split
  · decide
  split
  · decide
  split
  · exact declares_append (by decide) _
  split
  · decide
  split
  · exact declares_append (by decide) _
  split
  · exact declares_append (by decide) _
  · decide +kernel

/-- Without a power action nothing is asked, and whether power actions are to be confirmed makes no difference. -/
lemma interpret_of_no_power (h : power? (.ofString said) = none) (backend : Backend σ) (clock : Clock) (s : σ) :
    ∃ answer : Reply × σ, declares answer.1.text = true ∧
      ∀ confirm, interpret backend confirm clock said s = answer := by
  have hbranch {p : Prop} [Decidable p] {x : Reply × σ} {y : Bool → Reply × σ} (hx : declares x.1.text = true)
      (hy : ¬ p → ∃ answer : Reply × σ, declares answer.1.text = true ∧ ∀ confirm, y confirm = answer) :
      ∃ answer : Reply × σ, declares answer.1.text = true ∧ ∀ confirm, (if p then x else y confirm) = answer := by
    by_cases hp : p
    · exact ⟨x, hx, fun _ => if_pos hp⟩
    · simpa only [if_neg hp] using hy hp
  unfold interpret
  refine hbranch (declares_level _ _ _) fun hbrightness => ?_
  refine hbranch (show declares "Unmuting audio" = true by decide) fun hunmute => ?_
  refine hbranch (show declares "Muting audio" = true by decide) fun hmute => ?_
  refine hbranch (declares_level _ _ _) fun hvolume => ?_
  refine hbranch (declares_batteryReply (backend.perform .battery s).1) fun hbattery => ?_
  refine hbranch (declares_radio _ _) fun hwifi => ?_
  refine hbranch (declares_radio _ _) fun hbluetooth => ?_
  have hbusy : isBusy (.ofString said) = false := by
    rw [Bool.not_eq_true] at hbrightness hunmute hmute hvolume hbattery hwifi hbluetooth
    rw [isBusy, hbrightness, hunmute, hmute, hvolume, hbattery, hwifi, hbluetooth]
    rfl
  unfold power? at h
  rw [hbusy, if_neg Bool.false_ne_true] at h
  split_ifs at h with hshutdown hreboot
  exact ⟨(plain clock (.ofString said), s), declares_plain clock, fun _ => by rw [if_neg hshutdown, if_neg hreboot]⟩

/-! ## Holding and releasing -/

/-- The reply with which a power action is carried out. -/
def release (w : PowerWords) : Reply :=
  .act (w.doing ++ " the system") (.named w.name)

lemma dangerous_of_unconfirmed (h : u.mentions "confirm" = false) (w : PowerWords) :
    dangerous true u w = .say (question w) := by
  rw [dangerous, h]
  rfl

lemma dangerous_of_confirmed (h : u.mentions "confirm" = true) (confirm : Bool) (w : PowerWords) :
    dangerous confirm u w = release w := by
  rw [dangerous, h, Bool.not_true, Bool.and_false]
  rfl

lemma dangerous_false (u : Utterance) (w : PowerWords) : dangerous false u w = release w := rfl

lemma mem_of_power? (h : power? u = some w) : w ∈ [shutdownWords, rebootWords] := by
  unfold power? at h
  split_ifs at h
  · exact Option.some.inj h ▸ List.mem_cons_self
  · exact Option.some.inj h ▸ List.mem_cons_of_mem _ List.mem_cons_self

lemma declares_question (hw : w ∈ [shutdownWords, rebootWords]) : declares (question w) = false := by
  obtain rfl | rfl : w = shutdownWords ∨ w = rebootWords := by simpa using hw
  · decide
  · decide

lemma declares_release (hw : w ∈ [shutdownWords, rebootWords]) : declares (release w).text = true := by
  obtain rfl | rfl : w = shutdownWords ∨ w = rebootWords := by simpa using hw
  · decide
  · decide

lemma eq_of_question {w' : PowerWords} (hw : w ∈ [shutdownWords, rebootWords]) (hw' : w' ∈ [shutdownWords, rebootWords])
    (h : question w' = question w) : w' = w := by
  have hne : question shutdownWords ≠ question rebootWords := by decide
  obtain rfl | rfl : w = shutdownWords ∨ w = rebootWords := by simpa using hw
  all_goals obtain rfl | rfl : w' = shutdownWords ∨ w' = rebootWords := by simpa using hw'
  · rfl
  · exact (hne h.symm).elim
  · exact (hne h).elim
  · rfl

/-- Only a power action that is not confirmed is asked about. -/
lemma power?_of_question (hw : w ∈ [shutdownWords, rebootWords]) {clock : Clock} {s : σ}
    (h : (interpret backend true clock said s).1.text = question w) : power? (.ofString said) = some w := by
  cases hpower : power? (.ofString said) with
  | none =>
    obtain ⟨answer, hdeclares, hanswer⟩ := interpret_of_no_power hpower backend clock s
    rw [hanswer] at h
    rw [h, declares_question hw] at hdeclares
    exact absurd hdeclares Bool.false_ne_true
  | some w' =>
    rw [interpret_of_power? hpower] at h
    cases hconfirm : (Utterance.ofString said).mentions "confirm" with
    | false =>
      rw [dangerous_of_unconfirmed hconfirm] at h
      rw [eq_of_question hw (mem_of_power? hpower) h]
    | true =>
      have hdeclares := declares_release (mem_of_power? hpower)
      rw [dangerous_of_confirmed hconfirm] at h
      rw [h, declares_question hw] at hdeclares
      exact absurd hdeclares Bool.false_ne_true

/-- A shutdown or a reboot that the user is asked about is what the same words with "confirm" behind them release, and
what they release at once where nothing is to be confirmed. Nothing else that is said is answered differently there. -/
theorem confirm_releases (backend : Backend σ) (said : String) :
    (∀ w ∈ [shutdownWords, rebootWords], ∀ clock s, (interpret backend true clock said s).1.text = question w →
      ∀ clock' s',
        interpret backend true clock' (said ++ " confirm") s' =
          (.act (w.doing ++ " the system") (.named w.name), s') ∧
        interpret backend false clock' said s' = (.act (w.doing ++ " the system") (.named w.name), s')) ∧
    ∀ clock s, (interpret backend true clock said s).1 ≠ (interpret backend false clock said s).1 ↔
      (Utterance.ofString said).mentions "confirm" = false ∧ ∃ w ∈ [shutdownWords, rebootWords],
        (interpret backend true clock said s).1 = .say (question w) ∧
        (interpret backend false clock said s).1 = .act (w.doing ++ " the system") (.named w.name) := by
  constructor
  · intro w hw clock s htext clock' s'
    have hpower := power?_of_question hw htext
    have hconfirmed : power? (.ofString (said ++ " confirm")) = some w := by
      rw [Utterance.ofString_confirm, power?_confirmed, hpower]
    constructor
    · rw [interpret_of_power? hconfirmed, Utterance.ofString_confirm,
        dangerous_of_confirmed (Utterance.mentions_confirm _)]
      rfl
    · rw [interpret_of_power? hpower]
      rfl
  · intro clock s
    cases hpower : power? (.ofString said) with
    | none =>
      obtain ⟨answer, hdeclares, hanswer⟩ := interpret_of_no_power hpower backend clock s
      rw [hanswer, hanswer]
      refine iff_of_false (fun hne => hne rfl) ?_
      rintro ⟨-, w, hw, hheld, -⟩
      rw [hheld] at hdeclares
      exact absurd ((declares_question hw).symm.trans hdeclares) Bool.false_ne_true
    | some w =>
      rw [interpret_of_power? hpower, interpret_of_power? hpower]
      cases hconfirm : (Utterance.ofString said).mentions "confirm" with
      | false =>
        rw [dangerous_of_unconfirmed hconfirm]
        refine iff_of_true (fun h => ?_) ⟨rfl, w, mem_of_power? hpower, rfl, rfl⟩
        simp [Reply.say, dangerous_false, release, Reply.act] at h
      | true =>
        rw [dangerous_of_confirmed hconfirm]
        exact iff_of_false (fun hne => hne rfl) fun h => Bool.noConfusion h.1

/-- A capital sigma at the end stays at the end of its word. -/
theorem confirm_releases_restart :
    interpret VirtualMachine.backend true Agent.noon "Restart ΟΔΥΣΣΕΥΣ" .initial =
        (.say (question rebootWords), .initial) ∧
      interpret VirtualMachine.backend true Agent.noon "Restart ΟΔΥΣΣΕΥΣ confirm" .initial =
        (.act "Rebooting the system" (.named "reboot"), .initial) := by
  have hpower : power? (.ofString "Restart ΟΔΥΣΣΕΥΣ") = some rebootWords := by
    rw [power?, if_neg (by decide +kernel), if_neg (by decide +kernel), if_pos (by decide +kernel)]
  have hheld : interpret VirtualMachine.backend true Agent.noon "Restart ΟΔΥΣΣΕΥΣ" .initial =
      (.say (question rebootWords), .initial) := by
    rw [interpret_of_power? hpower, dangerous_of_unconfirmed (by decide +kernel)]
  obtain ⟨hrelease, -⟩ := confirm_releases VirtualMachine.backend "Restart ΟΔΥΣΣΕΥΣ"
  refine ⟨hheld, (hrelease rebootWords (by simp) Agent.noon .initial ?_ Agent.noon .initial).1⟩
  rw [hheld]
  rfl

end Interpreter

end DeviceAgent
