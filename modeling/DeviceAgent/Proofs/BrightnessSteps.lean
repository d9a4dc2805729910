import DeviceAgent.Proofs.BrightnessCalls
import DeviceAgent.Proofs.LevelCommands

/-!
# Brightness step by step

A step of the brightness is rounded down twice, from the raw value to a level and from the next level to a raw value.
On a device with five steps or more, twenty percent outweigh both, so that whoever keeps asking for more or for less
comes to the end of the range.
-/

namespace DeviceAgent

open Interpreter

variable {π : Type}

/-- A chat is repeated and answered by the interpreter each time. In between anything may happen that leaves the device
alone. -/
structure Agent.Repeats (agent : Agent LinuxMachine π) (said : String) (states : Nat → Agent.State LinuxMachine π) :
    Prop where
  isLocal : ∀ n, agent.IsLocal (states n) said
  next : ∀ n, (states (n + 1)).devices = (agent.handle (.chat said) (states n)).2.devices

namespace LinuxMachine

variable {m : LinuxMachine} {device : FilePath} {raw full : Int}

/-- The brightness can be read: it is a raw value between zero and the full brightness of the first device. -/
structure Shines (m : LinuxMachine) (device : FilePath) (raw full : Int) : Prop where
  first : m.backlight = .ok device
  holdsRaw : m.files.HoldsNumber (device ++ ["brightness"]) raw
  holdsFull : m.files.HoldsNumber (device ++ ["max_brightness"]) full
  nonneg : 0 ≤ raw
  le : raw ≤ full

/-- The level that is read of a raw value. -/
def levelOfRaw (full raw : Int) : Nat :=
  clampLevel ((raw * 100).tdiv full)

namespace Shines

lemma read_eq (h : Shines m device raw full) (hpos : 0 < full) :
    Knob.brightness.read backend m = (.ok (levelOfRaw full raw), m) := by
  have hread : m.brightness = .ok (levelOfRaw full raw) :=
    brightness_eq_ok.mpr ⟨device, raw, full, h.first, readInt_iff_holdsNumber.mpr h.holdsRaw,
      fullBrightness_eq_ok.mpr ⟨readInt_iff_holdsNumber.mpr h.holdsFull, hpos⟩, rfl⟩
  show (m.brightness, m) = _
  rw [hread]

/-- A file that holds a number can be written. -/
lemma isSettable (h : Shines m device raw full) (hpos : 0 < full) : IsSettable m.files device full := by
  obtain ⟨s, hs, -⟩ := h.holdsRaw
  exact ⟨h.holdsFull, hpos, .inl (by rw [hs]; rfl)⟩

lemma setBrightness (h : Shines m device raw full) (hpos : 0 < full) (level : Nat) :
    ∃ next, m.setBrightness level = .ok next ∧ Shines next device (rawBrightness full level) full := by
  obtain ⟨next, hnext, -⟩ := setBrightness_of_settable h.first (h.isSettable hpos) level
  obtain ⟨device', full', hdevice, hread, -, hfirst, hfull, hraw⟩ := panel_setBrightness hnext
  obtain rfl : device = device' := Except.ok.inj (h.first.symm.trans hdevice)
  obtain rfl : full = full' := Except.ok.inj ((readInt_iff_holdsNumber.mpr h.holdsFull).symm.trans hread)
  obtain ⟨hnonneg, hle⟩ := rawBrightness_mem hpos level
  exact ⟨next, hnext, hfirst, readInt_iff_holdsNumber.mp hraw,
    readInt_iff_holdsNumber.mp (fullBrightness_eq_ok.mp hfull).1, hnonneg, hle⟩

end Shines

/-! ## One step -/

/-- A chat that asks for a change reads the level, adds the change and sets the sum. -/
lemma handle_change {agent : Agent LinuxMachine π} (hb : agent.backend = backend) {s : Agent.State LinuxMachine π}
    {said : String} (hl : agent.IsLocal s said) (hk : knob? (.ofString said) = some .brightness) {change : Int}
    (ha : Asks (.ofString said) .brightness (.relative change)) (hn : (Utterance.ofString said).number? = none)
    (h : Shines s.devices device raw full) (hpos : 0 < full) :
    let level := clampLevel (levelOfRaw full raw + change)
    ∃ next, agent.handle (.chat said) s =
        (.chat .ok ("Setting brightness to " ++ toString level ++ "%")
          (some (.ok ("Brightness set to " ++ toString level ++ "%"))), next) ∧
      Shines next.devices device (rawBrightness full level) full := by
  intro level
  have hlevel : Adjustment.reached (levelOfRaw full raw) (.relative change) = level :=
    reached_eq_target (clampLevel_le _) ha (by simp [hn])
  have hinterpret := interpret_relative hk ha (h.read_eq hpos) agent.policy.confirmDangerous s.clock
  obtain ⟨next, hset, hnext⟩ := h.setBrightness hpos level
  have hwrite : Knob.brightness.write level backend s.devices = (.ok (), next) := perform_of_ok hset
  rw [hlevel, ← hb] at hinterpret
  rw [← hb] at hwrite
  obtain ⟨after, hhandle, hdevices, -⟩ := Agent.handle_set hl (clampLevel_le _) hinterpret hwrite
  exact ⟨after, hhandle, by rwa [hdevices]⟩

/-- The level that is read is rounded down, and within 0 to 100. -/
lemma levelOfRaw_bounds (hnonneg : 0 ≤ raw) (hle : raw ≤ full) (hpos : 0 < full) :
    full * levelOfRaw full raw ≤ raw * 100 ∧ raw * 100 < full * levelOfRaw full raw + full ∧
      levelOfRaw full raw ≤ 100 :=
  ⟨(read_bounds hnonneg hle hpos).1, (read_bounds hnonneg hle hpos).2, clampLevel_le _⟩

/-- Both roundings together take away less than one percent of full brightness and one raw value, and a step up is
twenty percent. With five raw values, where that is no more, neither has anything to drop. -/
lemma lt_rawBrightness_step (hfull : 5 ≤ full) (hnonneg : 0 ≤ raw) (hlt : raw < full) :
    raw < rawBrightness full (clampLevel (levelOfRaw full raw + 20)) := by
  have hpos : 0 < full := by omega
  obtain ⟨hread, hread', -⟩ := levelOfRaw_bounds hnonneg (Int.le_of_lt hlt) hpos
  generalize levelOfRaw full raw = now at *
  obtain hroom | hfar : now ≤ 80 ∨ 80 < now := by omega
  · have hlevel : clampLevel (now + 20) = now + 20 := by
      unfold clampLevel
      omega
    have hmin : min (now + 20) 100 = now + 20 := by omega
    obtain ⟨-, hset⟩ := rawBrightness_bounds hpos (now + 20)
    rw [hlevel]
    rw [hmin, Int.natCast_add, Int.mul_add] at hset
    obtain rfl | hmore : full = 5 ∨ 6 ≤ full := by omega
    · omega
    · omega
  · have hlevel : 100 ≤ clampLevel (now + 20) := by
      unfold clampLevel
      omega
    rwa [rawBrightness_full full hlevel]

/-- A step down is rounded down. -/
lemma rawBrightness_step_lt (hraw : 0 < raw) (hle : raw ≤ full) :
    rawBrightness full (clampLevel (levelOfRaw full raw + -20)) < raw := by
  have hpos : 0 < full := by omega
  obtain ⟨hread, -, hbound⟩ := levelOfRaw_bounds (Int.le_of_lt hraw) hle hpos
  generalize levelOfRaw full raw = now at *
  obtain hnear | hroom : now ≤ 20 ∨ 20 < now := by omega
  · have hlevel : clampLevel (now + -20) = 0 := by
      unfold clampLevel
      omega
    rwa [hlevel, rawBrightness_zero]
  · obtain ⟨level, rfl⟩ : ∃ level : Nat, now = level + 20 := ⟨now - 20, by omega⟩
    have hlevel : clampLevel ((level + 20 : Nat) + -20) = level := by
      unfold clampLevel
      omega
    have hmin : min level 100 = level := by omega
    obtain ⟨hset, -⟩ := rawBrightness_bounds hpos level
    rw [hmin] at hset
    rw [Int.natCast_add, Int.mul_add] at hread
    rw [hlevel]
    omega

lemma rawBrightness_step_full (hpos : 0 < full) :
    rawBrightness full (clampLevel (levelOfRaw full full + 20)) = full := by
  rw [levelOfRaw, Int.mul_tdiv_cancel_left 100 (Int.ne_of_gt hpos)]
  exact rawBrightness_full full (by decide)

lemma rawBrightness_step_zero (full : Int) : rawBrightness full (clampLevel (levelOfRaw full 0 + -20)) = 0 := by
  rw [levelOfRaw, Int.zero_mul, Int.zero_tdiv]
  exact rawBrightness_zero full

section Chats

variable {agent : Agent LinuxMachine π} {s : Agent.State LinuxMachine π} {states : Nat → Agent.State LinuxMachine π}

lemma handle_up (hb : agent.backend = backend) (hfull : 5 ≤ full) (hl : agent.IsLocal s "brightness up")
    (h : Shines s.devices device raw full) :
    ∃ raw', Shines (agent.handle (.chat "brightness up") s).2.devices device raw' full ∧ (raw < full → raw < raw') ∧
      (raw = full → raw' = full) := by
  have hn : (Utterance.ofString "brightness up").number? = none := by decide +kernel
  have ha : Asks (.ofString "brightness up") .brightness (.relative 20) :=
    .up hn (by decide +kernel) (by decide +kernel) (by decide +kernel)
  obtain ⟨next, hnext, hshines⟩ := handle_change hb hl (by decide +kernel) ha hn h (by omega)
  rw [hnext]
  refine ⟨_, hshines, lt_rawBrightness_step hfull h.nonneg, ?_⟩
  rintro rfl
  exact rawBrightness_step_full (by omega)

lemma handle_down (hb : agent.backend = backend) (hpos : 0 < full) (hl : agent.IsLocal s "brightness down")
    (h : Shines s.devices device raw full) :
    ∃ raw', Shines (agent.handle (.chat "brightness down") s).2.devices device raw' full ∧ (0 < raw → raw' < raw) ∧
      (raw = 0 → raw' = 0) := by
  have hn : (Utterance.ofString "brightness down").number? = none := by decide +kernel
  have ha : Asks (.ofString "brightness down") .brightness (.relative (-20)) :=
    .down hn (by decide +kernel) (by decide +kernel) (by decide +kernel) (by decide +kernel)
  obtain ⟨next, hnext, hshines⟩ := handle_change hb hl (by decide +kernel) ha hn h hpos
  rw [hnext]
  refine ⟨_, hshines, fun hraw => rawBrightness_step_lt hraw h.le, ?_⟩
  rintro rfl
  exact rawBrightness_step_zero full

/-! ## Step after step -/

/-- What is left to the end of the range gets less with each chat, until nothing is left. -/
lemma shines_of_repeats {said : String} {left : Int → Nat}
    (hstep : ∀ s raw, agent.IsLocal s said → Shines s.devices device raw full →
      ∃ raw', Shines (agent.handle (.chat said) s).2.devices device raw' full ∧ left raw' ≤ left raw - 1)
    (hr : agent.Repeats said states) (h : Shines (states 0).devices device raw full) (k : Nat) :
    ∃ raw', Shines (states k).devices device raw' full ∧ left raw' ≤ left raw - k := by
  induction k with
  | zero => exact ⟨raw, h, Nat.le_refl _⟩
  | succ k ih =>
    obtain ⟨raw₁, h₁, hle₁⟩ := ih
    obtain ⟨raw₂, h₂, hle₂⟩ := hstep (states k) raw₁ (hr.isLocal k) h₁
    exact ⟨raw₂, by rwa [hr.next], by omega⟩

lemma shines_full_of_repeats (hb : agent.backend = backend) (hfull : 5 ≤ full)
    (hr : agent.Repeats "brightness up" states) (h : Shines (states 0).devices device raw full) {k : Nat}
    (hk : full - raw ≤ k) : Shines (states k).devices device full full := by
  have hstep (s : Agent.State LinuxMachine π) (raw : Int) (hl : agent.IsLocal s "brightness up")
      (h : Shines s.devices device raw full) :
      ∃ raw', Shines (agent.handle (.chat "brightness up") s).2.devices device raw' full ∧
        (full - raw').toNat ≤ (full - raw).toNat - 1 := by
    obtain ⟨raw', h', hmore, hend⟩ := handle_up hb hfull hl h
    refine ⟨raw', h', ?_⟩
    have := h.le
    omega
  obtain ⟨raw', h', hleft⟩ := shines_of_repeats hstep hr h k
  have hle := h'.le
  obtain rfl : raw' = full := by omega
  exact h'

lemma shines_zero_of_repeats (hb : agent.backend = backend) (hpos : 0 < full)
    (hr : agent.Repeats "brightness down" states) (h : Shines (states 0).devices device raw full) {k : Nat}
    (hk : raw ≤ k) : Shines (states k).devices device 0 full := by
  have hstep (s : Agent.State LinuxMachine π) (raw : Int) (hl : agent.IsLocal s "brightness down")
      (h : Shines s.devices device raw full) :
      ∃ raw', Shines (agent.handle (.chat "brightness down") s).2.devices device raw' full ∧
        raw'.toNat ≤ raw.toNat - 1 := by
    obtain ⟨raw', h', hless, hend⟩ := handle_down hb hpos hl h
    refine ⟨raw', h', ?_⟩
    have := h.nonneg
    omega
  obtain ⟨raw', h', hleft⟩ := shines_of_repeats hstep hr h k
  have hnonneg := h'.nonneg
  obtain rfl : raw' = 0 := by omega
  exact h'

/-- On a device with a full brightness of 5 or more, a chat that asks for more brightness raises the raw value unless it
is full, and one that asks for less lowers it unless it is zero. So either, when it is repeated, comes to the end of the
range and stays there. -/
theorem brightness_steps (hb : agent.backend = backend) (hfull : 5 ≤ full) :
    (∀ s device raw, Shines s.devices device raw full →
      (agent.IsLocal s "brightness up" →
        ∃ raw', Shines (agent.handle (.chat "brightness up") s).2.devices device raw' full ∧
          (raw < full → raw < raw') ∧ (raw = full → raw' = full)) ∧
      (agent.IsLocal s "brightness down" →
        ∃ raw', Shines (agent.handle (.chat "brightness down") s).2.devices device raw' full ∧
          (0 < raw → raw' < raw) ∧ (raw = 0 → raw' = 0))) ∧
    ∀ (states : Nat → Agent.State LinuxMachine π) device raw, Shines (states 0).devices device raw full →
      (agent.Repeats "brightness up" states →
        ∃ n : Nat, n ≤ full - raw ∧ ∀ k ≥ n, Shines (states k).devices device full full) ∧
      (agent.Repeats "brightness down" states →
        ∃ n : Nat, n ≤ raw ∧ ∀ k ≥ n, Shines (states k).devices device 0 full) := by
  have hpos : 0 < full := by omega
  refine ⟨fun s device raw h => ⟨fun hl => handle_up hb hfull hl h, fun hl => handle_down hb hpos hl h⟩,
    fun states device raw h => ⟨fun hr => ?_, fun hr => ?_⟩⟩
  · have hle := h.le
    exact ⟨(full - raw).toNat, by omega, fun k hk => shines_full_of_repeats hb hfull hr h (by omega)⟩
  · have hnonneg := h.nonneg
    exact ⟨raw.toNat, by omega, fun k hk => shines_zero_of_repeats hb hpos hr h (by omega)⟩

end Chats

/-- The panel with five steps. -/
def coarsePanel : LinuxMachine :=
  { panel with
    files := ⟨[(["sys", "class", "backlight", "panel", "max_brightness"], Text.octets "5\n"),
      (["sys", "class", "backlight", "panel", "brightness"], Text.octets "4\n")], []⟩ }

def panelAgent : Agent LinuxMachine Unit := ⟨backend, none, Agent.patientAgent.policy⟩

def panelState : Agent.State LinuxMachine Unit := ⟨.empty 20, coarsePanel, (), [], Agent.noon, true⟩

lemma shines_coarsePanel : Shines coarsePanel ["sys", "class", "backlight", "panel"] 4 5 :=
  ⟨backlight_panel, readInt_iff_holdsNumber.mp rfl, readInt_iff_holdsNumber.mp rfl, by decide, by decide⟩

theorem brightness_steps_panel :
    let device := ["sys", "class", "backlight", "panel"]
    let states (said : String) (n : Nat) := (fun s => (panelAgent.handle (.chat said) s).2)^[n] panelState
    (∃ raw, Shines (states "brightness up" 1).devices device raw 5 ∧ 4 < raw) ∧
      (∃ n, ∀ k ≥ n, Shines (states "brightness up" k).devices device 5 5) ∧
      ∃ n, ∀ k ≥ n, Shines (states "brightness down" k).devices device 0 5 := by
  intro device states
  have hlocal (s : Agent.State LinuxMachine Unit) (said : String) : panelAgent.IsLocal s said :=
    fun p hp => absurd hp (by simp [panelAgent])
  have hrepeats (said : String) : panelAgent.Repeats said (states said) :=
    ⟨fun n => hlocal _ _, fun n => by simp only [states, Function.iterate_succ_apply']⟩
  have hbackend : panelAgent.backend = backend := rfl
  obtain ⟨hstep, hrun⟩ := brightness_steps hbackend (Int.le_refl 5)
  obtain ⟨raw, hraw, hmore, -⟩ := (hstep panelState device 4 shines_coarsePanel).1 (hlocal _ _)
  obtain ⟨n, -, hn⟩ := (hrun (states "brightness up") device 4 shines_coarsePanel).1 (hrepeats _)
  obtain ⟨n', -, hn'⟩ := (hrun (states "brightness down") device 4 shines_coarsePanel).2 (hrepeats _)
  exact ⟨⟨raw, hraw, hmore (by decide)⟩, ⟨n, hn⟩, n', hn'⟩

end LinuxMachine

end DeviceAgent
