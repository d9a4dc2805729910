import DeviceAgent.Proofs.ClassFiles

/-!
# Brightness read back

A level is rounded down to a raw value when it is set, and a raw value to a level when it is read. What is read is the
level that was set if the first rounding had nothing to drop, and less otherwise.
-/

namespace DeviceAgent

namespace LinuxMachine

variable {full : Int}

/-- A level is rounded down to its raw value. -/
lemma rawBrightness_bounds (hf : 0 < full) (level : Nat) :
    rawBrightness full level * 100 ≤ full * (min level 100 : Nat) ∧
      full * (min level 100 : Nat) < rawBrightness full level * 100 + 100 := by
  have hnonneg : 0 ≤ full * (min level 100 : Nat) := Int.mul_nonneg (Int.le_of_lt hf) (Int.natCast_nonneg _)
  rw [rawBrightness, clampLevel_natCast, Int.tdiv_eq_ediv_of_nonneg hnonneg]
  omega

/-- A raw value is rounded down to the level that is read. -/
lemma read_bounds {raw : Int} (hraw : 0 ≤ raw) (hle : raw ≤ full) (hf : 0 < full) :
    full * clampLevel ((raw * 100).tdiv full) ≤ raw * 100 ∧
      raw * 100 < full * clampLevel ((raw * 100).tdiv full) + full := by
  have hquotient : (raw * 100).tdiv full = raw * 100 / full := Int.tdiv_eq_ediv_of_nonneg (by omega)
  have hlow : 0 ≤ raw * 100 / full := Int.ediv_nonneg (by omega) (by omega)
  have hhigh : raw * 100 / full ≤ 100 := Int.ediv_le_of_le_mul hf (by omega)
  have hclamp : (clampLevel (raw * 100 / full) : Int) = raw * 100 / full := by
    unfold clampLevel
    omega
  have hdiv := Int.mul_ediv_add_emod (raw * 100) full
  have hmod := Int.emod_nonneg (raw * 100) (Int.ne_of_gt hf)
  have hlt := Int.emod_lt_of_pos (raw * 100) hf
  rw [hquotient, hclamp]
  omega

/-- What is read of the raw value of a level. -/
lemma read_rawBrightness (hf : 0 < full) (level : Nat) :
    let n := clampLevel ((rawBrightness full level * 100).tdiv full)
    n ≤ min level 100 ∧ (n = min level 100 ↔ (100 : Int) ∣ full * (min level 100 : Nat)) ∧
      (100 ≤ full → min level 100 ≤ n + 1) := by
  intro n
  obtain ⟨hraw, hle⟩ := rawBrightness_mem hf level
  obtain ⟨hset, hset'⟩ := rawBrightness_bounds hf level
  obtain ⟨hread, hread'⟩ : full * n ≤ rawBrightness full level * 100 ∧
      rawBrightness full level * 100 < full * n + full := read_bounds hraw hle hf
  generalize rawBrightness full level = raw at *
  generalize min level 100 = l at *
  generalize n = n at *
  -- The products with full brightness are compared, since `omega` does not multiply two unknowns.
  have hlt {a b : Int} (h : full * a < full * b) : a < b := Int.lt_of_mul_lt_mul_left h (Int.le_of_lt hf)
  have hnext (a b : Int) : full * (a + b) = full * a + full * b := Int.mul_add full a b
  have hnl : (n : Int) < l + 1 := hlt (by rw [hnext]; omega)
  refine ⟨by omega, ⟨?_, ?_⟩, ?_⟩
  · intro h
    rw [h] at hread
    exact ⟨raw, by omega⟩
  · rintro ⟨k, hk⟩
    have hln : (l : Int) < n + 1 := hlt (by rw [hnext]; omega)
    omega
  · intro h100
    have hln : (l : Int) < n + 2 := hlt (by rw [hnext]; omega)
    omega

/-- Setting a level leaves the first device the first, with the full brightness it had and the raw value of the
level. -/
lemma panel_setBrightness {m next : LinuxMachine} {level : Nat} (h : m.setBrightness level = .ok next) :
    ∃ device full, m.backlight = .ok device ∧ m.readInt (device ++ ["max_brightness"]) = .ok full ∧ 0 < full ∧
      next.backlight = .ok device ∧ next.fullBrightness device = .ok full ∧
      next.readInt (device ++ ["brightness"]) = .ok (rawBrightness full level) := by
  obtain ⟨device, full, files, hdevice, hfull, hwrite, rfl⟩ := setBrightness_eq_ok.mp h
  obtain ⟨hread, hpos⟩ := fullBrightness_eq_ok.mp hfull
  refine ⟨device, full, hdevice, hread, hpos, ?_, ?_, ?_⟩
  · obtain ⟨name, hname, rfl⟩ := backlight_eq_ok.mp hdevice
    rw [List.append_assoc] at hwrite
    exact backlight_eq_ok.mpr ⟨name, FileTree.head?_list_write hwrite hname, rfl⟩
  · have hother : device ++ ["max_brightness"] ≠ device ++ ["brightness"] := by simp
    exact fullBrightness_eq_ok.mpr ⟨readInt_write hwrite hother hread, hpos⟩
  · obtain ⟨hraw, hle⟩ := rawBrightness_mem hpos level
    have hword : Text.inInt64 (rawBrightness full level) = true := by
      have hfull := inInt64_of_readInt hread
      simp only [Text.inInt64, Bool.and_eq_true, decide_eq_true_eq] at hfull ⊢
      omega
    exact readInt_toString hword (FileTree.octets?_write hwrite)

/-- After a level is set, reading gives it back if one percent of full brightness taken that many times is a whole
number; else it gives less, though by one at most on a device with a hundred steps or more. -/
theorem brightness_read_back {m next : LinuxMachine} {level : Nat} (h : m.setBrightness level = .ok next) :
    ∃ device full n, m.backlight = .ok device ∧ m.readInt (device ++ ["max_brightness"]) = .ok full ∧ 0 < full ∧
      next.brightness = .ok n ∧ n ≤ min level 100 ∧
      (n = min level 100 ↔ (100 : Int) ∣ full * (min level 100 : Nat)) ∧ (100 ≤ full → min level 100 ≤ n + 1) := by
  obtain ⟨device, full, hdevice, hread, hpos, hnext, hfull, hraw⟩ := panel_setBrightness h
  refine ⟨device, full, _, hdevice, hread, hpos, ?_, read_rawBrightness hpos level⟩
  exact brightness_eq_ok.mpr ⟨device, _, full, hnext, hraw, hfull, rfl⟩

theorem brightness_read_back_panel :
    ∃ next, panel.setBrightness 80 = .ok next ∧ ∃ device full n, panel.backlight = .ok device ∧
      panel.readInt (device ++ ["max_brightness"]) = .ok full ∧ next.brightness = .ok n ∧
      (n = min 80 100 ↔ (100 : Int) ∣ full * (min 80 100 : Nat)) := by
  obtain ⟨next, hnext⟩ : ∃ next, panel.setBrightness 80 = .ok next := by
    unfold setBrightness
    rw [backlight_panel]
    exact ⟨_, rfl⟩
  obtain ⟨device, full, n, hdevice, hfull, -, hn, -, hsame, -⟩ := brightness_read_back hnext
  exact ⟨next, hnext, device, full, n, hdevice, hfull, hn, hsame⟩

/-- The panel with 937 steps. -/
def unevenPanel : LinuxMachine where
  files := ⟨[(["sys", "class", "backlight", "panel", "max_brightness"], Text.octets "937\n"),
    (["sys", "class", "backlight", "panel", "brightness"], Text.octets "500\n")], []⟩
  entries := []
  programs := []
  info := VirtualMachine.info
  started := []

/-- 80 percent of 937 is rounded down to 749, of which 79 is read. -/
theorem read_back_less :
    ∃ next, unevenPanel.setBrightness 80 = .ok next ∧
      unevenPanel.backlight = .ok ["sys", "class", "backlight", "panel"] ∧
      unevenPanel.readInt ["sys", "class", "backlight", "panel", "max_brightness"] = .ok 937 ∧
      next.brightness = .ok 79 := by
  have hdevice : unevenPanel.backlight = .ok ["sys", "class", "backlight", "panel"] := backlight_panel
  have hset : ∃ next, unevenPanel.setBrightness 80 = .ok next ∧ next.brightness = .ok 79 := by
    unfold setBrightness
    rw [hdevice]
    exact ⟨_, rfl, brightness_eq_ok.mpr ⟨_, 749, 937, backlight_panel, rfl, rfl, rfl⟩⟩
  obtain ⟨next, hnext, hread⟩ := hset
  exact ⟨next, hnext, hdevice, rfl, hread⟩

end LinuxMachine

end DeviceAgent
