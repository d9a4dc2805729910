import DeviceAgent.Device.Linux
import DeviceAgent.Device.Virtual
import Mathlib.Tactic.Lemma
import Mathlib.Tactic.SplitIfs

/-!
# Times of a battery

When a battery reports how long it lasts or charges, and for which readings the time is the quotient of energy and
power. The quotient goes into a 32-bit word without a check, so that one below zero or above all words comes out as
another number.
-/

namespace DeviceAgent

namespace LinuxMachine

variable {m : LinuxMachine} {device : FilePath} {now full power : Int}

/-- What the battery's files say of energy and power. Without a reading for the full energy, that of now counts. -/
structure Gauges (m : LinuxMachine) (device : FilePath) (now full power : Int) : Prop where
  battery : m.batteryDevice? = some device
  energyNow : m.readInt (device ++ ["energy_now"]) = .ok now
  energyFull : m.readInt (device ++ ["energy_full"]) = .ok full ∨
    (∀ n, m.readInt (device ++ ["energy_full"]) ≠ .ok n) ∧ full = now
  powerNow : m.readInt (device ++ ["power_now"]) = .ok power
  positive : 0 < power

lemma toOption_eq_some {ε α : Type} {x : Except ε α} {a : α} : x.toOption = some a ↔ x = .ok a := by
  cases x <;> simp [Except.toOption]

/-! ## One quotient -/

lemma minutes_eq (energy power : Int) : (minutes energy power : Int) = (energy * 60).tdiv power % 4294967296 := by
  have hnonneg := Int.emod_nonneg ((energy * 60).tdiv power) (show (4294967296 : Int) ≠ 0 by decide)
  exact Int.toNat_of_nonneg hnonneg

/-- The minutes are the quotient if that is a number of 32 bits. -/
lemma minutes_exact (energy : Int) (hp : 0 < power) :
    (minutes energy power : Int) = energy * 60 / power ↔ 0 ≤ energy ∧ energy * 60 / power < 4294967296 := by
  rw [minutes_eq]
  have hlow := Int.emod_nonneg ((energy * 60).tdiv power) (show (4294967296 : Int) ≠ 0 by decide)
  have hhigh := Int.emod_lt_of_pos ((energy * 60).tdiv power) (show (0 : Int) < 4294967296 by decide)
  constructor
  · -- A remainder has 32 bits, and so has a quotient that is one.
    intro h
    rw [h] at hlow hhigh
    have henergy : 0 ≤ energy * 60 := Int.ediv_nonneg_iff_of_pos hp |>.mp hlow
    exact ⟨by omega, hhigh⟩
  · rintro ⟨henergy, hquotient⟩
    rw [Int.tdiv_eq_ediv_of_nonneg (by omega)]
    exact Int.emod_eq_of_lt (Int.ediv_nonneg (by omega) (Int.le_of_lt hp)) hquotient

/-! ## A snapshot -/

lemma Gauges.unique {device' : FilePath} {now' full' power' : Int} (h : m.Gauges device now full power)
    (h' : m.Gauges device' now' full' power') : now = now' ∧ full = full' ∧ power = power' := by
  obtain rfl := Option.some.inj (h.battery.symm.trans h'.battery)
  obtain rfl := Except.ok.inj (h.energyNow.symm.trans h'.energyNow)
  obtain rfl := Except.ok.inj (h.powerNow.symm.trans h'.powerNow)
  refine ⟨rfl, ?_, rfl⟩
  obtain hfull | ⟨hfull, rfl⟩ := h.energyFull
  all_goals obtain hfull' | ⟨hfull', rfl⟩ := h'.energyFull
  · exact Except.ok.inj (hfull.symm.trans hfull')
  · exact (hfull' _ hfull).elim
  · exact (hfull _ hfull').elim
  · rfl

lemma Gauges.exists_iff (h : m.Gauges device now full power) {p : Int → Int → Int → Prop} :
    (∃ device now full power, m.Gauges device now full power ∧ p now full power) ↔ p now full power := by
  constructor
  · rintro ⟨device', now', full', power', h', hp⟩
    obtain ⟨rfl, rfl, rfl⟩ := h.unique h'
    exact hp
  · exact fun hp => ⟨device, now, full, power, h, hp⟩

/-- A battery is missing, or is there without times, or is there with the times that its gauges give. -/
lemma battery_cases (m : LinuxMachine) :
    m.battery = .missing ∨ ∃ level status, level ≤ 100 ∧
      (m.battery = ⟨true, level, status, none, none⟩ ∧ (∀ device now full power, ¬ m.Gauges device now full power) ∨
        ∃ device now full power, m.Gauges device now full power ∧ m.battery = ⟨true, level, status,
          if status = "Discharging" then some (minutes now power) else none,
          if status = "Charging" then some (minutes (max (full - now) 0) power) else none⟩) := by
  unfold battery
  cases hdevice : m.batteryDevice? with
  | none => exact .inl rfl
  | some device =>
    dsimp only
    split
    · have hlevel : (((m.readInt (device ++ ["capacity"])).toOption.map clampLevel).getD 0) ≤ 100 := by
        cases (m.readInt (device ++ ["capacity"])).toOption with
        | none => exact Nat.zero_le _
        | some n => exact clampLevel_le n
      -- The times depend on the status only as a text, and on the level not at all.
      generalize ((m.readInt (device ++ ["capacity"])).toOption.map clampLevel).getD 0 = level at hlevel ⊢
      generalize (m.readText? (device ++ ["status"])).getD "Unknown" = status
      refine .inr ⟨level, status, hlevel, ?_⟩
      split
      · next power now hpower hnow =>
        obtain ⟨hpower, hpos⟩ := Option.filter_eq_some_iff.mp hpower
        obtain ⟨full, hfull⟩ : ∃ full, (m.readInt (device ++ ["energy_full"])).toOption.getD now = full := ⟨_, rfl⟩
        refine .inr ⟨device, now, full, power, ⟨hdevice, toOption_eq_some.mp hnow, ?_, toOption_eq_some.mp hpower,
          of_decide_eq_true hpos⟩, ?_⟩
        · cases hread : m.readInt (device ++ ["energy_full"]) with
          | error e => exact .inr ⟨fun n => by simp, by simpa [hread, Except.toOption] using hfull.symm⟩
          | ok n => exact .inl (by simpa [hread, Except.toOption] using hfull)
        · rw [hfull]
          split_ifs <;> simp_all
      · next hnone =>
        refine .inl ⟨rfl, fun device' now full power h => ?_⟩
        obtain rfl := Option.some.inj (hdevice.symm.trans h.battery)
        refine hnone power now ?_ (toOption_eq_some.mpr h.energyNow)
        rw [toOption_eq_some.mpr h.powerNow]
        simpa [Option.filter] using h.positive
    · exact .inl rfl

lemma timeToEmpty_eq_some {t : Nat} : m.battery.timeToEmpty = some t ↔ m.battery.present = true ∧
    m.battery.status = "Discharging" ∧
    ∃ device now full power, m.Gauges device now full power ∧ minutes now power = t := by
  obtain h | ⟨level, status, -, ⟨h, hnone⟩ | ⟨device, now, full, power, hgauges, h⟩⟩ := battery_cases m
  · simp [h, Battery.missing]
  · simp [h, hnone]
  · simp [h, hgauges.exists_iff (p := fun now _ power => minutes now power = t)]

lemma timeToFull_eq_some {t : Nat} : m.battery.timeToFull = some t ↔ m.battery.present = true ∧
    m.battery.status = "Charging" ∧
    ∃ device now full power, m.Gauges device now full power ∧ minutes (max (full - now) 0) power = t := by
  obtain h | ⟨level, status, -, ⟨h, hnone⟩ | ⟨device, now, full, power, hgauges, h⟩⟩ := battery_cases m
  · simp [h, Battery.missing]
  · simp [h, hnone]
  · simp [h, hgauges.exists_iff (p := fun now full power => minutes (max (full - now) 0) power = t)]

/-- A snapshot of the battery is always given. It has a time only while the battery discharges or charges and its gauges
are readable, and then the one for that. The time is the quotient of energy and power modulo 2^32: it is that quotient
unless the energy is negative or the quotient has more than 32 bits. -/
theorem battery_times (m : LinuxMachine) :
    perform .battery m = (.ok m.battery, m) ∧ m.battery.level ≤ 100 ∧
      (m.battery.timeToEmpty = none ∨ m.battery.timeToFull = none) ∧
      (∀ t, m.battery.timeToEmpty = some t ↔ m.battery.present = true ∧ m.battery.status = "Discharging" ∧
        ∃ device now full power, m.Gauges device now full power ∧ (now * 60).tdiv power % 4294967296 = t) ∧
      (∀ t, m.battery.timeToFull = some t ↔ m.battery.present = true ∧ m.battery.status = "Charging" ∧
        ∃ device now full power, m.Gauges device now full power ∧
          max (full - now) 0 * 60 / power % 4294967296 = t) ∧
      ∀ device now full power, m.Gauges device now full power →
        (∀ t, m.battery.timeToEmpty = some t →
          (t = now * 60 / power ↔ 0 ≤ now ∧ now * 60 / power < 4294967296)) ∧
        ∀ t, m.battery.timeToFull = some t →
          (t = max (full - now) 0 * 60 / power ↔ max (full - now) 0 * 60 / power < 4294967296) := by
  refine ⟨rfl, ?_, ?_, fun t => ?_, fun t => ?_, fun device now full power hgauges => ⟨fun t h => ?_, fun t h => ?_⟩⟩
  · obtain h | ⟨level, status, hlevel, ⟨h, -⟩ | ⟨_, _, _, _, -, h⟩⟩ := battery_cases m
    · simp [h, Battery.missing]
    · rwa [h]
    · rwa [h]
  · cases hempty : m.battery.timeToEmpty with
    | none => exact .inl rfl
    | some t =>
      cases hfull : m.battery.timeToFull with
      | none => exact .inr rfl
      | some t' =>
        have hstatus := (timeToEmpty_eq_some.mp hempty).2.1.symm.trans (timeToFull_eq_some.mp hfull).2.1
        exact absurd hstatus (by decide)
  · simp only [timeToEmpty_eq_some, ← minutes_eq, Int.natCast_inj]
  · have hminutes (now full power : Int) :
        minutes (max (full - now) 0) power = t ↔ max (full - now) 0 * 60 / power % 4294967296 = t := by
      rw [← Int.natCast_inj, minutes_eq, Int.tdiv_eq_ediv_of_nonneg (by omega)]
    simp only [timeToFull_eq_some, hminutes]
  · obtain ⟨-, -, ht⟩ := timeToEmpty_eq_some.mp h
    rw [hgauges.exists_iff (p := fun now _ power => minutes now power = t)] at ht
    rw [← ht]
    exact minutes_exact now hgauges.positive
  · obtain ⟨-, -, ht⟩ := timeToFull_eq_some.mp h
    rw [hgauges.exists_iff (p := fun now full power => minutes (max (full - now) 0) power = t)] at ht
    rw [← ht, minutes_exact _ hgauges.positive]
    exact and_iff_right (by omega)

/-- A machine whose battery is discharging, with less than no energy. -/
def drained : LinuxMachine where
  files := ⟨[(powerSupplyClass ++ ["BAT0", "status"], Text.octets "Discharging\n"),
    (powerSupplyClass ++ ["BAT0", "capacity"], Text.octets "50\n"),
    (powerSupplyClass ++ ["BAT0", "energy_now"], Text.octets "-61\n"),
    (powerSupplyClass ++ ["BAT0", "power_now"], Text.octets "60\n")], []⟩
  entries := []
  programs := []
  info := VirtualMachine.info
  started := []

/-- Minus 61 minutes come out as eight thousand years. -/
theorem negative_energy_lasts :
    drained.battery = ⟨true, 50, "Discharging", some 4294967235, none⟩ ∧
      drained.Gauges (powerSupplyClass ++ ["BAT0"]) (-61) (-61) 60 := by
  have hlist : drained.files.list powerSupplyClass = ["BAT0"] := by
    have hsorted : ["BAT0", "BAT0", "BAT0", "BAT0"].mergeSort = ["BAT0", "BAT0", "BAT0", "BAT0"] :=
      List.mergeSort_of_pairwise (by decide)
    show (["BAT0", "BAT0", "BAT0", "BAT0"].mergeSort).eraseDups = _
    rw [hsorted]
    rfl
  have hdevice : drained.batteryDevice? = some (powerSupplyClass ++ ["BAT0"]) := by
    unfold batteryDevice?
    rw [hlist]
    rfl
  have hfull : drained.readInt (powerSupplyClass ++ ["BAT0", "energy_full"]) =
    .error (.io FileError.notFound.message) := rfl
  refine ⟨?_, hdevice, rfl, .inr ⟨fun n h => ?_, rfl⟩, rfl, by decide⟩
  · unfold battery
    rw [hdevice]
    rfl
  · exact absurd (hfull.symm.trans h) (by simp)

end LinuxMachine

end DeviceAgent
