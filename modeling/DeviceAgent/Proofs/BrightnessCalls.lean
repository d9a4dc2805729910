import DeviceAgent.Proofs.BrightnessReadBack
import DeviceAgent.Proofs.Octets

/-!
# Brightness calls

Reading and setting the brightness go to the same device, the first in the order of octets. Setting it writes one file
of that device, or fails for a reason that is found before anything is written.
-/

namespace DeviceAgent

namespace FileTree

variable {t next : FileTree} {path place : FilePath} {name : String} {bs : List UInt8}

/-! ## Entries -/

lemma isDirectory_iff : t.isDirectory path = true ↔
    path = [] ∨ path ∈ t.directories ∨ ∃ e ∈ t.entries, path <+: e ∧ path.length < e.length := by
  simp [isDirectory, or_assoc]

/-- A path is there if it is that of an entry or on the way to one. -/
lemma exist_iff (hne : path ≠ []) : t.exist path = true ↔ ∃ e ∈ t.entries, path <+: e := by
  have hfile : (t.octets? path).isSome = true ↔ path ∈ t.files.map Prod.fst := by
    rw [octets?, List.lookup_isSome_iff, List.mem_map]
    exact exists_congr fun file => and_congr_right fun _ => beq_iff_eq.trans eq_comm
  rw [exist, Bool.or_eq_true, hfile, isDirectory_iff]
  constructor
  · rintro (h | rfl | h | ⟨e, he, hbegins, -⟩)
    · exact ⟨path, List.mem_append_left _ h, List.prefix_refl path⟩
    · exact (hne rfl).elim
    · exact ⟨path, List.mem_append_right _ h, List.prefix_refl path⟩
    · exact ⟨e, he, hbegins⟩
  · rintro ⟨e, he, hbegins⟩
    obtain hlength | hlength := hbegins.length_le.lt_or_eq
    · exact .inr (.inr (.inr ⟨e, he, hbegins, hlength⟩))
    · obtain rfl := hbegins.eq_of_length hlength
      obtain he | he := List.mem_append.mp he
      · exact .inl he
      · exact .inr (.inr (.inl he))

/-- A name in a directory that a listing shows. -/
def Shows (t : FileTree) (place : FilePath) (name : String) : Prop :=
  name.toList.head? ≠ some '.' ∧ t.exist (place ++ [name]) = true

/-- The first name that a listing shows, octet by octet. -/
structure IsFirst (t : FileTree) (place : FilePath) (name : String) : Prop where
  shown : t.Shows place name
  least : ∀ other, t.Shows place other → Text.octets name ≤ Text.octets other

lemma mem_list_iff_shows : name ∈ t.list place ↔ t.Shows place name := by
  have hnext (e : FilePath) : place.isPrefixOf e = true ∧ e[place.length]? = some name ↔ place ++ [name] <+: e := by
    rw [List.isPrefixOf_iff_prefix]
    constructor
    · rintro ⟨⟨rest, rfl⟩, hname⟩
      obtain ⟨more, rfl⟩ : ∃ more, rest = name :: more := by
        cases rest with
        | nil => simp at hname
        | cons other more => exact ⟨more, by simpa using hname⟩
      exact ⟨more, by simp⟩
    · rintro ⟨more, rfl⟩
      simp
  rw [mem_list, Shows, exist_iff (by simp)]
  simp only [hnext]

lemma head?_list_iff_isFirst : (t.list place).head? = some name ↔ t.IsFirst place name := by
  simp only [head?_list, mem_list_iff_shows, ← Text.octets_le_octets]
  exact ⟨fun ⟨hshown, hleast⟩ => ⟨hshown, hleast⟩, fun h => ⟨h.shown, h.least⟩⟩

lemma IsFirst.unique {other : String} (h : t.IsFirst place name) (h' : t.IsFirst place other) : other = name :=
  Option.some.inj ((head?_list_iff_isFirst.mpr h').symm.trans (head?_list_iff_isFirst.mpr h))

/-- A directory that shows nothing, or one with a first name. -/
lemma shows_cases (t : FileTree) (place : FilePath) :
    t.list place = [] ∧ (∀ name, ¬ t.Shows place name) ∨ ∃ name, t.IsFirst place name := by
  cases hlist : t.list place with
  | nil =>
    refine .inl ⟨rfl, fun name h => ?_⟩
    rw [← mem_list_iff_shows, hlist] at h
    exact List.not_mem_nil h
  | cons name names => exact .inr ⟨name, head?_list_iff_isFirst.mp (by rw [hlist]; rfl)⟩

/-! ## Writing -/

/-- A file is there, or nothing is in the place of one. -/
def IsWritable (t : FileTree) (path : FilePath) : Prop :=
  (t.octets? path).isSome = true ∨ t.isDirectory path = false ∧ t.isBlocked path = false

/-- A file's directory is there. -/
lemma isDirectory_of_octets? (h : t.octets? (place ++ [name]) = some bs) : t.isDirectory place = true := by
  obtain ⟨before, after, hfiles, -⟩ := List.lookup_eq_some_iff.mp h
  exact isDirectory_iff.mpr (.inr (.inr ⟨place ++ [name], by simp [entries, hfiles], List.prefix_append _ _, by simp⟩))

lemma isDirectory_of_prefix (h : t.isDirectory path = true) (hbegins : place <+: path) :
    t.isDirectory place = true := by
  obtain hlength | hlength := hbegins.length_le.lt_or_eq
  · obtain rfl | h | ⟨e, he, hpath, hlt⟩ := isDirectory_iff.mp h
    · simp at hlength
    · exact isDirectory_iff.mpr (.inr (.inr ⟨path, List.mem_append_right _ h, hbegins, hlength⟩))
    · exact isDirectory_iff.mpr (.inr (.inr ⟨e, he, hbegins.trans hpath, hlength.trans hlt⟩))
  · rwa [hbegins.eq_of_length hlength]

/-- A file goes into its directory if it is writable; else a directory or another file is in the way. -/
lemma write_cases (hplace : t.isDirectory path.dropLast = true) (bs : List UInt8) :
    t.IsWritable path ∧ (∃ next, t.write path bs = .ok next) ∨
      ¬ t.IsWritable path ∧
        t.write path bs = .error (if t.isDirectory path = true then .isDirectory else .notDirectory) := by
  unfold IsWritable write
  cases (t.octets? path).isSome <;> cases t.isDirectory path <;> cases t.isBlocked path <;> simp [hplace]

/-- Writing makes no directory and takes none away. -/
lemma isDirectory_write (h : t.write path bs = .ok next) (other : FilePath) :
    next.isDirectory other = t.isDirectory other := by
  have hdirectories : next.directories = t.directories := by
    unfold write at h
    split_ifs at h <;> exact Except.ok.inj h ▸ rfl
  -- The path is new only in a directory that was there, and so was every directory on the way.
  have hway : other <+: path → other.length < path.length → t.isDirectory other = true := by
    intro hbegins hlength
    unfold write at h
    split_ifs at h with hthere hdirectory hblocked hparent
    · obtain ⟨old, hold⟩ := Option.isSome_iff_exists.mp hthere
      obtain ⟨before, after, hfiles, -⟩ := List.lookup_eq_some_iff.mp hold
      exact isDirectory_iff.mpr (.inr (.inr ⟨path, by simp [entries, hfiles], hbegins, hlength⟩))
    · refine isDirectory_of_prefix hparent ?_
      exact List.prefix_of_prefix_length_le hbegins (List.dropLast_prefix path) (by rw [List.length_dropLast]; omega)
  rw [Bool.eq_iff_iff, isDirectory_iff, isDirectory_iff, hdirectories]
  simp only [mem_entries_write h]
  constructor
  · rintro (hroot | hthere | ⟨e, he | rfl, hbegins, hlength⟩)
    · exact .inl hroot
    · exact .inr (.inl hthere)
    · exact .inr (.inr ⟨e, he, hbegins, hlength⟩)
    · exact isDirectory_iff.mp (hway hbegins hlength)
  · rintro (hroot | hthere | ⟨e, he, hbegins, hlength⟩)
    · exact .inl hroot
    · exact .inr (.inl hthere)
    · exact .inr (.inr ⟨e, .inl he, hbegins, hlength⟩)

/-! ## Reading -/

lemma read_eq_ok {s : String} : t.read path = .ok s ↔ t.octets? path = some (Text.octets s) := by
  unfold read
  cases t.octets? path with
  | none =>
    dsimp only
    split_ifs <;> simp
  | some bs =>
    dsimp only
    rw [Option.some.injEq]
    constructor
    · intro h
      split at h
      · next s' hs =>
        obtain rfl := Except.ok.inj h
        exact (Text.octets_of_ofOctets? hs).symm
      · simp at h
    · rintro rfl
      rw [Text.ofOctets?_octets]

/-- A file holds a whole number of 64 bits: its text spells it, blanks around it aside. -/
def HoldsNumber (t : FileTree) (path : FilePath) (n : Int) : Prop :=
  ∃ s : String, t.octets? path = some (Text.octets s) ∧ Text.Spells (Text.trim s.toList) n ∧ Text.inInt64 n = true

end FileTree

namespace LinuxMachine

variable {m next : LinuxMachine} {device : FilePath} {name : String} {e : DeviceError} {full : Int}

lemma readInt_iff_holdsNumber {path : FilePath} {n : Int} : m.readInt path = .ok n ↔ m.files.HoldsNumber path n := by
  rw [readInt_eq_ok]
  constructor
  · rintro ⟨bs, s, hbs, hs, hn⟩
    exact ⟨s, by rw [hbs, Text.octets_of_ofOctets? hs], Text.int64?_eq_some.mp hn⟩
  · rintro ⟨s, hbs, hn⟩
    exact ⟨_, s, hbs, Text.ofOctets?_octets s, Text.int64?_eq_some.mpr hn⟩

lemma backlight_iff_isFirst : m.backlight = .ok (backlightClass ++ [name]) ↔ m.files.IsFirst backlightClass name := by
  rw [backlight_eq_ok, ← FileTree.head?_list_iff_isFirst]
  constructor
  · rintro ⟨other, hother, heq⟩
    obtain rfl : name = other := by simpa using heq
    exact hother
  · exact fun h => ⟨name, h, rfl⟩

/-- The machine differs from another in one file at most, which holds these octets. -/
structure Rewrites (m next : LinuxMachine) (path : FilePath) (bs : List UInt8) : Prop where
  written : next.files.octets? path = some bs
  others : ∀ other, other ≠ path → next.files.octets? other = m.files.octets? other
  directories : ∀ place, next.files.isDirectory place = m.files.isDirectory place
  rest : next = { m with files := next.files }

/-- A device whose brightness can be set, and its full brightness. -/
structure IsSettable (t : FileTree) (device : FilePath) (full : Int) : Prop where
  holds : t.HoldsNumber (device ++ ["max_brightness"]) full
  positive : 0 < full
  writable : t.IsWritable (device ++ ["brightness"])

/-- Why the brightness of a device cannot be set, and the error that says so. -/
inductive SetFault (t : FileTree) (device : FilePath) : DeviceError → Prop
  /-- The file of full brightness is missing, is a directory or is no text. -/
  | unreadable {e : FileError} (h : t.read (device ++ ["max_brightness"]) = .error e) :
    SetFault t device (.io e.message)
  | notNumber {s : String} (h : t.read (device ++ ["max_brightness"]) = .ok s)
      (hn : ∀ n, ¬ t.HoldsNumber (device ++ ["max_brightness"]) n) :
    SetFault t device (.badOutput (pathText (device ++ ["max_brightness"]) ++ ": '" ++ Text.trimmed s ++ "'"))
  | notPositive {full : Int} (h : t.HoldsNumber (device ++ ["max_brightness"]) full) (hfull : full ≤ 0) :
    SetFault t device (.badOutput "max_brightness is zero")
  | unwritable {full : Int} (h : t.HoldsNumber (device ++ ["max_brightness"]) full) (hfull : 0 < full)
      (hw : ¬ t.IsWritable (device ++ ["brightness"])) :
    SetFault t device (.io (if t.isDirectory (device ++ ["brightness"]) = true then FileError.isDirectory
      else .notDirectory).message)

variable {level : Nat}

lemma settable_or_fault (t : FileTree) (device : FilePath) :
    (∃ full, IsSettable t device full) ∨ ∃ e, SetFault t device e := by
  by_cases hnumber : ∃ full, t.HoldsNumber (device ++ ["max_brightness"]) full
  · obtain ⟨full, hfull⟩ := hnumber
    rcases lt_or_ge 0 full with hpos | hle
    · by_cases hw : t.IsWritable (device ++ ["brightness"])
      · exact .inl ⟨full, hfull, hpos, hw⟩
      · exact .inr ⟨_, .unwritable hfull hpos hw⟩
    · exact .inr ⟨_, .notPositive hfull hle⟩
  · cases hread : t.read (device ++ ["max_brightness"]) with
    | error e => exact .inr ⟨_, .unreadable hread⟩
    | ok s => exact .inr ⟨_, .notNumber hread fun n hn => hnumber ⟨n, hn⟩⟩

/-- The directory of a device is there when its full brightness is. -/
lemma isDirectory_of_holdsNumber {t : FileTree} {full : Int} (h : t.HoldsNumber (device ++ ["max_brightness"]) full) :
    t.isDirectory (device ++ ["brightness"]).dropLast = true := by
  obtain ⟨s, hs, -⟩ := h
  rw [List.dropLast_concat]
  exact FileTree.isDirectory_of_octets? hs

lemma setBrightness_of_settable (hdevice : m.backlight = .ok device) (h : IsSettable m.files device full)
    (level : Nat) :
    ∃ next, m.setBrightness level = .ok next ∧
      m.Rewrites next (device ++ ["brightness"]) (Text.octets (toString (rawBrightness full level))) := by
  have hfull : m.fullBrightness device = .ok full :=
    fullBrightness_eq_ok.mpr ⟨readInt_iff_holdsNumber.mpr h.holds, h.positive⟩
  obtain ⟨-, files, hwrite⟩ | ⟨hw, -⟩ := FileTree.write_cases (isDirectory_of_holdsNumber h.holds)
    (Text.octets (toString (rawBrightness full level)))
  · exact ⟨{ m with files := files }, setBrightness_eq_ok.mpr ⟨device, full, files, hdevice, hfull, hwrite, rfl⟩,
      FileTree.octets?_write hwrite, fun _ => FileTree.octets?_write_of_ne hwrite, FileTree.isDirectory_write hwrite,
      rfl⟩
  · exact (hw h.writable).elim

lemma setBrightness_of_fault (hdevice : m.backlight = .ok device) (h : SetFault m.files device e) (level : Nat) :
    m.setBrightness level = .error e := by
  -- All but the last are faults of full brightness, which is read first.
  have hfirst (hfault : m.fullBrightness device = .error e) : m.setBrightness level = .error e := by
    rw [setBrightness, hdevice]
    show m.fullBrightness device >>= _ = _
    rw [hfault]
    rfl
  cases h with
  | unreadable h =>
    apply hfirst
    rw [fullBrightness, readInt, h]
    rfl
  | @notNumber s h hn =>
    apply hfirst
    have hnone : Text.int64? (Text.trim s.toList) = none := by
      rw [Option.eq_none_iff_forall_ne_some]
      intro n hint
      exact hn n ⟨s, FileTree.read_eq_ok.mp h, Text.int64?_eq_some.mp hint⟩
    rw [fullBrightness, readInt, h]
    dsimp only
    rw [hnone]
    rfl
  | notPositive h hle =>
    apply hfirst
    rw [fullBrightness, readInt_iff_holdsNumber.mpr h]
    show (if _ then _ else _) = _
    rw [if_pos hle]
    rfl
  | @unwritable full h hpos hw =>
    have hfull : m.fullBrightness device = .ok full :=
      fullBrightness_eq_ok.mpr ⟨readInt_iff_holdsNumber.mpr h, hpos⟩
    obtain ⟨hw', -⟩ | ⟨-, hwrite⟩ := FileTree.write_cases (isDirectory_of_holdsNumber h)
      (Text.octets (toString (rawBrightness full level)))
    · exact (hw hw').elim
    · simp only [setBrightness, hdevice, hfull, bind, Except.bind, hwrite]
      rfl

/-- Each fault comes with an error of its own. -/
lemma setBrightness_eq_error (hdevice : m.backlight = .ok device) :
    m.setBrightness level = .error e ↔ SetFault m.files device e := by
  refine ⟨fun h => ?_, fun h => setBrightness_of_fault hdevice h level⟩
  obtain ⟨full, hfull⟩ | ⟨e', hfault⟩ := settable_or_fault m.files device
  · obtain ⟨next, hnext, -⟩ := setBrightness_of_settable hdevice hfull level
    simp [hnext] at h
  · obtain rfl := Except.error.inj (h.symm.trans (setBrightness_of_fault hdevice hfault level))
    exact hfault

lemma settable_of_setBrightness (hdevice : m.backlight = .ok device) (h : m.setBrightness level = .ok next) :
    ∃ full, IsSettable m.files device full ∧
      m.Rewrites next (device ++ ["brightness"]) (Text.octets (toString (rawBrightness full level))) := by
  obtain ⟨full, hfull⟩ | ⟨e, hfault⟩ := settable_or_fault m.files device
  · obtain ⟨next', hnext, hrewrites⟩ := setBrightness_of_settable hdevice hfull level
    obtain rfl := Except.ok.inj (h.symm.trans hnext)
    exact ⟨full, hfull, hrewrites⟩
  · simp [setBrightness_of_fault hdevice hfault level] at h

lemma brightness_eq_ok_of_backlight (hdevice : m.backlight = .ok device) {n : Nat} : m.brightness = .ok n ↔
    ∃ current full, m.files.HoldsNumber (device ++ ["brightness"]) current ∧
      m.files.HoldsNumber (device ++ ["max_brightness"]) full ∧ 0 < full ∧
      n = clampLevel ((current * 100).tdiv full) := by
  simp only [brightness_eq_ok, fullBrightness_eq_ok, readInt_iff_holdsNumber, hdevice, Except.ok.injEq, and_assoc]
  constructor
  · rintro ⟨_, current, full, rfl, h⟩
    exact ⟨current, full, h⟩
  · rintro ⟨current, full, h⟩
    exact ⟨device, current, full, rfl, h⟩

lemma perform_of_ok (h : m.setBrightness level = .ok next) : perform (.setBrightness level) m = (.ok (), next) := by
  rw [perform, h]

lemma perform_of_error (h : m.setBrightness level = .error e) :
    perform (.setBrightness level) m = (.error e, m) := by
  rw [perform, h]

/-- Both calls go to the device whose name is the first, octet by octet, and fail without one. Reading the brightness
changes nothing. Setting it works when the full brightness is a positive number and the file can be written: it writes
the raw value there and nothing else. Else it fails, says why and changes nothing. -/
theorem brightness_calls (m : LinuxMachine) (level : Nat) :
    ((∀ name, ¬ m.files.Shows backlightClass name) ∧
      perform .brightness m = (.error (.unavailable "no backlight device"), m) ∧
      perform (.setBrightness level) m = (.error (.unavailable "no backlight device"), m)) ∨
    ∃ name, m.files.IsFirst backlightClass name ∧ (∀ other, m.files.IsFirst backlightClass other → other = name) ∧
      let device := backlightClass ++ [name]
      (perform .brightness m).2 = m ∧
      (∀ n, (perform .brightness m).1 = .ok n ↔ ∃ current full,
        m.files.HoldsNumber (device ++ ["brightness"]) current ∧
          m.files.HoldsNumber (device ++ ["max_brightness"]) full ∧ 0 < full ∧
          n = clampLevel ((current * 100).tdiv full)) ∧
      ((perform (.setBrightness level) m).1 = .ok () ↔ ∃ full, IsSettable m.files device full) ∧
      (∀ next, perform (.setBrightness level) m = (.ok (), next) → ∃ full, IsSettable m.files device full ∧
        m.Rewrites next (device ++ ["brightness"]) (Text.octets (toString (rawBrightness full level)))) ∧
      ∀ e next, perform (.setBrightness level) m = (.error e, next) ↔ SetFault m.files device e ∧ next = m := by
  obtain ⟨hnone, hshows⟩ | ⟨name, hfirst⟩ := m.files.shows_cases backlightClass
  · have hmissing : m.backlight = .error (.unavailable "no backlight device") := by rw [backlight, hnone]
    have hunset : m.setBrightness level = .error (.unavailable "no backlight device") := by
      rw [setBrightness, hmissing]
      rfl
    refine .inl ⟨hshows, ?_, perform_of_error hunset⟩
    show (m.brightness, m) = _
    rw [brightness, hmissing]
    rfl
  · have hdevice := backlight_iff_isFirst.mpr hfirst
    refine .inr ⟨name, hfirst, fun other h => hfirst.unique h, rfl, fun n => brightness_eq_ok_of_backlight hdevice, ?_⟩
    cases hset : m.setBrightness level with
    | ok next =>
      rw [perform_of_ok hset]
      obtain ⟨full, hfull, hrewrites⟩ := settable_of_setBrightness hdevice hset
      refine ⟨iff_of_true rfl ⟨full, hfull⟩, ?_, fun e other => iff_of_false (by simp) ?_⟩
      · rintro other h
        obtain rfl := (Prod.mk.inj h).2
        exact ⟨full, hfull, hrewrites⟩
      · rintro ⟨hfault, -⟩
        simp [(setBrightness_eq_error hdevice).mpr hfault] at hset
    | error e =>
      rw [perform_of_error hset]
      refine ⟨iff_of_false (by simp) ?_, by simp, fun e' other => ?_⟩
      · rintro ⟨full, hfull⟩
        obtain ⟨next, hnext, -⟩ := setBrightness_of_settable hdevice hfull level
        simp [hnext] at hset
      · rw [← setBrightness_eq_error hdevice, hset]
        simp [eq_comm]

theorem brightness_calls_panel :
    (perform .brightness panel).1 = .ok 20 ∧ ∃ next, perform (.setBrightness 40) panel = (.ok (), next) ∧
      panel.Rewrites next ["sys", "class", "backlight", "panel", "brightness"] (Text.octets "600") := by
  have hpanel : panel.files.IsFirst backlightClass "panel" := backlight_iff_isFirst.mp backlight_panel
  have hraw : panel.files.HoldsNumber ["sys", "class", "backlight", "panel", "brightness"] 300 :=
    readInt_iff_holdsNumber.mp rfl
  have hfull : panel.files.HoldsNumber ["sys", "class", "backlight", "panel", "max_brightness"] 1500 :=
    readInt_iff_holdsNumber.mp rfl
  obtain ⟨hnone, -⟩ | ⟨name, hfirst, -, -, hread, hset, hrewrites, -⟩ := brightness_calls panel 40
  · exact (hnone _ hpanel.shown).elim
  · obtain rfl := hfirst.unique hpanel
    have hsettable : IsSettable panel.files (backlightClass ++ ["panel"]) 1500 := ⟨hfull, by decide, .inl rfl⟩
    have hok := hset.mpr ⟨1500, hsettable⟩
    refine ⟨(hread 20).mpr ⟨300, 1500, hraw, hfull, by decide, by decide⟩, _, Prod.ext hok rfl, ?_⟩
    obtain ⟨full, hother, hwritten⟩ := hrewrites _ (Prod.ext hok rfl)
    obtain rfl : 1500 = full := Except.ok.inj
      ((readInt_iff_holdsNumber.mpr hfull).symm.trans (readInt_iff_holdsNumber.mpr hother.holds))
    exact hwritten

end LinuxMachine

end DeviceAgent
