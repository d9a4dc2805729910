import DeviceAgent.Proofs.Levels
import DeviceAgent.Proofs.Numerals

/-!
# Files of device classes

Which name of a directory comes first, what writing a file leaves of the others, and which numbers files hold.
-/

namespace DeviceAgent

namespace FileTree

variable {t next : FileTree} {path place other : FilePath} {name : String} {bs : List UInt8}

/-! ## Names in a directory -/

lemma mem_list : name ∈ t.list path ↔
    name.toList.head? ≠ some '.' ∧ ∃ e ∈ t.entries, path.isPrefixOf e = true ∧ e[path.length]? = some name := by
  simp [list, and_comm]

lemma pairwise_mergeSort (names : List String) : names.mergeSort.Pairwise (· ≤ ·) := by
  let le (a b : String) : Bool := decide (a ≤ b)
  have htrans (a b c : String) (hab : le a b = true) (hbc : le b c = true) : le a c = true :=
    decide_eq_true (String.le_trans (of_decide_eq_true hab) (of_decide_eq_true hbc))
  have htotal (a b : String) : (le a b || le b a) = true := by simpa [le] using String.le_total a b
  exact (List.pairwise_mergeSort htrans htotal names).imp of_decide_eq_true

/-- The first name is the least. -/
lemma head?_list : (t.list path).head? = some name ↔ name ∈ t.list path ∧ ∀ other ∈ t.list path, name ≤ other := by
  have hleast (names : List String) (h : names.Pairwise (· ≤ ·)) :
      names.eraseDups.head? = some name ↔ name ∈ names.eraseDups ∧ ∀ other ∈ names.eraseDups, name ≤ other := by
    simp only [List.mem_eraseDups]
    cases names with
    | nil => simp
    | cons first names =>
      rw [List.eraseDups_cons, List.head?_cons, Option.some.injEq]
      obtain ⟨hfirst, -⟩ := List.pairwise_cons.mp h
      constructor
      · rintro rfl
        refine ⟨List.mem_cons_self, fun other hother => ?_⟩
        obtain rfl | hother := List.mem_cons.mp hother
        · exact String.le_refl other
        · exact hfirst other hother
      · rintro ⟨hname, hle⟩
        obtain rfl | hname := List.mem_cons.mp hname
        · rfl
        · exact String.le_antisymm (hfirst name hname) (hle first List.mem_cons_self)
  exact hleast _ (pairwise_mergeSort _)

/-! ## Writing -/

lemma octets?_write_of_ne (h : t.write path bs = .ok next) (hne : other ≠ path) :
    next.octets? other = t.octets? other := by
  unfold write at h
  split_ifs at h with hthere hdirectory hblocked hparent
  · rw [← Except.ok.inj h]
    unfold octets?
    dsimp only
    induction t.files with
    | nil => rfl
    | cons file files ih =>
      obtain ⟨p, old⟩ := file
      rw [List.map_cons, List.lookup_cons, List.lookup_cons, ih]
      by_cases hp : other = p
      · subst hp
        simp [hne]
      · rw [beq_false_of_ne hp]
  · rw [← Except.ok.inj h]
    show (t.files ++ [(path, bs)]).lookup other = t.files.lookup other
    simp [List.lookup_append, List.lookup_cons, beq_false_of_ne hne]

lemma mem_entries_write (h : t.write path bs = .ok next) {e : FilePath} :
    e ∈ next.entries ↔ e ∈ t.entries ∨ e = path := by
  unfold write at h
  split_ifs at h with hthere hdirectory hblocked hparent
  · have hpath : path ∈ t.entries := by
      obtain ⟨old, hold⟩ := Option.isSome_iff_exists.mp hthere
      obtain ⟨before, after, hfiles, -⟩ := List.lookup_eq_some_iff.mp hold
      simp [entries, hfiles]
    have hsame : next.entries = t.entries := by
      rw [← Except.ok.inj h]
      simp [entries, Function.comp_def]
    rw [hsame]
    exact ⟨.inl, fun he => he.elim id (· ▸ hpath)⟩
  · rw [← Except.ok.inj h]
    simp only [entries, List.map_append, List.map_cons, List.map_nil, List.mem_append, List.mem_singleton]
    tauto

/-- Writing below a name that is there adds no name. -/
lemma list_write {rest : FilePath} (h : t.write (place ++ name :: rest) bs = .ok next) (hname : name ∈ t.list place)
    (k : String) : k ∈ next.list place ↔ k ∈ t.list place := by
  constructor
  · intro hk
    obtain ⟨hshown, e, he, hprefix, hget⟩ := mem_list.mp hk
    obtain he | rfl := (mem_entries_write h).mp he
    · exact mem_list.mpr ⟨hshown, e, he, hprefix, hget⟩
    · obtain rfl : name = k := by simpa using hget
      exact hname
  · intro hk
    obtain ⟨hshown, e, he, hprefix, hget⟩ := mem_list.mp hk
    exact mem_list.mpr ⟨hshown, e, (mem_entries_write h).mpr (.inl he), hprefix, hget⟩

lemma head?_list_write {rest : FilePath} (h : t.write (place ++ name :: rest) bs = .ok next)
    (hname : (t.list place).head? = some name) : (next.list place).head? = some name := by
  obtain ⟨hmem, hle⟩ := head?_list.mp hname
  exact head?_list.mpr ⟨(list_write h hmem name).mpr hmem, fun k hk => hle k ((list_write h hmem k).mp hk)⟩

end FileTree

namespace LinuxMachine

variable {m next : LinuxMachine}

/-! ## Numbers in files -/

/-- A file holds a number if its octets are a text that is one, blanks around it aside. -/
lemma readInt_eq_ok {path : FilePath} {n : Int} : m.readInt path = .ok n ↔
    ∃ bs s, m.files.octets? path = some bs ∧ Text.ofOctets? bs = some s ∧
      Text.int64? (Text.trim s.toList) = some n := by
  rw [readInt, FileTree.read]
  cases hbs : m.files.octets? path with
  | none =>
    dsimp only
    split_ifs <;> simp
  | some bs =>
    dsimp only
    cases hs : Text.ofOctets? bs with
    | none => simp [hs]
    | some s =>
      dsimp only
      cases hn : Text.int64? (Text.trim s.toList) <;> simp [hs, hn]

lemma inInt64_of_readInt {path : FilePath} {n : Int} (h : m.readInt path = .ok n) : Text.inInt64 n = true := by
  obtain ⟨bs, s, -, -, hn⟩ := readInt_eq_ok.mp h
  exact (Text.int64?_eq_some.mp hn).2

/-- The text of a number is read back as that number. -/
lemma readInt_toString {path : FilePath} {n : Int} (hn : Text.inInt64 n = true)
    (h : m.files.octets? path = some (Text.octets (toString n))) : m.readInt path = .ok n := by
  have hspells := Text.spells_toString n
  refine readInt_eq_ok.mpr ⟨_, _, h, Text.ofOctets?_octets _, ?_⟩
  rw [hspells.trim_eq]
  exact Text.int64?_eq_some.mpr ⟨hspells, hn⟩

lemma readInt_write {path other : FilePath} {bs : List UInt8} (h : m.files.write path bs = .ok next.files)
    (hne : other ≠ path) {n : Int} (hn : m.readInt other = .ok n) : next.readInt other = .ok n := by
  obtain ⟨old, s, hold, hs, hint⟩ := readInt_eq_ok.mp hn
  exact readInt_eq_ok.mpr ⟨old, s, by rw [FileTree.octets?_write_of_ne h hne, hold], hs, hint⟩

/-! ## The backlight -/

lemma backlight_eq_ok {device : FilePath} : m.backlight = .ok device ↔
    ∃ name, (m.files.list backlightClass).head? = some name ∧ device = backlightClass ++ [name] := by
  unfold backlight
  split
  · next name names hlist => simp [hlist, eq_comm]
  · next hlist => simp [hlist]

lemma fullBrightness_eq_ok {device : FilePath} {full : Int} :
    m.fullBrightness device = .ok full ↔ m.readInt (device ++ ["max_brightness"]) = .ok full ∧ 0 < full := by
  refine ⟨fullBrightness_ok, fun ⟨hread, hpos⟩ => ?_⟩
  rw [fullBrightness, hread]
  show (if full ≤ 0 then _ else _) = _
  rw [if_neg (Int.not_le.mpr hpos)]
  rfl

/-- Setting a level writes the raw value into the first device, and nothing else. -/
lemma setBrightness_eq_ok {level : Nat} : m.setBrightness level = .ok next ↔
    ∃ device full files, m.backlight = .ok device ∧ m.fullBrightness device = .ok full ∧
      m.files.write (device ++ ["brightness"]) (Text.octets (toString (rawBrightness full level))) = .ok files ∧
      next = { m with files := files } := by
  constructor
  · intro h
    obtain ⟨device, hdevice, h⟩ := exists_of_bind_eq_ok h
    obtain ⟨full, hfull, h⟩ := exists_of_bind_eq_ok h
    split at h
    · next files hwrite => exact ⟨device, full, files, hdevice, hfull, hwrite, (Except.ok.inj h).symm⟩
    · simp [throw, throwThe, MonadExceptOf.throw] at h
  · rintro ⟨device, full, files, hdevice, hfull, hwrite, rfl⟩
    simp only [setBrightness, hdevice, hfull, bind, Except.bind, hwrite]
    rfl

/-- The level that is read is what the raw value is of full brightness, in percent and rounded down. -/
lemma brightness_eq_ok {n : Nat} : m.brightness = .ok n ↔
    ∃ device current full, m.backlight = .ok device ∧ m.readInt (device ++ ["brightness"]) = .ok current ∧
      m.fullBrightness device = .ok full ∧ n = clampLevel ((current * 100).tdiv full) := by
  constructor
  · intro h
    obtain ⟨device, hdevice, h⟩ := exists_of_bind_eq_ok h
    obtain ⟨current, hcurrent, h⟩ := exists_of_bind_eq_ok h
    obtain ⟨full, hfull, h⟩ := exists_of_bind_eq_ok h
    exact ⟨device, current, full, hdevice, hcurrent, hfull, (Except.ok.inj h).symm⟩
  · rintro ⟨device, current, full, hdevice, hcurrent, hfull, rfl⟩
    rw [brightness, hdevice]
    show (m.readInt (device ++ ["brightness"]) >>= _) = _
    rw [hcurrent]
    show (m.fullBrightness device >>= _) = _
    rw [hfull]
    rfl

end LinuxMachine

end DeviceAgent
