import DeviceAgent.Device.Virtual
import DeviceAgent.Proofs.PowerGate

/-!
# Launching

Which programs are started to launch an application. The name that is asked for is checked; the desktop entry that is
found for it is launched as it is.
-/

namespace DeviceAgent

namespace LinuxMachine

/-- A name under which an application is looked for. -/
structure Admits (name : String) : Prop where
  nonempty : name.isEmpty = false
  noSlash : '/' ∉ name.toList
  noPowerCommand : isPowerCommand name = false

/-- The machine after it started these programs too. -/
def ran (m : LinuxMachine) (runs : List (List String)) : LinuxMachine :=
  { m with started := m.started ++ runs }

/-- What is started for a desktop entry, if that starts. -/
def entryRuns (m : LinuxMachine) (entry : String) : List (List String) :=
  if m.startError? "gtk-launch" [entry] = none then [["gtk-launch", entry]] else []

/-- The first desktop entry whose name holds a name, in lower case. -/
def found? (m : LinuxMachine) (name : String) : Option String :=
  m.listApps.find? fun entry => Text.occursIn (Text.lower name.toList) (Text.lower entry.toList)

/-- A desktop entry is found for a name if it is the first that holds the name and nothing of that very name is there:
neither a program that starts nor an entry that is launched. -/
structure Finds (m : LinuxMachine) (name entry : String) : Prop where
  admitted : Admits name
  noProgram : m.startError? name [] ≠ none
  noEntry : (m.call "gtk-launch" [name]).1 ≠ .ok ()
  first : m.found? name = some entry

variable {m : LinuxMachine}

@[simp] lemma ran_nil (m : LinuxMachine) : m.ran [] = m := by simp [ran]

@[simp] lemma ran_ran (m : LinuxMachine) (runs more : List (List String)) :
    (m.ran runs).ran more = m.ran (runs ++ more) := by
  simp [ran, List.append_assoc]

lemma mem_entryRuns {run : List String} {entry : String} :
    run ∈ m.entryRuns entry ↔ run = ["gtk-launch", entry] ∧ m.startError? "gtk-launch" [entry] = none := by
  unfold entryRuns
  split <;> simp_all

/-! ## One program -/

lemma exists_of_startError? {program : String} {args : List String} (h : m.startError? program args = none) :
    ∃ p, m.programs.find? (·.name == program) = some p := by
  unfold startError? at h
  split at h
  · simp at h
  split at h
  · next hthere =>
    obtain ⟨p, hp, hname⟩ := List.any_eq_true.mp hthere
    exact Option.isSome_iff_exists.mp (List.find?_isSome.mpr ⟨p, hp, hname⟩)
  · simp at h

lemma capture_snd (m : LinuxMachine) (program : String) (args : List String) :
    (m.capture program args).2 = m.ran (if m.startError? program args = none then [program :: args] else []) := by
  unfold capture
  cases hstart : m.startError? program args with
  | some e => simp
  | none =>
    obtain ⟨p, hp⟩ := exists_of_startError? hstart
    rw [hp]
    dsimp only
    split <;> rfl

lemma call_gtkLaunch (m : LinuxMachine) (entry : String) :
    (m.call "gtk-launch" [entry]).2 = m.ran (m.entryRuns entry) := capture_snd m "gtk-launch" [entry]

/-! ## One application -/

variable {app name : String}

lemma launch_of_not_admits (hname : Text.trimmed app = name) (h : ¬ Admits name) : (m.launch app).2 = m := by
  unfold launch
  rw [hname]
  dsimp only
  split
  · rfl
  · next hshape =>
    obtain ⟨hempty, hslash⟩ := Bool.or_eq_false_iff.mp (Bool.eq_false_iff.mpr hshape)
    split
    · rfl
    · next hpower => exact (h ⟨hempty, by simpa using hslash, Bool.eq_false_iff.mpr hpower⟩).elim

lemma launch_of_program (hname : Text.trimmed app = name) (h : Admits name) (hstart : m.startError? name [] = none) :
    (m.launch app).2 = m.ran [[name]] := by
  unfold launch
  rw [hname]
  simp [h.nonempty, h.noSlash, h.noPowerCommand, spawn, hstart, ran]

lemma launch_of_entry (hname : Text.trimmed app = name) (h : Admits name) (hstart : m.startError? name [] ≠ none)
    (hentry : (m.call "gtk-launch" [name]).1 = .ok ()) : (m.launch app).2 = m.ran (m.entryRuns name) := by
  obtain ⟨e, he⟩ := Option.ne_none_iff_exists'.mp hstart
  rcases hresult : m.call "gtk-launch" [name] with ⟨e | ⟨⟩, next⟩
  · simp [hresult] at hentry
  · unfold launch
    rw [hname, ← call_gtkLaunch]
    simp [h.nonempty, h.noSlash, h.noPowerCommand, spawn, he, hresult]

lemma launch_of_no_entry (hname : Text.trimmed app = name) (h : Admits name) (hstart : m.startError? name [] ≠ none)
    (hentry : (m.call "gtk-launch" [name]).1 ≠ .ok ()) :
    (m.launch app).2 = m.ran (m.entryRuns name ++ (m.found? name).elim [] m.entryRuns) := by
  obtain ⟨e, he⟩ := Option.ne_none_iff_exists'.mp hstart
  have hcall := call_gtkLaunch m name
  rcases hresult : m.call "gtk-launch" [name] with ⟨e | ⟨⟩, next⟩
  · rw [hresult] at hcall
    obtain rfl : next = m.ran (m.entryRuns name) := hcall
    -- What was started has no part in which applications are listed.
    have hsame : (m.ran (m.entryRuns name)).found? name = m.found? name := rfl
    unfold launch
    rw [hname]
    cases hfound : m.found? name with
    | none =>
      rw [hfound, found?] at hsame
      simp [h.nonempty, h.noSlash, h.noPowerCommand, spawn, he, hresult, hsame]
    | some entry =>
      rw [hfound, found?] at hsame
      have hruns : (m.ran (m.entryRuns name)).entryRuns entry = m.entryRuns entry := rfl
      simp [h.nonempty, h.noSlash, h.noPowerCommand, spawn, he, hresult, hsame, call_gtkLaunch, hruns]
  · exact (hentry (by rw [hresult])).elim

/-- What is started: for an admitted name the program of that name, or else the entry of that name, and the entry that
is found. -/
lemma launch_snd (hname : Text.trimmed app = name) (m : LinuxMachine) :
    ∃ runs, (m.launch app).2 = m.ran runs ∧ ∀ run, run ∈ runs ↔
      (Admits name ∧ m.startError? name [] = none ∧ run = [name]) ∨
      (Admits name ∧ m.startError? name [] ≠ none ∧ run ∈ m.entryRuns name) ∨
      ∃ entry, m.Finds name entry ∧ run ∈ m.entryRuns entry := by
  obtain hadmits | hadmits := (Classical.em (Admits name)).symm
  · refine ⟨[], by rw [launch_of_not_admits hname hadmits, ran_nil], fun run => ?_⟩
    simpa [hadmits] using fun entry (h : m.Finds name entry) => (hadmits h.admitted).elim
  by_cases hstart : m.startError? name [] = none
  · refine ⟨[[name]], launch_of_program hname hadmits hstart, fun run => ?_⟩
    simpa [hadmits, hstart] using fun entry (h : m.Finds name entry) => (h.noProgram hstart).elim
  by_cases hentry : (m.call "gtk-launch" [name]).1 = .ok ()
  · refine ⟨_, launch_of_entry hname hadmits hstart hentry, fun run => ?_⟩
    simpa [hadmits, hstart] using fun entry (h : m.Finds name entry) => (h.noEntry hentry).elim
  · refine ⟨_, launch_of_no_entry hname hadmits hstart hentry, fun run => ?_⟩
    cases hfound : m.found? name with
    | none =>
      have hfinds (entry : String) : ¬ m.Finds name entry := fun h => by simpa [hfound] using h.first
      simp [hadmits, hstart, hfinds]
    | some entry =>
      have hfinds (e : String) : m.Finds name e ↔ entry = e :=
        ⟨fun h => Option.some.inj (hfound.symm.trans h.first), fun h => ⟨hadmits, hstart, hentry, h ▸ hfound⟩⟩
      simp [hadmits, hstart, hfinds]

/-- Launching starts programs that are no power commands, and only for a name that is none. The name of a power command
is handed on in one case: a desktop entry of that name is found for another name. -/
theorem launch_guarded (m : LinuxMachine) (app : String) :
    let name := Text.trimmed app
    ∃ runs, (m.launch app).2 = m.ran runs ∧ (runs ≠ [] → Admits name) ∧
      (∀ run ∈ runs, run = [name] ∨ ∃ entry, run = ["gtk-launch", entry]) ∧
      (∀ program args, program :: args ∈ runs → isPowerCommand program = false) ∧
      ∀ entry, isPowerCommand entry = true →
        (["gtk-launch", entry] ∈ runs ↔ m.Finds name entry ∧ m.startError? "gtk-launch" [entry] = none) := by
  intro name
  obtain ⟨runs, hm, hruns⟩ := launch_snd (rfl : Text.trimmed app = name) m
  have hadmits {run : List String} (h : run ∈ runs) : Admits name := by
    obtain h | h | ⟨entry, h, -⟩ := (hruns run).mp h
    · exact h.1
    · exact h.1
    · exact h.admitted
  have hshape {run : List String} (h : run ∈ runs) : run = [name] ∨ ∃ entry, run = ["gtk-launch", entry] := by
    obtain ⟨-, -, h⟩ | ⟨-, -, h⟩ | ⟨entry, -, h⟩ := (hruns run).mp h
    · exact .inl h
    · exact .inr ⟨name, (mem_entryRuns.mp h).1⟩
    · exact .inr ⟨entry, (mem_entryRuns.mp h).1⟩
  refine ⟨runs, hm, fun h => ?_, fun run => hshape, fun program args h => ?_, fun entry hpower => ⟨fun h => ?_, ?_⟩⟩
  · obtain ⟨run, rest, rfl⟩ := List.exists_cons_of_ne_nil h
    exact hadmits List.mem_cons_self
  · obtain hrun | ⟨entry, hrun⟩ := hshape h
    · rw [(List.cons.inj hrun).1]
      exact (hadmits h).noPowerCommand
    · rw [(List.cons.inj hrun).1]
      decide
  · have hname : name ≠ entry := by
      rintro rfl
      rw [(hadmits h).noPowerCommand] at hpower
      exact Bool.noConfusion hpower
    obtain ⟨-, -, h⟩ | ⟨-, -, h⟩ | ⟨entry', hfinds, h⟩ := (hruns _).mp h
    · simp at h
    · exact (hname (by simpa using (mem_entryRuns.mp h).1.symm)).elim
    · obtain ⟨hrun, hstart⟩ := mem_entryRuns.mp h
      obtain rfl : entry = entry' := by simpa using hrun
      exact ⟨hfinds, hstart⟩
  · rintro ⟨hfinds, hstart⟩
    exact (hruns _).mpr (.inr (.inr ⟨entry, hfinds, mem_entryRuns.mpr ⟨rfl, hstart⟩⟩))

/-- A machine with an entry that is named like a power command, and no program but the one that launches entries. -/
def shutdownDesktop : LinuxMachine where
  files := ⟨[], []⟩
  entries := ["shutdown.desktop"]
  programs := [⟨"gtk-launch", ⟨[], 1⟩, [("shutdown", ⟨[], 0⟩)]⟩]
  info := VirtualMachine.info
  started := []

/-- The entry for the shutdown is found for a part of its name, and launched. -/
theorem found_entry_unchecked :
    isPowerCommand "shut" = false ∧ isPowerCommand "shutdown" = true ∧
      shutdownDesktop.launch "shut" =
        (.ok (), shutdownDesktop.ran [["gtk-launch", "shut"], ["gtk-launch", "shutdown"]]) := by
  refine ⟨by decide, by decide, ?_⟩
  have happs : shutdownDesktop.listApps = ["shutdown"] := by
    have hsorted : ["shutdown.desktop"].mergeSort = ["shutdown.desktop"] := List.mergeSort_singleton _
    show ((["shutdown.desktop"].mergeSort).filterMap _).eraseReps = _
    rw [hsorted]
    decide +kernel
  have hname : Text.trimmed "shut" = "shut" := by decide +kernel
  have hspawn : shutdownDesktop.spawn "shut" = (false, shutdownDesktop) := by rfl
  have hshut : shutdownDesktop.call "gtk-launch" ["shut"] =
    (.error (.commandFailed "gtk-launch exited with exit status: 1"),
      shutdownDesktop.ran [["gtk-launch", "shut"]]) := by rfl
  have hshutdown : (shutdownDesktop.ran [["gtk-launch", "shut"]]).call "gtk-launch" ["shutdown"] =
    (.ok (), shutdownDesktop.ran [["gtk-launch", "shut"], ["gtk-launch", "shutdown"]]) := by rfl
  have hfound : (shutdownDesktop.ran [["gtk-launch", "shut"]]).found? "shut" = some "shutdown" := by
    show shutdownDesktop.listApps.find? _ = _
    rw [happs]
    decide +kernel
  rw [found?] at hfound
  unfold launch
  rw [hname]
  dsimp only
  rw [if_neg (by decide), if_neg (by decide), hspawn]
  dsimp only
  rw [hshut]
  dsimp only
  rw [hfound]
  exact hshutdown

end LinuxMachine

end DeviceAgent
