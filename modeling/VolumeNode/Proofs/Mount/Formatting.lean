import VolumeNode.Mount.ToolBench
import VolumeNode.Proofs.Call.Confinement
import VolumeNode.Proofs.Call.Course
import VolumeNode.Proofs.Text.Ascii

/-!
# When the tools format a device

To make a filesystem over another one destroys it, so it must be clear from which answers of the
tools it follows.

* `Outcome.Exited` is the exit code of a program that ran, `Outcome.Reports` says that its raw
  output holds the bytes of `TYPE=`, whatever stands around them. What `blkid` is taken to mean
  depends on these two alone (`readProbe_eq_true_iff`, `readProbe_eq_false_iff`), although the
  output is read as text first.
* `FormatCourse` lists the courses of attempts that mount a device after formatting it if need be
  (`mountFormatted_course`).
* `FormatsSafely` says which courses there are, and which answers lead to each attempt.
* **`formats_safely`**: that is so for every bench, that is for every way in which tools are
  missing, die or answer; and to stage a volume for reading only nothing but `mount` is attempted.
-/

namespace VolumeNode

/-! ## 1. What an answer says -/

/-- A program ran and exited with this code. -/
def Outcome.Exited (o : Outcome) (code : UInt8) : Prop :=
  ∃ r, o = .ran r ∧ r.ending = .exited code

/-- The bytes of `TYPE=`. -/
def typeBytes : List UInt8 := [0x54, 0x59, 0x50, 0x45, 0x3D]

/-- A program ran, and these bytes are in its output. -/
def Outcome.Reports (o : Outcome) : Prop :=
  ∃ r, o = .ran r ∧ typeBytes <:+: r.output

theorem ToolRun.succeeded_iff {r : ToolRun} : r.succeeded = true ↔ r.ending = .exited 0 := by
  unfold succeeded
  exact beq_iff_eq

theorem Outcome.exited_ran_iff {r : ToolRun} {code : UInt8} :
    (Outcome.ran r).Exited code ↔ r.ending = .exited code := by
  constructor
  · intro ⟨r', hr, hend⟩
    cases hr
    exact hend
  · intro hend
    exact ⟨r, rfl, hend⟩

theorem Outcome.reports_ran_iff {r : ToolRun} :
    (Outcome.ran r).Reports ↔ typeBytes <:+: r.output := by
  constructor
  · intro ⟨r', hr, hin⟩
    cases hr
    exact hin
  · intro hin
    exact ⟨r, rfl, hin⟩

theorem Outcome.not_exited_notStarted {e : SystemError} {code : UInt8} :
    ¬ (Outcome.notStarted e).Exited code := by
  intro ⟨r, hr, _⟩
  cases hr

namespace ToolBench

theorem hasPart_iff {part : List Char} {text : List Char} :
    hasPart part text = true ↔ part <:+: text := by
  induction text with
  | nil =>
    rw [List.infix_nil]
    exact List.isEmpty_iff
  | cons c text ih =>
    show (part.isPrefixOf (c :: text) || hasPart part text) = true ↔ _
    rw [Bool.or_eq_true, List.isPrefixOf_iff_prefix, ih, List.infix_cons_iff]

/-- The text that is read has the mark exactly if the raw bytes have its bytes. -/
theorem hasPart_typeMark_iff (output : List UInt8) :
    hasPart typeMark (Text.decodeLossy output) = true ↔ typeBytes <:+: output := by
  have hascii : ∀ c ∈ typeMark, Text.IsAscii c := by
    unfold Text.IsAscii typeMark
    simp
  have hbytes : Text.encode typeMark = typeBytes := by decide
  rw [hasPart_iff, Text.infix_decodeLossy_iff hascii, hbytes]

theorem demand_eq_ok_iff {program : String} {o : Outcome} :
    demand program o = .ok () ↔ o.Exited 0 := by
  cases o with
  | notStarted e => exact iff_of_false nofun Outcome.not_exited_notStarted
  | ran r =>
    rw [Outcome.exited_ran_iff, ← ToolRun.succeeded_iff]
    unfold demand
    by_cases hok : r.succeeded = true
    · simp [hok]
    · simp [hok]

/-- A device is taken for blank if nothing was found on it, or nothing that was reported names a
    filesystem. -/
theorem readProbe_eq_true_iff {o : Outcome} :
    readProbe o = .ok true ↔ o.Exited blankExit ∨ o.Exited 0 ∧ ¬ o.Reports := by
  cases o with
  | notStarted e =>
    refine iff_of_false nofun ?_
    intro h
    rcases h with h | ⟨h, _⟩
    · exact Outcome.not_exited_notStarted h
    · exact Outcome.not_exited_notStarted h
  | ran r =>
    rw [Outcome.exited_ran_iff, Outcome.exited_ran_iff, Outcome.reports_ran_iff,
      ← ToolRun.succeeded_iff, ← hasPart_typeMark_iff]
    unfold readProbe
    by_cases hblank : r.ending = .exited blankExit
    · simp [hblank]
    · by_cases hok : r.succeeded = true
      · simp [hblank, hok]
      · simp [hblank, hok]

/-- A device is taken to have a filesystem if one was reported. -/
theorem readProbe_eq_false_iff {o : Outcome} :
    readProbe o = .ok false ↔ o.Exited 0 ∧ o.Reports := by
  cases o with
  | notStarted e => exact iff_of_false nofun fun h => Outcome.not_exited_notStarted h.1
  | ran r =>
    rw [Outcome.exited_ran_iff, Outcome.reports_ran_iff, ← ToolRun.succeeded_iff,
      ← hasPart_typeMark_iff]
    unfold readProbe
    by_cases hblank : r.ending = .exited blankExit
    · have hfailed : r.succeeded = false := by
        rw [← Bool.not_eq_true, ToolRun.succeeded_iff, hblank]
        decide
      simp [hblank, hfailed]
    · by_cases hok : r.succeeded = true
      · simp [hblank, hok]
      · simp [hblank, hok]

/-! ## 2. The courses of a mount -/

/-- Asks what is on a device. -/
def probeCommand (source : String) : Command := ⟨"blkid", ["-p", source]⟩

/-- Makes a filesystem on a device, without asking back. -/
def makeCommand (source fsType : String) : Command :=
  ⟨"mkfs." ++ fsType, [if fsType = "xfs" then "-f" else "-F", source]⟩

/-- Mounts a device. -/
def mountCommand (source target fsType : String) (flags : List String) : Command :=
  ⟨"mount", mountArguments source target fsType flags⟩

/-- The courses of attempts that mount a device after formatting it if need be, with their
    results. -/
inductive FormatCourse (source target fsType : String) (flags : List String) :
    List Attempt → Except MountFailure Unit → Prop
  /-- It is not known what is on the device. -/
  | unknown {o : Outcome} {e : MountFailure} (probe : readProbe o = .error e) :
      FormatCourse source target fsType flags [⟨probeCommand source, o⟩] (.error e)
  /-- There is a filesystem on it. -/
  | kept {o o' : Outcome} (probe : readProbe o = .ok false) :
      FormatCourse source target fsType flags
        [⟨probeCommand source, o⟩, ⟨mountCommand source target fsType flags, o'⟩]
        (demand "mount" o')
  /-- No filesystem could be made. -/
  | failed {o o' : Outcome} {e : MountFailure} (probe : readProbe o = .ok true)
      (make : demand ("mkfs." ++ fsType) o' = .error e) :
      FormatCourse source target fsType flags
        [⟨probeCommand source, o⟩, ⟨makeCommand source fsType, o'⟩] (.error e)
  | formatted {o o' o'' : Outcome} (probe : readProbe o = .ok true)
      (make : demand ("mkfs." ++ fsType) o' = .ok ()) :
      FormatCourse source target fsType flags
        [⟨probeCommand source, o⟩, ⟨makeCommand source fsType, o'⟩,
          ⟨mountCommand source target fsType flags, o''⟩]
        (demand "mount" o'')

section Course

variable {b b₁ b₂ : ToolBench} {source target fsType : String} {flags : List String}

theorem mountFormatted_of_unknown {e : MountFailure} (hprobe : b.probe source = (.error e, b₁)) :
    b.mountFormatted source target fsType flags = (.error e, b₁) := by
  unfold mountFormatted
  rw [hprobe]

theorem mountFormatted_of_kept (hprobe : b.probe source = (.ok false, b₁)) :
    b.mountFormatted source target fsType flags = b₁.mount source target fsType flags := by
  unfold mountFormatted
  rw [hprobe]

theorem mountFormatted_of_failed {e : MountFailure} (hprobe : b.probe source = (.ok true, b₁))
    (hmake : b₁.makeFilesystem source fsType = (.error e, b₂)) :
    b.mountFormatted source target fsType flags = (.error e, b₂) := by
  unfold mountFormatted
  rw [hprobe]
  dsimp only
  rw [hmake]

theorem mountFormatted_of_formatted (hprobe : b.probe source = (.ok true, b₁))
    (hmake : b₁.makeFilesystem source fsType = (.ok (), b₂)) :
    b.mountFormatted source target fsType flags = b₂.mount source target fsType flags := by
  unfold mountFormatted
  rw [hprobe]
  dsimp only
  rw [hmake]

variable (b source target fsType flags)

theorem exists_probe :
    ∃ o, (b.probe source).1 = readProbe o ∧
      (b.probe source).2.attempts = b.attempts ++ [⟨probeCommand source, o⟩] :=
  ⟨_, rfl, b.attempts_attempt (probeCommand source)⟩

theorem exists_makeFilesystem :
    ∃ o, (b.makeFilesystem source fsType).1 = demand ("mkfs." ++ fsType) o ∧
      (b.makeFilesystem source fsType).2.attempts =
        b.attempts ++ [⟨makeCommand source fsType, o⟩] :=
  ⟨_, rfl, b.attempts_run _ _⟩

theorem exists_mount :
    ∃ o, (b.mount source target fsType flags).1 = demand "mount" o ∧
      (b.mount source target fsType flags).2.attempts =
        b.attempts ++ [⟨mountCommand source target fsType flags, o⟩] :=
  ⟨_, rfl, b.attempts_run _ _⟩

/-- These are all courses there are. -/
theorem mountFormatted_course :
    ∃ new, (b.mountFormatted source target fsType flags).2.attempts = b.attempts ++ new ∧
      FormatCourse source target fsType flags new
        (b.mountFormatted source target fsType flags).1 := by
  obtain ⟨o, hread, hprobed⟩ := exists_probe b source
  cases hprobe : b.probe source with
  | mk answer b₁ =>
    rw [hprobe] at hread hprobed
    dsimp only at hread hprobed
    cases answer with
    | error e =>
      rw [mountFormatted_of_unknown hprobe]
      exact ⟨_, hprobed, .unknown hread.symm⟩
    | ok blank =>
      cases blank with
      | false =>
        obtain ⟨o', hmount, hmounted⟩ := exists_mount b₁ source target fsType flags
        rw [hprobed, List.append_assoc] at hmounted
        rw [mountFormatted_of_kept hprobe, hmount]
        exact ⟨_, hmounted, .kept hread.symm⟩
      | true =>
        obtain ⟨o', hresult, hmade⟩ := exists_makeFilesystem b₁ source fsType
        cases hmake : b₁.makeFilesystem source fsType with
        | mk result b₂ =>
          rw [hmake] at hresult hmade
          dsimp only at hresult hmade
          rw [hprobed, List.append_assoc] at hmade
          cases result with
          | error e =>
            rw [mountFormatted_of_failed hprobe hmake]
            exact ⟨_, hmade, .failed hread.symm hresult.symm⟩
          | ok u =>
            obtain ⟨o'', hmount, hmounted⟩ := exists_mount b₂ source target fsType flags
            rw [hmade, List.append_assoc] at hmounted
            rw [mountFormatted_of_formatted hprobe hmake, hmount]
            exact ⟨_, hmounted, .formatted hread.symm hresult.symm⟩

end Course

/-! ## 3. What leads to each attempt -/

/-- A command was attempted, with an outcome of this kind. -/
def Attempted (new : List Attempt) (c : Command) (kind : Outcome → Prop) : Prop :=
  ∃ a ∈ new, a.command = c ∧ kind a.outcome

/-- A device was formatted and mounted as safely as can be. -/
structure FormatsSafely (source target fsType : String) (flags : List String) (new : List Attempt)
    (result : Except MountFailure Unit) : Prop where
  /-- The attempts are one of four sequences. -/
  sequence : new.map (·.command) ∈
    [[probeCommand source],
      [probeCommand source, makeCommand source fsType],
      [probeCommand source, makeCommand source fsType, mountCommand source target fsType flags],
      [probeCommand source, mountCommand source target fsType flags]]
  /-- A filesystem is only made where `blkid` found nothing, or reported no type. -/
  make : Attempted new (makeCommand source fsType) (fun _ => True) ↔
    Attempted new (probeCommand source) fun o => o.Exited blankExit ∨ o.Exited 0 ∧ ¬ o.Reports
  /-- A device is only mounted where `blkid` reported a type, or a filesystem was made. -/
  mount : Attempted new (mountCommand source target fsType flags) (fun _ => True) ↔
    Attempted new (probeCommand source) (fun o => o.Exited 0 ∧ o.Reports) ∨
      Attempted new (makeCommand source fsType) (·.Exited 0)
  success : result = .ok () ↔ Attempted new (mountCommand source target fsType flags) (·.Exited 0)

section Attempted

variable {a : Attempt} {new : List Attempt} {c : Command} {kind : Outcome → Prop}

theorem not_attempted_nil : ¬ Attempted [] c kind := by
  intro ⟨a, ha, _⟩
  cases ha

theorem attempted_cons_of_eq (hc : a.command = c) :
    Attempted (a :: new) c kind ↔ kind a.outcome ∨ Attempted new c kind := by
  unfold Attempted
  simp [hc]

theorem attempted_cons_of_ne (hc : a.command ≠ c) :
    Attempted (a :: new) c kind ↔ Attempted new c kind := by
  unfold Attempted
  simp [hc]

end Attempted

/-- The three tools have different names. -/
theorem makeCommand_ne_probeCommand (source fsType : String) :
    makeCommand source fsType ≠ probeCommand source := by
  intro h
  have hnames := congrArg (fun c : Command => c.program.toList.head?) h
  simp [makeCommand, probeCommand] at hnames

theorem makeCommand_ne_mountCommand (source target fsType : String) (flags : List String) :
    makeCommand source fsType ≠ mountCommand source target fsType flags := by
  intro h
  have hnames := congrArg (fun c : Command => c.program.toList.tail.head?) h
  simp [makeCommand, mountCommand] at hnames

theorem mountCommand_ne_probeCommand (source target fsType : String) (flags : List String) :
    mountCommand source target fsType flags ≠ probeCommand source := by
  intro h
  have hnames : "mount" = "blkid" := congrArg Command.program h
  exact absurd hnames (by decide)

/-- **Every course formats and mounts safely.** -/
theorem FormatCourse.safe {source target fsType : String} {flags : List String}
    {new : List Attempt} {result : Except MountFailure Unit}
    (hcourse : FormatCourse source target fsType flags new result) :
    FormatsSafely source target fsType flags new result := by
  have hpk := makeCommand_ne_probeCommand source fsType
  have hkm := makeCommand_ne_mountCommand source target fsType flags
  have hmp := mountCommand_ne_probeCommand source target fsType flags
  cases hcourse with
  | @unknown o e probe =>
    have hblank := mt (readProbe_eq_true_iff (o := o)).2 (by rw [probe]; exact nofun)
    have hfound := mt (readProbe_eq_false_iff (o := o)).2 (by rw [probe]; exact nofun)
    refine ⟨by simp, ?make, ?mount, ?success⟩
    case make =>
      rw [attempted_cons_of_ne hpk.symm, attempted_cons_of_eq rfl]
      simp [hblank, not_attempted_nil]
    case mount =>
      rw [attempted_cons_of_ne hmp.symm, attempted_cons_of_eq rfl, attempted_cons_of_ne hpk.symm]
      simp [hfound, not_attempted_nil]
    case success =>
      rw [attempted_cons_of_ne hmp.symm]
      simp [not_attempted_nil]
  | @kept o o' probe =>
    have hblank := mt (readProbe_eq_true_iff (o := o)).2 (by rw [probe]; exact nofun)
    have hfound := (readProbe_eq_false_iff (o := o)).1 probe
    refine ⟨by simp, ?make, ?mount, ?success⟩
    case make =>
      rw [attempted_cons_of_ne hpk.symm, attempted_cons_of_ne hkm.symm, attempted_cons_of_eq rfl,
        attempted_cons_of_ne hmp]
      simp [hblank, not_attempted_nil]
    case mount =>
      rw [attempted_cons_of_ne hmp.symm, attempted_cons_of_eq rfl, attempted_cons_of_eq rfl]
      simp [hfound]
    case success =>
      rw [attempted_cons_of_ne hmp.symm, attempted_cons_of_eq rfl, demand_eq_ok_iff]
      simp [not_attempted_nil]
  | @failed o o' e probe make =>
    have hblank := (readProbe_eq_true_iff (o := o)).1 probe
    have hfound := mt (readProbe_eq_false_iff (o := o)).2 (by rw [probe]; exact nofun)
    have hmade : ¬ o'.Exited 0 := by
      rw [← demand_eq_ok_iff, make]
      exact nofun
    refine ⟨by simp, ?make, ?mount, ?success⟩
    case make =>
      rw [attempted_cons_of_ne hpk.symm, attempted_cons_of_eq rfl, attempted_cons_of_eq rfl]
      simp [hblank]
    case mount =>
      rw [attempted_cons_of_ne hmp.symm, attempted_cons_of_ne hkm, attempted_cons_of_eq rfl,
        attempted_cons_of_ne hpk, attempted_cons_of_ne hpk.symm, attempted_cons_of_eq rfl]
      simp [hfound, hmade, not_attempted_nil]
    case success =>
      rw [attempted_cons_of_ne hmp.symm, attempted_cons_of_ne hkm]
      simp [not_attempted_nil]
  | @formatted o o' o'' probe make =>
    have hblank := (readProbe_eq_true_iff (o := o)).1 probe
    have hmade := (demand_eq_ok_iff (o := o')).1 make
    refine ⟨by simp, ?make, ?mount, ?success⟩
    case make =>
      rw [attempted_cons_of_ne hpk.symm, attempted_cons_of_eq rfl, attempted_cons_of_eq rfl]
      simp [hblank]
    case mount =>
      rw [attempted_cons_of_ne hmp.symm, attempted_cons_of_ne hkm, attempted_cons_of_eq rfl,
        attempted_cons_of_eq rfl, attempted_cons_of_ne hpk, attempted_cons_of_ne hmp,
        attempted_cons_of_ne hpk.symm, attempted_cons_of_eq rfl]
      simp [hmade]
    case success =>
      rw [attempted_cons_of_ne hmp.symm, attempted_cons_of_ne hkm, attempted_cons_of_eq rfl,
        demand_eq_ok_iff]
      simp [not_attempted_nil]

/-! ## 4. Every bench -/

/-- Actions that look, and plain mounts. -/
def Reads (a : Action) : Prop :=
  a.changesMounts = false ∨ ∃ source target fsType flags, a = .mount source target fsType flags

theorem looks_reads : Handler.Looks Reads := fun _ hmounts _ => .inl hmounts

/-- What was attempted in between. -/
def Added (kind : Attempt → Prop) (w w' : World ToolBench) : Prop :=
  ∃ new, w'.mounts.attempts = w.mounts.attempts ++ new ∧ ∀ a ∈ new, kind a

theorem Added.refl (kind : Attempt → Prop) (w : World ToolBench) : Added kind w w :=
  ⟨[], (List.append_nil _).symm, nofun⟩

theorem Added.trans {kind : Attempt → Prop} {w w' w'' : World ToolBench} (h : Added kind w w')
    (h' : Added kind w' w'') : Added kind w w'' := by
  obtain ⟨new, hnew, hkind⟩ := h
  obtain ⟨new', hnew', hkind'⟩ := h'
  refine ⟨new ++ new', by rw [hnew', hnew, List.append_assoc], fun a ha => ?_⟩
  rcases List.mem_append.1 ha with h | h
  · exact hkind a h
  · exact hkind' a h

/-- Nothing is attempted by what does not mount or unmount. -/
theorem Added.of_unchanged (kind : Attempt → Prop) {a : Action} (ha : a.changesMounts = false)
    (w : World ToolBench) : Added kind w (a.perform system w).2 := by
  have hsame : (a.perform system w).2.mounts = w.mounts :=
    Action.mounts_perform (fun _ _ => rfl) w ha
  exact ⟨[], by rw [hsame, List.append_nil], nofun⟩

/-- Nothing but `mount` is attempted by what only reads. -/
theorem Reads.added {a : Action} (ha : Reads a) (w : World ToolBench) :
    Added (·.command.program = "mount") w (a.perform system w).2 := by
  rcases ha with hlooks | ⟨source, target, fsType, flags, rfl⟩
  · exact Added.of_unchanged _ hlooks w
  · obtain ⟨o, _, hmounted⟩ := exists_mount w.mounts source target fsType flags
    refine ⟨_, hmounted, fun a ha => ?_⟩
    rw [List.mem_singleton.1 ha]
    rfl

/-- **A device is only formatted after `blkid` found no filesystem on it, and only mounted after
    `blkid` found one or one was made**, whatever the tools answer. To stage a volume for reading
    only, `mount` is the only tool. -/
theorem formats_safely :
    (∀ (b : ToolBench) (source target fsType : String) (flags : List String),
      ∃ new, (b.mountFormatted source target fsType flags).2.attempts = b.attempts ++ new ∧
        FormatsSafely source target fsType flags new
          (b.mountFormatted source target fsType flags).1) ∧
    ∀ (naming : DeviceNaming) (r : StageRequest) (c : Capability) (w : World ToolBench),
      r.capability = some c → c.accessMode.readOnly? = some true →
      Added (·.command.program = "mount") w ((Call.stage r).run system naming w).2 := by
  refine ⟨fun b source target fsType flags => ?_, fun naming r c w hc hmode => ?_⟩
  · obtain ⟨new, hadded, hcourse⟩ := mountFormatted_course b source target fsType flags
    exact ⟨new, hadded, hcourse.safe⟩
  · have hconfined : ((Call.stage r).procedure naming).Confined Reads :=
      Handler.confined_stage_of_readOnly looks_reads (fun _ _ _ _ => .inr ⟨_, _, _, _, rfl⟩) hc
        hmode
    exact hconfined.run (Added.refl _) (fun _ _ _ => Added.trans) (fun a w ha => ha.added w) w

/-- Here `blkid` reports a type between bytes that are no text. -/
def garbledBench : ToolBench where
  installed := allTools
  script := [("blkid", [.ran ⟨.exited 0, [0xFF] ++ typeBytes ++ [0xC3, 0x28], []⟩])]
  table := ""
  attempts := []
  metrics := []

/-- The first volume of the small machine, for a single reader. -/
def readerStage : StageRequest := ⟨"a", "/s", some ⟨some (.mount "" []), .singleNodeReaderOnly⟩⟩

/-- A type between ill-formed bytes keeps the device from being formatted, and a volume for reading
    only is mounted at once. -/
theorem formats_safely_garbledBench :
    FormatsSafely "/d/m" "/s" "ext4" []
        (garbledBench.mountFormatted "/d/m" "/s" "ext4" []).2.attempts (.ok ()) ∧
      (garbledBench.mountFormatted "/d/m" "/s" "ext4" []).2.started =
        [probeCommand "/d/m", mountCommand "/d/m" "/s" "ext4" []] ∧
      Added (·.command.program = "mount") ⟨smallTree, fresh ""⟩
        ((Call.stage readerStage).run system smallNaming ⟨smallTree, fresh ""⟩).2 ∧
      ((Call.stage readerStage).run system smallNaming ⟨smallTree, fresh ""⟩).2.mounts.started =
        [mountCommand "/l/xa" "/s" "ext4" ["ro"]] := by
  refine ⟨?_, by decide +kernel, ?_, by decide +kernel⟩
  · obtain ⟨new, hadded, hsafe⟩ := formats_safely.1 garbledBench "/d/m" "/s" "ext4" []
    have hnew : (garbledBench.mountFormatted "/d/m" "/s" "ext4" []).2.attempts = new := hadded
    have hok : (garbledBench.mountFormatted "/d/m" "/s" "ext4" []).1 = .ok () := by
      decide +kernel
    rw [hnew, ← hok]
    exact hsafe
  · exact formats_safely.2 smallNaming readerStage _ ⟨smallTree, fresh ""⟩ rfl rfl

end ToolBench

end VolumeNode
